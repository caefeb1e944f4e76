import WizPay.Intents.Digest
import WizPay.Payroll.Verifier

/-!
# Planned payrolls

The calldata of a plan is decoded to the recipients and the amounts of the intent.
-/
namespace WizPay.Payroll

open Checks GoText GoTime Contracts Contracts.Payroll Intents

section Executable

variable {p : PayrollParameters}

theorem sameToken_of_executable (executable : p.sameTokenExecutable = true) : p.crossToken = none ∧ p.recipients ≠ [] := by
  obtain ⟨⟨⟩, valid⟩ := exists_ok_of_isOk executable
  simp only [PayrollParameters.validateSameToken, checks_ok, Bool.not_eq_true, Option.isSome_eq_false_iff,
    Option.isNone_iff_eq_none, PayrollParameters.validatePhase12] at valid
  obtain ⟨none, ⟨-, -, -, some, -⟩, -⟩ := valid
  exact ⟨none, by simpa using some⟩

theorem canonical_of_executable (executable : p.sameTokenExecutable = true) :
    canonicalPayrollToken p.tokenIn = true ∧ p.validatePhase12 = .ok () ∧ p.schemaVersion = financialSchemaPhase12 := by
  obtain ⟨⟨⟩, valid⟩ := exists_ok_of_isOk executable
  simp only [PayrollParameters.validateSameToken, checks_ok, Bool.not_eq_false] at valid
  obtain ⟨-, phase12, -, -, canonical, -⟩ := valid
  have version := phase12
  simp only [PayrollParameters.validatePhase12, checks_ok, not_not] at version
  exact ⟨canonical, phase12, version.1⟩

theorem validate_of_sameToken (executable : p.sameTokenExecutable = true) :
    p.validate = .ok () ∧ p.isPhase12 = true ∧ p.sourceToken = p.tokenIn := by
  obtain ⟨canonical, phase12, version⟩ := canonical_of_executable executable
  have current : p.isPhase12 = true := by simp [PayrollParameters.isPhase12, version]
  have given : p.tokenIn.isZero = false := by
    simp only [canonicalPayrollToken, Bool.and_eq_true, decide_eq_true_eq] at canonical
    simp [Token.isZero, canonical.1.1.1, chainIDArcMainnet]
  refine ⟨?_, current, ?_⟩
  · simp only [PayrollParameters.validate, current, (sameToken_of_executable executable).1]
    exact phase12
  · simp [PayrollParameters.sourceToken, current, given]

theorem crossToken_of_executable (executable : p.crossTokenExecutable = true) : ∃ crossToken, p.crossToken = some crossToken := by
  obtain ⟨⟨⟩, valid⟩ := exists_ok_of_isOk executable
  unfold PayrollParameters.validateCrossToken PayrollParameters.validateCrossTokenTimeline at valid
  split at valid
  next => cases valid
  next crossToken given => exact ⟨crossToken, given⟩

end Executable

/-! ### The binding of calldata -/

theorem respelled_self {value : String} (valid : validAddress value = true) :
    addressesEqual (checksumAddress value) value = true := by
  rw [addressesEqual_respelled valid]
  exact addressesEqual_self valid

/-- Respelled recipients with the amounts of their lines match them. -/
theorem linesMatch_respelled {recipients : List Recipient} {amount : Recipient → Amount} {amounts : List Int}
    (valid : ∀ r ∈ recipients, validAddress r.address = true)
    (read : amounts.map some = recipients.map fun r => baseOf (amount r)) :
    linesMatch ((recipients.map fun r => r.address).map checksumAddress) amounts
      (recipients.map fun r => (r.address, (baseOf (amount r)).getD 0)) = true := by
  induction recipients generalizing amounts with
  | nil =>
    obtain rfl := List.map_eq_nil_iff.mp read
    rfl
  | cons r rest ih =>
    obtain ⟨value, others, rfl, first, remaining⟩ := List.map_eq_cons_iff.mp read
    have amountRead : baseOf (amount r) = some value := first.symm
    simp only [List.map_cons, linesMatch, Bool.and_eq_true, decide_eq_true_eq, amountRead]
    exact ⟨⟨respelled_self (valid r (.head _)), rfl⟩,
      ih (fun r member => valid r (.tail _ member)) remaining⟩

theorem decode_sameToken {registry : Option Registry} {p : PayrollParameters} {call : EncodedCall}
    (encoded : encodeSameTokenPayroll registry (sameTokenInput p) = .ok call) :
    ∃ decoded, decodeSameTokenPayrollCall call.callData = .ok decoded ∧ bindsSameToken p decoded = true := by
  obtain ⟨checked, -⟩ := encode_callData encoded
  simp only [validateSameToken, checks_ok, Bool.not_eq_false] at checked
  obtain ⟨token, batch⟩ := checked
  obtain ⟨-, -, -, -, -, -, valid, -⟩ := validateBatch_eq_ok.mp batch
  obtain ⟨⟨token', recipients, amounts, referenceID⟩, decoded, same⟩ := sameToken_inverse.decodes _ _ _ encoded
  refine ⟨_, decoded, ?_⟩
  simp only [DecodedSameTokenPayroll.input, SameTokenPayrollInput.respelled, sameTokenInput,
    SameTokenPayrollInput.mk.injEq] at same
  obtain ⟨isToken, isRecipients, read, isReference⟩ := same
  have address : validAddress p.tokenIn.address = true := (canonicalToken_respelled token).1
  simp only [bindsSameToken, isToken, isRecipients, isReference, respelled_self address, decide_true, Bool.and_true,
    Bool.true_and]
  exact linesMatch_respelled (fun r member => (valid r.address (List.mem_map_of_mem member)).1) read

theorem decode_crossToken {registry : Option Registry} {p : PayrollParameters} {crossToken : CrossTokenPayrollParameters}
    {call : EncodedCall} (encoded : encodeCrossTokenPayroll registry (crossTokenInput p crossToken) = .ok call) :
    ∃ decoded, decodeCrossTokenPayrollCall call.callData = .ok decoded ∧ bindsCrossToken p crossToken decoded = true := by
  obtain ⟨checked, -⟩ := encode_callData encoded
  simp only [validateCrossToken, checks_ok, Bool.not_eq_false] at checked
  obtain ⟨pair, batch, -⟩ := checked
  obtain ⟨validIn, validOut, -⟩ := canonicalPair_respelled pair
  obtain ⟨-, -, -, -, -, -, valid, -⟩ := validateBatch_eq_ok.mp batch
  obtain ⟨⟨tokenIn, tokenOut, recipients, amounts, gross, minimum, price, deadline, referenceID⟩, decoded, same⟩ :=
    crossToken_inverse.decodes _ _ _ encoded
  refine ⟨_, decoded, ?_⟩
  simp only [DecodedCrossTokenPayroll.input, CrossTokenPayrollInput.respelled, crossTokenInput,
    CrossTokenPayrollInput.mk.injEq, Option.some.injEq] at same
  obtain ⟨isIn, isOut, isRecipients, read, isGross, isMinimum, isPrice, isDeadline, isReference⟩ := same
  have equalIn : addressesEqual (checksumAddress p.tokenIn.address) p.tokenIn.address = true := respelled_self validIn
  have equalOut : addressesEqual (checksumAddress (outputToken p)) (outputToken p) = true := respelled_self validOut
  simp only [bindsCrossToken, isIn, isOut, isRecipients, isReference, equalIn, equalOut, isGross, isMinimum, isPrice, isDeadline, decide_true, Bool.and_true,
    Bool.true_and]
  exact linesMatch_respelled (fun r member => (valid r.address (List.mem_map_of_mem member)).1) read

section Plan

variable {registry : Option Registry} {intent : Intent} {sealed : Plan}

/-- A plan is the call of one of the two shapes. -/
theorem plan_cases (planned : plan registry intent = .ok sealed) :
    ∃ p call, intent.params.financial.payroll = some p ∧ sealed = newPlan intent call ∧
      intent.params.ownership.chainID = chainIDArcMainnet ∧
      ((p.sameTokenExecutable = true ∧ encodeSameTokenPayroll registry (sameTokenInput p) = .ok call) ∨
        ∃ crossToken, p.crossToken = some crossToken ∧ p.sameTokenExecutable = false ∧ p.crossTokenExecutable = true ∧
          encodeCrossTokenPayroll registry (crossTokenInput p crossToken) = .ok call) := by
  simp only [plan, guard_ok] at planned
  obtain ⟨-, -, -, planned⟩ := planned
  split at planned
  next => cases planned
  next p given =>
    obtain ⟨bound, planned⟩ := guard_ok.mp planned
    simp only [validateBinding, checks_ok, not_not] at bound
    have chain := bound.2.2.2.2.1
    split at planned
    next same =>
      obtain ⟨-, planned⟩ := guard_ok.mp planned
      obtain ⟨call, encoded, planned⟩ := bind_ok.mp planned
      rw [pure_ok] at planned
      exact ⟨p, call, given, planned.symm, chain, .inl ⟨same, mapError_ok.mp encoded⟩⟩
    next other =>
      obtain ⟨executable, planned⟩ := guard_ok.mp planned
      rw [mapError_ok] at executable
      split at planned
      next => cases planned
      next crossToken material =>
        obtain ⟨call, encoded, planned⟩ := bind_ok.mp planned
        rw [pure_ok] at planned
        refine ⟨p, call, given, planned.symm, chain, .inr ⟨crossToken, material, by simpa using other, ?_, mapError_ok.mp encoded⟩⟩
        rw [PayrollParameters.crossTokenExecutable, executable]
        rfl

/-- A call of the registered deployment passes the checks on a plan that come before its calldata. -/
theorem validatePlan_eq_ok {p : PayrollParameters} {deployment : Deployment} {signature : String} {data : List UInt8}
    (given : intent.params.financial.payroll = some p) (chain : intent.params.ownership.chainID = chainIDArcMainnet)
    (wallet : validAddress intent.params.ownership.walletAddress = true)
    (expected : expectedDeployment .wizPayPayroll registry = .ok deployment)
    (reviewed : validateDeployment .wizPayPayroll "payroll" deployment = .ok ())
    (binds : if p.crossTokenExecutable = true
      then ∃ decoded, decodeCrossTokenPayrollCall data = .ok decoded ∧ p.crossToken.any (bindsCrossToken p · decoded) = true
      else p.sameTokenExecutable = true ∧ ∃ decoded, decodeSameTokenPayrollCall data = .ok decoded ∧ bindsSameToken p decoded = true) :
    validatePlan registry intent (newPlan intent (deployment.call signature data)) = .ok () := by
  rw [validateDeployment, rejectIf_ok] at reviewed
  simp only [not_or, not_not, Bool.not_eq_false] at reviewed
  obtain ⟨id, version, chainID, -, address, -⟩ := reviewed
  have valid := (addressesEqual_iff.mp address).1
  simp only [validatePlan, checks_ok, newPlan, Deployment.call, id, version, chainID, chain, not_or, not_not,
    Bool.not_eq_false, ne_eq]
  refine ⟨⟨trivial, trivial, trivial⟩, ⟨trivial, trivial, trivial⟩, ⟨trivial, addressesEqual_self wallet⟩,
    ⟨address, trivial⟩, bind_ok.mpr ⟨deployment, expected, ?_⟩⟩
  simp only [checks_ok, Bool.not_eq_false, given]
  refine ⟨addressesEqual_self valid, ?_⟩
  split
  next executable =>
    rw [if_pos executable] at binds
    obtain ⟨decoded, read, bound⟩ := binds
    refine bind_ok.mpr ⟨decoded, read, ?_⟩
    rw [rejectIf_ok, bound]
    simp
  next other =>
    rw [if_neg other] at binds
    obtain ⟨executable, decoded, read, bound⟩ := binds
    refine guard_ok.mpr ⟨by simp [executable], bind_ok.mpr ⟨decoded, read, ?_⟩⟩
    rw [rejectIf_ok, bound]
    simp

/-- **A plan is bound to its intent**: the verifier accepts what the planner made of it. -/
theorem validatePlan_of_plan (planned : plan registry intent = .ok sealed)
    (wallet : validAddress intent.params.ownership.walletAddress = true) :
    validatePlan registry intent sealed = .ok () := by
  obtain ⟨p, call, given, rfl, chain, ⟨same, encoded⟩ | ⟨crossToken, material, -, executable, encoded⟩⟩ := plan_cases planned
  · obtain ⟨decoded, read, binds⟩ := decode_sameToken encoded
    obtain ⟨deployment, expected, reviewed, -, rfl⟩ := encode_call encoded
    refine validatePlan_eq_ok given chain wallet expected reviewed ?_
    -- the two shapes exclude each other
    have other : p.crossTokenExecutable ≠ true := by
      intro executable
      obtain ⟨crossToken, material⟩ := crossToken_of_executable executable
      rw [(sameToken_of_executable same).1] at material
      cases material
    rw [if_neg other]
    exact ⟨same, decoded, read, binds⟩
  · obtain ⟨decoded, read, binds⟩ := decode_crossToken encoded
    obtain ⟨deployment, expected, reviewed, -, rfl⟩ := encode_call encoded
    refine validatePlan_eq_ok given chain wallet expected reviewed ?_
    rw [if_pos executable, material]
    exact ⟨decoded, read, binds⟩

end Plan

theorem checkAmounts_ok {i : Nat} {recipients : List Recipient} (read : ∀ r ∈ recipients, (baseOf r.amountIn).isSome = true) :
    checkAmounts i recipients = .ok () := by
  induction recipients generalizing i with
  | nil => rfl
  | cons r rest ih =>
    have first := read r (.head _)
    rw [baseOf] at first
    cases value : r.amountIn.baseInt with
    | error message => simp [value, Except.toOption] at first
    | ok units =>
      refine bind_ok.mpr ⟨units, by rw [value]; rfl, ih fun r member => read r (List.mem_cons_of_mem _ member)⟩

/-- A frozen same-token payroll whose amounts fit its call is planned. -/
theorem plan_sameToken {intent : Intent} {p : PayrollParameters} (valid : intent.validate = .ok ())
    (kind : intent.params.type = .payroll) (frozen : intent.digest ≠ "" ∧ intent.status ≠ .draft)
    (given : intent.params.financial.payroll = some p) (executable : p.sameTokenExecutable = true)
    (fits : Contracts.Payroll.validateSameToken (sameTokenInput p) = .ok ()) :
    plan none intent = .ok (newPlan intent (payrollDeploymentV1.call sigExecuteSameTokenPayroll
      (selector4 sigExecuteSameTokenPayroll ++ Abi.pack sameTokenTypes (sameTokenInput p).values))) := by
  obtain ⟨q, given', -, payload⟩ := (Params.valid_of_validate (Intent.params_valid valid)).payroll kind
  obtain rfl : p = q := Option.some.inj (given.symm.trans given')
  obtain ⟨-, current, source⟩ := validate_of_sameToken executable
  obtain ⟨canonical, -⟩ := canonical_of_executable executable
  simp only [canonicalPayrollToken, Bool.and_eq_true, decide_eq_true_eq] at canonical
  -- validation has bound the payload to the canonical route and network
  simp only [Params.validatePayroll, checks_ok, not_not, checkIf, current, source, executable, if_true, true_or,
    true_and, validatePayrollRoute, validateContractRoute] at payload
  obtain ⟨chain, network, -, route, reference, version⟩ := payload
  rw [canonical.1.1.1] at chain
  have bound : validateBinding none intent.params.route intent.params.ownership = .ok () := by
    simp only [validateBinding, checks_ok, not_not]
    refine ⟨route, reference, version, version, chain.symm, network, bind_ok.mpr ⟨_, mapError_ok.mpr expectedDeployment_payroll, ?_⟩⟩
    rw [rejectIf_ok]
    simp [payrollDeploymentV1, ← chain, addressesEqual_self validAddress_payroll]
  have amounts : checkAmounts 0 p.recipients = .ok () := by
    apply checkAmounts_ok
    intro r member
    have positive := fits
    simp only [Contracts.Payroll.validateSameToken, guard_ok] at positive
    obtain ⟨-, -, -, -, -, -, -, positive⟩ := validateBatch_eq_ok.mp positive.2
    obtain ⟨n, units, -⟩ := positive (baseOf r.amountIn) (List.mem_map_of_mem member)
    rw [units]
    rfl
  simp only [plan, checks_ok, not_not, not_or, given]
  refine ⟨valid, kind, frozen, bound, ?_⟩
  rw [if_pos executable]
  refine guard_ok.mpr ⟨amounts, bind_ok.mpr ⟨_, mapError_ok.mpr (encode_default (by simp [payrollSignatures]) fits _), rfl⟩⟩

/-! ### A sample -/

/-- The sample transfer's owner and times with a payroll in its place. -/
def payrollParams (p : PayrollParameters) : Params :=
  { sampleSend with
    type := .payroll, financial := { send := none, payroll := some p, swap := none, bridge := none, ans := none },
    route := ⟨.allowlistedContract, routeReferencePayroll, routeVersionPayroll⟩ }

theorem payrollParams_valid {p : PayrollParameters} (valid : p.validate = .ok ())
    (payload : (payrollParams p).validatePayroll p = .ok ()) : (payrollParams p).validate = .ok () := by
  have base := sampleSend_valid
  simp only [Params.validate, guard_ok] at base ⊢
  obtain ⟨texts, version, -, ownership, -, -, -, rest⟩ := base
  have route : Route.validate ⟨.allowlistedContract, routeReferencePayroll, routeVersionPayroll⟩ = .ok () := by decide +kernel
  have known : IntentType.valid .payroll = true := rfl
  refine ⟨texts, version, by simp [payrollParams, known], ownership, ?_, payload, route, rest⟩
  show FinancialParameters.validate _ .payroll = .ok ()
  simp only [FinancialParameters.validate, guard_ok, FinancialParameters.member_eq_ok]
  exact ⟨rfl, p, rfl, valid⟩

/-- One USDC to one recipient. -/
def singlePayroll : PayrollParameters :=
  { schemaVersion := 1, variant := .single,
    tokenIn := ⟨"5042", "ERC20", "0x3600000000000000000000000000000000000000", "USDC", 6⟩, token := .zero,
    recipients :=
      [{ address := "0x2222222222222222222222222222222222222222", amount := .zero,
         tokenOut := ⟨"5042", "ERC20", "0x3600000000000000000000000000000000000000", "USDC", 6⟩,
         amountIn := ⟨"1", "1000000", 6⟩, minAmountOut := ⟨"1", "1000000", 6⟩ }],
    total := ⟨"1", "1000000", 6⟩, referenceID := "ref_1", crossToken := none }

theorem singlePayroll_executable : singlePayroll.sameTokenExecutable = true := by decide +kernel

def singleIntent : Intent := (payrollParams singlePayroll).frozen .approved 4

theorem singleIntent_valid : singleIntent.validate = .ok () := by
  obtain ⟨valid, current, source⟩ := validate_of_sameToken singlePayroll_executable
  refine Params.frozen_valid (payrollParams_valid valid ?_) rfl (by decide) (by decide)
  simp only [Params.validatePayroll, checks_ok, checkIf, current, source, if_true]
  have mainnet : (payrollParams singlePayroll).ownership.network = networkArcMainnet := rfl
  refine ⟨by decide, fun other => other.2 mainnet, by decide, by decide⟩

/-- The plan of the sample. -/
def singlePlan : Plan :=
  newPlan singleIntent (payrollDeploymentV1.call sigExecuteSameTokenPayroll
    (selector4 sigExecuteSameTokenPayroll ++ Abi.pack sameTokenTypes (sameTokenInput singlePayroll).values))

theorem plan_singleIntent : plan none singleIntent = .ok singlePlan := by
  refine plan_sameToken singleIntent_valid rfl ⟨digestBytes_ne_empty _, by decide⟩ rfl singlePayroll_executable ?_
  decide +kernel

end WizPay.Payroll
