import WizPay.Intents.Intent

/-!
# The digest binds the material

Canonical material is the text of a JSON value, which determines the value and with it
the parameters, as long as the enumerations hold one of their constants.
-/
namespace WizPay.Intents

open Checks GoText GoTime CanonicalJson

theorem timeJson_injective : Function.Injective timeJson := by
  intro s t same
  exact formatRFC3339Nano_injective (Json.str.inj same)

theorem Amount.json_injective : Function.Injective Amount.json := by
  intro a b same
  have fields := object_fields_inj same (by simp) (by simp)
  cases a
  cases b
  simpa using fields

theorem Token.json_injective : Function.Injective Token.json := by
  intro a b same
  have fields := object_fields_inj same (by simp) (by simp)
  cases a
  cases b
  simpa using fields

theorem SendParameters.json_injective : Function.Injective SendParameters.json := by
  intro a b same
  have fields := object_fields_inj same (by simp) (by simp)
  cases a
  cases b
  simpa [Amount.json_injective.eq_iff, Token.json_injective.eq_iff] using fields

theorem Recipient.json_injective : Function.Injective Recipient.json := by
  intro a b same
  have fields := object_fields_inj same (by simp) (by simp)
  cases a
  cases b
  simpa [Amount.json_injective.eq_iff, Token.json_injective.eq_iff] using fields

theorem CrossTokenPayrollParameters.json_injective : Function.Injective CrossTokenPayrollParameters.json := by
  intro a b same
  have fields := object_fields_inj same (by simp) (by simp)
  cases a
  cases b
  simpa [Amount.json_injective.eq_iff, timeJson_injective.eq_iff] using fields

theorem SwapQuote.json_injective : Function.Injective SwapQuote.json := by
  intro a b same
  have fields := object_fields_inj same (by simp) (by simp)
  cases a
  cases b
  simpa [Amount.json_injective.eq_iff, timeJson_injective.eq_iff] using fields

theorem SwapParameters.json_injective : Function.Injective SwapParameters.json := by
  intro a b same
  obtain ⟨before, quote, after⟩ := object_optional_inj same (by simp) (by simp) (by simp)
  have quotes : a.quote = b.quote := Option.map_injective SwapQuote.json_injective quote
  cases a
  cases b
  simp only [List.cons.injEq, Prod.mk.injEq, true_and, and_true, Json.num.injEq, Json.str.injEq,
    Token.json_injective.eq_iff, Amount.json_injective.eq_iff, timeJson_injective.eq_iff] at before after quotes
  simp [before, after, quotes]

theorem BridgeParameters.json_injective : Function.Injective BridgeParameters.json := by
  intro a b same
  have fields := object_fields_inj same (by simp) (by simp)
  cases a
  cases b
  simpa [Amount.json_injective.eq_iff, Token.json_injective.eq_iff] using fields

theorem ANSParameters.json_injective : Function.Injective ANSParameters.json := by
  intro a b same
  have fields := object_fields_inj same (by simp) (by simp)
  cases a
  cases b
  simpa [Amount.json_injective.eq_iff, Token.json_injective.eq_iff] using fields

/-! ### Enumerations -/

theorem IntentType.text_inj {a b : IntentType} (validFirst : a.valid = true) (validSecond : b.valid = true)
    (same : a.text = b.text) : a = b := by
  cases a <;> cases b <;> simp_all [IntentType.valid, IntentType.text]

theorem RouteType.text_inj {a b : RouteType} (validFirst : a.valid = true) (validSecond : b.valid = true)
    (same : a.text = b.text) : a = b := by
  cases a <;> cases b <;> simp_all [RouteType.valid, RouteType.text]

/-- One of the constants, or the empty text of the legacy shape. -/
def PayrollVariant.Known (v : PayrollVariant) : Prop := v = .unset ∨ v.valid = true

theorem PayrollVariant.text_inj {a b : PayrollVariant} (knownFirst : a.Known) (knownSecond : b.Known)
    (same : a.text = b.text) : a = b := by
  cases a <;> cases b <;> simp_all [PayrollVariant.Known, PayrollVariant.valid, PayrollVariant.text]

/-! ### What validation knows about the enumerations -/

theorem PayrollParameters.variant_known {p : PayrollParameters} (valid : p.validate = .ok ()) : p.variant.Known := by
  unfold PayrollParameters.validate at valid
  split at valid
  next =>
    split at valid
    next crossToken =>
      obtain ⟨c, some⟩ := Option.isSome_iff_exists.mp crossToken
      simp only [validateCrossToken, validateCrossTokenTimeline, some, checks_ok] at valid
      have single : p.variant = .single ∨ p.variant = .batchSingleTokenOut := by
        have checked := valid.2.1
        tauto
      rcases single with variant | variant
      · exact .inr (by rw [variant]; rfl)
      · exact .inr (by rw [variant]; rfl)
    next =>
      simp only [validatePhase12, checks_ok, Bool.not_eq_false] at valid
      exact .inr valid.2.1
  next legacy =>
    simp only [isPhase12, Bool.or_eq_true, not_or, decide_eq_true_eq] at legacy
    have unset : ¬ p.variant ≠ .unset := by simpa using legacy.1.1.1.2
    exact .inl (not_not.mp unset)

/-- Only the payload that the type asks for is present, and it is valid. -/
theorem FinancialParameters.payroll_valid {p : FinancialParameters} {kind : IntentType}
    (valid : p.validate kind = .ok ()) {payroll : PayrollParameters} (present : p.payroll = some payroll) :
    payroll.validate = .ok () := by
  simp only [FinancialParameters.validate, checks_ok, not_not] at valid
  obtain ⟨single, checked⟩ := valid
  have alone : p.send = none ∧ p.swap = none ∧ p.bridge = none ∧ p.ans = none := by
    unfold FinancialParameters.count at single
    rw [present] at single
    cases send : p.send <;> cases swap : p.swap <;> cases bridge : p.bridge <;> cases ans : p.ans <;>
      simp [send, swap, bridge, ans] at single ⊢
  obtain ⟨send, swap, bridge, ans⟩ := alone
  cases kind with
  | payroll => simpa [FinancialParameters.member, present] using checked
  | send => simp [FinancialParameters.member, send] at checked
  | swap => simp [FinancialParameters.member, swap] at checked
  | bridge => simp [FinancialParameters.member, bridge] at checked
  | ansRegistration => simp [FinancialParameters.member, ans] at checked
  | other text => simp at checked

/-! ### The whole material -/

theorem PayrollParameters.json_inj {a b : PayrollParameters} (knownFirst : a.variant.Known)
    (knownSecond : b.variant.Known) (same : a.json = b.json) : a = b := by
  obtain ⟨before, crossToken⟩ := object_optional_last_inj same (by simp) (by simp)
  have crossTokens : a.crossToken = b.crossToken :=
    Option.map_injective CrossTokenPayrollParameters.json_injective crossToken
  simp only [List.cons.injEq, Prod.mk.injEq, true_and, and_true, Json.num.injEq, Json.str.injEq, Json.arr.injEq,
    Token.json_injective.eq_iff, Amount.json_injective.eq_iff,
    (List.map_injective_iff.mpr Recipient.json_injective).eq_iff] at before
  obtain ⟨schema, variant, tokenIn, token, recipients, total, reference⟩ := before
  have variants := PayrollVariant.text_inj knownFirst knownSecond variant
  cases a
  cases b
  simp_all

theorem FinancialParameters.json_inj {a b : FinancialParameters}
    (knownFirst : ∀ p, a.payroll = some p → p.variant.Known) (knownSecond : ∀ p, b.payroll = some p → p.variant.Known)
    (same : a.json = b.json) : a = b := by
  have distinct : ∀ p : FinancialParameters, ((optional "send" (p.send.map SendParameters.json) ++
      optional "payroll" (p.payroll.map PayrollParameters.json) ++ optional "swap" (p.swap.map SwapParameters.json) ++
      optional "bridge" (p.bridge.map BridgeParameters.json) ++
      optional "ans_registration" (p.ans.map ANSParameters.json)).map Prod.fst).Nodup := by
    intro p
    have names : ["send", "payroll", "swap", "bridge", "ans_registration"].Nodup := by decide
    refine List.Nodup.sublist ?_ names
    simp only [List.map_append]
    exact ((((optional_names _ _).append (optional_names _ _)).append (optional_names _ _)).append
      (optional_names _ _)).append (optional_names _ _)
  have field := object_inj (distinct a) (distinct b) same
  have send := field "send"
  have payroll := field "payroll"
  have swap := field "swap"
  have bridge := field "bridge"
  have ans := field "ans_registration"
  simp [List.lookup_append] at send payroll swap bridge ans
  have sends := Option.map_injective SendParameters.json_injective send
  have swaps := Option.map_injective SwapParameters.json_injective swap
  have bridges := Option.map_injective BridgeParameters.json_injective bridge
  have names := Option.map_injective ANSParameters.json_injective ans
  have payrolls : a.payroll = b.payroll := by
    cases first : a.payroll with
    | none => cases second : b.payroll <;> simp [first, second] at payroll ⊢
    | some p =>
      cases second : b.payroll with
      | none => simp [first, second] at payroll
      | some q =>
        simp only [first, second, Option.map_some, Option.some.injEq] at payroll
        rw [PayrollParameters.json_inj (knownFirst p first) (knownSecond q second) payroll]
  cases a
  cases b
  simp_all

theorem Route.json_inj {a b : Route} (validFirst : a.type.valid = true) (validSecond : b.type.valid = true)
    (same : a.json = b.json) : a = b := by
  have fields := object_fields_inj same (by simp) (by simp)
  simp only [List.cons.injEq, Prod.mk.injEq, true_and, and_true, Json.num.injEq, Json.str.injEq] at fields
  obtain ⟨type, reference, version⟩ := fields
  have types := RouteType.text_inj validFirst validSecond type
  cases a
  cases b
  simp_all

theorem Constraints.json_injective : Function.Injective Constraints.json := by
  intro a b same
  have fields := object_fields_inj same (by simp) (by simp)
  cases a
  cases b
  simpa [timeJson_injective.eq_iff] using fields

/-- An owner with and one without a wallet provider have different material: the name of the field tells them apart. -/
theorem ownershipMaterial_injective : Function.Injective ownershipMaterial := by
  intro a b same
  obtain ⟨before, provider, after⟩ := object_optional_inj same (by simp) (by simp) (by simp)
  have providers : a.walletProvider = b.walletProvider := by
    by_cases first : a.walletProvider = ""
    · by_cases second : b.walletProvider = ""
      · rw [first, second]
      · simp [first, second] at provider
    · by_cases second : b.walletProvider = ""
      · simp [first, second] at provider
      · simpa [first, second] using provider
  cases a
  cases b
  simp_all

variable {p : Params}

theorem Params.enumerations (valid : p.validate = .ok ()) :
    p.type.valid = true ∧ p.route.type.valid = true ∧ ∀ q, p.financial.payroll = some q → q.variant.Known := by
  simp only [Params.validate, Route.validate, checks_ok, Bool.not_eq_false] at valid
  obtain ⟨-, -, type, -, financial, -, ⟨route, -⟩, -⟩ := valid
  exact ⟨type, route, fun q present => PayrollParameters.variant_known (FinancialParameters.payroll_valid financial present)⟩

theorem Params.json_inj {p q : Params} (validFirst : p.validate = .ok ()) (validSecond : q.validate = .ok ())
    (same : p.json = q.json) : p = q := by
  obtain ⟨typeFirst, routeFirst, payrollFirst⟩ := Params.enumerations validFirst
  obtain ⟨typeSecond, routeSecond, payrollSecond⟩ := Params.enumerations validSecond
  have fields := object_fields_inj same (by simp) (by simp)
  simp only [List.cons.injEq, Prod.mk.injEq, true_and, and_true, Json.num.injEq, Json.str.injEq,
    timeJson_injective.eq_iff, ownershipMaterial_injective.eq_iff, Constraints.json_injective.eq_iff] at fields
  obtain ⟨id, version, request, nonce, type, owner, financial, route, constraints, created, expires⟩ := fields
  have types := IntentType.text_inj typeFirst typeSecond type
  have financials := FinancialParameters.json_inj payrollFirst payrollSecond financial
  have routes := Route.json_inj routeFirst routeSecond route
  cases p
  cases q
  simp_all

theorem digestBytes_toList (material : List UInt8) :
    (digestBytes material).toList =
      ['s', 'h', 'a', '2', '5', '6', ':'] ++ (Sha256.hexText (Sha256.sum256 (bytes digestDomain ++ material))).toList := by
  rw [digestBytes, String.toList_append, toList_literal (by rfl : "sha256:" = String.ofList ['s', 'h', 'a', '2', '5', '6', ':'])]

theorem digestBytes_graphic (material : List UInt8) : ∀ c ∈ (digestBytes material).toList, isGraphic c = true := by
  intro c member
  rw [digestBytes_toList] at member
  rcases List.mem_append.mp member with start | hash
  · exact List.all_eq_true.mp (by decide : ['s', 'h', 'a', '2', '5', '6', ':'].all isGraphic = true) c start
  · exact Sha256.isGraphic_hexText _ c hash

@[simp] theorem digestBytes_len (material : List UInt8) : len (digestBytes material) = 71 := by
  rw [len_graphic (digestBytes_graphic material), digestBytes_toList, List.length_append, Sha256.hexText_length,
    Sha256.sum256_length]
  rfl

@[simp] theorem digestBytes_ne_empty (material : List UInt8) : digestBytes material ≠ "" := by
  intro empty
  have size := digestBytes_len material
  rw [empty] at size
  exact absurd size (by decide)

/-- A transfer of one USDC. -/
def sampleSend : Params :=
  { intentID := "int_1", version := 1, clientRequestID := "req_1", nonce := "n_1", type := .send,
    ownership :=
      { userID := "user_1", identityProvider := "https://connect.wizpay.xyz", walletProvider := "EXTERNAL_EVM",
        providerUserReference := "ref_1", walletBindingID := "bind_1", walletBindingVersion := 2, walletID := "wal_1",
        walletAddress := "0x1111111111111111111111111111111111111111", chainID := "5042", network := "MAINNET" },
    financial :=
      { send := some
          { token := ⟨"5042", "ERC20", "0x3600000000000000000000000000000000000000", "USDC", 6⟩,
            recipient := "0x2222222222222222222222222222222222222222", amount := ⟨"1", "1000000", 6⟩ },
        payroll := none, swap := none, bridge := none, ans := none },
    route := ⟨.directWallet, "ARC_MAINNET_ERC20_TRANSFER", 1⟩,
    constraints := ⟨63900003600000000000, "pol_1:1"⟩,
    createdAt := 63900000000000000000, expiresAt := 63900003600000000000 }

theorem sampleSend_valid : sampleSend.validate = .ok () := by decide +kernel

theorem normalizeCreation_sampleSend : normalizeCreation sampleSend = sampleSend := by decide +kernel

/-- The intent of some material that has left DRAFT. -/
def Params.frozen (p : Params) (status : Status) (revision : Nat) : Intent :=
  ⟨p, status, digestBytes (canonicalMaterial p), revision⟩

theorem Params.frozen_valid {status : Status} {revision : Nat} (valid : p.validate = .ok ())
    (known : status.valid = true) (left : status ≠ .draft) (counted : revision ≠ 0) :
    (p.frozen status revision).validate = .ok () := by
  simp only [Intent.validate, frozen, guard_ok, mapError_ok, valid, known, left, if_false]
  simp [rejectIf_ok, counted]

def Params.awaitingApproval (p : Params) : Intent := p.frozen .approvalRequired 3

theorem Params.awaitingApproval_valid (valid : p.validate = .ok ()) :
    p.awaitingApproval.validate = .ok () :=
  frozen_valid valid rfl (by decide) (by decide)

end WizPay.Intents
