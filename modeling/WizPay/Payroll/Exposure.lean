import WizPay.Payroll.Exact
import WizPay.Policies.Evaluator

/-!
# Policy exposure and verified spend

A policy compares a spending limit with an amount that the evaluator takes from the frozen
payload. What a verified payroll has spent is at most that amount.
-/
namespace WizPay.Payroll

open Checks GoText GoTime Contracts Contracts.Payroll Intents Providers Policies

section Total

variable {p : PayrollParameters}

theorem scan_total {i : Nat} {start finish : PayrollParameters.Scan} {recipients : List Recipient}
    (scanned : PayrollParameters.scan p.phase12Line i start recipients = .ok finish) :
    finish.total = start.total + (recipients.map fun r => (baseOf r.amountIn).getD 0).sum := by
  induction recipients generalizing i start with
  | nil =>
    rw [PayrollParameters.scan, Except.ok.injEq] at scanned
    simp [scanned]
  | cons r rest ih =>
    obtain ⟨next, line, rest⟩ := bind_ok.mp scanned
    simp only [PayrollParameters.phase12Line, guard_ok] at line
    obtain ⟨-, -, -, -, -, -, -, -, -, line⟩ := line
    obtain ⟨value, read, line⟩ := bind_ok.mp line
    obtain ⟨-, line⟩ := guard_ok.mp line
    rw [pure_ok] at line
    subst line
    have units : baseOf r.amountIn = some value := by rw [baseOf, mapError_ok.mp read]; rfl
    rw [ih rest, List.map_cons, List.sum_cons, units, Option.getD_some, add_assoc]

/-- The total of a same-token payroll is the sum of its obligations, and is positive. -/
theorem total_of_executable (executable : p.sameTokenExecutable = true) :
    p.total.baseInt = .ok (total (sameTokenObligations p)) ∧ 0 < total (sameTokenObligations p) := by
  obtain ⟨-, phase12, -⟩ := canonical_of_executable executable
  simp only [PayrollParameters.validatePhase12, guard_ok] at phase12
  obtain ⟨-, -, -, -, -, -, -, rest⟩ := phase12
  obtain ⟨lines, scanned, rest⟩ := bind_ok.mp rest
  simp only [checks_ok, not_not, Bool.not_eq_false] at rest
  obtain ⟨valid, -, positive, same, -⟩ := rest
  have sum : lines.total = total (sameTokenObligations p) := by
    have added := scan_total scanned
    rw [show PayrollParameters.Scan.start.total = 0 from rfl, zero_add] at added
    rw [added, total, sameTokenObligations, List.map_map]
    rfl
  have parsed : parseBig p.total.baseUnits = some (total (sameTokenObligations p)) := by
    rw [← same, ← sum]
    exact parseBig_int _
  obtain ⟨-, n, value, above⟩ := Amount.isPositive_eq_true.mp positive
  rw [parsed, Option.some.injEq] at value
  exact ⟨Amount.baseInt_ok valid parsed, by rw [value]; exact_mod_cast above⟩

/-- The gross input of a cross-token payroll is a number. -/
theorem gross_of_executable {crossToken : CrossTokenPayrollParameters} (executable : p.crossTokenExecutable = true)
    (material : p.crossToken = some crossToken) :
    parseBig crossToken.grossInput.baseUnits = some ((baseOf crossToken.grossInput).getD 0) := by
  obtain ⟨⟨⟩, valid⟩ := exists_ok_of_isOk executable
  simp only [PayrollParameters.validateCrossToken, PayrollParameters.validateCrossTokenTimeline, material,
    guard_ok] at valid
  obtain ⟨-, -, -, -, -, -, rest⟩ := valid
  obtain ⟨lines, -, rest⟩ := bind_ok.mp rest
  obtain ⟨-, rest⟩ := guard_ok.mp rest
  obtain ⟨gross, checked, -⟩ := bind_ok.mp rest
  obtain ⟨positive, checked⟩ := guard_ok.mp checked
  rw [rejectIf_ok, not_or, Bool.not_eq_false] at positive
  obtain ⟨passed, n, parsed, -⟩ := Amount.isPositive_eq_true.mp positive.1
  rw [baseOf, Amount.baseInt_ok passed parsed, parsed]
  rfl

end Total

/-! ### The exposure -/

/-- The exposure of a same-token payroll is its obligations with the maximal fee. -/
theorem exposure_sameToken {p : PayrollParameters} (executable : p.sameTokenExecutable = true) :
    parseBig (payrollMaximumEmployerExposure p.total).baseUnits =
      some (total (sameTokenObligations p) + maximumFee (total (sameTokenObligations p))) := by
  obtain ⟨base, positive⟩ := total_of_executable executable
  -- the verifier truncates and the evaluator rounds down, which is one thing on obligations
  have rounded : maximumFee (total (sameTokenObligations p)) = total (sameTokenObligations p) * contractMaxFeeBPS / 10000 :=
    Int.tdiv_eq_ediv_of_nonneg (mul_nonneg positive.le (by decide))
  rw [payrollMaximumEmployerExposure, base, rounded]
  exact parseBig_int _

/-- **Policy exposure bounds the verified spend**: the total input that the events of a verified
payroll report is at most the amount a spending limit is compared with. -/
theorem verified_spend_le_exposure {registry : Option Registry} {intent : Intent} {plan : Plan} {receipt : Receipt}
    {result : DomainResult} (checked : verify registry intent plan receipt = .ok result)
    (verified : result.status = .verified) :
    ∃ view spend events ref batch, newIntentView intent = .ok view ∧ parseBig view.spendAmount.baseUnits = some spend ∧
      Collected registry receipt.chainID receipt.logs events ∧ events.references = [ref] ∧ events.batches = [batch] ∧
      ref.totalInput ≤ spend ∧ batch.totalInput ≤ spend ∧ ∀ swap ∈ events.swaps, swap.grossInput ≤ spend := by
  have valid := checked
  simp only [verify, checks_ok, not_or, not_not] at valid
  obtain ⟨valid, ⟨kind, -⟩, -⟩ := valid
  obtain ⟨p, given, -⟩ := (Params.valid_of_validate (Intent.params_valid valid)).payroll kind
  have seen : newIntentView intent = .ok (IntentView.ofPayroll intent p).sorted := by
    simp [newIntentView, kind, given]
  obtain ⟨-, ⟨crossToken, material, executable, passed⟩ | ⟨-, executable, passed⟩⟩ := checks_of_verified given checked verified
  · obtain ⟨events, hash, -, execution⟩ := execution_of_crossTokenChecks passed
    obtain ⟨swap, single, swapped, settled, -⟩ := execution.swap
    obtain ⟨ref, references, -, reported⟩ := settled.reference
    obtain ⟨batch, batches, reported'⟩ := settled.batch
    have other : p.sameTokenExecutable = false := by
      by_contra same
      have none := (sameToken_of_executable (Bool.not_eq_false _ ▸ same)).1
      rw [material] at none
      cases none
    have amount : (IntentView.ofPayroll intent p).sorted.spendAmount = crossToken.grossInput := by
      simp [IntentView.sorted, IntentView.ofPayroll, other, executable, material]
    refine ⟨_, _, events, ref, batch, seen, by rw [amount]; exact gross_of_executable executable material,
      execution.collected, references, batches, reported.totalInput.le, reported'.totalInput.le, ?_⟩
    intro e member
    rw [single, List.mem_singleton] at member
    rw [member, swapped.grossInput]
  · obtain ⟨-, -, -, -, events, hash, execution⟩ :=
      (sameTokenChecks_eq_ok (sameToken_of_executable executable).2).mp passed
    obtain ⟨fees, bound, settled⟩ := execution.settled
    obtain ⟨ref, references, -, reported⟩ := settled.reference
    obtain ⟨batch, batches, reported'⟩ := settled.batch
    have amount : (IntentView.ofPayroll intent p).sorted.spendAmount = payrollMaximumEmployerExposure p.total := by
      simp [IntentView.sorted, IntentView.ofPayroll, executable]
    have below : total (sameTokenObligations p) + fees ≤
        total (sameTokenObligations p) + maximumFee (total (sameTokenObligations p)) := Int.add_le_add_left bound _
    refine ⟨_, _, events, ref, batch, seen, by rw [amount]; exact exposure_sameToken executable, execution.collected,
      references, batches, reported.totalInput.trans_le below, reported'.totalInput.trans_le below, ?_⟩
    rw [execution.noSwap]
    simp

/-- The sample payroll of one USDC is compared with 1.01 USDC. -/
theorem verified_spend_single :
    ∃ view spend events ref batch, newIntentView singleIntent = .ok view ∧ parseBig view.spendAmount.baseUnits = some spend ∧
      Collected none chainIDArcMainnet (singleReceipt (List.replicate 32 0)).logs events ∧ events.references = [ref] ∧
      events.batches = [batch] ∧ ref.totalInput ≤ spend ∧ batch.totalInput ≤ spend ∧
      ∀ swap ∈ events.swaps, swap.grossInput ≤ spend := by
  obtain ⟨result, checked, verified⟩ := singleReceipt_verified (show (List.replicate 32 (0 : UInt8)).length = 32 by decide)
  exact verified_spend_le_exposure checked verified

end WizPay.Payroll
