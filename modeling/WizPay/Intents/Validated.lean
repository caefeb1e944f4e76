import WizPay.Contracts.Address
import WizPay.Intents.Intent

/-!
# What validation guarantees

Inversion of the validators of `internal/intents`.
-/
namespace WizPay.Intents

open Checks GoText GoTime Contracts

/-- A positive amount is a natural number behind its base units. -/
theorem Amount.isPositive_eq_true {a : Amount} :
    a.isPositive = true ↔ a.validate = .ok () ∧ ∃ n : Nat, parseBig a.baseUnits = some (n : Int) ∧ 0 < n := by
  simp only [Amount.isPositive, Bool.and_eq_true, Option.any_eq_true, decide_eq_true_eq]
  constructor
  · rintro ⟨valid, value, parsed, positive⟩
    obtain ⟨⟨⟩, passed⟩ := exists_ok_of_isOk valid
    have natural : ((value.toNat : Nat) : Int) = value := Int.toNat_of_nonneg positive.le
    exact ⟨passed, value.toNat, by rw [parsed, natural], by omega⟩
  · rintro ⟨valid, n, parsed, positive⟩
    exact ⟨by rw [valid]; rfl, n, parsed, by exact_mod_cast positive⟩

theorem Amount.baseInt_ok {a : Amount} {value : Int} (valid : a.validate = .ok ())
    (parsed : parseBig a.baseUnits = some value) : a.baseInt = .ok value := by
  simp [Amount.baseInt, valid, parsed]

theorem toLower_zero : toLower addressZero = addressZero := by
  have chars : addressZero.toList = '0' :: 'x' :: List.replicate 40 '0' := toList_literal rfl
  apply String.toList_injective
  rw [toLower, String.toList_ofList, chars]
  decide

theorem validateNonZeroEVMAddress_eq_ok {name value : String} :
    validateNonZeroEVMAddress name value = .ok () ↔
      validAddress value = true ∧ addressesEqual value addressZero = false := by
  simp only [validateNonZeroEVMAddress, validateEVMAddress, checks_ok, Bool.not_eq_false]
  refine and_congr_right fun valid => ?_
  have zero : normalizeAddress addressZero = addressZero := by
    rw [normalizeAddress_valid validAddress_zero, toLower_zero]
  rw [addressesEqual, valid, validAddress_zero, zero]
  simp

/-! ### Intents -/

theorem Intent.params_valid {i : Intent} (valid : i.validate = .ok ()) : i.params.validate = .ok () := by
  simp only [Intent.validate, guard_ok, mapError_ok] at valid
  exact valid.1

/-- The parts of `validateParams`. -/
structure Params.Valid (p : Params) : Prop where
  ownership : p.ownership.validate = .ok ()
  financial : p.financial.validate p.type = .ok ()
  payload : p.validatePayload = .ok ()
  created : isZero p.createdAt = false
  expires : isZero p.expiresAt = false ∧ p.createdAt < p.expiresAt
  constraints : p.constraints.validate p.createdAt p.expiresAt = .ok ()

theorem Params.valid_of_validate {p : Params} (valid : p.validate = .ok ()) : p.Valid := by
  simp only [Params.validate, checks_ok, not_or, not_not, Bool.not_eq_true] at valid
  obtain ⟨-, -, -, ownership, financial, payload, -, created, expires, constraints⟩ := valid
  exact ⟨ownership, financial, payload, created, expires, constraints⟩

theorem FinancialParameters.member_eq_ok {α : Type} {value : Option α} {missing : String} {check : α → Except Error Unit} :
    FinancialParameters.member value missing check = .ok () ↔ ∃ v, value = some v ∧ check v = .ok () := by
  cases value with
  | none => simp [FinancialParameters.member]
  | some v => simp [FinancialParameters.member]

section Payload

variable {p : Params} (valid : p.Valid)

include valid

theorem Params.Valid.send (kind : p.type = .send) :
    ∃ send, p.financial.send = some send ∧ send.validate = .ok () ∧ p.validateSend send = .ok () := by
  have financial := valid.financial
  have payload := valid.payload
  simp only [kind, FinancialParameters.validate, guard_ok, FinancialParameters.member_eq_ok] at financial
  obtain ⟨-, send, given, passed⟩ := financial
  rw [Params.validatePayload, kind, given] at payload
  exact ⟨send, given, passed, payload⟩

theorem Params.Valid.payroll (kind : p.type = .payroll) :
    ∃ payroll, p.financial.payroll = some payroll ∧ payroll.validate = .ok () ∧ p.validatePayroll payroll = .ok () := by
  have financial := valid.financial
  have payload := valid.payload
  simp only [kind, FinancialParameters.validate, guard_ok, FinancialParameters.member_eq_ok] at financial
  obtain ⟨-, payroll, given, passed⟩ := financial
  rw [Params.validatePayload, kind, given] at payload
  exact ⟨payroll, given, passed, payload⟩

end Payload

theorem SendParameters.of_validate {p : SendParameters} (valid : p.validate = .ok ()) :
    validAddress p.recipient = true ∧ addressesEqual p.recipient addressZero = false ∧ p.amount.isPositive = true := by
  obtain ⟨-, rest⟩ := guard_ok.mp valid
  obtain ⟨canonical, -, rest⟩ := bind_ok.mp rest
  simp only [checks_ok, validateNonZeroEVMAddress_eq_ok, Bool.not_eq_false] at rest
  exact ⟨rest.2.1.1, rest.2.1.2, rest.2.2.1⟩

end WizPay.Intents
