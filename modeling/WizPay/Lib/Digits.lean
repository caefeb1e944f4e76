import Mathlib
import WizPay.Lib.GoText

/-!
# Words of decimal digits

The value of a word decides the word once its length is known, and without needless leading zeros on its own.
-/

namespace GoText

/-- A word of digits that begins with a zero only if it has no digit to spare over `width + 1`. -/
structure Digits (width : Nat) (word : List Char) : Prop where
  decimal : ∀ c ∈ word, isDecimalDigit c = true
  long : width < word.length
  lead : width + 1 < word.length → word.head? ≠ some '0'

theorem isDecimalDigit_iff {c : Char} : isDecimalDigit c = true ↔ 48 ≤ c.toNat ∧ c.toNat ≤ 57 := by
  simp only [isDecimalDigit, Bool.and_eq_true, decide_eq_true_eq]
  exact Iff.rfl

theorem isGraphic_digit {c : Char} (digit : isDecimalDigit c = true) : isGraphic c = true := by
  have bounds := isDecimalDigit_iff.mp digit
  rw [isGraphic_iff]
  omega

/-- The first digit counts as often as the rest has values. -/
theorem ofDigitChars_cons_zero (c : Char) (rest : List Char) :
    Nat.ofDigitChars 10 (c :: rest) 0 = 10 ^ rest.length * (c.toNat - 48) + Nat.ofDigitChars 10 rest 0 := by
  rw [Nat.ofDigitChars_cons, Nat.mul_zero, Nat.zero_add, Nat.ofDigitChars_eq_ofDigitChars_zero]
  rfl

theorem ofDigitChars_lt {word : List Char} (decimal : ∀ c ∈ word, isDecimalDigit c = true) :
    Nat.ofDigitChars 10 word 0 < 10 ^ word.length := by
  induction word with
  | nil => exact Nat.one_pos
  | cons c rest ih =>
    have below := ih fun d member => decimal d (.tail _ member)
    have digit := isDecimalDigit_iff.mp (decimal c (.head _))
    have most : 10 ^ rest.length * (c.toNat - 48) ≤ 10 ^ rest.length * 9 := Nat.mul_le_mul_left _ (by omega)
    rw [ofDigitChars_cons_zero, List.length_cons, Nat.pow_succ]
    omega

theorem ofDigitChars_injective {first second : List Char} (same : first.length = second.length)
    (decimal : ∀ c ∈ first, isDecimalDigit c = true) (decimal' : ∀ c ∈ second, isDecimalDigit c = true)
    (value : Nat.ofDigitChars 10 first 0 = Nat.ofDigitChars 10 second 0) : first = second := by
  induction first generalizing second with
  | nil => exact (List.length_eq_zero_iff.mp same.symm).symm
  | cons c rest ih =>
    obtain - | ⟨d, others⟩ := second
    · cases same
    have lengths : rest.length = others.length := Nat.succ_injective same
    have below := ofDigitChars_lt fun e member => decimal e (.tail _ member)
    have below' := ofDigitChars_lt fun e member => decimal' e (.tail _ member)
    have digit := isDecimalDigit_iff.mp (decimal c (.head _))
    have digit' := isDecimalDigit_iff.mp (decimal' d (.head _))
    rw [ofDigitChars_cons_zero, ofDigitChars_cons_zero, lengths] at value
    rw [lengths] at below
    -- the quotient by the weight of the first digit is that digit, the remainder is the rest
    have heads := congrArg (· / 10 ^ others.length) value
    have tails := congrArg (· % 10 ^ others.length) value
    simp only [Nat.mul_add_div (Nat.pow_pos (Nat.succ_pos 9)), Nat.div_eq_of_lt below, Nat.div_eq_of_lt below',
      Nat.mul_add_mod, Nat.mod_eq_of_lt below, Nat.mod_eq_of_lt below'] at heads tails
    have sameDigit : c = d := Char.toNat_inj.mp (by omega)
    rw [sameDigit, ih lengths (fun e member => decimal e (.tail _ member)) (fun e member => decimal' e (.tail _ member)) tails]

namespace Digits

variable {width : Nat} {first second : List Char}

/-- A word with digits to spare has a value of its own size. -/
theorem pow_le (digits : Digits width first) (spare : width + 1 < first.length) :
    10 ^ (first.length - 1) ≤ Nat.ofDigitChars 10 first 0 := by
  obtain - | ⟨c, rest⟩ := first
  · exact absurd digits.long (Nat.not_lt_zero _)
  have digit := isDecimalDigit_iff.mp (digits.decimal c (.head _))
  have nonzero : c.toNat ≠ 48 := by
    intro zero
    have spelled : c = '0' := Char.toNat_inj.mp zero
    exact digits.lead spare (by rw [spelled, List.head?_cons])
  have least : 10 ^ rest.length * 1 ≤ 10 ^ rest.length * (c.toNat - 48) := Nat.mul_le_mul_left _ (by omega)
  rw [ofDigitChars_cons_zero, List.length_cons, Nat.add_sub_cancel]
  omega

theorem length_le (digits : Digits width first) (digits' : Digits width second)
    (value : Nat.ofDigitChars 10 first 0 = Nat.ofDigitChars 10 second 0) : first.length ≤ second.length := by
  by_contra longer
  have spare : width + 1 < first.length := by have := digits'.long; omega
  have below : 10 ^ (first.length - 1) < 10 ^ second.length :=
    lt_of_le_of_lt (digits.pow_le spare) (value ▸ ofDigitChars_lt digits'.decimal)
  have := (Nat.pow_lt_pow_iff_right (Nat.lt_of_sub_eq_succ rfl)).mp below
  omega

theorem injective (digits : Digits width first) (digits' : Digits width second)
    (value : Nat.ofDigitChars 10 first 0 = Nat.ofDigitChars 10 second 0) : first = second :=
  ofDigitChars_injective (le_antisymm (digits.length_le digits' value) (digits'.length_le digits value.symm))
    digits.decimal digits'.decimal value

end Digits

theorem digitChar_ne_zero : ∀ d < 10, 0 < d → [Nat.digitChar d].head? ≠ some '0' := by decide

theorem head_toDigits {n : Nat} (positive : 0 < n) : (Nat.toDigits 10 n).head? ≠ some '0' := by
  induction n using Nat.strongRecOn with
  | ind n ih =>
    rcases Nat.lt_or_ge n 10 with small | large
    · rw [Nat.toDigits_of_lt_base small]
      exact digitChar_ne_zero n small positive
    · rw [Nat.toDigits_of_base_le (by decide) large, List.head?_append_of_ne_nil _ Nat.toDigits_ne_nil]
      exact ih (n / 10) (by omega) (by omega)

/-- A number is spelled without needless zeros. -/
theorem digits_toString (n : Nat) : Digits 0 (toString n).toList := by
  have spelled : (toString n).toList = Nat.toDigits 10 n := Nat.toList_repr
  refine ⟨decimal_digits, ?_, ?_⟩
  · rw [spelled]
    exact List.length_pos_iff.mpr Nat.toDigits_ne_nil
  · rw [spelled]
    intro long
    rcases Nat.eq_zero_or_pos n with rfl | positive
    · exact absurd long (by decide)
    · exact head_toDigits positive

end GoText
