import WizPay.Intents.Decimals
import WizPay.Policies.Evaluator

/-!
# The amounts of a payroll draft

`amountFromBaseUnits` and `canonicalAmountDecimal` pad the digits of the number, put the point before the last
`decimals` of them and drop the zeros at the end.
-/

namespace WizPay.Services

open GoText Intents Policies

def amountFromBaseUnits (value : Int) (decimals : Nat) : Amount :=
  let digits := (toString value).toList
  if decimals = 0 then ⟨String.ofList digits, String.ofList digits, decimals⟩
  else
    let digits := if digits.length ≤ decimals then List.replicate (decimals - digits.length + 1) '0' ++ digits else digits
    let whole := digits.take (digits.length - decimals)
    let fraction := ((digits.drop (digits.length - decimals)).reverse.dropWhile (· = '0')).reverse
    let decimal := if fraction ≠ [] then whole ++ '.' :: fraction else whole
    ⟨String.ofList decimal, toString value, decimals⟩

theorem amountFromBaseUnits_decimal (value : Int) (decimals : Nat) :
    (amountFromBaseUnits value decimals).decimal = canonicalAmountDecimal value decimals := by
  unfold amountFromBaseUnits canonicalAmountDecimal
  dsimp only
  by_cases zero : decimals = 0
  · rw [if_pos zero, if_pos zero]
  · rw [if_neg zero, if_neg zero]
    have padded : (if (toString value).toList.length ≤ decimals then
        List.replicate (decimals - (toString value).toList.length + 1) '0' ++ (toString value).toList
        else (toString value).toList) =
        List.replicate (decimals + 1 - (toString value).toList.length) '0' ++ (toString value).toList := by
      split
      next short => rw [Nat.sub_add_comm short]
      next long => rw [Nat.sub_eq_zero_of_le (by omega), List.replicate_zero, List.nil_append]
    rw [padded]
    split <;> simp_all

theorem exists_padded (word : List Char) :
    ∃ fraction padding, word = fraction ++ List.replicate padding '0' ∧ fraction.getLast? ≠ some '0' := by
  induction word using List.reverseRecOn with
  | nil => exact ⟨[], 0, rfl, by simp⟩
  | append_singleton word c ih =>
    by_cases zero : c = '0'
    · obtain ⟨fraction, padding, padded, last⟩ := ih
      exact ⟨fraction, padding + 1, by rw [zero, padded, List.append_assoc, List.replicate_succ'], last⟩
    · exact ⟨word ++ [c], 0, by simp, by simpa using zero⟩

/-- The padded digits of a number, cut before the last `width` of them, are a canonical decimal. -/
theorem canonicalDecimal_of_digits {width : Nat} {word : List Char} (digits : Digits width word) :
    let whole := word.take (word.length - width)
    let fraction := (word.drop (word.length - width)).rdropWhile (· = '0')
    CanonicalDecimal width whole fraction ∧ baseDigits width whole fraction = word := by
  intro whole fraction
  obtain ⟨rest, padding, padded, last⟩ := exists_padded (word.drop (word.length - width))
  have trimmed : fraction = rest := by rw [← rdropWhile_padded last padding, ← padded]
  have long := digits.long
  have lengths := congrArg List.length padded
  rw [List.length_drop, List.length_append, List.length_replicate] at lengths
  have isPadding : padding = width - rest.length := by omega
  rw [trimmed]
  refine ⟨⟨⟨fun c member => digits.decimal c (List.mem_of_mem_take member), ?_, ?_⟩, ?_, by omega, last⟩, ?_⟩
  · rw [List.length_take]
    omega
  · intro spare
    rw [List.length_take] at spare
    rw [List.head?_take, if_neg (by omega)]
    exact digits.lead (by omega)
  · intro c member
    refine digits.decimal c (List.mem_of_mem_drop (i := word.length - width) ?_)
    rw [padded]
    exact List.mem_append_left _ member
  · rw [baseDigits, ← isPadding, ← padded, List.take_append_drop]

/-- The digits of a number with zeros in front up to one more than the decimals. -/
theorem digits_padded (n width : Nat) :
    Digits width (List.replicate (width + 1 - (toString n).toList.length) '0' ++ (toString n).toList) := by
  have digits := digits_toString n
  refine ⟨?_, ?_, ?_⟩
  · intro c member
    obtain member | member := List.mem_append.mp member
    · rw [List.eq_of_mem_replicate member]
      decide
    · exact digits.decimal c member
  · rw [List.length_append, List.length_replicate]
    omega
  · intro spare
    rw [List.length_append, List.length_replicate] at spare
    have full : width + 1 - (toString n).toList.length = 0 := by omega
    rw [full, List.replicate_zero, List.nil_append]
    exact digits.lead (by omega)

theorem canonicalAmountDecimal_toList (n width : Nat) :
    let word := List.replicate (width + 1 - (toString n).toList.length) '0' ++ (toString n).toList
    (canonicalAmountDecimal n width).toList =
      pointed (word.take (word.length - width)) ((word.drop (word.length - width)).rdropWhile (· = '0')) := by
  intro word
  have spelled : toString (n : Int) = toString n := rfl
  unfold canonicalAmountDecimal pointed
  rw [spelled]
  dsimp only
  split
  next zero =>
    have long := (digits_toString n).long
    have full : word = (toString n).toList := by
      simp only [word, zero]
      rw [Nat.sub_eq_zero_of_le (by omega), List.replicate_zero, List.nil_append]
    simp [full, zero]
  next =>
    change String.toList (if List.rdropWhile _ _ = [] then _ else _) = _
    split <;> exact String.toList_ofList

/-- **Rendering is exact**: both renderers write the decimal that is read back as the number. -/
theorem rendered_decimal_exact (n width : Nat) :
    (amountFromBaseUnits n width).decimal = canonicalAmountDecimal n width ∧
      decimalToBaseUnits (canonicalAmountDecimal n width) width = .ok (n : Int) := by
  refine ⟨amountFromBaseUnits_decimal n width, ?_⟩
  obtain ⟨canonical, joined⟩ := canonicalDecimal_of_digits (digits_padded n width)
  have digits : (toString n).toList = Nat.toDigits 10 n := Nat.toList_repr
  rw [canonical.converts (canonicalAmountDecimal_toList n width), joined, Nat.ofDigitChars_append,
    Nat.ofDigitChars_replicate_zero, Nat.mul_zero, digits, Nat.ofDigitChars_ten_toDigits]

end WizPay.Services
