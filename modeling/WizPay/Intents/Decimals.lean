import Mathlib
import WizPay.Intents.Types
import WizPay.Lib.Digits

/-!
# The decimals of an amount

`decimalToBaseUnits` accepts one spelling for each number of base units. The base units themselves are checked less
strictly: `SetString` takes a sign, so `+5` and `-0` pass.
-/

namespace GoText

/-- What `strings.Split` returned is the text again once it is joined. -/
theorem intercalate_splitChars (separator : Char) (chars : List Char) :
    [separator].intercalate (splitChars separator chars) = chars := by
  induction chars with
  | nil => rfl
  | cons c rest ih =>
    rw [splitChars]
    cases parts : splitChars separator rest with
    | nil =>
      rw [parts, List.intercalate_nil] at ih
      subst ih
      cases parts
    | cons segment others =>
      rw [parts] at ih
      split
      next isSeparator => rw [List.intercalate_cons_cons, ih, isSeparator]; rfl
      next =>
        cases others with
        | nil => simpa using ih
        | cons second others =>
          rw [List.intercalate_cons_cons] at ih ⊢
          simpa using ih

end GoText

namespace WizPay.Intents

open GoText Checks

/-- The two parts of a canonical decimal. -/
structure CanonicalDecimal (width : Nat) (whole fraction : List Char) : Prop where
  digits : Digits 0 whole
  decimal : ∀ c ∈ fraction, isDecimalDigit c = true
  fits : fraction.length ≤ width
  last : fraction.getLast? ≠ some '0'

/-- The parts with a point between them. -/
def pointed (whole fraction : List Char) : List Char := if fraction = [] then whole else whole ++ '.' :: fraction

/-- The digits that `decimalToBaseUnits` hands to `SetString`. -/
def baseDigits (width : Nat) (whole fraction : List Char) : List Char :=
  whole ++ (fraction ++ List.replicate (width - fraction.length) '0')

theorem point_notMem {chars : List Char} (decimal : ∀ c ∈ chars, isDecimalDigit c = true) : '.' ∉ chars :=
  fun member => absurd (decimal '.' member) (by decide)

theorem len_digits {chars : List Char} (decimal : ∀ c ∈ chars, isDecimalDigit c = true) :
    len (String.ofList chars) = chars.length := by
  rw [len_graphic, String.toList_ofList]
  rw [String.toList_ofList]
  exact fun c member => isGraphic_digit (decimal c member)

theorem leadingZero_digits {chars : List Char} (decimal : ∀ c ∈ chars, isDecimalDigit c = true) :
    leadingZero (String.ofList chars) = true ↔ 1 < chars.length ∧ chars.head? = some '0' := by
  rw [leadingZero, len_digits decimal, String.toList_ofList, Bool.and_eq_true, decide_eq_true_eq, decide_eq_true_eq]

section Canonical

variable {width : Nat} {whole fraction : List Char}

namespace CanonicalDecimal

variable (canonical : CanonicalDecimal width whole fraction)
include canonical

theorem split_pointed {value : String}
    (spelled : value.toList = pointed whole fraction) :
    split value '.' = String.ofList whole :: if fraction = [] then [] else [String.ofList fraction] := by
  rw [split, spelled, pointed]
  split
  · rw [splitChars_plain (point_notMem canonical.digits.decimal)]
    rfl
  · rw [splitChars_append (point_notMem canonical.digits.decimal), splitChars_plain (point_notMem canonical.decimal)]
    rfl

theorem baseDigits_digits :
    Digits width (baseDigits width whole fraction) := by
  have fits := canonical.fits
  have long := canonical.digits.long
  have length : (baseDigits width whole fraction).length = whole.length + width := by
    rw [baseDigits, List.length_append, List.length_append, List.length_replicate]
    omega
  refine ⟨?_, by omega, ?_⟩
  · intro c member
    rw [baseDigits, List.mem_append, List.mem_append] at member
    obtain member | member | member := member
    · exact canonical.digits.decimal c member
    · exact canonical.decimal c member
    · rw [List.eq_of_mem_replicate member]
      decide
  · intro spare
    rw [baseDigits, List.head?_append_of_ne_nil _ (List.length_pos_iff.mp long)]
    exact canonical.digits.lead (by omega)

/-- The first character is a digit, and the text is neither empty nor padded. -/
theorem unpadded {value : String}
    (spelled : value.toList = pointed whole fraction) :
    ¬(value = "" ∨ trimSpace value ≠ value ∨ value.toList.head? = some '+' ∨ value.toList.head? = some '-') := by
  have nonempty : whole ≠ [] := List.length_pos_iff.mp canonical.digits.long
  have head : ∃ c ∈ whole, value.toList.head? = some c := by
    obtain ⟨c, rest, rfl⟩ := List.exists_cons_of_ne_nil nonempty
    refine ⟨c, .head _, ?_⟩
    rw [spelled, pointed]
    split <;> rfl
  have graphic : ∀ c ∈ value.toList, isGraphic c = true := by
    intro c member
    rw [spelled, pointed] at member
    split at member
    · exact isGraphic_digit (canonical.digits.decimal c member)
    · obtain member | member := List.mem_append.mp member
      · exact isGraphic_digit (canonical.digits.decimal c member)
      · obtain rfl | member := List.mem_cons.mp member
        · decide
        · exact isGraphic_digit (canonical.decimal c member)
  obtain ⟨c, member, isHead⟩ := head
  have digit := canonical.digits.decimal c member
  rw [isHead, trimSpace_graphic graphic]
  rintro (rfl | padded | plus | minus)
  · cases isHead
  · exact padded rfl
  · cases plus; exact absurd digit (by decide)
  · cases minus; exact absurd digit (by decide)

theorem checkFraction_ok (first : String) :
    checkFraction width (first :: if fraction = [] then [] else [String.ofList fraction]) = .ok (String.ofList fraction) := by
  split
  next none => rw [none]; rfl
  next nonempty =>
    have all : fraction.all isDecimalDigit = true := List.all_eq_true.mpr canonical.decimal
    simp only [checkFraction, checks_ok, pure_ok, and_true]
    simp [len_digits canonical.decimal, nonempty, canonical.fits, canonical.last, all]

/-- A canonical decimal is accepted and has the value of its digits. -/
theorem converts {value : String}
    (spelled : value.toList = pointed whole fraction) :
    decimalToBaseUnits value width = .ok (Nat.ofDigitChars 10 (baseDigits width whole fraction) 0 : Int) := by
  have digits := canonical.baseDigits_digits
  have read := parseBig_digits (List.length_pos_iff.mp (Nat.zero_lt_of_lt digits.long)) digits.decimal
  have nonempty : whole ≠ [] := List.length_pos_iff.mp canonical.digits.long
  have all : whole.all isDecimalDigit = true := List.all_eq_true.mpr canonical.digits.decimal
  have lead : ¬leadingZero (String.ofList whole) = true := by
    rw [leadingZero_digits canonical.digits.decimal]
    exact fun ⟨spare, zero⟩ => canonical.digits.lead spare zero
  have joined : String.ofList whole ++ String.ofList fraction ++
      String.ofList (List.replicate (width - len (String.ofList fraction)) '0') =
        String.ofList (baseDigits width whole fraction) := by
    rw [len_digits canonical.decimal, baseDigits, String.ofList_append, String.ofList_append, String.append_assoc]
  rw [decimalToBaseUnits, canonical.split_pointed spelled]
  refine guard_ok.mpr ⟨rejectIf_ok.mpr (canonical.unpadded spelled), ?_⟩
  refine guard_ok.mpr ⟨rejectIf_ok.mpr ?_, guard_ok.mpr ⟨rejectIf_ok.mpr ?_,
    bind_ok.mpr ⟨_, canonical.checkFraction_ok _, ?_⟩⟩⟩
  · rw [List.headD_cons]
    rintro (many | empty | zero)
    · split at many <;> exact absurd many (by simp)
    · exact nonempty (by simpa using empty)
    · exact lead zero
  · simp [all]
  · rw [List.headD_cons]
    simp only [joined, read]
    rfl

end CanonicalDecimal

end Canonical

/-- The checks of digits without a sign, for the whole part and for the base units. -/
theorem digits_of_checked {word : List Char} (nonempty : word ≠ []) (decimal : ∀ c ∈ word, isDecimalDigit c = true)
    (lead : ¬leadingZero (String.ofList word) = true) : Digits 0 word := by
  rw [leadingZero_digits decimal] at lead
  exact ⟨decimal, List.length_pos_iff.mpr nonempty, fun spare zero => lead ⟨spare, zero⟩⟩

/-- Whatever is accepted is a canonical decimal. -/
theorem decimalToBaseUnits_canonical {value : String} {width : Nat} {units : Int}
    (converted : decimalToBaseUnits value width = .ok units) :
    ∃ whole fraction, CanonicalDecimal width whole fraction ∧ value.toList = pointed whole fraction := by
  rw [decimalToBaseUnits, guard_ok, guard_ok, guard_ok, rejectIf_ok, rejectIf_ok] at converted
  obtain ⟨-, shape, decimal, converted⟩ := converted
  obtain ⟨fraction, checked, -⟩ := bind_ok.mp converted
  have joined := intercalate_splitChars '.' value.toList
  rw [rejectIf_ok] at decimal
  rw [split] at shape decimal checked
  rcases parts : splitChars '.' value.toList with _ | ⟨whole, _ | ⟨fraction, _ | ⟨third, more⟩⟩⟩
  · simp [parts] at shape
  · simp [parts] at shape decimal joined
    have digits := digits_of_checked shape.1 decimal (by simp [shape.2])
    exact ⟨whole, [], ⟨digits, by simp, by simp, by simp⟩, by rw [pointed, if_pos rfl, joined]⟩
  · simp [parts] at shape decimal joined
    rw [parts] at checked
    have digits := digits_of_checked shape.1 decimal (by simp [shape.2])
    simp only [List.map_cons, List.map_nil, checkFraction, checks_ok] at checked
    obtain ⟨proper, plain, -⟩ := checked
    have plain : ∀ c ∈ fraction, isDecimalDigit c = true := by simpa using plain
    rw [len_digits plain] at proper
    simp at proper
    refine ⟨whole, fraction, ⟨digits, plain, proper.2.1, proper.2.2⟩, ?_⟩
    rw [pointed, if_neg proper.1, joined]
  · simp [parts] at shape

/-- `strings.TrimRight` takes exactly the padding away from a fraction that does not end in a zero. -/
theorem rdropWhile_padded {fraction : List Char} (last : fraction.getLast? ≠ some '0') (padding : Nat) :
    (fraction ++ List.replicate padding '0').rdropWhile (· = '0') = fraction := by
  induction padding with
  | zero =>
    rw [List.replicate_zero, List.append_nil, List.rdropWhile_eq_self_iff]
    intro nonempty zero
    exact last (by rw [List.getLast?_eq_some_getLast nonempty, of_decide_eq_true zero])
  | succ padding ih =>
    rw [List.replicate_succ', ← List.append_assoc, List.rdropWhile_concat_pos _ _ _ (by decide), ih]

/-- One text has the value: the digits decide the parts, since the fraction is what is left of them without zeros. -/
theorem decimalToBaseUnits_injective {first second : String} {width : Nat} {units : Int}
    (converted : decimalToBaseUnits first width = .ok units) (converted' : decimalToBaseUnits second width = .ok units) :
    first = second := by
  obtain ⟨whole, fraction, canonical, spelled⟩ := decimalToBaseUnits_canonical converted
  obtain ⟨whole', fraction', canonical', spelled'⟩ := decimalToBaseUnits_canonical converted'
  rw [canonical.converts spelled] at converted
  rw [canonical'.converts spelled', ← converted] at converted'
  have value := Int.ofNat.inj (Except.ok.inj converted')
  have words := canonical.baseDigits_digits.injective canonical'.baseDigits_digits value.symm
  have padded : ∀ {fraction : List Char}, fraction.length ≤ width →
      (fraction ++ List.replicate (width - fraction.length) '0').length = width := by
    intro fraction fits
    rw [List.length_append, List.length_replicate]
    omega
  obtain ⟨wholes, fractions⟩ := List.append_inj' words (by rw [padded canonical.fits, padded canonical'.fits])
  have sameFraction := congrArg (List.rdropWhile (· = '0')) fractions
  rw [rdropWhile_padded canonical.last, rdropWhile_padded canonical'.last] at sameFraction
  apply String.toList_injective
  rw [spelled, spelled', wholes, sameFraction]

/-! ### Base units -/

/-- The text does not begin with a sign, which `SetString` would take. -/
def Unsigned (text : String) : Prop := text.toList.head? ≠ some '+' ∧ text.toList.head? ≠ some '-'

theorem parseBig_unsigned {text : String} {value : Int} (plain : Unsigned text) (read : parseBig text = some value) :
    text.toList ≠ [] ∧ (∀ c ∈ text.toList, isDecimalDigit c = true) ∧ value = Nat.ofDigitChars 10 text.toList 0 := by
  have checked : text.toList ≠ [] ∧ ∀ c ∈ text.toList, isDecimalDigit c = true := by
    obtain ⟨plus, minus⟩ := plain
    rw [parseBig] at read
    split at read
    next spelled => simp [spelled] at minus
    next spelled => simp [spelled] at plus
    next =>
      dsimp only at read
      split at read
      · cases read
      next digits => simpa using digits
  refine ⟨checked.1, checked.2, ?_⟩
  have again := parseBig_digits checked.1 checked.2
  rw [String.ofList_toList, read] at again
  exact Option.some.inj again

namespace Amount

/-- What `Validate` checks, with the integer that both texts denote. -/
theorem validate_iff {a : Amount} : a.validate = .ok () ↔ a.decimals ≤ 36 ∧ ∃ units : Int,
    decimalToBaseUnits a.decimal a.decimals = .ok units ∧ a.baseUnits ≠ "" ∧ ¬leadingZero a.baseUnits = true ∧
      parseBig a.baseUnits = some units ∧ 0 ≤ units := by
  rw [validate, guard_ok, rejectIf_ok, Nat.not_lt, bind_ok]
  refine and_congr_right fun _ => exists_congr fun units => and_congr_right fun _ => ?_
  rw [guard_ok, rejectIf_ok, not_or, and_assoc]
  refine and_congr_right fun _ => and_congr_right fun _ => ?_
  cases parseBig a.baseUnits with
  | none => simp
  | some got =>
    simp only [checks_ok, Option.some.injEq, Int.not_lt, Decidable.not_not]
    constructor
    · rintro ⟨least, rfl⟩
      exact ⟨rfl, least⟩
    · rintro ⟨rfl, least⟩
      exact ⟨least, rfl⟩

theorem baseInt_iff {a : Amount} {units : Int} :
    a.baseInt = .ok units ↔ a.validate = .ok () ∧ parseBig a.baseUnits = some units := by
  rw [baseInt, guard_ok]
  refine and_congr_right fun _ => ?_
  cases parseBig a.baseUnits <;> simp

theorem unsigned_of_digits {text : String} (decimal : ∀ c ∈ text.toList, isDecimalDigit c = true) : Unsigned text := by
  constructor <;> intro sign <;> exact absurd (decimal _ (List.mem_of_mem_head? sign)) (by decide)

/-- The base units of an accepted amount as its own decimal would be written. -/
theorem digits_baseUnits {a : Amount} (accepted : a.validate = .ok ()) (plain : Unsigned a.baseUnits) :
    Digits 0 a.baseUnits.toList := by
  obtain ⟨-, units, -, -, lead, read, -⟩ := validate_iff.mp accepted
  obtain ⟨nonempty, decimal, -⟩ := parseBig_unsigned plain read
  exact digits_of_checked nonempty decimal (by rwa [String.ofList_toList])

theorem validate_spelled {a : Amount} {n : Nat} (accepted : a.validate = .ok ()) (read : parseBig a.baseUnits = some (n : Int)) :
    ({ a with baseUnits := toString n } : Amount).validate = .ok () := by
  obtain ⟨small, units, converted, -, -, read', -⟩ := validate_iff.mp accepted
  have digits := digits_toString n
  have nonempty : toString n ≠ "" := fun empty => by rw [empty] at digits; exact absurd digits.long (by decide)
  obtain rfl : units = n := Option.some.inj (read'.symm.trans read)
  have lead : ¬leadingZero (toString n) = true := by
    rw [← String.ofList_toList (s := toString n), leadingZero_digits digits.decimal]
    exact fun ⟨spare, zero⟩ => digits.lead spare zero
  exact validate_iff.mpr ⟨small, n, converted, nonempty, lead, parseBig_toString n, Int.natCast_nonneg n⟩

/-- An amount stands for its value if and only if its base units have no sign: then its decimal is the decimal of every
accepted amount of that value, and its base units are those of every one of them without a sign. -/
theorem unique_iff_unsigned {a : Amount} (accepted : a.validate = .ok ()) :
    (∀ b : Amount, b.validate = .ok () → b.decimals = a.decimals → b.baseInt = a.baseInt →
      b.decimal = a.decimal ∧ (Unsigned b.baseUnits → b.baseUnits = a.baseUnits)) ↔ Unsigned a.baseUnits := by
  obtain ⟨-, units, converted, -, -, read, nonneg⟩ := validate_iff.mp accepted
  have value := baseInt_iff.mpr ⟨accepted, read⟩
  constructor
  · intro unique
    -- the spelling of the value is one of the amounts that it is compared with
    obtain ⟨n, rfl⟩ := Int.eq_ofNat_of_zero_le nonneg
    have respelled := validate_spelled accepted read
    have sameValue := (baseInt_iff.mpr ⟨respelled, parseBig_toString n⟩).trans value.symm
    have plain : Unsigned (toString n) := unsigned_of_digits (digits_toString n).decimal
    exact (unique _ respelled rfl sameValue).2 plain ▸ plain
  · intro plain b accepted' sameDecimals sameValue
    obtain ⟨-, units', converted', -, -, read', -⟩ := validate_iff.mp accepted'
    rw [value, baseInt_iff.mpr ⟨accepted', read'⟩] at sameValue
    cases sameValue
    refine ⟨decimalToBaseUnits_injective (sameDecimals ▸ converted') converted, fun plain' => ?_⟩
    have values := (parseBig_unsigned plain' read').2.2.symm.trans (parseBig_unsigned plain read).2.2
    exact String.toList_injective
      ((digits_baseUnits accepted' plain').injective (digits_baseUnits accepted plain) (Int.ofNat.inj values))

/-- The five base units of a token with six decimals. -/
theorem unique_iff_unsigned_five :
    (⟨"0.000005", "5", 6⟩ : Amount).validate = .ok () ∧ ((∀ b : Amount, b.validate = .ok () → b.decimals = 6 →
      b.baseInt = (⟨"0.000005", "5", 6⟩ : Amount).baseInt → b.decimal = "0.000005" ∧
        (Unsigned b.baseUnits → b.baseUnits = "5")) ↔ Unsigned "5") :=
  ⟨by decide, unique_iff_unsigned (a := ⟨"0.000005", "5", 6⟩) (by decide)⟩

/-- The same five base units are accepted with a sign. -/
theorem signed_accepted : ∃ a b : Amount, a.validate = .ok () ∧ b.validate = .ok () ∧ a.decimals = b.decimals ∧
    a.baseInt = b.baseInt ∧ a.baseUnits ≠ b.baseUnits :=
  ⟨⟨"0.000005", "5", 6⟩, ⟨"0.000005", "+5", 6⟩, by decide⟩

end Amount

end WizPay.Intents
