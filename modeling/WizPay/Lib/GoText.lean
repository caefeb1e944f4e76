import Mathlib

/-!
# Text as Go programs see it

A Go string that crosses a text column or a JSON boundary is valid UTF-8, so `String`
stands for it: `len` counts bytes, and `range` visits the characters.
-/
namespace GoText

variable (text : String)

/-- `len` of a string counts its UTF-8 bytes. -/
def len : Nat := text.utf8ByteSize

/-- The bytes of a string, as `[]byte` converts them. -/
def bytes : List UInt8 := text.toByteArray.data.toList

theorem bytes_injective : Function.Injective bytes := by
  intro first second same
  apply String.toByteArray_inj.mp
  apply ByteArray.ext
  exact Array.toList_inj.mp same

/-- `unicode.IsSpace`. -/
def isSpace (c : Char) : Bool :=
  let n := c.toNat
  (9 ≤ n && n ≤ 13) || n == 0x20 || n == 0x85 || n == 0xA0 || n == 0x1680 ||
    (0x2000 ≤ n && n ≤ 0x200A) || n == 0x2028 || n == 0x2029 || n == 0x202F || n == 0x205F ||
    n == 0x3000

/-- `unicode.IsControl`: the C0 and C1 control characters. -/
def isControl (c : Char) : Bool :=
  let n := c.toNat
  n < 0x20 || (0x7F ≤ n && n < 0xA0)

/-- `strings.TrimSpace`. -/
def trimSpace : String :=
  String.ofList ((text.toList.dropWhile isSpace).rdropWhile isSpace)

/-- `strings.IndexFunc(text, unicode.IsControl) >= 0`. -/
def hasControl : Bool := text.toList.any isControl

/-- `'A' <= c && c <= 'Z'`. -/
def isUpperLetter (c : Char) : Bool := 'A'.toNat ≤ c.toNat && c.toNat ≤ 'Z'.toNat

/-- `'0' <= c && c <= '9'`. -/
def isDecimalDigit (c : Char) : Bool := '0'.toNat ≤ c.toNat && c.toNat ≤ '9'.toNat

/-- `unicode.ToLower` as far as ASCII comparisons can see it: the ASCII capitals and
the two other characters whose lower case is an ASCII letter. -/
def lowerChar (c : Char) : Char :=
  if isUpperLetter c then Char.ofNat (c.toNat + 32)
  else if c.toNat = 0x130 then 'i'
  else if c.toNat = 0x212A then 'k'
  else c

/-- `strings.ToLower`. -/
def toLower : String := String.ofList (text.toList.map lowerChar)

/-- The representative of a character's case-folding orbit, as far as ASCII letters are
concerned: the Kelvin sign folds to `k` and the long s to `s`. -/
def foldChar (c : Char) : Char :=
  if isUpperLetter c then Char.ofNat (c.toNat + 32)
  else if c.toNat = 0x212A then 'k'
  else if c.toNat = 0x17F then 's'
  else c

/-- `strings.EqualFold`. -/
def equalFold (first second : String) : Bool := first.toList.map foldChar == second.toList.map foldChar

def splitChars (separator : Char) : List Char → List (List Char)
  | [] => [[]]
  | c :: rest =>
    if c = separator then [] :: splitChars separator rest
    else
      match splitChars separator rest with
      | [] => [[c]]
      | segment :: others => (c :: segment) :: others

/-- `strings.Split` at a one-character separator. -/
def split (separator : Char) : List String :=
  (splitChars separator text.toList).map String.ofList

def cutChars (separator : Char) : List Char → Option (List Char × List Char)
  | [] => none
  | c :: rest =>
    if c = separator then some ([], rest)
    else (cutChars separator rest).map fun (before, after) => (c :: before, after)

/-- `strings.Cut` at a one-character separator; `none` when it does not occur. -/
def cut (separator : Char) : Option (String × String) :=
  (cutChars separator text.toList).map fun (before, after) => (String.ofList before, String.ofList after)

/-- The verb `%q` for printable text. -/
def quote : String :=
  let escaped := text.toList.flatMap fun c => if c = '"' || c = '\\' then ['\\', c] else [c]
  String.ofList ('"' :: escaped ++ ['"'])

def isInfix (word : List Char) : List Char → Bool
  | [] => word.isEmpty
  | c :: rest => word.isPrefixOf (c :: rest) || isInfix word rest

/-- `strings.Contains(text, word)`. -/
def contains (text word : String) : Bool := isInfix word.toList text.toList

/-- The characters of a literal: `spelled` is `rfl` and costs nothing, where evaluating `toList` decodes bytes. -/
theorem toList_literal {text : String} {chars : List Char} (spelled : text = String.ofList chars) :
    text.toList = chars := by rw [spelled, String.toList_ofList]

theorem forall_literal {text : String} {chars : List Char} {p : Char → Bool} (spelled : text = String.ofList chars)
    (all : chars.all p = true) : ∀ c ∈ text.toList, p c = true := by
  rw [toList_literal spelled]
  exact List.all_eq_true.mp all

@[simp] theorem trimSpace_empty : trimSpace "" = "" := by decide

@[simp] theorem toLower_empty : toLower "" = "" := by decide

variable {c : Char}

/-- A capital is mapped to its small letter, 32 places on. -/
theorem toNat_capital (upper : isUpperLetter c = true) :
    (Char.ofNat (c.toNat + 32)).toNat = c.toNat + 32 ∧ 65 ≤ c.toNat ∧ c.toNat ≤ 90 := by
  simp only [isUpperLetter, Bool.and_eq_true, decide_eq_true_eq] at upper
  have hA : 'A'.toNat = 65 := rfl
  have hZ : 'Z'.toNat = 90 := rfl
  have valid : (c.toNat + 32).isValidChar := by
    left
    omega
  refine ⟨?_, by omega, by omega⟩
  rw [Char.ofNat, dif_pos valid]
  rfl

theorem isUpperLetter_false (outside : c.toNat < 65 ∨ 90 < c.toNat) : isUpperLetter c = false := by
  have hA : 'A'.toNat = 65 := rfl
  have hZ : 'Z'.toNat = 90 := rfl
  simp only [isUpperLetter, hA, hZ, Bool.and_eq_false_iff, decide_eq_false_iff_not]
  omega

theorem lowerChar_idempotent (c : Char) : lowerChar (lowerChar c) = lowerChar c := by
  unfold lowerChar
  split
  next upper =>
    -- a lowered capital is a letter between 'a' and 'z'
    obtain ⟨code, low, high⟩ := toNat_capital upper
    have notUpper := isUpperLetter_false (c := Char.ofNat (c.toNat + 32)) (by omega)
    rw [if_neg (by simp [notUpper]), if_neg (by rw [code]; omega), if_neg (by rw [code]; omega)]
  next plain =>
    split
    next => decide
    next =>
      split
      next => decide
      next => simp_all

@[simp] theorem toLower_idempotent : toLower (toLower text) = toLower text := by
  simp only [toLower, String.toList_ofList, List.map_map]
  congr 1
  exact List.map_congr_left fun c _ => lowerChar_idempotent c

@[simp] theorem len_append (first second : String) :
    len (first ++ second) = len first + len second := String.utf8ByteSize_append

theorem trimSpace_of_no_space {text : String} (clean : ∀ c ∈ text.toList, isSpace c = false) :
    trimSpace text = text := by
  have left : text.toList.dropWhile isSpace = text.toList := by
    rw [List.dropWhile_eq_self_iff]
    intro nonempty
    simp [clean _ (List.getElem_mem nonempty)]
  have right : text.toList.rdropWhile isSpace = text.toList := by
    rw [List.rdropWhile_eq_self_iff]
    intro nonempty
    simp [clean _ (List.getLast_mem nonempty)]
  rw [trimSpace, left, right, String.ofList_toList]

private theorem dropWhile_rdropWhile_comm {α : Type} (p : α → Bool) (items : List α) :
    ((items.dropWhile p).rdropWhile p).dropWhile p = (items.dropWhile p).rdropWhile p := by
  rw [List.dropWhile_eq_self_iff]
  intro nonempty
  -- what is left starts where the left trim stopped
  have shorter := List.rdropWhile_prefix p (items.dropWhile p)
  have bound : 0 < (items.dropWhile p).length := Nat.lt_of_lt_of_le nonempty shorter.length_le
  rw [shorter.getElem nonempty]
  exact List.dropWhile_get_zero_not p items bound

@[simp] theorem trimSpace_idempotent : trimSpace (trimSpace text) = trimSpace text := by
  simp only [trimSpace, String.toList_ofList]
  rw [dropWhile_rdropWhile_comm, List.rdropWhile_idempotent]

/-! ### Case and surrounding space -/

theorem isSpace_letter (letter : 65 ≤ c.toNat ∧ c.toNat ≤ 122) : isSpace c = false := by
  simp only [isSpace, Bool.or_eq_false_iff, Bool.and_eq_false_iff, decide_eq_false_iff_not, beq_eq_false_iff_ne]
  omega

theorem isSpace_lowerChar (c : Char) : isSpace (lowerChar c) = isSpace c := by
  unfold lowerChar
  split
  next upper =>
    obtain ⟨code, low, high⟩ := toNat_capital upper
    rw [isSpace_letter (by omega), isSpace_letter (by omega)]
  next =>
    split
    next dotted => simp only [isSpace, dotted]; rfl
    next =>
      split
      next kelvin => simp only [isSpace, kelvin]; rfl
      next => rfl

theorem isSpace_foldChar (c : Char) : isSpace (foldChar c) = isSpace c := by
  unfold foldChar
  split
  next upper =>
    obtain ⟨code, low, high⟩ := toNat_capital upper
    rw [isSpace_letter (by omega), isSpace_letter (by omega)]
  next =>
    split
    next kelvin => simp only [isSpace, kelvin]; rfl
    next =>
      split
      next long => simp only [isSpace, long]; rfl
      next => rfl

/-- A map of characters that keeps spaces apart from the rest commutes with trimming. -/
theorem trimmed_map (f : Char → Char) (keeps : ∀ c, isSpace (f c) = isSpace c) (chars : List Char) :
    ((chars.map f).dropWhile isSpace).rdropWhile isSpace =
      ((chars.dropWhile isSpace).rdropWhile isSpace).map f := by
  have same : isSpace ∘ f = isSpace := funext keeps
  simp only [List.rdropWhile, List.dropWhile_map, same, ← List.map_reverse]

theorem trimSpace_toLower : trimSpace (toLower text) = toLower (trimSpace text) := by
  simp only [trimSpace, toLower, String.toList_ofList, trimmed_map lowerChar isSpace_lowerChar]

@[simp] theorem normal_idempotent :
    toLower (trimSpace (toLower (trimSpace text))) = toLower (trimSpace text) := by
  rw [trimSpace_toLower, trimSpace_idempotent, toLower_idempotent]

/-- Lowering stays within the folding orbit of every character but the dotted capital I. -/
theorem foldChar_lowerChar (plain : c.toNat ≠ 0x130) : foldChar (lowerChar c) = foldChar c := by
  unfold lowerChar
  split
  next upper =>
    obtain ⟨code, low, high⟩ := toNat_capital upper
    have notUpper := isUpperLetter_false (c := Char.ofNat (c.toNat + 32)) (by omega)
    rw [foldChar, foldChar, if_pos upper, if_neg (by simp [notUpper]), if_neg (by omega), if_neg (by omega)]
  next lower =>
    split
    next kelvin => rw [foldChar, foldChar, if_neg lower, if_pos kelvin]; decide
    next => rfl

theorem foldChar_lowerChar_ne (c : Char) : (foldChar (lowerChar c)).toNat ≠ 0x130 := by
  by_cases plain : c.toNat = 0x130
  · have lowered : lowerChar c = 'i' := by
      rw [lowerChar, if_neg (by simp [isUpperLetter_false (c := c) (by omega)]), if_pos plain]
    rw [lowered]
    decide
  · rw [foldChar_lowerChar plain, foldChar]
    split
    next upper =>
      obtain ⟨code, low, high⟩ := toNat_capital upper
      omega
    next =>
      split
      next => decide
      next =>
        split
        next => decide
        next => exact plain

theorem equalFold_iff {first second : String} :
    equalFold first second = true ↔ first.toList.map foldChar = second.toList.map foldChar := by
  simp [equalFold]

theorem equalFold_trans {first second third : String} (left : equalFold first second = true)
    (right : equalFold second third = true) : equalFold first third = true :=
  equalFold_iff.mpr ((equalFold_iff.mp left).trans (equalFold_iff.mp right))

@[simp] theorem equalFold_refl : equalFold text text = true := equalFold_iff.mpr rfl

/-- A text that folds to a normal one still does after it is trimmed and lowered. -/
theorem equalFold_normal {first second : String}
    (equal : equalFold (toLower (trimSpace first)) second = true) :
    equalFold (toLower (trimSpace first)) (toLower (trimSpace second)) = true := by
  rw [equalFold_iff] at equal ⊢
  have trimmed : (trimSpace second).toList.map foldChar = (toLower (trimSpace first)).toList.map foldChar := by
    rw [trimSpace, String.toList_ofList, ← trimmed_map foldChar isSpace_foldChar, ← equal,
      trimmed_map foldChar isSpace_foldChar, ← trimSpace_idempotent first, ← trimSpace_toLower]
    simp only [trimSpace, String.toList_ofList]
    rw [dropWhile_rdropWhile_comm, List.rdropWhile_idempotent]
  -- no character of `second` is the dotted capital I: it folds to no character of a lowered text
  have plain : ∀ c ∈ (trimSpace second).toList, c.toNat ≠ 0x130 := by
    intro c member dotted
    have folded : foldChar c ∈ (toLower (trimSpace first)).toList.map foldChar :=
      trimmed ▸ List.mem_map_of_mem member
    simp only [toLower, String.toList_ofList, List.map_map, List.mem_map, Function.comp_apply] at folded
    obtain ⟨d, _, same⟩ := folded
    have fixed : foldChar c = c := by
      rw [foldChar, if_neg (by simp [isUpperLetter_false (c := c) (by omega)]), if_neg (by omega), if_neg (by omega)]
    exact foldChar_lowerChar_ne d (by rw [same, fixed, dotted])
  rw [← trimmed, toLower, String.toList_ofList, List.map_map]
  exact List.map_congr_left fun c member => (foldChar_lowerChar (plain c member)).symm

/-! ### Decimal text -/

theorem isDecimalDigit_of_isDigit (digit : c.isDigit = true) : isDecimalDigit c = true := by
  simp only [Char.isDigit, Bool.and_eq_true, decide_eq_true_eq] at digit
  simp only [isDecimalDigit, Bool.and_eq_true, decide_eq_true_eq]
  exact digit

theorem decimal_digits {n : Nat} : ∀ c ∈ (toString n).toList, isDecimalDigit c = true := by
  intro c member
  have digits : (toString n).toList = Nat.toDigits 10 n := Nat.toList_repr
  rw [digits] at member
  exact isDecimalDigit_of_isDigit (Nat.isDigit_of_mem_toDigits (by decide) (by decide) member)

/-- `new(big.Int).SetString(text, 10)`: an optional sign and decimal digits. -/
def parseBig : Option Int :=
  let digitsOf (chars : List Char) : Option Int :=
    if chars.isEmpty || !chars.all isDecimalDigit then none
    else some (chars.foldl (fun value c => value * 10 + ((c.toNat - '0'.toNat : Nat) : Int)) 0)
  match text.toList with
  | '-' :: rest => (digitsOf rest).map Int.neg
  | '+' :: rest => digitsOf rest
  | chars => digitsOf chars

/-- Digits read as an integer have the value they have as a natural number. -/
theorem foldl_digits_cast (chars : List Char) (value : Nat) :
    chars.foldl (fun (total : Int) c => total * 10 + ((c.toNat - '0'.toNat : Nat) : Int)) (value : Int) =
      (Nat.ofDigitChars 10 chars value : Int) := by
  induction chars generalizing value with
  | nil => rfl
  | cons c rest ih =>
    have step : (value : Int) * 10 + ((c.toNat - '0'.toNat : Nat) : Int) =
        ((10 * value + (c.toNat - '0'.toNat) : Nat) : Int) := by omega
    rw [List.foldl_cons, step, ih, Nat.ofDigitChars_cons]

section ParseBig

variable {chars : List Char}

theorem parseBig_digits (nonempty : chars ≠ []) (decimal : ∀ c ∈ chars, isDecimalDigit c = true) :
    parseBig (String.ofList chars) = some (Nat.ofDigitChars 10 chars 0 : Int) := by
  have read := foldl_digits_cast chars 0
  have all : chars.all isDecimalDigit = true := List.all_eq_true.mpr decimal
  unfold parseBig
  rw [String.toList_ofList]
  -- a digit is neither sign
  split
  next => exact absurd (decimal '-' (.head _)) (by decide)
  next => exact absurd (decimal '+' (.head _)) (by decide)
  next => simpa [all, nonempty] using read

theorem parseBig_negative (nonempty : chars ≠ []) (decimal : ∀ c ∈ chars, isDecimalDigit c = true) :
    parseBig (String.ofList ('-' :: chars)) = some (-(Nat.ofDigitChars 10 chars 0 : Int)) := by
  have read := congrArg (fun value : Int => some (-value)) (foldl_digits_cast chars 0)
  have all : chars.all isDecimalDigit = true := List.all_eq_true.mpr decimal
  unfold parseBig
  rw [String.toList_ofList]
  have some : chars.isEmpty = false := List.isEmpty_eq_false_iff.mpr nonempty
  simp only [all, some, Bool.not_true, Bool.or_self, Bool.false_eq_true, if_false, Option.map_some]
  exact read

end ParseBig

theorem parseBig_toString (n : Nat) : parseBig (toString n) = some (n : Int) := by
  have digits : (toString n).toList = Nat.toDigits 10 n := Nat.toList_repr
  have spelled : toString n = String.ofList (Nat.toDigits 10 n) := by rw [← digits, String.ofList_toList]
  have decimal : ∀ c ∈ Nat.toDigits 10 n, isDecimalDigit c = true := by
    rw [← digits]
    exact decimal_digits
  rw [spelled, parseBig_digits Nat.toDigits_ne_nil decimal, Nat.ofDigitChars_ten_toDigits]

/-- An integer is read back from its text, with its sign. -/
theorem parseBig_int (z : Int) : parseBig (toString z) = some z := by
  cases z with
  | ofNat n => exact parseBig_toString n
  | negSucc n =>
    have digits : (toString (n + 1)).toList = Nat.toDigits 10 (n + 1) := Nat.toList_repr
    have decimal : ∀ c ∈ Nat.toDigits 10 (n + 1), isDecimalDigit c = true := by
      rw [← digits]
      exact decimal_digits
    have spelled : toString (Int.negSucc n) = String.ofList ('-' :: Nat.toDigits 10 (n + 1)) := by
      apply String.toList_injective
      rw [String.toList_ofList, ← digits]
      exact String.toList_append
    rw [spelled, parseBig_negative Nat.toDigits_ne_nil decimal, Nat.ofDigitChars_ten_toDigits]
    rfl

section Split

variable {separator : Char}

theorem splitChars_plain {chars : List Char} (plain : separator ∉ chars) : splitChars separator chars = [chars] := by
  induction chars with
  | nil => rfl
  | cons c rest ih =>
    rw [List.mem_cons, not_or] at plain
    rw [splitChars, if_neg (Ne.symm plain.1), ih plain.2]

theorem splitChars_append {first rest : List Char} (plain : separator ∉ first) :
    splitChars separator (first ++ separator :: rest) = first :: splitChars separator rest := by
  induction first with
  | nil => simp [splitChars]
  | cons c first ih =>
    rw [List.mem_cons, not_or] at plain
    rw [List.cons_append, splitChars, if_neg (Ne.symm plain.1), ih plain.2]

theorem splitChars_intercalate {first : List Char} {others : List (List Char)}
    (plain : ∀ segment ∈ first :: others, separator ∉ segment) :
    splitChars separator ([separator].intercalate (first :: others)) = first :: others := by
  induction others generalizing first with
  | nil =>
    rw [List.intercalate_singleton]
    exact splitChars_plain (plain first (.head _))
  | cons second others ih =>
    rw [List.intercalate_cons_cons, List.append_assoc, List.singleton_append,
      splitChars_append (plain first (.head _)), ih fun segment member => plain segment (.tail _ member)]

/-- Segments without the separator are read back as they were joined. -/
theorem split_intercalate {joint first : String} {others : List String} (single : joint.toList = [separator])
    (plain : ∀ segment ∈ first :: others, separator ∉ segment.toList) :
    split (joint.intercalate (first :: others)) separator = first :: others := by
  rw [split, String.toList_intercalate, single, List.map_cons, splitChars_intercalate]
  · simp [Function.comp_def]
  · intro segment member
    rw [← List.map_cons, List.mem_map] at member
    obtain ⟨text, isSegment, rfl⟩ := member
    exact plain text isSegment

theorem cutChars_append {before after : List Char} (plain : separator ∉ before) :
    cutChars separator (before ++ separator :: after) = some (before, after) := by
  induction before with
  | nil => simp [cutChars]
  | cons c before ih =>
    rw [List.mem_cons, not_or] at plain
    rw [List.cons_append, cutChars, if_neg (Ne.symm plain.1), ih plain.2]
    rfl

theorem cut_append {joint before after : String} (single : joint.toList = [separator])
    (plain : separator ∉ before.toList) : cut (before ++ joint ++ after) separator = some (before, after) := by
  rw [cut, String.toList_append, String.toList_append, single, List.append_assoc, List.singleton_append,
    cutChars_append plain]
  simp

end Split

section Graphic

/-- Printable ASCII characters other than the space. -/
def isGraphic (c : Char) : Bool := 33 ≤ c.toNat && c.toNat ≤ 126

theorem isGraphic_iff : isGraphic c = true ↔ 33 ≤ c.toNat ∧ c.toNat ≤ 126 := by
  simp only [isGraphic, Bool.and_eq_true, decide_eq_true_eq]

theorem isGraphic_plain (graphic : isGraphic c = true) :
    isSpace c = false ∧ isControl c = false ∧ c.utf8Size = 1 := by
  rw [isGraphic_iff] at graphic
  refine ⟨?_, ?_, ?_⟩
  · simp only [isSpace, Bool.or_eq_false_iff, Bool.and_eq_false_iff, decide_eq_false_iff_not, beq_eq_false_iff_ne]
    omega
  · simp only [isControl, Bool.or_eq_false_iff, Bool.and_eq_false_iff, decide_eq_false_iff_not]
    omega
  · apply Char.utf8Size_eq_one_iff.mpr
    exact UInt32.le_iff_toNat_le.mpr (Nat.le_succ_of_le graphic.2)

variable {text : String} (graphic : ∀ c ∈ text.toList, isGraphic c = true)
include graphic

theorem trimSpace_graphic : trimSpace text = text :=
  trimSpace_of_no_space fun c member => (isGraphic_plain (graphic c member)).1

theorem hasControl_graphic : hasControl text = false := by
  simp only [hasControl, List.any_eq_false, Bool.not_eq_true]
  exact fun c member => (isGraphic_plain (graphic c member)).2.1

theorem len_graphic : len text = text.toList.length := by
  have sizes : ∀ chars : List Char, (∀ c ∈ chars, isGraphic c = true) → (String.ofList chars).utf8ByteSize = chars.length := by
    intro chars plain
    induction chars with
    | nil => rfl
    | cons c rest ih =>
      rw [String.ofList_cons, String.utf8ByteSize_append, ih fun d member => plain d (List.mem_cons_of_mem _ member)]
      simp [(isGraphic_plain (plain c List.mem_cons_self)).2.2]
      omega
  rw [len, ← sizes text.toList graphic, String.ofList_toList]

end Graphic

end GoText
