import WizPay.Lib.GoText

/-!
# Instants

A `time.Time` is an `Int`: the nanoseconds since the zero time, January 1 of year 1,
UTC. A `timestamptz` column keeps microseconds and drops the rest.
-/
namespace GoTime

/-- `t.IsZero()`. -/
def isZero (t : Int) : Bool := t == 0

variable {t : Int}

@[simp] theorem isZero_iff : isZero t = true ↔ t = 0 := by simp [isZero]

/-- `time.Microsecond`, `time.Second` and `time.Hour` in nanoseconds. -/
def microsecond : Int := 1000

def second : Int := 1000000000

def hour : Int := 3600 * second

def minute : Int := 60 * second

/-- `t.Unix()`: whole seconds since January 1 of 1970. -/
def unix (t : Int) : Int := t / second - 62135596800

/-- What a `timestamptz` column keeps of an instant. -/
def truncMicros (t : Int) : Int := t - t % microsecond

/-- An instant that a `timestamptz` column keeps as it is. -/
def WholeMicros (t : Int) : Prop := t % microsecond = 0

instance (t : Int) : Decidable (WholeMicros t) := inferInstanceAs (Decidable (_ = _))

theorem truncMicros_eq_self_iff : truncMicros t = t ↔ WholeMicros t := by
  unfold truncMicros WholeMicros
  omega

theorem WholeMicros.trunc (whole : WholeMicros t) : truncMicros t = t :=
  truncMicros_eq_self_iff.mpr whole

theorem truncMicros_le (t : Int) : truncMicros t ≤ t := by
  unfold truncMicros microsecond
  omega

theorem truncMicros_mono {s t : Int} (le : s ≤ t) : truncMicros s ≤ truncMicros t := by
  unfold truncMicros microsecond
  omega

theorem wholeMicros_truncMicros (t : Int) : WholeMicros (truncMicros t) := by
  unfold WholeMicros truncMicros microsecond
  omega

@[simp] theorem truncMicros_idempotent (t : Int) : truncMicros (truncMicros t) = truncMicros t :=
  (wholeMicros_truncMicros t).trunc

/-! ### `Format(time.RFC3339Nano)` of a UTC time -/

/-- A decimal digit character. -/
def digit (n : Nat) : Char := Char.ofNat ('0'.toNat + n % 10)

/-- The last `width` decimal digits of `n`, most significant first. -/
def digits : Nat → Nat → List Char
  | 0, _ => []
  | width + 1, n => digits width (n / 10) ++ [digit n]

/-- `appendInt(b, n, width)`: at least `width` digits, zero padded. -/
def appendInt (n : Int) (width : Nat) : String :=
  let magnitude := toString n.natAbs
  let padded := String.ofList (List.replicate (width - magnitude.length) '0') ++ magnitude
  if n < 0 then "-" ++ padded else padded

/-- Year, month and day of the day `days` days after January 1 of year 1, in the
proleptic Gregorian calendar. Years are counted from March internally, so that
the leap day is the last of a year. -/
def civil (days : Int) : Int × Int × Int :=
  let z := days + 306
  let era := z / 146097
  let dayOfEra := z % 146097
  let yearOfEra := (dayOfEra - dayOfEra / 1460 + dayOfEra / 36524 - dayOfEra / 146096) / 365
  let dayOfYear := dayOfEra - (365 * yearOfEra + yearOfEra / 4 - yearOfEra / 100)
  let shifted := (5 * dayOfYear + 2) / 153
  let day := dayOfYear - (153 * shifted + 2) / 5 + 1
  let month := if shifted < 10 then shifted + 3 else shifted - 9
  (yearOfEra + era * 400 + (if month ≤ 2 then 1 else 0), month, day)

/-- The part of the text up to the whole second; `seconds` counts from the zero time. -/
def formatSeconds (seconds : Int) : String :=
  let date := civil (seconds / 86400)
  let clock := seconds % 86400
  appendInt date.1 4 ++ "-" ++ appendInt date.2.1 2 ++ "-" ++ appendInt date.2.2 2 ++ "T" ++
    appendInt (clock / 3600) 2 ++ ":" ++ appendInt (clock / 60 % 60) 2 ++ ":" ++ appendInt (clock % 60) 2

/-- `appendNano` with layout `.999999999`: trailing zeros are dropped, and a zero
fraction is dropped with its point. -/
def formatNanos (nanos : Nat) : String :=
  let shown := (digits 9 nanos).rdropWhile (· == '0')
  if shown.isEmpty then "" else "." ++ String.ofList shown

/-- `t.UTC().Format(time.RFC3339Nano)`. -/
def formatRFC3339Nano (t : Int) : String :=
  formatSeconds (t / second) ++ (formatNanos (t % second).toNat ++ "Z")

example : formatRFC3339Nano 63909770645123456789 = "2026-03-22T10:04:05.123456789Z" := by decide +kernel

theorem digits_length (width n : Nat) : (digits width n).length = width := by
  induction width generalizing n with
  | zero => rfl
  | succ width ih => simp [digits, ih]

theorem digit_injective {m n : Nat} (same : digit m = digit n) : m % 10 = n % 10 := by
  have small : ∀ a < 10, ∀ b < 10, Char.ofNat ('0'.toNat + a) = Char.ofNat ('0'.toNat + b) → a = b := by
    decide
  exact small _ (Nat.mod_lt m (by decide)) _ (Nat.mod_lt n (by decide)) same

theorem digits_injective {width m n : Nat} (hm : m < 10 ^ width) (hn : n < 10 ^ width)
    (same : digits width m = digits width n) : m = n := by
  induction width generalizing m n with
  | zero => omega
  | succ width ih =>
    simp only [digits] at same
    obtain ⟨higher, lowest⟩ := List.append_inj same (by simp only [digits_length])
    have last : m % 10 = n % 10 := digit_injective (by simpa using lowest)
    have rest : m / 10 = n / 10 := by
      apply ih _ _ higher
      · rw [Nat.pow_succ] at hm; omega
      · rw [Nat.pow_succ] at hn; omega
    omega

/-- What is dropped from the right can be put back when the length is known. -/
private theorem rdropWhile_pad (items : List Char) (c : Char) :
    items.rdropWhile (· == c) ++
      List.replicate (items.length - (items.rdropWhile (· == c)).length) c = items := by
  induction items using List.reverseRecOn with
  | nil => simp
  | append_singleton rest last ih =>
    by_cases same : last = c
    · subst same
      have shorter := (List.rdropWhile_prefix (· == last) rest).length_le
      rw [List.rdropWhile_concat_pos _ _ _ (by simp), List.length_append, List.length_singleton,
        Nat.sub_add_comm shorter, List.replicate_succ', ← List.append_assoc, ih]
    · rw [List.rdropWhile_concat_neg _ _ _ (by simpa using same)]
      simp

private theorem rdropWhile_injective {first second : List Char} {c : Char}
    (lengths : first.length = second.length)
    (same : first.rdropWhile (· == c) = second.rdropWhile (· == c)) : first = second := by
  rw [← rdropWhile_pad first c, ← rdropWhile_pad second c, same, lengths]

theorem formatNanos_injective {m n : Nat} (hm : m < 10 ^ 9) (hn : n < 10 ^ 9)
    (same : formatNanos m = formatNanos n) : m = n := by
  have shown : (digits 9 m).rdropWhile (· == '0') = (digits 9 n).rdropWhile (· == '0') := by
    unfold formatNanos at same
    simp only [List.isEmpty_iff] at same
    have point : ∀ chars : List Char, "" ≠ "." ++ String.ofList chars := by
      intro chars equal
      simpa using congrArg String.toList equal
    split at same
    next emptyFirst =>
      split at same
      next emptySecond => rw [emptyFirst, emptySecond]
      next => exact absurd same (point _)
    next =>
      split at same
      next => exact absurd same.symm (point _)
      next => exact String.ofList_inj.mp ((String.append_right_inj ".").mp same)
  exact digits_injective hm hn
    (rdropWhile_injective (by simp only [digits_length]) shown)

theorem formatRFC3339Nano_injective_of_same_second {s t : Int} (seconds : s / second = t / second)
    (same : formatRFC3339Nano s = formatRFC3339Nano t) : s = t := by
  unfold formatRFC3339Nano at same
  rw [seconds] at same
  have fraction := (String.append_left_inj "Z").mp ((String.append_right_inj _).mp same)
  have equal : (s % second).toNat = (t % second).toNat := by
    apply formatNanos_injective _ _ fraction
    all_goals
      unfold second
      omega
  have s_eq := Int.emod_add_mul_ediv s second
  have t_eq := Int.emod_add_mul_ediv t second
  unfold second at *
  omega

/-! ### Dates determine days -/

/-- A day of a century, counted in four-year cycles: the leap days before it are what the shorter cycle misses. -/
theorem dayOfYear_century {r b q s : Int} (low : 0 ≤ r) (high : r < 36524) (century : 0 ≤ b ∧ b ≤ 3)
    (cycles : q = (24 * b + r) / 1460) (year : s = (r - q) / 365) :
    0 ≤ s ∧ s < 100 ∧ 0 ≤ r - (365 * s + s / 4) ∧ r - (365 * s + s / 4) ≤ 365 := by
  obtain ⟨k, t, split, tlow, thigh⟩ : ∃ k t, r = 1461 * k + t ∧ 0 ≤ t ∧ t < 1461 :=
    ⟨r / 1461, r % 1461, by omega, by omega, by omega⟩
  have near : q = k ∧ 24 * b + k + t < 1460 ∨ q = k + 1 ∧ 1460 ≤ 24 * b + k + t := by omega
  rcases near with ⟨rfl, below⟩ | ⟨rfl, above⟩
  · have years : s = 4 * q + t / 365 := by omega
    have quarter : 0 ≤ t / 365 ∧ t / 365 ≤ 3 := by omega
    omega
  · have years : s = 4 * k + (t - 1) / 365 := by omega
    have quarter : 0 ≤ (t - 1) / 365 ∧ (t - 1) / 365 ≤ 3 := by omega
    omega

theorem dayOfYear_bounds {d y : Int} (low : 0 ≤ d) (high : d < 146097)
    (year : y = (d - d / 1460 + d / 36524 - d / 146096) / 365) :
    0 ≤ d - (365 * y + y / 4 - y / 100) ∧ d - (365 * y + y / 4 - y / 100) ≤ 365 := by
  by_cases last : d = 146096
  · subst last
    subst year
    decide
  obtain ⟨b, r, split, century, rlow, rhigh⟩ : ∃ b r, d = 36524 * b + r ∧ (0 ≤ b ∧ b ≤ 3) ∧ 0 ≤ r ∧ r < 36524 :=
    ⟨d / 36524, d % 36524, by omega, by omega, by omega, by omega⟩
  obtain ⟨slow, shigh, below, above⟩ := dayOfYear_century rlow rhigh century rfl rfl
  have whole : y = 100 * b + (r - (24 * b + r) / 1460) / 365 := by omega
  generalize (r - (24 * b + r) / 1460) / 365 = s at *
  have centuries : y / 100 = b := by omega
  have leaps : y / 4 = 25 * b + s / 4 := by omega
  omega

/-- The day that a date stands for. -/
def daysOf (date : Int × Int × Int) : Int :=
  let year := if date.2.1 ≤ 2 then date.1 - 1 else date.1
  let shifted := if 3 ≤ date.2.1 then date.2.1 - 3 else date.2.1 + 9
  let yearOfEra := year % 400
  year / 400 * 146097 + (365 * yearOfEra + yearOfEra / 4 - yearOfEra / 100) + ((153 * shifted + 2) / 5 + date.2.2 - 1) - 306

/-- A date is a month `m` of the year `y` of an era, both counted from March, and the days `q` since the first of March. -/
theorem civil_eq (days : Int) :
    ∃ e y m q : Int, (0 ≤ y ∧ y < 400) ∧ (0 ≤ m ∧ m < 12) ∧ m = (5 * q + 2) / 153 ∧
      days + 306 = e * 146097 + (365 * y + y / 4 - y / 100) + q ∧
      civil days = (y + e * 400 + (if (if m < 10 then m + 3 else m - 9) ≤ 2 then 1 else 0),
        if m < 10 then m + 3 else m - 9, q - (153 * m + 2) / 5 + 1) := by
  have low : 0 ≤ (days + 306) % 146097 := by omega
  have high : (days + 306) % 146097 < 146097 := by omega
  have bounds := dayOfYear_bounds low high rfl
  refine ⟨_, _, _, _, ?years, ?months, rfl, ?day, rfl⟩
  case years => omega
  case months => omega
  case day =>
    have era := Int.emod_add_mul_ediv (days + 306) 146097
    omega

theorem daysOf_civil (days : Int) : daysOf (civil days) = days := by
  obtain ⟨e, y, m, q, years, months, -, day, date⟩ := civil_eq days
  rw [date]
  have year : (y + e * 400) % 400 = y := by omega
  have eras : (y + e * 400) / 400 = e := by omega
  -- the months from March to December come first, then January and February of the next year
  by_cases early : m < 10
  · have later : ¬ m + 3 ≤ 2 := by omega
    have spring : 3 ≤ m + 3 := by omega
    simp only [daysOf, if_pos early, if_neg later, if_pos spring, Int.add_zero, Int.add_sub_cancel, year, eras]
    omega
  · have winter : m - 9 ≤ 2 := by omega
    have late : ¬ 3 ≤ m - 9 := by omega
    simp only [daysOf, if_neg early, if_pos winter, if_neg late, Int.add_sub_cancel, Int.sub_add_cancel, year, eras]
    omega

theorem civil_injective : Function.Injective civil :=
  Function.LeftInverse.injective daysOf_civil

theorem civil_bounds (days : Int) :
    (0 ≤ (civil days).2.1 ∧ (civil days).2.1 < 100) ∧ 0 ≤ (civil days).2.2 ∧ (civil days).2.2 < 100 := by
  obtain ⟨e, y, m, q, years, months, month, -, date⟩ := civil_eq days
  rw [date]
  dsimp only
  refine ⟨?_, by omega, by omega⟩
  split <;> omega

/-! ### Text that determines the instant -/


open GoText

theorem appendInt_toList (n : Int) (width : Nat) :
    ∃ pad, (appendInt n width).toList =
      (if n < 0 then ['-'] else []) ++ (List.replicate pad '0' ++ (toString n.natAbs).toList) := by
  refine ⟨width - (toString n.natAbs).length, ?_⟩
  unfold appendInt
  dsimp only
  split <;> simp

/-- The characters of a printed number are digits and signs. -/
theorem mem_appendInt {n : Int} {width : Nat} {c : Char} (member : c ∈ (appendInt n width).toList) :
    isDecimalDigit c = true ∨ c = '-' := by
  obtain ⟨pad, chars⟩ := appendInt_toList n width
  rw [chars, List.mem_append, List.mem_append] at member
  rcases member with sign | zero | digit
  · split at sign
    next => exact .inr (List.mem_singleton.mp sign)
    next => exact absurd sign (List.not_mem_nil)
  · rw [List.eq_of_mem_replicate zero]
    exact .inl (by decide)
  · exact .inl (decimal_digits c digit)

theorem parseBig_appendInt (n : Int) (width : Nat) : parseBig (appendInt n width) = some n := by
  obtain ⟨pad, chars⟩ := appendInt_toList n width
  have digits : ∀ c ∈ List.replicate pad '0' ++ (toString n.natAbs).toList, isDecimalDigit c = true := by
    intro c member
    rcases List.mem_append.mp member with zero | digit
    · rw [List.eq_of_mem_replicate zero]
      decide
    · exact decimal_digits c digit
  have nonempty : List.replicate pad '0' ++ (toString n.natAbs).toList ≠ [] := by
    simp [Nat.toList_repr]
  have value : Nat.ofDigitChars 10 (List.replicate pad '0' ++ (toString n.natAbs).toList) 0 = n.natAbs := by
    rw [Nat.ofDigitChars_append, Nat.ofDigitChars_replicate_zero, Nat.mul_zero]
    exact (congrArg (Nat.ofDigitChars 10 · 0) Nat.toList_repr).trans Nat.ofDigitChars_ten_toDigits
  rw [← String.ofList_toList (s := appendInt n width), chars]
  by_cases negative : n < 0
  · rw [if_pos negative]
    refine (parseBig_negative nonempty digits).trans ?_
    rw [value]
    congr 1
    omega
  · rw [if_neg negative]
    refine (parseBig_digits nonempty digits).trans ?_
    rw [value]
    congr 1
    omega

theorem appendInt_injective {m n : Int} {width : Nat} (same : appendInt m width = appendInt n width) : m = n := by
  have read := parseBig_appendInt m width
  rw [same, parseBig_appendInt] at read
  exact (Option.some.inj read).symm

/-- Two digits are enough for a number below a hundred. -/
theorem appendInt_two {n : Int} (small : 0 ≤ n ∧ n < 100) : (appendInt n 2).toList.length = 2 := by
  have table : ∀ k : Fin 100, (appendInt (k.val : Int) 2).toList.length = 2 := by decide +kernel
  have number := table ⟨n.toNat, by omega⟩
  rwa [show ((n.toNat : Nat) : Int) = n by omega] at number

/-- Two fields of the same width, each behind the same character, are equal when the whole is. -/
theorem field_inj {m n : Int} {c : Char} {first second : List Char} (hm : 0 ≤ m ∧ m < 100) (hn : 0 ≤ n ∧ n < 100)
    (same : c :: (appendInt m 2).toList ++ first = c :: (appendInt n 2).toList ++ second) : m = n ∧ first = second := by
  have lengths : (c :: (appendInt m 2).toList).length = (c :: (appendInt n 2).toList).length := by
    rw [List.length_cons, List.length_cons, appendInt_two hm, appendInt_two hn]
  obtain ⟨field, rest⟩ := List.append_inj same lengths
  rw [List.cons.injEq] at field
  exact ⟨appendInt_injective (String.toList_inj.mp field.2), rest⟩

/-- The date of the text, up to the letter between date and clock. -/
def dateText (date : Int × Int × Int) : List Char :=
  (appendInt date.1 4).toList ++ ('-' :: (appendInt date.2.1 2).toList ++ ('-' :: (appendInt date.2.2 2).toList))

/-- What follows that letter; `rest` is the fraction and the zone. -/
def clockText (clock : Int) (rest : List Char) : List Char :=
  (appendInt (clock / 3600) 2).toList ++
    (':' :: (appendInt (clock / 60 % 60) 2).toList ++ (':' :: (appendInt (clock % 60) 2).toList ++ rest))

theorem formatRFC3339Nano_toList (t : Int) :
    (formatRFC3339Nano t).toList = dateText (civil (t / second / 86400)) ++
      'T' :: clockText (t / second % 86400) ((formatNanos (t % second).toNat).toList ++ ['Z']) := by
  unfold formatRFC3339Nano formatSeconds dateText clockText
  simp

theorem dateText_injective {first second : Int} (same : dateText (civil first) = dateText (civil second)) :
    first = second := by
  obtain ⟨monthFirst, dayFirst⟩ := civil_bounds first
  obtain ⟨monthSecond, daySecond⟩ := civil_bounds second
  unfold dateText at same
  -- month and day have a fixed width, so the year is what stands before them
  obtain ⟨year, rest⟩ := List.append_inj' same (by simp [appendInt_two, monthFirst, dayFirst, monthSecond, daySecond])
  obtain ⟨month, rest⟩ := field_inj monthFirst monthSecond rest
  have day := appendInt_injective (String.toList_inj.mp (List.cons.inj rest).2)
  have years := appendInt_injective (String.toList_inj.mp year)
  exact civil_injective (Prod.ext years (Prod.ext month day))

theorem clockText_injective {first second : Int} {restFirst restSecond : List Char}
    (dayFirst : 0 ≤ first ∧ first < 86400) (daySecond : 0 ≤ second ∧ second < 86400)
    (same : clockText first restFirst = clockText second restSecond) : first = second ∧ restFirst = restSecond := by
  unfold clockText at same
  obtain ⟨hours, rest⟩ := field_inj (m := first / 3600) (n := second / 3600) (c := 'T') (by omega) (by omega)
    (congrArg ('T' :: ·) same)
  obtain ⟨minutes, rest⟩ := field_inj (by omega) (by omega) rest
  obtain ⟨seconds, rest⟩ := field_inj (by omega) (by omega) rest
  exact ⟨by omega, rest⟩

theorem t_not_mem_dateText (date : Int × Int × Int) : 'T' ∉ dateText date := by
  intro member
  have plain : ∀ {n : Int} {width : Nat}, 'T' ∉ (appendInt n width).toList := by
    intro n width inside
    rcases mem_appendInt inside with digit | sign
    · exact absurd digit (by decide)
    · exact absurd sign (by decide)
  simp [dateText, plain] at member

theorem formatRFC3339Nano_injective : Function.Injective formatRFC3339Nano := by
  intro s t same
  have chars := congrArg String.toList same
  rw [formatRFC3339Nano_toList, formatRFC3339Nano_toList] at chars
  have parts := congrArg (cutChars 'T') chars
  rw [cutChars_append (t_not_mem_dateText _), cutChars_append (t_not_mem_dateText _)] at parts
  simp only [Option.some.injEq, Prod.mk.injEq] at parts
  have days := dateText_injective parts.1
  obtain ⟨clock, -⟩ := clockText_injective (by omega) (by omega) parts.2
  apply formatRFC3339Nano_injective_of_same_second _ same
  omega

end GoTime
