import Mathlib
import WizPay.Contracts.Registry
import WizPay.Lib.Abi
import WizPay.Lib.Keccak

/-!
# Addresses as numbers

`internal/contracts/address.go` and the parts of `common.Address` it rests on. A valid
text names a number of 160 bits, and `Hex` spells it with the capitals of EIP-55.
-/
namespace WizPay.Contracts

open GoText Sha256

def digitValue (c : Char) : Nat :=
  if isDecimalDigit c then c.toNat - '0'.toNat
  else if 'a'.toNat ≤ c.toNat then c.toNat - 'a'.toNat + 10
  else c.toNat - 'A'.toNat + 10

theorem isHexCharacter_ofNat : ∀ n < 103, isHexCharacter (Char.ofNat n) = true →
    isGraphic (Char.ofNat n) = true ∧ digitValue (Char.ofNat n) < 16 ∧
      lowerChar (Char.ofNat n) = hexDigit (digitValue (Char.ofNat n)) := by
  decide +kernel

theorem isHexCharacter_facts {c : Char} (hex : isHexCharacter c = true) :
    isGraphic c = true ∧ digitValue c < 16 ∧ lowerChar c = hexDigit (digitValue c) := by
  have small : c.toNat < 103 := by
    simp only [isHexCharacter, isDecimalDigit, Bool.or_eq_true, Bool.and_eq_true, decide_eq_true_eq] at hex
    have nine : '9'.toNat = 57 := rfl
    have low : 'f'.toNat = 102 := rfl
    have high : 'F'.toNat = 70 := rfl
    omega
  have facts := isHexCharacter_ofNat c.toNat small
  rw [Char.ofNat_toNat] at facts
  exact facts hex

theorem map_digitValue_hexDigit {digits : List Nat} (low : ∀ d ∈ digits, d < 16) :
    (digits.map hexDigit).map digitValue = digits := by
  have back : ∀ d < 16, digitValue (hexDigit d) = d := by decide
  rw [List.map_map]
  exact (List.map_congr_left fun d member => back d (low d member)).trans (List.map_id digits)

/-- The number that digits stand for, the highest first. -/
def hexNumber (digits : List Nat) : Nat := digits.foldl (fun value digit => 16 * value + digit) 0

theorem foldl_hexNumber (digits : List Nat) (start : Nat) :
    digits.foldl (fun value digit => 16 * value + digit) start = start * 16 ^ digits.length + hexNumber digits := by
  induction digits generalizing start with
  | nil => simp [hexNumber]
  | cons digit rest ih =>
    have whole : hexNumber (digit :: rest) = (16 * 0 + digit) * 16 ^ rest.length + hexNumber rest := ih _
    rw [List.foldl_cons, ih, whole, List.length_cons, Nat.pow_succ]
    ring

theorem hexNumber_cons (digit : Nat) (rest : List Nat) :
    hexNumber (digit :: rest) = digit * 16 ^ rest.length + hexNumber rest := by
  rw [hexNumber, List.foldl_cons, foldl_hexNumber]
  simp

/-- Digits below the base are determined by their number. -/
theorem hexNumber_eq_ofDigits (digits : List Nat) : hexNumber digits = Nat.ofDigits 16 digits.reverse := by
  induction digits with
  | nil => rfl
  | cons digit rest ih =>
    rw [hexNumber_cons, ih, List.reverse_cons, Nat.ofDigits_append, List.length_reverse, Nat.ofDigits_singleton]
    ring

theorem hexNumber_injective {first second : List Nat} (length : first.length = second.length)
    (low : ∀ d ∈ first, d < 16) (low' : ∀ d ∈ second, d < 16) (same : hexNumber first = hexNumber second) :
    first = second := by
  rw [hexNumber_eq_ofDigits, hexNumber_eq_ofDigits] at same
  apply List.reverse_injective
  exact Nat.ofDigits_inj_of_len_eq (by decide) (by simpa using length) (by simpa using low) (by simpa using low') same

theorem hexNumber_lt {digits : List Nat} (low : ∀ d ∈ digits, d < 16) : hexNumber digits < 16 ^ digits.length := by
  rw [hexNumber_eq_ofDigits, ← List.length_reverse]
  exact Nat.ofDigits_lt_base_pow_length (by decide) (by simpa using low)

def hexDigits (n width : Nat) : List Nat := (List.range width).reverse.map fun i => n / 16 ^ i % 16

theorem hexDigits_succ (n width : Nat) : hexDigits n (width + 1) = n / 16 ^ width % 16 :: hexDigits n width := by
  simp [hexDigits, List.range_succ]

@[simp] theorem hexDigits_length (n width : Nat) : (hexDigits n width).length = width := by simp [hexDigits]

theorem hexDigits_lt {n width : Nat} : ∀ d ∈ hexDigits n width, d < 16 := by
  intro d member
  obtain ⟨i, _, rfl⟩ := List.mem_map.mp member
  exact Nat.mod_lt _ (by decide)

theorem hexNumber_hexDigits (n width : Nat) : hexNumber (hexDigits n width) = n % 16 ^ width := by
  induction width with
  | zero => simp [hexDigits, hexNumber, Nat.mod_one]
  | succ width ih =>
    rw [hexDigits_succ, hexNumber_cons, hexDigits_length, ih, Nat.pow_succ, Nat.mod_mul]
    ring

/-! ### The number that a text names -/

/-- `common.HexToAddress` of a valid address. -/
def hexToAddress (value : String) : BitVec 160 := BitVec.ofNat 160 (hexNumber ((value.toList.drop 2).map digitValue))

variable {value a b : String} {digits : List Char} {data topic : List UInt8}

theorem validAddress_iff :
    validAddress value = true ↔
      ∃ x digits, value.toList = '0' :: x :: digits ∧ (x = 'x' ∨ x = 'X') ∧ digits.length = 40 ∧
        ∀ d ∈ digits, isHexCharacter d = true := by
  have graphic : ∀ {x : Char} {digits : List Char}, value.toList = '0' :: x :: digits → (x = 'x' ∨ x = 'X') →
      (∀ d ∈ digits, isHexCharacter d = true) → len value = digits.length + 2 := by
    intro x digits spelled capital hex
    rw [len_graphic, spelled]
    · simp
    · intro c member
      rw [spelled] at member
      rcases List.mem_cons.mp member with rfl | member
      · decide
      rcases List.mem_cons.mp member with rfl | member
      · rcases capital with rfl | rfl <;> decide
      · exact (isHexCharacter_facts (hex c member)).1
  constructor
  · intro valid
    rw [validAddress, Bool.and_eq_true, decide_eq_true_eq] at valid
    obtain ⟨size, shape⟩ := valid
    split at shape
    next x digits spelled =>
      simp only [Bool.and_eq_true, Bool.or_eq_true, beq_iff_eq, List.all_eq_true] at shape
      have length := graphic spelled shape.1 shape.2
      exact ⟨x, digits, spelled, shape.1, by omega, shape.2⟩
    next => cases shape
  · rintro ⟨x, digits, spelled, capital, length, hex⟩
    have size := graphic spelled capital hex
    simp only [validAddress, spelled, Bool.and_eq_true, Bool.or_eq_true, beq_iff_eq, List.all_eq_true,
      decide_eq_true_eq]
    exact ⟨by omega, capital, hex⟩

/-- A literal is checked on its characters, without decoding bytes. -/
theorem validAddress_literal (spelled : value = String.ofList ('0' :: 'x' :: digits))
    (checked : (digits.length == 40 && digits.all isHexCharacter) = true) : validAddress value = true := by
  simp only [Bool.and_eq_true, beq_iff_eq, List.all_eq_true] at checked
  exact validAddress_iff.mpr ⟨'x', digits, toList_literal spelled, .inl rfl, checked⟩

theorem graphic_validAddress (valid : validAddress value = true) :
    ∀ c ∈ value.toList, isGraphic c = true := by
  obtain ⟨x, digits, spelled, capital, -, hex⟩ := validAddress_iff.mp valid
  intro c member
  rw [spelled] at member
  rcases List.mem_cons.mp member with rfl | member
  · decide
  rcases List.mem_cons.mp member with rfl | member
  · rcases capital with rfl | rfl <;> decide
  · exact (isHexCharacter_facts (hex c member)).1

theorem trimSpace_validAddress (valid : validAddress value = true) : trimSpace value = value :=
  trimSpace_graphic (graphic_validAddress valid)

theorem normalizeAddress_valid (valid : validAddress value = true) :
    normalizeAddress value = toLower value := by
  simp [normalizeAddress, trimSpace_validAddress valid, valid]

theorem digits_lt (hex : ∀ d ∈ digits, isHexCharacter d = true) :
    ∀ d ∈ digits.map digitValue, d < 16 := by
  intro d member
  obtain ⟨c, inside, rfl⟩ := List.mem_map.mp member
  exact (isHexCharacter_facts (hex c inside)).2.1

theorem toLower_address {x : Char} (spelled : value.toList = '0' :: x :: digits) (capital : x = 'x' ∨ x = 'X')
    (hex : ∀ d ∈ digits, isHexCharacter d = true) :
    (toLower value).toList = '0' :: 'x' :: (digits.map digitValue).map hexDigit := by
  have lowered : digits.map lowerChar = (digits.map digitValue).map hexDigit := by
    rw [List.map_map]
    exact List.map_congr_left fun c member => (isHexCharacter_facts (hex c member)).2.2
  have zero : lowerChar '0' = '0' := by decide
  have letter : lowerChar x = 'x' := by rcases capital with rfl | rfl <;> decide
  rw [toLower, String.toList_ofList, spelled, List.map_cons, List.map_cons, lowered, zero, letter]

theorem hexToAddress_toNat {x : Char} (spelled : value.toList = '0' :: x :: digits) (length : digits.length = 40)
    (hex : ∀ d ∈ digits, isHexCharacter d = true) :
    (hexToAddress value).toNat = hexNumber (digits.map digitValue) := by
  have small := hexNumber_lt (digits_lt hex)
  rw [List.length_map, length] at small
  rw [hexToAddress, spelled, List.drop_succ_cons, List.drop_succ_cons, List.drop_zero, BitVec.toNat_ofNat,
    Nat.mod_eq_of_lt (by simpa using small)]

theorem toLower_eq_iff (validA : validAddress a = true) (validB : validAddress b = true) :
    toLower a = toLower b ↔ hexToAddress a = hexToAddress b := by
  obtain ⟨x, digits, spelled, capital, length, hex⟩ := validAddress_iff.mp validA
  obtain ⟨x', digits', spelled', capital', length', hex'⟩ := validAddress_iff.mp validB
  have value := hexToAddress_toNat spelled length hex
  have value' := hexToAddress_toNat spelled' length' hex'
  have spelling := toLower_address spelled capital hex
  have spelling' := toLower_address spelled' capital' hex'
  have low := digits_lt hex
  have low' := digits_lt hex'
  constructor
  · intro same
    rw [same, spelling'] at spelling
    have tails := congrArg (List.map digitValue) (List.cons.inj (List.cons.inj spelling).2).2
    rw [map_digitValue_hexDigit low, map_digitValue_hexDigit low'] at tails
    apply BitVec.eq_of_toNat_eq
    rw [value, value', tails]
  · intro same
    have numbers : hexNumber (digits.map digitValue) = hexNumber (digits'.map digitValue) := by
      rw [← value, ← value', same]
    have digitsEq := hexNumber_injective (by simp [length, length']) low low' numbers
    apply String.toList_injective
    rw [spelling, spelling', digitsEq]

/-- **Texts are compared as the numbers they name.** -/
theorem addressesEqual_iff :
    addressesEqual a b = true ↔ validAddress a = true ∧ validAddress b = true ∧ hexToAddress a = hexToAddress b := by
  simp only [addressesEqual, Bool.and_eq_true, beq_iff_eq, and_assoc]
  refine and_congr_right fun validA => and_congr_right fun validB => ?_
  rw [normalizeAddress_valid validA, normalizeAddress_valid validB, toLower_eq_iff validA validB]

theorem addressesEqual_self {a : String} (valid : validAddress a = true) : addressesEqual a a = true :=
  addressesEqual_iff.mpr ⟨valid, valid, rfl⟩

theorem addressesEqual_symm (same : addressesEqual a b = true) : addressesEqual b a = true := by
  obtain ⟨validA, validB, names⟩ := addressesEqual_iff.mp same
  exact addressesEqual_iff.mpr ⟨validB, validA, names.symm⟩

theorem addressesEqual_trans {a b c : String} (first : addressesEqual a b = true) (second : addressesEqual b c = true) :
    addressesEqual a c = true := by
  obtain ⟨validA, -, names⟩ := addressesEqual_iff.mp first
  obtain ⟨-, validC, names'⟩ := addressesEqual_iff.mp second
  exact addressesEqual_iff.mpr ⟨validA, validC, names.trans names'⟩

/-! ### The reviewed addresses -/

theorem validAddress_payroll : validAddress addressWizPayPayroll = true := validAddress_literal rfl (by decide)

theorem validAddress_swapExecutor : validAddress addressWizPaySwapExecutor = true := validAddress_literal rfl (by decide)

theorem validAddress_usdc : validAddress addressUSDCMainnet = true := validAddress_literal rfl (by decide)

theorem validAddress_eurc : validAddress addressEURCMainnet = true := validAddress_literal rfl (by decide)

theorem validAddress_zero : validAddress addressZero = true := validAddress_literal rfl (by decide)

/-! ### The spelling of a number -/

/-- One character of `Address.checksumHex`: a letter is capital where the hash has a digit above 7. -/
def checksumDigit (digit hash : Nat) : Char :=
  let c := hexDigit digit
  if '9'.toNat < c.toNat ∧ 7 < hash then Char.ofNat (c.toNat - 32) else c

/-- `Address.Hex`. -/
def hex (address : BitVec 160) : String :=
  let digits := hexDigits address.toNat 40
  let hash := Keccak.sum256 (bytes (String.ofList (digits.map hexDigit)))
  String.ofList ('0' :: 'x' :: List.zipWith checksumDigit digits (hash.flatMap fun b => [b.toNat / 16, b.toNat % 16]))

theorem checksumDigit_facts : ∀ digit < 16, ∀ hash : Nat,
    isHexCharacter (checksumDigit digit hash) = true ∧ digitValue (checksumDigit digit hash) = digit := by
  intro digit low hash
  have both : ∀ digit < 16, isHexCharacter (hexDigit digit) = true ∧ digitValue (hexDigit digit) = digit ∧
      ('9'.toNat < (hexDigit digit).toNat → isHexCharacter (Char.ofNat ((hexDigit digit).toNat - 32)) = true ∧
        digitValue (Char.ofNat ((hexDigit digit).toNat - 32)) = digit) := by
    decide
  obtain ⟨small, value, capital⟩ := both digit low
  by_cases letter : '9'.toNat < (hexDigit digit).toNat ∧ 7 < hash
  · simp only [checksumDigit, if_pos letter]
    exact capital letter.1
  · simp only [checksumDigit, if_neg letter]
    exact ⟨small, value⟩

/-- What a spelling is made of, whatever the hash says about capitals. -/
theorem zipWith_checksumDigit {digits : List Nat} (hash : List Nat) (low : ∀ d ∈ digits, d < 16)
    (long : digits.length ≤ hash.length) :
    (∀ c ∈ List.zipWith checksumDigit digits hash, isHexCharacter c = true) ∧
      (List.zipWith checksumDigit digits hash).map digitValue = digits := by
  induction digits generalizing hash with
  | nil => simp
  | cons digit rest ih =>
    cases hash with
    | nil => cases long
    | cons nibble others =>
      obtain ⟨hex, value⟩ := checksumDigit_facts digit (low digit (.head _)) nibble
      obtain ⟨hexes, values⟩ := ih others (fun d member => low d (List.mem_cons_of_mem _ member)) (by simpa using long)
      constructor
      · rintro c (_ | ⟨_, member⟩)
        · exact hex
        · exact hexes c member
      · simp [value, values]

theorem hex_spelled (address : BitVec 160) :
    ∃ digits, (hex address).toList = '0' :: 'x' :: digits ∧ digits.length = 40 ∧
      (∀ c ∈ digits, isHexCharacter c = true) ∧ digits.map digitValue = hexDigits address.toNat 40 := by
  have long : ∀ hash : List UInt8, (hash.flatMap fun b => [b.toNat / 16, b.toNat % 16]).length = 2 * hash.length := by
    intro hash
    induction hash with
    | nil => rfl
    | cons b rest ih =>
      rw [List.flatMap_cons, List.length_append, ih]
      simp only [List.length_cons, List.length_nil]
      omega
  obtain ⟨hexes, values⟩ := zipWith_checksumDigit
    ((Keccak.sum256 (bytes (String.ofList ((hexDigits address.toNat 40).map hexDigit)))).flatMap
      fun b => [b.toNat / 16, b.toNat % 16]) (@hexDigits_lt address.toNat 40)
    (by simp [long])
  exact ⟨_, by simp [hex], by simp [long], hexes, values⟩

@[simp] theorem validAddress_hex (address : BitVec 160) : validAddress (hex address) = true := by
  obtain ⟨digits, spelled, length, hexes, -⟩ := hex_spelled address
  exact validAddress_iff.mpr ⟨'x', digits, spelled, .inl rfl, length, hexes⟩

/-- **The spelling of a number names it.** -/
@[simp] theorem hexToAddress_hex (address : BitVec 160) : hexToAddress (hex address) = address := by
  obtain ⟨digits, spelled, length, hexes, values⟩ := hex_spelled address
  apply BitVec.eq_of_toNat_eq
  rw [hexToAddress_toNat spelled length hexes, values, hexNumber_hexDigits, Nat.mod_eq_of_lt]
  simpa using address.isLt

/-- `ChecksumAddress`. -/
def checksumAddress (value : String) : String :=
  let trimmed := trimSpace value
  if validAddress trimmed then hex (hexToAddress trimmed) else trimmed

theorem checksumAddress_valid (valid : validAddress value = true) :
    checksumAddress value = hex (hexToAddress value) := by
  simp [checksumAddress, trimSpace_validAddress valid, valid]

theorem addressesEqual_checksumAddress (valid : validAddress value = true) :
    addressesEqual (checksumAddress value) value = true := by
  rw [checksumAddress_valid valid]
  exact addressesEqual_iff.mpr ⟨validAddress_hex _, valid, hexToAddress_hex _⟩

/-! ### Bytes as text -/

/-- `"0x" + fmt.Sprintf("%x", data)`. -/
def hexOfBytes (data : List UInt8) : String := String.ofList ('0' :: 'x' :: data.flatMap hexByte)

theorem hexByte_digits (b : UInt8) :
    (∀ c ∈ hexByte b, isHexCharacter c = true) ∧ (hexByte b).map digitValue = [b.toNat / 16, b.toNat % 16] := by
  have digit : ∀ n < 16, isHexCharacter (hexDigit n) = true ∧ digitValue (hexDigit n) = n := by decide
  have small := b.toNat_lt
  obtain ⟨hexHigh, high⟩ := digit (b.toNat / 16) (by omega)
  obtain ⟨hexLow, low⟩ := digit (b.toNat % 16) (by omega)
  constructor
  · rintro c (_ | ⟨_, _ | ⟨_, _ | _⟩⟩)
    · exact hexHigh
    · exact hexLow
  · simp [hexByte, high, low]

theorem hexBytes_digits (data : List UInt8) :
    (∀ c ∈ data.flatMap hexByte, isHexCharacter c = true) ∧ (data.flatMap hexByte).length = 2 * data.length ∧
      hexNumber ((data.flatMap hexByte).map digitValue) = Abi.number data := by
  induction data with
  | nil => exact ⟨by simp, rfl, rfl⟩
  | cons b rest ih =>
    obtain ⟨hexes, length, value⟩ := ih
    obtain ⟨hexFirst, first⟩ := hexByte_digits b
    refine ⟨?_, ?_, ?_⟩
    · intro c member
      rw [List.flatMap_cons] at member
      rcases List.mem_append.mp member with here | there
      · exact hexFirst c here
      · exact hexes c there
    · rw [List.flatMap_cons, List.length_append, length]
      simp only [hexByte, List.length_cons, List.length_nil]
      omega
    · have split : b.toNat / 16 * 16 + b.toNat % 16 = b.toNat := Nat.div_add_mod' _ _
      rw [List.flatMap_cons, List.map_append, first, List.cons_append, List.cons_append, List.nil_append, hexNumber_cons,
        hexNumber_cons, value, Abi.number_cons, List.length_cons, List.length_map, length, Nat.pow_succ, Nat.pow_mul]
      generalize b.toNat / 16 = high at split ⊢
      generalize b.toNat % 16 = low at split ⊢
      rw [← split]
      ring

theorem validAddress_hexOfBytes (length : data.length = 20) : validAddress (hexOfBytes data) = true := by
  obtain ⟨hexes, size, -⟩ := hexBytes_digits data
  exact validAddress_iff.mpr ⟨'x', data.flatMap hexByte, by simp [hexOfBytes], .inl rfl, by omega, hexes⟩

theorem hexToAddress_hexOfBytes (data : List UInt8) :
    hexToAddress (hexOfBytes data) = BitVec.ofNat 160 (Abi.number data) := by
  rw [hexToAddress, hexOfBytes, String.toList_ofList, List.drop_succ_cons, List.drop_succ_cons, List.drop_zero,
    (hexBytes_digits data).2.2]

/-- Valid addresses fold to the same text exactly when they name the same number. -/
theorem equalFold_address (validA : validAddress a = true) (validB : validAddress b = true) :
    equalFold a b = true ↔ hexToAddress a = hexToAddress b := by
  have folds : ∀ {value : String}, validAddress value = true → value.toList.map foldChar = (toLower value).toList := by
    intro value valid
    rw [toLower, String.toList_ofList]
    apply List.map_congr_left
    intro c member
    have low : c.toNat ≤ 126 := by
      have graphic := graphic_validAddress valid c member
      rw [isGraphic_iff] at graphic
      exact graphic.2
    rw [foldChar, lowerChar]
    split
    next => rfl
    next => rw [if_neg (by omega), if_neg (by omega), if_neg (by omega), if_neg (by omega)]
  rw [equalFold_iff, folds validA, folds validB, String.toList_inj, toLower_eq_iff validA validB]

/-! ### Topics -/

/-- `TopicAddress`. -/
def topicAddress (value : String) : List UInt8 := Abi.word (hexToAddress value).toNat

/-- `common.BytesToAddress` of the last twenty bytes of a word. -/
def addressOfWord (topic : List UInt8) : BitVec 160 := BitVec.ofNat 160 (Abi.number (topic.drop 12))

/-- `AddressFromTopic`. -/
def addressFromTopic (topic : List UInt8) : Option String :=
  if topic.length ≠ 32 then none
  else if (topic.take 12).any fun b => b ≠ 0 then none
  else some (hex (addressOfWord topic))

/-- The twelve bytes before the address are zero. -/
def CleanTopic (topic : List UInt8) : Prop := ∀ b ∈ topic.take 12, b = 0

instance (topic : List UInt8) : Decidable (CleanTopic topic) := inferInstanceAs (Decidable (∀ b ∈ topic.take 12, b = 0))

theorem number_clean (clean : ∀ b ∈ data, b = 0) : Abi.number data = 0 := by
  induction data with
  | nil => rfl
  | cons b rest ih =>
    rw [Abi.number_cons, ih fun c member => clean c (List.mem_cons_of_mem _ member), clean b List.mem_cons_self]
    simp

theorem clean_of_number (zero : Abi.number data = 0) : ∀ b ∈ data, b = 0 := by
  induction data with
  | nil => simp
  | cons b rest ih =>
    rw [Abi.number_cons] at zero
    have power : 0 < 256 ^ rest.length := Nat.pow_pos (by decide)
    have high : b.toNat = 0 := by
      by_contra nonzero
      have := Nat.mul_pos (Nat.pos_of_ne_zero nonzero) power
      omega
    rintro c (_ | ⟨_, member⟩)
    · exact UInt8.toNat_inj.mp high
    · exact ih (by omega) c member

/-- **A topic is the encoding of its address exactly when its first twelve bytes are zero.** -/
theorem topic_canonical_iff (length : topic.length = 32) :
    topic = Abi.word (addressOfWord topic).toNat ↔ CleanTopic topic := by
  have low := Abi.number_lt (topic.drop 12)
  rw [List.length_drop, length] at low
  have address : (addressOfWord topic).toNat = Abi.number (topic.drop 12) := by
    rw [addressOfWord, BitVec.toNat_ofNat, Nat.mod_eq_of_lt (by simpa using low)]
  have whole : Abi.number topic = Abi.number (topic.take 12) * 256 ^ 20 + Abi.number (topic.drop 12) := by
    have split := Abi.number_append (topic.take 12) (topic.drop 12)
    rwa [List.take_append_drop, List.length_drop, length] at split
  constructor
  · intro canonical
    apply clean_of_number
    have value := congrArg Abi.number canonical
    rw [address, Abi.number_word (lt_trans low (by decide)), whole] at value
    have : 0 < 256 ^ 20 := by decide
    by_contra nonzero
    have := Nat.mul_pos (Nat.pos_of_ne_zero nonzero) this
    omega
  · intro clean
    rw [number_clean clean, Nat.zero_mul, Nat.zero_add] at whole
    rw [address, ← whole, Abi.word_number length]

/-- A clean topic holds the address that its last bytes spell. -/
theorem topic_eq_word_iff (value : String) (length : topic.length = 32) :
    topic = Abi.word (hexToAddress value).toNat ↔
      CleanTopic topic ∧ hexToAddress (hexOfBytes (topic.drop 12)) = hexToAddress value := by
  rw [hexToAddress_hexOfBytes]
  change _ ↔ CleanTopic topic ∧ addressOfWord topic = hexToAddress value
  constructor
  · intro same
    have address : addressOfWord topic = hexToAddress value := by
      have whole : Abi.number topic = (hexToAddress value).toNat := by
        rw [same, Abi.number_word (lt_trans (hexToAddress value).isLt (by decide))]
      have split := Abi.number_append (topic.take 12) (topic.drop 12)
      rw [List.take_append_drop, List.length_drop, length, whole] at split
      have small := (hexToAddress value).isLt
      apply BitVec.eq_of_toNat_eq
      rw [addressOfWord, BitVec.toNat_ofNat]
      omega
    exact ⟨(topic_canonical_iff length).mp (by rw [address]; exact same), address⟩
  · rintro ⟨clean, address⟩
    rw [← address]
    exact (topic_canonical_iff length).mpr clean

theorem addressFromTopic_eq_some :
    addressFromTopic topic = some value ↔
      topic.length = 32 ∧ CleanTopic topic ∧ value = hex (addressOfWord topic) := by
  unfold addressFromTopic CleanTopic
  split
  next wrong => simp [wrong]
  next right =>
    have length : topic.length = 32 := not_not.mp right
    split
    next dirty =>
      obtain ⟨b, member, nonzero⟩ := List.any_eq_true.mp dirty
      have not_clean : ¬ ∀ b ∈ topic.take 12, b = 0 := fun clean => by simp [clean b member] at nonzero
      simp [not_clean]
    next clean =>
      have zero : ∀ b ∈ topic.take 12, b = 0 := by simpa using clean
      rw [Option.some.injEq, eq_comm]
      exact ⟨fun spelled => ⟨length, zero, spelled⟩, fun facts => facts.2.2⟩

end WizPay.Contracts
