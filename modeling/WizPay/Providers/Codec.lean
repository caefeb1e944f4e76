import WizPay.Providers.Reference
import WizPay.Lib.Digits

/-!
# Reading an encoded reference back

`Encode` joins named segments by semicolons and `ParseReference` reads them one by one.
No value that validation admits contains a semicolon.
-/
namespace WizPay.Providers

open Checks GoText

/-- What a reference that passes `Validate` is known to satisfy. -/
structure Reference.Valid (r : Reference) : Prop where
  provider : r.provider = .circleUserControlled
  chainID : validChainID r.chainID = true
  identified : r.challengeID ≠ "" ∨ r.providerTransactionID ≠ "" ∨ r.transactionHash ≠ ""
  challengeID : r.challengeID ≠ "" → validProviderIdentifier r.challengeID = true
  providerTransactionID : r.providerTransactionID ≠ "" → validProviderIdentifier r.providerTransactionID = true
  walletID : r.walletID ≠ "" → validProviderIdentifier r.walletID = true
  transactionHash : r.transactionHash ≠ "" → validTransactionHash r.transactionHash = true
  blockHash : r.obsBlockHash ≠ "" → validTransactionHash r.obsBlockHash = true
  fingerprint : r.obsLogFingerprint ≠ "" → validLogFingerprint r.obsLogFingerprint = true
  metadata : r.hasObservationMetadata = true → r.transactionHash ≠ "" ∧ r.obsKnown = true

namespace Reference

variable {r : Reference}

theorem validate_ok (valid : r.validate = .ok ()) : r.Valid := by
  simp only [validate, validateIdentifier, validateObservationMetadata, bind_ok, rejectIf_ok, checkIf_ok,
    not_and, Bool.not_eq_false] at valid
  obtain ⟨_, provider, _, chainID, _, identified, _, challengeID, _, providerTransactionID, _, walletID, _,
    transactionHash, _, blockHash, _, fingerprint, metadata⟩ := valid
  constructor
  case provider =>
    cases known : r.provider with
    | circleUserControlled => rfl
    | other text => simp [known, ProviderID.valid] at provider
  case identified =>
    by_contra none
    push Not at none
    exact identified none.1 none.2.1 none.2.2
  case metadata =>
    intro carries
    obtain ⟨_, hash, _, _, known⟩ := metadata carries
    exact ⟨fun blank => hash (.inl blank), known⟩
  all_goals assumption

theorem Valid.validate (valid : r.Valid) : r.validate = .ok () := by
  have provider : r.provider.valid = true := by rw [valid.provider]; rfl
  have identified : ¬ (r.challengeID = "" ∧ r.providerTransactionID = "" ∧ r.transactionHash = "") := by
    rintro ⟨noChallenge, noTransaction, noHash⟩
    rcases valid.identified with some | some | some
    · exact some noChallenge
    · exact some noTransaction
    · exact some noHash
  have metadata : r.validateObservationMetadata = .ok () := by
    rw [validateObservationMetadata, checkIf_ok]
    intro carries
    obtain ⟨hash, known⟩ := valid.metadata carries
    simp [hash, known, valid.transactionHash hash]
  simp only [Reference.validate, validateIdentifier, checks_ok, not_and, Bool.not_eq_false]
  exact ⟨provider, valid.chainID, by simpa using identified, valid.challengeID, valid.providerTransactionID,
    valid.walletID, valid.transactionHash, valid.blockHash, valid.fingerprint, metadata⟩

theorem normalize_blockHash (r : Reference) :
    r.normalizeObservationMetadata.obsBlockHash = toLower (trimSpace r.obsBlockHash) := by
  show (if _ then _ else _) = _
  split
  next => rfl
  next blank =>
    simp only [not_or, ne_eq, not_not] at blank
    rw [blank.1, trimSpace_empty]
    rfl

theorem normalize_logFingerprint (r : Reference) :
    r.normalizeObservationMetadata.obsLogFingerprint = toLower (trimSpace r.obsLogFingerprint) := by
  show (if _ then _ else _) = _
  split
  next => rfl
  next blank =>
    rw [ne_eq, not_not] at blank
    rw [blank, trimSpace_empty]
    rfl

/-- A normalised reference is unknown only if it is blank. -/
theorem normalize_unknown (unknown : r.normalizeObservationMetadata.obsKnown = false) :
    r.obsPresent = false ∧ r.obsBlockHash = "" ∧ r.obsBlockNumber = 0 ∧ r.obsLogFingerprint = "" := by
  simp only [normalizeObservationMetadata, Bool.or_eq_false_iff, decide_eq_false_iff_not, ne_eq, not_not] at unknown
  exact ⟨unknown.1.1.1.2, unknown.1.1.2, unknown.1.2, unknown.2⟩

theorem normalize_eq_self (hash : toLower (trimSpace r.obsBlockHash) = r.obsBlockHash)
    (logs : toLower (trimSpace r.obsLogFingerprint) = r.obsLogFingerprint)
    (blank : r.obsKnown = false →
      r.obsPresent = false ∧ r.obsBlockHash = "" ∧ r.obsBlockNumber = 0 ∧ r.obsLogFingerprint = "") :
    r.normalizeObservationMetadata = r := by
  have known : (r.obsKnown || r.obsPresent || r.obsBlockHash ≠ "" || r.obsBlockNumber ≠ 0 ||
      r.obsLogFingerprint ≠ "") = r.obsKnown := by
    cases isKnown : r.obsKnown with
    | true => simp
    | false =>
      obtain ⟨present, noHash, noNumber, noLogs⟩ := blank isKnown
      simp [present, noHash, noNumber, noLogs]
  unfold normalizeObservationMetadata
  rw [known, hash, logs, ite_self, ite_self]

theorem normalizeObservationMetadata_idempotent (r : Reference) :
    r.normalizeObservationMetadata.normalizeObservationMetadata = r.normalizeObservationMetadata := by
  apply normalize_eq_self
  · rw [normalize_blockHash, normal_idempotent]
  · rw [normalize_logFingerprint, normal_idempotent]
  · intro unknown
    obtain ⟨present, noHash, noNumber, noLogs⟩ := normalize_unknown unknown
    refine ⟨present, ?_, noNumber, ?_⟩
    · rw [normalize_blockHash, noHash, trimSpace_empty]
      rfl
    · rw [normalize_logFingerprint, noLogs, trimSpace_empty]
      rfl

end Reference

variable {text : String} {n : Nat}

theorem parseReference_valid {r : Reference} (parsed : parseReference text = .ok r) :
    r.validate = .ok () := by
  simp only [parseReference, guard_ok] at parsed
  obtain ⟨_, parsed⟩ := parsed
  split at parsed
  next => cases parsed
  next =>
    simp only [bind_ok, pure_ok] at parsed
    obtain ⟨_, _, _, _, _, valid, rfl⟩ := parsed
    exact valid

/-! ### Segments -/

/-- The characters that segments are written with. -/
def isSegmentCharacter (c : Char) : Bool := isIdentifierCharacter c || c == '=' || c == '_'

def written (text : String) : Bool := text.toList.all isSegmentCharacter

/-- They are visible, and none of them is the separator. -/
theorem isSegmentCharacter_visible {c : Char} (segment : isSegmentCharacter c = true) : isGraphic c = true ∧ c ≠ ';' := by
  have h0 : '0'.toNat = 48 := rfl
  have h9 : '9'.toNat = 57 := rfl
  have ha : 'a'.toNat = 97 := rfl
  have hz : 'z'.toNat = 122 := rfl
  have hA : 'A'.toNat = 65 := rfl
  have hZ : 'Z'.toNat = 90 := rfl
  have semicolon : ';'.toNat = 59 := rfl
  simp only [isSegmentCharacter, isIdentifierCharacter, isDecimalDigit, isUpperLetter, Bool.or_eq_true, Bool.and_eq_true,
    decide_eq_true_eq, beq_iff_eq, h0, h9, ha, hz, hA, hZ] at segment
  rw [isGraphic_iff]
  rcases segment with ((((digit | small) | capital) | rfl) | rfl) | rfl
  · exact ⟨by omega, by rintro rfl; omega⟩
  · exact ⟨by omega, by rintro rfl; omega⟩
  · exact ⟨by omega, by rintro rfl; omega⟩
  all_goals decide

theorem written_visible (spelled : written text = true) :
    (∀ c ∈ text.toList, isGraphic c = true) ∧ ';' ∉ text.toList := by
  rw [written, List.all_eq_true] at spelled
  exact ⟨fun c member => (isSegmentCharacter_visible (spelled c member)).1,
    fun member => (isSegmentCharacter_visible (spelled _ member)).2 rfl⟩

theorem written_append (first second : String) : written (first ++ second) = (written first && written second) := by
  simp [written]

theorem written_of_all {test : Char → Bool} (all : text.toList.all test = true)
    (among : ∀ c, test c = true → isSegmentCharacter c = true) : written text = true := by
  rw [List.all_eq_true] at all
  exact List.all_eq_true.mpr fun c member => among c (all c member)

theorem isSegmentCharacter_digit {c : Char} (digit : isDecimalDigit c = true) : isSegmentCharacter c = true := by
  simp [isSegmentCharacter, isIdentifierCharacter, digit]

theorem isLowerHex_letter {c : Char} (hex : isLowerHex c = true) : lowerChar c = c ∧ isSegmentCharacter c = true := by
  have h0 : '0'.toNat = 48 := rfl
  have h9 : '9'.toNat = 57 := rfl
  have ha : 'a'.toNat = 97 := rfl
  have hf : 'f'.toNat = 102 := rfl
  have hz : 'z'.toNat = 122 := rfl
  simp only [isLowerHex, isDecimalDigit, Bool.or_eq_true, Bool.and_eq_true, decide_eq_true_eq, h0, h9, ha, hf] at hex
  constructor
  · have notUpper := isUpperLetter_false (c := c) (by omega)
    rw [lowerChar, if_neg (by simp [notUpper]), if_neg (by omega), if_neg (by omega)]
  · simp only [isSegmentCharacter, isIdentifierCharacter, isDecimalDigit, Bool.or_eq_true, Bool.and_eq_true,
      decide_eq_true_eq, h0, h9, ha, hz]
    omega

theorem validProviderIdentifier_written (valid : validProviderIdentifier text = true) :
    written text = true := by
  simp only [validProviderIdentifier, Bool.and_eq_true] at valid
  exact written_of_all valid.2 fun c identifier => by simp [isSegmentCharacter, identifier]

theorem validChainID_written (valid : validChainID text = true) : text ≠ "" ∧ written text = true := by
  simp only [validChainID, Bool.and_eq_true, decide_eq_true_eq] at valid
  exact ⟨valid.1.1.1, written_of_all valid.2 fun c => isSegmentCharacter_digit⟩

theorem validTransactionHash_written (valid : validTransactionHash text = true) :
    toLower text = text ∧ written text = true := by
  simp only [validTransactionHash, Bool.and_eq_true] at valid
  obtain ⟨_, shape⟩ := valid
  split at shape
  next digits spelled =>
    rw [List.all_eq_true] at shape
    constructor
    · rw [← String.toList_inj, toLower, String.toList_ofList, spelled, List.map_cons, List.map_cons]
      congr 2
      conv_rhs => rw [← List.map_id digits]
      exact List.map_congr_left fun c member => (isLowerHex_letter (shape c member)).1
    · rw [written, spelled, List.all_cons, List.all_cons]
      simp only [Bool.and_eq_true]
      exact ⟨by decide, by decide, List.all_eq_true.mpr fun c member => (isLowerHex_letter (shape c member)).2⟩
  next => cases shape

theorem validLogFingerprint_written (valid : validLogFingerprint text = true) :
    toLower text = text ∧ written text = true := by
  simp only [validLogFingerprint, lowerHex, Bool.and_eq_true, List.all_eq_true] at valid
  constructor
  · rw [← String.toList_inj, toLower, String.toList_ofList]
    conv_rhs => rw [← List.map_id text.toList]
    exact List.map_congr_left fun c member => (isLowerHex_letter (valid.2 c member)).1
  · exact List.all_eq_true.mpr fun c member => (isLowerHex_letter (valid.2 c member)).2

theorem digitsValue_toDigits (n : Nat) : digitsValue (Nat.toDigits 10 n) = n := by
  have read : digitsValue (Nat.toDigits 10 n) = Nat.ofDigitChars 10 (Nat.toDigits 10 n) 0 := by
    unfold digitsValue Nat.ofDigitChars
    congr 1
    funext value c
    rw [Nat.mul_comm]
  rw [read, Nat.ofDigitChars_toDigits (by decide) (by decide)]

theorem parseUintField_toString {n : UInt64} (positive : n ≠ 0) : parseUintField (toString n.toNat) = .ok n := by
  have digits : (toString n.toNat).toList = Nat.toDigits 10 n.toNat := Nat.toList_repr
  have positiveNat : 0 < n.toNat := by
    rw [Nat.pos_iff_ne_zero]
    intro zero
    exact positive (UInt64.toNat_inj.mp zero)
  have nonempty : toString n.toNat ≠ "" := by
    intro empty
    rw [empty] at digits
    exact Nat.toDigits_ne_nil digits.symm
  have bounded : n.toNat < 2 ^ 64 := n.toNat_lt
  simp only [parseUintField, checks_ok, pure_ok]
  refine ⟨nonempty, ?_, ?_, ?_⟩
  · rw [digits, if_neg (head_toDigits positiveNat), ← digits, Bool.not_eq_false, List.all_eq_true]
    exact decimal_digits
  · rw [digits, digitsValue_toDigits]
    omega
  · rw [digits, digitsValue_toDigits, UInt64.ofNat_toNat]

section Fields

variable {rest seen keys : List String}

/-- One segment, whose name has not been read before. -/
theorem parseFields_cons {key value : String} {reference read : Reference} (named : '=' ∉ key.toList) (some : value ≠ "") (fresh : key ∉ seen)
    (reads : parseField reference key value = .ok read) :
    parseFields ((key ++ "=" ++ value) :: rest) seen reference = parseFields rest (key :: seen) read := by
  have parted : cut (key ++ "=" ++ value) '=' = .some (key, value) := cut_append (by decide) named
  rw [parseFields, parted]
  simp only [some, fresh, if_false, reads]
  rfl

/-- The names read so far are among `keys`. -/
def SeenAmong (keys seen : List String) : Prop := ∀ name ∈ seen, name ∈ keys

/-- A segment that is left out when its value is blank, after which the reference holds the value either way. -/
theorem parseFields_segment (key value : String) (reference read : Reference) (among : SeenAmong keys seen)
    (named : '=' ∉ key.toList) (fresh : key ∉ keys)
    (reads : value ≠ "" → parseField reference key value = .ok read) (blank : value = "" → reference = read) :
    ∃ later, SeenAmong (key :: keys) later ∧
      parseFields (Reference.segment (key ++ "=") value ++ rest) seen reference = parseFields rest later read := by
  by_cases absent : value = ""
  · refine ⟨seen, fun name member => .tail _ (among name member), ?_⟩
    rw [Reference.segment, if_pos absent, List.nil_append, blank absent]
  · refine ⟨key :: seen, ?_, ?_⟩
    · intro name member
      rcases List.mem_cons.mp member with rfl | earlier
      · exact .head _
      · exact .tail _ (among name earlier)
    · rw [Reference.segment, if_neg absent, List.singleton_append]
      exact parseFields_cons named absent (fun member => fresh (among key member)) (reads absent)

/-- A segment whose value is kept as it is read. -/
theorem parseFields_text (key value : String) (set : String → Reference) (among : SeenAmong keys seen)
    (named : '=' ∉ key.toList) (fresh : key ∉ keys) (reads : ∀ value, parseField (set "") key value = .ok (set value)) :
    ∃ later, SeenAmong (key :: keys) later ∧
      parseFields (Reference.segment (key ++ "=") value ++ rest) seen (set "") = parseFields rest later (set value) :=
  parseFields_segment key value _ _ among named fresh (fun _ => reads value) fun blank => by rw [blank]

/-- The value of a number segment. -/
def numberText (value : UInt64) : String := if value = 0 then "" else toString value.toNat

theorem numberText_blank {value : UInt64} : numberText value = "" ↔ value = 0 := by
  unfold numberText
  split
  next zero => simp [zero]
  next positive =>
    have nonempty : toString value.toNat ≠ "" := by
      intro empty
      have digits : (toString value.toNat).toList = Nat.toDigits 10 value.toNat := Nat.toList_repr
      rw [empty] at digits
      exact Nat.toDigits_ne_nil digits.symm
    simp only [nonempty, positive]

theorem numberSegment_eq (name : String) (value : UInt64) :
    Reference.numberSegment name value = Reference.segment name (numberText value) := by
  unfold Reference.numberSegment Reference.segment
  simp only [numberText_blank]
  split
  next => rfl
  next positive => rw [numberText, if_neg positive]

theorem parseUintField_numberText {value : UInt64} (some : numberText value ≠ "") :
    parseUintField (numberText value) = .ok value := by
  have positive : value ≠ 0 := fun zero => some (numberText_blank.mpr zero)
  rw [numberText, if_neg positive, parseUintField_toString positive]

variable {p : ProviderID} {c w ch tx h bh lf : String} {present : Bool} {bn cf : UInt64}

/-- The observation segments are read into a reference whose observation fields are blank. -/
theorem parseFields_observation (hash : toLower bh = bh) (logs : toLower lf = lf)
    (among : SeenAmong ["hash", "tx", "ch", "w", "chain", "p"] seen) :
    parseFields (Reference.observationSegments ⟨p, c, w, ch, tx, h, present, true, bh, bn, cf, lf⟩) seen
      ⟨p, c, w, ch, tx, h, false, false, "", 0, 0, ""⟩ =
        .ok ⟨p, c, w, ch, tx, h, present, true, bh, bn, cf, lf⟩ := by
  have spelled : Reference.observationSegments ⟨p, c, w, ch, tx, h, present, true, bh, bn, cf, lf⟩ =
      Reference.segment ("rp" ++ "=") (if present then "1" else "0") ++
      (Reference.segment ("rk" ++ "=") "1" ++ (Reference.segment ("bh" ++ "=") bh ++
      (Reference.segment ("bn" ++ "=") (numberText bn) ++ (Reference.segment ("cf" ++ "=") (numberText cf) ++
      (Reference.segment ("lf" ++ "=") lf ++ []))))) := by
    simp only [Reference.observationSegments, Bool.true_or, if_true, hash, logs, numberSegment_eq,
      List.append_assoc, List.append_nil]
    cases present <;> rfl
  rw [spelled]
  obtain ⟨seen1, among1, read1⟩ := parseFields_segment "rp" (if present then "1" else "0")
    ⟨p, c, w, ch, tx, h, false, false, "", 0, 0, ""⟩ ⟨p, c, w, ch, tx, h, present, false, "", 0, 0, ""⟩ among
    (by decide) (by decide) (fun _ => by cases present <;> rfl) (by cases present <;> nofun)
  obtain ⟨seen2, among2, read2⟩ := parseFields_segment "rk" "1"
    ⟨p, c, w, ch, tx, h, present, false, "", 0, 0, ""⟩ ⟨p, c, w, ch, tx, h, present, true, "", 0, 0, ""⟩ among1
    (by decide) (by decide) (fun _ => rfl) nofun
  obtain ⟨seen3, among3, read3⟩ := parseFields_text "bh" bh
    (fun bh => ⟨p, c, w, ch, tx, h, present, true, bh, 0, 0, ""⟩) among2 (by decide) (by decide) fun _ => rfl
  obtain ⟨seen4, among4, read4⟩ := parseFields_segment "bn" (numberText bn)
    ⟨p, c, w, ch, tx, h, present, true, bh, 0, 0, ""⟩ ⟨p, c, w, ch, tx, h, present, true, bh, bn, 0, ""⟩ among3
    (by decide) (by decide) (fun some => by simp only [parseField, parseUintField_numberText some])
    (fun blank => by rw [numberText_blank.mp blank])
  obtain ⟨seen5, among5, read5⟩ := parseFields_segment "cf" (numberText cf)
    ⟨p, c, w, ch, tx, h, present, true, bh, bn, 0, ""⟩ ⟨p, c, w, ch, tx, h, present, true, bh, bn, cf, ""⟩ among4
    (by decide) (by decide) (fun some => by simp only [parseField, parseUintField_numberText some])
    (fun blank => by rw [numberText_blank.mp blank])
  obtain ⟨_, _, read6⟩ := parseFields_text "lf" lf
    (fun lf => ⟨p, c, w, ch, tx, h, present, true, bh, bn, cf, lf⟩) among5 (by decide) (by decide) fun _ => rfl
  rw [read1, read2, read3, read4, read5, read6]
  rfl

/-- The segments after the encoding's mark are read into the empty reference. -/
theorem parseFields_identifiers (observation : List String) (known : p = .circleUserControlled) (hasChain : c ≠ "") :
    ∃ later, SeenAmong ["hash", "tx", "ch", "w", "chain", "p"] later ∧
      parseFields (["p=" ++ p.text, "chain=" ++ c] ++ Reference.segment "w=" w ++ Reference.segment "ch=" ch ++
        Reference.segment "tx=" tx ++ Reference.segment "hash=" h ++ observation) [] .zero =
      parseFields observation later ⟨p, c, w, ch, tx, h, false, false, "", 0, 0, ""⟩ := by
  have named : p.text ≠ "" := by rw [known]; decide
  have spelled : ["p=" ++ p.text, "chain=" ++ c] ++ Reference.segment "w=" w ++ Reference.segment "ch=" ch ++
        Reference.segment "tx=" tx ++ Reference.segment "hash=" h ++ observation =
      Reference.segment ("p" ++ "=") p.text ++ (Reference.segment ("chain" ++ "=") c ++
      (Reference.segment ("w" ++ "=") w ++ (Reference.segment ("ch" ++ "=") ch ++
      (Reference.segment ("tx" ++ "=") tx ++ (Reference.segment ("hash" ++ "=") h ++ observation))))) := by
    have provider : Reference.segment ("p" ++ "=") p.text = ["p=" ++ p.text] := if_neg named
    have chain : Reference.segment ("chain" ++ "=") c = ["chain=" ++ c] := if_neg hasChain
    rw [provider, chain]
    simp only [List.append_assoc, List.cons_append, List.nil_append]
    rfl
  rw [spelled]
  have start : SeenAmong [] [] := fun _ member => member
  obtain ⟨seen1, among1, read1⟩ := parseFields_segment "p" p.text .zero
    ⟨p, "", "", "", "", "", false, false, "", 0, 0, ""⟩ start (by decide) (by decide)
    (fun _ => by rw [known]; rfl) (fun blank => absurd blank named)
  obtain ⟨seen2, among2, read2⟩ := parseFields_text "chain" c
    (fun c => ⟨p, c, "", "", "", "", false, false, "", 0, 0, ""⟩) among1 (by decide) (by decide) fun _ => rfl
  obtain ⟨seen3, among3, read3⟩ := parseFields_text "w" w
    (fun w => ⟨p, c, w, "", "", "", false, false, "", 0, 0, ""⟩) among2 (by decide) (by decide) fun _ => rfl
  obtain ⟨seen4, among4, read4⟩ := parseFields_text "ch" ch
    (fun ch => ⟨p, c, w, ch, "", "", false, false, "", 0, 0, ""⟩) among3 (by decide) (by decide) fun _ => rfl
  obtain ⟨seen5, among5, read5⟩ := parseFields_text "tx" tx
    (fun tx => ⟨p, c, w, ch, tx, "", false, false, "", 0, 0, ""⟩) among4 (by decide) (by decide) fun _ => rfl
  obtain ⟨seen6, among6, read6⟩ := parseFields_text "hash" h
    (fun h => ⟨p, c, w, ch, tx, h, false, false, "", 0, 0, ""⟩) among5 (by decide) (by decide) fun _ => rfl
  exact ⟨seen6, among6, by rw [read1, read2, read3, read4, read5, read6]⟩

end Fields

/-! ### The round trip -/

namespace Reference

variable {r : Reference}

theorem segment_written {name value : String} (label : written name = true)
    (spelled : value ≠ "" → written value = true) : ∀ text ∈ segment name value, written text = true := by
  intro text member
  unfold segment at member
  split at member
  next => cases member
  next some =>
    rw [List.mem_singleton] at member
    rw [member, written_append, label, spelled some]
    rfl

theorem numberText_written (value : UInt64) : written (numberText value) = true := by
  unfold numberText
  split
  next => rfl
  next => exact List.all_eq_true.mpr fun c member => isSegmentCharacter_digit (decimal_digits c member)

theorem Valid.observationSegments_written (valid : r.Valid) : ∀ text ∈ r.observationSegments, written text = true := by
  have hash : ∀ text ∈ segment "bh=" (toLower r.obsBlockHash), written text = true := by
    apply segment_written (by decide)
    intro some
    have spelled := validTransactionHash_written (valid.blockHash fun blank => some (by rw [blank]; rfl))
    rw [spelled.1]
    exact spelled.2
  have logs : ∀ text ∈ segment "lf=" (toLower r.obsLogFingerprint), written text = true := by
    apply segment_written (by decide)
    intro some
    have spelled := validLogFingerprint_written (valid.fingerprint fun blank => some (by rw [blank]; rfl))
    rw [spelled.1]
    exact spelled.2
  have number (name : String) (label : written name = true) (value : UInt64) :
      ∀ text ∈ numberSegment name value, written text = true := by
    rw [numberSegment_eq]
    exact segment_written label fun _ => numberText_written value
  intro text member
  unfold observationSegments at member
  split at member
  next =>
    simp only [List.mem_append] at member
    rcases member with ((((present | known) | isHash) | isNumber) | isConfirmations) | isLogs
    · rw [List.mem_singleton] at present
      rw [present]
      cases r.obsPresent <;> decide
    · split at known
      next =>
        rw [List.mem_singleton] at known
        rw [known]
        decide
      next => cases known
    · exact hash text isHash
    · exact number "bn=" (by decide) _ text isNumber
    · exact number "cf=" (by decide) _ text isConfirmations
    · exact logs text isLogs
  next => cases member

theorem Valid.segments_written (valid : r.Valid) : ∀ text ∈ r.segments, written text = true := by
  intro text member
  simp only [segments, List.mem_append] at member
  rcases member with ((((fixed | wallet) | challenge) | transaction) | hash) | observation
  · simp only [List.mem_cons, List.not_mem_nil, or_false] at fixed
    rcases fixed with rfl | rfl | rfl
    · decide
    · rw [valid.provider]
      decide
    · rw [written_append, (validChainID_written valid.chainID).2]
      decide
  · exact segment_written (by decide) (fun some => validProviderIdentifier_written (valid.walletID some)) text wallet
  · exact segment_written (by decide) (fun some => validProviderIdentifier_written (valid.challengeID some)) text challenge
  · exact segment_written (by decide) (fun some => validProviderIdentifier_written (valid.providerTransactionID some)) text
      transaction
  · exact segment_written (by decide) (fun some => (validTransactionHash_written (valid.transactionHash some)).2) text hash
  · exact valid.observationSegments_written text observation

/-- A valid normal reference is what its own segments are read into. -/
theorem Valid.parseFields_segments (valid : r.Valid) (normal : r.normalizeObservationMetadata = r) :
    parseFields r.segments.tail [] .zero = .ok r := by
  obtain ⟨hasChain, _⟩ := validChainID_written valid.chainID
  have hash : toLower r.obsBlockHash = r.obsBlockHash := by rw [← normal, normalize_blockHash, toLower_idempotent]
  have logs : toLower r.obsLogFingerprint = r.obsLogFingerprint := by
    rw [← normal, normalize_logFingerprint, toLower_idempotent]
  obtain ⟨p, c, w, ch, tx, h, present, known, bh, bn, cf, lf⟩ := r
  obtain ⟨later, among, read⟩ := @parseFields_identifiers p c w ch tx h
    (observationSegments ⟨p, c, w, ch, tx, h, present, known, bh, bn, cf, lf⟩) valid.provider hasChain
  refine Eq.trans read ?_
  cases known with
  | true => exact parseFields_observation hash logs among
  | false =>
    -- nothing is known, so every observation field is blank and no segment was written
    have bare : ¬ hasObservationMetadata ⟨p, c, w, ch, tx, h, present, false, bh, bn, cf, lf⟩ = true :=
      fun carries => Bool.false_ne_true (valid.metadata carries).2
    simp only [hasObservationMetadata, Bool.false_or, Bool.or_eq_true, decide_eq_true_eq, not_or, ne_eq, not_not,
      Bool.not_eq_true] at bare
    obtain ⟨⟨⟨⟨rfl, rfl⟩, rfl⟩, rfl⟩, rfl⟩ := bare
    rfl

theorem Valid.encode (valid : r.Valid) (normal : r.normalizeObservationMetadata = r)
    (bounded : len (";".intercalate r.segments) ≤ maxReferenceLength) :
    r.encode = .ok (";".intercalate r.segments) := by
  simp only [Reference.encode, normal, checks_ok, pure_ok, and_true]
  exact ⟨valid.validate, by omega⟩

/-- A reference that encodes is read back as its normal form. -/
theorem parse_encode (encoded : r.encode = .ok text) :
    parseReference text = .ok r.normalizeObservationMetadata := by
  simp only [encode, bind_ok, rejectIf_ok, pure_ok] at encoded
  obtain ⟨_, validated, _, bounded, rfl⟩ := encoded
  have valid := validate_ok validated
  have normal := normalizeObservationMetadata_idempotent r
  generalize r.normalizeObservationMetadata = n at validated valid normal bounded
  have joined : split (";".intercalate n.segments) ';' = referencePrefix :: n.segments.tail :=
    split_intercalate (by decide) fun text member => (written_visible (valid.segments_written text member)).2
  have nonempty : ";".intercalate n.segments ≠ "" := by
    intro empty
    rw [empty] at joined
    have same : ([""] : List String) = referencePrefix :: n.segments.tail := joined
    rw [List.cons.injEq] at same
    exact absurd same.1 (by decide)
  simp only [parseReference, joined, checks_ok, not_or, not_not]
  refine ⟨⟨nonempty, bounded⟩, by simp, ?_⟩
  rw [valid.parseFields_segments normal]
  show (do n.normalizeObservationMetadata.validate; pure n.normalizeObservationMetadata) = _
  rw [normal, validated]
  rfl

/-- Normalising twice is normalising once, so a reference and its normal form encode alike. -/
theorem encode_normalize (r : Reference) : r.normalizeObservationMetadata.encode = r.encode := by
  simp only [encode, normalizeObservationMetadata_idempotent]

/-- The encoding is read back as the normal form, encodes again to the same text and stands for no other reference. -/
theorem encode_faithful {text : String} (encoded : r.encode = .ok text) :
    ∃ parsed, parseReference text = .ok parsed ∧ parsed = r.normalizeObservationMetadata ∧ parsed.encode = .ok text ∧
      ∀ other : Reference, other.encode = .ok text →
        other.normalizeObservationMetadata = r.normalizeObservationMetadata := by
  have read := parse_encode encoded
  refine ⟨r.normalizeObservationMetadata, read, rfl, by rw [encode_normalize, encoded], ?_⟩
  intro other same
  have readOther := parse_encode same
  rw [read, Except.ok.injEq] at readOther
  exact readOther.symm

/-- A transfer that waits for its user. -/
def sample : Reference :=
  { Reference.zero with provider := .circleUserControlled, chainID := "5042002", challengeID := "c-1" }

theorem sample_encode : sample.encode = .ok "wzp1;p=CIRCLE_USER_CONTROLLED_WALLET;chain=5042002;ch=c-1" := by
  decide +kernel

theorem encode_faithful_sample :
    ∃ parsed, parseReference "wzp1;p=CIRCLE_USER_CONTROLLED_WALLET;chain=5042002;ch=c-1" = .ok parsed ∧
      parsed.challengeID = "c-1" := by
  obtain ⟨parsed, read, rfl, _⟩ := encode_faithful sample_encode
  exact ⟨_, read, rfl⟩

end Reference

/-! ### Sample hashes -/

theorem validTransactionHash_normal {hash : String} (valid : validTransactionHash hash = true) :
    toLower (trimSpace hash) = hash := by
  obtain ⟨lowered, spelled⟩ := validTransactionHash_written valid
  rw [trimSpace_graphic (written_visible spelled).1, lowered]

theorem validLogFingerprint_normal {fingerprint : String} (valid : validLogFingerprint fingerprint = true) :
    toLower (trimSpace fingerprint) = fingerprint := by
  obtain ⟨lowered, spelled⟩ := validLogFingerprint_written valid
  rw [trimSpace_graphic (written_visible spelled).1, lowered]

/-- One character again and again. -/
def repeated (n : Nat) (c : Char) : String := String.ofList (List.replicate n c)

theorem len_repeated {c : Char} (graphic : isGraphic c = true) : len (repeated n c) = n := by
  rw [len_graphic]
  · rw [repeated, String.toList_ofList, List.length_replicate]
  · intro d member
    rw [repeated, String.toList_ofList, List.mem_replicate] at member
    rw [member.2]
    exact graphic

theorem repeated_ne_empty {c : Char} (positive : n ≠ 0) : repeated n c ≠ "" := by
  rw [repeated, ne_eq, String.ofList_eq_empty_iff, List.replicate_eq_nil_iff]
  exact positive

theorem repeated_all {c : Char} {test : Char → Bool} (passes : test c = true) :
    (repeated n c).toList.all test = true := by
  rw [repeated, String.toList_ofList]
  simp [passes]

/-- A hash of one repeated digit. -/
def hexHash (digit : Char) : String := String.ofList ('0' :: 'x' :: List.replicate 64 digit)

/-- What the sample block hashes satisfy. -/
structure SampleHash (blockHash : String) : Prop where
  valid : validTransactionHash blockHash = true
  normal : toLower (trimSpace blockHash) = blockHash
  short : len blockHash = 66

theorem hexHash_sample {digit : Char} (hex : isLowerHex digit = true) : SampleHash (hexHash digit) := by
  have short : len (hexHash digit) = 66 := by
    rw [len_graphic, hexHash, String.toList_ofList, List.length_cons, List.length_cons, List.length_replicate]
    intro c member
    rw [hexHash, String.toList_ofList, List.mem_cons, List.mem_cons, List.mem_replicate] at member
    rcases member with rfl | rfl | ⟨_, rfl⟩
    · decide
    · decide
    · exact (isSegmentCharacter_visible (isLowerHex_letter hex).2).1
  have valid : validTransactionHash (hexHash digit) = true := by
    rw [validTransactionHash, short, hexHash, String.toList_ofList]
    simp [hex]
  exact ⟨valid, validTransactionHash_normal valid, short⟩

theorem hexHash_one : SampleHash (hexHash '1') := hexHash_sample (by decide)

theorem hexHash_a : SampleHash (hexHash 'a') := hexHash_sample (by decide)

theorem hexHash_b : SampleHash (hexHash 'b') := hexHash_sample (by decide)

theorem hexHash_ne_empty (digit : Char) : hexHash digit ≠ "" := by
  rw [hexHash, ne_eq, String.ofList_eq_empty_iff]
  exact List.cons_ne_nil _ _

end WizPay.Providers
