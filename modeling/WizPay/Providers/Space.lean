import WizPay.Execution.Types
import WizPay.Providers.Codec

/-!
# Room for an observation

The identifiers of a reference and its observation baseline share the 512 bytes of one
adapter reference.
-/
namespace WizPay.Providers

open Checks GoText

/-- The room of segments that follow another one, each with the separator before it. -/
def room (texts : List String) : Nat := (texts.map fun text => 1 + len text).sum

theorem room_append (first second : List String) : room (first ++ second) = room first + room second := by
  simp [room]

theorem len_joined (first : String) (others : List String) :
    len (";".intercalate (first :: others)) = len first + room others := by
  induction others generalizing first with
  | nil => simp [room]
  | cons second others ih =>
    have separator : len ";" = 1 := rfl
    rw [String.intercalate_cons_cons, len_append, len_append, ih second, separator]
    simp only [room, List.map_cons, List.sum_cons]
    omega

theorem joined_visible {first : String} {others : List String}
    (spelled : ∀ text ∈ first :: others, written text = true) :
    ∀ c ∈ (";".intercalate (first :: others)).toList, isGraphic c = true := by
  induction others generalizing first with
  | nil =>
    rw [String.intercalate_singleton]
    exact (written_visible (spelled first (.head _))).1
  | cons second others ih =>
    intro c member
    rw [String.intercalate_cons_cons, String.toList_append, String.toList_append, List.mem_append, List.mem_append] at member
    rcases member with (inFirst | separator) | later
    · exact (written_visible (spelled first (.head _))).1 c inFirst
    · have isSemicolon : c = ';' := List.mem_singleton.mp separator
      rw [isSemicolon]
      decide
    · exact ih (fun text member => spelled text (.tail _ member)) c later

/-! ### The room of each field -/

/-- The room of an optional field. -/
def fieldRoom (name value : String) : Nat := if value = "" then 0 else 1 + len name + len value

theorem room_segment (name value : String) : room (Reference.segment name value) = fieldRoom name value := by
  unfold Reference.segment fieldRoom
  split
  next => rfl
  next => simp [room, Nat.add_assoc]

/-- What a reference takes without its observation. -/
def Reference.identifierRoom (r : Reference) : Nat :=
  len referencePrefix + fieldRoom "p=" r.provider.text + fieldRoom "chain=" r.chainID + fieldRoom "w=" r.walletID +
    fieldRoom "ch=" r.challengeID + fieldRoom "tx=" r.providerTransactionID + fieldRoom "hash=" r.transactionHash

namespace ReceiptObservation

/-- Something of the observation is recorded. -/
def recorded (o : ReceiptObservation) : Bool :=
  o.known || o.present || o.blockHash ≠ "" || o.blockNumber ≠ 0 || o.logFingerprint ≠ ""

theorem blank {o : ReceiptObservation} (unrecorded : o.recorded = false) :
    o.known = false ∧ o.present = false ∧ o.blockHash = "" ∧ o.blockNumber = 0 ∧ o.logFingerprint = "" := by
  simpa [recorded, and_assoc] using unrecorded

/-- What an observation takes: the two flags, and every field that is not blank. -/
def room (o : ReceiptObservation) : Nat :=
  if o.recorded then
    fieldRoom "rp=" "1" + fieldRoom "rk=" "1" + fieldRoom "bh=" (toLower (trimSpace o.blockHash)) +
      fieldRoom "bn=" (numberText o.blockNumber) + fieldRoom "cf=" (numberText o.confirmations) +
      fieldRoom "lf=" (toLower (trimSpace o.logFingerprint))
  else 0

/-- The block hash and the log fingerprint are absent or, in normal form, valid. -/
structure WellFormed (o : ReceiptObservation) : Prop where
  blockHash : toLower (trimSpace o.blockHash) ≠ "" → validTransactionHash (toLower (trimSpace o.blockHash)) = true
  logFingerprint : toLower (trimSpace o.logFingerprint) ≠ "" →
    validLogFingerprint (toLower (trimSpace o.logFingerprint)) = true

end ReceiptObservation

/-! ### Adding an observation -/

namespace Reference

variable {r : Reference} {o : ReceiptObservation}

/-- The reference with the observation, where the transaction hash is known. -/
theorem withReceiptObservation_eq (mined : r.transactionHash ≠ "") :
    r.withReceiptObservation o =
      { r with
        obsPresent := o.present
        obsKnown := o.recorded
        obsBlockHash := toLower (trimSpace o.blockHash)
        obsBlockNumber := o.blockNumber
        obsConfirmations := o.confirmations
        obsLogFingerprint := toLower (trimSpace o.logFingerprint) } := by
  have hash : (if r.transactionHash = "" ∧ o.transactionHash ≠ "" then toLower (trimSpace o.transactionHash)
      else r.transactionHash) = r.transactionHash := if_neg fun blank => mined blank.1
  unfold withReceiptObservation
  rw [hash]
  apply normalize_eq_self
  · exact normal_idempotent _
  · exact normal_idempotent _
  · intro unknown
    obtain ⟨_, present, noHash, noNumber, noLogs⟩ := ReceiptObservation.blank unknown
    simp only [present, noHash, noNumber, noLogs, trimSpace_empty, toLower_empty]
    trivial

theorem withReceiptObservation_normal (r : Reference) (o : ReceiptObservation) :
    (r.withReceiptObservation o).normalizeObservationMetadata = r.withReceiptObservation o :=
  normalizeObservationMetadata_idempotent _

theorem identifierRoom_withReceiptObservation (mined : r.transactionHash ≠ "") :
    (r.withReceiptObservation o).identifierRoom = r.identifierRoom := by
  rw [withReceiptObservation_eq mined]
  rfl

/-- An observation is added to valid identifiers exactly if confirmations do not stand alone. -/
theorem Valid.observe (valid : r.normalizeObservationMetadata.Valid) (mined : r.transactionHash ≠ "")
    (wellFormed : o.WellFormed) :
    (r.withReceiptObservation o).Valid ↔ (o.recorded = true ∨ o.confirmations = 0) := by
  rw [withReceiptObservation_eq mined]
  constructor
  · intro observed
    by_contra alone
    rw [not_or] at alone
    have carries : hasObservationMetadata
        { r with obsPresent := o.present, obsKnown := o.recorded, obsBlockHash := toLower (trimSpace o.blockHash),
                 obsBlockNumber := o.blockNumber, obsConfirmations := o.confirmations,
                 obsLogFingerprint := toLower (trimSpace o.logFingerprint) } = true := by
      simp [hasObservationMetadata, alone.2]
    exact alone.1 (observed.metadata carries).2
  · intro accounted
    constructor
    case metadata =>
      intro carries
      refine ⟨mined, ?_⟩
      by_contra unknown
      rcases accounted with recorded | none
      · exact unknown recorded
      · obtain ⟨known, present, noHash, noNumber, noLogs⟩ := ReceiptObservation.blank (by simpa using unknown)
        simp [hasObservationMetadata, ReceiptObservation.recorded, known, present, noHash, noNumber, noLogs, none] at carries
    case blockHash => exact wellFormed.blockHash
    case fingerprint => exact wellFormed.logFingerprint
    case provider => exact valid.provider
    case chainID => exact valid.chainID
    case identified => exact valid.identified
    case challengeID => exact valid.challengeID
    case providerTransactionID => exact valid.providerTransactionID
    case walletID => exact valid.walletID
    case transactionHash => exact valid.transactionHash

/-- The room of the observation segments of a reference that carries the observation. -/
theorem room_observationSegments (mined : r.transactionHash ≠ "") :
    Providers.room (r.withReceiptObservation o).observationSegments = o.room := by
  rw [withReceiptObservation_eq mined]
  unfold observationSegments ReceiptObservation.room
  cases known : o.recorded with
  | true =>
    have flags : Providers.room [if o.present then "rp=1" else "rp=0"] = fieldRoom "rp=" "1" := by
      cases o.present <;> rfl
    have mark : Providers.room ["rk=1"] = fieldRoom "rk=" "1" := rfl
    simp only [Bool.true_or, if_true, room_append, numberSegment_eq, room_segment, flags, mark, toLower_idempotent]
  | false =>
    obtain ⟨_, present, noHash, noNumber, noLogs⟩ := ReceiptObservation.blank known
    simp [present, noHash, noNumber, noLogs, Providers.room]

theorem len_segments (valid : r.Valid) :
    len (";".intercalate r.segments) = r.identifierRoom + Providers.room r.observationSegments := by
  have provider : r.provider.text ≠ "" := by rw [valid.provider]; decide
  have chain := (validChainID_written valid.chainID).1
  rw [segments, List.append_assoc, List.append_assoc, List.append_assoc, List.append_assoc, List.cons_append, len_joined]
  simp only [room_append, room_segment, identifierRoom]
  have fixed : Providers.room ["p=" ++ r.provider.text, "chain=" ++ r.chainID] =
      fieldRoom "p=" r.provider.text + fieldRoom "chain=" r.chainID := by
    simp [Providers.room, fieldRoom, provider, chain]
    omega
  rw [fixed]
  omega

/-- What the codec writes is accepted as an adapter reference. -/
theorem validateAdapterReference_encode {text : String} (encoded : r.encode = .ok text) :
    Exec.validateAdapterReference text = .ok () := by
  simp only [encode, bind_ok, rejectIf_ok, pure_ok] at encoded
  obtain ⟨_, validated, _, bounded, rfl⟩ := encoded
  have visible := joined_visible (validate_ok validated).segments_written
  refine Exec.validateBoundedText_ok.mpr ⟨?_, trimSpace_graphic visible, not_lt.mp bounded, hasControl_graphic visible⟩
  intro empty
  have length := len_segments (validate_ok validated)
  rw [empty] at length
  have prefixed : 4 ≤ (r.normalizeObservationMetadata).identifierRoom := by
    unfold identifierRoom
    have mark : len referencePrefix = 4 := rfl
    omega
  have none : len "" = 0 := rfl
  omega

theorem room_of_encode {text : String} (encoded : r.encode = .ok text) :
    r.normalizeObservationMetadata.Valid ∧ r.normalizeObservationMetadata.identifierRoom +
      Providers.room r.normalizeObservationMetadata.observationSegments ≤ maxReferenceLength := by
  simp only [encode, bind_ok, rejectIf_ok, pure_ok] at encoded
  obtain ⟨_, validated, _, bounded, _⟩ := encoded
  have valid := validate_ok validated
  exact ⟨valid, by rw [← len_segments valid]; omega⟩

/-- An observation can be added to a stored reference exactly if there is room for it. -/
theorem observation_fits_iff {text : String} (encoded : r.encode = .ok text) (mined : r.transactionHash ≠ "")
    (wellFormed : o.WellFormed) :
    (∃ stored, (r.withReceiptObservation o).encode = .ok stored ∧ Exec.validateAdapterReference stored = .ok ()) ↔
      (o.recorded = true ∨ o.confirmations = 0) ∧ r.identifierRoom + o.room ≤ maxReferenceLength := by
  have observe := (room_of_encode encoded).1.observe mined wellFormed
  have normal := r.withReceiptObservation_normal o
  have identifiers := identifierRoom_withReceiptObservation (o := o) mined
  have observation := room_observationSegments (o := o) mined
  constructor
  · rintro ⟨stored, written, _⟩
    obtain ⟨valid, fits⟩ := room_of_encode written
    rw [normal] at valid fits
    rw [identifiers, observation] at fits
    exact ⟨observe.mp valid, fits⟩
  · rintro ⟨accounted, fits⟩
    have valid := observe.mpr accounted
    have written := valid.encode normal (by rw [len_segments valid, identifiers, observation]; exact fits)
    exact ⟨_, written, validateAdapterReference_encode written⟩

/-! ### At the limits of the fields -/

/-- Every identifier is as long as validation lets it be. -/
def crowded : Reference :=
  { Reference.zero with
    provider := .circleUserControlled, chainID := repeated 20 '1', walletID := repeated 64 'a',
    challengeID := repeated 64 'a', providerTransactionID := repeated 64 'a', transactionHash := hexHash 'a' }

theorem fieldRoom_repeated (name : String) {n : Nat} {c : Char} (graphic : isGraphic c = true) (positive : n ≠ 0) :
    fieldRoom name (repeated n c) = 1 + len name + n := by
  rw [fieldRoom, if_neg (repeated_ne_empty positive), len_repeated graphic]

theorem fieldRoom_hexHash (name : String) : fieldRoom name (hexHash 'a') = 1 + len name + 66 := by
  rw [fieldRoom, if_neg (hexHash_ne_empty 'a'), hexHash_a.short]

theorem crowded_room : crowded.identifierRoom = 338 := by
  have provider : fieldRoom "p=" ProviderID.circleUserControlled.text = 32 := by decide
  have letter : isGraphic 'a' = true := by decide
  have digit : isGraphic '1' = true := by decide
  simp only [identifierRoom, crowded, Reference.zero, provider, fieldRoom_hexHash, fieldRoom_repeated _ letter (show 64 ≠ 0 by decide),
    fieldRoom_repeated _ digit (show 20 ≠ 0 by decide)]
  decide

theorem crowded_valid : crowded.Valid := by
  have short : len (repeated 64 'a') = 64 ∧ len (repeated 20 '1') = 20 :=
    ⟨len_repeated (by decide), len_repeated (by decide)⟩
  have some : repeated 64 'a' ≠ "" ∧ repeated 20 '1' ≠ "" :=
    ⟨repeated_ne_empty (by decide), repeated_ne_empty (by decide)⟩
  have letters : (repeated 64 'a').toList.all isIdentifierCharacter = true := repeated_all (by decide)
  have digits : (repeated 20 '1').toList.all isDecimalDigit = true := repeated_all (by decide)
  have leading : (repeated 20 '1').toList.head? ≠ Option.some '0' := by
    rw [repeated, String.toList_ofList]
    decide
  have identifier : validProviderIdentifier (repeated 64 'a') = true := by
    simp [validProviderIdentifier, short.1, some.1, letters]
  constructor
  case provider => rfl
  case chainID =>
    show validChainID (repeated 20 '1') = true
    simp [validChainID, short.2, some.2, digits, leading, maxChainIDLength]
  case identified => exact .inr (.inr (hexHash_ne_empty 'a'))
  case challengeID => exact fun _ => identifier
  case providerTransactionID => exact fun _ => identifier
  case walletID => exact fun _ => identifier
  case transactionHash => exact fun _ => hexHash_a.valid
  case metadata => rintro ⟨⟩
  all_goals exact fun blank => absurd rfl blank

theorem crowded_encode : crowded.encode = .ok (";".intercalate crowded.segments) := by
  have blank : toLower (trimSpace "") = "" := by decide
  have unobserved : Providers.room crowded.observationSegments = 0 := rfl
  apply crowded_valid.encode (normalize_eq_self blank blank fun _ => ⟨rfl, rfl, rfl, rfl⟩)
  rw [len_segments crowded_valid, crowded_room, unobserved]
  decide

/-- A receipt in block 7, without a block hash and without logs. -/
def nearObservation : ReceiptObservation :=
  { ReceiptObservation.zero with blockNumber := 7, confirmations := 1, present := true, known := true }

theorem observation_fits_near :
    ∃ stored, (crowded.withReceiptObservation nearObservation).encode = .ok stored ∧
      Exec.validateAdapterReference stored = .ok () := by
  have wellFormed : nearObservation.WellFormed := ⟨fun some => absurd rfl some, fun some => absurd rfl some⟩
  apply (observation_fits_iff crowded_encode (hexHash_ne_empty 'a') wellFormed).mpr
  rw [crowded_room]
  decide

/-- Both numbers take twenty digits. -/
def farObservation : ReceiptObservation :=
  { ReceiptObservation.zero with
    blockNumber := 18446744073709551615, blockHash := hexHash 'a', confirmations := 18446744073709551615,
    present := true, known := true, logFingerprint := repeated 64 'a' }

theorem farObservation_fields :
    validTransactionHash farObservation.blockHash = true ∧ validLogFingerprint farObservation.logFingerprint = true := by
  have short : len (repeated 64 'a') = 64 := len_repeated (by decide)
  have digits : (repeated 64 'a').toList.all isLowerHex = true := repeated_all (by decide)
  refine ⟨hexHash_a.valid, ?_⟩
  show validLogFingerprint (repeated 64 'a') = true
  simp [validLogFingerprint, lowerHex, short, digits]

theorem farObservation_room : farObservation.room = 196 := by
  have letter : isGraphic 'a' = true := by decide
  have recorded : farObservation.recorded = true := by simp [ReceiptObservation.recorded, farObservation]
  have number : fieldRoom "bn=" (numberText 18446744073709551615) = 24 ∧
      fieldRoom "cf=" (numberText 18446744073709551615) = 24 := by decide +kernel
  have hash : toLower (trimSpace farObservation.blockHash) = hexHash 'a' :=
    validTransactionHash_normal farObservation_fields.1
  have logs : toLower (trimSpace farObservation.logFingerprint) = repeated 64 'a' :=
    validLogFingerprint_normal farObservation_fields.2
  rw [ReceiptObservation.room, recorded, hash, logs, fieldRoom_hexHash, fieldRoom_repeated _ letter (by decide)]
  simp only [farObservation, number]
  decide

/-- The reference can be stored, each field of the observation is valid, and together they do not fit. -/
theorem crowded_observation_refused :
    (∃ text, crowded.encode = .ok text ∧ Exec.validateAdapterReference text = .ok ()) ∧ crowded.transactionHash ≠ "" ∧
      validTransactionHash farObservation.blockHash = true ∧ validLogFingerprint farObservation.logFingerprint = true ∧
      ∀ stored, (crowded.withReceiptObservation farObservation).encode ≠ .ok stored := by
  refine ⟨⟨_, crowded_encode, validateAdapterReference_encode crowded_encode⟩, hexHash_ne_empty 'a',
    farObservation_fields.1, farObservation_fields.2, fun stored written => ?_⟩
  obtain ⟨_, fits⟩ := room_of_encode written
  rw [withReceiptObservation_normal, identifierRoom_withReceiptObservation (hexHash_ne_empty 'a'),
    room_observationSegments (hexHash_ne_empty 'a'), crowded_room, farObservation_room, maxReferenceLength] at fits
  omega

end Reference

end WizPay.Providers
