import WizPay.Errors
import WizPay.Providers.Reorg

/-!
# Provider references

`internal/providers/reference.go`: the reconciliation identifiers of one execution and
its observation baseline, in a one-line encoding.
-/
namespace WizPay.Providers

open Checks GoText

def maxReferenceLength : Nat := 512

def maxSafeTextLength : Nat := 256

def maxChainIDLength : Nat := 20

def referencePrefix : String := "wzp1"

/-- `ProviderID`; `other` is a text that names no provider. -/
inductive ProviderID
  | circleUserControlled
  | other (text : String)
deriving DecidableEq

namespace ProviderID

def text : ProviderID → String
  | .circleUserControlled => "CIRCLE_USER_CONTROLLED_WALLET"
  | .other text => text

/-- The conversion `ProviderID(text)`. -/
def ofText (text : String) : ProviderID :=
  if text = "CIRCLE_USER_CONTROLLED_WALLET" then .circleUserControlled else .other text

def valid : ProviderID → Bool
  | .circleUserControlled => true
  | .other _ => false

end ProviderID

/-! ### Text checks -/

def isLowerHex (c : Char) : Bool := isDecimalDigit c || ('a'.toNat ≤ c.toNat && c.toNat ≤ 'f'.toNat)

variable (value : String)

def lowerHex : Bool := value.toList.all isLowerHex

/-- A text of 66 bytes that starts with "0x". -/
def validTransactionHash : Bool :=
  len value = 66 &&
    match value.toList with
    | '0' :: 'x' :: digits => digits.all isLowerHex
    | _ => false

def isAddressDigit (c : Char) : Bool := isLowerHex c || ('A'.toNat ≤ c.toNat && c.toNat ≤ 'F'.toNat)

def validAddress : Bool :=
  len value = 42 &&
    match value.toList with
    | '0' :: 'x' :: digits => digits.all isAddressDigit
    | _ => false

def validLogFingerprint : Bool := len value = 64 && lowerHex value

def isIdentifierCharacter (c : Char) : Bool :=
  isDecimalDigit c || ('a'.toNat ≤ c.toNat && c.toNat ≤ 'z'.toNat) || isUpperLetter c || c == '-'

def validProviderIdentifier : Bool :=
  value ≠ "" && len value ≤ 64 && value.toList.all isIdentifierCharacter

def validChainID : Bool :=
  value ≠ "" && len value ≤ maxChainIDLength && value.toList.head? ≠ some '0' && value.toList.all isDecimalDigit

def validSafeText : Bool :=
  value ≠ "" && len value ≤ maxSafeTextLength && trimSpace value = value && !hasControl value

/-- The number that decimal digits stand for. -/
def digitsValue (digits : List Char) : Nat :=
  digits.foldl (fun value c => value * 10 + (c.toNat - '0'.toNat)) 0

/-- `parseUintField`: the canonical decimal text of a `uint64`. -/
def parseUintField : Except Error UInt64 := do
  let invalid : Error := .text "invalid unsigned integer"
  rejectIf (value = "") invalid
  rejectIf (if value.toList.head? = some '0' then len value ≠ 1 else value.toList.all isDecimalDigit = false) invalid
  -- `strconv.ParseUint`
  rejectIf (digitsValue value.toList ≥ 2 ^ 64) invalid
  pure (UInt64.ofNat (digitsValue value.toList))

/-! ### References -/

structure Reference where
  provider : ProviderID
  chainID : String
  walletID : String
  challengeID : String
  providerTransactionID : String
  transactionHash : String
  obsPresent : Bool
  obsKnown : Bool
  obsBlockHash : String
  obsBlockNumber : UInt64
  obsConfirmations : UInt64
  obsLogFingerprint : String
deriving DecidableEq

/-- The zero `Reference`. -/
def Reference.zero : Reference := ⟨.other "", "", "", "", "", "", false, false, "", 0, 0, ""⟩

variable (r : Reference)

namespace Reference

def hasObservationMetadata : Bool :=
  r.obsKnown || r.obsPresent || r.obsBlockHash ≠ "" || r.obsBlockNumber ≠ 0 || r.obsConfirmations ≠ 0 ||
    r.obsLogFingerprint ≠ ""

def validateObservationMetadata : Except Error Unit :=
  checkIf (r.hasObservationMetadata = true) do
    rejectIf (r.transactionHash = "" ∨ validTransactionHash r.transactionHash = false)
      (.text "provider reference observation metadata requires a valid transaction hash")
    rejectIf (r.obsPresent = true ∧ r.obsKnown = false)
      (.text "provider reference observation present without known flag")
    rejectIf (r.obsKnown = false) (.text "provider reference observation fields require a known observation")

/-- An identifier that is absent or well formed. -/
def validateIdentifier (name value : String) : Except Error Unit :=
  rejectIf (value ≠ "" ∧ validProviderIdentifier value = false) (.text s!"provider reference has an invalid {name}")

def validate : Except Error Unit := do
  rejectIf (r.provider.valid = false) (.text "provider reference has an invalid provider")
  rejectIf (validChainID r.chainID = false) (.text "provider reference has an invalid chain ID")
  rejectIf (r.challengeID = "" ∧ r.providerTransactionID = "" ∧ r.transactionHash = "")
    (.text "provider reference requires at least one provider identifier")
  validateIdentifier "challenge ID" r.challengeID
  validateIdentifier "provider transaction ID" r.providerTransactionID
  validateIdentifier "wallet ID" r.walletID
  rejectIf (r.transactionHash ≠ "" ∧ validTransactionHash r.transactionHash = false)
    (.text "provider reference has an invalid transaction hash")
  rejectIf (r.obsBlockHash ≠ "" ∧ validTransactionHash r.obsBlockHash = false)
    (.text "provider reference has an invalid observation block hash")
  rejectIf (r.obsLogFingerprint ≠ "" ∧ validLogFingerprint r.obsLogFingerprint = false)
    (.text "provider reference has an invalid observation log fingerprint")
  r.validateObservationMetadata

def normalizeObservationMetadata : Reference :=
  { r with
    obsKnown := r.obsKnown || r.obsPresent || r.obsBlockHash ≠ "" || r.obsBlockNumber ≠ 0 || r.obsLogFingerprint ≠ ""
    obsBlockHash :=
      if r.obsBlockHash ≠ "" ∨ r.obsBlockNumber ≠ 0 then toLower (trimSpace r.obsBlockHash) else r.obsBlockHash
    obsLogFingerprint :=
      if r.obsLogFingerprint ≠ "" then toLower (trimSpace r.obsLogFingerprint) else r.obsLogFingerprint }

/-- An optional segment of the encoding. -/
def segment (name value : String) : List String := if value = "" then [] else [name ++ value]

/-- A number segment; zero is left out. -/
def numberSegment (name : String) (value : UInt64) : List String :=
  if value = 0 then [] else [name ++ toString value.toNat]

def observationSegments : List String :=
  if r.obsKnown || r.obsPresent || r.obsBlockHash ≠ "" || r.obsBlockNumber ≠ 0 || r.obsLogFingerprint ≠ "" then
    [if r.obsPresent then "rp=1" else "rp=0"] ++
    (if r.obsKnown || r.obsPresent then ["rk=1"] else []) ++
    segment "bh=" (toLower r.obsBlockHash) ++
    numberSegment "bn=" r.obsBlockNumber ++
    numberSegment "cf=" r.obsConfirmations ++
    segment "lf=" (toLower r.obsLogFingerprint)
  else []

def segments : List String :=
  [referencePrefix, "p=" ++ r.provider.text, "chain=" ++ r.chainID] ++
  segment "w=" r.walletID ++ segment "ch=" r.challengeID ++ segment "tx=" r.providerTransactionID ++
  segment "hash=" r.transactionHash ++ r.observationSegments

def encode : Except Error String := do
  let r := r.normalizeObservationMetadata
  r.validate
  let encoded := ";".intercalate r.segments
  rejectIf (len encoded > maxReferenceLength)
    (.text s!"provider reference exceeds {maxReferenceLength} characters")
  pure encoded

/-- `ReceiptObservation()`: the durable baseline. -/
def receiptObservation : ReceiptObservation :=
  let known := r.obsKnown || r.obsPresent || r.obsBlockHash ≠ "" || r.obsBlockNumber ≠ 0 || r.obsLogFingerprint ≠ ""
  if known then
    { chainID := r.chainID, transactionHash := r.transactionHash, status := .other "",
      blockNumber := r.obsBlockNumber, blockHash := toLower (trimSpace r.obsBlockHash),
      confirmations := r.obsConfirmations, present := r.obsPresent, known := true,
      logFingerprint := toLower (trimSpace r.obsLogFingerprint) }
  else .zero

def withReceiptObservation (o : ReceiptObservation) : Reference :=
  normalizeObservationMetadata
    { r with
      obsPresent := o.present
      obsKnown := o.known || o.present || o.blockHash ≠ "" || o.blockNumber ≠ 0 || o.logFingerprint ≠ ""
      obsBlockHash := toLower (trimSpace o.blockHash)
      obsBlockNumber := o.blockNumber
      obsConfirmations := o.confirmations
      obsLogFingerprint := toLower (trimSpace o.logFingerprint)
      transactionHash :=
        if r.transactionHash = "" ∧ o.transactionHash ≠ "" then toLower (trimSpace o.transactionHash)
        else r.transactionHash }

def withTransaction (providerTransactionID transactionHash : String) : Reference :=
  { r with
    providerTransactionID :=
      if providerTransactionID ≠ "" then providerTransactionID else r.providerTransactionID
    transactionHash := if transactionHash ≠ "" then toLower transactionHash else r.transactionHash }

end Reference

/-! ### Reading a reference back -/

/-- The switch over the field name. -/
def parseField (reference : Reference) (key fieldValue : String) : Except Error Reference :=
  match key with
  | "p" => .ok { reference with provider := .ofText fieldValue }
  | "chain" => .ok { reference with chainID := fieldValue }
  | "w" => .ok { reference with walletID := fieldValue }
  | "ch" => .ok { reference with challengeID := fieldValue }
  | "tx" => .ok { reference with providerTransactionID := fieldValue }
  | "hash" => .ok { reference with transactionHash := fieldValue }
  | "rp" =>
    match fieldValue with
    | "0" => .ok { reference with obsPresent := false }
    | "1" => .ok { reference with obsPresent := true }
    | _ => .error (.text "provider reference has an invalid observation present flag")
  | "rk" =>
    if fieldValue = "1" then .ok { reference with obsKnown := true }
    else .error (.text "provider reference has an invalid observation known flag")
  | "bh" => .ok { reference with obsBlockHash := fieldValue }
  | "bn" =>
    match parseUintField fieldValue with
    | .ok parsed => .ok { reference with obsBlockNumber := parsed }
    | .error _ => .error (.text "provider reference has an invalid observation block number")
  | "cf" =>
    match parseUintField fieldValue with
    | .ok parsed => .ok { reference with obsConfirmations := parsed }
    | .error _ => .error (.text "provider reference has an invalid observation confirmations")
  | "lf" => .ok { reference with obsLogFingerprint := fieldValue }
  | _ => .error (.text s!"provider reference has an unknown field {quote key}")

/-- The loop over the segments after the prefix; `seen` holds the names read so far. -/
def parseFields : List String → List String → Reference → Except Error Reference
  | [], _, reference => .ok reference
  | segment :: rest, seen, reference =>
    match cut segment '=' with
    | none => .error (.text "provider reference is malformed")
    | some (key, fieldValue) =>
      if fieldValue = "" then .error (.text "provider reference is malformed")
      else if key ∈ seen then .error (.text s!"provider reference repeats field {quote key}")
      else do
        let read ← parseField reference key fieldValue
        parseFields rest (key :: seen) read

def parseReference : Except Error Reference := do
  rejectIf (value = "" ∨ len value > maxReferenceLength) (.text "provider reference is malformed")
  match split value ';' with
  | [] => .error (.text "provider reference has an unsupported encoding")
  | first :: rest =>
    rejectIf (first ≠ referencePrefix) (.text "provider reference has an unsupported encoding")
    let read ← parseFields rest [] .zero
    let reference := read.normalizeObservationMetadata
    reference.validate
    pure reference

/-! ### The errors of a reference are plain texts -/

/-- No typed failure of the adapter hides in the error. -/
def Plain (e : Error) : Prop := e.adapterFailure = none

theorem Reference.validate_plain : FailsWith Plain r.validate := by
  have identifier (name value : String) : FailsWith Plain (Reference.validateIdentifier name value) := .rejectIf rfl
  have metadata : FailsWith Plain r.validateObservationMetadata :=
    .checkIf (.bind (.rejectIf rfl) fun _ _ => .bind (.rejectIf rfl) fun _ _ => .rejectIf rfl)
  exact .bind (.rejectIf rfl) fun _ _ => .bind (.rejectIf rfl) fun _ _ => .bind (.rejectIf rfl) fun _ _ =>
    .bind (identifier _ _) fun _ _ => .bind (identifier _ _) fun _ _ => .bind (identifier _ _) fun _ _ =>
    .bind (.rejectIf rfl) fun _ _ => .bind (.rejectIf rfl) fun _ _ => .bind (.rejectIf rfl) fun _ _ => metadata

theorem Reference.encode_plain : FailsWith Plain r.encode :=
  .bind (Reference.validate_plain _) fun _ _ => .bind (.rejectIf rfl) fun _ _ => .ok

end WizPay.Providers
