import WizPay.Lib.Codes
import WizPay.Providers.Codec
import WizPay.Providers.Plan
import WizPay.Providers.ReceiptLogs

/-!
# What a hash binds

The streams behind the keys of a request (`internal/execution/request.go`,
`internal/providers/plan.go`) and the fingerprint of receipt logs
(`internal/providers/receipt.go`) can be read in one way only.
-/
namespace WizPay.Exec

open Codes GoText

theorem bytes_colon : bytes ":" = [58] := rfl

/-- A part is read off by its length, whatever bytes it has. -/
theorem part_reads :
    ReadsOff (fun part : List UInt8 => bytes (toString part.length ++ ":") ++ part) (fun _ => True) (fun _ => True) Eq := by
  intro part part' r s _ _ _ _ same
  simp only [bytes_append, bytes_colon, List.append_assoc, List.singleton_append] at same
  obtain ⟨length, rest⟩ := number_inj (by decide) same
  exact List.append_inj rest length

theorem hashInput_injective (domain : List UInt8) : Function.Injective (hashInput domain) := by
  intro parts parts' same
  have streams := congrArg (· ++ []) (List.append_cancel_left same)
  have starts (part : List UInt8) : bytes (toString part.length ++ ":") ++ part ≠ [] := by
    simp [bytes_append, bytes_colon]
  have read := part_reads.flatMap (fun _ _ => trivial) trivial trivial (fun _ _ => trivial) (fun _ _ => trivial)
    (.inr ⟨starts, rfl, rfl⟩) streams
  exact List.forall₂_eq_eq_eq ▸ read.1

/-- What `hash` writes. -/
def hashed (domain : String) (parts : List String) : List UInt8 := hashInput (bytes domain) (parts.map bytes)

/-- SHA-256 does not collide on the streams of these parts. -/
def KeepsApart (domain : String) (parts parts' : List String) : Prop :=
  Sha256.sum256 (hashed domain parts) = Sha256.sum256 (hashed domain parts') → hashed domain parts = hashed domain parts'

theorem hashed_injective (domain : String) : Function.Injective (hashed domain) :=
  (hashInput_injective _).comp (List.map_injective_iff.mpr bytes_injective)

theorem hash_inj {domain : String} {parts parts' : List String} (apart : KeepsApart domain parts parts')
    (same : hash domain parts = hash domain parts') : parts = parts' :=
  hashed_injective domain (apart (Sha256.hexText_injective same))

/-- What `IdempotencyKey` hashes of a request. -/
def idempotencyParts (r : Request) : List String :=
  [r.executionID, r.requestKey, toString r.version, r.operationKey, toString r.operationVersion]

theorem idempotencyKey_hashed (r : Request) :
    Providers.idempotencyKey r = (do
      r.validate
      pure (Providers.uuidText (Sha256.sum256 (hashed Providers.idempotencyDomain (idempotencyParts r))))) := rfl

/-- The fields of an evaluation that its key is made of: all but the findings. -/
def evaluationParts (result : Policies.Result) : List String :=
  [result.policyID, toString result.policyVersion, result.intentID, toString result.intentVersion,
    result.intentDigest, result.stage.text, GoTime.formatRFC3339Nano result.evaluatedAt, result.decision.text]

theorem evaluationParts_inj {result result' : Policies.Result} (same : evaluationParts result = evaluationParts result') :
    { result with findings := [] } = { result' with findings := [] } := by
  simp only [evaluationParts, List.cons.injEq, and_true] at same
  obtain ⟨policy, policyVersion, intent, intentVersion, digest, stage, evaluated, decision⟩ := same
  have stages : result.stage = result'.stage := by
    cases first : result.stage <;> cases second : result'.stage <;> simp_all [Policies.EvaluationStage.text]
  have decisions : result.decision = result'.decision := by
    cases first : result.decision <;> cases second : result'.decision <;> simp_all [Policies.Decision.text]
  have instants := GoTime.formatRFC3339Nano_injective evaluated
  have versions := toString_nat_inj policyVersion
  have intents := toString_nat_inj intentVersion
  simp_all

/-- The streams decide their parts, and unless SHA-256 collides on two of these streams a key decides its inputs. -/
theorem hash_decides_inputs :
    (∀ (domain : List UInt8) (parts parts' : List (List UInt8)),
      hashInput domain parts = hashInput domain parts' → parts.length = parts'.length ∧ parts = parts') ∧
    (∀ (domain : String) (parts parts' : List String), KeepsApart domain parts parts' →
      hash domain parts = hash domain parts' → parts = parts') ∧
    (∀ r r' : Request, hashed Providers.idempotencyDomain (idempotencyParts r) =
      hashed Providers.idempotencyDomain (idempotencyParts r') → idempotencyParts r = idempotencyParts r') ∧
    (∀ key version key' version',
      KeepsApart executionIdentityDomain [key, toString version] [key', toString version'] →
      wantExecutionID key version = wantExecutionID key' version' → key = key' ∧ version = version') ∧
    (∀ key version approval approvalVersion evaluation key' version' approval' approvalVersion' evaluation',
      KeepsApart executionRequestDomain [key, toString version, approval, toString approvalVersion, evaluation]
        [key', toString version', approval', toString approvalVersion', evaluation'] →
      wantRequestKey key version approval approvalVersion evaluation =
        wantRequestKey key' version' approval' approvalVersion' evaluation' →
      (key, version, approval, approvalVersion, evaluation) =
        (key', version', approval', approvalVersion', evaluation')) ∧
    (∀ result result', KeepsApart policyEvaluationDomain (evaluationParts result) (evaluationParts result') →
      policyEvaluationKey result = policyEvaluationKey result' →
      { result with findings := [] } = { result' with findings := [] }) := by
  refine ⟨?_, ?_, fun r r' same => hashed_injective _ same, ?_, ?_, ?_⟩
  · intro domain parts parts' same
    have read := hashInput_injective domain same
    exact ⟨congrArg List.length read, read⟩
  · intro domain parts parts' apart same
    exact hash_inj apart same
  · intro key version key' version' apart same
    have parts := hash_inj apart ((String.append_right_inj _).mp same)
    simp only [List.cons.injEq, and_true] at parts
    exact ⟨parts.1, toString_nat_inj parts.2⟩
  · intro key version approval approvalVersion evaluation key' version' approval' approvalVersion' evaluation' apart same
    have parts := hash_inj apart same
    simp only [List.cons.injEq, and_true] at parts
    obtain ⟨keys, versions, approvals, approvalVersions, evaluations⟩ := parts
    rw [keys, toString_nat_inj versions, approvals, toString_nat_inj approvalVersions, evaluations]
  · intro result result' apart same
    exact evaluationParts_inj (hash_inj apart same)

end WizPay.Exec

namespace WizPay.Providers

open Checks Codes GoText

/-- What `LogFingerprint` writes of one log or more. -/
def fingerprintInput (logs : List ReceiptLog) : List UInt8 :=
  bytes s!"wzp-receipt-logs-v1\n{logs.length}\n" ++ logs.flatMap ReceiptLog.preimage

theorem logFingerprint_hashed (logs : List ReceiptLog) :
    logFingerprint logs = if logs.isEmpty then "" else Sha256.hexText (Sha256.sum256 (fingerprintInput logs)) := rfl

/-- Two logs that differ at most in the case of their texts and in an index that neither has. -/
structure SameLog (a b : ReceiptLog) : Prop where
  address : toLower a.address = toLower b.address
  topics : a.topics = b.topics
  data : a.data = b.data
  hasIndex : a.hasIndex = b.hasIndex
  index : a.hasIndex = true → a.index = b.index
  transactionHash : toLower a.transactionHash = toLower b.transactionHash

/-- A line that is left out when there is nothing to write. -/
def optionalLine (tag : UInt8) : Option String → List UInt8
  | none => []
  | some text => tag :: 61 :: (bytes text ++ [10])

theorem optionalLine_inj {tag : UInt8} {first second : Option String} {r s : List UInt8}
    (plain : ∀ text ∈ first, Unmarked 10 text) (plain' : ∀ text ∈ second, Unmarked 10 text)
    (ends : r.head? ≠ some tag) (ends' : s.head? ≠ some tag)
    (same : optionalLine tag first ++ r = optionalLine tag second ++ s) : first = second ∧ r = s := by
  cases first with
  | none =>
    cases second with
    | none => exact ⟨rfl, same⟩
    | some text => exact absurd (congrArg List.head? same) ends
  | some text =>
    cases second with
    | none => exact absurd (congrArg List.head? same).symm ends'
    | some text' =>
      simp only [optionalLine, List.cons_append, List.append_assoc, List.nil_append, List.cons.injEq, true_and] at same
      obtain ⟨rfl, rest⟩ := marked_inj (plain _ rfl) (plain' _ rfl) same
      exact ⟨rfl, rest⟩

def ReceiptLog.indexText (log : ReceiptLog) : Option String := if log.hasIndex then some (toString log.index.toNat) else none

def ReceiptLog.hashText (log : ReceiptLog) : Option String :=
  if log.transactionHash ≠ "" then some (toLower log.transactionHash) else none

def topicCode (topic : List UInt8) : List UInt8 := bytes "topic:" ++ topic ++ [10]

theorem topic_reads : ReadsOff topicCode (·.length = 32) (fun _ => True) Eq := by
  intro topic topic' r s size size' _ _ same
  simp only [topicCode, List.append_assoc] at same
  obtain ⟨rfl, rest⟩ := List.append_inj (List.append_cancel_left same) (size.trans size'.symm)
  exact ⟨rfl, List.append_cancel_left rest⟩

/-- The texts of an accepted log have neither spaces nor line ends. -/
structure ReceiptLog.Readable (log : ReceiptLog) : Prop where
  address : ∀ c ∈ log.address.toList, isGraphic c = true
  topics : ∀ topic ∈ log.topics, topic.length = 32
  index : ∀ text ∈ log.indexText, Unmarked 10 text
  hash : ∀ text ∈ log.hashText, Unmarked 10 text

theorem isGraphic_addressDigit {c : Char} (digit : isAddressDigit c = true) : isGraphic c = true := by
  simp only [isAddressDigit, isLowerHex, Bool.or_eq_true, isDecimalDigit_iff, Bool.and_eq_true, decide_eq_true_eq] at digit
  have ha : 'a'.toNat = 97 := rfl
  have hf : 'f'.toNat = 102 := rfl
  have hA : 'A'.toNat = 65 := rfl
  have hF : 'F'.toNat = 70 := rfl
  rw [isGraphic_iff]
  omega

theorem graphic_address {address : String} (valid : validAddress address = true) :
    ∀ c ∈ address.toList, isGraphic c = true := by
  simp only [validAddress, Bool.and_eq_true] at valid
  obtain ⟨_, shape⟩ := valid
  split at shape
  next digits spelled =>
    rw [List.all_eq_true] at shape
    intro c member
    rw [spelled, List.mem_cons, List.mem_cons] at member
    rcases member with rfl | rfl | digit
    · decide
    · decide
    · exact isGraphic_addressDigit (shape c digit)
  next => cases shape

theorem ReceiptLog.readable {log : ReceiptLog} (valid : log.validate = .ok ()) : log.Readable := by
  simp only [ReceiptLog.validate, checks_ok, validateTopics_eq_ok, Bool.not_eq_false] at valid
  obtain ⟨address, -, topics, -, hash⟩ := valid
  refine ⟨graphic_address address, topics, ?_, ?_⟩
  · intro text written
    unfold ReceiptLog.indexText at written
    split at written
    · cases written
      exact unmarked_line fun c listed => isGraphic_digit (decimal_digits c listed)
    · cases written
  · intro text written
    unfold ReceiptLog.hashText at written
    split at written
    next present =>
      cases written
      have valid : validTransactionHash log.transactionHash = true := by
        by_contra invalid
        exact hash ⟨present, Bool.eq_false_iff.mpr invalid⟩
      obtain ⟨lowered, spelled⟩ := validTransactionHash_written valid
      rw [lowered]
      exact unmarked_line (written_visible spelled).1
    next => cases written

theorem graphic_toLower {text : String} (graphic : ∀ c ∈ text.toList, isGraphic c = true) :
    ∀ c ∈ (toLower text).toList, isGraphic c = true := by
  simp only [toLower, String.toList_ofList, List.mem_map]
  rintro _ ⟨c, listed, rfl⟩
  have bounds := graphic c listed
  rw [isGraphic_iff] at bounds ⊢
  unfold lowerChar
  split
  next upper =>
    obtain ⟨code, low, high⟩ := toNat_capital upper
    omega
  next => rwa [if_neg (by omega), if_neg (by omega)]

theorem bytes_line (tag text : String) : bytes (toString tag ++ text ++ toString "\n") = bytes tag ++ (bytes text ++ [10]) := by
  rw [bytes_append, bytes_append, List.append_assoc]
  rfl

/-- The lines of a log one after the other. -/
theorem ReceiptLog.preimage_eq {log : ReceiptLog} (readable : log.Readable) :
    log.preimage =
      bytes "a=" ++ (bytes (toLower log.address) ++ 10 :: (bytes "t=" ++ (bytes (toString log.topics.length) ++
        10 :: (log.topics.flatMap topicCode ++ (bytes "d=" ++ (bytes (toString log.data.length) ++
          10 :: (log.data ++ 10 :: (optionalLine 105 log.indexText ++ optionalLine 104 log.hashText)))))))) := by
  have indexLine : (if log.hasIndex then bytes s!"i={log.index.toNat}\n" else []) = optionalLine 105 log.indexText := by
    unfold ReceiptLog.indexText
    split
    · exact bytes_line "i=" _
    · rfl
  have hashLine : (if log.transactionHash ≠ "" then bytes s!"h={toLower log.transactionHash}\n" else []) =
      optionalLine 104 log.hashText := by
    unfold ReceiptLog.hashText
    split
    · exact bytes_line "h=" _
    · rfl
  rw [ReceiptLog.preimage, indexLine, hashLine, trimSpace_graphic readable.address]
  simp only [bytes_line, List.append_assoc, List.cons_append, List.nil_append]
  rfl

/-- After a log the stream ends or the next log begins. -/
def NextLog (rest : List UInt8) : Prop := rest.head?.getD 97 = 97

theorem NextLog.head {rest : List UInt8} (next : NextLog rest) {tag : UInt8} (other : tag ≠ 97) : rest.head? ≠ some tag := by
  intro head
  rw [NextLog, head] at next
  exact other next

theorem head_optionalLine {tag other : UInt8} (apart : tag ≠ other) {line : Option String} {rest : List UInt8}
    (next : rest.head? ≠ some other) : (optionalLine tag line ++ rest).head? ≠ some other := by
  cases line with
  | none => exact next
  | some text => exact fun head => apart (Option.some.inj head)

theorem ReceiptLog.indexText_inj {a b : ReceiptLog} (same : a.indexText = b.indexText) :
    a.hasIndex = b.hasIndex ∧ (a.hasIndex = true → a.index = b.index) := by
  unfold ReceiptLog.indexText at same
  split at same <;> split at same
  next ha hb =>
    have numbers := toString_nat_inj (Option.some.inj same)
    exact ⟨ha.trans hb.symm, fun _ => UInt64.toNat_inj.mp numbers⟩
  next => cases same
  next => cases same
  next ha hb => simp_all

theorem ReceiptLog.hashText_inj {a b : ReceiptLog} (same : a.hashText = b.hashText) :
    toLower a.transactionHash = toLower b.transactionHash := by
  unfold ReceiptLog.hashText at same
  split at same <;> split at same
  next => exact Option.some.inj same
  next => cases same
  next => cases same
  next ha hb => rw [not_not.mp ha, not_not.mp hb]

theorem log_reads : ReadsOff ReceiptLog.preimage ReceiptLog.Readable NextLog SameLog := by
  intro a b r s readable readable' next next' same
  simp only [ReceiptLog.preimage_eq readable, ReceiptLog.preimage_eq readable', List.append_assoc, List.cons_append] at same
  obtain ⟨address, same⟩ := marked_inj (unmarked_line (graphic_toLower readable.address))
    (unmarked_line (graphic_toLower readable'.address)) (List.append_cancel_left same)
  obtain ⟨count, same⟩ := number_inj (by decide) (List.append_cancel_left same)
  obtain ⟨topics, same⟩ := topic_reads.flatMap (fun _ _ => trivial) trivial trivial readable.topics readable'.topics
    (.inl count) same
  obtain ⟨size, same⟩ := number_inj (by decide) (List.append_cancel_left same)
  obtain ⟨data, same⟩ := List.append_inj same size
  -- the optional lines and the next log begin with three different bytes
  obtain ⟨index, same⟩ := optionalLine_inj readable.index readable'.index
    (head_optionalLine (by decide) (next.head (by decide))) (head_optionalLine (by decide) (next'.head (by decide)))
    (List.cons.inj same).2
  obtain ⟨hash, rest⟩ := optionalLine_inj readable.hash readable'.hash (next.head (by decide)) (next'.head (by decide)) same
  obtain ⟨presence, value⟩ := ReceiptLog.indexText_inj index
  exact ⟨⟨address, List.forall₂_eq_eq_eq ▸ topics, data, presence, value, ReceiptLog.hashText_inj hash⟩, rest⟩

theorem ReceiptLog.nextLog (log : ReceiptLog) (rest : List UInt8) : NextLog (log.preimage ++ rest) := by
  have tag : bytes "a=" = [97, 61] := rfl
  simp only [NextLog, ReceiptLog.preimage, bytes_line, tag, List.cons_append, List.head?_cons, Option.getD_some]

theorem readable_of_validateLogs {logs : List ReceiptLog} (valid : validateLogs logs = .ok ()) :
    ∀ log ∈ logs, log.Readable := by
  simp only [validateLogs, guard_ok, validateEachLog_eq_ok] at valid
  exact fun log member => ReceiptLog.readable (valid.2 log member)

/-- The stream of a fingerprint decides the logs, whatever bytes their data has. -/
theorem fingerprintInput_decides_logs {logs logs' : List ReceiptLog} (valid : validateLogs logs = .ok ())
    (valid' : validateLogs logs' = .ok ()) (same : fingerprintInput logs = fingerprintInput logs') :
    logs.length = logs'.length ∧ List.Forall₂ SameLog logs logs' := by
  simp only [fingerprintInput, bytes_line, List.append_assoc, List.singleton_append] at same
  obtain ⟨count, streams⟩ := number_inj (by decide) (List.append_cancel_left same)
  have ends : NextLog [] := rfl
  have read := log_reads.flatMap ReceiptLog.nextLog ends ends (readable_of_validateLogs valid)
    (readable_of_validateLogs valid') (.inl count) (congrArg (· ++ []) streams)
  exact ⟨count, read.1⟩

/-- A log with data that spells the lines after it. -/
def spellingLog (address : String) : ReceiptLog :=
  { address, topics := [List.replicate 32 10], data := bytes "\ni=7\nh=0x\na=", index := 7, hasIndex := true,
    transactionHash := "" }

theorem fingerprintInput_decides_case :
    [spellingLog "0xabcdefabcdefabcdefabcdefabcdefabcdefabcd"].length =
        [spellingLog "0xABCDEFabcdefabcdefabcdefabcdefabcdefabcd"].length ∧
      List.Forall₂ SameLog [spellingLog "0xabcdefabcdefabcdefabcdefabcdefabcdefabcd"]
        [spellingLog "0xABCDEFabcdefabcdefabcdefabcdefabcdefabcd"] :=
  fingerprintInput_decides_logs (by decide +kernel) (by decide +kernel) (by decide +kernel)

end WizPay.Providers
