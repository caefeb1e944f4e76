import WizPay.Errors
import WizPay.Lib.GoTime
import WizPay.Lib.Sha256

/-!
# Audit records

`internal/audit`: what every durable change records about itself.
-/
namespace WizPay.Audit

open Checks GoText GoTime

inductive EventType
  | intentCreated | intentApprovalRequired | intentApproved | intentReady | intentExpired | intentCancelled
  | approvalRequested | approvalGranted | approvalRejected | approvalExpired | approvalConsumed
  | policyEvaluated | policyAllowed | policyDenied | policyReviewRequired
  | executionCreated | executionAuthorized | executionQueued | executionExecuting | executionSubmitted
  | executionConfirming | executionConfirmed | executionVerified | executionCompleted | executionFailed
  | executionRecoveryRequired | executionRecovered | executionCancelled
deriving DecidableEq

def EventType.text : EventType → String
  | .intentCreated => "intent_created"
  | .intentApprovalRequired => "intent_approval_required"
  | .intentApproved => "intent_approved"
  | .intentReady => "intent_ready_for_execution"
  | .intentExpired => "intent_expired"
  | .intentCancelled => "intent_cancelled"
  | .approvalRequested => "approval_requested"
  | .approvalGranted => "approval_granted"
  | .approvalRejected => "approval_rejected"
  | .approvalExpired => "approval_expired"
  | .approvalConsumed => "approval_consumed"
  | .policyEvaluated => "policy_evaluated"
  | .policyAllowed => "policy_allowed"
  | .policyDenied => "policy_denied"
  | .policyReviewRequired => "policy_review_required"
  | .executionCreated => "execution_created"
  | .executionAuthorized => "execution_authorized"
  | .executionQueued => "execution_queued"
  | .executionExecuting => "execution_executing"
  | .executionSubmitted => "execution_submitted"
  | .executionConfirming => "execution_confirming"
  | .executionConfirmed => "execution_confirmed"
  | .executionVerified => "execution_verified"
  | .executionCompleted => "execution_completed"
  | .executionFailed => "execution_failed"
  | .executionRecoveryRequired => "execution_recovery_required"
  | .executionRecovered => "execution_recovered"
  | .executionCancelled => "execution_cancelled"

structure Event where
  eventID : String
  type : EventType
  occurredAt : Int
  intentID : String := ""
  intentVersion : Nat := 0
  intentDigest : String := ""
  approvalID : String := ""
  policyID : String := ""
  policyVersion : Nat := 0
  policyDecision : String := ""
  policyEvaluationKey : String := ""
  executionID : String := ""
  executionRevision : Nat := 0
  executionRequestID : String := ""
  executionRequestKey : String := ""
  executionStatus : String := ""
  recoveryReasonCode : String := ""
  walletBindingID : String := ""
  walletBindingVersion : Nat := 0
  userID : String := ""
  operationKey : String := ""
  operationVersion : Nat := 0
deriving DecidableEq

structure Record where
  event : Event
  actorType : String
  actorID : String
  requestID : String
  traceID : String := ""
  resourceType : String
  resourceID : String
  previousState : String := ""
  newState : String := ""
  safeReasonCode : String := ""
  sourceComponent : String
deriving DecidableEq

def safeField (name value : String) (required : Bool) : Except Error Unit := do
  rejectIf (required = true ∧ value = "") (.text s!"{name} is required")
  rejectIf (len value > 256 ∨ hasControl value = true) (.text s!"{name} is invalid")

def forbiddenWords : List String :=
  ["private_key", "private key", "seed phrase", "mnemonic", "signing share", "oauth token", "access_token",
    "refresh_token", "authorization: bearer", "client_secret", "api_key"]

def containsForbidden (value : String) : Bool :=
  forbiddenWords.any fun word => contains (toLower value) word

/-- The texts that must not carry secret material. -/
def Record.auditedTexts (r : Record) : List String :=
  [r.actorType, r.actorID, r.requestID, r.traceID, r.resourceType, r.resourceID, r.safeReasonCode,
    r.sourceComponent, r.event.intentID, r.event.intentDigest, r.event.approvalID, r.event.policyID,
    r.event.policyEvaluationKey, r.event.executionID, r.event.executionRequestID,
    r.event.executionRequestKey, r.event.recoveryReasonCode, r.event.walletBindingID, r.event.userID,
    r.event.operationKey]

-- Go walks two maps, in no fixed order; here the fields are checked as they are listed
def Record.validate (r : Record) : Except Error Unit := do
  rejectIf (r.event.eventID = "" ∨ isZero r.event.occurredAt)
    (.text "audit event identity and time are required")
  safeField "actor type" r.actorType true
  safeField "actor ID" r.actorID true
  safeField "request ID" r.requestID true
  safeField "resource type" r.resourceType true
  safeField "resource ID" r.resourceID true
  safeField "source component" r.sourceComponent true
  safeField "trace ID" r.traceID false
  safeField "previous state" r.previousState false
  safeField "new state" r.newState false
  safeField "safe reason code" r.safeReasonCode false
  rejectIf (r.auditedTexts.any containsForbidden = true)
    (.text "audit record contains forbidden material")

/-! ### Identifiers carry no secret -/

/-- Every forbidden word has one of these letters. -/
def telltale : List Char := ['k', 'm', 'p', 'g', 'u', 'l']

theorem forbiddenWords_telltale : forbiddenWords.all (fun word => word.toList.any telltale.contains) = true := by
  decide +kernel

theorem subset_of_isInfix {word chars : List Char} (found : isInfix word chars = true) : ∀ c ∈ word, c ∈ chars := by
  induction chars with
  | nil =>
    intro c member
    rw [isInfix, List.isEmpty_iff] at found
    simp [found] at member
  | cons first rest ih =>
    intro c member
    simp only [isInfix, Bool.or_eq_true, List.isPrefixOf_iff_prefix] at found
    rcases found with here | later
    · exact here.subset member
    · exact .tail _ (ih later c member)

theorem containsForbidden_of_lacks {value : String} (lacks : ∀ c ∈ value.toList, lowerChar c ∉ telltale) :
    containsForbidden value = false := by
  rw [Bool.eq_false_iff]
  intro hit
  simp only [containsForbidden, List.any_eq_true, contains, toLower, String.toList_ofList] at hit
  obtain ⟨word, listed, found⟩ := hit
  have spelled := List.all_eq_true.mp forbiddenWords_telltale word listed
  rw [List.any_eq_true] at spelled
  obtain ⟨letter, member, told⟩ := spelled
  obtain ⟨c, inside, lowered⟩ := List.mem_map.mp (subset_of_isInfix found letter member)
  exact lacks c inside (lowered ▸ List.contains_iff_mem.mp told)

theorem hexDigit_lacks : ∀ n < 16, lowerChar (Sha256.hexDigit n) ∉ telltale := by decide +kernel

/-- A hash in hexadecimal, and an identifier made from one, never looks like secret material. -/
theorem containsForbidden_hash {start : String}
    (plain : start.toList.all (fun c => !telltale.contains (lowerChar c)) = true)
    (data : List UInt8) : containsForbidden (start ++ Sha256.hexText data) = false := by
  apply containsForbidden_of_lacks
  intro c member
  simp only [String.toList_append, List.mem_append, Sha256.hexText, String.toList_ofList, List.mem_flatMap,
    Sha256.hexByte, List.mem_cons, List.not_mem_nil, or_false] at member
  rcases member with first | ⟨byte, _, rfl | rfl⟩
  · have lacks := List.all_eq_true.mp plain c first
    simpa using lacks
  · have small := byte.toNat_lt
    exact hexDigit_lacks _ (by omega)
  · exact hexDigit_lacks _ (Nat.mod_lt _ (by decide))

end WizPay.Audit
