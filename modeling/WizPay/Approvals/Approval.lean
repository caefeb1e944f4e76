import WizPay.Execution.Types
import WizPay.Intents.Digest
import WizPay.Lib.History

/-!
# Approvals

`internal/approvals`: the decision of a user on one frozen intent. A zero time is an
instant that was never set.
-/
namespace WizPay.Approvals

open Checks GoText GoTime Intents History

def maxFieldLength : Nat := 256

inductive Status
  | pending | approved | readyForExecutionConfirmation | rejected | expired | consumed
deriving DecidableEq

def Status.text : Status → String
  | .pending => "PENDING"
  | .approved => "APPROVED"
  | .readyForExecutionConfirmation => "READY_FOR_EXECUTION_CONFIRMATION"
  | .rejected => "REJECTED"
  | .expired => "EXPIRED"
  | .consumed => "CONSUMED"

def Status.terminal (s : Status) : Bool := s = .rejected || s = .expired || s = .consumed

inductive Decision
  | pending | approved | rejected
deriving DecidableEq

def Decision.text : Decision → String
  | .pending => "PENDING"
  | .approved => "APPROVED"
  | .rejected => "REJECTED"

structure ApprovalParams where
  approvalID : String
  version : Nat
  approvalRequestID : String
  createdAt : Int
  expiresAt : Int
deriving DecidableEq

structure Approval where
  approvalID : String
  version : Nat
  approvalRequestID : String
  intentID : String
  intentVersion : Nat
  intentDigest : String
  userID : String
  walletBindingID : String
  walletBindingVersion : Nat
  walletID : String
  walletAddress : String
  chainID : String
  status : Status
  decision : Decision
  createdAt : Int
  expiresAt : Int
  decidedAt : Int
  consumedAt : Int
  operationKey : String
  operationVersion : Nat
  lifecycleRevision : Nat
deriving DecidableEq

def validateText (name value : String) : Except Error Unit := Exec.validateBoundedText name value maxFieldLength

def validateFields : List (String × String) → Except Error Unit
  | [] => .ok ()
  | (name, value) :: rest => do
    (validateText name value).mapError (.wrap .validationError "Approval is invalid." false true true)
    validateFields rest

def invalidLifecycle : Error :=
  .app .validationError "Approval lifecycle metadata is invalid." false true true

def invalidTransition : Error :=
  .app .validationError "Approval lifecycle transition is invalid." false true true

def expired : Error := .app .approvalExpired "Approval has expired." false true true

variable (a : Approval)

namespace Approval

def textFields : List (String × String) :=
  [("approval ID", a.approvalID), ("approval request ID", a.approvalRequestID), ("intent ID", a.intentID),
    ("intent digest", a.intentDigest), ("user ID", a.userID), ("wallet binding ID", a.walletBindingID),
    ("wallet ID", a.walletID), ("wallet address", a.walletAddress), ("chain ID", a.chainID)]

/-- No operation has taken the approval. -/
def Unused : Prop := a.consumedAt = 0 ∧ a.operationKey = "" ∧ a.operationVersion = 0

/-- The switch of `Validate`: the fields that each status asks for. -/
def ConsistentWith : Status → Prop
  | .pending => a.decision = .pending ∧ a.decidedAt = 0 ∧ a.Unused
  | .approved | .readyForExecutionConfirmation => a.decision = .approved ∧ a.decidedAt ≠ 0 ∧ a.Unused
  | .rejected => a.decision = .rejected ∧ a.decidedAt ≠ 0 ∧ a.Unused
  | .expired => a.Unused
  | .consumed =>
    a.decision = .approved ∧ a.decidedAt ≠ 0 ∧ a.consumedAt ≠ 0 ∧ a.operationKey ≠ "" ∧ a.operationVersion ≠ 0

instance (a : Approval) : Decidable a.Unused := inferInstanceAs (Decidable (_ ∧ _))

instance (a : Approval) (status : Status) : Decidable (a.ConsistentWith status) :=
  match status with
  | .pending | .approved | .readyForExecutionConfirmation | .rejected | .consumed => inferInstanceAs (Decidable (_ ∧ _))
  | .expired => inferInstanceAs (Decidable a.Unused)

def validate : Except Error Unit := do
  validateFields a.textFields
  rejectIf (a.version = 0 ∨ a.intentVersion = 0 ∨ a.walletBindingVersion = 0 ∨ a.lifecycleRevision = 0)
    (.app .validationError "Approval versions must be at least 1." false true true)
  rejectIf (a.createdAt = 0 ∨ a.expiresAt = 0 ∨ ¬ a.createdAt < a.expiresAt)
    (.app .validationError "Approval validity period is invalid." false true true)
  rejectIf (¬ a.ConsistentWith a.status) invalidLifecycle

/-- An approval that `validate` accepts. -/
structure Valid (a : Approval) : Prop where
  fields : validateFields a.textFields = .ok ()
  version : a.version ≠ 0
  intentVersion : a.intentVersion ≠ 0
  walletBindingVersion : a.walletBindingVersion ≠ 0
  lifecycleRevision : a.lifecycleRevision ≠ 0
  createdAt : a.createdAt ≠ 0
  expiresAt : a.expiresAt ≠ 0
  period : a.createdAt < a.expiresAt
  consistent : a.ConsistentWith a.status

theorem validate_ok {a : Approval} : a.validate = .ok () ↔ a.Valid := by
  simp only [validate, checks_ok, not_or, not_not]
  constructor
  · rintro ⟨fields, ⟨version, intent, binding, revision⟩, ⟨created, expires, period⟩, consistent⟩
    exact ⟨fields, version, intent, binding, revision, created, expires, period, consistent⟩
  · rintro ⟨fields, version, intent, binding, revision, created, expires, period, consistent⟩
    exact ⟨fields, ⟨version, intent, binding, revision⟩, ⟨created, expires, period⟩, consistent⟩

end Approval

/-- `New(params, intent)`: the intent awaits approval, and its validity contains that of the approval. -/
def new (params : ApprovalParams) (intent : Intent) : Except Error Approval := do
  intent.validate
  rejectIf (intent.status ≠ .approvalRequired)
    (.app .validationError "Intent is not awaiting approval." false true true)
  let owner := intent.params.ownership
  let a : Approval :=
    { approvalID := trimSpace params.approvalID, version := params.version,
      approvalRequestID := trimSpace params.approvalRequestID,
      intentID := intent.params.intentID, intentVersion := intent.params.version, intentDigest := intent.digest,
      userID := owner.userID, walletBindingID := owner.walletBindingID,
      walletBindingVersion := owner.walletBindingVersion, walletID := owner.walletID,
      walletAddress := owner.walletAddress, chainID := owner.chainID,
      status := .pending, decision := .pending, createdAt := params.createdAt, expiresAt := params.expiresAt,
      decidedAt := 0, consumedAt := 0, operationKey := "", operationVersion := 0, lifecycleRevision := 1 }
  a.validate
  rejectIf (a.createdAt < intent.params.createdAt ∨ intent.params.expiresAt < a.expiresAt)
    (.app .validationError "Approval validity must be contained by intent validity." false true true)
  pure a

/-- `Restore`: the parameters are the fields themselves, with UTC instants. -/
def restore (p : Approval) : Except Error Approval := do
  p.validate
  pure p

variable {operation : Operation}

namespace Approval

/-- Every field that `New` copied from the intent still equals the intent's. -/
def Matches (intent : Intent) : Prop :=
  a.intentID = intent.params.intentID ∧ a.intentVersion = intent.params.version ∧ a.intentDigest = intent.digest ∧
    a.userID = intent.params.ownership.userID ∧ a.walletBindingID = intent.params.ownership.walletBindingID ∧
    a.walletBindingVersion = intent.params.ownership.walletBindingVersion ∧
    a.walletID = intent.params.ownership.walletID ∧ a.walletAddress = intent.params.ownership.walletAddress ∧
    a.chainID = intent.params.ownership.chainID

instance (a : Approval) (intent : Intent) : Decidable (a.Matches intent) := inferInstanceAs (Decidable (_ ∧ _))

def ensureAuthorizes (intent : Intent) (time : Int) : Except Error Unit := do
  a.validate
  intent.validate
  rejectIf (¬ a.Matches intent)
    (.app .approvalRequired "Approval does not match the intent and wallet binding." false true true)
  rejectIf (time = 0 ∨ ¬ time < a.expiresAt) Approvals.expired
  match a.status with
  | .approved | .readyForExecutionConfirmation => .ok ()
  | .rejected => .error (.app .approvalRejected "Approval was rejected." false true true)
  | .consumed => .error (.app .approvalAlreadyConsumed "Approval has already been consumed." false true true)
  | _ => .error (.app .approvalRequired "Explicit approval is required." false true false)

/-! ### Lifecycle -/

def validateDecisionTime (time : Int) : Except Error Unit := do
  rejectIf (time = 0 ∨ time < a.createdAt)
    (.app .validationError "Approval decision time is invalid." false true true)
  rejectIf (¬ time < a.expiresAt) Approvals.expired

/-- The last step of every operation: count the change and validate. -/
def advance (next : Approval) : Except Error Approval := do
  let next := { next with lifecycleRevision := nextRevision next.lifecycleRevision }
  next.validate
  pure next

/-- `Approve` and `Reject`: the decision that the owner takes once. -/
def decideAs (status : Status) (decision : Decision) (a : Approval) (time : Int) : Except Error Approval := do
  a.validate
  if a.status = status then
    pure a
  else
    rejectIf (a.status ≠ .pending) invalidTransition
    a.validateDecisionTime time
    advance { a with status := status, decision := decision, decidedAt := time }

def approve : Approval → Int → Except Error Approval := decideAs .approved .approved

def reject : Approval → Int → Except Error Approval := decideAs .rejected .rejected

def readyForExecutionConfirmation (time : Int) : Except Error Approval := do
  a.validate
  if a.status = .readyForExecutionConfirmation then
    pure a
  else
    rejectIf (a.status ≠ .approved) invalidTransition
    rejectIf (time = 0 ∨ ¬ time < a.expiresAt) Approvals.expired
    advance { a with status := .readyForExecutionConfirmation }

def expire (time : Int) : Except Error Approval := do
  a.validate
  if a.status = .expired then
    pure a
  else
    rejectIf (a.status ≠ .pending ∧ a.status ≠ .approved ∧ a.status ≠ .readyForExecutionConfirmation)
      invalidTransition
    rejectIf (time = 0 ∨ time < a.expiresAt)
      (.app .validationError "Approval has not reached its expiration time." false true false)
    advance { a with status := .expired }

/-- The decision time is not compared with the time of the consumption. -/
def consume (time : Int) (operation : OperationIdentity) : Except Error Approval := do
  a.validate
  if a.status = .consumed then
    if a.operationKey = operation.operationKey ∧ a.operationVersion = operation.version then
      pure a
    else
      .error (.app .approvalAlreadyConsumed "Approval has already been consumed." false true true)
  else
    rejectIf (a.status ≠ .approved ∧ a.status ≠ .readyForExecutionConfirmation) invalidTransition
    rejectIf (time = 0 ∨ time < a.createdAt)
      (.app .validationError "Approval consumption time is invalid." false true true)
    rejectIf (¬ time < a.expiresAt) Approvals.expired
    rejectIf (a.intentID ≠ operation.intentID ∨ a.intentVersion ≠ operation.intentVersion ∨
        a.intentDigest ≠ operation.intentDigest ∨ operation.operationKey = "")
      (.app .approvalRequired "Approval does not match the logical operation." false true true)
    advance { a with
      status := .consumed, consumedAt := time, operationKey := operation.operationKey,
      operationVersion := operation.version }

/-! ### What an operation can do -/

inductive Operation
  | approve (time : Int)
  | readyForExecutionConfirmation (time : Int)
  | reject (time : Int)
  | expire (time : Int)
  | consume (time : Int) (operation : OperationIdentity)
deriving DecidableEq

def act : Operation → Except Error Approval
  | .approve time => a.approve time
  | .readyForExecutionConfirmation time => a.readyForExecutionConfirmation time
  | .reject time => a.reject time
  | .expire time => a.expire time
  | .consume time operation => a.consume time operation

/-- The statuses of an approval that was given and not yet used. -/
def Granted : Prop := a.status = .approved ∨ a.status = .readyForExecutionConfirmation

/-- The ways in which an operation changes an approval, before the revision is counted. -/
inductive Change (a : Approval) : Operation → Approval → Prop
  | approve {time : Int} (pending : a.status = .pending) (timely : a.validateDecisionTime time = .ok ()) :
      Change a (.approve time) { a with status := .approved, decision := .approved, decidedAt := time }
  | reject {time : Int} (pending : a.status = .pending) (timely : a.validateDecisionTime time = .ok ()) :
      Change a (.reject time) { a with status := .rejected, decision := .rejected, decidedAt := time }
  | ready {time : Int} (approved : a.status = .approved) (timely : time < a.expiresAt) :
      Change a (.readyForExecutionConfirmation time) { a with status := .readyForExecutionConfirmation }
  | expire {time : Int} (running : a.status = .pending ∨ a.Granted) (late : a.expiresAt ≤ time) :
      Change a (.expire time) { a with status := .expired }
  | consume {time : Int} {operation : OperationIdentity} (granted : a.Granted) (set : time ≠ 0)
      (created : a.createdAt ≤ time) (timely : time < a.expiresAt)
      (intent : a.intentID = operation.intentID ∧ a.intentVersion = operation.intentVersion ∧
        a.intentDigest = operation.intentDigest) :
      Change a (.consume time operation) { a with
        status := .consumed, consumedAt := time, operationKey := operation.operationKey,
        operationVersion := operation.version }

variable {a next : Approval} {time : Int}

theorem advance_ok : a.advance = .ok next ↔
    next = { a with lifecycleRevision := nextRevision a.lifecycleRevision } ∧ next.Valid := by
  simp only [advance, guard_ok, pure_ok, validate_ok]
  constructor
  · rintro ⟨valid, rfl⟩
    exact ⟨rfl, valid⟩
  · rintro ⟨rfl, valid⟩
    exact ⟨valid, rfl⟩

theorem validateDecisionTime_ok :
    a.validateDecisionTime time = .ok () ↔ time ≠ 0 ∧ a.createdAt ≤ time ∧ time < a.expiresAt := by
  simp only [validateDecisionTime, checks_ok, not_or, Int.not_lt, Int.not_le, and_assoc, ne_eq]

theorem decideAs_ok {status : Status} {decision : Decision} (done : decideAs status decision a time = .ok next) :
    a.Valid ∧ (next = a ∨ (a.status = .pending ∧ a.validateDecisionTime time = .ok () ∧
      advance { a with status := status, decision := decision, decidedAt := time } = .ok next)) := by
  simp only [decideAs, guard_ok, validate_ok] at done
  obtain ⟨valid, done⟩ := done
  refine ⟨valid, ?_⟩
  split at done
  next => exact .inl (pure_ok.mp done).symm
  next =>
    simp only [checks_ok, ne_eq, not_not] at done
    exact .inr done

theorem readyForExecutionConfirmation_ok (done : a.readyForExecutionConfirmation time = .ok next) :
    a.Valid ∧ (next = a ∨ (a.status = .approved ∧ time < a.expiresAt ∧
      advance { a with status := .readyForExecutionConfirmation } = .ok next)) := by
  simp only [readyForExecutionConfirmation, guard_ok, validate_ok] at done
  obtain ⟨valid, done⟩ := done
  refine ⟨valid, ?_⟩
  split at done
  next => exact .inl (pure_ok.mp done).symm
  next =>
    simp only [checks_ok, ne_eq, not_not, not_or] at done
    exact .inr ⟨done.1, done.2.1.2, done.2.2⟩

theorem expire_ok (done : a.expire time = .ok next) :
    a.Valid ∧ (next = a ∨ ((a.status = .pending ∨ a.Granted) ∧ a.expiresAt ≤ time ∧
      advance { a with status := .expired } = .ok next)) := by
  simp only [expire, guard_ok, validate_ok] at done
  obtain ⟨valid, done⟩ := done
  refine ⟨valid, ?_⟩
  split at done
  next => exact .inl (pure_ok.mp done).symm
  next =>
    simp only [checks_ok, ne_eq, not_or, not_and_or, not_not, Int.not_lt] at done
    exact .inr ⟨done.1, done.2.1.2, done.2.2⟩

theorem consume_ok {operation : OperationIdentity} (done : a.consume time operation = .ok next) :
    a.Valid ∧ (next = a ∨ (a.Granted ∧ time ≠ 0 ∧ a.createdAt ≤ time ∧ time < a.expiresAt ∧
      (a.intentID = operation.intentID ∧ a.intentVersion = operation.intentVersion ∧
        a.intentDigest = operation.intentDigest) ∧
      advance { a with
        status := .consumed, consumedAt := time, operationKey := operation.operationKey,
        operationVersion := operation.version } = .ok next)) := by
  simp only [consume, guard_ok, validate_ok] at done
  obtain ⟨valid, done⟩ := done
  refine ⟨valid, ?_⟩
  split at done
  next =>
    split at done
    next => exact .inl (pure_ok.mp done).symm
    next => simp at done
  next =>
    simp only [checks_ok, ne_eq, not_or, not_and_or, not_not, Int.not_lt, Int.not_le] at done
    obtain ⟨granted, ⟨set, created⟩, timely, ⟨intent, version, digest, -⟩, moved⟩ := done
    exact .inr ⟨granted, set, created, timely, ⟨intent, version, digest⟩, moved⟩

/-- An effective operation: one of the changes, counted, with a valid value before and after. -/
structure Effective (a : Approval) (operation : Operation) (next : Approval) : Prop where
  changed : ∃ draft, a.Change operation draft ∧
    next = { draft with lifecycleRevision := nextRevision a.lifecycleRevision }
  before : a.Valid
  valid : next.Valid

theorem Change.revision {draft : Approval} (change : a.Change operation draft) :
    draft.lifecycleRevision = a.lifecycleRevision := by
  cases change <;> rfl

theorem Change.effective {draft : Approval} (change : a.Change operation draft) (valid : a.Valid)
    (moved : draft.advance = .ok next) : a.Effective operation next := by
  obtain ⟨counted, nextValid⟩ := advance_ok.mp moved
  exact ⟨⟨draft, change, by rw [counted, change.revision]⟩, valid, nextValid⟩

theorem act_ok (done : a.act operation = .ok next) :
    next = a ∨ a.Effective operation next := by
  cases operation with
  | approve time =>
    obtain ⟨valid, same | ⟨pending, timely, moved⟩⟩ := decideAs_ok done
    · exact .inl same
    · exact .inr ((Change.approve pending timely).effective valid moved)
  | reject time =>
    obtain ⟨valid, same | ⟨pending, timely, moved⟩⟩ := decideAs_ok done
    · exact .inl same
    · exact .inr ((Change.reject pending timely).effective valid moved)
  | readyForExecutionConfirmation time =>
    obtain ⟨valid, same | ⟨approved, timely, moved⟩⟩ := readyForExecutionConfirmation_ok done
    · exact .inl same
    · exact .inr ((Change.ready approved timely).effective valid moved)
  | expire time =>
    obtain ⟨valid, same | ⟨running, late, moved⟩⟩ := expire_ok done
    · exact .inl same
    · exact .inr ((Change.expire running late).effective valid moved)
  | consume time operation =>
    obtain ⟨valid, same | ⟨granted, set, created, timely, intent, moved⟩⟩ := consume_ok done
    · exact .inl same
    · exact .inr ((Change.consume granted set created timely intent).effective valid moved)

/-- An approval in force at `time`: given, not used, not expired. -/
def EffectiveAt (time : Int) : Prop := a.Granted ∧ a.decidedAt ≤ time ∧ time < a.expiresAt

/-- What `EnsureAuthorizes` establishes; the time of the decision is not part of it. -/
theorem ensureAuthorizes_ok {intent : Intent} :
    a.ensureAuthorizes intent time = .ok () ↔
      a.Valid ∧ intent.validate = .ok () ∧ a.Matches intent ∧ time ≠ 0 ∧ time < a.expiresAt ∧ a.Granted := by
  simp only [ensureAuthorizes, checks_ok, validate_ok, not_or, not_not, and_assoc, ne_eq, Granted]
  cases a.status <;> simp

theorem new_ok {params : ApprovalParams} {intent : Intent} (created : new params intent = .ok a) :
    a.Valid ∧ a.status = .pending ∧ a.Matches intent ∧ intent.params.createdAt ≤ a.createdAt ∧
      a.expiresAt ≤ intent.params.expiresAt := by
  simp only [new, checks_ok, pure_ok, validate_ok, not_or, Int.not_lt] at created
  obtain ⟨-, -, valid, ⟨starts, ends⟩, rfl⟩ := created
  exact ⟨valid, rfl, ⟨rfl, rfl, rfl, rfl, rfl, rfl, rfl, rfl, rfl⟩, starts, ends⟩

/-! ### Operations that succeed -/

theorem nextRevision_ne_zero {revision : Nat} (room : revision + 1 < 2 ^ 64) : nextRevision revision ≠ 0 := by
  simp only [nextRevision]
  omega

theorem advance_eq (valid : { a with lifecycleRevision := nextRevision a.lifecycleRevision }.Valid) :
    a.advance = .ok { a with lifecycleRevision := nextRevision a.lifecycleRevision } :=
  advance_ok.mpr ⟨rfl, valid⟩

theorem approve_eq (valid : a.Valid) (pending : a.status = .pending) (timely : a.validateDecisionTime time = .ok ())
    (room : a.lifecycleRevision + 1 < 2 ^ 64) :
    a.approve time = .ok { a with
      status := .approved, decision := .approved, decidedAt := time,
      lifecycleRevision := nextRevision a.lifecycleRevision } := by
  have consistent := valid.consistent
  rw [pending] at consistent
  simp only [approve, decideAs, checks_ok, validate_ok.mpr valid, pending, timely, true_and, reduceCtorEq, if_false,
    ne_eq, not_true, not_false_iff]
  refine advance_eq { valid with
    lifecycleRevision := nextRevision_ne_zero room,
    consistent := ⟨rfl, (validateDecisionTime_ok.mp timely).1, consistent.2.2⟩ }

theorem consume_eq {operation : OperationIdentity} (valid : a.Valid) (granted : a.Granted) (set : time ≠ 0)
    (created : a.createdAt ≤ time) (timely : time < a.expiresAt)
    (intent : a.intentID = operation.intentID ∧ a.intentVersion = operation.intentVersion ∧
      a.intentDigest = operation.intentDigest)
    (key : operation.operationKey ≠ "") (version : operation.version ≠ 0)
    (room : a.lifecycleRevision + 1 < 2 ^ 64) :
    a.consume time operation = .ok { a with
      status := .consumed, consumedAt := time, operationKey := operation.operationKey,
      operationVersion := operation.version, lifecycleRevision := nextRevision a.lifecycleRevision } := by
  have consistent := valid.consistent
  have decision : a.decision = .approved ∧ a.decidedAt ≠ 0 := by
    rcases granted with status | status
    · rw [status] at consistent
      exact ⟨consistent.1, consistent.2.1⟩
    · rw [status] at consistent
      exact ⟨consistent.1, consistent.2.1⟩
  have running : a.status ≠ .consumed := by
    rcases granted with status | status <;> simp [status]
  have either : ¬ (a.status ≠ .approved ∧ a.status ≠ .readyForExecutionConfirmation) := by
    simpa only [Granted, not_and_or, ne_eq, not_not] using granted
  have matched : ¬ (a.intentID ≠ operation.intentID ∨ a.intentVersion ≠ operation.intentVersion ∨
      a.intentDigest ≠ operation.intentDigest ∨ operation.operationKey = "") := by
    simpa only [not_or, ne_eq, not_not, and_assoc] using And.intro intent key
  have ordered : ¬ (time = 0 ∨ time < a.createdAt) := by omega
  simp only [consume, checks_ok, validate_ok.mpr valid, running, if_false, true_and, either, matched, ordered,
    not_not, timely, not_false_iff]
  exact advance_eq { valid with
    lifecycleRevision := nextRevision_ne_zero room,
    consistent := ⟨decision.1, decision.2, set, key, version⟩ }

end Approval

/-! ### A sample -/

theorem validateText_digest (name : String) (material : List UInt8) :
    validateText name (digestBytes material) = .ok () := by
  apply Exec.validateBoundedText_ok.mpr
  refine ⟨digestBytes_ne_empty material, trimSpace_graphic (digestBytes_graphic material), ?_,
    hasControl_graphic (digestBytes_graphic material)⟩
  rw [digestBytes_len]
  decide

/-- The approval of the sample transfer, valid as long as the intent. -/
def sampleApproval : Approval :=
  { approvalID := "app_1", version := 1, approvalRequestID := "areq_1", intentID := "int_1", intentVersion := 1,
    intentDigest := digestBytes (canonicalMaterial sampleSend), userID := "user_1", walletBindingID := "bind_1",
    walletBindingVersion := 2, walletID := "wal_1", walletAddress := "0x1111111111111111111111111111111111111111",
    chainID := "5042", status := .pending, decision := .pending, createdAt := 63900000000000000000,
    expiresAt := 63900003600000000000, decidedAt := 0, consumedAt := 0, operationKey := "", operationVersion := 0,
    lifecycleRevision := 1 }

theorem sampleApproval_valid : sampleApproval.Valid where
  fields := by
    have digest := validateText_digest "intent digest" (canonicalMaterial sampleSend)
    simp only [sampleApproval, Approval.textFields, validateFields, guard_ok, mapError_ok, digest, and_true,
      true_and]
    decide +kernel
  version := by decide
  intentVersion := by decide
  walletBindingVersion := by decide
  lifecycleRevision := by decide
  createdAt := by decide
  expiresAt := by decide
  period := by decide
  consistent := ⟨rfl, rfl, rfl, rfl, rfl⟩

theorem new_sampleApproval :
    new ⟨"app_1", 1, "areq_1", sampleSend.createdAt, sampleSend.expiresAt⟩ sampleSend.awaitingApproval =
      .ok sampleApproval := by
  have identifiers : trimSpace "app_1" = "app_1" ∧ trimSpace "areq_1" = "areq_1" := by decide +kernel
  simp only [new, checks_ok, Params.awaitingApproval_valid sampleSend_valid, pure_ok, identifiers.1, identifiers.2,
    Approval.validate_ok]
  exact ⟨trivial, by decide, sampleApproval_valid, by decide, rfl⟩

end WizPay.Approvals
