import WizPay.Execution.Request

/-!
# The execution lifecycle

`internal/execution/lifecycle.go` and `Restore`. Every operation that changes the value
goes through `advance`, which adds one to the revision and validates the result.
-/
namespace WizPay.Exec

open Checks GoTime

structure Execution where
  request : Request
  status : Status
  revision : Nat
  createdAt : Int
  updatedAt : Int
  failure : Failure
  failedFrom : Option Status
  recovery : Recovery
deriving DecidableEq

/-- `^uint64(0)`. -/
def maxRevision : Nat := 2 ^ 64 - 1

variable (e : Execution)

namespace Execution

def executionID : String := e.request.executionID

def validate : Except Error Unit := do
  e.request.validate
  rejectIf (e.revision = 0 ∨ isZero e.createdAt ∨ isZero e.updatedAt ∨ e.updatedAt < e.createdAt)
    (invalidExecution (.text "execution lifecycle metadata is invalid"))
  if e.status = .failed then
    rejectIf (e.failedFrom = none ∨ e.failedFrom = some .failed ∨ e.failure.code = "")
      (invalidExecution (.text "failed execution metadata is invalid"))
    (e.failure.validate e.failedFrom).mapError invalidExecution
  else if e.status = .recoveryRequired then
    e.recovery.validate.mapError invalidExecution
  else
    .ok ()

end Execution

/-- An execution that `validate` accepts. -/
structure Execution.Valid (e : Execution) : Prop where
  request : e.request.WellFormed
  revision : e.revision ≠ 0
  createdAt : e.createdAt ≠ 0
  updatedAt : e.updatedAt ≠ 0
  ordered : e.createdAt ≤ e.updatedAt
  failed : e.status = .failed → e.failedFrom ≠ none ∧ e.failedFrom ≠ some .failed ∧ e.failure.code ≠ "" ∧
    e.failure.validate e.failedFrom = .ok ()
  recovering : e.status = .recoveryRequired → e.recovery.validate = .ok ()

theorem Execution.validate_ok {e : Execution} : e.validate = .ok () ↔ e.Valid := by
  simp only [Execution.validate, checks_ok, Request.validate_ok, isZero_iff, not_or, Int.not_lt]
  constructor
  · rintro ⟨request, ⟨revision, created, updated, ordered⟩, record⟩
    refine ⟨request, revision, created, updated, ordered, fun failed => ?_, fun recovering => ?_⟩
    · simp only [failed, if_true, checks_ok, not_or] at record
      exact ⟨record.1.1, record.1.2.1, record.1.2.2, record.2⟩
    · simpa [recovering] using record
  · rintro ⟨request, revision, created, updated, ordered, failed, recovering⟩
    refine ⟨request, ⟨revision, created, updated, ordered⟩, ?_⟩
    split
    next failing =>
      obtain ⟨source, notFailed, code, checked⟩ := failed failing
      simp only [checks_ok, not_or]
      exact ⟨⟨source, notFailed, code⟩, checked⟩
    next =>
      split
      next waiting => exact mapError_ok.mpr (recovering waiting)
      next => rfl

/-- `New(request)`. -/
def new (request : Request) : Except Error Execution := do
  request.validate
  let execution : Execution :=
    { request := request, status := .created, revision := 1, createdAt := request.createdAt,
      updatedAt := request.createdAt, failure := .zero, failedFrom := none, recovery := .zero }
  execution.validate
  pure execution

/-- `Restore`: the parameters are the fields themselves, with UTC instants. -/
def restore (p : Execution) : Except Error Execution := do
  p.validate
  pure p

def validTransition (current next : Status) : Bool :=
  match current with
  | .created => next == .authorized || next == .cancelled
  | .authorized => next == .queued || next == .cancelled
  | .queued => next == .executing
  | .executing => next == .submitted || next == .confirming
  | .submitted => next == .confirming
  | .confirming => next == .confirmed
  | .confirmed => next == .verified
  | .verified => next == .completed
  | _ => false

def recoveryTarget (status : Status) : Option Status :=
  match status with
  | .queued | .executing => some .executing
  | .submitted | .confirming => some .confirming
  | .confirmed => some .confirmed
  | .verified => some .verified
  | _ => none

variable {status : Status} {failure : Failure}

namespace Execution

def validateTransitionTime (time : Int) : Except Error Unit := do
  rejectIf (isZero time ∨ time < e.updatedAt)
    (invalidExecution (.text "execution transition time is invalid"))
  rejectIf (e.revision = maxRevision) (invalidExecution (.text "execution revision cannot advance"))

def advance (status : Status) (time : Int) : Except Error Execution := do
  let next := { e with status := status, updatedAt := time, revision := e.revision + 1 }
  next.validate
  pure next

def transition (next : Status) (time : Int) : Except Error Execution := do
  e.validate
  if next = e.status then
    pure e
  else
    rejectIf (next = .failed ∨ next = .recoveryRequired)
      (invalidExecution (.text "failure and recovery transitions require explicit metadata"))
    e.validateTransitionTime time
    rejectIf (validTransition e.status next = false)
      (invalidExecution (.text s!"execution transition {e.status.text} -> {next.text} is not allowed"))
    e.advance next time

/-- The statuses a failure may be recorded from. -/
def canFail : Status → Bool
  | .executing | .submitted | .confirming | .confirmed => true
  | _ => false

def fail (failure : Failure) (time : Int) : Except Error Execution := do
  e.validate
  if e.status = .failed then
    if e.failure = failure then
      pure e
    else
      .error (.app .executionConflict "Execution failure record conflicts with existing state." false true true)
  else
    e.validateTransitionTime time
    rejectIf (canFail e.status = false)
      (invalidExecution (.text s!"execution cannot fail from {e.status.text}"))
    (failure.validate (some e.status)).mapError invalidExecution
    advance { e with failure := failure, failedFrom := some e.status } .failed time

def requireRecovery (reasonCode : String) (time : Int) : Except Error Execution := do
  e.validate
  if e.status = .recoveryRequired then
    if e.recovery.reasonCode = reasonCode then
      pure e
    else
      .error (.app .executionConflict "Recovery record conflicts with existing state." false true true)
  else
    e.validateTransitionTime time
    let recovery : Recovery := ⟨reasonCode, some e.status, recoveryTarget e.status⟩
    recovery.validate.mapError invalidExecution
    advance { e with recovery := recovery } .recoveryRequired time

def recover (time : Int) : Except Error Execution := do
  e.validate
  rejectIf (e.status ≠ .failed)
    (invalidExecution (.text "only failed execution can use failure recovery"))
  rejectIf (e.failure.eligibility ≠ some .recoverable)
    (.app .executionFailed "Execution failure is terminal." false true true)
  e.validateTransitionTime time
  let recovery : Recovery := ⟨e.failure.code, e.failedFrom, e.failure.recoveryTarget⟩
  advance { e with recovery := recovery } .recoveryRequired time

def resume (time : Int) : Except Error Execution := do
  e.validate
  rejectIf (e.status ≠ .recoveryRequired) (invalidExecution (.text "execution is not awaiting recovery"))
  e.validateTransitionTime time
  match e.recovery.target with
  | some target => e.advance target time
  | none => .error (invalidExecution (.text "invalid execution status \"\""))

def terminal : Bool :=
  e.status == .completed || e.status == .cancelled ||
    (e.status == .failed && e.failure.eligibility == some .terminal)

/-- `Failure()` reports a failure exactly when it has a code. -/
def failure? : Option Failure := if e.failure.code = "" then none else some e.failure

/-! ### What an operation can do -/

/-- The next value of an effective operation: one revision later, on the same request. -/
structure Advanced (e : Execution) (status : Status) (time : Int) (next : Execution) : Prop where
  request : next.request = e.request
  createdAt : next.createdAt = e.createdAt
  status : next.status = status
  revision : next.revision = e.revision + 1
  updatedAt : next.updatedAt = time
  valid : next.validate = .ok ()

variable {e next : Execution} {time : Int}

theorem advance_ok :
    e.advance status time = .ok next ↔
      next = { e with status := status, updatedAt := time, revision := e.revision + 1 } ∧
        next.validate = .ok () := by
  simp only [advance, guard_ok, pure_ok]
  constructor
  · rintro ⟨valid, rfl⟩
    exact ⟨rfl, valid⟩
  · rintro ⟨rfl, valid⟩
    exact ⟨valid, rfl⟩

theorem validateTransitionTime_ok :
    e.validateTransitionTime time = .ok () ↔ time ≠ 0 ∧ e.updatedAt ≤ time ∧ e.revision ≠ maxRevision := by
  simp only [validateTransitionTime, checks_ok, isZero_iff, not_or, Int.not_lt, and_assoc, ne_eq]

/-- An ordinary transition stays where it is or moves along `validTransition`. -/
theorem transition_ok (moved : e.transition status time = .ok next) :
    e.validate = .ok () ∧
      ((status = e.status ∧ next = e) ∨
        (validTransition e.status status = true ∧ e.validateTransitionTime time = .ok () ∧
          e.advance status time = .ok next)) := by
  simp only [transition, guard_ok] at moved
  obtain ⟨valid, moved⟩ := moved
  refine ⟨valid, ?_⟩
  split at moved
  next same =>
    simp only [pure_ok] at moved
    exact .inl ⟨same, moved.symm⟩
  next =>
    simp only [checks_ok, Bool.not_eq_false] at moved
    exact .inr ⟨moved.2.2.1, moved.2.1, moved.2.2.2⟩

/-- A failure is recorded once; recording the same failure again changes nothing. -/
theorem fail_ok (moved : e.fail failure time = .ok next) :
    e.validate = .ok () ∧
      ((e.status = .failed ∧ e.failure = failure ∧ next = e) ∨
        (e.status ≠ .failed ∧ canFail e.status = true ∧ e.validateTransitionTime time = .ok () ∧
          advance { e with failure := failure, failedFrom := some e.status } .failed time = .ok next)) := by
  simp only [fail, guard_ok] at moved
  obtain ⟨valid, moved⟩ := moved
  refine ⟨valid, ?_⟩
  split at moved
  next failed =>
    split at moved
    next same =>
      simp only [pure_ok] at moved
      exact .inl ⟨failed, same, moved.symm⟩
    next => simp at moved
  next running =>
    simp only [checks_ok, Bool.not_eq_false] at moved
    exact .inr ⟨running, moved.2.1, moved.1, moved.2.2.2⟩

theorem requireRecovery_ok {reasonCode : String} (moved : e.requireRecovery reasonCode time = .ok next) :
    e.validate = .ok () ∧
      ((e.status = .recoveryRequired ∧ next = e) ∨
        (e.status ≠ .recoveryRequired ∧ e.validateTransitionTime time = .ok () ∧
          advance { e with recovery := ⟨reasonCode, some e.status, recoveryTarget e.status⟩ }
            .recoveryRequired time = .ok next)) := by
  simp only [requireRecovery, guard_ok] at moved
  obtain ⟨valid, moved⟩ := moved
  refine ⟨valid, ?_⟩
  split at moved
  next waiting =>
    split at moved
    next =>
      simp only [pure_ok] at moved
      exact .inl ⟨waiting, moved.symm⟩
    next => simp at moved
  next running =>
    simp only [guard_ok, mapError_ok] at moved
    exact .inr ⟨running, moved.1, moved.2.2⟩

theorem recover_ok (moved : e.recover time = .ok next) :
    e.validate = .ok () ∧ e.status = .failed ∧ e.failure.eligibility = some .recoverable ∧
      e.validateTransitionTime time = .ok () ∧
      advance { e with recovery := ⟨e.failure.code, e.failedFrom, e.failure.recoveryTarget⟩ }
        .recoveryRequired time = .ok next := by
  simpa only [recover, checks_ok, ne_eq, not_not] using moved

theorem resume_ok (moved : e.resume time = .ok next) :
    ∃ target, e.recovery.target = some target ∧ e.validate = .ok () ∧ e.status = .recoveryRequired ∧
      e.validateTransitionTime time = .ok () ∧ e.advance target time = .ok next := by
  simp only [resume, checks_ok, ne_eq, not_not] at moved
  obtain ⟨valid, waiting, timely, moved⟩ := moved
  split at moved
  next target found => exact ⟨target, found, valid, waiting, timely, moved⟩
  next => simp at moved

theorem transition_status (moved : e.transition status time = .ok next) : next.status = status := by
  obtain ⟨_, ⟨rfl, rfl⟩ | ⟨_, _, advanced⟩⟩ := transition_ok moved
  · rfl
  · rw [(advance_ok.mp advanced).1]

theorem requireRecovery_status {reasonCode : String} (moved : e.requireRecovery reasonCode time = .ok next) :
    next.status = .recoveryRequired := by
  obtain ⟨_, ⟨waiting, rfl⟩ | ⟨_, _, advanced⟩⟩ := requireRecovery_ok moved
  · exact waiting
  · rw [(advance_ok.mp advanced).1]

theorem recover_status (moved : e.recover time = .ok next) : next.status = .recoveryRequired := by
  obtain ⟨_, _, _, _, advanced⟩ := recover_ok moved
  rw [(advance_ok.mp advanced).1]

/-- A recovery never leads back to FAILED. -/
theorem resume_status (moved : e.resume time = .ok next) : next.status ≠ .failed := by
  obtain ⟨target, found, valid, waiting, _, advanced⟩ := resume_ok moved
  have checked := (Execution.validate_ok.mp valid).recovering waiting
  simp only [Recovery.validate, checks_ok, found, Bool.not_eq_false] at checked
  rw [(advance_ok.mp advanced).1]
  rintro rfl
  revert checked
  cases e.recovery.fromStatus with
  | none => simp [validRecoveryTarget]
  | some status => cases status <;> simp [validRecoveryTarget]

theorem fail_eq (valid : e.Valid) (running : canFail e.status = true)
    (timely : e.validateTransitionTime time = .ok ()) (recorded : failure.validate (some e.status) = .ok ()) :
    e.fail failure time = .ok { e with
      status := .failed, revision := e.revision + 1, updatedAt := time, failure := failure,
      failedFrom := some e.status } := by
  have other : e.status ≠ .failed := by
    rintro failed
    rw [failed] at running
    cases running
  obtain ⟨instant, later, _⟩ := validateTransitionTime_ok.mp timely
  have code : failure.code ≠ "" := by
    simp only [Failure.validate, guard_ok, validateReasonCode_ok] at recorded
    exact isReasonCode_ne_empty recorded.1
  have next : Execution.Valid { e with
      status := .failed, revision := e.revision + 1, updatedAt := time, failure := failure,
      failedFrom := some e.status } := by
    refine ⟨valid.request, Nat.succ_ne_zero _, valid.createdAt, instant, Int.le_trans valid.ordered later, ?_, by rintro ⟨⟩⟩
    exact fun _ => ⟨by rintro ⟨⟩, fun same => other (Option.some.inj same), code, recorded⟩
  simp only [fail, checks_ok, Execution.validate_ok.mpr valid, other, if_false, timely, running, recorded,
    advance_ok, Execution.validate_ok]
  exact ⟨trivial, trivial, by rintro ⟨⟩, trivial, trivial, next⟩

theorem fail_final (moved : e.fail failure time = .ok next) (ended : failedForGood next.status next.failure) : failure.eligibility = some .terminal := by
  obtain ⟨_, ⟨_, rfl, rfl⟩ | ⟨_, _, _, advanced⟩⟩ := fail_ok moved
  · exact ended.2
  · rw [(advance_ok.mp advanced).1] at ended
    exact ended.2

/-- Advancing a copy that only differs in its failure and recovery records. -/
theorem advanced_of_advance {copy : Execution} (moved : copy.advance status time = .ok next)
    (same : copy.request = e.request ∧ copy.createdAt = e.createdAt ∧ copy.revision = e.revision) :
    e.Advanced status time next := by
  obtain ⟨request, createdAt, revision⟩ := same
  obtain ⟨rfl, valid⟩ := advance_ok.mp moved
  exact ⟨request, createdAt, rfl, by simp [revision], rfl, valid⟩

end Execution

end WizPay.Exec
