import WizPay.Storage.RuntimeRepository

/-!
# The execution runtime service

`internal/execution/runtime/service.go` and `worker.go`. The adapter and the verifier
are requests: any result or error may come back.
-/
namespace WizPay.Runtime

open Checks GoTime Exec Storage Threads

structure Config where
  workerID : String
  leaseDuration : Int
  retryInterval : Int
deriving DecidableEq

/-- The pair `(Execution, error)`; `none` is the zero `Execution` returned beside an error. -/
structure Returned where
  value : Option Execution
  err : Option Error

def Returned.ofExcept : Except Error Execution → Returned
  | .ok value => ⟨some value, none⟩
  | .error e => ⟨none, some e⟩

/-- `value.Terminal()` of the returned value. -/
def Returned.terminal (r : Returned) : Bool :=
  match r.value with
  | some value => value.terminal
  | none => false

def validateVerification (r : VerificationResult) : Except Error Unit := do
  rejectIf (isZero r.observedAt) (.text "verification observation time is required")
  match r.outcome with
  | .pending | .verified =>
    rejectIf (r.reference = "" ∨ r.reasonCode ≠ "")
      (.text "verification reference is required without a failure reason")
  | .failed => rejectIf (r.reasonCode = "") (.text "verified failure reason is required")

/-! ### Audit records of the runtime -/

def eventTypeOf : Status → Audit.EventType
  | .authorized => .executionAuthorized
  | .queued => .executionQueued
  | .executing => .executionExecuting
  | .submitted => .executionSubmitted
  | .confirming => .executionConfirming
  | .confirmed => .executionConfirmed
  | .verified => .executionVerified
  | .completed => .executionCompleted
  | .failed => .executionFailed
  | .recoveryRequired => .executionRecoveryRequired
  -- the map has no entry for these, and an empty type becomes "recovered"
  | .created | .cancelled => .executionRecovered

def eventID (next : Execution) : String :=
  "event_" ++ Sha256.hexText (Sha256.sum256
    (GoText.bytes s!"{next.executionID}:{next.revision}:{next.status.text}"))

def auditRecord (scope : Scope) (workerID : String) (previous next : Execution) (time : Int)
    (reason : String) : Audit.Record :=
  let request := next.request
  { event :=
      { eventID := eventID next
        type := if previous.status = .recoveryRequired then .executionRecovered else eventTypeOf next.status
        occurredAt := time, intentID := request.intentID, intentVersion := request.intentVersion,
        intentDigest := request.intentDigest, approvalID := request.approvalID,
        policyID := request.policyID, policyVersion := request.policyVersion, policyDecision := "ALLOW",
        policyEvaluationKey := request.policyEvaluationKey, executionID := next.executionID,
        executionRevision := next.revision, executionRequestID := request.requestID,
        executionRequestKey := request.requestKey, executionStatus := next.status.text,
        recoveryReasonCode := reason, userID := scope.actorID, operationKey := request.operationKey,
        operationVersion := request.operationVersion }
    actorType := "system", actorID := workerID, requestID := scope.requestID, traceID := scope.traceID,
    resourceType := "execution", resourceID := next.executionID, previousState := previous.status.text,
    newState := next.status.text, safeReasonCode := reason, sourceComponent := "execution_runtime" }

/-! ### Persisting a step -/

variable (claim : ExecutionClaim)

def persist (current next : Execution) (now : Int) (reason : String) :
    Proc Returned := do
  let answer ← updateClaimedExecution claim next current.revision
    (auditRecord claim.scope claim.leaseOwner current next now reason) now
  pure (.ofExcept answer)

/-- A lifecycle step that may refuse, and then persisting it. -/
def persistStep (current : Execution) (step : Except Error Execution) (now : Int)
    (reason : String) : Proc Returned :=
  match step with
  | .error e => pure ⟨some current, some e⟩
  | .ok next => persist claim current next now reason

def transition (current : Execution) (status : Status) (now : Int)
    (reason : String) : Proc Returned :=
  persistStep claim current (current.transition status now) now reason

def persistObservation (current : Execution) (result : Result) (status : Status)
    (now : Int) : Proc Returned :=
  match current.transition status now with
  | .error e => pure ⟨some current, some e⟩
  | .ok next =>
    match newResult
        { executionID := next.executionID, executionVersion := next.revision, status := next.status,
          adapterReference := result.adapterReference, errorCode := "", observedAt := result.observedAt } with
    | .error e => pure ⟨some current, some e⟩
    | .ok evidence => do
      let answer ← persistClaimedObservation claim evidence next current.revision
        (auditRecord claim.scope claim.leaseOwner current next now "") now
      pure (.ofExcept answer)

def persistFailureObservation (current next : Execution) (result : Result)
    (now : Int) (reason : String) : Proc Returned :=
  match newResult
      { executionID := next.executionID, executionVersion := next.revision, status := next.status,
        adapterReference := result.adapterReference, errorCode := result.errorCode,
        observedAt := result.observedAt } with
  | .error e => pure ⟨some current, some e⟩
  | .ok observation => do
    let answer ← persistClaimedObservation claim observation next current.revision
      (auditRecord claim.scope claim.leaseOwner current next now reason) now
    pure (.ofExcept answer)

/-- A failing step observed by the runtime itself: the step, its observation, and persisting both. -/
def persistObservedFailure (current : Execution) (step : Except Error Execution)
    (status : Status) (code : String) (observedAt now : Int) : Proc Returned :=
  match step with
  | .error e => pure ⟨some current, some e⟩
  | .ok next =>
    match newResult
        { executionID := next.executionID, executionVersion := next.revision, status := status,
          adapterReference := "", errorCode := code, observedAt := observedAt } with
    | .error e => pure ⟨some current, some e⟩
    | .ok observation => persistFailureObservation claim current next observation now code

/-- A failing step reported by the adapter's own result. -/
def persistReportedFailure (current : Execution) (step : Except Error Execution)
    (result : Result) (now : Int) : Proc Returned :=
  match step with
  | .error e => pure ⟨some current, some e⟩
  | .ok next => persistFailureObservation claim current next result now result.errorCode

/-! ### Submission -/

/-- The failure record of a classified adapter error. -/
def adapterFailureRecord (kind : AdapterFailureKind) (reasonCode : String) : Failure :=
  match kind with
  | .permanent => ⟨reasonCode, some .terminal, none⟩
  | .transient => ⟨reasonCode, some .recoverable, some .executing⟩

variable (value : Execution)

/-- What follows the adapter's answer, whichever of its two methods was called. -/
def applyAdapterAnswer (now : Int) :
    Except Error Result → Proc Returned
  | .error e =>
    match e.adapterFailure with
    | some (kind, reasonCode) =>
      persistObservedFailure claim value (value.fail (adapterFailureRecord kind reasonCode) now) .failed
        reasonCode now now
    | none =>
      persistObservedFailure claim value (value.requireRecovery "SUBMISSION_OUTCOME_AMBIGUOUS" now)
        .recoveryRequired "SUBMISSION_OUTCOME_AMBIGUOUS" now now
  | .ok result =>
    match result.ensureMatches value.request with
    | .error e => pure ⟨some value, some e⟩
    | .ok () =>
      match result.status with
      | .submitted => persistObservation claim value result .submitted now
      | .confirming | .confirmed => persistObservation claim value result .confirming now
      | .failed =>
        persistReportedFailure claim value (value.fail ⟨result.errorCode, some .terminal, none⟩ now) result now
      | .recoveryRequired =>
        persistReportedFailure claim value (value.requireRecovery result.errorCode now) result now
      | _ =>
        pure ⟨some value, some (.app .executionInvalid
          "Execution adapter returned an invalid runtime state." false true true)⟩

/-- The adapter's answers that end the execution for good. -/
def Condemning : Except Error Result → Prop
  | .error e => ∃ reasonCode, e.adapterFailure = some (.permanent, reasonCode)
  | .ok result => result.status = .failed

def submitOrReconcile (now : Int) : Proc Returned :=
  if claim.submissionStarted then do
    let answer ← Program.perform (Call.getStatus claim.scope value.executionID)
    applyAdapterAnswer claim value now answer
  else do
    match ← markSubmissionStartedProc claim with
    | .error e => pure ⟨some value, some e⟩
    | .ok none =>
      persistStep claim value (value.requireRecovery "SUBMISSION_ALREADY_STARTED" now) now
        "SUBMISSION_ALREADY_STARTED"
    | .ok (some marked) =>
      let answer ← Program.perform (Call.execute claim.scope value.request)
      applyAdapterAnswer marked value now answer

/-! ### Verification -/

/-- The last observation that carries a reference. -/
def lastReference : List Result → Option String
  | [] => none
  | result :: rest =>
    match lastReference rest with
    | some reference => some reference
    | none => if result.adapterReference = "" then none else some result.adapterReference

def latestReference (scope : Scope) (executionID : String) : Proc (Except Error String) := do
  match ← findVerificationEvidenceProc scope executionID with
  | .error e => pure (.error e)
  | .ok values =>
    match lastReference values with
    | some reference => pure (.ok reference)
    | none =>
      pure (.error (.app .executionRecoverable "Execution verification reference is unavailable." true false false))

def hasVerifiedEvidence (scope : Scope) (value : Execution) : Proc (Except Error Bool) := do
  match ← findVerificationEvidenceProc scope value.executionID with
  | .error e => pure (.error e)
  | .ok values =>
    pure (.ok (values.any fun evidence =>
      evidence.status == .verified && evidence.executionVersion == value.revision))

/-- PENDING: a reference that moved is appended as it is, through the unfenced repository. -/
def persistPending (reference : String)
    (result : VerificationResult) : Proc Returned :=
  if result.reference ≠ "" ∧ result.reference ≠ reference then
    match newResult
        { executionID := value.executionID, executionVersion := value.revision, status := value.status,
          adapterReference := result.reference, errorCode := "", observedAt := result.observedAt } with
    | .error e => pure ⟨some value, some e⟩
    | .ok observation => do
      match ← appendVerificationEvidenceProc claim.scope observation with
      | .error e => pure ⟨some value, some e⟩
      | .ok () => pure ⟨some value, none⟩
  else pure ⟨some value, none⟩

/-- VERIFIED, from the CONFIRMED value on. -/
def persistVerified (confirmed : Execution) (result : VerificationResult)
    (now : Int) : Proc Returned :=
  match confirmed.transition .verified now with
  | .error e => pure ⟨some confirmed, some e⟩
  | .ok verified =>
    match newResult
        { executionID := verified.executionID, executionVersion := verified.revision, status := .verified,
          adapterReference := result.reference, errorCode := "", observedAt := result.observedAt } with
    | .error e => pure ⟨some confirmed, some e⟩
    | .ok evidence => do
      let answer ← persistClaimedEvidence claim evidence verified confirmed.revision
        (auditRecord claim.scope claim.leaseOwner confirmed verified now "") now
      pure (.ofExcept answer)

/-- VERIFIED: a CONFIRMING execution is persisted as CONFIRMED first. -/
def confirmAndVerify (result : VerificationResult)
    (now : Int) : Proc Returned :=
  if value.status = .confirming then
    match value.transition .confirmed now with
    | .error e => pure ⟨some value, some e⟩
    | .ok confirmed => do
      let answer ← updateClaimedExecution claim confirmed value.revision
        (auditRecord claim.scope claim.leaseOwner value confirmed now "") now
      match answer with
      | .error e => pure ⟨some value, some e⟩
      | .ok confirmed => persistVerified { claim with execution := confirmed } confirmed result now
  else persistVerified claim value result now

/-- What follows the verifier's answer. -/
def applyVerification (reference : String) (now : Int) :
    Except Error VerificationResult → Proc Returned
  | .error e =>
    match e.verificationFailure with
    | some _ => pure ⟨some value, none⟩
    | none =>
      persistStep claim value (value.requireRecovery "VERIFICATION_OUTCOME_AMBIGUOUS" now) now
        "VERIFICATION_OUTCOME_AMBIGUOUS"
  | .ok result =>
    match validateVerification result with
    | .error e =>
      pure ⟨some value, some (.wrap .executionInvalid "Verification result is invalid." false true true e)⟩
    | .ok () =>
      match result.outcome with
      | .pending => persistPending claim value reference result
      | .failed =>
        persistObservedFailure claim value (value.fail ⟨result.reasonCode, some .terminal, none⟩ now) .failed
          result.reasonCode result.observedAt now
      | .verified => confirmAndVerify claim value result now

def verify (now : Int) : Proc Returned := do
  match ← latestReference claim.scope value.executionID with
  | .error e => pure ⟨some value, some e⟩
  | .ok reference =>
    let answer ← Program.perform (Call.verify claim.scope value reference)
    applyVerification claim value reference now answer

def complete (now : Int) : Proc Returned := do
  match ← hasVerifiedEvidence claim.scope value with
  | .error e => pure ⟨some value, some e⟩
  | .ok false =>
    pure ⟨some value, some (.app .executionRecoverable "Verified execution evidence is unavailable."
      true false false)⟩
  | .ok true => transition claim value .completed now ""

/-! ### One pass -/

def processClaim (now : Int) : Proc Returned :=
  let value := claim.execution
  match value.status with
  | .created => transition claim value .authorized now ""
  | .authorized => transition claim value .queued now ""
  | .queued => transition claim value .executing now ""
  | .executing => submitOrReconcile claim value now
  | .submitted => transition claim value .confirming now ""
  | .confirming => verify claim value now
  | .confirmed => verify claim value now
  | .verified => complete claim value now
  | .failed =>
    match value.failure? with
    | none => pure ⟨some value, none⟩
    | some failure =>
      if failure.eligibility = some .terminal then pure ⟨some value, none⟩
      else persistStep claim value (value.recover now) now ""
  | .recoveryRequired => persistStep claim value (value.resume now) now ""
  | .completed | .cancelled => pure ⟨some value, none⟩

/-- The rest of `Process` once the claim has been answered: without a claim the execution is only
read, with one there is one step and the deferred release. -/
def afterClaim (config : Config) (scope : Scope) (executionID : String) (now : Int) :
    Except Error (Option ExecutionClaim) → Proc Returned
  | .error e => pure ⟨none, some e⟩
  | .ok none => do
    let found ← findExecutionByIDProc scope executionID
    pure (.ofExcept found)
  | .ok (some claim) => do
    let returned ← processClaim claim now
    let nextRun := if returned.terminal then now + hour else now + config.retryInterval
    let released ← releaseExecutionWorkProc claim nextRun
    match returned.err, released with
    | some e, _ => pure ⟨returned.value, some e⟩
    | none, .error e => pure ⟨returned.value, some e⟩
    | none, .ok () => pure ⟨returned.value, none⟩

/-- `Process`: claim, one step, release. -/
def process (config : Config) (scope : Scope) (executionID : String) : Proc Returned := do
  let now : Int ← Program.perform Call.now
  let claimed ← claimExecutionWorkProc scope executionID config.workerID now config.leaseDuration
  afterClaim config scope executionID now claimed

/-- `Worker.Run` for any number of rounds; it ends early on the first error. -/
def run (config : Config) : Nat → Proc (Option Error)
  | 0 => pure none
  | rounds + 1 => do
    let claimedAt : Int ← Program.perform Call.now
    match ← claimNextExecutionWorkProc config.workerID claimedAt config.leaseDuration with
    | .error e => pure (some e)
    | .ok none => run config rounds
    | .ok (some claim) =>
      let now : Int ← Program.perform Call.now
      let returned ← processClaim claim now
      let releasedAt : Int ← Program.perform Call.now
      let released ← releaseExecutionWorkProc claim (releasedAt + config.retryInterval)
      match returned.err, released with
      | some e, _ => pure (some e)
      | none, .error e => pure (some e)
      | none, .ok () => run config rounds

end WizPay.Runtime
