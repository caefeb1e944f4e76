import WizPay.Lib.Threads
import WizPay.Storage.Statements

/-!
# The runtime repository

`internal/storage/postgres/runtime_repository.go` and `evidence_repository.go` as
programs over the requests a worker makes.
-/
namespace WizPay.Storage

open Checks GoTime Exec Threads

/-- `runtime.VerificationOutcome`. -/
inductive VerificationOutcome
  | pending | verified | failed
deriving DecidableEq

/-- `runtime.VerificationResult`. -/
structure VerificationResult where
  outcome : VerificationOutcome
  reference : String
  reasonCode : String
  observedAt : Int
deriving DecidableEq

/-- A request that a worker makes to the world outside its own process. -/
inductive Call
  | claimExecutionWork (key : Key) (actorID leaseOwner : String) (micros : Int)
  | claimNextExecutionWork (leaseOwner : String) (micros : Int)
  | findExecutionOwner (key : Key)
  | findExecutionByID (key : Key) (actorID : String)
  | validateExecutionClaim (fence : Fence)
  | markSubmissionStarted (fence : Fence)
  | updateClaimed (fence : Fence) (update : ExecutionUpdate) (record : AuditRow)
  | persistClaimed (fence : Fence) (update : ExecutionUpdate) (evidence : EvidenceParams) (record : AuditRow)
  | releaseExecutionWork (fence : Fence) (nextRunAt : Int)
  | appendVerificationEvidence (evidence : EvidenceParams)
  | findVerificationEvidence (key : Key) (actorID : String)
  | now
  | execute (scope : Scope) (request : Request)
  | getStatus (scope : Scope) (executionID : String)
  | verify (scope : Scope) (execution : Execution) (reference : String)

@[reducible] def Reply : Call → Type
  | .claimExecutionWork .. => Except Error WorkRow
  | .claimNextExecutionWork .. => Except Error WorkRow
  | .findExecutionOwner _ => Except Error (String × String)
  | .findExecutionByID .. => Except Error ExecutionRecord
  | .validateExecutionClaim _ => Except Error Nat
  | .markSubmissionStarted _ => Except Error WorkRow
  | .updateClaimed .. => Except Error Unit
  | .persistClaimed .. => Except Error Unit
  | .releaseExecutionWork .. => Except Error Nat
  | .appendVerificationEvidence _ => Except Error Nat
  | .findVerificationEvidence .. => Except Error (List EvidenceRow)
  | .now => Int
  | .execute .. => Except Error Result
  | .getStatus .. => Except Error Result
  | .verify .. => Except Error VerificationResult

abbrev Proc := Program Reply

/-- `storage.ExecutionClaim`. -/
structure ExecutionClaim where
  scope : Scope
  execution : Execution
  leaseOwner : String
  fencingToken : Nat
  leaseExpiresAt : Option Int
  submissionStarted : Bool
deriving DecidableEq

variable (claim : ExecutionClaim)

def ExecutionClaim.key : Key := (claim.scope.tenantID, claim.execution.executionID)

def ExecutionClaim.fence (token : Nat) : Fence :=
  ⟨claim.scope.tenantID, claim.execution.executionID, claim.leaseOwner, token⟩

/-! ### Claiming -/

def validateClaimInput (workerID : String) (now leaseDuration : Int) : Except Error Unit :=
  rejectIf (workerID = "" ∨ isZero now ∨ leaseDuration ≤ 0 ∨ leaseDuration > hour)
    (.app .validationError "Execution work claim is invalid." false true true)

def executionClaim (scope : Scope) (row : WorkRow) (execution : Execution) : Except Error ExecutionClaim := do
  let token ← domainVersion row.fencingToken
  pure ⟨scope, execution, row.leaseOwner, token, row.leaseExpiresAt, row.submissionStarted⟩

def claimChanged : Error :=
  .app .executionConflict "Execution work claim changed concurrently." true false false

def findExecutionByIDProc (scope : Scope) (executionID : String) : Proc (Except Error Execution) :=
  match scope.validate with
  | .error e => pure (.error e)
  | .ok () => do
    match ← Program.perform (Call.findExecutionByID (scope.tenantID, executionID) scope.actorID) with
    | .ok record => pure (restoreExecutionRecord record)
    | .error e =>
      if e.isNoRows then pure (.error (notFound .executionNotFound "Execution is not accessible."))
      else pure (.error (mapDatabaseError e))

/-- The part that both claims share: read the execution, then check that the lease is still held. -/
def confirmClaim (scope : Scope) (executionID workerID : String) (row : WorkRow) :
    Proc (Except Error (Option ExecutionClaim)) := do
  match ← findExecutionByIDProc scope executionID with
  | .error e => pure (.error e)
  | .ok value =>
    match ← Program.perform (Call.validateExecutionClaim
        ⟨scope.tenantID, executionID, workerID, row.fencingToken⟩) with
    | .error e => pure (.error (mapDatabaseError e))
    | .ok rows =>
      if rows ≠ 1 then pure (.error claimChanged)
      else pure ((executionClaim scope row value).map some)

def claimExecutionWorkProc (scope : Scope) (executionID workerID : String) (now leaseDuration : Int) :
    Proc (Except Error (Option ExecutionClaim)) :=
  let checks : Except Error Unit := do
    scope.validate
    rejectIf (executionID = "") (.app .validationError "Execution identity is required." false true true)
    validateClaimInput workerID now leaseDuration
  match checks with
  | .error e => pure (.error e)
  | .ok () => do
    match ← Program.perform (Call.claimExecutionWork (scope.tenantID, executionID) scope.actorID workerID
        (leaseDuration / microsecond)) with
    | .error e => pure (if e.isNoRows then .ok none else .error (mapDatabaseError e))
    | .ok row => confirmClaim scope executionID workerID row

def claimNextExecutionWorkProc (workerID : String) (now leaseDuration : Int) :
    Proc (Except Error (Option ExecutionClaim)) :=
  match validateClaimInput workerID now leaseDuration with
  | .error e => pure (.error e)
  | .ok () => do
    match ← Program.perform (Call.claimNextExecutionWork workerID (leaseDuration / microsecond)) with
    | .error e => pure (if e.isNoRows then .ok none else .error (mapDatabaseError e))
    | .ok row =>
      match ← Program.perform (Call.findExecutionOwner row.key) with
      | .error e => pure (.error (mapDatabaseError e))
      | .ok (tenantID, userID) =>
        match newScope tenantID userID s!"runtime:{workerID}:{row.fencingToken}" "" with
        | .error e => pure (.error e)
        | .ok scope => confirmClaim scope row.executionID workerID row

/-! ### The submission mark -/

/-- `none` is the answer "not started". -/
def markSubmissionStartedProc : Proc (Except Error (Option ExecutionClaim)) :=
  match dbVersion claim.fencingToken with
  | .error e => pure (.error e)
  | .ok token => do
    match ← Program.perform (Call.markSubmissionStarted (claim.fence token)) with
    | .error e => pure (if e.isNoRows then .ok none else .error (mapDatabaseError e))
    | .ok row => pure ((executionClaim claim.scope row claim.execution).map some)

/-! ### Fenced writes -/

def validateClaimParams (now : Int) : Except Error Nat := do
  claim.scope.validate
  rejectIf (claim.leaseOwner = "" ∨ isZero now)
    (.app .validationError "Execution work claim is invalid." false true true)
  dbVersion claim.fencingToken

def validateRuntimeAudit (next : Execution) (record : Audit.Record) :
    Except Error Unit :=
  rejectIf (claim.execution.executionID ≠ next.executionID ∨ record.resourceType ≠ "execution" ∨
      record.resourceID ≠ next.executionID ∨ record.previousState ≠ claim.execution.status.text ∨
      record.newState ≠ next.status.text ∨ record.event.executionID ≠ next.executionID ∨
      record.event.executionRevision ≠ next.revision ∨ record.event.executionStatus ≠ next.status.text)
    (.app .executionInvalid "Execution audit does not match the claimed transition." false true true)

def updateClaimedParams (value : Execution) (expected : Nat)
    (record : Audit.Record) (now : Int) : Except Error (Fence × ExecutionUpdate × AuditRow) := do
  let token ← validateClaimParams claim now
  value.validate
  validateRuntimeAudit claim value record
  let update ← executionUpdateParams claim.scope value expected
  let auditValue ← auditParams claim.scope record
  pure (claim.fence token, update, auditValue)

/-- The answer of a fenced transaction: no row means that the claim or the revision has moved on. -/
def fencedAnswer (value : Execution) (conflict : String) : Except Error Unit → Except Error Execution
  | .ok () => .ok value
  | .error e =>
    if (mapDatabaseError e).isNoRows then .error (.app .executionConflict conflict true false false)
    else .error (mapDatabaseError e)

def updateClaimedExecution (value : Execution) (expected : Nat)
    (record : Audit.Record) (now : Int) : Proc (Except Error Execution) :=
  match updateClaimedParams claim value expected record now with
  | .error e => pure (.error e)
  | .ok (fence, update, auditValue) => do
    let answer ← Program.perform (Call.updateClaimed fence update auditValue)
    pure (fencedAnswer value "Execution work claim or revision changed concurrently." answer)

/-- What is passed to the insert; `PersistClaimedObservation` sets no error code. -/
def evidenceParams (scope : Scope) (evidence : Result) (version : Nat) (errorCode : String) : EvidenceParams :=
  { tenantID := scope.tenantID, actorID := scope.actorID, executionID := evidence.executionID,
    executionVersion := version, status := evidence.status, adapterReference := evidence.adapterReference,
    errorCode := errorCode, observedAt := evidence.observedAt }

def persistClaimedObservationParams (evidence : Result) (value : Execution)
    (expected : Nat) (record : Audit.Record) (now : Int) :
    Except Error (Fence × ExecutionUpdate × EvidenceParams × AuditRow) := do
  let token ← validateClaimParams claim now
  evidence.validate
  validateRuntimeAudit claim value record
  rejectIf (evidence.executionID ≠ value.executionID ∨ evidence.executionVersion ≠ value.revision ∨
      value.revision ≠ expected + 1)
    (.app .executionInvalid "Execution observation does not match the execution revision." false true true)
  let version ← dbVersion evidence.executionVersion
  let update ← executionUpdateParams claim.scope value expected
  let auditValue ← auditParams claim.scope record
  -- the error code of the observation is not among the parameters
  pure (claim.fence token, update, evidenceParams claim.scope evidence version "", auditValue)

def persistClaimedObservation (evidence : Result) (value : Execution)
    (expected : Nat) (record : Audit.Record) (now : Int) : Proc (Except Error Execution) :=
  match persistClaimedObservationParams claim evidence value expected record now with
  | .error e => pure (.error e)
  | .ok (fence, update, params, auditValue) => do
    let answer ← Program.perform (Call.persistClaimed fence update params auditValue)
    pure (fencedAnswer value "Execution work claim, revision, or observation changed concurrently." answer)

def persistClaimedEvidenceParams (evidence : Result) (value : Execution)
    (expected : Nat) (record : Audit.Record) (now : Int) :
    Except Error (Fence × ExecutionUpdate × EvidenceParams × AuditRow) := do
  let token ← validateClaimParams claim now
  evidence.validate
  validateRuntimeAudit claim value record
  rejectIf (value.status ≠ .verified ∨ evidence.status ≠ .verified ∨
      evidence.executionID ≠ value.executionID ∨ value.revision ≠ expected + 1 ∨
      evidence.executionVersion ≠ value.revision)
    (.app .executionInvalid "Verification evidence does not match the verified execution." false true true)
  let version ← dbVersion evidence.executionVersion
  let update ← executionUpdateParams claim.scope value expected
  let auditValue ← auditParams claim.scope record
  pure (claim.fence token, update, evidenceParams claim.scope evidence version evidence.errorCode, auditValue)

def persistClaimedEvidence (evidence : Result) (value : Execution)
    (expected : Nat) (record : Audit.Record) (now : Int) : Proc (Except Error Execution) :=
  match persistClaimedEvidenceParams claim evidence value expected record now with
  | .error e => pure (.error e)
  | .ok (fence, update, params, auditValue) => do
    let answer ← Program.perform (Call.persistClaimed fence update params auditValue)
    pure (fencedAnswer value "Execution work claim, revision, or evidence changed concurrently." answer)

def releaseExecutionWorkProc (nextRunAt : Int) : Proc (Except Error Unit) :=
  let checks : Except Error Nat := do
    claim.scope.validate
    rejectIf (isZero nextRunAt) (.app .validationError "Next execution run time is required." false true true)
    dbVersion claim.fencingToken
  match checks with
  | .error e => pure (.error e)
  | .ok token => do
    match ← Program.perform (Call.releaseExecutionWork (claim.fence token) nextRunAt) with
    | .error e => pure (.error (mapDatabaseError e))
    | .ok rows => pure (if rows ≠ 1 then .error claimChanged else .ok ())

/-! ### Evidence -/

def appendVerificationEvidenceParams (scope : Scope) (value : Result) : Except Error EvidenceParams := do
  scope.validate
  value.validate
  let version ← dbVersion value.executionVersion
  pure (evidenceParams scope value version value.errorCode)

def appendVerificationEvidenceProc (scope : Scope) (value : Result) : Proc (Except Error Unit) :=
  match appendVerificationEvidenceParams scope value with
  | .error e => pure (.error e)
  | .ok params => do
    match ← Program.perform (Call.appendVerificationEvidence params) with
    | .error e => pure (.error (mapDatabaseError e))
    | .ok inserted =>
      pure (if inserted ≠ 1 then
        .error (.app .executionConflict
          "Verification evidence does not match the current execution revision." false true true)
      else .ok ())

/-- One bad row makes the whole read fail. -/
def evidenceFromRows : List EvidenceRow → Except Error (List Result)
  | [] => .ok []
  | row :: rest => do
    let value ← evidenceFromRow row
    let values ← evidenceFromRows rest
    pure (value :: values)

def findVerificationEvidenceProc (scope : Scope) (executionID : String) : Proc (Except Error (List Result)) :=
  match scope.validate with
  | .error e => pure (.error e)
  | .ok () => do
    match ← Program.perform (Call.findVerificationEvidence (scope.tenantID, executionID) scope.actorID) with
    | .error e => pure (.error (mapDatabaseError e))
    | .ok rows => pure (evidenceFromRows rows)

end WizPay.Storage
