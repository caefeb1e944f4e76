import WizPay.Audit
import WizPay.Execution.Result
import WizPay.Lib.Table
import WizPay.Storage.Scope

/-!
# The execution tables and their row mappings

The tables `execution_requests`, `executions`, `execution_revisions`,
`execution_runtime_work`, `verification_evidence` and `audit_records`. A `bigint` version
column is a `Nat`, a `timestamptz` column an instant cut to microseconds, and a text
column that holds a status or the empty string an `Option Status`.
-/
namespace WizPay.Storage

open Checks GoTime Exec

/-- Primary key of every table of one execution: tenant and execution ID. -/
abbrev Key := String × String

structure RequestRow where
  tenantID : String
  userID : String
  request : Request
deriving DecidableEq

structure ExecutionRow where
  tenantID : String
  executionID : String
  requestID : String
  status : Status
  revision : Nat
  createdAt : Int
  updatedAt : Int
  failure : Failure
  failedFrom : Option Status
  recovery : Recovery
deriving DecidableEq

def ExecutionRow.key (row : ExecutionRow) : Key := (row.tenantID, row.executionID)

structure RevisionRow where
  tenantID : String
  executionID : String
  revision : Nat
  status : Status
  updatedAt : Int
deriving DecidableEq

def RevisionRow.key (row : RevisionRow) : Key := (row.tenantID, row.executionID)

structure WorkRow where
  tenantID : String
  executionID : String
  nextRunAt : Int
  leaseOwner : String
  leaseExpiresAt : Option Int
  fencingToken : Nat
  submissionStarted : Bool
deriving DecidableEq

def WorkRow.key (row : WorkRow) : Key := (row.tenantID, row.executionID)

structure EvidenceRow where
  tenantID : String
  evidenceID : Nat
  executionID : String
  executionVersion : Nat
  status : Status
  adapterReference : String
  errorCode : String
  observedAt : Int
deriving DecidableEq

def EvidenceRow.key (row : EvidenceRow) : Key := (row.tenantID, row.executionID)

structure AuditRow where
  tenantID : String
  record : Audit.Record
deriving DecidableEq

/-- The tenant and the resource that the record is about. -/
def AuditRow.key (row : AuditRow) : Key := (row.tenantID, row.record.resourceID)

/-- The tables of the execution runtime and the database clock. -/
structure ExecutionTables where
  requests : List RequestRow
  executions : List ExecutionRow
  revisions : List RevisionRow
  work : List WorkRow
  evidence : List EvidenceRow
  audit : List AuditRow
  clock : Int
deriving DecidableEq

/-! ### Versions and instants -/

/-- `dbVersion`: zero and values above the `bigint` range are refused. -/
def dbVersion (value : Nat) : Except Error Nat := do
  rejectIf (value = 0 ∨ value > 2 ^ 63 - 1) (.text "version is outside PostgreSQL bigint range")
  pure value

/-- `domainVersion`. -/
def domainVersion (value : Nat) : Except Error Nat := do
  rejectIf (value = 0) (.text "persisted version must be positive")
  pure value

theorem dbVersion_ok {value stored : Nat} :
    dbVersion value = .ok stored ↔ value ≠ 0 ∧ value ≤ 2 ^ 63 - 1 ∧ value = stored := by
  simp only [dbVersion, checks_ok, pure_ok, not_or, Nat.not_lt, gt_iff_lt, and_assoc, ne_eq]

theorem domainVersion_ok {value read : Nat} :
    domainVersion value = .ok read ↔ value ≠ 0 ∧ value = read := by
  simp only [domainVersion, checks_ok, pure_ok, ne_eq]

/-- `dbTime`: a zero time is NULL. -/
def dbTime (value : Int) : Option Int := if value = 0 then none else some (truncMicros value)

def dbOptionalString (value : String) : Option String := if value = "" then none else some value

def dbOptionalVersion (value : Nat) : Option Nat := if value = 0 then none else some value

@[simp] theorem dbTime_zero : dbTime 0 = none := rfl

theorem dbTime_set {value : Int} (set : value ≠ 0) : dbTime value = some (truncMicros value) := by
  simp [dbTime, set]

/-! ### Rows written for an execution -/

def requestCreateParams (scope : Scope) (value : Request) : Except Error RequestRow := do
  let requestVersion ← dbVersion value.version
  let operationVersion ← dbVersion value.operationVersion
  let intentVersion ← dbVersion value.intentVersion
  let approvalVersion ← dbVersion value.approvalVersion
  let policyVersion ← dbVersion value.policyVersion
  pure
    { tenantID := scope.tenantID, userID := scope.actorID,
      request := { value with
        version := requestVersion, operationVersion := operationVersion, intentVersion := intentVersion,
        approvalVersion := approvalVersion, policyVersion := policyVersion,
        policyEvaluatedAt := truncMicros value.policyEvaluatedAt,
        createdAt := truncMicros value.createdAt } }

def executionCreateParams (scope : Scope) (value : Execution) : Except Error ExecutionRow := do
  let revision ← dbVersion value.revision
  pure
    { tenantID := scope.tenantID, executionID := value.executionID, requestID := value.request.requestID,
      status := value.status, revision := revision, createdAt := truncMicros value.createdAt,
      updatedAt := truncMicros value.updatedAt, failure := value.failure, failedFrom := value.failedFrom,
      recovery := value.recovery }

/-- The columns that `UpdateExecution` sets, with the revision it expects to replace. -/
structure ExecutionUpdate where
  tenantID : String
  actorID : String
  executionID : String
  status : Status
  revision : Nat
  updatedAt : Int
  failure : Failure
  failedFrom : Option Status
  recovery : Recovery
  expected : Nat
deriving DecidableEq

def executionUpdateParams (scope : Scope) (value : Execution) (expected : Nat) :
    Except Error ExecutionUpdate := do
  let revision ← dbVersion value.revision
  let expectedRevision ← dbVersion expected
  pure
    { tenantID := scope.tenantID, actorID := scope.actorID, executionID := value.executionID,
      status := value.status, revision := revision, updatedAt := truncMicros value.updatedAt,
      failure := value.failure, failedFrom := value.failedFrom, recovery := value.recovery,
      expected := expectedRevision }

/-- The columns that `AppendVerificationEvidence` inserts, with the acting user. -/
structure EvidenceParams where
  tenantID : String
  actorID : String
  executionID : String
  executionVersion : Nat
  status : Status
  adapterReference : String
  errorCode : String
  observedAt : Int
deriving DecidableEq

def auditParams (scope : Scope) (record : Audit.Record) : Except Error AuditRow := do
  scope.validate
  record.validate
  let actorMatches :=
    if record.actorType = "system" ∧ record.sourceComponent = "execution_runtime" then
      record.actorID ≠ "" ∧ record.event.userID = scope.actorID
    else record.actorID = scope.actorID
  rejectIf (¬ actorMatches ∨ record.requestID ≠ scope.requestID ∨ record.traceID ≠ scope.traceID)
    (.app .authorizationRequired "Audit attribution does not match the trusted request scope." false true true)
  pure ⟨scope.tenantID, record⟩

/-! ### Rows read back -/

/-- The joined row of an execution and its request. -/
structure ExecutionRecord where
  execution : ExecutionRow
  request : RequestRow
deriving DecidableEq

def restoreExecutionRecord (row : ExecutionRecord) : Except Error Execution := do
  let stored := row.request.request
  let requestVersion ← domainVersion stored.version
  let operationVersion ← domainVersion stored.operationVersion
  let intentVersion ← domainVersion stored.intentVersion
  let approvalVersion ← domainVersion stored.approvalVersion
  let policyVersion ← domainVersion stored.policyVersion
  let revision ← domainVersion row.execution.revision
  -- the execution ID and the request ID are read from the execution row
  let request ← restoreRequest { stored with
    requestID := row.execution.requestID, executionID := row.execution.executionID,
    version := requestVersion, operationVersion := operationVersion, intentVersion := intentVersion,
    approvalVersion := approvalVersion, policyVersion := policyVersion }
  restore
    { request := request, status := row.execution.status, revision := revision,
      createdAt := row.execution.createdAt, updatedAt := row.execution.updatedAt,
      failure := row.execution.failure, failedFrom := row.execution.failedFrom,
      recovery := row.execution.recovery }

/-- The value that a joined row stands for, whether or not it is valid. -/
def ExecutionRecord.value (row : ExecutionRecord) : Execution :=
  { request := { row.request.request with
      requestID := row.execution.requestID, executionID := row.execution.executionID },
    status := row.execution.status, revision := row.execution.revision,
    createdAt := row.execution.createdAt, updatedAt := row.execution.updatedAt,
    failure := row.execution.failure, failedFrom := row.execution.failedFrom,
    recovery := row.execution.recovery }

/-- A row is read back exactly when its value is valid, and then as that value. -/
theorem restoreExecutionRecord_ok {row : ExecutionRecord} {value : Execution} :
    restoreExecutionRecord row = .ok value ↔ row.value.Valid ∧ row.value = value := by
  simp only [restoreExecutionRecord, restore, bind_ok, restoreRequest_ok, domainVersion_ok, pure_ok]
  constructor
  · rintro ⟨_, ⟨_, rfl⟩, _, ⟨_, rfl⟩, _, ⟨_, rfl⟩, _, ⟨_, rfl⟩, _, ⟨_, rfl⟩, _, ⟨_, rfl⟩, _, ⟨_, rfl⟩, _, valid, rfl⟩
    exact ⟨Execution.validate_ok.mp valid, rfl⟩
  · rintro ⟨valid, rfl⟩
    have request := valid.request
    have version : row.request.request.version ≠ 0 := by
      rw [show row.request.request.version = requestVersion from request.version]
      decide
    exact ⟨_, ⟨version, rfl⟩, _, ⟨request.operationVersion, rfl⟩, _, ⟨request.intentVersion, rfl⟩,
      _, ⟨request.approvalVersion, rfl⟩, _, ⟨request.policyVersion, rfl⟩, _, ⟨valid.revision, rfl⟩,
      _, ⟨request, rfl⟩, (), Execution.validate_ok.mpr valid, rfl⟩

/-- One row of `FindVerificationEvidence` read back as a result. -/
def evidenceFromRow (row : EvidenceRow) : Except Error Result := do
  let version ← domainVersion row.executionVersion
  newResult
    { executionID := row.executionID, executionVersion := version, status := row.status,
      adapterReference := row.adapterReference, errorCode := row.errorCode, observedAt := row.observedAt }

/-- `equalExecutionRequest`: every field of the two requests is compared. -/
def equalExecutionRequest (a b : Request) : Bool := a == b

end WizPay.Storage
