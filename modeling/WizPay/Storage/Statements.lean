import Mathlib
import WizPay.Storage.ExecutionTables

/-!
# The statements of the execution runtime

The SQL statements of `db/queries/foundation.sql` over the execution tables, with the
constraints and triggers that can refuse them. A transaction is a chain of statements in
`Except`, so it is all or nothing.
-/
namespace WizPay.Storage

open Checks Exec

/-- What a runtime statement presents to be accepted as the lease holder. -/
structure Fence where
  tenantID : String
  executionID : String
  leaseOwner : String
  fencingToken : Nat
deriving DecidableEq

def Fence.key (f : Fence) : Key := (f.tenantID, f.executionID)

namespace ExecutionTables

def workOf (t : ExecutionTables) (k : Key) : Option WorkRow := Table.lookup WorkRow.key k t.work

def executionOf (t : ExecutionTables) (k : Key) : Option ExecutionRow :=
  Table.lookup ExecutionRow.key k t.executions

/-- The request row of an execution row, when `actorID` owns it. -/
def requestOf (t : ExecutionTables) (e : ExecutionRow) (actorID : String) : Option RequestRow :=
  t.requests.find? fun r =>
    r.tenantID == e.tenantID && r.request.requestID == e.requestID && r.userID == actorID

end ExecutionTables

/-! ### Leases -/

variable (w : WorkRow)

/-- `lease_owner=$3 AND fencing_token=$4`. -/
def WorkRow.heldBy (f : Fence) : Bool :=
  w.leaseOwner == f.leaseOwner && w.fencingToken == f.fencingToken

/-- `lease_expires_at > clock_timestamp()`; a null never compares. -/
def WorkRow.unexpired (clock : Int) : Bool :=
  match w.leaseExpiresAt with
  | some expiry => decide (clock < expiry)
  | none => false

/-- `next_run_at <= clock_timestamp() AND (lease_expires_at IS NULL OR lease_expires_at <= clock_timestamp())`. -/
def WorkRow.available (clock : Int) : Bool :=
  decide (w.nextRunAt ≤ clock) &&
    match w.leaseExpiresAt with
    | some expiry => decide (expiry ≤ clock)
    | none => true

/-- The statuses that leave nothing to do are never claimed. -/
def ExecutionRow.claimable (e : ExecutionRow) : Bool :=
  e.status != .completed && e.status != .cancelled &&
    !(e.status == .failed && e.failure.eligibility == some .terminal)

def WorkRow.lease (leaseOwner : String) (micros clock : Int) : WorkRow :=
  { w with
    leaseOwner := leaseOwner, leaseExpiresAt := some (clock + micros * GoTime.microsecond),
    fencingToken := w.fencingToken + 1 }

def WorkRow.markStarted : WorkRow := { w with submissionStarted := true }

def WorkRow.released (nextRunAt : Int) : WorkRow :=
  { w with leaseOwner := "", leaseExpiresAt := none, nextRunAt := GoTime.truncMicros nextRunAt }

/-- The fence is the current one and its lease has not run out. -/
def holds (f : Fence) (t : ExecutionTables) : Bool :=
  match t.workOf f.key with
  | some w => w.heldBy f && w.unexpired t.clock
  | none => false

/-- The claim of one execution, without the owner check. -/
def claimAt (k : Key) (leaseOwner : String) (micros : Int) (t : ExecutionTables) :
    Except Error (WorkRow × ExecutionTables) :=
  match t.workOf k, t.executionOf k with
  | some w, some e =>
    if w.available t.clock && e.claimable then
      .ok (w.lease leaseOwner micros t.clock,
        { t with work := Table.modify WorkRow.key k (·.lease leaseOwner micros t.clock) t.work })
    else .error .noRows
  | _, _ => .error .noRows

def claimExecutionWork (k : Key) (actorID leaseOwner : String) (micros : Int) (t : ExecutionTables) :
    Except Error (WorkRow × ExecutionTables) := do
  rejectIf ((t.requests.any fun r =>
      r.tenantID == k.1 && r.request.executionID == k.2 && r.userID == actorID) = false) .noRows
  claimAt k leaseOwner micros t

variable {k : Key} {f : Fence} {t after : ExecutionTables}

@[simp] theorem WorkRow.lease_key (leaseOwner : String) (micros clock : Int) :
    (w.lease leaseOwner micros clock).key = w.key := rfl

@[simp] theorem WorkRow.markStarted_key : w.markStarted.key = w.key := rfl

theorem holds_iff : holds f t = true ↔
    ∃ w, t.workOf f.key = some w ∧ w.heldBy f = true ∧ w.unexpired t.clock = true := by
  unfold holds
  split
  next w found => simp [found]
  next missing => simp [missing]

theorem claimAt_ok {leaseOwner : String} {micros : Int} {row : WorkRow}
    (claimed : claimAt k leaseOwner micros t = .ok (row, after)) :
    ∃ w, t.workOf k = some w ∧ w.available t.clock = true ∧ row = w.lease leaseOwner micros t.clock ∧
      after = { t with work := Table.modify WorkRow.key k (·.lease leaseOwner micros t.clock) t.work } := by
  unfold claimAt at claimed
  split at claimed
  next w e found _ =>
    split at claimed
    next free =>
      simp only [Bool.and_eq_true] at free
      cases claimed
      exact ⟨w, found, free.1, rfl, rfl⟩
    next => cases claimed
  next => cases claimed

theorem claimExecutionWork_ok {actorID leaseOwner : String} {micros : Int} {row : WorkRow}
    (claimed : claimExecutionWork k actorID leaseOwner micros t = .ok (row, after)) :
    claimAt k leaseOwner micros t = .ok (row, after) := by
  simp only [claimExecutionWork, guard_ok] at claimed
  exact claimed.2

/-- The number of rows updated; the update itself changes nothing. -/
def validateExecutionClaim (f : Fence) (t : ExecutionTables) : Nat := if holds f t then 1 else 0

def markSubmissionStarted (f : Fence) (t : ExecutionTables) : Except Error (WorkRow × ExecutionTables) :=
  match t.workOf f.key with
  | some w =>
    if w.heldBy f && w.unexpired t.clock && !w.submissionStarted then
      .ok (w.markStarted, { t with work := Table.modify WorkRow.key f.key WorkRow.markStarted t.work })
    else .error .noRows
  | none => .error .noRows

theorem markSubmissionStarted_ok {row : WorkRow} (marked : markSubmissionStarted f t = .ok (row, after)) :
    ∃ w, t.workOf f.key = some w ∧ w.heldBy f = true ∧ w.unexpired t.clock = true ∧
      w.submissionStarted = false ∧ row = w.markStarted ∧
      after = { t with work := Table.modify WorkRow.key f.key WorkRow.markStarted t.work } := by
  unfold markSubmissionStarted at marked
  split at marked
  next w found =>
    split at marked
    next free =>
      simp only [Bool.and_eq_true, Bool.not_eq_true'] at free
      cases marked
      exact ⟨w, found, free.1.1, free.1.2, free.2, rfl, rfl⟩
    next => cases marked
  next => cases marked

/-- The release asks for the owner and the token, not for an unexpired lease. -/
def releaseExecutionWork (f : Fence) (nextRunAt : Int) (t : ExecutionTables) : Nat × ExecutionTables :=
  match t.workOf f.key with
  | some w =>
    if w.heldBy f then
      (1, { t with work := Table.modify WorkRow.key f.key (·.released nextRunAt) t.work })
    else (0, t)
  | none => (0, t)

theorem releaseExecutionWork_cases {nextRunAt : Int} {rows : Nat}
    (released : releaseExecutionWork f nextRunAt t = (rows, after)) :
    after = t ∨ after = { t with work := Table.modify WorkRow.key f.key (·.released nextRunAt) t.work } := by
  unfold releaseExecutionWork at released
  split at released
  next w _ =>
    split at released
    all_goals cases released
    · exact .inr rfl
    · exact .inl rfl
  next =>
    cases released
    exact .inl rfl

/-! ### Reads -/

def findExecutionOwner (k : Key) (t : ExecutionTables) : Except Error (String × String) :=
  match t.requests.find? fun r => r.tenantID == k.1 && r.request.executionID == k.2 with
  | some r => .ok (r.tenantID, r.userID)
  | none => .error .noRows

def findExecutionByID (k : Key) (actorID : String) (t : ExecutionTables) : Except Error ExecutionRecord :=
  match t.executionOf k with
  | some e =>
    match t.requestOf e actorID with
    | some r => .ok ⟨e, r⟩
    | none => .error .noRows
  | none => .error .noRows

theorem findExecutionByID_ok {actorID : String} {record : ExecutionRecord} :
    findExecutionByID k actorID t = .ok record ↔
      t.executionOf k = some record.execution ∧ t.requestOf record.execution actorID = some record.request := by
  unfold findExecutionByID
  constructor
  · intro found
    split at found
    next e located =>
      split at found
      next r owned =>
        cases found
        exact ⟨located, owned⟩
      next => cases found
    next => cases found
  · rintro ⟨located, owned⟩
    simp only [located, owned]

def findExecutionByOperationKey (tenantID operationKey : String) (operationVersion : Nat) (actorID : String)
    (t : ExecutionTables) : Except Error ExecutionRecord :=
  match t.requests.find? fun r => r.tenantID == tenantID && r.request.operationKey == operationKey &&
      r.request.operationVersion == operationVersion && r.userID == actorID with
  | some r =>
    match t.executions.find? fun e => e.tenantID == r.tenantID && e.requestID == r.request.requestID with
    | some e => .ok ⟨e, r⟩
    | none => .error .noRows
  | none => .error .noRows

/-- `ORDER BY observed_at, evidence_id`. -/
def EvidenceRow.before (a b : EvidenceRow) : Prop :=
  a.observedAt < b.observedAt ∨ a.observedAt = b.observedAt ∧ a.evidenceID ≤ b.evidenceID

instance : DecidableRel EvidenceRow.before := fun a b =>
  inferInstanceAs (Decidable (a.observedAt < b.observedAt ∨ a.observedAt = b.observedAt ∧ a.evidenceID ≤ b.evidenceID))

def findVerificationEvidence (k : Key) (actorID : String) (t : ExecutionTables) : List EvidenceRow :=
  match findExecutionByID k actorID t with
  | .ok _ =>
    (t.evidence.filter fun v => v.tenantID == k.1 && v.executionID == k.2).insertionSort EvidenceRow.before
  | .error _ => []

/-! ### Writes -/

/-- The trigger `preserve_execution_revision`. -/
def preserveRevision (e : ExecutionRow) (t : ExecutionTables) : Except Error ExecutionTables := do
  rejectIf ((t.revisions.any fun v =>
      v.tenantID == e.tenantID && v.executionID == e.executionID && v.revision == e.revision) = true)
    (.database .uniqueViolation)
  pure { t with revisions := t.revisions ++ [⟨e.tenantID, e.executionID, e.revision, e.status, e.updatedAt⟩] }

def ExecutionUpdate.key (u : ExecutionUpdate) : Key := (u.tenantID, u.executionID)

def ExecutionUpdate.apply (u : ExecutionUpdate) (e : ExecutionRow) : ExecutionRow :=
  { e with
    status := u.status, revision := u.revision, updatedAt := u.updatedAt, failure := u.failure,
    failedFrom := u.failedFrom, recovery := u.recovery }

@[simp] theorem ExecutionUpdate.apply_key (u : ExecutionUpdate) (e : ExecutionRow) : (u.apply e).key = e.key := rfl

def updateExecution (u : ExecutionUpdate) (t : ExecutionTables) : Except Error ExecutionTables :=
  match t.executionOf u.key with
  | some e =>
    if e.revision = u.expected ∧ u.revision = u.expected + 1 ∧ (t.requestOf e u.actorID).isSome then
      preserveRevision (u.apply e)
        { t with executions := Table.modify ExecutionRow.key u.key u.apply t.executions }
    else .error .noRows
  | none => .error .noRows

theorem updateExecution_ok {u : ExecutionUpdate} (updated : updateExecution u t = .ok after) :
    ∃ e, t.executionOf u.key = some e ∧ e.revision = u.expected ∧ u.revision = u.expected + 1 ∧
      (t.requestOf e u.actorID).isSome = true ∧
      after = { t with
        executions := Table.modify ExecutionRow.key u.key u.apply t.executions
        revisions := t.revisions ++
          [⟨e.tenantID, e.executionID, u.revision, u.status, u.updatedAt⟩] } := by
  unfold updateExecution at updated
  split at updated
  next e found =>
    split at updated
    next current =>
      simp only [preserveRevision, guard_ok, pure_ok] at updated
      exact ⟨e, found, current.1, current.2.1, current.2.2, updated.2.symm⟩
    next => cases updated
  next => cases updated

def EvidenceParams.key (p : EvidenceParams) : Key := (p.tenantID, p.executionID)

/-- The row an insert writes: the identity column counts, the column type cuts the instant. -/
def EvidenceParams.row (p : EvidenceParams) (evidenceID : Nat) : EvidenceRow :=
  { tenantID := p.tenantID, evidenceID := evidenceID, executionID := p.executionID,
    executionVersion := p.executionVersion, status := p.status, adapterReference := p.adapterReference,
    errorCode := p.errorCode, observedAt := GoTime.truncMicros p.observedAt }

/-- `UNIQUE (tenant_id, execution_id, execution_version, status, observed_at)`. -/
def EvidenceRow.collides (a b : EvidenceRow) : Bool :=
  a.tenantID == b.tenantID && a.executionID == b.executionID &&
    a.executionVersion == b.executionVersion && a.status == b.status && a.observedAt == b.observedAt

/-- Whether the `SELECT` of the insert finds the execution at the named revision and status. -/
def EvidenceParams.selects (p : EvidenceParams) (t : ExecutionTables) : Bool :=
  match t.executionOf p.key with
  | some e => e.revision == p.executionVersion && e.status == p.status && (t.requestOf e p.actorID).isSome
  | none => false

/-- The number of inserted rows; the statement presents no fence. The foreign key to
`execution_revisions` is met by what the trigger preserved for the selected row. -/
def appendVerificationEvidence (p : EvidenceParams) (t : ExecutionTables) :
    Except Error (Nat × ExecutionTables) :=
  if p.selects t then do
    let row := p.row (t.evidence.length + 1)
    rejectIf (t.evidence.any row.collides = true) (.database .uniqueViolation)
    rejectIf ((Result.isSuccess p.status || Result.isFailure p.status) = false) (.database .constraintViolation)
    pure (1, { t with evidence := t.evidence ++ [row] })
  else .ok (0, t)

theorem appendVerificationEvidence_ok {p : EvidenceParams} {inserted : Nat}
    (appended : appendVerificationEvidence p t = .ok (inserted, after)) :
    (inserted = 0 ∧ p.selects t = false ∧ after = t) ∨
      (inserted = 1 ∧ p.selects t = true ∧ t.evidence.any (p.row (t.evidence.length + 1)).collides = false ∧
        after = { t with evidence := t.evidence ++ [p.row (t.evidence.length + 1)] }) := by
  unfold appendVerificationEvidence at appended
  split at appended
  next selected =>
    simp only [checks_ok, pure_ok, Bool.not_eq_true, Prod.mk.injEq] at appended
    obtain ⟨fresh, _, rfl, rfl⟩ := appended
    exact .inr ⟨rfl, selected, fresh, rfl⟩
  next missed =>
    cases appended
    exact .inl ⟨rfl, by simpa using missed, rfl⟩

theorem executions_appendVerificationEvidence {p : EvidenceParams} {inserted : Nat}
    (appended : appendVerificationEvidence p t = .ok (inserted, after)) : after.executions = t.executions := by
  rcases appendVerificationEvidence_ok appended with ⟨_, _, rfl⟩ | ⟨_, _, _, rfl⟩
  · rfl
  · rfl

def appendAudit (row : AuditRow) (t : ExecutionTables) : Except Error ExecutionTables := do
  rejectIf ((t.audit.any fun a =>
      a.tenantID == row.tenantID && a.record.event.eventID == row.record.event.eventID) = true)
    (.database .uniqueViolation)
  pure { t with audit := t.audit ++ [row] }

theorem appendAudit_ok {record : AuditRow} (appended : appendAudit record t = .ok after) :
    after = { t with audit := t.audit ++ [record] } := by
  simp only [appendAudit, guard_ok, pure_ok] at appended
  exact appended.2.symm

/-! ### Transactions of the runtime repository -/

/-- The transaction of `UpdateClaimedExecution`. -/
def updateClaimed (f : Fence) (u : ExecutionUpdate) (record : AuditRow) (t : ExecutionTables) :
    Except Error ExecutionTables := do
  rejectIf (validateExecutionClaim f t ≠ 1) .noRows
  let t ← updateExecution u t
  appendAudit record t

/-- The transaction of `PersistClaimedObservation` and `PersistClaimedEvidence`. -/
def persistClaimed (f : Fence) (u : ExecutionUpdate) (p : EvidenceParams) (record : AuditRow)
    (t : ExecutionTables) : Except Error ExecutionTables := do
  rejectIf (validateExecutionClaim f t ≠ 1) .noRows
  let t ← updateExecution u t
  let (inserted, t) ← appendVerificationEvidence p t
  rejectIf (inserted ≠ 1) .noRows
  appendAudit record t

theorem validateExecutionClaim_eq_one : validateExecutionClaim f t = 1 ↔ holds f t = true := by
  unfold validateExecutionClaim
  split
  next held => simp [held]
  next lost => simp [lost]

/-- A fenced update takes effect only under the current, unexpired claim. -/
theorem updateClaimed_ok {u : ExecutionUpdate} {record : AuditRow}
    (updated : updateClaimed f u record t = .ok after) :
    holds f t = true ∧ ∃ mid, updateExecution u t = .ok mid ∧ appendAudit record mid = .ok after := by
  simpa only [updateClaimed, bind_ok, rejectIf_ok, ne_eq, not_not, exists_const,
    validateExecutionClaim_eq_one] using updated

/-- A fenced observation takes effect only under the current, unexpired claim. -/
theorem persistClaimed_ok {u : ExecutionUpdate} {p : EvidenceParams} {record : AuditRow}
    (persisted : persistClaimed f u p record t = .ok after) :
    holds f t = true ∧ ∃ mid last, updateExecution u t = .ok mid ∧
      appendVerificationEvidence p mid = .ok (1, last) ∧ appendAudit record last = .ok after := by
  simp only [persistClaimed, bind_ok, rejectIf_ok, ne_eq, not_not, exists_const,
    validateExecutionClaim_eq_one, Prod.exists] at persisted
  obtain ⟨held, mid, updated, inserted, last, appended, rfl, recorded⟩ := persisted
  exact ⟨held, mid, last, updated, appended, recorded⟩

/-! ### Creation -/

/-- `CreateExecutionRequest` with the unique keys of the table. -/
def insertRequest (r : RequestRow) (t : ExecutionTables) : Except Error ExecutionTables := do
  rejectIf ((t.requests.any fun other => other.tenantID == r.tenantID &&
      (other.request.requestID == r.request.requestID ||
        (other.request.requestKey == r.request.requestKey && other.request.version == r.request.version) ||
        other.request.executionID == r.request.executionID ||
        (other.request.operationKey == r.request.operationKey &&
          other.request.operationVersion == r.request.operationVersion))) = true)
    (.database .uniqueViolation)
  pure { t with requests := t.requests ++ [r] }

/-- The work row of a new execution. -/
def ExecutionRow.newWork (e : ExecutionRow) : WorkRow :=
  ⟨e.tenantID, e.executionID, e.updatedAt, "", none, 0, false⟩

/-- The trigger `create_execution_runtime_work`; it does nothing when there is a work row already. -/
def createRuntimeWork (e : ExecutionRow) (t : ExecutionTables) : ExecutionTables :=
  match t.workOf e.key with
  | some _ => t
  | none => { t with work := t.work ++ [e.newWork] }

/-- `CreateExecution` with the unique keys and the foreign key of the table, and its two triggers. -/
def insertExecution (e : ExecutionRow) (t : ExecutionTables) : Except Error ExecutionTables := do
  rejectIf ((t.executions.any fun other => other.tenantID == e.tenantID &&
      (other.executionID == e.executionID || other.requestID == e.requestID)) = true)
    (.database .uniqueViolation)
  rejectIf ((t.requests.any fun r => r.tenantID == e.tenantID && r.request.requestID == e.requestID &&
      r.request.executionID == e.executionID) = false)
    (.database .constraintViolation)
  let t ← preserveRevision e { t with executions := t.executions ++ [e] }
  pure (createRuntimeWork e t)

theorem insertRequest_ok {r : RequestRow} (inserted : insertRequest r t = .ok after) :
    after = { t with requests := t.requests ++ [r] } := by
  simp only [insertRequest, guard_ok, pure_ok] at inserted
  exact inserted.2.symm

theorem insertExecution_ok {e : ExecutionRow} (inserted : insertExecution e t = .ok after) :
    after = createRuntimeWork e { t with
      executions := t.executions ++ [e]
      revisions := t.revisions ++ [⟨e.tenantID, e.executionID, e.revision, e.status, e.updatedAt⟩] } := by
  simp only [insertExecution, preserveRevision, bind_ok, pure_ok] at inserted
  obtain ⟨_, _, _, _, _, ⟨_, _, rfl⟩, rfl⟩ := inserted
  rfl

/-! ### One stored execution

A small instance for the runs that witnesses and counterexamples follow. -/

def sampleScope : Scope := ⟨"tenant_1", "user_1", "req_1", ""⟩

def sampleKey : Key := (sampleScope.tenantID, sampleRequest.executionID)

/-- The stored execution in a given status. -/
def sampleRecord (status : Status) : ExecutionRecord :=
  { execution :=
      { tenantID := "tenant_1", executionID := sampleRequest.executionID, requestID := sampleRequest.requestID,
        status := status, revision := 5, createdAt := sampleRequest.createdAt,
        updatedAt := sampleRequest.createdAt, failure := .zero, failedFrom := none, recovery := .zero },
    request := ⟨"tenant_1", "user_1", sampleRequest⟩ }

def sampleWork : WorkRow := ⟨"tenant_1", sampleRequest.executionID, sampleRequest.createdAt, "", none, 0, false⟩

/-- One execution that nobody has claimed, with the evidence collected so far. -/
def sampleTables (status : Status) (evidence : List EvidenceRow) : ExecutionTables :=
  { requests := [(sampleRecord status).request], executions := [(sampleRecord status).execution],
    revisions := [], work := [sampleWork], evidence := evidence, audit := [],
    clock := sampleRequest.createdAt }

theorem sampleRecord_valid {status : Status} (running : status ≠ .failed) (steady : status ≠ .recoveryRequired) :
    (sampleRecord status).value.Valid where
  request := sampleRequest_wellFormed
  revision := Nat.succ_ne_zero 4
  createdAt := sampleRequest_wellFormed.createdAt
  updatedAt := sampleRequest_wellFormed.createdAt
  ordered := Int.le_refl _
  failed := fun failed => absurd failed running
  recovering := fun recovering => absurd recovering steady

end WizPay.Storage
