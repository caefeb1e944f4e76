import WizPay.Lib.Sequential
import WizPay.Storage.ApplicationTables

/-!
# The repositories of the application services

`intent_repository.go`, `wallet_repository.go`, `approval_repository.go`,
`policy_repository.go` and the transaction of `atomic_repository.go`. Statements and
transactions are atomic steps.
-/
namespace WizPay.Storage

open Checks Threads Threads.Routine Intents Exec

inductive Statement
  | findWalletBindingByID (tenantID bindingID actorID : String)
  | insertIntent (row : IntentRow)
  | findIntentByID (tenantID intentID actorID : String)
  | findIntentByClientRequestID (tenantID clientRequestID actorID : String)
  | updateIntent (u : IntentUpdate)
  | insertApproval (row : ApprovalRow)
  | findApprovalByID (tenantID approvalID actorID : String)
  | findApprovalByIntent (tenantID intentID : String) (intentVersion : Nat) (digest actorID : String)
  | updateApproval (u : ApprovalUpdate)
  | findPolicyByID (tenantID policyID : String) (policyVersion : Nat) (actorID : String)
  | insertEvaluation (row : EvaluationRow)
  | findEvaluation (tenantID key actorID : String)
  | consumeAndCreate (u : ApprovalUpdate) (request : RequestRow) (execution : ExecutionRow) (record : AuditRow)
  | findExecutionByOperationKey (tenantID operationKey : String) (operationVersion : Nat) (actorID : String)
  | appendAudit (row : AuditRow)

namespace Statement

/-- What a statement returns. -/
def Row : Statement → Type
  | .findWalletBindingByID .. => BindingRow
  | .insertIntent _ | .findIntentByID .. | .findIntentByClientRequestID .. | .updateIntent _ => IntentRow
  | .insertApproval _ | .findApprovalByID .. | .findApprovalByIntent .. | .updateApproval _ => ApprovalRow
  | .findPolicyByID .. => PolicyRow
  | .insertEvaluation _ => Unit
  | .findEvaluation .. => EvaluationRow
  | .consumeAndCreate .. => ApprovalRow
  | .findExecutionByOperationKey .. => ExecutionRecord
  | .appendAudit _ => Unit

/-- A read returns the tables as they were. -/
def read {α : Type} (query : ApplicationTables → Except Error α) (t : ApplicationTables) :
    Except Error (α × ApplicationTables) := (query t).map (·, t)

def run : (s : Statement) → ApplicationTables → Except Error (s.Row × ApplicationTables)
  | .findWalletBindingByID tenantID bindingID actorID => read (Storage.findWalletBindingByID tenantID bindingID actorID)
  | .insertIntent row => Storage.insertIntent row
  | .findIntentByID tenantID intentID actorID => read (Storage.findIntentByID tenantID intentID actorID)
  | .findIntentByClientRequestID tenantID clientRequestID actorID =>
    read (Storage.findIntentByClientRequestID tenantID clientRequestID actorID)
  | .updateIntent u => Storage.updateIntent u
  | .insertApproval row => Storage.insertApproval row
  | .findApprovalByID tenantID approvalID actorID => read (Storage.findApprovalByID tenantID approvalID actorID)
  | .findApprovalByIntent tenantID intentID intentVersion digest actorID =>
    read (Storage.findApprovalByIntent tenantID intentID intentVersion digest actorID)
  | .updateApproval u => Storage.updateApproval u
  | .findPolicyByID tenantID policyID policyVersion actorID =>
    read (Storage.findPolicyByID tenantID policyID policyVersion actorID)
  | .insertEvaluation row => Storage.insertEvaluation row
  | .findEvaluation tenantID key actorID => read (Storage.findEvaluation tenantID key actorID)
  | .consumeAndCreate u request execution record => Storage.consumeAndCreate u request execution record
  | .findExecutionByOperationKey tenantID operationKey operationVersion actorID =>
    read fun t => Storage.findExecutionByOperationKey tenantID operationKey operationVersion actorID t.execution
  | .appendAudit row => onExecution (Storage.appendAudit row)

end Statement

/-- What a service asks for: a statement, or the time. -/
inductive ServiceCall
  | db (statement : Statement)
  | now

def ServiceReply : ServiceCall → Type
  | .db statement => Except Error statement.Row
  | .now => Int

/-- The tables of a service that runs alone, and the readings of its clock. -/
structure World where
  tables : ApplicationTables
  clock : Nat → Int
  reads : Nat

/-- A statement that fails changes nothing, and every reading of the clock is a new one. -/
def machine : Machine World ServiceReply
  | .db statement, w =>
    match statement.run w.tables with
    | .ok (row, tables) => (.ok row, { w with tables := tables })
    | .error e => (.error e, w)
  | .now, w => (w.clock w.reads, { w with reads := w.reads + 1 })

/-- The code of a repository method or of a service. -/
abbrev Service := Routine ServiceReply Error

def now : Service Int := Routine.call ServiceCall.now

def query (statement : Statement) : Service (Except Error statement.Row) := Routine.call (ServiceCall.db statement)

/-- A read that turns "no rows" into the error that the caller sees. -/
def fetch (statement : Statement) (missing : Error) : Service statement.Row := do
  let answer ← query statement
  check (answer.mapError fun e => if e.isNoRows then missing else mapDatabaseError e)

namespace Repository

variable (scope : Scope)

def findBindingByID (id : String) : Service Wallet.Binding := do
  check scope.validate
  let row ← fetch (.findWalletBindingByID scope.tenantID id scope.actorID)
    (notFound .walletNotBound "Wallet binding is not accessible.")
  check (walletFromRow row)

/-! ### Intents -/

def findIntentByID (id : String) : Service Intent := do
  check scope.validate
  let row ← fetch (.findIntentByID scope.tenantID id scope.actorID)
    (notFound .intentNotFound "Intent is not accessible.")
  check (intentFromRow row)

def findIntentByClientRequestID (id : String) : Service Intent := do
  check scope.validate
  let row ← fetch (.findIntentByClientRequestID scope.tenantID id scope.actorID)
    (notFound .intentNotFound "Intent is not accessible.")
  check (intentFromRow row)

/-- `errors.As(mapped, &appErr)` with the code of a conflict. -/
def isConflict (mapped : Error) : Bool := mapped.appCode = some .executionConflict

/-- `CreateIntent`: the intent, and whether this call stored it. `equalIntent` compares every field. -/
def createIntent (value : Intent) : Service (Intent × Bool) := do
  check scope.validate
  check value.validate
  check (rejectIf (value.params.ownership.userID ≠ scope.actorID)
    (.app .authorizationRequired "Intent is not accessible." false true true))
  let row ← check (intentCreateParams scope.tenantID value)
  match ← query (.insertIntent row) with
  | .ok stored => do
    let restored ← check (intentFromRow stored)
    pure (restored, true)
  | .error e => do
    check (rejectIf (isConflict (mapDatabaseError e) = false) (mapDatabaseError e))
    -- the unique keys belong to the tenant, but only the user's own row is looked for
    match ← attempt (findIntentByClientRequestID scope value.params.clientRequestID) with
    | .error _ => throw (mapDatabaseError e)
    | .ok existing => do
      check (rejectIf (existing ≠ value)
        (.app .intentMutated "Intent idempotency key conflicts with different material." false true true))
      pure (existing, false)

def updateIntent (value : Intent) (expectedRevision : Nat) : Service Intent := do
  check scope.validate
  check value.validate
  check (rejectIf (value.params.ownership.userID ≠ scope.actorID)
    (.app .authorizationRequired "Intent is not accessible." false true true))
  let revision ← check (dbVersion value.lifecycleRevision)
  let expected ← check (dbVersion expectedRevision)
  let row ← fetch
    (.updateIntent ⟨scope.tenantID, value.params.intentID, scope.actorID, value.status, revision, expected⟩)
    (.app .executionConflict "Intent changed concurrently." false true true)
  check (intentFromRow row)

/-! ### Approvals -/

def findApprovalByID (id : String) : Service Approvals.Approval := do
  check scope.validate
  let row ← fetch (.findApprovalByID scope.tenantID id scope.actorID)
    (notFound .approvalNotFound "Approval is not accessible.")
  check (approvalFromRow row)

def findApprovalByIntent (intentID : String) (intentVersion : Nat) (digest : String) :
    Service Approvals.Approval := do
  check scope.validate
  let version ← check (dbVersion intentVersion)
  let row ← fetch (.findApprovalByIntent scope.tenantID intentID version digest scope.actorID)
    (notFound .approvalNotFound "Approval is not accessible.")
  check (approvalFromRow row)

/-- `CreateApproval`; `equalApproval` compares every field. -/
def createApproval (value : Approvals.Approval) : Service (Approvals.Approval × Bool) := do
  check scope.validate
  check value.validate
  check (rejectIf (value.userID ≠ scope.actorID)
    (.app .authorizationRequired "Approval is not accessible." false true true))
  let row ← check (approvalCreateParams scope value)
  match ← query (.insertApproval row) with
  | .ok stored => do
    let restored ← check (approvalFromRow stored)
    pure (restored, true)
  | .error e => do
    check (rejectIf (isConflict (mapDatabaseError e) = false) (mapDatabaseError e))
    match ← attempt (findApprovalByIntent scope value.intentID value.intentVersion value.intentDigest) with
    | .error _ => throw (mapDatabaseError e)
    | .ok existing => do
      check (rejectIf (existing ≠ value)
        (.app .executionConflict "Approval conflicts with the existing intent approval." false true true))
      pure (existing, false)

def updateApproval (value : Approvals.Approval) (expectedRevision : Nat) :
    Service Approvals.Approval := do
  check scope.validate
  check value.validate
  check (rejectIf (value.userID ≠ scope.actorID)
    (.app .authorizationRequired "Approval is not accessible." false true true))
  let update ← check (approvalUpdateParams scope value expectedRevision)
  let row ← fetch (.updateApproval update)
    (.app .executionConflict "Approval changed concurrently." false true true)
  check (approvalFromRow row)

/-! ### Policies -/

def findPolicyByID (id : String) (version : Nat) : Service Policies.Policy := do
  check scope.validate
  let stored ← check (dbVersion version)
  let row ← fetch (.findPolicyByID scope.tenantID id stored scope.actorID)
    (notFound .policyNotFound "Policy is not accessible.")
  check (policyFromRow row)

def findPolicyEvaluation (key : String) : Service Policies.Result := do
  check scope.validate
  let row ← fetch (.findEvaluation scope.tenantID key scope.actorID)
    (notFound .policyNotFound "Policy evaluation is not accessible.")
  pure row.result

/-- `CreatePolicyEvaluation`: a new evaluation is returned as it is, a replayed one as it was stored. -/
def createPolicyEvaluation (result : Policies.Result) : Service Policies.Result := do
  check scope.validate
  check (rejectIf (result.policyID = "" ∨ result.policyVersion = 0 ∨ result.intentID = "" ∨ result.intentVersion = 0 ∨
      result.intentDigest = "" ∨ result.evaluatedAt = 0)
    (.app .policyInvalid "Policy evaluation is invalid." false true true))
  match ← query (.insertEvaluation (evaluationRow scope result)) with
  | .ok _ => pure result
  | .error e => do
    check (rejectIf (e ≠ .database .uniqueViolation) (mapDatabaseError e))
    match ← attempt (findPolicyEvaluation scope (policyEvaluationKey result)) with
    | .ok existing =>
      if existing = result then pure existing
      else throw (.app .executionConflict "Policy evaluation conflicts with existing evidence." false true true)
    | .error _ => throw (.app .executionConflict "Policy evaluation conflicts with existing evidence." false true true)

/-! ### Executions -/

def findExecutionByOperationKey (operationKey : String) (operationVersion : Nat) : Service Execution := do
  check scope.validate
  let version ← check (dbVersion operationVersion)
  let row ← fetch (.findExecutionByOperationKey scope.tenantID operationKey version scope.actorID)
    (notFound .executionNotFound "Execution is not accessible.")
  check (restoreExecutionRecord row)

/-- The rows that `ConsumeApprovalAndCreateExecution` writes. -/
def consumptionRows (consumed : Approvals.Approval) (expectedRevision : Nat) (value : Execution)
    (record : Audit.Record) : Except Error (ApprovalUpdate × RequestRow × ExecutionRow × AuditRow) := do
  scope.validate
  consumed.validate
  value.validate
  rejectIf (consumed.userID ≠ scope.actorID)
    (.app .authorizationRequired "Approval owner does not match the trusted request scope." false true true)
  rejectIf (expectedRevision = 2 ^ 64 - 1 ∨ consumed.lifecycleRevision ≠ expectedRevision + 1)
    (.app .executionConflict "Approval revision must advance exactly once." false true true)
  let update ← approvalUpdateParams scope consumed expectedRevision
  let request ← requestCreateParams scope value.request
  let execution ← executionCreateParams scope value
  let audit ← auditParams scope record
  pure (update, request, execution, audit)

/-- `ConsumeApprovalAndCreateExecution`: after any failure the execution of the operation is looked for. -/
def consumeApprovalAndCreateExecution (consumed : Approvals.Approval) (expectedRevision : Nat)
    (value : Execution) (record : Audit.Record) : Service Execution := do
  let (update, request, execution, audit) ← check (consumptionRows scope consumed expectedRevision value record)
  match ← query (.consumeAndCreate update request execution audit) with
  | .ok row => do
    let _ ← check (approvalFromRow row)
    pure value
  | .error e =>
    match ← attempt (findExecutionByOperationKey scope value.request.operationKey value.request.operationVersion) with
    | .error _ => throw (mapDatabaseError e)
    | .ok existing => do
      check (rejectIf (equalExecutionRequest existing.request value.request = false)
        (.app .executionConflict "Operation already has a different execution request." false true true))
      let _ ← findApprovalByID scope consumed.approvalID
      pure existing

def appendAudit (record : Audit.Record) : Service Unit := do
  let row ← check (auditParams scope record)
  let answer ← query (.appendAudit row)
  check (answer.mapError mapDatabaseError)

end Repository

end WizPay.Storage
