import WizPay.Policies.Policy
import WizPay.Storage.ApprovalRows
import WizPay.Storage.IntentRows
import WizPay.Storage.Statements
import WizPay.Wallet.Binding

/-!
# The tables of the application services

The statements of `db/queries/foundation.sql` that the application services use. An
insert is refused in the order in which PostgreSQL looks: a trigger before the row, then
CHECK constraints, unique keys, and foreign keys at the end of the statement.
-/
namespace WizPay.Storage

open Checks Intents Exec

structure IdentityRow where
  tenantID : String
  userID : String
  provider : String
deriving DecidableEq

/-- A row of `wallet_bindings` or `wallet_binding_versions`; a NULL instant is a zero time. -/
structure BindingRow where
  tenantID : String
  binding : Wallet.Binding
deriving DecidableEq

structure PolicyRow where
  tenantID : String
  params : Policies.PolicyParams
  status : Policies.Status
  lifecycleVersion : Nat
deriving DecidableEq

/-- A row of `policy_evaluations` with its findings. -/
structure EvaluationRow where
  tenantID : String
  userID : String
  key : String
  result : Policies.Result
deriving DecidableEq

structure ApplicationTables where
  identities : List IdentityRow
  bindings : List BindingRow
  bindingVersions : List BindingRow
  intents : List IntentRow
  approvals : List ApprovalRow
  policies : List PolicyRow
  evaluations : List EvaluationRow
  execution : ExecutionTables
deriving DecidableEq

/-- `QueryRow` on a statement that returns at most one row. -/
def oneRow {α : Type} (found : Option α) : Except Error α :=
  match found with
  | some row => .ok row
  | none => .error .noRows

/-! ### Wallet bindings -/

def findWalletBindingByID (tenantID bindingID actorID : String) (t : ApplicationTables) : Except Error BindingRow :=
  oneRow (t.bindings.find? fun r =>
    r.tenantID = tenantID && r.binding.bindingID = bindingID && r.binding.userID = actorID)

/-- `walletFromRow`. -/
def walletFromRow (row : BindingRow) : Except Error Wallet.Binding := do
  let version ← domainVersion row.binding.version
  Wallet.newBinding { row.binding with version := version }

/-! ### Intents -/

/-- The columns of `intents_wallet_relationship_fk`. -/
def relates (v : BindingRow) (r : IntentRow) : Bool :=
  let o := r.params.ownership
  v.tenantID = r.tenantID && v.binding.bindingID = o.walletBindingID && v.binding.version = o.walletBindingVersion &&
    v.binding.userID = o.userID && v.binding.providerUserReference = o.providerUserReference &&
    v.binding.walletID = o.walletID && v.binding.address = o.walletAddress && v.binding.chainID = o.chainID &&
    v.binding.network = o.network

/-- The trigger `intents_wallet_provider_relationship` asks for the provider on top. -/
def providerRelates (v : BindingRow) (r : IntentRow) : Bool :=
  relates v r && v.binding.provider = r.params.ownership.effectiveWalletProvider

/-- The relationship of an intent with a wallet binding version, as trigger and foreign key enforce it. -/
def related (t : ApplicationTables) (r : IntentRow) : Bool :=
  t.bindingVersions.any (providerRelates · r) && t.bindingVersions.any (relates · r)

namespace IntentRow

def satisfiesChecks (r : IntentRow) : Bool :=
  decide (0 < r.params.version) && r.params.type.valid && decide (0 < r.params.ownership.walletBindingVersion) &&
    r.params.route.type.valid && decide (0 < r.params.route.version) && r.status.valid &&
    decide (0 < r.lifecycleVersion) &&
    (if r.status = .draft then r.intentDigest.isNone && r.operationKey.isNone && r.operationVersion.isNone
     else r.intentDigest.isSome && r.operationKey.isSome && r.operationVersion.any (0 < ·)) &&
    decide (r.params.createdAt < r.params.expiresAt) && decide (r.params.createdAt ≤ r.params.constraints.deadline) &&
    decide (r.params.constraints.deadline ≤ r.params.expiresAt)

/-- The unique keys of the table are keys of a tenant, not of a user; a NULL equals nothing. -/
def collides (a b : IntentRow) : Bool :=
  a.tenantID = b.tenantID &&
    (a.params.intentID = b.params.intentID || a.params.clientRequestID = b.params.clientRequestID ||
      (a.intentDigest.isSome && a.intentDigest = b.intentDigest) ||
      (a.operationKey.isSome && a.operationVersion.isSome && a.operationKey = b.operationKey &&
        a.operationVersion = b.operationVersion))

def identified (r : IntentRow) (tenantID intentID actorID : String) : Bool :=
  r.tenantID = tenantID && r.params.intentID = intentID && r.params.ownership.userID = actorID

end IntentRow

/-- `CreateIntent … RETURNING *`. -/
def insertIntent (row : IntentRow) (t : ApplicationTables) : Except Error (IntentRow × ApplicationTables) := do
  let row ← storeInstants row
  rejectIf (t.bindingVersions.any (providerRelates · row) = false) (.database .constraintViolation)
  rejectIf (row.satisfiesChecks = false) (.database .constraintViolation)
  rejectIf (t.intents.any (row.collides ·) = true) (.database .uniqueViolation)
  rejectIf ((t.identities.any fun i => i.tenantID = row.tenantID && i.userID = row.params.ownership.userID &&
      i.provider = row.params.ownership.identityProvider) = false ∨
      t.bindingVersions.any (relates · row) = false) (.database .constraintViolation)
  pure (row, { t with intents := t.intents ++ [row] })

def findIntentByID (tenantID intentID actorID : String) (t : ApplicationTables) : Except Error IntentRow :=
  oneRow (t.intents.find? (·.identified tenantID intentID actorID))

def findIntentByClientRequestID (tenantID clientRequestID actorID : String) (t : ApplicationTables) :
    Except Error IntentRow :=
  oneRow (t.intents.find? fun r =>
    r.tenantID = tenantID && r.params.clientRequestID = clientRequestID && r.params.ownership.userID = actorID)

structure IntentUpdate where
  tenantID : String
  intentID : String
  actorID : String
  status : Intents.Status
  lifecycleVersion : Nat
  expected : Nat
deriving DecidableEq

namespace IntentUpdate

def selects (u : IntentUpdate) (r : IntentRow) : Bool :=
  r.identified u.tenantID u.intentID u.actorID && r.status ≠ .draft && r.lifecycleVersion = u.expected &&
    u.lifecycleVersion = u.expected + 1

def apply (u : IntentUpdate) (r : IntentRow) : IntentRow :=
  { r with status := u.status, lifecycleVersion := u.lifecycleVersion }

end IntentUpdate

/-- `UpdateIntent … RETURNING *`; the triggers look at the relationship and at columns that it does not set. -/
def updateIntent (u : IntentUpdate) (t : ApplicationTables) : Except Error (IntentRow × ApplicationTables) := do
  let row ← oneRow (t.intents.find? u.selects)
  rejectIf (t.bindingVersions.any (providerRelates · row) = false) (.database .constraintViolation)
  rejectIf ((u.apply row).satisfiesChecks = false) (.database .constraintViolation)
  pure (u.apply row, { t with intents := t.intents.map fun r => if u.selects r then u.apply r else r })

/-! ### Approvals -/

namespace ApprovalRow

def identified (r : ApprovalRow) (tenantID approvalID actorID : String) : Bool :=
  r.tenantID = tenantID && r.approvalID = approvalID && r.userID = actorID

/-- The unique keys of the table. -/
def collides (a b : ApprovalRow) : Bool :=
  a.tenantID = b.tenantID &&
    (a.approvalID = b.approvalID || a.approvalRequestID = b.approvalRequestID ||
      (a.intentID = b.intentID && a.intentVersion = b.intentVersion && a.intentDigest = b.intentDigest))

/-- The intent that an approval references. -/
def references (a : ApprovalRow) (r : IntentRow) : Bool :=
  r.tenantID = a.tenantID && r.params.intentID = a.intentID && r.params.version = a.intentVersion &&
    r.intentDigest = some a.intentDigest

/-- The binding version that an approval references. -/
def binds (a : ApprovalRow) (v : BindingRow) : Bool :=
  v.tenantID = a.tenantID && v.binding.bindingID = a.walletBindingID && v.binding.version = a.walletBindingVersion &&
    v.binding.userID = a.userID && v.binding.walletID = a.walletID && v.binding.address = a.walletAddress &&
    v.binding.chainID = a.chainID

end ApprovalRow

/-- `approvalCreateParams`. -/
def approvalCreateParams (scope : Scope) (value : Approvals.Approval) : Except Error ApprovalRow := do
  let _ ← dbVersion value.version
  let _ ← dbVersion value.intentVersion
  let _ ← dbVersion value.walletBindingVersion
  checkIf (value.operationVersion ≠ 0) ((dbVersion value.operationVersion).map fun _ => ())
  let _ ← dbVersion value.lifecycleRevision
  pure (approvalRow scope.tenantID value)

/-- `approvalFromRow`. -/
def approvalFromRow (row : ApprovalRow) : Except Error Approvals.Approval := do
  let version ← domainVersion row.approvalVersion
  let intentVersion ← domainVersion row.intentVersion
  let bindingVersion ← domainVersion row.walletBindingVersion
  let lifecycleRevision ← domainVersion row.lifecycleVersion
  Approvals.restore
    { approvalID := row.approvalID, version := version, approvalRequestID := row.approvalRequestID,
      intentID := row.intentID, intentVersion := intentVersion, intentDigest := row.intentDigest,
      userID := row.userID, walletBindingID := row.walletBindingID, walletBindingVersion := bindingVersion,
      walletID := row.walletID, walletAddress := row.walletAddress, chainID := row.chainID, status := row.status,
      decision := row.decision, createdAt := row.createdAt, expiresAt := row.expiresAt,
      decidedAt := row.decidedAt.getD 0, consumedAt := row.consumedAt.getD 0,
      operationKey := row.operationKey.getD "", operationVersion := row.operationVersion.getD 0,
      lifecycleRevision := lifecycleRevision }

def insertApproval (row : ApprovalRow) (t : ApplicationTables) : Except Error (ApprovalRow × ApplicationTables) := do
  rejectIf (row.satisfiesChecks = false) (.database .constraintViolation)
  rejectIf (t.approvals.any (row.collides ·) = true) (.database .uniqueViolation)
  rejectIf (t.intents.any (row.references ·) = false ∨
      (t.bindings.any fun b => b.tenantID = row.tenantID && b.binding.bindingID = row.walletBindingID) = false ∨
      t.bindingVersions.any (row.binds ·) = false) (.database .constraintViolation)
  pure (row, { t with approvals := t.approvals ++ [row] })

def findApprovalByID (tenantID approvalID actorID : String) (t : ApplicationTables) : Except Error ApprovalRow :=
  oneRow (t.approvals.find? (·.identified tenantID approvalID actorID))

def findApprovalByIntent (tenantID intentID : String) (intentVersion : Nat) (digest actorID : String)
    (t : ApplicationTables) : Except Error ApprovalRow :=
  oneRow (t.approvals.find? fun r =>
    r.tenantID = tenantID && r.intentID = intentID && r.intentVersion = intentVersion && r.intentDigest = digest &&
      r.userID = actorID)

/-- The columns that `UpdateApproval` sets, with the revision it expects to replace. -/
structure ApprovalUpdate where
  tenantID : String
  approvalID : String
  actorID : String
  status : Approvals.Status
  decision : Approvals.Decision
  decidedAt : Option Int
  consumedAt : Option Int
  operationKey : Option String
  operationVersion : Option Nat
  lifecycleVersion : Nat
  expected : Nat
deriving DecidableEq

namespace ApprovalUpdate

def selects (u : ApprovalUpdate) (r : ApprovalRow) : Bool :=
  r.identified u.tenantID u.approvalID u.actorID && r.lifecycleVersion = u.expected &&
    u.lifecycleVersion = u.expected + 1

def apply (u : ApprovalUpdate) (r : ApprovalRow) : ApprovalRow :=
  { r with
    status := u.status, decision := u.decision, decidedAt := u.decidedAt, consumedAt := u.consumedAt,
    operationKey := u.operationKey, operationVersion := u.operationVersion, lifecycleVersion := u.lifecycleVersion }

end ApprovalUpdate

/-- `updateApprovalParams`. -/
def approvalUpdateParams (scope : Scope) (value : Approvals.Approval) (expected : Nat) :
    Except Error ApprovalUpdate := do
  checkIf (value.operationVersion ≠ 0) ((dbVersion value.operationVersion).map fun _ => ())
  let revision ← dbVersion value.lifecycleRevision
  let expectedRevision ← dbVersion expected
  pure
    { tenantID := scope.tenantID, approvalID := value.approvalID, actorID := scope.actorID, status := value.status,
      decision := value.decision, decidedAt := dbTime value.decidedAt, consumedAt := dbTime value.consumedAt,
      operationKey := dbOptionalString value.operationKey, operationVersion := dbOptionalVersion value.operationVersion,
      lifecycleVersion := revision, expected := expectedRevision }

/-- `UpdateApproval … RETURNING *`; the trigger guards columns that it does not set. -/
def updateApproval (u : ApprovalUpdate) (t : ApplicationTables) : Except Error (ApprovalRow × ApplicationTables) := do
  let row ← oneRow (t.approvals.find? u.selects)
  rejectIf ((u.apply row).satisfiesChecks = false) (.database .constraintViolation)
  pure (u.apply row, { t with approvals := t.approvals.map fun r => if u.selects r then u.apply r else r })

/-! ### Policies and evaluations -/

def findPolicyByID (tenantID policyID : String) (policyVersion : Nat) (actorID : String) (t : ApplicationTables) :
    Except Error PolicyRow :=
  oneRow (t.policies.find? fun r =>
    r.tenantID = tenantID && r.params.policyID = policyID && r.params.version = policyVersion &&
      r.params.scope.userID = actorID)

/-- `policyFromRow`; the rules column is the decoded list. -/
def policyFromRow (row : PolicyRow) : Except Error Policies.Policy := do
  let version ← domainVersion row.params.version
  let lifecycleRevision ← domainVersion row.lifecycleVersion
  Policies.restore { row.params with version := version } row.status lifecycleRevision

namespace EvaluationRow

/-- The unique keys of the table. -/
def collides (a b : EvaluationRow) : Bool :=
  a.tenantID = b.tenantID &&
    (a.key = b.key ||
      (a.result.policyID = b.result.policyID && a.result.policyVersion = b.result.policyVersion &&
        a.result.intentID = b.result.intentID && a.result.intentVersion = b.result.intentVersion &&
        a.result.intentDigest = b.result.intentDigest && a.result.stage = b.result.stage &&
        a.result.evaluatedAt = b.result.evaluatedAt))

end EvaluationRow

/-- The row of an evaluation; its instant is cut to microseconds. -/
def evaluationRow (scope : Scope) (result : Policies.Result) : EvaluationRow :=
  ⟨scope.tenantID, scope.actorID, policyEvaluationKey result,
    { result with evaluatedAt := GoTime.truncMicros result.evaluatedAt }⟩

def insertEvaluation (row : EvaluationRow) (t : ApplicationTables) : Except Error (Unit × ApplicationTables) := do
  rejectIf (t.evaluations.any (row.collides ·) = true) (.database .uniqueViolation)
  rejectIf ((t.policies.any fun p => p.tenantID = row.tenantID && p.params.policyID = row.result.policyID &&
      p.params.version = row.result.policyVersion && p.params.scope.userID = row.userID) = false ∨
      (t.intents.any fun r => r.tenantID = row.tenantID && r.params.intentID = row.result.intentID &&
        r.params.version = row.result.intentVersion && r.intentDigest = some row.result.intentDigest &&
        r.params.ownership.userID = row.userID) = false) (.database .constraintViolation)
  pure ((), { t with evaluations := t.evaluations ++ [row] })

def findEvaluation (tenantID key actorID : String) (t : ApplicationTables) : Except Error EvaluationRow :=
  oneRow (t.evaluations.find? fun r => r.tenantID = tenantID && r.key = key && r.userID = actorID)

/-! ### Executions -/

/-- The foreign keys of `execution_requests`. -/
def requestReferences (r : RequestRow) (t : ApplicationTables) : Bool :=
  (t.intents.any fun i => i.tenantID = r.tenantID && i.params.intentID = r.request.intentID &&
    i.params.version = r.request.intentVersion && i.intentDigest = some r.request.intentDigest) &&
  (t.approvals.any fun a => a.tenantID = r.tenantID && a.approvalID = r.request.approvalID &&
    a.approvalVersion = r.request.approvalVersion && a.intentID = r.request.intentID &&
    a.intentVersion = r.request.intentVersion && a.intentDigest = r.request.intentDigest && a.userID = r.userID) &&
  (t.evaluations.any fun e => e.tenantID = r.tenantID && e.key = r.request.policyEvaluationKey &&
    e.result.policyID = r.request.policyID && e.result.policyVersion = r.request.policyVersion &&
    e.userID = r.userID && e.result.intentID = r.request.intentID &&
    e.result.intentVersion = r.request.intentVersion && e.result.intentDigest = r.request.intentDigest &&
    e.result.stage = r.request.policyEvaluationStage && e.result.evaluatedAt = r.request.policyEvaluatedAt)

/-- The transaction of `ConsumeApprovalAndCreateExecution`. -/
def consumeAndCreate (u : ApprovalUpdate) (request : RequestRow) (execution : ExecutionRow) (record : AuditRow)
    (t : ApplicationTables) : Except Error (ApprovalRow × ApplicationTables) := do
  let (row, t) ← updateApproval u t
  let stored ← insertRequest request t.execution
  rejectIf (requestReferences request t = false) (.database .constraintViolation)
  let stored ← insertExecution execution stored
  let stored ← appendAudit record stored
  pure (row, { t with execution := stored })

/-- A statement on the execution tables alone. -/
def onExecution (statement : ExecutionTables → Except Error ExecutionTables) (t : ApplicationTables) :
    Except Error (Unit × ApplicationTables) := do
  let stored ← statement t.execution
  pure ((), { t with execution := stored })

end WizPay.Storage
