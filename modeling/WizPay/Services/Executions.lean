import WizPay.Execution.NewRequest
import WizPay.Policies.Evaluator
import WizPay.Services.Approvals

/-!
# The policy and execution services

`policy.go` and `execution.go` of `internal/services`.
-/
namespace WizPay.Services

open Checks GoText Threads.Routine Intents Approvals Storage Auth Exec

def evaluatePolicy (ctx : Context) (intentID policyID : String) (policyVersion : Nat)
    (stage : Policies.EvaluationStage) : Service Policies.Result := do
  let scope ← check (ctx.scope .evaluatePolicy)
  let request ← check ctx.trustedRequest
  let intent ← Repository.findIntentByID scope intentID
  let policy ← Repository.findPolicyByID scope policyID policyVersion
  let binding ← Repository.findBindingByID scope intent.params.ownership.walletBindingID
  let time ← now
  let result ← check (Policies.evaluateAt policy intent request.identity binding time stage)
  Repository.createPolicyEvaluation scope result

/-- The execution that was prepared is the one that the consumed approval stands for. -/
def ReplayMatches (request : Request) (i : Intent) (a : Approval) (policyID : String) (policyVersion : Nat)
    (operation : OperationIdentity) : Prop :=
  a.Matches i ∧ request.operationKey = operation.operationKey ∧ request.operationVersion = operation.version ∧
    request.intentID = i.params.intentID ∧ request.intentVersion = i.params.version ∧
    request.intentDigest = i.digest ∧ request.approvalID = a.approvalID ∧ request.approvalVersion = a.version ∧
    request.policyID = policyID ∧ request.policyVersion = policyVersion ∧
    i.params.constraints.policyReference = s!"{request.policyID}:{request.policyVersion}"

instance (request : Request) (i : Intent) (a : Approval) (policyID : String) (policyVersion : Nat)
    (operation : OperationIdentity) : Decidable (ReplayMatches request i a policyID policyVersion operation) :=
  inferInstanceAs (Decidable (_ ∧ _))

def recoveryRequired : Error :=
  .app .executionRecoverable "Consumed approval has no durable execution and requires recovery." false true true

def replayConsumedExecution (scope : Scope) (i : Intent) (a : Approval) (policyID : String) (policyVersion : Nat)
    (operation : OperationIdentity) : Service Request := do
  let found ← attempt (Repository.findExecutionByOperationKey scope operation.operationKey operation.version)
  let existing ← check (found.mapError fun e => if e.appCode = some .executionNotFound then recoveryRequired else e)
  check (rejectIf (¬ ReplayMatches existing.request i a policyID policyVersion operation)
    (.app .executionConflict "Existing execution request does not match the consumed authorization." false true true))
  pure existing.request

def executionPreparedRecord (scope : Scope) (e : Execution) (time : Int) : Audit.Record :=
  let r := e.request
  { event :=
      { eventID := r.requestID ++ "/execution-prepared", type := .executionAuthorized, occurredAt := time,
        intentID := r.intentID, intentVersion := r.intentVersion, intentDigest := r.intentDigest,
        approvalID := r.approvalID, executionID := r.executionID, executionRequestID := r.requestID,
        executionRequestKey := r.requestKey, executionStatus := e.status.text, userID := scope.actorID,
        operationKey := r.operationKey, operationVersion := r.operationVersion },
    actorType := "user", actorID := scope.actorID, requestID := scope.requestID, traceID := scope.traceID,
    resourceType := "execution", resourceID := r.executionID, newState := e.status.text,
    sourceComponent := "execution.service" }

/-- The evaluation of a confirmed approval's intent, which is stored before anything is consumed. -/
def evaluateForExecution (scope : Scope) (identity : Identity) (i : Intent) (policyID : String)
    (policyVersion : Nat) : Service Policies.Result := do
  let policy ← Repository.findPolicyByID scope policyID policyVersion
  let binding ← Repository.findBindingByID scope i.params.ownership.walletBindingID
  let time ← now
  let result ← check (Policies.evaluate policy i identity binding time)
  Repository.createPolicyEvaluation scope result

/-- The approval is consumed and the execution created in one transaction. -/
def createExecution (scope : Scope) (i : Intent) (a : Approval) (operation : OperationIdentity)
    (result : Policies.Result) : Service Request := do
  let consumedAt ← now
  let consumed ← check (a.consume consumedAt operation)
  let createdAt ← now
  let request ← check (newRequest i consumed result createdAt)
  let execution ← check (Exec.new request)
  let recordedAt ← now
  let created ← Repository.consumeApprovalAndCreateExecution scope consumed a.lifecycleRevision execution
    (executionPreparedRecord scope execution recordedAt)
  pure created.request

def prepareExecution (ctx : Context) (intentID approvalID policyID : String) (policyVersion : Nat) :
    Service Request := do
  let request ← check ctx.trustedRequest
  check (ctx.authorize request .prepareExecution)
  let scope ← check ctx.storageScope
  let intent ← Repository.findIntentByID scope intentID
  let approval ← Repository.findApprovalByID scope approvalID
  check (rejectIf (approval.status ≠ .readyForExecutionConfirmation ∧ approval.status ≠ .consumed)
    (.app .executionNotAuthorized "Wallet execution confirmation is required." false true true))
  let operation ← check (newOperationIdentity intent)
  if approval.status = .consumed then
    let _ ← check (approval.consume approval.consumedAt operation)
    replayConsumedExecution scope intent approval policyID policyVersion operation
  else
    let result ← evaluateForExecution scope request.identity intent policyID policyVersion
    createExecution scope intent approval operation result

end WizPay.Services
