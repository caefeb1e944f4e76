import WizPay.Approvals.Approval
import WizPay.Execution.Request
import WizPay.Intents.Lifecycle

/-!
# Building an execution request

`NewRequest` of `internal/execution/request.go`.
-/
namespace WizPay.Exec

open Checks Intents Approvals

/-- The approval was consumed for this intent and its operation. -/
def ApprovalMatches (approval : Approval) (intent : Intent) (operation : OperationIdentity) : Prop :=
  approval.status = .consumed ∧ approval.decision = .approved ∧ approval.Matches intent ∧
    approval.operationKey = operation.operationKey ∧ approval.operationVersion = operation.version

instance (approval : Approval) (intent : Intent) (operation : OperationIdentity) :
    Decidable (ApprovalMatches approval intent operation) := inferInstanceAs (Decidable (_ ∧ _))

/-- The evaluation allows this intent by the policy that it references, no later than the consumption. -/
def EvaluationMatches (result : Policies.Result) (intent : Intent) (consumedAt : Int) : Prop :=
  result.decision = .allow ∧ result.stage = .beforeExecution ∧ result.findings = [] ∧ result.policyID ≠ "" ∧
    result.policyVersion ≠ 0 ∧ result.intentID = intent.params.intentID ∧
    result.intentVersion = intent.params.version ∧ result.intentDigest = intent.digest ∧ result.evaluatedAt ≠ 0 ∧
    result.evaluatedAt ≤ consumedAt ∧
    intent.params.constraints.policyReference = s!"{result.policyID}:{result.policyVersion}"

instance (result : Policies.Result) (intent : Intent) (consumedAt : Int) :
    Decidable (EvaluationMatches result intent consumedAt) := inferInstanceAs (Decidable (_ ∧ _))

/-- The request that the references make; its creation is the consumption of the approval. -/
def requestOf (operation : OperationIdentity) (intent : Intent) (approval : Approval) (result : Policies.Result) :
    Request :=
  let key := wantRequestKey operation.operationKey operation.version approval.approvalID approval.version
    (policyEvaluationKey result)
  { requestID := "exreq_" ++ key, requestKey := key, version := requestVersion,
    executionID := wantExecutionID operation.operationKey operation.version,
    operationKey := operation.operationKey, operationVersion := operation.version,
    intentID := intent.params.intentID, intentVersion := intent.params.version, intentDigest := intent.digest,
    approvalID := approval.approvalID, approvalVersion := approval.version,
    policyID := result.policyID, policyVersion := result.policyVersion,
    policyEvaluationKey := policyEvaluationKey result, policyEvaluationStage := result.stage,
    policyEvaluatedAt := result.evaluatedAt, createdAt := approval.consumedAt }

/-- `NewRequest`. -/
def newRequest (intent : Intent) (approval : Approval) (result : Policies.Result) (time : Int) :
    Except Error Request := do
  intent.validate
  approval.validate
  rejectIf (time = 0) (invalidExecution (.text "request creation time is required"))
  rejectIf (intent.status ≠ .approved ∧ intent.status ≠ .readyForExecution)
    (.app .executionNotAuthorized "Execution request is not authorized." false true true)
  rejectIf (¬ time < intent.params.expiresAt ∨ ¬ time < intent.params.constraints.deadline) intentExpired
  let operation ← newOperationIdentity intent
  rejectIf (¬ ApprovalMatches approval intent operation)
    (.app .executionNotAuthorized "Execution approval does not match the intent." false true true)
  rejectIf (time < approval.consumedAt)
    (invalidExecution (.text "approval consumption cannot follow request creation"))
  rejectIf (¬ EvaluationMatches result intent approval.consumedAt)
    (.app .executionNotAuthorized "Allowing policy evaluation does not match the intent." false true true)
  (requestOf operation intent approval result).validate
  pure (requestOf operation intent approval result)

end WizPay.Exec
