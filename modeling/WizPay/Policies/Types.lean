import WizPay.Errors

/-!
# Policy decisions and evaluation results

The outcome of `policies.Evaluate` (`internal/policies/types.go`).
-/
namespace WizPay.Policies

inductive Decision
  | allow | deny | requireReview
deriving DecidableEq

def Decision.text : Decision → String
  | .allow => "ALLOW"
  | .deny => "DENY"
  | .requireReview => "REQUIRE_REVIEW"

inductive EvaluationStage
  | beforeApproval | beforeExecution
deriving DecidableEq

def EvaluationStage.text : EvaluationStage → String
  | .beforeApproval => "BEFORE_APPROVAL"
  | .beforeExecution => "BEFORE_EXECUTION"

inductive RuleType
  | spendingLimit | operationAllowlist | chainAllowlist | tokenAllowlist | recipient | expiration
deriving DecidableEq

inductive Reason
  | policyDraft | policyNotEffective | policyDisabled | policyExpired | policyReferenceMismatch
  | scopeMismatch | operationNotAllowed | spendingLimitExceeded | chainNotAllowed | tokenNotAllowed
  | recipientNotAllowed | expirationConstraintViolated
deriving DecidableEq

/-- A lifecycle finding names no rule: its rule ID is empty and its rule type absent. -/
structure Finding where
  ruleID : String
  ruleType : Option RuleType
  decision : Decision
  reason : Reason
deriving DecidableEq

/-- `policies.Result`: a decision bound to exact policy and intent versions. -/
structure Result where
  policyID : String
  policyVersion : Nat
  intentID : String
  intentVersion : Nat
  intentDigest : String
  stage : EvaluationStage
  decision : Decision
  evaluatedAt : Int
  findings : List Finding
deriving DecidableEq

end WizPay.Policies
