import WizPay.Execution.Types
import WizPay.Policies.Types
import WizPay.Lib.Sha256

/-!
# Execution requests

`internal/execution/request.go` and the request half of `restore.go`. A request holds
authorization references and three keys that are hashes of them.
-/
namespace WizPay.Exec

open Checks GoText GoTime

def requestVersion : Nat := 1

def executionIdentityDomain : String := "WIZPAY_MCP_EXECUTION_V1\n"

def executionRequestDomain : String := "WIZPAY_MCP_EXECUTION_REQUEST_V1\n"

def policyEvaluationDomain : String := "WIZPAY_MCP_POLICY_EVALUATION_REFERENCE_V1\n"

/-- The bytes written to the hash: the domain, then every part behind its length. -/
def hashInput (domain : List UInt8) (parts : List (List UInt8)) : List UInt8 :=
  domain ++ parts.flatMap fun part => bytes (toString part.length ++ ":") ++ part

def hash (domain : String) (parts : List String) : String :=
  Sha256.hexText (Sha256.sum256 (hashInput (bytes domain) (parts.map bytes)))

structure Request where
  requestID : String
  requestKey : String
  version : Nat
  executionID : String
  operationKey : String
  operationVersion : Nat
  intentID : String
  intentVersion : Nat
  intentDigest : String
  approvalID : String
  approvalVersion : Nat
  policyID : String
  policyVersion : Nat
  policyEvaluationKey : String
  policyEvaluationStage : Policies.EvaluationStage
  policyEvaluatedAt : Int
  createdAt : Int
deriving DecidableEq

def invalidExecution (cause : Error) : Error :=
  .wrap .executionInvalid "Execution request is invalid." false true true cause

/-- `PolicyEvaluationKey(result)`. -/
def policyEvaluationKey (result : Policies.Result) : String :=
  hash policyEvaluationDomain
    [result.policyID, toString result.policyVersion, result.intentID, toString result.intentVersion,
      result.intentDigest, result.stage.text, formatRFC3339Nano result.evaluatedAt, result.decision.text]

def wantExecutionID (operationKey : String) (operationVersion : Nat) : String :=
  "exec_" ++ hash executionIdentityDomain [operationKey, toString operationVersion]

def wantRequestKey (operationKey : String) (operationVersion : Nat) (approvalID : String)
    (approvalVersion : Nat) (evaluationKey : String) : String :=
  hash executionRequestDomain
    [operationKey, toString operationVersion, approvalID, toString approvalVersion, evaluationKey]

/-- The evaluation key that `validate` expects; a request always stands for an ALLOW. -/
def Request.wantPolicyEvaluationKey (r : Request) : String :=
  Exec.policyEvaluationKey
    { policyID := r.policyID, policyVersion := r.policyVersion, intentID := r.intentID,
      intentVersion := r.intentVersion, intentDigest := r.intentDigest, stage := r.policyEvaluationStage,
      decision := .allow, evaluatedAt := r.policyEvaluatedAt, findings := [] }

/-- The text fields of a request in the order they are checked. -/
def Request.textFields (r : Request) : List (String × String) :=
  [("request ID", r.requestID), ("request key", r.requestKey), ("execution ID", r.executionID),
    ("operation key", r.operationKey), ("intent ID", r.intentID), ("intent digest", r.intentDigest),
    ("approval ID", r.approvalID), ("policy ID", r.policyID),
    ("policy evaluation key", r.policyEvaluationKey)]

/-- Check every field in order and stop at the first bad one. -/
def validateTexts : List (String × String) → Except Error Unit
  | [] => .ok ()
  | (name, value) :: rest => do
    (validateExecutionText name value).mapError invalidExecution
    validateTexts rest

def Request.validate (r : Request) : Except Error Unit := do
  validateTexts r.textFields
  rejectIf (r.version ≠ requestVersion ∨ r.operationVersion = 0 ∨ r.intentVersion = 0 ∨
      r.approvalVersion = 0 ∨ r.policyVersion = 0)
    (invalidExecution (.text "execution request version is invalid"))
  rejectIf (r.policyEvaluationStage ≠ .beforeExecution)
    (invalidExecution (.text "execution request requires a pre-execution policy evaluation"))
  rejectIf (isZero r.policyEvaluatedAt ∨ isZero r.createdAt ∨ r.policyEvaluatedAt > r.createdAt)
    (invalidExecution (.text "execution request timestamps are invalid"))
  -- every key is recomputed from the references it stands for
  let requestKey := wantRequestKey r.operationKey r.operationVersion r.approvalID r.approvalVersion
    r.wantPolicyEvaluationKey
  rejectIf (r.executionID ≠ wantExecutionID r.operationKey r.operationVersion ∨
      r.policyEvaluationKey ≠ r.wantPolicyEvaluationKey ∨ r.requestKey ≠ requestKey ∨
      r.requestID ≠ "exreq_" ++ requestKey)
    (invalidExecution (.text "execution request identity is invalid"))

/-- `RestoreRequest`: the parameters are the fields themselves, with UTC instants. -/
def restoreRequest (p : Request) : Except Error Request := do
  p.validate
  pure p

theorem validateTexts_ok {fields : List (String × String)} :
    validateTexts fields = .ok () ↔
      ∀ field ∈ fields, validateExecutionText field.1 field.2 = .ok () := by
  induction fields with
  | nil => simp [validateTexts]
  | cons field rest ih =>
    simp only [validateTexts, guard_ok, mapError_ok, ih, List.forall_mem_cons]

/-- A request whose references are well formed and whose keys are the hashes of them. -/
structure Request.WellFormed (r : Request) : Prop where
  texts : ∀ field ∈ r.textFields, validateExecutionText field.1 field.2 = .ok ()
  version : r.version = requestVersion
  operationVersion : r.operationVersion ≠ 0
  intentVersion : r.intentVersion ≠ 0
  approvalVersion : r.approvalVersion ≠ 0
  policyVersion : r.policyVersion ≠ 0
  stage : r.policyEvaluationStage = .beforeExecution
  evaluatedAt : r.policyEvaluatedAt ≠ 0
  createdAt : r.createdAt ≠ 0
  ordered : r.policyEvaluatedAt ≤ r.createdAt
  executionID : r.executionID = wantExecutionID r.operationKey r.operationVersion
  evaluationKey : r.policyEvaluationKey = r.wantPolicyEvaluationKey
  requestKey : r.requestKey =
    wantRequestKey r.operationKey r.operationVersion r.approvalID r.approvalVersion r.wantPolicyEvaluationKey
  requestID : r.requestID = "exreq_" ++
    wantRequestKey r.operationKey r.operationVersion r.approvalID r.approvalVersion r.wantPolicyEvaluationKey

theorem Request.validate_ok {r : Request} : r.validate = .ok () ↔ r.WellFormed := by
  simp only [Request.validate, checks_ok, validateTexts_ok, isZero_iff, not_or, Int.not_lt, ne_eq, not_not, gt_iff_lt]
  constructor
  · rintro ⟨texts, ⟨v, ov, iv, av, pv⟩, stage, ⟨ev, cr, ord⟩, eid, ek, rk, rid⟩
    exact ⟨texts, v, ov, iv, av, pv, stage, ev, cr, ord, eid, ek, rk, rid⟩
  · rintro ⟨texts, v, ov, iv, av, pv, stage, ev, cr, ord, eid, ek, rk, rid⟩
    exact ⟨texts, ⟨v, ov, iv, av, pv⟩, stage, ⟨ev, cr, ord⟩, eid, ek, rk, rid⟩

theorem restoreRequest_ok {p r : Request} : restoreRequest p = .ok r ↔ p.WellFormed ∧ p = r := by
  simp only [restoreRequest, guard_ok, pure_ok, Request.validate_ok]

/-! ### A well-formed request -/

def sampleRequest : Request :=
  { requestID := "exreq_85f1a1288588d2eda890cc65b3070eb279bb0840e1c3928a53da5f8574f0cf3d",
    requestKey := "85f1a1288588d2eda890cc65b3070eb279bb0840e1c3928a53da5f8574f0cf3d",
    version := requestVersion,
    executionID := "exec_baac5cb3fbd189f2204aa461ada39d7cb1a3b4721ed3ae71a96ef48a2009f8bb",
    operationKey := "op_1", operationVersion := 1, intentID := "int_1", intentVersion := 1,
    intentDigest := "sha256:aa", approvalID := "apr_1", approvalVersion := 4, policyID := "pol_1",
    policyVersion := 1,
    policyEvaluationKey := "d4cb178ec68ffa833ea536e72d4f9fee7fec0e983752462c7a9929b1d45b39e6",
    policyEvaluationStage := .beforeExecution, policyEvaluatedAt := 63000000000000000000,
    createdAt := 63000000000000000000 }

theorem sampleRequest_evaluationKey : sampleRequest.policyEvaluationKey = sampleRequest.wantPolicyEvaluationKey := by
  decide +kernel

theorem sampleRequest_requestKey :
    sampleRequest.requestKey = wantRequestKey sampleRequest.operationKey sampleRequest.operationVersion
      sampleRequest.approvalID sampleRequest.approvalVersion sampleRequest.wantPolicyEvaluationKey := by
  rw [← sampleRequest_evaluationKey]
  decide +kernel

theorem sampleRequest_wellFormed : sampleRequest.WellFormed where
  texts := by decide +kernel
  version := rfl
  operationVersion := by decide
  intentVersion := by decide
  approvalVersion := by decide
  policyVersion := by decide
  stage := rfl
  evaluatedAt := by decide
  createdAt := by decide
  ordered := by decide
  executionID := by decide +kernel
  evaluationKey := sampleRequest_evaluationKey
  requestKey := sampleRequest_requestKey
  requestID := by
    rw [← sampleRequest_requestKey]
    decide

end WizPay.Exec
