import WizPay.Execution.Lifecycle

/-!
# Adapter results

`internal/execution/result.go`: a provider-neutral observation of one execution.
-/
namespace WizPay.Exec

open Checks GoText GoTime

structure Result where
  executionID : String
  executionVersion : Nat
  status : Status
  adapterReference : String
  errorCode : String
  observedAt : Int
deriving DecidableEq

namespace Result

/-- The statuses of a successful observation. -/
def isSuccess : Status → Bool
  | .submitted | .confirming | .confirmed | .verified | .completed => true
  | _ => false

/-- The statuses of a failed or ambiguous observation. -/
def isFailure : Status → Bool
  | .failed | .recoveryRequired => true
  | _ => false

theorem isSuccess_of_isFailure {status : Status} (failure : isFailure status = true) :
    isSuccess status = false := by
  revert failure
  cases status <;> decide

/-- The switch over the status: what each kind of observation must carry. -/
def validateKind (r : Result) : Except Error Unit :=
  if isSuccess r.status then do
    rejectIf (r.adapterReference = "")
      (invalidExecution (.text "execution result reference is required"))
    rejectIf (r.errorCode ≠ "")
      (invalidExecution (.text "successful execution result cannot have an error code"))
  else if isFailure r.status then
    rejectIf (r.errorCode = "")
      (invalidExecution (.text "failed or recoverable result requires an error code"))
  else
    .error (invalidExecution (.text s!"status {r.status.text} is not an adapter result state"))

def validate (r : Result) : Except Error Unit := do
  (validateExecutionText "result execution ID" r.executionID).mapError invalidExecution
  rejectIf (r.executionVersion = 0 ∨ isZero r.observedAt)
    (invalidExecution (.text "execution result metadata is invalid"))
  r.validateKind
  checkIf (r.adapterReference ≠ "") ((validateAdapterReference r.adapterReference).mapError invalidExecution)
  checkIf (r.errorCode ≠ "") ((validateReasonCode "result error code" r.errorCode).mapError invalidExecution)

/-- `EnsureMatches(request)`. -/
def ensureMatches (r : Result) (request : Request) : Except Error Unit := do
  r.validate
  request.validate
  rejectIf (r.executionID ≠ request.executionID ∨ r.executionVersion ≠ request.version)
    (.app .executionConflict "Execution result does not match the request." false true true)

end Result

/-- The texts of the parameters are trimmed before the check. -/
def Result.trimmed (params : Result) : Result :=
  { params with
    executionID := trimSpace params.executionID
    adapterReference := trimSpace params.adapterReference
    errorCode := trimSpace params.errorCode }

/-- `NewResult(params)`. -/
def newResult (params : Result) : Except Error Result := do
  params.trimmed.validate
  pure params.trimmed

/-- An observation that `validate` accepts. -/
structure Result.Valid (r : Result) : Prop where
  executionID : validateExecutionText "result execution ID" r.executionID = .ok ()
  executionVersion : r.executionVersion ≠ 0
  observedAt : r.observedAt ≠ 0
  kind : isSuccess r.status = true ∧ r.adapterReference ≠ "" ∧ r.errorCode = "" ∨
    isFailure r.status = true ∧ r.errorCode ≠ ""
  adapterReference : r.adapterReference ≠ "" → validateAdapterReference r.adapterReference = .ok ()
  errorCode : r.errorCode ≠ "" → isReasonCode r.errorCode = true

variable {r : Result}

theorem Result.validateKind_ok :
    r.validateKind = .ok () ↔
      isSuccess r.status = true ∧ r.adapterReference ≠ "" ∧ r.errorCode = "" ∨
        isFailure r.status = true ∧ r.errorCode ≠ "" := by
  have exclusive (success : isSuccess r.status = true) : isFailure r.status = false := by
    rw [Bool.eq_false_iff]
    exact fun failure => Bool.false_ne_true ((isSuccess_of_isFailure failure).symm.trans success)
  unfold validateKind
  split
  next success =>
    simp only [checks_ok, ne_eq, not_not, success, exclusive success]
    simp
  next notSuccess =>
    split
    next failure => simp [notSuccess, failure]
    next notFailure => simp [notSuccess, notFailure]

theorem Result.validate_ok : r.validate = .ok () ↔ r.Valid := by
  simp only [Result.validate, checks_ok, checkIf_ok, isZero_iff, not_or, validateKind_ok, validateReasonCode_ok]
  constructor
  · rintro ⟨id, ⟨version, time⟩, kind, reference, code⟩
    exact ⟨id, version, time, kind, reference, code⟩
  · rintro ⟨id, version, time, kind, reference, code⟩
    exact ⟨id, ⟨version, time⟩, kind, reference, code⟩

theorem newResult_ok {params result : Result} :
    newResult params = .ok result ↔ params.trimmed.Valid ∧ params.trimmed = result := by
  simp only [newResult, guard_ok, pure_ok, Result.validate_ok]

theorem Result.Valid.trimmed_texts (valid : r.Valid) :
    trimSpace r.executionID = r.executionID ∧ trimSpace r.adapterReference = r.adapterReference ∧
      trimSpace r.errorCode = r.errorCode := by
  refine ⟨(validateBoundedText_ok.mp valid.executionID).2.1, ?_, ?_⟩
  · by_cases absent : r.adapterReference = ""
    · simp [absent]
    · exact (validateBoundedText_ok.mp (valid.adapterReference absent)).2.1
  · by_cases absent : r.errorCode = ""
    · simp [absent]
    · exact trimSpace_of_isReasonCode (valid.errorCode absent)

end WizPay.Exec
