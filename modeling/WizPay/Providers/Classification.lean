import WizPay.Providers.Reference
import WizPay.Runtime.Service

/-!
# Provider outcomes

`internal/providers/classification.go`: the provider-neutral taxonomy.
-/
namespace WizPay.Providers

open Checks GoTime Exec Storage

inductive Classification
  | preSubmissionValidationFailure | userAuthorizationRequired | transientProviderError
  | permanentProviderRejection | ambiguousSubmission | submittedPending | confirmedOnchainFailed
  | verifiedSuccess
deriving DecidableEq

def Classification.text : Classification → String
  | .preSubmissionValidationFailure => "PRE_SUBMISSION_VALIDATION_FAILURE"
  | .userAuthorizationRequired => "USER_AUTHORIZATION_REQUIRED"
  | .transientProviderError => "TRANSIENT_PROVIDER_ERROR"
  | .permanentProviderRejection => "PERMANENT_PROVIDER_REJECTION"
  | .ambiguousSubmission => "AMBIGUOUS_SUBMISSION"
  | .submittedPending => "SUBMITTED_PENDING"
  | .confirmedOnchainFailed => "CONFIRMED_ONCHAIN_FAILED"
  | .verifiedSuccess => "VERIFIED_SUCCESS"

/-- One classified observation; without a reference `HasReference` is false. -/
structure Outcome where
  classification : Classification
  reasonCode : String
  reference : Option Reference
  observedAt : Int
deriving DecidableEq

variable (o : Outcome)

namespace Outcome

/-- The switch over the class: an observation of progress has a reference and no reason. -/
def validateKind : Except Error Unit :=
  match o.classification with
  | .submittedPending | .verifiedSuccess => do
    rejectIf (o.reasonCode ≠ "")
      (.text s!"provider outcome {o.classification.text} cannot carry a reason code")
    rejectIf (o.reference = none)
      (.text s!"provider outcome {o.classification.text} requires a provider reference")
  | _ =>
    rejectIf (isReasonCode o.reasonCode = false)
      (.text s!"provider outcome {o.classification.text} requires a safe reason code")

def validate : Except Error Unit := do
  rejectIf (isZero o.observedAt) (.text "provider outcome observation time is required")
  o.validateKind
  match o.reference with
  | none => pure ()
  | some reference => reference.validate

def encodedReference : Except Error String :=
  match o.reference with
  | none => .ok ""
  | some reference => reference.encode

/-- The observation that an outcome is reported as. -/
def resultParams (executionID reference : String) (status : Status) (errorCode : String) : Result :=
  { executionID := executionID, executionVersion := requestVersion, status := status,
    adapterReference := reference, errorCode := errorCode, observedAt := o.observedAt }

/-- The switch of `AdapterResult` over the class. -/
def report (executionID reference : String) : Except Error Result :=
  match o.classification with
  | .preSubmissionValidationFailure | .permanentProviderRejection => .error (.adapter .permanent o.reasonCode)
  | .transientProviderError => .error (.adapter .transient o.reasonCode)
  | .userAuthorizationRequired | .ambiguousSubmission =>
    newResult (o.resultParams executionID reference .recoveryRequired o.reasonCode)
  | .submittedPending => newResult (o.resultParams executionID reference .submitted "")
  | .confirmedOnchainFailed => newResult (o.resultParams executionID reference .failed o.reasonCode)
  -- a provider adapter never reports verified success
  | .verifiedSuccess => newResult (o.resultParams executionID reference .confirming "")

def adapterResult (executionID : String) : Except Error Result := do
  o.validate
  let reference ← o.encodedReference
  o.report executionID reference

def verificationResult : Except Error VerificationResult := do
  o.validate
  let reference ← o.encodedReference
  match o.classification with
  | .verifiedSuccess => .ok ⟨.verified, reference, "", o.observedAt⟩
  | .confirmedOnchainFailed => .ok ⟨.failed, "", o.reasonCode, o.observedAt⟩
  | .transientProviderError => .error (.verification o.reasonCode)
  | _ =>
    if reference = "" then .error (.verification o.reasonCode)
    else .ok ⟨.pending, reference, "", o.observedAt⟩

end Outcome

/-! ### Which outcomes condemn an execution -/

/-- The classes that the runtime turns into a terminal failure. -/
def Classification.terminal : Classification → Bool
  | .preSubmissionValidationFailure | .permanentProviderRejection | .confirmedOnchainFailed => true
  | _ => false

theorem newResult_plain (params : Result) : FailsWith Plain (newResult params) := by
  have wrapped {check : Except Error Unit} (plain : FailsWith Plain check) :
      FailsWith Plain (check.mapError invalidExecution) := .mapError fun message failed => plain message failed
  have text (name value : String) (max : Nat) : FailsWith Plain (validateBoundedText name value max) :=
    .bind (.rejectIf rfl) fun _ _ => .bind (.rejectIf rfl) fun _ _ => .rejectIf rfl
  have kind : FailsWith Plain params.trimmed.validateKind := by
    unfold Result.validateKind
    split
    next => exact .bind (.rejectIf rfl) fun _ _ => .rejectIf rfl
    next =>
      split
      next => exact .rejectIf rfl
      next => exact .error rfl
  have valid : FailsWith Plain params.trimmed.validate :=
    .bind (wrapped (text _ _ _)) fun _ _ => .bind (.rejectIf rfl) fun _ _ => .bind kind fun _ _ =>
      .bind (.checkIf (wrapped (text _ _ _))) fun _ _ => .checkIf (wrapped (.rejectIf rfl))
  exact .bind valid fun _ _ => .ok

theorem Outcome.validate_plain : FailsWith Plain o.validate := by
  have kind : FailsWith Plain o.validateKind := by
    unfold Outcome.validateKind
    split
    next => exact .bind (.rejectIf rfl) fun _ _ => .rejectIf rfl
    next => exact .bind (.rejectIf rfl) fun _ _ => .rejectIf rfl
    next => exact .rejectIf rfl
  refine .bind (.rejectIf rfl) fun _ _ => .bind kind fun _ _ => ?_
  cases o.reference with
  | none => exact .ok
  | some reference => exact reference.validate_plain

theorem Outcome.encodedReference_plain : FailsWith Plain o.encodedReference := by
  unfold Outcome.encodedReference
  cases o.reference with
  | none => exact .ok
  | some reference => exact reference.encode_plain

/-- An error that is no typed failure only asks for recovery. -/
theorem not_condemning_of_plain {e : Error} (plain : Plain e) : ¬ Runtime.Condemning (.error e) := by
  rintro ⟨reasonCode, failed⟩
  rw [plain] at failed
  cases failed

theorem newResult_not_condemning {params : Result} (status : params.status ≠ .failed) :
    ¬ Runtime.Condemning (newResult params) := by
  cases built : newResult params with
  | error e => exact not_condemning_of_plain (newResult_plain params e built)
  | ok result =>
    obtain ⟨_, rfl⟩ := newResult_ok.mp built
    exact status

theorem Outcome.report_condemning {o : Outcome} {executionID reference : String}
    (condemned : Runtime.Condemning (o.report executionID reference)) : o.classification.terminal = true := by
  unfold Outcome.report at condemned
  cases observed : o.classification with
  | preSubmissionValidationFailure => rfl
  | permanentProviderRejection => rfl
  | confirmedOnchainFailed => rfl
  | transientProviderError =>
    rw [observed] at condemned
    obtain ⟨reasonCode, failed⟩ := condemned
    cases failed
  | userAuthorizationRequired | ambiguousSubmission | submittedPending | verifiedSuccess =>
    rw [observed] at condemned
    exact absurd condemned (newResult_not_condemning (by simp [Outcome.resultParams]))

/-- Only an outcome of a terminal class ends an execution for good. -/
theorem Outcome.adapterResult_condemning {o : Outcome} {executionID : String}
    (condemned : Runtime.Condemning (o.adapterResult executionID)) : o.classification.terminal = true := by
  unfold Outcome.adapterResult at condemned
  cases checked : o.validate with
  | error e =>
    rw [checked] at condemned
    exact absurd condemned (not_condemning_of_plain (o.validate_plain e checked))
  | ok _ =>
    rw [checked] at condemned
    cases encoded : o.encodedReference with
    | error e =>
      rw [encoded] at condemned
      exact absurd condemned (not_condemning_of_plain (o.encodedReference_plain e encoded))
    | ok reference =>
      rw [encoded] at condemned
      exact Outcome.report_condemning condemned

end WizPay.Providers
