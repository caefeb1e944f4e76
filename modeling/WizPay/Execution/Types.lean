import WizPay.Errors
import WizPay.Lib.GoTime

/-!
# Execution statuses, failures and recoveries

Values of `internal/execution/types.go`. A Go zero string in a status field is
`none`.
-/
namespace WizPay.Exec

open Checks GoText

def maxExecutionTextLength : Nat := 256

def maxAdapterReferenceLength : Nat := 512

inductive Status
  | created | authorized | queued | executing | submitted | confirming | confirmed | verified
  | completed | failed | recoveryRequired | cancelled
deriving DecidableEq

def Status.text : Status → String
  | .created => "CREATED"
  | .authorized => "AUTHORIZED"
  | .queued => "QUEUED"
  | .executing => "EXECUTING"
  | .submitted => "SUBMITTED"
  | .confirming => "CONFIRMING"
  | .confirmed => "CONFIRMED"
  | .verified => "VERIFIED"
  | .completed => "COMPLETED"
  | .failed => "FAILED"
  | .recoveryRequired => "RECOVERY_REQUIRED"
  | .cancelled => "CANCELLED"

/-- The text of a status field that may hold the zero string. -/
def statusText (status : Option Status) : String := (status.map Status.text).getD ""

inductive RecoveryEligibility
  | terminal | recoverable
deriving DecidableEq

/-! ### Text checks -/

def validateBoundedText (name value : String) (max : Nat) : Except Error Unit := do
  rejectIf (value = "" ∨ trimSpace value ≠ value) (.text s!"{name} is required")
  rejectIf (len value > max) (.text s!"{name} exceeds {max} characters")
  rejectIf (hasControl value = true) (.text s!"{name} contains control characters")

def validateExecutionText (name value : String) : Except Error Unit :=
  validateBoundedText name value maxExecutionTextLength

def validateAdapterReference (value : String) : Except Error Unit :=
  validateBoundedText "adapter reference" value maxAdapterReferenceLength

def isReasonCharacter (c : Char) : Bool := isUpperLetter c || isDecimalDigit c || c == '_'

/-- The first byte is an ASCII letter, so the rest of the bytes are the rest of the characters. -/
def isReasonCode (value : String) : Bool :=
  2 ≤ len value && len value ≤ 64 &&
    match value.toList with
    | [] => false
    | first :: rest => isUpperLetter first && rest.all isReasonCharacter

def validateReasonCode (name value : String) : Except Error Unit :=
  rejectIf (isReasonCode value = false) (.text s!"{name} must be an uppercase safe reason code")

theorem validateBoundedText_ok {name value : String} {max : Nat} :
    validateBoundedText name value max = .ok () ↔
      value ≠ "" ∧ trimSpace value = value ∧ len value ≤ max ∧ hasControl value = false := by
  simp only [validateBoundedText, checks_ok, not_or, not_lt, Bool.not_eq_true, ne_eq, not_not, and_assoc]

theorem validateReasonCode_ok {name value : String} :
    validateReasonCode name value = .ok () ↔ isReasonCode value = true := by
  simp [validateReasonCode]

theorem isReasonCharacter_not_space {c : Char} (reason : isReasonCharacter c = true) :
    isSpace c = false := by
  simp only [isReasonCharacter, isUpperLetter, isDecimalDigit, Bool.or_eq_true, Bool.and_eq_true,
    decide_eq_true_eq, beq_iff_eq] at reason
  have bounds : 48 ≤ c.toNat ∧ c.toNat ≤ 95 := by
    rcases reason with (⟨lower, upper⟩ | ⟨lower, upper⟩) | rfl
    · have hA : 'A'.toNat = 65 := rfl
      have hZ : 'Z'.toNat = 90 := rfl
      omega
    · have h0 : '0'.toNat = 48 := rfl
      have h9 : '9'.toNat = 57 := rfl
      omega
    · decide
  simp only [isSpace, Bool.or_eq_false_iff, Bool.and_eq_false_iff, decide_eq_false_iff_not,
    beq_eq_false_iff_ne]
  omega

/-- A reason code carries no space, so trimming leaves it alone. -/
theorem trimSpace_of_isReasonCode {value : String} (reason : isReasonCode value = true) :
    trimSpace value = value := by
  apply trimSpace_of_no_space
  intro c member
  unfold isReasonCode at reason
  split at reason
  next empty => simp at reason
  next first rest chars =>
    simp only [Bool.and_eq_true, List.all_eq_true] at reason
    rw [chars] at member
    rcases List.mem_cons.mp member with rfl | tail
    · exact isReasonCharacter_not_space (by simp [isReasonCharacter, reason.2.1])
    · exact isReasonCharacter_not_space (reason.2.2 c tail)

theorem isReasonCode_ne_empty {value : String} (reason : isReasonCode value = true) : value ≠ "" := by
  rintro rfl
  exact absurd reason (by decide)

/-! ### Failure and recovery records -/

def validRecoveryTarget (source target : Option Status) : Bool :=
  match source with
  | some .queued | some .executing => target == some .executing
  | some .submitted | some .confirming => target == some .confirming
  | some .confirmed => target == some .confirmed
  | some .verified => target == some .verified
  | _ => false

structure Failure where
  code : String
  eligibility : Option RecoveryEligibility
  recoveryTarget : Option Status
deriving DecidableEq

/-- The zero `Failure` of an execution that never failed. -/
def Failure.zero : Failure := ⟨"", none, none⟩

def Failure.validate (f : Failure) (failedFrom : Option Status) : Except Error Unit := do
  validateReasonCode "failure code" f.code
  match f.eligibility with
  | none => .error (.text "invalid recovery eligibility \"\"")
  | some .terminal =>
    rejectIf (f.recoveryTarget ≠ none) (.text "terminal failure cannot have a recovery target")
  | some .recoverable =>
    rejectIf (validRecoveryTarget failedFrom f.recoveryTarget = false)
      (.text s!"recovery target {statusText f.recoveryTarget} is invalid after failure from {statusText failedFrom}")

/-- The failure ends the execution: nothing recovers it. -/
def failedForGood (status : Status) (failure : Failure) : Prop :=
  status = .failed ∧ failure.eligibility = some .terminal

structure Recovery where
  reasonCode : String
  fromStatus : Option Status
  target : Option Status
deriving DecidableEq

/-- The zero `Recovery` of an execution that never needed one. -/
def Recovery.zero : Recovery := ⟨"", none, none⟩

def Recovery.validate (r : Recovery) : Except Error Unit := do
  validateReasonCode "recovery reason code" r.reasonCode
  rejectIf (validRecoveryTarget r.fromStatus r.target = false)
    (.text s!"recovery target {statusText r.target} is invalid from {statusText r.fromStatus}")

end WizPay.Exec
