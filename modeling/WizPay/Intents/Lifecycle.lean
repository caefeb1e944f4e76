import WizPay.Intents.Intent

/-!
# The intent lifecycle

`internal/intents/lifecycle.go`. Leaving DRAFT freezes the material and assigns
the digest; APPROVED is entered through an approval artifact only.
-/
namespace WizPay.Intents

open Checks GoTime

/-- The method of `ApprovalArtifact`; a nil artifact is `none`. -/
abbrev ApprovalArtifact := Intent → Int → Except Error Unit

def validTransition (current next : Status) : Except Error Unit :=
  let allowed :=
    match current with
    | .draft => next == .created
    | .created => next == .approvalRequired || next == .cancelled || next == .expired
    | .approvalRequired => next == .cancelled || next == .expired
    | .approved => next == .readyForExecution || next == .cancelled || next == .expired
    | .readyForExecution => next == .cancelled || next == .expired
    | _ => false
  rejectIf (allowed = false) (.text s!"transition from {current.text} to {next.text} is not allowed")

def intentExpired : Error := .app .intentExpired "Intent has expired." false true true

namespace Intent

/-- The value that a transition to `next` makes: CREATED assigns the digest. -/
def entering (i : Intent) (next : Status) : Intent :=
  { i with
    status := next, lifecycleRevision := nextRevision i.lifecycleRevision,
    digest := if next = .created then digestBytes (canonicalMaterial i.params) else i.digest }

def transition (i : Intent) (next : Status) (time : Int) : Except Error Intent := do
  i.validate
  if next = i.status then
    pure i
  else
    rejectIf (next = .approved)
      (.app .approvalRequired "Explicit matching approval is required." false true false)
    rejectIf (isZero time = true ∨ time < i.params.createdAt) (validationError "Intent transition time is invalid.")
    (validTransition i.status next).mapError
      (.wrap .validationError "Intent lifecycle transition is invalid." false true true)
    if next = .expired then
      rejectIf (time < i.params.expiresAt)
        (.app .validationError "Intent has not reached its expiration time." false true false)
    else
      rejectIf (¬ time < i.params.expiresAt) intentExpired
    (i.entering next).validate
    pure (i.entering next)

def approve (i : Intent) (artifact : Option ApprovalArtifact) (time : Int) : Except Error Intent := do
  i.validate
  rejectIf (i.status ≠ .approvalRequired ∧ i.status ≠ .approved)
    (validationError "Intent is not awaiting approval.")
  match artifact with
  | none => .error (.app .approvalRequired "Explicit matching approval is required." false true false)
  | some ensureAuthorizes => do
    rejectIf (isZero time = true ∨ time < i.params.createdAt) (validationError "Intent approval time is invalid.")
    rejectIf (¬ time < i.params.expiresAt) intentExpired
    ensureAuthorizes i time
    if i.status = .approved then
      pure i
    else
      (i.entering .approved).validate
      pure (i.entering .approved)

/-! ### What an operation can do -/

variable {i next : Intent} {time : Int}

theorem transition_ok {status : Status} (done : i.transition status time = .ok next) :
    i.validate = .ok () ∧ (next = i ∨
      (status ≠ i.status ∧ status ≠ .approved ∧ validTransition i.status status = .ok () ∧
        i.params.createdAt ≤ time ∧ (if status = .expired then i.params.expiresAt ≤ time else time < i.params.expiresAt) ∧
        next = i.entering status ∧ next.validate = .ok ())) := by
  simp only [transition, guard_ok] at done
  obtain ⟨valid, done⟩ := done
  refine ⟨valid, ?_⟩
  split at done
  next => exact .inl (pure_ok.mp done).symm
  next other =>
    simp only [checks_ok, not_or, Int.not_lt] at done
    obtain ⟨explicit, ⟨-, started⟩, allowed, done⟩ := done
    refine .inr ⟨other, explicit, allowed, started, ?_⟩
    split at done
    next expired =>
      simp only [checks_ok, pure_ok, Int.not_lt] at done
      obtain ⟨late, checked, rfl⟩ := done
      exact ⟨by rwa [if_pos expired], rfl, checked⟩
    next running =>
      simp only [checks_ok, pure_ok, Int.not_le] at done
      obtain ⟨timely, checked, rfl⟩ := done
      exact ⟨by rwa [if_neg running], rfl, checked⟩

theorem approve_ok {artifact : Option ApprovalArtifact} (done : i.approve artifact time = .ok next) :
    i.validate = .ok () ∧ (i.status = .approvalRequired ∨ i.status = .approved) ∧
      i.params.createdAt ≤ time ∧ time < i.params.expiresAt ∧
      (∃ ensureAuthorizes, artifact = some ensureAuthorizes ∧ ensureAuthorizes i time = .ok ()) ∧
      ((i.status = .approved ∧ next = i) ∨
        (i.status = .approvalRequired ∧ next = i.entering .approved ∧ next.validate = .ok ())) := by
  simp only [approve, checks_ok, not_and_or, ne_eq, not_not] at done
  obtain ⟨valid, status, done⟩ := done
  cases artifact with
  | none => simp at done
  | some ensureAuthorizes =>
    simp only [checks_ok, not_or, Int.not_lt, Int.not_le] at done
    obtain ⟨⟨-, started⟩, timely, authorized, done⟩ := done
    refine ⟨valid, status, started, timely, ⟨_, rfl, authorized⟩, ?_⟩
    split at done
    next approved => exact .inl ⟨approved, (pure_ok.mp done).symm⟩
    next other =>
      simp only [guard_ok, pure_ok] at done
      obtain ⟨checked, rfl⟩ := done
      exact .inr ⟨status.resolve_right other, rfl, checked⟩

theorem reviseDraft_ok {params : Params} (done : i.reviseDraft params = .ok next) :
    i.validate = .ok () ∧ (normalizeCreation params).validate = .ok () ∧
      ((i.status ≠ .draft ∧ next = i) ∨
        (i.status = .draft ∧ next = ⟨normalizeCreation params, .draft, "", nextRevision i.lifecycleRevision⟩)) := by
  simp only [reviseDraft, checks_ok] at done
  obtain ⟨valid, checked, -, done⟩ := done
  refine ⟨valid, checked, ?_⟩
  split at done
  next draft => exact .inr ⟨draft, (pure_ok.mp done).symm⟩
  next frozen =>
    split at done
    next => exact .inl ⟨frozen, (pure_ok.mp done).symm⟩
    next => simp at done

theorem validTransition_ok {current status : Status} (allowed : validTransition current status = .ok ()) :
    current.terminal = false ∧ status ≠ .draft ∧ (status = .created ↔ current = .draft) := by
  simp only [validTransition, rejectIf_ok] at allowed
  cases current <;> cases status <;> simp_all [Status.terminal]

end Intent

end WizPay.Intents
