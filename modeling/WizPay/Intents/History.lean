import WizPay.Approvals.Approval
import WizPay.Intents.Lifecycle

/-!
# Histories of one intent

Any sequence of `ReviseDraft`, `Transition` and `Approve` with any arguments. Two
statements hold for the operations in `Regular` only: `ReviseDraft` counts past the last
revision, and `EnsureAuthorizes` does not look at the time of the approval.
-/
namespace WizPay.Intents.Intent

open Checks History Approvals

inductive Operation
  | reviseDraft (params : Params)
  | transition (status : Status) (time : Int)
  | approve (artifact : Option Approval) (time : Int)
deriving DecidableEq

def act (i : Intent) : Operation → Except Error Intent
  | .reviseDraft params => i.reviseDraft params
  | .transition status time => i.transition status time
  | .approve artifact time => i.approve (artifact.map Approval.ensureAuthorizes) time

/-- The ways in which an operation changes an intent. -/
inductive Change (i : Intent) : Operation → Intent → Prop
  | revise {params : Params} (draft : i.status = .draft) (valid : (normalizeCreation params).validate = .ok ()) :
      Change i (.reviseDraft params) ⟨normalizeCreation params, .draft, "", nextRevision i.lifecycleRevision⟩
  | enter {status : Status} {time : Int} (other : status ≠ .approved) (allowed : validTransition i.status status = .ok ())
      (valid : (i.entering status).validate = .ok ()) :
      Change i (.transition status time) (i.entering status)
  | approve {artifact : Approval} {time : Int} (waiting : i.status = .approvalRequired)
      (authorized : artifact.ensureAuthorizes i time = .ok ()) (valid : (i.entering .approved).validate = .ok ()) :
      Change i (.approve (some artifact) time) (i.entering .approved)

variable {i next : Intent} {operation : Operation}

theorem act_ok (done : i.act operation = .ok next) : next = i ∨ i.Change operation next := by
  cases operation with
  | reviseDraft params =>
    obtain ⟨-, valid, ⟨-, same⟩ | ⟨draft, rfl⟩⟩ := reviseDraft_ok done
    · exact .inl same
    · exact .inr (.revise draft valid)
  | transition status time =>
    obtain ⟨-, same | ⟨-, other, allowed, -, -, rfl, valid⟩⟩ := transition_ok done
    · exact .inl same
    · exact .inr (.enter other allowed valid)
  | approve artifact time =>
    obtain ⟨-, -, -, -, ⟨ensure, given, authorized⟩, ⟨-, same⟩ | ⟨waiting, rfl, valid⟩⟩ := approve_ok done
    · exact .inl same
    · obtain ⟨approval, rfl, rfl⟩ := Option.map_eq_some_iff.mp given
      exact .inr (.approve waiting authorized valid)

theorem after_change (changed : after act i operation ≠ i) : i.Change operation (after act i operation) := by
  rcases after_cases act i operation with same | done
  · exact absurd same changed
  · exact (act_ok done).resolve_left changed

/-! ### What every history keeps -/

theorem entering_frozen {status : Status} (left : i.status ≠ .draft) (allowed : status = .created ↔ i.status = .draft) :
    (i.entering status).digest = i.digest := by
  have other : status ≠ .created := fun created => left (allowed.mp created)
  simp [entering, other]

/-- The material, the version and the digest of an intent that has left DRAFT. -/
theorem run_frozen (left : i.status ≠ .draft) (operations : List Operation) :
    (run act i operations).params = i.params ∧ (run act i operations).digest = i.digest ∧
      (run act i operations).status ≠ .draft := by
  refine run_keeps (P := fun j : Intent => j.params = i.params ∧ j.digest = i.digest ∧ j.status ≠ .draft)
    ⟨rfl, rfl, left⟩ ?_ operations
  rintro value operation next ⟨params, digest, frozen⟩ done
  rcases act_ok done with rfl | change
  · exact ⟨params, digest, frozen⟩
  · cases change with
    | revise draft => exact absurd draft frozen
    | enter other allowed =>
      obtain ⟨-, running, created⟩ := validTransition_ok allowed
      exact ⟨params, (entering_frozen frozen created).trans digest, running⟩
    | approve waiting =>
      exact ⟨params, (entering_frozen frozen (by simp [waiting])).trans digest, by simp [entering]⟩

/-- EXPIRED and CANCELLED are never left. -/
theorem run_terminal (ended : i.status.terminal = true) (operations : List Operation) : run act i operations = i := by
  refine run_keeps (P := fun j => j = i) rfl ?_ operations
  rintro value operation next rfl done
  rcases act_ok done with same | change
  · exact same
  · exfalso
    cases change with
    | revise draft => simp [draft, Status.terminal] at ended
    | enter other allowed => simp [(validTransition_ok allowed).1] at ended
    | approve waiting => simp [waiting, Status.terminal] at ended

/-- A revision is a `uint64`. -/
theorem run_revision_lt (fits : i.lifecycleRevision < 2 ^ 64) (operations : List Operation) :
    (run act i operations).lifecycleRevision < 2 ^ 64 := by
  refine run_keeps (P := fun j : Intent => j.lifecycleRevision < 2 ^ 64) fits ?_ operations
  intro value operation next before done
  rcases act_ok done with rfl | change
  · exact before
  · cases change <;> exact Nat.mod_lt _ (by decide)

/-! ### What an operation may break -/

/-- The two laws of one operation: an effective one counts one revision, and APPROVED takes an artifact of this very
intent that is in force at the time of the call. -/
structure Lawful (i : Intent) (operation : Operation) : Prop where
  counted : after act i operation ≠ i → (after act i operation).lifecycleRevision = i.lifecycleRevision + 1
  authorized : i.status ≠ .approved → (after act i operation).status = .approved →
    ∃ artifact time, operation = .approve (some artifact) time ∧ artifact.Matches i ∧ artifact.EffectiveAt time

/-- The arguments with which an effective operation keeps the laws. -/
def Regular (i : Intent) : Operation → Prop
  | .reviseDraft _ => i.lifecycleRevision ≠ 2 ^ 64 - 1
  | .approve (some artifact) time => artifact.decidedAt ≤ time
  | _ => True

theorem nextRevision_eq {revision : Nat} (fits : revision < 2 ^ 64) :
    nextRevision revision = revision + 1 ↔ revision ≠ 2 ^ 64 - 1 := by
  simp only [nextRevision]
  omega

/-- `Validate` refuses revision zero, so a counted and validated revision has not wrapped. -/
theorem entering_revision {status : Status} (fits : i.lifecycleRevision < 2 ^ 64)
    (valid : (i.entering status).validate = .ok ()) :
    (i.entering status).lifecycleRevision = i.lifecycleRevision + 1 := by
  simp only [Intent.validate, checks_ok] at valid
  have counted : nextRevision i.lifecycleRevision ≠ 0 := valid.2.2.1
  simp only [entering, nextRevision] at counted ⊢
  omega

theorem lawful_iff (fits : i.lifecycleRevision < 2 ^ 64) :
    i.Lawful operation ↔ (after act i operation ≠ i → i.Regular operation) := by
  by_cases changed : after act i operation = i
  · -- an operation that fails or changes nothing enters no status
    refine iff_of_true ⟨fun other => absurd changed other, fun other entered => ?_⟩ (fun other => absurd changed other)
    exact absurd (changed ▸ entered) other
  simp only [ne_eq, changed, not_false_iff, true_imp_iff]
  have change := after_change changed
  generalize result : after act i operation = next at change changed
  cases change with
  | @revise params draft =>
    have count : (after act i (.reviseDraft params)).lifecycleRevision = nextRevision i.lifecycleRevision := by rw [result]
    constructor
    · intro lawful
      have counted := lawful.counted (by rwa [result])
      exact (nextRevision_eq fits).mp (count.symm.trans counted)
    · intro regular
      refine ⟨fun _ => count.trans ((nextRevision_eq fits).mpr regular), fun _ entered => ?_⟩
      simp [result] at entered
  | enter other allowed valid =>
    refine iff_of_true ⟨fun _ => ?_, fun _ entered => ?_⟩ trivial
    · rw [result]
      exact entering_revision fits valid
    · rw [result] at entered
      exact absurd entered other
  | @approve artifact time waiting authorized valid =>
    obtain ⟨-, -, matched, -, timely, granted⟩ := Approval.ensureAuthorizes_ok.mp authorized
    constructor
    · intro lawful
      obtain ⟨_, _, same, -, effective⟩ := lawful.authorized (by simp [waiting]) (by simp [result, entering])
      cases same
      exact effective.2.1
    · intro regular
      refine ⟨fun _ => ?_, fun _ _ => ⟨artifact, time, rfl, matched, granted, regular, timely⟩⟩
      rw [result]
      exact entering_revision fits valid

/-! ### Whole histories -/

/-- In every history the frozen material and the ended statuses stay, and every step keeps the two laws exactly when
every effective step is regular. -/
theorem intent_history (i : Intent) (fits : i.lifecycleRevision < 2 ^ 64) (earlier later : List Operation) :
    let middle := run act i earlier
    let last := run act middle later
    (middle.status ≠ .draft → last.params = middle.params ∧ last.digest = middle.digest) ∧
      (middle.status.terminal = true → last = middle) ∧
      ((∀ part operation, part ++ [operation] <+: earlier → (run act i part).Lawful operation) ↔
        ∀ part operation, part ++ [operation] <+: earlier →
          after act (run act i part) operation ≠ run act i part → (run act i part).Regular operation) := by
  intro middle last
  refine ⟨fun left => ?_, fun ended => run_terminal ended later, ?_⟩
  · obtain ⟨params, digest, -⟩ := run_frozen left later
    exact ⟨params, digest⟩
  · apply forall_congr'
    intro part
    apply forall_congr'
    intro operation
    apply imp_congr_right
    intro _
    exact lawful_iff (run_revision_lt fits part)

/-- A cancelled transfer keeps the material that its owner saw. -/
theorem intent_history_cancelled :
    let operations := [.transition .cancelled (sampleSend.createdAt + GoTime.second), .reviseDraft sampleSend]
    (run act sampleSend.awaitingApproval operations).params = sampleSend ∧
      (run act sampleSend.awaitingApproval operations).digest = digestBytes (canonicalMaterial sampleSend) := by
  intro operations
  exact (intent_history sampleSend.awaitingApproval (by decide) [] operations).1 (by decide)

/-- The sample approval, given a minute after its creation. -/
def sampleApproved : Approval :=
  { sampleApproval with
    status := .approved, decision := .approved, decidedAt := sampleApproval.createdAt + 60 * GoTime.second,
    lifecycleRevision := 2 }

theorem sampleApproved_valid : sampleApproved.Valid :=
  { sampleApproval_valid with
    lifecycleRevision := by decide
    consistent := ⟨rfl, by decide, rfl, rfl, rfl⟩ }

def sampleLastDraft : Intent := ⟨sampleSend, .draft, "", 2 ^ 64 - 1⟩

theorem sampleLastDraft_valid : sampleLastDraft.validate = .ok () := by
  simp [Intent.validate, sampleLastDraft, sampleSend_valid, Status.valid]

/-- An intent is approved half a minute before its approval was given, and the last revision of a draft is followed
by revision zero. -/
theorem approved_before_decision :
    (sampleSend.awaitingApproval.approve (some sampleApproved.ensureAuthorizes)
        (sampleApproval.createdAt + 30 * GoTime.second) = .ok (sampleSend.frozen .approved 4) ∧
      ¬ sampleApproved.EffectiveAt (sampleApproval.createdAt + 30 * GoTime.second)) ∧
    (sampleLastDraft.validate = .ok () ∧ sampleLastDraft.reviseDraft sampleSend = .ok ⟨sampleSend, .draft, "", 0⟩) := by
  refine ⟨⟨?_, ?_⟩, ?_, ?_⟩
  · have valid := Params.awaitingApproval_valid sampleSend_valid
    have authorized : sampleApproved.ensureAuthorizes sampleSend.awaitingApproval
        (sampleApproval.createdAt + 30 * GoTime.second) = .ok () :=
      Approval.ensureAuthorizes_ok.mpr ⟨sampleApproved_valid, valid, ⟨rfl, rfl, rfl, rfl, rfl, rfl, rfl, rfl, rfl⟩,
        by decide, by decide, .inl rfl⟩
    have checked : (sampleSend.awaitingApproval.entering .approved).validate = .ok () :=
      Params.frozen_valid sampleSend_valid rfl (by decide) (by decide)
    simp only [approve, checks_ok, valid, authorized, true_and]
    refine ⟨by decide, by decide, by decide, ?_⟩
    rw [if_neg (by decide)]
    exact guard_ok.mpr ⟨checked, rfl⟩
  · exact fun effective => absurd effective.2.1 (by decide)
  · exact sampleLastDraft_valid
  · simp only [reviseDraft, checks_ok, sampleLastDraft_valid, normalizeCreation_sampleSend, sampleSend_valid,
    true_and]
    exact ⟨by decide, rfl⟩

end WizPay.Intents.Intent
