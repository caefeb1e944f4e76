import WizPay.Approvals.Approval
import WizPay.Autonomy.Controls

/-!
# Updates of an occurrence and their answers

`BlockAutonomyOccurrence` and `BindAutonomyApproval` address an occurrence by its fence and its owner, whatever its
status is, and do not look at the number of rows that they have changed.
-/
namespace WizPay.Services

open Checks Autonomy Storage

/-- `RequestForOccurrence`; `requested` is the answer of `Request`, which leaves the autonomy tables alone. -/
def requestForOccurrence (requested : Except Error Approvals.Approval) (t : AutonomyTables) (scope : Scope)
    (occurrence : Occurrence) : Answer Approvals.Approval :=
  if occurrence.intentID = "" then (.error (.text "step-up occurrence binding is not configured"), t)
  else
    match requested with
    | .error e => (.error e, t)
    | .ok approval =>
      let bound := bindAutonomyApproval t scope occurrence approval.approvalID
      (bound.1.map fun _ => approval, bound.2)

section Updates

variable (t : AutonomyTables) (scope : Scope) (value : Occurrence)

/-- The stored row of an occurrence. -/
def storedOccurrence (id : String) : Option OccurrenceRow :=
  Table.lookup OccurrenceRow.id (scope.tenantID, id) t.occurrences

/-- The occurrence is past its claim. -/
def Settled (row : OccurrenceRow) : Prop :=
  row.status = .dispatched ∨ row.status = .completed ∨ row.status = .reconcile

/-- A success means that the update took place while the occurrence was claimed under the fence, or had taken place,
and a settled occurrence stays as it is. -/
structure Truthful (wanted : OccurrenceRow → Prop) (answer : Answer Unit) : Prop where
  reported : answer.1 = .ok () → ∃ row after, storedOccurrence t scope value.id = some row ∧
    storedOccurrence answer.2 scope value.id = some after ∧ wanted after ∧
    (row.status = .claimed ∧ row.fence = value.fence ∨ wanted row)
  kept : ∀ row, storedOccurrence t scope value.id = some row → Settled row →
    storedOccurrence answer.2 scope value.id = some row

/-- The row has what is wanted, or is claimed and addressed by the update. -/
def Addressed (target wanted : OccurrenceRow → Prop) : Prop :=
  ∃ row, storedOccurrence t scope value.id = some row ∧ (wanted row ∨ target row ∧ row.status = .claimed)

variable {t scope value}

/-- An update that fails changes nothing, and one that succeeds changes the rows that it addresses. -/
structure Updates (target : OccurrenceRow → Bool) (change : OccurrenceRow → OccurrenceRow) (answer : Answer Unit) :
    Prop where
  refused : answer.1 ≠ .ok () → answer.2 = t
  done : answer.1 = .ok () →
    answer.2 = { t with occurrences := t.occurrences.map fun row => if target row then change row else row }

theorem stored_map {change : OccurrenceRow → OccurrenceRow} (keys : ∀ row, (change row).id = row.id) (id : String) :
    storedOccurrence { t with occurrences := t.occurrences.map change } scope id =
      (storedOccurrence t scope id).map change := by
  simp only [storedOccurrence, Table.lookup, List.find?_map, Function.comp_def, keys]

theorem truthful_iff {target : OccurrenceRow → Bool} {change : OccurrenceRow → OccurrenceRow}
    {wanted : OccurrenceRow → Prop} {answer : Answer Unit} (updates : Updates (t := t) target change answer)
    (keys : ∀ row, (change row).id = row.id) (fenced : ∀ row, target row = true → row.fence = value.fence)
    (takes : ∀ row, wanted (change row)) (apart : ∀ row, wanted row → target row = true → ¬ Settled row) :
    Truthful t scope value wanted answer ↔ answer.1 ≠ .ok () ∨ Addressed t scope value (target · = true) wanted := by
  by_cases succeeded : answer.1 = .ok ()
  · have found (row : OccurrenceRow) (stored : storedOccurrence t scope value.id = some row) :
        storedOccurrence answer.2 scope value.id = some (if target row then change row else row) := by
      rw [updates.done succeeded, stored_map (fun row => by split <;> simp [keys]), stored, Option.map_some]
    constructor
    · intro truthful
      obtain ⟨row, after, stored, stored', holds, reason⟩ := truthful.reported succeeded
      rw [found row stored, Option.some.injEq] at stored'
      refine .inr ⟨row, stored, ?_⟩
      rcases reason with ⟨claimed, -⟩ | had
      · split at stored'
        next addressed => exact .inr ⟨addressed, claimed⟩
        next => exact .inl (stored' ▸ holds)
      · exact .inl had
    · rintro (failed | ⟨row, stored, reason⟩)
      · exact absurd succeeded failed
      · refine ⟨fun _ => ⟨row, _, stored, found row stored, ?_, ?_⟩, fun other isRow settled => ?_⟩
        · rcases reason with had | ⟨addressed, -⟩
          · split
            · exact takes row
            · exact had
          · rw [if_pos addressed]
            exact takes row
        · exact reason.symm.imp (fun ⟨addressed, claimed⟩ => ⟨claimed, fenced row addressed⟩) id
        · cases stored.symm.trans isRow
          rw [found row stored, if_neg]
          intro addressed
          rcases reason with had | ⟨-, claimed⟩
          · exact apart row had addressed settled
          · simp [Settled, claimed] at settled
  · refine iff_of_true ⟨fun done => absurd done succeeded, fun row stored _ => ?_⟩ (.inl succeeded)
    rw [updates.refused succeeded, stored]

theorem block_updates (reason : ReasonCode) : Updates (t := t) (addresses t scope value)
    (fun row => { row with status := .blocked, reasonCode := some reason, leaseOwner := none, leaseUntil := none })
    (blockAutonomyOccurrence t scope value reason) := by
  unfold blockAutonomyOccurrence
  repeat' split
  all_goals exact ⟨by simp, by simp⟩

theorem bind_updates (approvalID : String) : Updates (t := t) (fun row => addresses t scope value row && row.approvalID = none)
    (fun row => { row with approvalID := some approvalID, status := .approvalRequired })
    (bindAutonomyApproval t scope value approvalID) := by
  unfold bindAutonomyApproval
  dsimp only
  split
  all_goals exact ⟨by simp, by simp⟩

/-- An approval is returned once it was bound. -/
theorem request_binds {requested : Except Error Approvals.Approval} {approval : Approvals.Approval}
    (returned : (requestForOccurrence requested t scope value).1 = .ok approval) :
    (bindAutonomyApproval t scope value approval.approvalID).1 = .ok () ∧
      (requestForOccurrence requested t scope value).2 = (bindAutonomyApproval t scope value approval.approvalID).2 := by
  unfold requestForOccurrence at returned ⊢
  split at returned
  · cases returned
  next named =>
    rw [if_neg named]
    cases requested with
    | error e => cases returned
    | ok found =>
      obtain ⟨_, bound, rfl⟩ := map_ok.mp returned
      exact ⟨bound, rfl⟩

theorem fence_of_addresses {row : OccurrenceRow} (addressed : addresses t scope value row = true) : row.fence = value.fence := by
  simp only [addresses, Bool.and_eq_true, decide_eq_true_eq] at addressed
  exact addressed.1.2

/-- **Updates of an occurrence report the truth** if and only if they fail, the occurrence is claimed and they address
it, or it is already as wanted. An approval is returned for the occurrence it is bound to if and only if none is
returned, the occurrence is addressed and has no approval, or it has this one. -/
theorem occurrence_updates_truthful_iff (t : AutonomyTables) (scope : Scope) (value : Occurrence) (reason : ReasonCode)
    (approvalID : String) (requested : Except Error Approvals.Approval) :
    (Truthful t scope value (fun row => row.status = .blocked ∧ row.reasonCode = some reason)
        (blockAutonomyOccurrence t scope value reason) ↔
      (blockAutonomyOccurrence t scope value reason).1 ≠ .ok () ∨ Addressed t scope value (addresses t scope value · = true)
        fun row => row.status = .blocked ∧ row.reasonCode = some reason) ∧
    (Truthful t scope value (fun row => row.approvalID = some approvalID) (bindAutonomyApproval t scope value approvalID) ↔
      (bindAutonomyApproval t scope value approvalID).1 ≠ .ok () ∨ Addressed t scope value
        (fun row => (addresses t scope value row && row.approvalID = none) = true) fun row => row.approvalID = some approvalID) ∧
    ((∀ approval, (requestForOccurrence requested t scope value).1 = .ok approval → ∃ row,
        storedOccurrence (requestForOccurrence requested t scope value).2 scope value.id = some row ∧
          row.approvalID = some approval.approvalID) ↔
      ∀ approval, (requestForOccurrence requested t scope value).1 = .ok approval → ∃ row,
        storedOccurrence t scope value.id = some row ∧
          (addresses t scope value row = true ∧ row.approvalID = none ∨ row.approvalID = some approval.approvalID)) := by
  refine ⟨?_, ?_, ?_⟩
  · exact truthful_iff (block_updates reason) (fun _ => rfl) (fun _ => fence_of_addresses) (fun _ => ⟨rfl, rfl⟩)
      fun row had _ settled => by simp [Settled, had.1] at settled
  · refine truthful_iff (bind_updates approvalID) (fun _ => rfl) (fun row addressed => ?_) (fun _ => rfl) fun row had bound _ => ?_
    · exact fence_of_addresses (Bool.and_eq_true_iff.mp addressed).1
    · simp [had] at bound
  · refine forall₂_congr fun approval returned => ?_
    obtain ⟨bound, after⟩ := request_binds returned
    rw [after, (bind_updates _).done bound, stored_map fun row => by split <;> rfl]
    cases storedOccurrence t scope value.id with
    | none => simp
    | some row =>
      by_cases addressed : addresses t scope value row = true ∧ row.approvalID = none
      · simp [addressed]
      · simp [addressed]

end Updates

/-- A completed occurrence of the daily schedule under its first fence. -/
def completedRow : OccurrenceRow := { firstOccurrence .completed with occurrenceID := "o", fence := 1 }

/-- It is blocked by a worker that has the fence. -/
theorem completed_occurrence_blocked :
    ¬ Truthful { dailyTables .completed with occurrences := [completedRow] } ownerScope
      { newOccurrence dailySchedule 1000 1000 with id := "o", fence := 1 }
      (fun row => row.status = .blocked ∧ row.reasonCode = some .overlap)
      (blockAutonomyOccurrence { dailyTables .completed with occurrences := [completedRow] } ownerScope
        { newOccurrence dailySchedule 1000 1000 with id := "o", fence := 1 } .overlap) := by
  intro truthful
  have kept := truthful.kept completedRow rfl (.inr (.inl rfl))
  exact absurd (congrArg (Option.map OccurrenceRow.status) kept) (by decide +kernel)

end WizPay.Services
