import WizPay.Runtime.Sightings

/-!
# Completion needs verified evidence

A worker decides on a copy of the row that may be stale by the time it writes; the
revision check of the update makes the copy binding, since no revision is ever used for
two statuses. `execution_revisions` is the ledger of the statuses.
-/
namespace WizPay.Runtime

open Checks Exec Storage Threads

/-- `execution_revisions` has execution `k` with this status at revision `n`. -/
def Recorded (t : ExecutionTables) (k : Key) (n : Nat) (status : Status) : Prop :=
  ∃ v ∈ t.revisions, v.key = k ∧ v.revision = n ∧ v.status = status

structure Ledger (t : ExecutionTables) : Prop where
  steady : ∀ e ∈ t.executions, Steady e.failure e.recovery
  current : ∀ e ∈ t.executions, Recorded t e.key e.revision e.status
  single : ∀ k n a b, Recorded t k n a → Recorded t k n b → a = b
  evidence : ∀ v ∈ t.evidence, Recorded t v.key v.executionVersion v.status
  completed : ∀ k n, Recorded t k n .completed → ∃ m, n = m + 1 ∧ Recorded t k m .verified

variable {t mid after : ExecutionTables} {k : Key} {n : Nat} {status : Status}

/-- The two stores hold the same executions, revisions and evidence. -/
structure SameBooks (t after : ExecutionTables) : Prop where
  executions : after.executions = t.executions
  revisions : after.revisions = t.revisions
  evidence : after.evidence = t.evidence

theorem SameBooks.recorded (same : SameBooks t after) : Recorded after k n status ↔ Recorded t k n status := by
  simp only [Recorded, same.revisions]

theorem SameBooks.ledger (same : SameBooks t after) (ledger : Ledger t) : Ledger after where
  steady := by
    rw [same.executions]
    exact ledger.steady
  current := by
    intro e member
    rw [same.executions] at member
    exact same.recorded.mpr (ledger.current e member)
  single := by
    intro k n a b first second
    exact ledger.single k n a b (same.recorded.mp first) (same.recorded.mp second)
  evidence := by
    intro v member
    rw [same.evidence] at member
    exact same.recorded.mpr (ledger.evidence v member)
  completed := by
    intro k n completed
    obtain ⟨m, next, verified⟩ := ledger.completed k n (same.recorded.mp completed)
    exact ⟨m, next, same.recorded.mpr verified⟩

theorem recorded_append {v : RevisionRow} (appended : after.revisions = t.revisions ++ [v]) :
    Recorded after k n status ↔ Recorded t k n status ∨ (v.key = k ∧ v.revision = n ∧ v.status = status) := by
  simp only [Recorded, appended, List.mem_append, List.mem_singleton]
  constructor
  · rintro ⟨row, old | rfl, facts⟩
    · exact .inl ⟨row, old, facts⟩
    · exact .inr facts
  · rintro (⟨row, old, facts⟩ | facts)
    · exact ⟨row, .inl old, facts⟩
    · exact ⟨v, .inr rfl, facts⟩

variable {e : ExecutionRow} {u : ExecutionUpdate} {p : EvidenceParams} {inserted : Nat} {call : Call}

/-- The primary key of `execution_revisions`: a new row is for a new revision. -/
theorem preserveRevision_fresh (preserved : preserveRevision e t = .ok after) :
    after = { t with revisions := t.revisions ++ [⟨e.tenantID, e.executionID, e.revision, e.status, e.updatedAt⟩] } ∧
      ∀ status, ¬ Recorded t e.key e.revision status := by
  simp only [preserveRevision, checks_ok, pure_ok, List.any_eq_true, Bool.and_eq_true, beq_iff_eq, not_exists,
    not_and] at preserved
  obtain ⟨fresh, rfl⟩ := preserved
  refine ⟨rfl, ?_⟩
  rintro status ⟨v, member, key, revision, _⟩
  exact fresh v member ⟨congrArg Prod.fst key, congrArg Prod.snd key⟩ revision

theorem updateExecution_fresh (updated : updateExecution u t = .ok mid) :
    ∀ status, ¬ Recorded t u.key u.revision status := by
  unfold updateExecution at updated
  split at updated
  next e found =>
    split at updated
    next =>
      have key : e.key = u.key := (Table.lookup_some found).1
      have fresh := (preserveRevision_fresh updated).2
      rw [show (u.apply e).key = u.key from key] at fresh
      exact fresh
    next => cases updated
  next => cases updated

theorem updateExecution_recorded (updated : updateExecution u t = .ok mid) :
    Recorded mid k n status ↔ Recorded t k n status ∨ (u.key = k ∧ u.revision = n ∧ u.status = status) := by
  obtain ⟨e, found, _, _, _, rfl⟩ := updateExecution_ok updated
  have key : e.key = u.key := (Table.lookup_some found).1
  rw [← key]
  exact recorded_append (t := t) (v := ⟨e.tenantID, e.executionID, u.revision, u.status, u.updatedAt⟩) rfl

theorem Ledger.record {v : RevisionRow} (ledger : Ledger t) (revisions : after.revisions = t.revisions ++ [v])
    (evidence : after.evidence = t.evidence) (fresh : ∀ status, ¬ Recorded t v.key v.revision status)
    (rows : ∀ e ∈ after.executions, e ∈ t.executions ∨
      (Steady e.failure e.recovery ∧ v.key = e.key ∧ v.revision = e.revision ∧ v.status = e.status))
    (completes : v.status = .completed → ∃ m, v.revision = m + 1 ∧ Recorded t v.key m .verified) : Ledger after := by
  have recorded {k n status} := @recorded_append t after k n status v revisions
  constructor
  case steady =>
    intro e member
    rcases rows e member with old | new
    · exact ledger.steady e old
    · exact new.1
  case current =>
    intro e member
    rcases rows e member with old | new
    · exact recorded.mpr (.inl (ledger.current e old))
    · exact recorded.mpr (.inr new.2)
  case single =>
    intro k n a b first second
    rcases recorded.mp first with first | ⟨rfl, rfl, rfl⟩
    · rcases recorded.mp second with second | ⟨rfl, rfl, rfl⟩
      · exact ledger.single k n a b first second
      · exact absurd first (fresh a)
    · rcases recorded.mp second with second | ⟨_, _, rfl⟩
      · exact absurd second (fresh b)
      · rfl
  case evidence =>
    intro row member
    rw [evidence] at member
    exact recorded.mpr (.inl (ledger.evidence row member))
  case completed =>
    intro k n done
    rcases recorded.mp done with old | ⟨rfl, rfl, final⟩
    · obtain ⟨m, rfl, verified⟩ := ledger.completed k n old
      exact ⟨m, rfl, recorded.mpr (.inl verified)⟩
    · obtain ⟨m, next, verified⟩ := completes final
      exact ⟨m, next, recorded.mpr (.inl verified)⟩

theorem Ledger.update (ledger : Ledger t) (updated : updateExecution u t = .ok mid)
    (steady : Steady u.failure u.recovery)
    (completes : u.status = .completed → Recorded t u.key u.expected .verified) : Ledger mid := by
  have fresh := updateExecution_fresh updated
  obtain ⟨e, found, _, next, _, rfl⟩ := updateExecution_ok updated
  have key : e.key = u.key := (Table.lookup_some found).1
  rw [← key] at fresh completes
  refine ledger.record rfl rfl fresh (fun row member => ?_) fun final => ⟨u.expected, next, completes final⟩
  obtain ⟨old, stored, rfl⟩ := List.mem_map.mp member
  split
  next same => exact .inr ⟨steady, key.trans same.symm, rfl, rfl⟩
  next => exact .inl stored

theorem Ledger.append (ledger : Ledger t) (appended : appendVerificationEvidence p t = .ok (inserted, after)) : Ledger after := by
  rcases appendVerificationEvidence_ok appended with ⟨_, _, rfl⟩ | ⟨_, selected, _, rfl⟩
  · exact ledger
  · refine ⟨ledger.steady, ledger.current, ledger.single, ?_, ledger.completed⟩
    intro v member
    rcases List.mem_append.mp member with old | new
    · exact ledger.evidence v old
    · -- the insert selects the execution at that revision and status
      obtain rfl := List.mem_singleton.mp new
      unfold EvidenceParams.selects at selected
      split at selected
      next e found =>
        simp only [Bool.and_eq_true, beq_iff_eq] at selected
        obtain ⟨key, stored⟩ := Table.lookup_some found
        have recorded := ledger.current e stored
        rw [key, selected.1.1, selected.1.2] at recorded
        exact recorded
      next => cases selected

/-- An execution as `New` makes it. -/
def IsNew (e : ExecutionRow) : Prop :=
  e.status = .created ∧ e.revision = 1 ∧ e.failure = .zero ∧ e.failedFrom = none ∧ e.recovery = .zero

theorem insertExecution_books (inserted : insertExecution e t = .ok after) :
    after.executions = t.executions ++ [e] ∧
      after.revisions = t.revisions ++ [⟨e.tenantID, e.executionID, e.revision, e.status, e.updatedAt⟩] ∧
      after.evidence = t.evidence ∧ e ∉ t.executions ∧ ∀ status, ¬ Recorded t e.key e.revision status := by
  simp only [insertExecution, bind_ok, pure_ok, rejectIf_ok, List.any_eq_true, Bool.and_eq_true,
    beq_iff_eq, Bool.or_eq_true, not_exists, not_and, exists_const] at inserted
  obtain ⟨unused, _, mid, preserved, rfl⟩ := inserted
  obtain ⟨rfl, fresh⟩ := preserveRevision_fresh preserved
  have absent : e ∉ t.executions := fun stored => unused e stored rfl (.inl rfl)
  unfold createRuntimeWork
  split
  all_goals exact ⟨rfl, rfl, rfl, absent, fresh⟩

theorem Ledger.create (ledger : Ledger t) (inserted : insertExecution e t = .ok after) (new : IsNew e) : Ledger after := by
  obtain ⟨created, first, unfailed, _, unrecovered⟩ := new
  obtain ⟨executions, revisions, evidence, _, fresh⟩ := insertExecution_books inserted
  refine ledger.record revisions evidence fresh (fun row member => ?_) fun final => ?_
  · rw [executions] at member
    rcases List.mem_append.mp member with old | new
    · exact .inl old
    · obtain rfl := List.mem_singleton.mp new
      refine .inr ⟨?_, rfl, rfl, rfl⟩
      rw [unfailed, unrecovered]
      exact ⟨nofun, nofun⟩
  · rw [show e.status = .completed from final] at created
    cases created

/-! ### What the requests do to the books -/

theorem books_appendAudit {record : AuditRow} (appended : appendAudit record t = .ok after) : SameBooks t after := by
  rw [appendAudit_ok appended]
  exact ⟨rfl, rfl, rfl⟩

/-- How the answer to a request changes the books. -/
inductive BooksChange (t after : ExecutionTables) : Call → Prop
  | none (call : Call) (same : SameBooks t after) : BooksChange t after call
  | update (f : Fence) (u : ExecutionUpdate) (record : AuditRow) (mid : ExecutionTables)
      (updated : updateExecution u t = .ok mid) (same : SameBooks mid after) :
      BooksChange t after (.updateClaimed f u record)
  | observe (f : Fence) (u : ExecutionUpdate) (p : EvidenceParams) (record : AuditRow) (mid last : ExecutionTables)
      (updated : updateExecution u t = .ok mid) (appended : appendVerificationEvidence p mid = .ok (1, last))
      (same : SameBooks last after) : BooksChange t after (.persistClaimed f u p record)
  | append (p : EvidenceParams) (inserted : Nat) (appended : appendVerificationEvidence p t = .ok (inserted, after)) :
      BooksChange t after (.appendVerificationEvidence p)

theorem SameBooks.refl (t : ExecutionTables) : SameBooks t t := ⟨rfl, rfl, rfl⟩

theorem books_answer {reply : Reply call} (answered : answer call t reply after) :
    BooksChange t after call := by
  cases change_of_answer answered with
  | nothing _ same => exact .none call (same ▸ .refl _)
  | lease _ _ _ _ _ changed => exact .none call (changed ▸ ⟨rfl, rfl, rfl⟩)
  | mark f row marked =>
    obtain ⟨w, _, _, _, _, _, rfl⟩ := markSubmissionStarted_ok marked
    exact .none _ ⟨rfl, rfl, rfl⟩
  | update f u record mid _ updated audited => exact .update f u record mid updated (books_appendAudit audited)
  | observe f u p record mid last _ updated appended audited =>
    exact .observe f u p record mid last updated appended (books_appendAudit audited)
  | append p inserted appended => exact .append p inserted appended

theorem evidence_grows (appended : appendVerificationEvidence p t = .ok (inserted, after)) {row : EvidenceRow}
    (member : row ∈ t.evidence) :
    row ∈ after.evidence := by
  rcases appendVerificationEvidence_ok appended with ⟨_, _, rfl⟩ | ⟨_, _, _, rfl⟩
  · exact member
  · exact List.mem_append_left _ member

theorem revisions_appendVerificationEvidence (appended : appendVerificationEvidence p t = .ok (inserted, after)) : after.revisions = t.revisions := by
  rcases appendVerificationEvidence_ok appended with ⟨_, _, rfl⟩ | ⟨_, _, _, rfl⟩
  · rfl
  · rfl

/-- Nothing that is recorded is lost. -/
structure Grows (t after : ExecutionTables) : Prop where
  recorded : ∀ k n status, Recorded t k n status → Recorded after k n status
  evidence : ∀ row ∈ t.evidence, row ∈ after.evidence

theorem BooksChange.grows (change : BooksChange t after call) : Grows t after := by
  cases change with
  | none _ same =>
    refine ⟨fun _ _ _ => same.recorded.mpr, fun row member => ?_⟩
    rw [same.evidence]
    exact member
  | update f u record mid updated same =>
    refine ⟨fun _ _ _ old => same.recorded.mpr ((updateExecution_recorded updated).mpr (.inl old)), ?_⟩
    obtain ⟨_, _, _, _, _, rfl⟩ := updateExecution_ok updated
    intro row member
    rw [same.evidence]
    exact member
  | observe f u p record mid last updated appended same =>
    have kept : Grows t mid := by
      refine ⟨fun _ _ _ old => (updateExecution_recorded updated).mpr (.inl old), ?_⟩
      obtain ⟨_, _, _, _, _, rfl⟩ := updateExecution_ok updated
      exact fun row member => member
    refine ⟨fun k n status old => same.recorded.mpr ?_, fun row member => ?_⟩
    · rw [Recorded, revisions_appendVerificationEvidence appended]
      exact kept.recorded k n status old
    · rw [same.evidence]
      exact evidence_grows appended (kept.evidence row member)
  | append p inserted appended =>
    refine ⟨fun k n status old => ?_, fun row member => evidence_grows appended member⟩
    rw [Recorded, revisions_appendVerificationEvidence appended]
    exact old

section Runs

variable {ι : Type}

/-- The executions created in the run are new ones. -/
def CreatesNew (moves : List (Move ExecutionTables ι Reply)) : Prop :=
  ∀ move ∈ moves, move.label = .environment →
    ∀ e ∈ move.after.shared.executions, e ∉ move.before.shared.executions → IsNew e

/-- One transaction has made execution `k` VERIFIED at revision `n` and added the row. -/
structure VerifiedBy (move : Move ExecutionTables ι Reply) (k : Key) (n : Nat) (row : EvidenceRow) : Prop where
  transaction : ∃ i f u p record reply, move.label = .call ⟨i, .persistClaimed f u p record, reply⟩
  status : ∃ e, move.after.shared.executionOf k = some e ∧ e.revision = n ∧ e.status = .verified
  earlier : ∀ e, move.before.shared.executionOf k = some e → e.revision ≠ n
  added : row ∈ move.after.shared.evidence ∧ row ∉ move.before.shared.evidence

def EvidenceRow.shows (row : EvidenceRow) (k : Key) (n : Nat) : Prop :=
  row.key = k ∧ row.executionVersion = n ∧ row.status = .verified

variable [DecidableEq ι] {first c d : Threads.Config ExecutionTables ι Reply}
  {moves : List (Move ExecutionTables ι Reply)} {label : Label ι Reply}

structure Books (moves : List (Move ExecutionTables ι Reply)) (c : Threads.Config ExecutionTables ι Reply) : Prop where
  ledger : Ledger c.shared
  sighted : ∀ i, ∀ row ∈ sightings.after [] i c.trace,
    Steady row.failure row.recovery ∧ Recorded c.shared row.key row.revision row.status
  verified : ∀ k n, Recorded c.shared k n .verified →
    ∃ row ∈ c.shared.evidence, EvidenceRow.shows row k n ∧ ∃ move ∈ moves, VerifiedBy move k n row
  history : ∀ move ∈ moves, ∀ e ∈ move.after.shared.executions, Recorded c.shared e.key e.revision e.status

/-- A permitted write keeps the ledger; each revision that it verifies has its evidence. -/
theorem Ledger.answered (ledger : Ledger t) {seen : List ExecutionRow}
    (sighted : ∀ row ∈ seen, Steady row.failure row.recovery ∧ Recorded t row.key row.revision row.status)
    (permitted : sightingPermits seen call) (change : BooksChange t after call) :
    Ledger after ∧ ∀ k n, Recorded after k n .verified → Recorded t k n .verified ∨
      ∃ f u p record, call = .persistClaimed f u p record ∧
        (∃ e, after.executionOf k = some e ∧ e.revision = n ∧ e.status = .verified) ∧
        (∀ status, ¬ Recorded t k n status) ∧ ∃ row ∈ after.evidence, EvidenceRow.shows row k n := by
  cases change with
  | none _ same => exact ⟨same.ledger ledger, fun k n verified => .inl (same.recorded.mp verified)⟩
  | update f u record mid updated same =>
    obtain ⟨row, member, lawful⟩ := permitted
    obtain ⟨clean, recorded⟩ := sighted row member
    obtain ⟨steady, unverified, completes⟩ := lawful clean
    have kept : Ledger mid := by
      refine ledger.update updated steady fun final => ?_
      obtain ⟨key, expected, status⟩ := completes final
      rw [key, expected]
      exact status ▸ recorded
    refine ⟨same.ledger kept, fun k n verified => .inl ?_⟩
    rcases (updateExecution_recorded updated).mp (same.recorded.mp verified) with old | ⟨_, _, status⟩
    · exact old
    · exact absurd status unverified
  | observe f u p record mid last updated appended same =>
    obtain ⟨row, member, lawful⟩ := permitted
    obtain ⟨steady, running, observes⟩ := lawful (sighted row member).1
    have kept : Ledger mid := ledger.update updated steady fun final => absurd final running
    refine ⟨same.ledger (kept.append appended), fun k n verified => ?_⟩
    have inMid : Recorded mid k n .verified := by
      rw [Recorded, ← revisions_appendVerificationEvidence appended]
      exact same.recorded.mp verified
    rcases (updateExecution_recorded updated).mp inMid with old | ⟨rfl, rfl, status⟩
    · exact .inl old
    · -- the update verifies, so the observation does
      obtain ⟨key, version, shown⟩ := observes status
      refine .inr ⟨f, u, p, record, rfl, ?_, updateExecution_fresh updated, ?_⟩
      · have executions : after.executions = mid.executions :=
          same.executions.trans (executions_appendVerificationEvidence appended)
        obtain ⟨e, found, _, _, _, rfl⟩ := updateExecution_ok updated
        refine ⟨u.apply e, ?_, rfl, status⟩
        rw [ExecutionTables.executionOf, executions, Table.lookup_modify_same u.apply_key]
        exact congrArg (Option.map u.apply) found
      · rcases appendVerificationEvidence_ok appended with ⟨zero, _⟩ | ⟨_, _, _, rfl⟩
        · cases zero
        · refine ⟨p.row (mid.evidence.length + 1), ?_, key, version, shown⟩
          rw [same.evidence]
          exact List.mem_append_right _ (.head _)
  | append p inserted appended =>
    refine ⟨ledger.append appended, fun k n verified => .inl ?_⟩
    rw [Recorded, ← revisions_appendVerificationEvidence appended]
    exact verified

theorem Books.keep (books : Books moves c) (grows : Grows c.shared d.shared) (ledger : Ledger d.shared)
    (sighted : ∀ i, ∀ row ∈ sightings.after [] i d.trace,
      Steady row.failure row.recovery ∧ Recorded d.shared row.key row.revision row.status)
    (verified : ∀ k n, Recorded d.shared k n .verified → Recorded c.shared k n .verified ∨
      ∃ row ∈ d.shared.evidence, EvidenceRow.shows row k n ∧ VerifiedBy ⟨c, label, d⟩ k n row) :
    Books (⟨c, label, d⟩ :: moves) d where
  ledger := ledger
  sighted := sighted
  verified := by
    intro k n shown
    rcases verified k n shown with old | ⟨row, member, shows, written⟩
    · obtain ⟨row, member, shows, move, earlier, written⟩ := books.verified k n old
      exact ⟨row, grows.evidence row member, shows, move, .tail _ earlier, written⟩
    · exact ⟨row, member, shows, _, .head _, written⟩
  history := by
    intro move member e stored
    rcases List.mem_cons.mp member with rfl | earlier
    · exact ledger.current e stored
    · exact grows.recorded _ _ _ (books.history move earlier e stored)

theorem Books.sighted_call (books : Books moves c) {i j : ι} {reply : Reply call} (grows : Grows c.shared after)
    (answered : answer call c.shared reply after) (row : ExecutionRow)
    (member : row ∈ sightings.after [] j (⟨i, call, reply⟩ :: c.trace)) :
    Steady row.failure row.recovery ∧ Recorded after row.key row.revision row.status := by
  have known (old : row ∈ sightings.after [] j c.trace) :
      Steady row.failure row.recovery ∧ Recorded after row.key row.revision row.status := by
    obtain ⟨steady, recorded⟩ := books.sighted j row old
    exact ⟨steady, grows.recorded _ _ _ recorded⟩
  by_cases own : i = j
  · subst own
    rw [Monitor.after_own] at member
    cases call with
    | findExecutionByID k actorID =>
      cases reply with
      | error e => exact known member
      | ok record =>
        rcases List.mem_cons.mp member with rfl | old
        · have found := DbAnswer.of_ok answered
          cases read : findExecutionByID k actorID c.shared with
          | error e => simp [read, Except.map] at found
          | ok shown =>
            simp only [read, Except.map, Except.ok.injEq, Prod.mk.injEq] at found
            obtain ⟨rfl, rfl⟩ := found
            obtain ⟨_, stored⟩ := Table.lookup_some (findExecutionByID_ok.mp read).1
            exact ⟨books.ledger.steady _ stored, books.ledger.current _ stored⟩
        · exact known old
    | _ => exact known member
  · rw [Monitor.after_other sightings [] own] at member
    exact known member

theorem Books.step (monitored : Monitored sightings [] c) (books : Books moves c) (stepped : Step system c label d)
    (creates : CreatesNew [⟨c, label, d⟩]) : Books (⟨c, label, d⟩ :: moves) d := by
  cases stepped with
  | crash i => exact books.keep ⟨fun _ _ _ => id, fun _ => id⟩ books.ledger books.sighted fun _ _ => .inl
  | environment after changed =>
    cases changed with
    | clock => exact books.keep ⟨fun _ _ _ => id, fun _ => id⟩ ⟨books.ledger.steady, books.ledger.current,
        books.ledger.single, books.ledger.evidence, books.ledger.completed⟩ books.sighted fun _ _ => .inl
    | create after r e created =>
      obtain ⟨mid, requested, inserted⟩ := bind_ok.mp created
      obtain rfl := insertRequest_ok requested
      obtain ⟨executions, revisions, evidence, absent, fresh⟩ := insertExecution_books inserted
      have new : IsNew e := by
        refine creates _ (.head _) rfl e ?_ absent
        rw [executions]
        exact List.mem_append_right _ (.head _)
      have recorded {k n status} := @recorded_append c.shared after k n status _ revisions
      have grows : Grows c.shared after := by
        refine ⟨fun k n status old => recorded.mpr (.inl old), fun row member => ?_⟩
        rw [evidence]
        exact member
      have before : Ledger { c.shared with requests := c.shared.requests ++ [r] } :=
        SameBooks.ledger (t := c.shared) ⟨rfl, rfl, rfl⟩ books.ledger
      refine books.keep grows (before.create inserted new) (fun i row member => ?_) fun k n verified => .inl ?_
      · obtain ⟨steady, known⟩ := books.sighted i row member
        exact ⟨steady, grows.recorded _ _ _ known⟩
      · rcases recorded.mp verified with old | ⟨_, _, status⟩
        · exact old
        · have clash : Status.verified = .created := status.symm.trans new.1
          cases clash
  | call i request next reply after running answered =>
    have change := books_answer answered
    have permitted : sightingPermits (sightings.after [] i c.trace) request := by
      have own := monitored i
      rw [running] at own
      exact own.permits
    obtain ⟨ledger, verifies⟩ := books.ledger.answered (books.sighted i) permitted change
    refine books.keep change.grows ledger (fun j => books.sighted_call change.grows answered) fun k n verified => ?_
    rcases verifies k n verified with old | ⟨f, u, p, record, rfl, status, unseen, row, member, shows⟩
    · exact .inl old
    · refine .inr ⟨row, member, shows, ⟨i, f, u, p, record, reply, rfl⟩, status, ?_, member, ?_⟩
      · intro e found same
        obtain ⟨key, stored⟩ := Table.lookup_some found
        have current := books.ledger.current e stored
        rw [key, same] at current
        exact unseen _ current
      · intro old
        have known := books.ledger.evidence row old
        rw [shows.1, shows.2.1] at known
        exact unseen _ known

theorem Books.start (initial : Initial first)
    (empty : first.shared.executions = [] ∧ first.shared.revisions = [] ∧ first.shared.evidence = []) :
    Books [] first := by
  obtain ⟨executions, revisions, evidence⟩ := empty
  have nothing (k : Key) (n : Nat) (status : Status) : ¬ Recorded first.shared k n status := by
    rintro ⟨v, member, _⟩
    rw [revisions] at member
    cases member
  have ledger : Ledger first.shared := by
    constructor
    case steady =>
      rw [executions]
      exact fun _ member => nomatch member
    case current =>
      rw [executions]
      exact fun _ member => nomatch member
    case single => exact fun k n a b found => absurd found (nothing k n a)
    case evidence =>
      rw [evidence]
      exact fun _ member => nomatch member
    case completed => exact fun k n found => absurd found (nothing k n _)
  constructor
  case ledger => exact ledger
  case sighted =>
    rw [initial.trace]
    exact fun _ _ member => nomatch member
  case verified => exact fun k n found => absurd found (nothing k n _)
  case history => exact fun _ member => nomatch member

end Runs

end WizPay.Runtime
