import Mathlib
import WizPay.Storage.AutonomyRepository

/-!
# Concurrent claims

The claiming transactions of any number of workers, statement by statement. Every statement reads a snapshot of the
committed rows, and the locking ones skip rows that are locked.
-/
namespace WizPay.Autonomy

open Storage

/-- Where a claiming transaction stands. -/
inductive ClaimPhase
  | idle
  /-- the first statement, with the rows it sees -/
  | reading (request : ClaimRequest) (snapshot : List OccurrenceRow)
  /-- the schedule version is locked -/
  | holding (request : ClaimRequest) (schedule : ScheduleRow)
  /-- the second statement -/
  | choosing (request : ClaimRequest) (schedule : ScheduleRow) (snapshot : List OccurrenceRow)
  /-- the occurrence is locked -/
  | chosen (request : ClaimRequest) (schedule : ScheduleRow) (row : OccurrenceRow)
  /-- the update is made and not committed -/
  | updated (request : ClaimRequest) (schedule : ScheduleRow) (row : OccurrenceRow)

namespace ClaimPhase

/-- The schedule version that the transaction has locked. -/
def schedule : ClaimPhase → Option ScheduleRow
  | idle | reading .. => none
  | holding _ schedule | choosing _ schedule _ | chosen _ schedule _ | updated _ schedule _ => some schedule

/-- The occurrence that the transaction has locked. -/
def occurrence : ClaimPhase → Option OccurrenceRow
  | chosen _ _ row | updated _ _ row => some row
  | _ => none

end ClaimPhase

/-- The committed occurrences and the transactions of the workers `ι`. -/
structure ClaimState (ι : Type) where
  occurrences : List OccurrenceRow
  phase : ι → ClaimPhase

section System

variable {ι : Type} [DecidableEq ι] (schedules : List ScheduleRow)

def ClaimState.enter (s : ClaimState ι) (i : ι) (phase : ClaimPhase) : ClaimState ι :=
  { s with phase := Function.update s.phase i phase }

/-- The claimed row is committed and the locks are released. -/
def ClaimState.publish (s : ClaimState ι) (i : ι) (request : ClaimRequest) (row : OccurrenceRow) : ClaimState ι where
  occurrences := Table.modify OccurrenceRow.id row.id request.claim s.occurrences
  phase := (s.enter i .idle).phase

@[simp] theorem ClaimState.enter_self (s : ClaimState ι) (i : ι) (phase : ClaimPhase) :
    (s.enter i phase).phase i = phase := by
  simp [ClaimState.enter]

theorem ClaimState.enter_other {i j : ι} (s : ClaimState ι) (phase : ClaimPhase) (other : j ≠ i) :
    (s.enter i phase).phase j = s.phase j := by
  simp [ClaimState.enter, other]

/-- One statement of one transaction. What a scan passed over was locked when it came to it; the row that it takes is
not locked now. -/
inductive ClaimMove : ClaimState ι → ClaimState ι → Prop
  | start (s : ClaimState ι) (i : ι) (request : ClaimRequest) (idle : s.phase i = .idle) :
      ClaimMove s (s.enter i (.reading request s.occurrences))
  | lockSchedule (s : ClaimState ι) (i : ι) (request : ClaimRequest) (snapshot : List OccurrenceRow)
      (passed : ScheduleKey → Bool) (schedule : ScheduleRow) (reading : s.phase i = .reading request snapshot)
      (found : request.selectSchedule schedules snapshot passed = some schedule)
      (free : ∀ j held, (s.phase j).schedule = some held → held.key ≠ schedule.key) :
      ClaimMove s (s.enter i (.holding request schedule))
  | look (s : ClaimState ι) (i : ι) (request : ClaimRequest) (schedule : ScheduleRow)
      (holding : s.phase i = .holding request schedule) :
      ClaimMove s (s.enter i (.choosing request schedule s.occurrences))
  | lockOccurrence (s : ClaimState ι) (i : ι) (request : ClaimRequest) (schedule : ScheduleRow)
      (snapshot : List OccurrenceRow) (passed : String × String → Bool) (row latest : OccurrenceRow)
      (choosing : s.phase i = .choosing request schedule snapshot)
      (found : request.selectOccurrence schedule.key snapshot s.occurrences passed = some row)
      (free : ∀ j held, (s.phase j).occurrence = some held → held.id ≠ row.id)
      (current : Table.lookup OccurrenceRow.id row.id s.occurrences = some latest) :
      ClaimMove s (s.enter i (.chosen request schedule latest))
  | update (s : ClaimState ι) (i : ι) (request : ClaimRequest) (schedule : ScheduleRow) (row : OccurrenceRow)
      (chosen : s.phase i = .chosen request schedule row) :
      ClaimMove s (s.enter i (.updated request schedule row))
  | commit (s : ClaimState ι) (i : ι) (request : ClaimRequest) (schedule : ScheduleRow) (row : OccurrenceRow)
      (updated : s.phase i = .updated request schedule row) :
      ClaimMove s (s.publish i request row)
  /-- nothing was found, an error, or a lost connection -/
  | rollback (s : ClaimState ι) (i : ι) : ClaimMove s (s.enter i .idle)

end System

/-- No two occurrences of one schedule, of any version, are in progress. -/
def NoOverlap (occurrences : List OccurrenceRow) : Prop :=
  ∀ a ∈ occurrences, ∀ b ∈ occurrences, a.tenantID = b.tenantID → a.scheduleID = b.scheduleID →
    OccurrenceStatus.inProgress a.status = true → OccurrenceStatus.inProgress b.status = true →
    a.occurrenceID = b.occurrenceID

/-- A schedule has one active version at most. -/
def OneActiveVersion (schedules : List ScheduleRow) : Prop :=
  ∀ a ∈ schedules, ∀ b ∈ schedules, a.tenantID = b.tenantID → a.scheduleID = b.scheduleID →
    a.status = .active → b.status = .active → a = b

/-! ### Rows of one schedule -/

variable {request : ClaimRequest} {schedule : ScheduleRow}

section Rows

variable {xs ys : List OccurrenceRow} {row : OccurrenceRow}

/-- Two lists have the same rows of a schedule. -/
def SameRows (tenantID scheduleID : String) (xs ys : List OccurrenceRow) : Prop :=
  ∀ row, row.tenantID = tenantID → row.scheduleID = scheduleID → (row ∈ xs ↔ row ∈ ys)

theorem blockedBySibling_eq_false : row.blockedBySibling xs = false ↔
    ∀ other ∈ xs, other.tenantID = row.tenantID → other.scheduleID = row.scheduleID →
      OccurrenceStatus.inProgress other.status = true → other.occurrenceID = row.occurrenceID := by
  simp [OccurrenceRow.blockedBySibling]

/-- Siblings are rows of the same schedule. -/
theorem SameRows.unblocked (same : SameRows row.tenantID row.scheduleID xs ys) (free : row.blockedBySibling xs = false) :
    row.blockedBySibling ys = false := by
  rw [blockedBySibling_eq_false] at free ⊢
  intro other listed tenant schedule
  exact free other ((same other tenant schedule).mpr listed) tenant schedule

/-- A claim changes no row of another schedule. -/
theorem SameRows.claim {tenantID scheduleID : String} (ids : (xs.map OccurrenceRow.id).Nodup) (listed : row ∈ xs)
    (other : ¬ (row.tenantID = tenantID ∧ row.scheduleID = scheduleID)) :
    SameRows tenantID scheduleID xs (Table.modify OccurrenceRow.id row.id request.claim xs) := by
  have only : ∀ same ∈ xs, same.id = row.id → same = row := by
    intro same member id
    have found := Table.lookup_of_mem ids member
    rw [id, Table.lookup_of_mem ids listed] at found
    exact (Option.some.inj found).symm
  intro r tenant schedule
  rw [Table.modify, List.mem_map]
  constructor
  · intro member
    refine ⟨r, member, if_neg ?_⟩
    intro id
    rw [only r member id] at tenant schedule
    exact other ⟨tenant, schedule⟩
  · rintro ⟨old, member, rfl⟩
    by_cases id : old.id = row.id
    · rw [if_pos id, only old member id] at tenant schedule
      exact absurd ⟨tenant, schedule⟩ other
    · rw [if_neg id]
      exact member

theorem NoOverlap.claim (ids : (xs.map OccurrenceRow.id).Nodup) (alone : NoOverlap xs) (listed : row ∈ xs)
    (free : row.blockedBySibling xs = false) :
    NoOverlap (Table.modify OccurrenceRow.id row.id request.claim xs) := by
  rw [blockedBySibling_eq_false] at free
  -- rows of the claimed schedule that are in progress have the ID of the claimed row
  have claimedOnly : ∀ r ∈ Table.modify OccurrenceRow.id row.id request.claim xs, r.tenantID = row.tenantID →
      r.scheduleID = row.scheduleID → OccurrenceStatus.inProgress r.status = true → r.occurrenceID = row.occurrenceID := by
    intro r member tenant schedule progress
    rw [Table.modify, List.mem_map] at member
    obtain ⟨old, isOld, rfl⟩ := member
    by_cases id : old.id = row.id
    · rw [if_pos id]
      exact congrArg Prod.snd id
    · rw [if_neg id] at tenant schedule progress ⊢
      exact free old isOld tenant schedule progress
  intro a isA b isB tenant schedule progressA progressB
  by_cases ours : a.tenantID = row.tenantID ∧ a.scheduleID = row.scheduleID
  · rw [claimedOnly a isA ours.1 ours.2 progressA,
      claimedOnly b isB (tenant.symm.trans ours.1) (schedule.symm.trans ours.2) progressB]
  · have unchanged : SameRows a.tenantID a.scheduleID xs (Table.modify OccurrenceRow.id row.id request.claim xs) :=
      SameRows.claim ids listed fun same => ours ⟨same.1.symm, same.2.symm⟩
    exact alone a ((unchanged a rfl rfl).mpr isA) b ((unchanged b tenant.symm schedule.symm).mpr isB) tenant schedule
      progressA progressB

end Rows

section Exclusion

variable {ι : Type} [DecidableEq ι] {schedules : List ScheduleRow}

/-- What a transaction knows about the committed rows: from its second statement on, those of its schedule. -/
def ClaimPhase.Sound (occurrences : List OccurrenceRow) : ClaimPhase → Prop
  | choosing _ schedule snapshot => SameRows schedule.tenantID schedule.scheduleID snapshot occurrences
  | chosen _ schedule row | updated _ schedule row =>
    row ∈ occurrences ∧ row.schedule = schedule.key ∧ row.blockedBySibling occurrences = false
  | _ => True

structure Exclusive (schedules : List ScheduleRow) (s : ClaimState ι) : Prop where
  ids : (s.occurrences.map OccurrenceRow.id).Nodup
  active : ∀ i schedule, (s.phase i).schedule = some schedule → schedule ∈ schedules ∧ schedule.status = .active
  locks : ∀ i j first second, (s.phase i).schedule = some first → (s.phase j).schedule = some second →
    first.key = second.key → i = j
  sound : ∀ i, (s.phase i).Sound s.occurrences
  alone : NoOverlap s.occurrences

/-- Another transaction's knowledge survives a commit, since it holds the lock of another schedule. -/
theorem ClaimPhase.Sound.claim {occurrences : List OccurrenceRow} {phase : ClaimPhase}
    {row : OccurrenceRow} (sound : phase.Sound occurrences) (ids : (occurrences.map OccurrenceRow.id).Nodup)
    (listed : row ∈ occurrences)
    (other : ∀ schedule, phase.schedule = some schedule →
      ¬ (row.tenantID = schedule.tenantID ∧ row.scheduleID = schedule.scheduleID)) :
    phase.Sound (Table.modify OccurrenceRow.id row.id request.claim occurrences) := by
  cases phase with
  | idle => trivial
  | reading _ _ => trivial
  | holding _ _ => trivial
  | choosing _ schedule snapshot =>
    have kept : SameRows schedule.tenantID schedule.scheduleID occurrences
        (Table.modify OccurrenceRow.id row.id request.claim occurrences) := SameRows.claim ids listed (other schedule rfl)
    exact fun r tenant named => (sound r tenant named).trans (kept r tenant named)
  | chosen _ schedule mine | updated _ schedule mine =>
    obtain ⟨stored, ofSchedule, free⟩ := sound
    have keys := ofSchedule
    simp only [OccurrenceRow.schedule, ScheduleRow.key, Prod.mk.injEq] at keys
    have kept : SameRows mine.tenantID mine.scheduleID occurrences
        (Table.modify OccurrenceRow.id row.id request.claim occurrences) := by
      rw [keys.1, keys.2.1]
      exact SameRows.claim ids listed (other schedule rfl)
    exact ⟨(kept mine rfl rfl).mp stored, ofSchedule, kept.unblocked free⟩

variable {s : ClaimState ι} (exclusive : Exclusive schedules s)
include exclusive

/-- A transaction enters a phase with the lock it had, or with none. -/
theorem Exclusive.enter {i : ι} {phase : ClaimPhase}
    (kept : ∀ schedule, phase.schedule = some schedule → (s.phase i).schedule = some schedule)
    (sound : phase.Sound s.occurrences) : Exclusive schedules (s.enter i phase) := by
  have held : ∀ j schedule, ((s.enter i phase).phase j).schedule = some schedule →
      (s.phase j).schedule = some schedule := by
    intro j schedule locked
    by_cases same : j = i
    · subst same
      rw [ClaimState.enter_self] at locked
      exact kept schedule locked
    · rw [ClaimState.enter_other s phase same] at locked
      exact locked
  constructor
  case ids => exact exclusive.ids
  case active => exact fun j schedule locked => exclusive.active j schedule (held j schedule locked)
  case locks =>
    exact fun j k first second lockedJ lockedK => exclusive.locks j k first second (held j first lockedJ)
      (held k second lockedK)
  case sound =>
    intro j
    by_cases same : j = i
    · subst same
      rw [ClaimState.enter_self]
      exact sound
    · rw [ClaimState.enter_other s phase same]
      exact exclusive.sound j
  case alone => exact exclusive.alone

theorem Exclusive.leave (i : ι) :
    Exclusive schedules (s.enter i .idle) := by
  apply exclusive.enter
  · intro locked isLocked
    cases isLocked
  · trivial

/-- A transaction locks an active version that no other transaction has locked. -/
theorem Exclusive.lock {i : ι}
    (stored : schedule ∈ schedules) (active : schedule.status = .active)
    (free : ∀ j held, (s.phase j).schedule = some held → held.key ≠ schedule.key) :
    Exclusive schedules (s.enter i (.holding request schedule)) := by
  have cases : ∀ j held, ((s.enter i (.holding request schedule)).phase j).schedule = some held →
      (j = i ∧ held = schedule) ∨ (j ≠ i ∧ (s.phase j).schedule = some held) := by
    intro j held locked
    by_cases same : j = i
    · subst same
      rw [ClaimState.enter_self] at locked
      exact .inl ⟨rfl, (Option.some.inj locked).symm⟩
    · rw [ClaimState.enter_other s _ same] at locked
      exact .inr ⟨same, locked⟩
  constructor
  case ids => exact exclusive.ids
  case active =>
    intro j held locked
    rcases cases j held locked with ⟨-, rfl⟩ | ⟨-, before⟩
    · exact ⟨stored, active⟩
    · exact exclusive.active j held before
  case locks =>
    intro j k first second lockedJ lockedK keys
    rcases cases j first lockedJ with ⟨rfl, rfl⟩ | ⟨-, beforeJ⟩ <;>
      rcases cases k second lockedK with ⟨rfl, rfl⟩ | ⟨-, beforeK⟩
    · rfl
    · exact absurd keys.symm (free k second beforeK)
    · exact absurd keys (free j first beforeJ)
    · exact exclusive.locks j k first second beforeJ beforeK keys
  case sound =>
    intro j
    by_cases same : j = i
    · subst same
      rw [ClaimState.enter_self]
      trivial
    · rw [ClaimState.enter_other s _ same]
      exact exclusive.sound j
  case alone => exact exclusive.alone

omit [DecidableEq ι] in
/-- Between the second statement and the commit, the committed rows of the schedule are those of the snapshot. -/
theorem Exclusive.choose {snapshot : List OccurrenceRow}
    {passed : String × String → Bool} {row latest : OccurrenceRow}
    (same : SameRows schedule.tenantID schedule.scheduleID snapshot s.occurrences)
    (found : request.selectOccurrence schedule.key snapshot s.occurrences passed = some row)
    (current : Table.lookup OccurrenceRow.id row.id s.occurrences = some latest) :
    latest ∈ s.occurrences ∧ latest.schedule = schedule.key ∧ latest.blockedBySibling s.occurrences = false := by
  obtain ⟨candidate, -, -⟩ := ClaimRequest.selectOccurrence_some found
  obtain ⟨seen, ofSchedule, -, free⟩ := ClaimRequest.mem_candidates.mp candidate
  have keys := ofSchedule
  simp only [OccurrenceRow.schedule, ScheduleRow.key, Prod.mk.injEq] at keys
  rw [← keys.1, ← keys.2.1] at same
  have listed : row ∈ s.occurrences := (same row rfl rfl).mp seen
  rw [Table.lookup_of_mem exclusive.ids listed] at current
  obtain rfl := Option.some.inj current
  exact ⟨listed, ofSchedule, same.unblocked free⟩

theorem Exclusive.commit
    (oneActive : OneActiveVersion schedules) {i : ι} {row : OccurrenceRow}
    (updated : s.phase i = .updated request schedule row) :
    Exclusive schedules (s.publish i request row) := by
  have mine := exclusive.sound i
  rw [updated] at mine
  obtain ⟨listed, ofSchedule, free⟩ := mine
  simp only [OccurrenceRow.schedule, ScheduleRow.key, Prod.mk.injEq] at ofSchedule
  have locked : (s.phase i).schedule = some schedule := by rw [updated]; rfl
  have left := exclusive.leave i
  constructor
  case ids =>
    have keeps : ∀ row : OccurrenceRow, (request.claim row).id = row.id := fun _ => rfl
    rw [ClaimState.publish, Table.map_key_modify keeps]
    exact exclusive.ids
  case active => exact left.active
  case locks => exact left.locks
  case sound =>
    intro j
    apply (left.sound j).claim exclusive.ids listed
    rintro held isHeld ⟨tenant, named⟩
    -- two locked versions of one schedule would be one version, locked by one transaction
    by_cases same : j = i
    · subst same
      rw [ClaimState.enter_self] at isHeld
      cases isHeld
    · rw [ClaimState.enter_other s _ same] at isHeld
      obtain ⟨stored, active⟩ := exclusive.active i schedule locked
      obtain ⟨storedHeld, activeHeld⟩ := exclusive.active j held isHeld
      have version := oneActive held storedHeld schedule stored (tenant.symm.trans ofSchedule.1)
        (named.symm.trans ofSchedule.2.1) activeHeld active
      exact same (exclusive.locks j i held schedule isHeld locked (by rw [version]))
  case alone => exact exclusive.alone.claim exclusive.ids listed free

theorem Exclusive.step {next : ClaimState ι} (oneActive : OneActiveVersion schedules)
    (move : ClaimMove schedules s next) : Exclusive schedules next := by
  cases move with
  | start i request idle =>
    apply exclusive.enter
    · intro locked isLocked
      cases isLocked
    · trivial
  | lockSchedule i request snapshot passed schedule reading found free =>
    obtain ⟨stored, selects, -⟩ := ClaimRequest.selectSchedule_some found
    simp only [ClaimRequest.selects, Bool.and_eq_true, decide_eq_true_eq] at selects
    exact exclusive.lock stored selects.1 free
  | look i request schedule holding =>
    apply exclusive.enter
    · intro locked isLocked
      rw [holding]
      exact isLocked
    · exact fun _ _ _ => Iff.rfl
  | lockOccurrence i request schedule snapshot passed row latest choosing found free current =>
    have sees := exclusive.sound i
    rw [choosing] at sees
    apply exclusive.enter
    · intro locked isLocked
      rw [choosing]
      exact isLocked
    · exact exclusive.choose sees found current
  | update i request schedule row chosen =>
    have known := exclusive.sound i
    rw [chosen] at known
    apply exclusive.enter
    · intro locked isLocked
      rw [chosen]
      exact isLocked
    · exact known
  | commit i request schedule row updated => exact exclusive.commit oneActive updated
  | rollback i => exact exclusive.leave i

end Exclusion

/-- Where every schedule has one active version at most, no interleaving of claiming transactions makes occurrences of
one schedule overlap. -/
theorem claims_never_overlap {ι : Type} [DecidableEq ι] (schedules : List ScheduleRow) (first reached : ClaimState ι)
    (ids : (first.occurrences.map OccurrenceRow.id).Nodup) (alone : NoOverlap first.occurrences)
    (idle : ∀ i, first.phase i = .idle) (oneActive : OneActiveVersion schedules)
    (run : Relation.ReflTransGen (ClaimMove schedules) first reached) : NoOverlap reached.occurrences := by
  have exclusive : Exclusive schedules reached := by
    induction run with
    | refl =>
      constructor
      case ids => exact ids
      case active =>
        intro i schedule locked
        rw [idle i] at locked
        cases locked
      case locks =>
        intro i j a b locked
        rw [idle i] at locked
        cases locked
      case sound =>
        intro i
        rw [idle i]
        trivial
      case alone => exact alone
    | tail _ move ih => exact ih.step oneActive move
  exact exclusive.alone

/-- A version of a schedule, active or not. -/
def scheduleVersion (version : Nat) (status : ScheduleStatus) : ScheduleRow :=
  { tenantID := "t", scheduleID := "s", version := version, userID := "u", agentID := "a", walletBindingID := "w",
    walletBindingVersion := 1, intentType := .payroll, grantID := "g", grantVersion := 1, delegationID := "d",
    delegationVersion := 1, status := status, specDigest := "template", scheduleDigest := "digest", timezone := "UTC",
    startAt := 1000, endAt := none, maxRecipients := 1, recurrence := .daily, missedRun := .skip,
    concurrency := .forbidOverlap, createdAt := 1000, updatedAt := 1000 }

/-- A due occurrence of a version. -/
def dueOccurrence (id : String) (version : Nat) : OccurrenceRow :=
  { tenantID := "t", occurrenceID := id, occurrenceKey := id, scheduleID := "s", scheduleVersion := version,
    scheduleDigest := "digest", scheduledAt := 1000, status := .due, grantID := "g", grantVersion := 1, intentID := none,
    approvalID := none, executionID := none, leaseOwner := none, leaseUntil := none, fence := 1, reasonCode := none,
    createdAt := 1000 }

/-- Two workers claim at the same time. -/
def workerRequest (worker : Bool) : ClaimRequest := ⟨none, 5000, if worker then "b" else "a", 1000⟩

def twoWorkers (occurrences : List OccurrenceRow) : ClaimState Bool := ⟨occurrences, fun _ => .idle⟩

theorem oneActiveVersion_sample : OneActiveVersion [scheduleVersion 1 .active] := by
  intro a isA b isB _ _ _ _
  rw [List.mem_singleton.mp isA, List.mem_singleton.mp isB]

/-- The second worker waits for the lock with the rows from before the first worker's commit, and then finds the
schedule taken. -/
theorem claims_never_overlap_waiting :
    ∃ reached, Relation.ReflTransGen (ClaimMove [scheduleVersion 1 .active])
        (twoWorkers [dueOccurrence "o1" 1, dueOccurrence "o2" 1]) reached ∧
      (∃ row ∈ reached.occurrences, row.status = .claimed) ∧ NoOverlap reached.occurrences := by
  let only := scheduleVersion 1 .active
  have run : Relation.ReflTransGen (ClaimMove [scheduleVersion 1 .active])
      (twoWorkers [dueOccurrence "o1" 1, dueOccurrence "o2" 1]) _ :=
    .tail (.tail (.tail (.tail (.tail (.tail (.tail (.tail (.tail .refl
      (.start _ false (workerRequest false) rfl))
      (.start _ true (workerRequest true) rfl))
      (.lockSchedule _ false _ _ (fun _ => false) only rfl (by decide +kernel) (by
        intro j held locked
        cases j <;> cases locked)))
      (.look _ false _ _ rfl))
      (.lockOccurrence _ false _ _ _ (fun _ => false) (dueOccurrence "o1" 1) (dueOccurrence "o1" 1)
        rfl (by decide +kernel) (by
          intro j held locked
          cases j <;> cases locked) (by decide +kernel)))
      (.update _ false _ _ _ rfl))
      (.commit _ false _ _ _ rfl))
      (.lockSchedule _ true _ [dueOccurrence "o1" 1, dueOccurrence "o2" 1] (fun _ => false) only rfl
        (by decide +kernel) (by
          intro j held locked
          cases j <;> cases locked)))
      (.look _ true _ _ rfl)
  refine ⟨_, run, ⟨(workerRequest false).claim (dueOccurrence "o1" 1), by decide +kernel, rfl⟩, ?_⟩
  refine claims_never_overlap _ _ _ (by decide +kernel) ?_ (fun _ => rfl) oneActiveVersion_sample run
  intro a isA _ _ _ _ progress
  simp only [twoWorkers, List.mem_cons, List.not_mem_nil, or_false] at isA
  rcases isA with rfl | rfl <;> cases progress

/-- A paused and resumed schedule has two active versions, which two workers claim from at the same time. -/
theorem resumed_schedule_overlaps :
    ∃ reached, Relation.ReflTransGen
        (ClaimMove [scheduleVersion 1 .active, scheduleVersion 2 .paused, scheduleVersion 3 .active])
        (twoWorkers [dueOccurrence "o1" 1, dueOccurrence "o3" 3]) reached ∧
      ¬ NoOverlap reached.occurrences := by
  let old := scheduleVersion 1 .active
  let new := scheduleVersion 3 .active
  refine ⟨_, .tail (.tail (.tail (.tail (.tail (.tail (.tail (.tail (.tail (.tail (.tail (.tail .refl
    (.start _ false (workerRequest false) rfl))
    (.start _ true (workerRequest true) rfl))
    (.lockSchedule _ false _ _ (fun _ => false) old rfl (by decide +kernel) ?freeOld))
    (.lockSchedule _ true _ _ (fun key => key = old.key) new rfl (by decide +kernel) ?freeNew))
    (.look _ false _ _ rfl))
    (.look _ true _ _ rfl))
    (.lockOccurrence _ false _ _ _ (fun _ => false) (dueOccurrence "o1" 1) (dueOccurrence "o1" 1) rfl
      (by decide +kernel) ?freeFirst (by decide +kernel)))
    (.lockOccurrence _ true _ _ _ (fun _ => false) (dueOccurrence "o3" 3) (dueOccurrence "o3" 3) rfl
      (by decide +kernel) ?freeThird (by decide +kernel)))
    (.update _ false _ _ _ rfl))
    (.update _ true _ _ _ rfl))
    (.commit _ false _ _ _ rfl))
    (.commit _ true _ _ _ rfl), ?overlap⟩
  case freeOld | freeFirst =>
    intro j held locked
    cases j <;> cases locked
  case freeNew | freeThird =>
    intro j held locked
    cases j <;> cases locked
    decide
  case overlap =>
    intro alone
    have same := alone ((workerRequest false).claim (dueOccurrence "o1" 1)) (by decide +kernel)
      ((workerRequest true).claim (dueOccurrence "o3" 3)) (by decide +kernel) rfl rfl rfl rfl
    exact absurd same (by decide)

end WizPay.Autonomy
