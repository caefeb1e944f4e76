import WizPay.Autonomy.Controls

/-!
# Stored schedules and occurrences

The table has no columns for the weekday and the day of the month, and its timestamps have microseconds; the loader
checks the digest over what it has read.
-/
namespace WizPay.Autonomy

open Checks GoText GoTime Storage

section Statement

variable (zones : TimeZones) (scope : Scope) (s : Schedule)

/-- The schedule is loaded with its principal, specification and digest. -/
def ScheduleReturns (t : AutonomyTables) : Prop :=
  ∃ loaded, loadAutonomySchedule zones t scope s.id s.version = .ok loaded ∧ loaded.principal = s.principal ∧
    loaded.spec = s.spec ∧ loaded.digest = s.digest

/-- The row is the occurrence's, as far as its key binds it. -/
structure KeyBound (o : Occurrence) (row : OccurrenceRow) : Prop where
  id : row.occurrenceID = o.id
  schedule : row.scheduleID = o.scheduleID ∧ row.scheduleVersion = o.scheduleVersion
  instant : row.scheduledAt = truncMicros o.scheduledAt
  lively : row.fence ≠ 0 ∧ row.createdAt ≠ 0 ∧ row.status.valid = true ∧ (row.reasonCode.map ReasonCode.valid).getD true = true

/-- The occurrence is loaded with its ID, key, instant and bindings. -/
def OccurrenceReturns (t : AutonomyTables) (o : Occurrence) : Prop :=
  ∃ loaded, loadAutonomyOccurrence t scope o.id = .ok loaded ∧ loaded.id = o.id ∧ loaded.key = o.key ∧
    loaded.scheduledAt = o.scheduledAt ∧ loaded.scheduleID = o.scheduleID ∧ loaded.scheduleVersion = o.scheduleVersion ∧
    loaded.scheduleDigest = o.scheduleDigest ∧ loaded.grantID = o.grantID ∧ loaded.grantVersion = o.grantVersion

/-- Every occurrence that is made for an instant of the recurrence and accepted in a store with the schedule's row is
read back from it. -/
def OccurrencesReturn (t : AutonomyTables) : Prop :=
  ∀ (u : AutonomyTables) (after instant now : Int) (fuel : Nat),
    s.spec.recurrence.next zones after fuel = some instant → truncMicros now ≠ 0 →
    Table.lookup ScheduleRow.key (scope.tenantID, s.id, s.version) u.schedules =
      Table.lookup ScheduleRow.key (scope.tenantID, s.id, s.version) t.schedules →
    (u.occurrences.map OccurrenceRow.id).Nodup →
    (∀ row ∈ u.occurrences, row.uniqueKey = (scope.tenantID, (newOccurrence s instant now).key) →
      KeyBound (newOccurrence s instant now) row) →
    (saveAutonomyOccurrence u scope (newOccurrence s instant now)).1 = .ok () →
    OccurrenceReturns scope (saveAutonomyOccurrence u scope (newOccurrence s instant now)).2 (newOccurrence s instant now)

/-- What the columns keep: no weekday or day of the month, whole microseconds, an explicit time zone, and the scope's
own tenant and user. -/
structure Storable : Prop where
  tenant : s.principal.tenantID = scope.tenantID
  user : s.principal.userID = scope.actorID
  weekday : s.spec.recurrence.weekday = 0
  dayOfMonth : s.spec.recurrence.dayOfMonth = 0
  start : WholeMicros s.spec.recurrence.start
  stop : WholeMicros s.spec.recurrence.stop
  location : s.spec.recurrence.location ≠ "Local"
  dated : truncMicros s.createdAt ≠ 0 ∧ truncMicros s.updatedAt ≠ 0

/-- A version that is not stored can be kept by the columns; a version that is stored returns already. -/
def Returnable (t : AutonomyTables) : Prop :=
  match Table.lookup ScheduleRow.key (scope.tenantID, s.id, s.version) t.schedules with
  | none => Storable scope s
  | some _ => ScheduleReturns zones scope s t

end Statement

section Schedules

variable {zones : TimeZones} {t : AutonomyTables} {scope : Scope} {s : Schedule}

theorem nullableTime_getD {value : Int} (whole : WholeMicros value) : (nullableTime value).getD 0 = value := by
  unfold nullableTime
  split
  next zero => rw [zero]; rfl
  next => exact whole.trunc

/-- The columns keep everything but the part of the two dates below a microsecond. -/
theorem Storable.restore (storable : Storable scope s) (valid : s.Valid zones) :
    (scheduleRow scope s).restore scope =
      { s with createdAt := truncMicros s.createdAt, updatedAt := truncMicros s.updatedAt } := by
  have recurrence : s.spec.recurrence.Valid zones := by
    have spec := valid.spec
    simp only [ScheduleSpec.validate, guard_ok] at spec
    exact Recurrence.validate_ok.mp spec.1
  obtain ⟨tenant, user, weekday, dayOfMonth, start, stop, location, -⟩ := storable
  obtain ⟨id, version, ⟨tenantID, userID, agentID⟩, walletID, walletVersion, grantID, grantVersion, delegationID,
    delegationVersion, createdAt, updatedAt, status, ⟨⟨frequency, begins, startIsLocal, ends, day, monthDay, zone⟩,
      missed, concurrency, maxRecipients, intent, templateDigest⟩, digest⟩ := s
  dsimp only at tenant weekday dayOfMonth start stop location
  have explicit : startIsLocal = false := recurrence.explicit
  subst tenant weekday dayOfMonth explicit
  simp only [ScheduleRow.restore, scheduleRow, nullableTime_getD stop, start.trunc, location, decide_false]

theorem Storable.valid (storable : Storable scope s) (valid : s.Valid zones) :
    ({ s with createdAt := truncMicros s.createdAt, updatedAt := truncMicros s.updatedAt } : Schedule).Valid zones := by
  obtain ⟨identity, principal, spec, status, digest⟩ := valid
  refine ⟨?_, principal, spec, status, digest⟩
  simp only [not_or, Bool.not_eq_true, isZero] at identity ⊢
  obtain ⟨id, version, wallet, walletVersion, grant, grantVersion, delegation, delegationVersion, -, -⟩ := identity
  exact ⟨id, version, wallet, walletVersion, grant, grantVersion, delegation, delegationVersion,
    by simpa using storable.dated.1, by simpa using storable.dated.2⟩

/-- What is read back from the row of a new version is the schedule exactly if the columns keep it. -/
theorem scheduleReturns_new_iff (built : scope.validate = .ok ()) (fits : fitsBigint s.version = true)
    (valid : s.Valid zones)
    (stored : Table.lookup ScheduleRow.key (scope.tenantID, s.id, s.version) t.schedules = some (scheduleRow scope s)) :
    ScheduleReturns zones scope s t ↔ Storable scope s := by
  have located : (zones.loadLocation s.spec.recurrence.location).isSome = true := by
    have spec := valid.spec
    simp only [ScheduleSpec.validate, guard_ok] at spec
    exact (Recurrence.validate_ok.mp spec.1).loads
  constructor
  · rintro ⟨loaded, read, principal, spec, -⟩
    obtain ⟨-, -, row, found, owned, -, rfl, readable⟩ := loadAutonomySchedule_ok.mp read
    rw [stored] at found
    obtain rfl := Option.some.inj found
    have restored := Schedule.validate_ok.mp readable
    have recurrence : ((scheduleRow scope s).restore scope).spec.recurrence.Valid zones := by
      have validSpec := restored.spec
      simp only [ScheduleSpec.validate, guard_ok] at validSpec
      exact Recurrence.validate_ok.mp validSpec.1
    have columns := congrArg ScheduleSpec.recurrence spec
    constructor
    case tenant => exact (congrArg Principal.tenantID principal).symm
    case user => exact owned
    case weekday => exact (congrArg Recurrence.weekday columns).symm
    case dayOfMonth => exact (congrArg Recurrence.dayOfMonth columns).symm
    case start => exact truncMicros_eq_self_iff.mp (congrArg Recurrence.start columns)
    case stop =>
      have stop : (nullableTime s.spec.recurrence.stop).getD 0 = s.spec.recurrence.stop := congrArg Recurrence.stop columns
      unfold nullableTime at stop
      split at stop
      next zero => rw [zero]; decide
      next => exact truncMicros_eq_self_iff.mp stop
    case location =>
      have explicit : decide (s.spec.recurrence.location = "Local") = false := recurrence.explicit
      simpa using explicit
    case dated =>
      have dates := restored.identity
      simp only [not_or, isZero_iff] at dates
      obtain ⟨-, -, -, -, -, -, -, -, created, updated⟩ := dates
      exact ⟨created, updated⟩
  · intro storable
    have restored := storable.restore valid
    refine ⟨(scheduleRow scope s).restore scope, ?_, ?_⟩
    · refine loadAutonomySchedule_ok.mpr ⟨built, fits, _, stored, storable.user, located, rfl, ?_⟩
      rw [restored]
      exact Schedule.validate_ok.mpr (storable.valid valid)
    · rw [restored]
      exact ⟨rfl, rfl, rfl⟩

end Schedules

section Occurrences

variable {zones : TimeZones} {t : AutonomyTables} {scope : Scope} {s : Schedule} {o : Occurrence}

/-- An accepted occurrence is inserted, or its key is taken by a row with the same bindings. -/
theorem saveAutonomyOccurrence_ok (saved : (saveAutonomyOccurrence t scope o).1 = .ok ()) :
    scope.validate = .ok () ∧ o.validate = .ok () ∧
      ((Table.lookup OccurrenceRow.id (scope.tenantID, o.id) t.occurrences = none ∧
          (saveAutonomyOccurrence t scope o).2 = { t with occurrences := t.occurrences ++ [occurrenceRow scope o] }) ∨
        ∃ existing, Table.lookup OccurrenceRow.uniqueKey (scope.tenantID, o.key) t.occurrences = some existing ∧
          existing.scheduleDigest = o.scheduleDigest ∧ existing.grantID = o.grantID ∧
          existing.grantVersion = o.grantVersion ∧ (saveAutonomyOccurrence t scope o).2 = t) := by
  unfold saveAutonomyOccurrence at saved ⊢
  dsimp only at saved ⊢
  split at saved
  · cases saved
  next checked =>
    simp only [guard_ok] at checked
    obtain ⟨built, -, valid⟩ := checked
    refine ⟨built, valid, ?_⟩
    cases inserted : insertOccurrence t (occurrenceRow scope o) with
    | mk answer after =>
      rw [inserted] at saved
      rcases answer with e | _ | _
      · cases saved
      · have same : after = t := by
          have cases := inserted
          unfold insertOccurrence at cases
          split_ifs at cases <;> cases cases
          rfl
        subst same
        dsimp only at saved ⊢
        split at saved
        · cases saved
        next existing found =>
          split at saved
          next alike => exact .inr ⟨existing, found, alike.1, alike.2.1, alike.2.2, by rw [if_pos alike]⟩
          next => cases saved
      · left
        have cases := inserted
        unfold insertOccurrence at cases
        split_ifs at cases with large known taken dangling <;> cases cases
        exact ⟨Option.not_isSome_iff_eq_none.mp taken, rfl⟩

/-- A row with the key of a valid occurrence and its bindings reads back as that occurrence. -/
theorem KeyBound.returns {row : OccurrenceRow} (bound : KeyBound o row) (built : scope.validate = .ok ())
    (valid : o.validate = .ok ()) (whole : WholeMicros o.scheduledAt) (ids : (t.occurrences.map OccurrenceRow.id).Nodup)
    (listed : row ∈ t.occurrences) (key : row.uniqueKey = (scope.tenantID, o.key))
    (digest : row.scheduleDigest = o.scheduleDigest) (grant : row.grantID = o.grantID)
    (grantVersion : row.grantVersion = o.grantVersion) (owned : occurrenceOwner t row = some scope.actorID) :
    OccurrenceReturns scope t o := by
  simp only [OccurrenceRow.uniqueKey, Prod.mk.injEq] at key
  have found := Table.lookup_of_mem ids listed
  have id : row.id = (scope.tenantID, o.id) := by rw [OccurrenceRow.id, key.1, bound.id]
  have instant : row.scheduledAt = o.scheduledAt := bound.instant.trans whole.trunc
  rw [id] at found
  have readable : row.restore.validate = .ok () := by
    simp only [Occurrence.validate, checks_ok, not_or] at valid ⊢
    simp only [OccurrenceRow.restore, bound.id, key.2, bound.schedule.1, bound.schedule.2, digest, grant, grantVersion,
      instant]
    obtain ⟨⟨hasID, hasKey, hasSchedule, hasVersion, hasDigest, hasGrant, hasGrantVersion, scheduled, -, -⟩, -, keyed,
      hashed, -⟩ := valid
    exact ⟨⟨hasID, hasKey, hasSchedule, hasVersion, hasDigest, hasGrant, hasGrantVersion, scheduled,
      by simpa using bound.lively.2.1, bound.lively.1⟩, by simpa using bound.lively.2.2.1, keyed, hashed,
      by simpa using bound.lively.2.2.2⟩
  refine ⟨row.restore, ?_, bound.id, key.2, instant, bound.schedule.1, bound.schedule.2, digest, grant, grantVersion⟩
  simp only [loadAutonomyOccurrence, built, found, checks_ok, pure_ok, not_not]
  exact ⟨trivial, owned, readable, trivial⟩

/-- The instants of a recurrence that starts on a microsecond are whole microseconds. -/
theorem wholeMicros_of_next {r : Recurrence} {after instant : Int} {fuel : Nat} (whole : WholeMicros r.start)
    (produced : r.next zones after fuel = some instant) : WholeMicros instant := by
  have same := Recurrence.next_nanosecond produced
  unfold WholeMicros microsecond at *
  unfold second at same
  omega

theorem occurrencesReturn_of_whole {row : ScheduleRow} (whole : WholeMicros s.spec.recurrence.start)
    (stored : Table.lookup ScheduleRow.key (scope.tenantID, s.id, s.version) t.schedules = some row)
    (owned : row.userID = scope.actorID) : OccurrencesReturn zones scope s t := by
  intro u after instant now fuel produced clock sameRow ids bound saved
  have onMicros := wholeMicros_of_next whole produced
  -- the join of the occurrence with its schedule version finds the actor
  have owner : ∀ (tables : AutonomyTables) (occurrence : OccurrenceRow), tables.schedules = u.schedules →
      occurrence.schedule = (scope.tenantID, s.id, s.version) → occurrenceOwner tables occurrence = some scope.actorID := by
    intro tables occurrence schedules key
    rw [occurrenceOwner, schedules, key, sameRow, stored, Option.map_some, owned]
  obtain ⟨built, valid, ⟨absent, inserted⟩ | ⟨existing, found, digest, grant, grantVersion, unchanged⟩⟩ :=
    saveAutonomyOccurrence_ok saved
  · rw [inserted]
    have row : KeyBound (newOccurrence s instant now) (occurrenceRow scope (newOccurrence s instant now)) :=
      ⟨rfl, ⟨rfl, rfl⟩, rfl, Nat.one_ne_zero, clock, rfl, rfl⟩
    exact row.returns built valid onMicros (Table.nodup_append_singleton ids absent) (by simp) rfl rfl rfl rfl
      (owner _ _ rfl rfl)
  · rw [unchanged]
    obtain ⟨key, listed⟩ := Table.lookup_some found
    have isBound := bound existing listed key
    refine isBound.returns built valid onMicros ids listed key digest grant grantVersion (owner _ _ rfl ?_)
    have tenant : existing.tenantID = scope.tenantID := congrArg Prod.fst key
    rw [OccurrenceRow.schedule, tenant, isBound.schedule.1, isBound.schedule.2]
    rfl

end Occurrences

/-- A save that succeeds was made under a valid scope, with versions that the columns can hold. -/
theorem saveAutonomySchedule_checked {zones : TimeZones} {t : AutonomyTables} {scope : Scope} {s : Schedule}
    (saved : (saveAutonomySchedule zones t scope s).1 = .ok ()) :
    scope.validate = .ok () ∧ fitsBigint s.version = true := by
  unfold saveAutonomySchedule at saved
  split at saved
  · cases saved
  next checked =>
    simp only [guard_ok] at checked
    refine ⟨checked.1, ?_⟩
    by_contra large
    have refused : insertSchedule t (scheduleRow scope s) = (.error (.database .other), t) := by
      rw [insertSchedule, if_pos]
      rw [Bool.not_eq_true] at large
      simp [scheduleRow, large]
    rw [refused] at saved
    cases saved

/-- A saved schedule and the occurrences of its recurrence return exactly if the columns keep the schedule or, for a
version that was stored before, if that version returned already. -/
theorem schedule_roundTrip_iff (zones : TimeZones) (t : AutonomyTables) (scope : Scope) (s : Schedule)
    (valid : s.validate zones = .ok ()) (stamps : ∀ row ∈ t.schedules, WholeMicros row.startAt)
    (saved : (saveAutonomySchedule zones t scope s).1 = .ok ()) :
    (ScheduleReturns zones scope s (saveAutonomySchedule zones t scope s).2 ∧
        OccurrencesReturn zones scope s (saveAutonomySchedule zones t scope s).2) ↔
      Returnable zones scope s t := by
  obtain ⟨built, fits⟩ := saveAutonomySchedule_checked saved
  have isValid := Schedule.validate_ok.mp valid
  rcases saveAutonomySchedule_cases zones t scope s with ⟨unchanged, stored⟩ | ⟨absent, inserted⟩
  · obtain ⟨row, found⟩ := Option.isSome_iff_exists.mp (stored saved)
    rw [unchanged, Returnable, found]
    refine ⟨And.left, fun returns => ⟨returns, ?_⟩⟩
    obtain ⟨loaded, read, -, spec, -⟩ := returns
    obtain ⟨-, -, other, foundOther, owned, -, rfl, -⟩ := loadAutonomySchedule_ok.mp read
    have start : other.startAt = s.spec.recurrence.start := congrArg (fun spec => spec.recurrence.start) spec
    apply occurrencesReturn_of_whole _ foundOther owned
    rw [← start]
    exact stamps other (Table.lookup_some foundOther).2
  · rw [inserted, Returnable, absent]
    have found : Table.lookup ScheduleRow.key (scope.tenantID, s.id, s.version)
        (t.schedules ++ [scheduleRow scope s]) = some (scheduleRow scope s) := by
      rw [Table.lookup_append_singleton, absent, Option.none_or]
      exact if_pos rfl
    have returns := scheduleReturns_new_iff (t := { t with schedules := t.schedules ++ [scheduleRow scope s] }) built fits
      isValid found
    refine ⟨fun both => returns.mp both.1, fun storable => ⟨returns.mpr storable, ?_⟩⟩
    exact occurrencesReturn_of_whole storable.start found storable.user

/-- A store with the grant and the delegation of the sample schedules, and no schedule. -/
def grantedTables : AutonomyTables :=
  { schedules := [], occurrences := [], reservations := [], grants := [("t", "g", 1)], delegations := [("t", "d", 1)],
    emergencyStops := [] }

theorem dailySchedule_saved : (saveAutonomySchedule hostZones grantedTables ownerScope dailySchedule).1 = .ok () := by
  rw [saveAutonomySchedule_new ownerScope_valid dailySchedule_valid (by decide) rfl List.mem_cons_self List.mem_cons_self]

/-- A daily schedule in UTC that starts on a microsecond. -/
theorem schedule_roundTrip_daily :
    ScheduleReturns hostZones ownerScope dailySchedule
        (saveAutonomySchedule hostZones grantedTables ownerScope dailySchedule).2 ∧
      OccurrencesReturn hostZones ownerScope dailySchedule
        (saveAutonomySchedule hostZones grantedTables ownerScope dailySchedule).2 := by
  have storable : Storable ownerScope dailySchedule :=
    ⟨rfl, rfl, rfl, rfl, by decide, by decide, by decide, by decide, by decide⟩
  have returnable : Returnable hostZones ownerScope dailySchedule grantedTables := by
    unfold Returnable
    exact storable
  have stamps : ∀ row ∈ grantedTables.schedules, WholeMicros row.startAt := fun _ listed => nomatch listed
  exact (schedule_roundTrip_iff hostZones grantedTables ownerScope dailySchedule dailySchedule_valid stamps
    dailySchedule_saved).mpr returnable

/-- The same schedule on Mondays. -/
def mondaySchedule : Schedule :=
  { dailyDraft with
    spec := { dailyDraft.spec with recurrence := { dailyDraft.spec.recurrence with
      frequency := .weekly
      weekday := 1 } } }.withStatus .active 1000

theorem mondaySchedule_valid : mondaySchedule.validate hostZones = .ok () :=
  Schedule.validate_ok.mpr ⟨by decide, dailyDraft_principal, by decide +kernel, rfl, Schedule.withStatus_digest _ _ _⟩

/-- A weekly schedule on Mondays is saved and cannot be loaded as what it is. -/
theorem monday_schedule_lost :
    (saveAutonomySchedule hostZones grantedTables ownerScope mondaySchedule).1 = .ok () ∧
      ¬ ScheduleReturns hostZones ownerScope mondaySchedule
        (saveAutonomySchedule hostZones grantedTables ownerScope mondaySchedule).2 := by
  have saved := saveAutonomySchedule_new (t := grantedTables) ownerScope_valid mondaySchedule_valid (by decide) rfl
    (.head _) (.head _)
  rw [saved]
  refine ⟨rfl, ?_⟩
  intro returns
  have found := Table.lookup_head ScheduleRow.key (scheduleRow ownerScope mondaySchedule) []
  have storable := (scheduleReturns_new_iff (t := { grantedTables with
    schedules := [scheduleRow ownerScope mondaySchedule] }) ownerScope_valid (by decide)
    (Schedule.validate_ok.mp mondaySchedule_valid) found).mp returns
  exact absurd storable.weekday (by decide)

end WizPay.Autonomy
