import WizPay.Storage.AutonomyRepository

/-!
# Schedule controls

`SetScheduleStatus` of the autonomy service, and what it does to later claims. A status change stores a new version;
due occurrences keep pointing to the version they were made for.
-/
namespace WizPay.Autonomy

open Checks GoText GoTime Storage

/-- What the service learns about its caller, whether the audit record is written, and the clock. -/
structure ControlCaller where
  scope : Except Error Scope
  agentID : Except Error String
  audited : Except Error Unit
  now : Int

/-- The next version of the schedule that `SetScheduleStatus` saves. -/
def Schedule.withStatus (s : Schedule) (status : ScheduleStatus) (now : Int) : Schedule :=
  let next := { s with version := s.version + 1, status := status, updatedAt := now }
  { next with digest := next.computeDigest }

theorem Schedule.withStatus_digest (s : Schedule) (status : ScheduleStatus) (now : Int) :
    (s.withStatus status now).digest = (s.withStatus status now).computeDigest := rfl

/-- The checks of `SetScheduleStatus` before the save. -/
def checkScheduleStatus (zones : TimeZones) (t : AutonomyTables) (caller : ControlCaller) (id : String) (version : Nat)
    (status : ScheduleStatus) : Except Error (Scope × Schedule) := do
  let scope ← caller.scope
  let value ← loadAutonomySchedule zones t scope id version
  rejectIf (caller.agentID.toOption ≠ some value.principal.agentID) (.text "schedule agent does not match verified client")
  rejectIf (status.valid = false) (.text "invalid schedule status")
  rejectIf (validScheduleTransition value.status status = false) (.text "invalid schedule status transition")
  caller.audited
  pure (scope, value.withStatus status caller.now)

def setScheduleStatus (zones : TimeZones) (t : AutonomyTables) (caller : ControlCaller) (id : String) (version : Nat)
    (status : ScheduleStatus) : Answer (Scope × Schedule) :=
  match checkScheduleStatus zones t caller id version status with
  | .error e => (.error e, t)
  | .ok (scope, next) =>
    let saved := saveAutonomySchedule zones t scope next
    (saved.1.map fun _ => (scope, next), saved.2)

/-! ### Histories -/

inductive AutonomyCall
  | saveSchedule (scope : Scope) (value : Schedule)
  | setStatus (caller : ControlCaller) (id : String) (version : Nat) (status : ScheduleStatus)
  | saveOccurrence (scope : Scope) (value : Occurrence)
  | claimDue (scope : Scope) (now : Int) (worker : String) (lease : Int)
  | claimNext (worker : String) (now lease : Int)
  | block (scope : Scope) (value : Occurrence) (reason : ReasonCode)
  | bindApproval (scope : Scope) (value : Occurrence) (approvalID : String)

/-- What a call tells about a schedule: an occurrence was handed to a worker, or a status was set. -/
inductive Observed
  | nothing
  | claimed (tenantID : String) (o : Occurrence)
  | changed (tenantID id : String) (status : ScheduleStatus)

namespace Observed

def ofStatus (id : String) (status : ScheduleStatus) : Except Error (Scope × Schedule) → Observed
  | .ok (scope, _) => changed scope.tenantID id status
  | .error _ => nothing

def ofClaim (tenantID : String) : Except Error (Option Occurrence) → Observed
  | .ok (some o) => claimed tenantID o
  | _ => nothing

def ofClaimNext : Except Error (Option (Scope × Occurrence)) → Observed
  | .ok (some (scope, o)) => claimed scope.tenantID o
  | _ => nothing

end Observed

def AutonomyCall.perform (zones : TimeZones) (t : AutonomyTables) : AutonomyCall → Observed × AutonomyTables
  | saveSchedule scope value => (.nothing, (saveAutonomySchedule zones t scope value).2)
  | setStatus caller id version status =>
    let answer := setScheduleStatus zones t caller id version status
    (.ofStatus id status answer.1, answer.2)
  | saveOccurrence scope value => (.nothing, (saveAutonomyOccurrence t scope value).2)
  | claimDue scope now worker lease =>
    let answer := claimAutonomyDue t scope now worker lease
    (.ofClaim scope.tenantID answer.1, answer.2)
  | claimNext worker now lease =>
    let answer := claimNextAutonomyDue t worker now lease
    (.ofClaimNext answer.1, answer.2)
  | block scope value reason => (.nothing, (blockAutonomyOccurrence t scope value reason).2)
  | bindApproval scope value approvalID => (.nothing, (bindAutonomyApproval t scope value approvalID).2)

/-- What the successful status changes so far ask for. -/
inductive Halt
  | running | paused | revoked
deriving DecidableEq

section Claims

variable (zones : TimeZones) (tenantID id : String)

def Halt.after (halt : Halt) : Observed → Halt
  | .changed tenant schedule status =>
    if tenant = tenantID ∧ schedule = id ∧ halt ≠ .revoked then
      match status with
      | .paused => .paused
      | .revoked => .revoked
      | _ => .running
    else halt
  | _ => halt

/-- No occurrence of the schedule is claimed while it is paused or revoked. -/
def ClaimsHeed (t : AutonomyTables) (halt : Halt) : List AutonomyCall → Prop
  | [] => True
  | call :: rest =>
    (∀ o, (call.perform zones t).1 = .claimed tenantID o → o.scheduleID = id → halt = .running) ∧
      ClaimsHeed (call.perform zones t).2 (halt.after tenantID id (call.perform zones t).1) rest

/-- The row is the latest version of the schedule. -/
structure Newest (t : AutonomyTables) (row : ScheduleRow) : Prop where
  stored : row ∈ t.schedules
  tenant : row.tenantID = tenantID
  named : row.scheduleID = id
  latest : ∀ other ∈ t.schedules, other.tenantID = tenantID → other.scheduleID = id → other.version ≤ row.version

/-- The call finds the schedule as its latest version has it: a claim finds no due or claimed occurrence of an older
version, a new version is saved only over an active one, and a status is set on the latest version. -/
def FollowsNewest (t : AutonomyTables) : AutonomyCall → Prop
  | .saveSchedule scope value =>
    scope.tenantID = tenantID → value.id = id →
      (Table.lookup ScheduleRow.key (tenantID, id, value.version) t.schedules).isSome = true ∨
        ∀ row, Newest tenantID id t row → row.status = .active
  | .setStatus caller schedule version _ =>
    ∀ scope, caller.scope = .ok scope → scope.tenantID = tenantID → schedule = id →
      ∀ row ∈ t.schedules, row.tenantID = tenantID → row.scheduleID = id → row.version ≤ version
  | .claimDue .. | .claimNext .. =>
    ∀ row ∈ t.occurrences, row.tenantID = tenantID → row.scheduleID = id → row.status = .due ∨ row.status = .claimed →
      ∀ schedule ∈ t.schedules, schedule.tenantID = tenantID → schedule.scheduleID = id →
        schedule.version ≤ row.scheduleVersion
  | _ => True

def AllFollowNewest (t : AutonomyTables) : List AutonomyCall → Prop
  | [] => True
  | call :: rest => FollowsNewest tenantID id t call ∧ AllFollowNewest (call.perform zones t).2 rest

end Claims

/-- The scope is one that `NewScope` returns. -/
def ScopeBuilt (scope : Scope) : Prop := newScope scope.tenantID scope.actorID scope.requestID scope.traceID = .ok scope

/-- Every scope that the call is made under was built by `NewScope`. -/
def AutonomyCall.Scoped : AutonomyCall → Prop
  | .saveSchedule scope _ | .saveOccurrence scope _ | .claimDue scope .. | .block scope .. | .bindApproval scope .. =>
    ScopeBuilt scope
  | .setStatus caller .. => ∀ scope, caller.scope = .ok scope → ScopeBuilt scope
  | .claimNext .. => True

/-- Unique keys, and tenants as scopes have them. -/
structure StoreSound (t : AutonomyTables) : Prop where
  schedules : (t.schedules.map ScheduleRow.key).Nodup
  occurrences : (t.occurrences.map OccurrenceRow.id).Nodup
  trimmed : ∀ row ∈ t.schedules, trimSpace row.tenantID = row.tenantID

/-! ### The tables after a call -/

variable {o : Occurrence} {changed : AutonomyTables} {caller : ControlCaller} {version : Nat}

section Tables

variable {zones : TimeZones} {t : AutonomyTables} {scope : Scope}

theorem insertSchedule_cases (t : AutonomyTables) (row : ScheduleRow) :
    (∃ answer, insertSchedule t row = (answer, t) ∧ answer ≠ .ok true) ∨
      (Table.lookup ScheduleRow.key row.key t.schedules = none ∧
        insertSchedule t row = (.ok true, { t with schedules := t.schedules ++ [row] })) := by
  unfold insertSchedule
  split_ifs with large taken dangling
  · exact .inl ⟨_, rfl, by simp⟩
  · exact .inl ⟨_, rfl, by simp⟩
  · exact .inl ⟨_, rfl, by simp⟩
  · exact .inr ⟨by simpa using taken, rfl⟩

/-- A save leaves the tables, or succeeds and adds the row of a version that was not stored. -/
theorem saveAutonomySchedule_cases (zones : TimeZones) (t : AutonomyTables) (scope : Scope) (value : Schedule) :
    (saveAutonomySchedule zones t scope value).2 = t ∧
        ((saveAutonomySchedule zones t scope value).1 = .ok () →
          (Table.lookup ScheduleRow.key (scope.tenantID, value.id, value.version) t.schedules).isSome = true) ∨
      (Table.lookup ScheduleRow.key (scope.tenantID, value.id, value.version) t.schedules = none ∧
        saveAutonomySchedule zones t scope value =
          (.ok (), { t with schedules := t.schedules ++ [scheduleRow scope value] })) := by
  unfold saveAutonomySchedule
  split
  · exact .inl ⟨rfl, by rintro ⟨⟩⟩
  rcases insertSchedule_cases t (scheduleRow scope value) with ⟨answer, left, notInserted⟩ | ⟨absent, inserted⟩
  · rw [left]
    rcases answer with e | inserted
    · exact .inl ⟨rfl, by rintro ⟨⟩⟩
    · cases inserted with
      | true => exact absurd rfl notInserted
      | false =>
        left
        dsimp only
        split
        · exact ⟨rfl, by rintro ⟨⟩⟩
        next existing found =>
          split
          · exact ⟨rfl, fun _ => by rw [found]; rfl⟩
          · exact ⟨rfl, by rintro ⟨⟩⟩
  · rw [inserted]
    exact .inr ⟨absent, rfl⟩

/-- An occurrence is added under an ID that is not stored; schedules are left. -/
theorem saveAutonomyOccurrence_cases (t : AutonomyTables) (scope : Scope) (value : Occurrence) :
    (saveAutonomyOccurrence t scope value).2 = t ∨
      (Table.lookup OccurrenceRow.id (scope.tenantID, value.id) t.occurrences = none ∧
        (saveAutonomyOccurrence t scope value).2 =
          { t with occurrences := t.occurrences ++ [occurrenceRow scope value] }) := by
  have insertion : (∃ answer, insertOccurrence t (occurrenceRow scope value) = (answer, t) ∧ answer ≠ .ok true) ∨
      (Table.lookup OccurrenceRow.id (scope.tenantID, value.id) t.occurrences = none ∧
        insertOccurrence t (occurrenceRow scope value) =
          (.ok true, { t with occurrences := t.occurrences ++ [occurrenceRow scope value] })) := by
    unfold insertOccurrence
    split_ifs with large known taken dangling
    · exact .inl ⟨_, rfl, by simp⟩
    · exact .inl ⟨_, rfl, by simp⟩
    · exact .inl ⟨_, rfl, by simp⟩
    · exact .inl ⟨_, rfl, by simp⟩
    · exact .inr ⟨Option.not_isSome_iff_eq_none.mp taken, rfl⟩
  unfold saveAutonomyOccurrence
  dsimp only
  split
  · exact .inl rfl
  rcases insertion with ⟨answer, left, notInserted⟩ | ⟨absent, inserted⟩
  · rw [left]
    left
    rcases answer with e | _ | _
    · rfl
    · dsimp only
      split
      · rfl
      · split <;> rfl
    · exact absurd rfl notInserted
  · rw [inserted]
    exact .inr ⟨absent, rfl⟩

/-- A claiming transaction changes one occurrence that an active schedule version has, or nothing. -/
theorem transact_cases (request : ClaimRequest) (t : AutonomyTables) :
    (request.transact t).1 = none ∧ (request.transact t).2 = t ∨
      ∃ schedule ∈ t.schedules, ∃ row ∈ t.occurrences, request.selects schedule = true ∧ row.schedule = schedule.key ∧
        (row.status = .due ∨ row.status = .claimed) ∧
        request.transact t = (some (schedule, request.claim row),
          { t with occurrences := Table.modify OccurrenceRow.id row.id request.claim t.occurrences }) := by
  unfold ClaimRequest.transact
  split
  · exact .inl ⟨rfl, rfl⟩
  next schedule selected =>
    split
    · exact .inl ⟨rfl, rfl⟩
    next row chosen =>
      obtain ⟨stored, selects, -⟩ := ClaimRequest.selectSchedule_some selected
      obtain ⟨candidate, -, -⟩ := ClaimRequest.selectOccurrence_some chosen
      obtain ⟨listed, ofSchedule, claimable, -⟩ := ClaimRequest.mem_candidates.mp candidate
      exact .inr ⟨schedule, stored, row, listed, selects, ofSchedule, ClaimRequest.claimable_status claimable, rfl⟩

/-- The row that a claim loads afterwards is the one that it updated. -/
theorem loaded_claim {request : ClaimRequest} {row : OccurrenceRow} (sound : StoreSound t)
    (listed : row ∈ t.occurrences) (tenant : row.tenantID = scope.tenantID)
    (loaded : loadAutonomyOccurrence
      { t with occurrences := Table.modify OccurrenceRow.id row.id request.claim t.occurrences } scope row.occurrenceID =
        .ok o) : o.scheduleID = row.scheduleID := by
  have keeps : ∀ row : OccurrenceRow, (request.claim row).id = row.id := fun _ => rfl
  have found : Table.lookup OccurrenceRow.id (scope.tenantID, row.occurrenceID)
      (Table.modify OccurrenceRow.id row.id request.claim t.occurrences) = some (request.claim row) := by
    have key : (scope.tenantID, row.occurrenceID) = row.id := by rw [← tenant, OccurrenceRow.id]
    rw [key, Table.lookup_modify_same keeps, Table.lookup_of_mem sound.occurrences listed, Option.map_some]
  simp only [loadAutonomyOccurrence, found, bind_ok, pure_ok] at loaded
  obtain ⟨-, -, -, -, -, -, rfl⟩ := loaded
  rfl

/-- A claimed occurrence belongs to an active schedule version and was due or claimed before. -/
structure ClaimedFrom (t : AutonomyTables) (tenantID : String) (o : Occurrence) (schedule : ScheduleRow)
    (row : OccurrenceRow) : Prop where
  stored : schedule ∈ t.schedules
  listed : row ∈ t.occurrences
  active : schedule.status = .active
  tenant : schedule.tenantID = tenantID
  named : o.scheduleID = schedule.scheduleID
  version : row.schedule = schedule.key
  status : row.status = .due ∨ row.status = .claimed

theorem transact_claimed {request : ClaimRequest} {schedule : ScheduleRow} {claimed : OccurrenceRow}
    (sound : StoreSound t) (claims : request.transact t = (some (schedule, claimed), changed))
    (tenant : schedule ∈ t.schedules → request.selects schedule = true → schedule.tenantID = scope.tenantID)
    (loaded : loadAutonomyOccurrence changed scope claimed.occurrenceID = .ok o) :
    ∃ schedule row, ClaimedFrom t scope.tenantID { o with fence := claimed.fence } schedule row := by
  rcases transact_cases request t with ⟨none, -⟩ | ⟨schedule, stored, row, listed, selects, version, status, changes⟩
  · rw [claims] at none
    cases none
  · rw [claims] at changes
    cases changes
    have keys := version
    simp only [OccurrenceRow.schedule, ScheduleRow.key, Prod.mk.injEq] at keys
    have ours := tenant stored selects
    have named := loaded_claim sound listed (keys.1.trans ours) loaded
    simp only [ClaimRequest.selects, Bool.and_eq_true, decide_eq_true_eq] at selects
    exact ⟨schedule, row, stored, listed, selects.1, ours, named.trans keys.2.1, version, status⟩

theorem claimAutonomyDue_claimed {now lease : Int} {worker : String} (sound : StoreSound t)
    (claimed : (claimAutonomyDue t scope now worker lease).1 = .ok (some o)) :
    ∃ schedule row, ClaimedFrom t scope.tenantID o schedule row := by
  unfold claimAutonomyDue at claimed
  dsimp only at claimed
  split at claimed
  · cases claimed
  split at claimed
  · cases claimed
  next claims =>
    obtain ⟨current, loaded, same⟩ := map_ok.mp claimed
    cases same
    refine transact_claimed sound claims (fun _ selects => ?_) loaded
    simp only [ClaimRequest.selects, Bool.and_eq_true, decide_eq_true_eq] at selects
    exact selects.2.1

theorem claimNextAutonomyDue_claimed {now lease : Int} {worker : String} (sound : StoreSound t)
    (claimed : (claimNextAutonomyDue t worker now lease).1 = .ok (some (scope, o))) :
    ∃ schedule row, ClaimedFrom t scope.tenantID o schedule row := by
  unfold claimNextAutonomyDue at claimed
  split at claimed
  · cases claimed
  split at claimed
  · cases claimed
  next schedule _ _ claims =>
    split at claimed
    · cases claimed
    next built made =>
      obtain ⟨current, loaded, same⟩ := map_ok.mp claimed
      cases same
      refine transact_claimed sound claims (fun stored _ => ?_) loaded
      simp only [newScope, bind_ok, pure_ok] at made
      obtain ⟨-, -, -, -, -, -, -, -, rfl⟩ := made
      exact (sound.trimmed schedule stored).symm

/-- Calls on occurrences leave the schedules and the IDs. -/
structure Beside (t changed : AutonomyTables) : Prop where
  schedules : changed.schedules = t.schedules
  ids : changed.occurrences.map OccurrenceRow.id = t.occurrences.map OccurrenceRow.id

theorem StoreSound.beside (sound : StoreSound t) (beside : Beside t changed) : StoreSound changed where
  schedules := by rw [beside.schedules]; exact sound.schedules
  occurrences := by rw [beside.ids]; exact sound.occurrences
  trimmed := by rw [beside.schedules]; exact sound.trimmed

theorem ScopeBuilt.trimmed (built : ScopeBuilt scope) : trimSpace scope.tenantID = scope.tenantID := by
  simp only [ScopeBuilt, newScope, bind_ok, pure_ok] at built
  obtain ⟨-, -, -, -, -, -, -, -, same⟩ := built
  exact congrArg Scope.tenantID same

theorem StoreSound.save (sound : StoreSound t) (built : ScopeBuilt scope) (value : Schedule) :
    StoreSound (saveAutonomySchedule zones t scope value).2 := by
  rcases saveAutonomySchedule_cases zones t scope value with ⟨unchanged, -⟩ | ⟨absent, inserted⟩
  · rw [unchanged]
    exact sound
  · rw [inserted]
    refine ⟨Table.nodup_append_singleton sound.schedules absent, sound.occurrences, ?_⟩
    intro row listed
    rcases List.mem_append.mp listed with old | new
    · exact sound.trimmed row old
    · rw [List.mem_singleton.mp new]
      exact built.trimmed

theorem transact_beside (request : ClaimRequest) (t : AutonomyTables) : Beside t (request.transact t).2 := by
  rcases transact_cases request t with ⟨-, unchanged⟩ | ⟨schedule, -, row, -, -, -, -, claims⟩
  · rw [unchanged]
    exact ⟨rfl, rfl⟩
  · rw [claims]
    exact ⟨rfl, Table.map_key_modify fun _ => rfl⟩

theorem claimAutonomyDue_beside (t : AutonomyTables) (scope : Scope) (now : Int) (worker : String) (lease : Int) :
    Beside t (claimAutonomyDue t scope now worker lease).2 := by
  have kept := transact_beside ⟨some scope, now, worker, lease⟩ t
  unfold claimAutonomyDue
  dsimp only
  split
  · exact ⟨rfl, rfl⟩
  · split <;> (rename_i transacted; rw [transacted] at kept; exact kept)

theorem claimNextAutonomyDue_beside (t : AutonomyTables) (worker : String) (now lease : Int) :
    Beside t (claimNextAutonomyDue t worker now lease).2 := by
  have kept := transact_beside ⟨none, now, worker, lease⟩ t
  unfold claimNextAutonomyDue
  split
  · exact ⟨rfl, rfl⟩
  · split
    next transacted => rw [transacted] at kept; exact kept
    next transacted =>
      rw [transacted] at kept
      split
      · exact ⟨rfl, rfl⟩
      · exact kept

theorem blockAutonomyOccurrence_beside (t : AutonomyTables) (scope : Scope) (value : Occurrence) (reason : ReasonCode) :
    Beside t (blockAutonomyOccurrence t scope value reason).2 := by
  unfold blockAutonomyOccurrence
  split
  · exact ⟨rfl, rfl⟩
  · split_ifs
    · exact ⟨rfl, rfl⟩
    · exact ⟨rfl, rfl⟩
    · refine ⟨rfl, Table.map_key_map ?_⟩
      intro row
      split <;> rfl

theorem bindAutonomyApproval_beside (t : AutonomyTables) (scope : Scope) (value : Occurrence) (approvalID : String) :
    Beside t (bindAutonomyApproval t scope value approvalID).2 := by
  unfold bindAutonomyApproval
  dsimp only
  split
  · exact ⟨rfl, rfl⟩
  · refine ⟨rfl, Table.map_key_map ?_⟩
    intro row
    split <;> rfl

end Tables

section Halting

variable {zones : TimeZones} {tenantID id : String} {t : AutonomyTables} {halt : Halt} {row : ScheduleRow}

theorem Newest.unique {other : ScheduleRow} (sound : StoreSound t) (first : Newest tenantID id t row)
    (second : Newest tenantID id t other) : row = other := by
  have versions : row.version = other.version :=
    Nat.le_antisymm (second.latest row first.stored first.tenant first.named)
      (first.latest other second.stored second.tenant second.named)
  have keys : row.key = other.key := by
    simp only [ScheduleRow.key, first.tenant, first.named, second.tenant, second.named, versions]
  have found := Table.lookup_of_mem sound.schedules first.stored
  rw [keys, Table.lookup_of_mem sound.schedules second.stored] at found
  exact (Option.some.inj found).symm

theorem Newest.append_other {added : ScheduleRow} (newest : Newest tenantID id t row)
    (other : ¬ (added.tenantID = tenantID ∧ added.scheduleID = id)) :
    Newest tenantID id { t with schedules := t.schedules ++ [added] } row := by
  refine ⟨List.mem_append_left _ newest.stored, newest.tenant, newest.named, ?_⟩
  intro later listed tenant named
  rcases List.mem_append.mp listed with old | new
  · exact newest.latest later old tenant named
  · rw [List.mem_singleton.mp new] at tenant named
    exact absurd ⟨tenant, named⟩ other

theorem Newest.of_schedules (newest : Newest tenantID id t row) (schedules : changed.schedules = t.schedules) :
    Newest tenantID id changed row := by
  obtain ⟨stored, tenant, named, latest⟩ := newest
  rw [← schedules] at stored latest
  exact ⟨stored, tenant, named, latest⟩

/-- The invariant of a run: while the schedule is halted, its latest version says so. -/
structure Halted (tenantID id : String) (t : AutonomyTables) (halt : Halt) : Prop where
  sound : StoreSound t
  held : halt ≠ .running → ∃ row, Newest tenantID id t row ∧ row.status ≠ .active ∧
    (halt = .revoked → row.status = .revoked)

theorem checkScheduleStatus_ok {schedule : String} {status : ScheduleStatus} {scope : Scope} {next : Schedule}
    (passed : checkScheduleStatus zones t caller schedule version status = .ok (scope, next)) :
    caller.scope = .ok scope ∧ status.valid = true ∧ next.id = schedule ∧ next.version = version + 1 ∧
      next.status = status ∧ ∃ row ∈ t.schedules, row.key = (scope.tenantID, schedule, version) ∧
        validScheduleTransition row.status status = true := by
  simp only [checkScheduleStatus, bind_ok, rejectIf_ok, pure_ok, Prod.mk.injEq] at passed
  obtain ⟨scope, isScope, value, loaded, -, -, -, valid, -, transition, -, -, rfl, rfl⟩ := passed
  simp only [loadAutonomySchedule, bind_ok] at loaded
  obtain ⟨-, -, -, -, loaded⟩ := loaded
  split at loaded
  · cases loaded
  next row found =>
    simp only [bind_ok, pure_ok] at loaded
    obtain ⟨-, -, -, -, -, -, rfl⟩ := loaded
    obtain ⟨key, stored⟩ := Table.lookup_some found
    have keys := key
    simp only [ScheduleRow.key, Prod.mk.injEq] at keys
    rw [Bool.not_eq_false] at valid transition
    refine ⟨isScope, valid, keys.2.1, ?_, rfl, row, stored, key, transition⟩
    rw [← keys.2.2]
    rfl

theorem Halt.after_nothing (halt : Halt) : halt.after tenantID id .nothing = halt := rfl

theorem Halt.after_ofClaim (tenant : String) (answer : Except Error (Option Occurrence)) :
    halt.after tenantID id (.ofClaim tenant answer) = halt := by
  rcases answer with _ | _ | _ <;> rfl

theorem Halt.after_ofClaimNext (answer : Except Error (Option (Scope × Occurrence))) :
    halt.after tenantID id (.ofClaimNext answer) = halt := by
  rcases answer with _ | _ | ⟨_, _⟩ <;> rfl

variable (halted : Halted tenantID id t halt)
include halted

theorem Halted.of_schedules (sound : StoreSound changed)
    (schedules : changed.schedules = t.schedules) : Halted tenantID id changed halt := by
  refine ⟨sound, ?_⟩
  intro notRunning
  obtain ⟨row, newest, status⟩ := halted.held notRunning
  exact ⟨row, newest.of_schedules schedules, status⟩

theorem Halted.beside (beside : Beside t changed) :
    Halted tenantID id changed halt := halted.of_schedules (halted.sound.beside beside) beside.schedules

/-- A claim under the condition shows that the schedule is running. -/
theorem Halted.running_of_claimed {schedule : ScheduleRow}
    {occurrence : OccurrenceRow} (claimed : ClaimedFrom t tenantID o schedule occurrence) (ours : o.scheduleID = id)
    (newestOnly : ∀ row ∈ t.occurrences, row.tenantID = tenantID → row.scheduleID = id →
      row.status = .due ∨ row.status = .claimed → ∀ schedule ∈ t.schedules, schedule.tenantID = tenantID →
        schedule.scheduleID = id → schedule.version ≤ row.scheduleVersion) : halt = .running := by
  by_contra notRunning
  obtain ⟨row, newest, inactive, -⟩ := halted.held notRunning
  have keys := claimed.version
  simp only [OccurrenceRow.schedule, ScheduleRow.key, Prod.mk.injEq] at keys
  have named : schedule.scheduleID = id := claimed.named.symm.trans ours
  -- the claimed occurrence belongs to the latest version, so that version is active
  have isNewest : Newest tenantID id t schedule := by
    refine ⟨claimed.stored, claimed.tenant, named, ?_⟩
    intro other stored tenant same
    rw [← keys.2.2]
    exact newestOnly occurrence claimed.listed (keys.1.trans claimed.tenant) (keys.2.1.trans named) claimed.status other
      stored tenant same
  rw [newest.unique halted.sound isNewest] at inactive
  exact inactive claimed.active

theorem Halted.save {scope : Scope} {value : Schedule} (built : ScopeBuilt scope)
    (follows : FollowsNewest tenantID id t (.saveSchedule scope value)) :
    Halted tenantID id (saveAutonomySchedule zones t scope value).2 halt := by
  refine ⟨halted.sound.save built value, ?_⟩
  intro notRunning
  obtain ⟨row, newest, inactive, revoked⟩ := halted.held notRunning
  rcases saveAutonomySchedule_cases zones t scope value with ⟨unchanged, -⟩ | ⟨absent, inserted⟩
  · rw [unchanged]
    exact ⟨row, newest, inactive, revoked⟩
  · rw [inserted]
    have other : ¬ (scope.tenantID = tenantID ∧ value.id = id) := by
      rintro ⟨rfl, rfl⟩
      rcases follows rfl rfl with known | active
      · rw [absent] at known
        cases known
      · exact inactive (active row newest)
    exact ⟨row, newest.append_other other, inactive, revoked⟩

section After

variable {tenant schedule : String} {status : ScheduleStatus}

omit halted in
theorem Halt.after_changed (ours : tenant = tenantID) (same : schedule = id) (notRevoked : halt ≠ .revoked) :
    halt.after tenantID id (.changed tenant schedule status) =
      match status with
      | .paused => .paused
      | .revoked => .revoked
      | _ => .running :=
  if_pos ⟨ours, same, notRevoked⟩

omit halted in
theorem Halt.after_other (other : ¬ (tenant = tenantID ∧ schedule = id)) :
    halt.after tenantID id (.changed tenant schedule status) = halt :=
  if_neg fun ours => other ⟨ours.1, ours.2.1⟩

end After

/-- A status change of the latest version makes a new latest version with that status. -/
theorem Halted.change
    {status : ScheduleStatus} {scope : Scope} {next : Schedule} (built : ScopeBuilt scope)
    (passed : checkScheduleStatus zones t caller id version status = .ok (scope, next)) (ours : scope.tenantID = tenantID)
    (latest : ∀ row ∈ t.schedules, row.tenantID = tenantID → row.scheduleID = id → row.version ≤ version)
    (inserted : (saveAutonomySchedule zones t scope next).2 =
      { t with schedules := t.schedules ++ [scheduleRow scope next] }) :
    Halted tenantID id (saveAutonomySchedule zones t scope next).2
      (halt.after tenantID id (.changed scope.tenantID id status)) := by
  obtain ⟨-, valid, named, versioned, isStatus, row, stored, key, transition⟩ := checkScheduleStatus_ok passed
  simp only [ScheduleRow.key, Prod.mk.injEq] at key
  have wasNewest : Newest tenantID id t row :=
    ⟨stored, key.1.trans ours, key.2.1, fun other listed tenant same => by
      rw [key.2.2]; exact latest other listed tenant same⟩
  -- a revoked schedule has no transition
  have notRevoked : halt ≠ .revoked := by
    rintro rfl
    obtain ⟨held, newest, -, revoked⟩ := halted.held (by decide)
    have isRevoked : row.status = .revoked := by
      rw [wasNewest.unique halted.sound newest]
      exact revoked rfl
    rw [isRevoked] at transition
    cases transition
  refine ⟨halted.sound.save built next, ?_⟩
  rw [inserted]
  intro notRunning
  refine ⟨scheduleRow scope next, ?_, ?_⟩
  · refine ⟨by simp, ours, named, ?_⟩
    intro other listed tenant same
    have nextVersion : (scheduleRow scope next).version = version + 1 := versioned
    rw [nextVersion]
    rcases List.mem_append.mp listed with old | new
    · exact Nat.le_succ_of_le (latest other old tenant same)
    · rw [List.mem_singleton.mp new, nextVersion]
  · have nextStatus : (scheduleRow scope next).status = status := isStatus
    rw [nextStatus]
    rw [Halt.after_changed ours rfl notRevoked] at notRunning ⊢
    cases status with
    | active => exact absurd rfl notRunning
    | paused => exact ⟨by decide, nofun⟩
    | revoked => exact ⟨by decide, fun _ => rfl⟩
    | other text => cases valid

theorem Halted.setStatus {schedule : String} {status : ScheduleStatus}
    (built : ∀ scope, caller.scope = .ok scope → ScopeBuilt scope)
    (follows : FollowsNewest tenantID id t (.setStatus caller schedule version status)) :
    Halted tenantID id (setScheduleStatus zones t caller schedule version status).2
      (halt.after tenantID id (.ofStatus schedule status (setScheduleStatus zones t caller schedule version status).1)) := by
  unfold setScheduleStatus
  cases passed : checkScheduleStatus zones t caller schedule version status with
  | error e => exact halted
  | ok checked =>
    obtain ⟨scope, next⟩ := checked
    dsimp only
    obtain ⟨isScope, -, named, versioned, -⟩ := checkScheduleStatus_ok passed
    have isBuilt := built scope isScope
    by_cases ours : scope.tenantID = tenantID ∧ schedule = id
    · obtain ⟨tenant, rfl⟩ := ours
      have latest := follows scope isScope tenant rfl
      rcases saveAutonomySchedule_cases zones t scope next with ⟨unchanged, stored⟩ | ⟨absent, inserted⟩
      · rw [unchanged]
        cases answer : (saveAutonomySchedule zones t scope next).1 with
        | error e => exact halted
        | ok _ =>
          -- a version after the latest one is not stored, so the save did not succeed without a new row
          obtain ⟨row, found⟩ := Option.isSome_iff_exists.mp (stored answer)
          obtain ⟨key, listed⟩ := Table.lookup_some found
          simp only [ScheduleRow.key, Prod.mk.injEq] at key
          have bounded := latest row listed (key.1.trans tenant) (key.2.1.trans named)
          rw [key.2.2, versioned] at bounded
          omega
      · have changed := halted.change isBuilt passed tenant latest (by rw [inserted])
        rw [inserted] at changed ⊢
        exact changed
    · have saved : Halted tenantID id (saveAutonomySchedule zones t scope next).2 halt := by
        apply halted.save isBuilt
        intro tenant same
        exact absurd ⟨tenant, named.symm.trans same⟩ ours
      cases (saveAutonomySchedule zones t scope next).1 with
      | error e => exact saved
      | ok _ =>
        rw [Except.map, Observed.ofStatus, Halt.after_other ours]
        exact saved

theorem Halted.perform {call : AutonomyCall} (isScoped : call.Scoped)
    (follows : FollowsNewest tenantID id t call) :
    Halted tenantID id (call.perform zones t).2 (halt.after tenantID id (call.perform zones t).1) := by
  cases call with
  | saveSchedule scope value =>
    dsimp only [AutonomyCall.perform]
    rw [Halt.after_nothing]
    exact halted.save isScoped follows
  | setStatus caller schedule version status =>
    rw [AutonomyCall.perform]
    exact halted.setStatus isScoped follows
  | saveOccurrence scope value =>
    rw [AutonomyCall.perform, Halt.after_nothing]
    rcases saveAutonomyOccurrence_cases t scope value with unchanged | ⟨absent, inserted⟩
    · rw [unchanged]
      exact halted
    · rw [inserted]
      refine halted.of_schedules ?_ rfl
      exact ⟨halted.sound.schedules, Table.nodup_append_singleton halted.sound.occurrences absent, halted.sound.trimmed⟩
  | claimDue scope now worker lease =>
    dsimp only [AutonomyCall.perform]
    rw [Halt.after_ofClaim]
    exact halted.beside (claimAutonomyDue_beside t scope now worker lease)
  | claimNext worker now lease =>
    dsimp only [AutonomyCall.perform]
    rw [Halt.after_ofClaimNext]
    exact halted.beside (claimNextAutonomyDue_beside t worker now lease)
  | block scope value reason => exact halted.beside (blockAutonomyOccurrence_beside t scope value reason)
  | bindApproval scope value approvalID => exact halted.beside (bindAutonomyApproval_beside t scope value approvalID)

/-- One call hands out an occurrence of the schedule only while it is running. -/
theorem Halted.heeds {call : AutonomyCall}
    (follows : FollowsNewest tenantID id t call) (claimed : (call.perform zones t).1 = .claimed tenantID o)
    (ours : o.scheduleID = id) : halt = .running := by
  cases call with
  | claimDue scope now worker lease =>
    rw [AutonomyCall.perform] at claimed
    cases answer : (claimAutonomyDue t scope now worker lease).1 with
    | error e => rw [answer] at claimed; cases claimed
    | ok found =>
      rw [answer] at claimed
      cases found with
      | none => cases claimed
      | some handed =>
        cases claimed
        obtain ⟨schedule, row, fromSchedule⟩ := claimAutonomyDue_claimed halted.sound answer
        exact halted.running_of_claimed fromSchedule ours follows
  | claimNext worker now lease =>
    rw [AutonomyCall.perform] at claimed
    cases answer : (claimNextAutonomyDue t worker now lease).1 with
    | error e => rw [answer] at claimed; cases claimed
    | ok found =>
      rw [answer] at claimed
      cases found with
      | none => cases claimed
      | some handed =>
        cases claimed
        obtain ⟨schedule, row, fromSchedule⟩ := claimNextAutonomyDue_claimed halted.sound answer
        exact halted.running_of_claimed fromSchedule ours follows
  | setStatus caller schedule version status =>
    rw [AutonomyCall.perform] at claimed
    cases answer : (setScheduleStatus zones t caller schedule version status).1 with
    | error e => rw [answer] at claimed; cases claimed
    | ok handed => rw [answer] at claimed; cases claimed
  | _ => cases claimed

theorem Halted.run {calls : List AutonomyCall}
    (scopes : ∀ call ∈ calls, call.Scoped) (follow : AllFollowNewest zones tenantID id t calls) :
    ClaimsHeed zones tenantID id t halt calls := by
  induction calls generalizing t halt with
  | nil => trivial
  | cons call rest ih =>
    obtain ⟨follows, followRest⟩ := follow
    refine ⟨fun o claimed ours => halted.heeds follows claimed ours, ?_⟩
    apply ih (halted.perform (scopes call (.head _)) follows)
    · exact fun later member => scopes later (.tail _ member)
    · exact followRest

end Halting

/-- In every history whose calls find the schedule as its latest version has it, a schedule that was paused is not
claimed from until it is resumed, and one that was revoked never again. -/
theorem claims_heed_status (zones : TimeZones) (tenantID id : String) (t : AutonomyTables) (calls : List AutonomyCall)
    (sound : StoreSound t) (scopes : ∀ call ∈ calls, call.Scoped) (follow : AllFollowNewest zones tenantID id t calls) :
    ClaimsHeed zones tenantID id t .running calls :=
  Halted.run ⟨sound, fun notRunning => absurd rfl notRunning⟩ scopes follow

/-! A daily schedule with one due occurrence, which its owner pauses. -/

def hostZones : TimeZones := ⟨fun _ => none, .utc⟩

def dailyDraft : Schedule :=
  { id := "s", version := 0, principal := ⟨"t", "u", "a"⟩, walletBindingID := "w", walletBindingVersion := 1,
    grantID := "g", grantVersion := 1, delegationID := "d", delegationVersion := 1, createdAt := 1000,
    updatedAt := 1000, status := .active, digest := ""
    spec :=
      { recurrence :=
          { frequency := .daily, start := 1000, startIsLocal := false, stop := 0, weekday := 0, dayOfMonth := 0,
            location := "UTC" }
        missed := .skip, concurrency := .forbidOverlap, maxRecipients := 1, intent := .payroll,
        templateDigest := "template" } }

def dailySchedule : Schedule := dailyDraft.withStatus .active 1000

def ownerScope : Scope := ⟨"t", "u", "r", ""⟩

def owner : ControlCaller := ⟨.ok ownerScope, .ok "a", .ok (), 2000⟩

/-- The first occurrence as it was saved, with a status that it has since. -/
def firstOccurrence (status : OccurrenceStatus) : OccurrenceRow :=
  { occurrenceRow ownerScope (newOccurrence dailySchedule 1000 1000) with status := status }

def dailyTables (status : OccurrenceStatus) : AutonomyTables :=
  { schedules := [scheduleRow ownerScope dailySchedule], occurrences := [firstOccurrence status], reservations := [],
    grants := [("t", "g", 1)], delegations := [("t", "d", 1)], emergencyStops := [] }

/-- The tables after the schedule was paused. -/
def pausedTables (status : OccurrenceStatus) : AutonomyTables :=
  { dailyTables status with
    schedules := [scheduleRow ownerScope dailySchedule, scheduleRow ownerScope (dailySchedule.withStatus .paused 2000)] }

theorem dailyDraft_spec : dailyDraft.spec.validate hostZones = .ok () := by decide +kernel

theorem dailyDraft_principal : dailyDraft.principal.validate = .ok () := by decide +kernel

theorem dailySchedule_valid : dailySchedule.validate hostZones = .ok () :=
  Schedule.validate_ok.mpr ⟨by decide, dailyDraft_principal, dailyDraft_spec, rfl, Schedule.withStatus_digest _ _ _⟩

theorem pausedSchedule_valid : (dailySchedule.withStatus .paused 2000).validate hostZones = .ok () :=
  Schedule.validate_ok.mpr ⟨by decide, dailyDraft_principal, dailyDraft_spec, rfl, Schedule.withStatus_digest _ _ _⟩

theorem ownerScope_built : ScopeBuilt ownerScope := by
  unfold ScopeBuilt
  decide +kernel

theorem ownerScope_valid : ownerScope.validate = .ok () := by decide +kernel

theorem dailySchedule_restored : (scheduleRow ownerScope dailySchedule).restore ownerScope = dailySchedule := rfl

theorem pause_perform (status : OccurrenceStatus) :
    (AutonomyCall.setStatus owner "s" 1 .paused).perform hostZones (dailyTables status) =
      (.changed "t" "s" .paused, pausedTables status) := by
  have loaded : loadAutonomySchedule hostZones (dailyTables status) ownerScope "s" 1 = .ok dailySchedule :=
    loadAutonomySchedule_ok.mpr ⟨ownerScope_valid, by decide, scheduleRow ownerScope dailySchedule,
      Table.lookup_head ScheduleRow.key (scheduleRow ownerScope dailySchedule) [], rfl, rfl, dailySchedule_restored,
      dailySchedule_valid⟩
  have checked : checkScheduleStatus hostZones (dailyTables status) owner "s" 1 .paused =
      .ok (ownerScope, dailySchedule.withStatus .paused 2000) := by
    have scope : owner.scope = .ok ownerScope := rfl
    simp only [checkScheduleStatus, scope, bind_ok]
    exact ⟨ownerScope, rfl, dailySchedule, loaded, (), rfl, (), rfl, (), rfl, (), rfl, rfl⟩
  have saved : saveAutonomySchedule hostZones (dailyTables status) ownerScope (dailySchedule.withStatus .paused 2000) =
      (.ok (), pausedTables status) :=
    saveAutonomySchedule_new ownerScope_valid pausedSchedule_valid (by decide) (by rfl) (.head _)
      (.head _)
  have answer : setScheduleStatus hostZones (dailyTables status) owner "s" 1 .paused =
      (.ok (ownerScope, dailySchedule.withStatus .paused 2000), pausedTables status) := by
    rw [setScheduleStatus, checked]
    dsimp only
    rw [saved]
    rfl
  rw [AutonomyCall.perform, answer]
  rfl

theorem dailyTables_sound (status : OccurrenceStatus) : StoreSound (dailyTables status) where
  schedules := List.nodup_cons.mpr ⟨List.not_mem_nil, List.nodup_nil⟩
  occurrences := List.nodup_cons.mpr ⟨List.not_mem_nil, List.nodup_nil⟩
  trimmed := by
    intro row listed
    rw [List.mem_singleton.mp listed]
    decide +kernel

/-- The first occurrence is completed when the schedule is paused. -/
theorem claims_heed_status_completed :
    ClaimsHeed hostZones "t" "s" (dailyTables .completed) .running
      [.setStatus owner "s" 1 .paused, .claimNext "worker" 3000 1000] := by
  apply claims_heed_status
  case sound => exact dailyTables_sound .completed
  case scopes =>
    intro call listed
    simp only [List.mem_cons, List.not_mem_nil, or_false] at listed
    rcases listed with rfl | rfl
    · intro scope isScope
      cases isScope
      exact ownerScope_built
    · trivial
  case follow =>
    refine ⟨?_, ?_, trivial⟩
    · intro scope _ _ _ row listed _ _
      rw [List.mem_singleton.mp listed]
      exact Nat.le_refl 1
    · rw [pause_perform]
      intro row listed _ _ open_
      rw [List.mem_singleton.mp listed] at open_
      rcases open_ with due | claimed
      · cases due
      · cases claimed

/-- The claim after the pause hands out the occurrence of the version before it. -/
theorem paused_schedule_claimed :
    ¬ ClaimsHeed hostZones "t" "s" (dailyTables .due) .running
      [.setStatus owner "s" 1 .paused, .claimNext "worker" 3000 1000] := by
  have handed : (claimNextAutonomyDue (pausedTables .due) "worker" 3000 1000).1.map
      (Option.map fun claimed => (claimed.1.tenantID, claimed.2.scheduleID)) = .ok (some ("t", "s")) := by
    decide +kernel
  obtain ⟨found, claimed, mapped⟩ := map_ok.mp handed
  obtain ⟨⟨scope, o⟩, rfl, same⟩ := Option.map_eq_some_iff.mp mapped
  rintro ⟨-, heeds, -⟩
  rw [pause_perform] at heeds
  have running := heeds o (by
    rw [AutonomyCall.perform, claimed, Observed.ofClaimNext]
    exact congrArg (fun pair => Observed.claimed pair.1 o) same) (congrArg Prod.snd same)
  cases running

end WizPay.Autonomy
