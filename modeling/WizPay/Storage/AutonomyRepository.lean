import WizPay.Autonomy.Model
import WizPay.Lib.Table
import WizPay.Storage.Scope

/-!
# The autonomy tables

`internal/storage/postgres/autonomy_repository.go` over migration
`000004_phase13_autonomy`. A `bigint` version column is a `Nat`, a `timestamptz` column
an instant cut to microseconds, and a nullable column an `Option`. Of the grants and
delegations only the keys are kept that foreign keys refer to.
-/
namespace WizPay.Storage

open Checks GoText GoTime Autonomy

structure ScheduleRow where
  tenantID : String
  scheduleID : String
  version : Nat
  userID : String
  agentID : String
  walletBindingID : String
  walletBindingVersion : Nat
  intentType : IntentType
  grantID : String
  grantVersion : Nat
  delegationID : String
  delegationVersion : Nat
  status : ScheduleStatus
  specDigest : String
  scheduleDigest : String
  timezone : String
  startAt : Int
  endAt : Option Int
  maxRecipients : Int
  recurrence : Frequency
  missedRun : MissedRunPolicy
  concurrency : ConcurrencyPolicy
  createdAt : Int
  updatedAt : Int
deriving DecidableEq

/-- Tenant, schedule and version. -/
abbrev ScheduleKey := String × String × Nat

def ScheduleRow.key (row : ScheduleRow) : ScheduleKey := (row.tenantID, row.scheduleID, row.version)

structure OccurrenceRow where
  tenantID : String
  occurrenceID : String
  occurrenceKey : String
  scheduleID : String
  scheduleVersion : Nat
  scheduleDigest : String
  scheduledAt : Int
  status : OccurrenceStatus
  grantID : String
  grantVersion : Nat
  intentID : Option String
  approvalID : Option String
  executionID : Option String
  leaseOwner : Option String
  leaseUntil : Option Int
  fence : Nat
  /-- `none` is the empty text -/
  reasonCode : Option ReasonCode
  createdAt : Int
deriving DecidableEq

namespace OccurrenceRow

/-- The primary key: tenant and occurrence. -/
def id (row : OccurrenceRow) : String × String := (row.tenantID, row.occurrenceID)

/-- The unique key of the insert: tenant and occurrence key. -/
def uniqueKey (row : OccurrenceRow) : String × String := (row.tenantID, row.occurrenceKey)

/-- The schedule version that the foreign key refers to. -/
def schedule (row : OccurrenceRow) : ScheduleKey := (row.tenantID, row.scheduleID, row.scheduleVersion)

end OccurrenceRow

inductive ReservationState
  | reserved | committed | released
deriving DecidableEq

structure ReservationRow where
  tenantID : String
  grantID : String
  grantVersion : Nat
  occurrenceID : String
  amount : Int
  reservedAt : Int
  state : ReservationState
deriving DecidableEq

def ReservationRow.key (row : ReservationRow) : String × String × Nat × String :=
  (row.tenantID, row.grantID, row.grantVersion, row.occurrenceID)

/-- A row of `autonomy_emergency_stop`. -/
structure EmergencyStopRow where
  tenantID : String
  active : Bool
  scope : String
  actorID : String
  reasonCode : String
  changedAt : Int
deriving DecidableEq

structure AutonomyTables where
  schedules : List ScheduleRow
  occurrences : List OccurrenceRow
  reservations : List ReservationRow
  /-- the keys of `autonomy_grants` and `autonomy_delegations` -/
  grants : List (String × String × Nat)
  delegations : List (String × String × Nat)
  emergencyStops : List EmergencyStopRow
deriving DecidableEq

/-- An answer together with the tables it leaves. -/
abbrev Answer (α : Type) := Except Error α × AutonomyTables

/-- A number that a `bigint` parameter can carry. -/
def fitsBigint (value : Nat) : Bool := value ≤ 2 ^ 63 - 1

/-- `nullableTime`. -/
def nullableTime (value : Int) : Option Int := if value = 0 then none else some (truncMicros value)

/-- `nullableString`. -/
def nullableString (value : String) : Option String := if value = "" then none else some value

/-- `stringValue`. -/
def stringValue (value : Option String) : String := value.getD ""

/-! ### Schedules -/

def scheduleRow (scope : Scope) (value : Schedule) : ScheduleRow :=
  { tenantID := scope.tenantID, scheduleID := value.id, version := value.version, userID := value.principal.userID,
    agentID := value.principal.agentID, walletBindingID := value.walletBindingID,
    walletBindingVersion := value.walletBindingVersion, intentType := value.spec.intent, grantID := value.grantID,
    grantVersion := value.grantVersion, delegationID := value.delegationID,
    delegationVersion := value.delegationVersion, status := value.status, specDigest := value.spec.templateDigest,
    scheduleDigest := value.digest, timezone := value.spec.recurrence.location,
    startAt := truncMicros value.spec.recurrence.start, endAt := nullableTime value.spec.recurrence.stop,
    maxRecipients := value.spec.maxRecipients, recurrence := value.spec.recurrence.frequency,
    missedRun := value.spec.missed, concurrency := value.spec.concurrency, createdAt := truncMicros value.createdAt,
    updatedAt := truncMicros value.updatedAt }

/-- The insert into `autonomy_schedules` that does nothing on a conflict; `false` when no row was inserted. -/
def insertSchedule (t : AutonomyTables) (row : ScheduleRow) : Answer Bool :=
  if [row.version, row.walletBindingVersion, row.grantVersion, row.delegationVersion].all fitsBigint = false then
    (.error (.database .other), t)
  else if (Table.lookup ScheduleRow.key row.key t.schedules).isSome then (.ok false, t)
  else if (row.tenantID, row.grantID, row.grantVersion) ∉ t.grants ∨
      (row.tenantID, row.delegationID, row.delegationVersion) ∉ t.delegations then
    (.error (.database .constraintViolation), t)
  else (.ok true, { t with schedules := t.schedules ++ [row] })

def saveAutonomySchedule (zones : TimeZones) (t : AutonomyTables) (scope : Scope) (value : Schedule) : Answer Unit :=
  match (do scope.validate; value.validate zones : Except Error Unit) with
  | .error e => (.error e, t)
  | .ok () =>
    match insertSchedule t (scheduleRow scope value) with
    | (.error e, t) => (.error (mapDatabaseError e), t)
    | (.ok true, t) => (.ok (), t)
    | (.ok false, t) =>
      match Table.lookup ScheduleRow.key (scope.tenantID, value.id, value.version) t.schedules with
      | none => (.error (mapDatabaseError .noRows), t)
      | some existing =>
        if existing.scheduleDigest = value.digest ∧ existing.status = value.status then (.ok (), t)
        else (.error (.text "schedule immutable conflict"), t)

/-- The schedule that a row is read as; weekday and day of month have no column. -/
def ScheduleRow.restore (scope : Scope) (row : ScheduleRow) : Schedule :=
  { id := row.scheduleID, version := row.version, principal := ⟨scope.tenantID, row.userID, row.agentID⟩,
    walletBindingID := row.walletBindingID, walletBindingVersion := row.walletBindingVersion, grantID := row.grantID,
    grantVersion := row.grantVersion, delegationID := row.delegationID, delegationVersion := row.delegationVersion,
    createdAt := row.createdAt, updatedAt := row.updatedAt, status := row.status,
    spec :=
      { recurrence :=
          { frequency := row.recurrence, start := row.startAt,
            -- `start.In(loc)`, and `LoadLocation("Local")` is the host's own location
            startIsLocal := row.timezone = "Local",
            stop := row.endAt.getD 0, weekday := 0, dayOfMonth := 0, location := row.timezone },
        missed := row.missedRun, concurrency := row.concurrency, maxRecipients := row.maxRecipients,
        intent := row.intentType, templateDigest := row.specDigest },
    digest := row.scheduleDigest }

def loadAutonomySchedule (zones : TimeZones) (t : AutonomyTables) (scope : Scope) (id : String) (version : Nat) :
    Except Error Schedule := do
  scope.validate
  rejectIf (fitsBigint version = false) (.text "version is outside PostgreSQL range")
  match Table.lookup ScheduleRow.key (scope.tenantID, id, version) t.schedules with
  | none => .error (notFound .authorizationRequired "Schedule is not accessible.")
  | some row =>
    rejectIf (row.userID ≠ scope.actorID) (notFound .authorizationRequired "Schedule is not accessible.")
    rejectIf ((zones.loadLocation row.timezone).isNone = true) (.text "restore schedule timezone")
    (row.restore scope).validate zones
    pure (row.restore scope)

section Schedules

variable {zones : TimeZones} {t : AutonomyTables} {scope : Scope}

/-- A valid schedule whose version is not stored is inserted. -/
theorem saveAutonomySchedule_new {value : Schedule} (built : scope.validate = .ok ()) (valid : value.validate zones = .ok ())
    (fits : [value.version, value.walletBindingVersion, value.grantVersion, value.delegationVersion].all fitsBigint = true)
    (absent : Table.lookup ScheduleRow.key (scope.tenantID, value.id, value.version) t.schedules = none)
    (granted : (scope.tenantID, value.grantID, value.grantVersion) ∈ t.grants)
    (delegated : (scope.tenantID, value.delegationID, value.delegationVersion) ∈ t.delegations) :
    saveAutonomySchedule zones t scope value = (.ok (), { t with schedules := t.schedules ++ [scheduleRow scope value] }) := by
  have inserted : insertSchedule t (scheduleRow scope value) =
      (.ok true, { t with schedules := t.schedules ++ [scheduleRow scope value] }) := by
    unfold insertSchedule
    rw [if_neg, if_neg, if_neg]
    · rintro (missing | missing)
      · exact missing granted
      · exact missing delegated
    · rw [Option.not_isSome_iff_eq_none]
      exact absent
    · rw [Bool.not_eq_false]
      exact fits
  unfold saveAutonomySchedule
  rw [built, valid, inserted]
  rfl

theorem loadAutonomySchedule_ok {id : String} {version : Nat} {value : Schedule} :
    loadAutonomySchedule zones t scope id version = .ok value ↔
      scope.validate = .ok () ∧ fitsBigint version = true ∧
      ∃ row, Table.lookup ScheduleRow.key (scope.tenantID, id, version) t.schedules = some row ∧
        row.userID = scope.actorID ∧ (zones.loadLocation row.timezone).isSome = true ∧ row.restore scope = value ∧
        value.validate zones = .ok () := by
  simp only [loadAutonomySchedule, checks_ok, Bool.not_eq_false]
  cases Table.lookup ScheduleRow.key (scope.tenantID, id, version) t.schedules with
  | none => simp
  | some row =>
    simp only [checks_ok, pure_ok, not_not, Option.some.injEq, exists_eq_left', Option.isNone_iff_eq_none,
      ← Option.isSome_iff_ne_none]
    constructor
    · rintro ⟨built, fits, owned, located, valid, rfl⟩
      exact ⟨built, fits, owned, located, rfl, valid⟩
    · rintro ⟨built, fits, owned, located, rfl, valid⟩
      exact ⟨built, fits, owned, located, valid, rfl⟩

end Schedules

/-! ### Occurrences -/

def occurrenceRow (scope : Scope) (value : Occurrence) : OccurrenceRow :=
  { tenantID := scope.tenantID, occurrenceID := value.id, occurrenceKey := value.key, scheduleID := value.scheduleID,
    scheduleVersion := value.scheduleVersion, scheduleDigest := value.scheduleDigest,
    scheduledAt := truncMicros value.scheduledAt, status := value.status, grantID := value.grantID,
    grantVersion := value.grantVersion, intentID := nullableString value.intentID,
    approvalID := nullableString value.approvalID, executionID := nullableString value.executionID,
    leaseOwner := nullableString value.leaseOwner, leaseUntil := nullableTime value.leaseUntil, fence := value.fence,
    reasonCode := value.reason, createdAt := truncMicros value.createdAt }

/-- The insert into `autonomy_occurrences` that does nothing when the occurrence key is taken. -/
def insertOccurrence (t : AutonomyTables) (row : OccurrenceRow) : Answer Bool :=
  if [row.scheduleVersion, row.grantVersion, row.fence].all fitsBigint = false then (.error (.database .other), t)
  else if (Table.lookup OccurrenceRow.uniqueKey row.uniqueKey t.occurrences).isSome then (.ok false, t)
  else if (Table.lookup OccurrenceRow.id row.id t.occurrences).isSome then (.error (.database .uniqueViolation), t)
  else if (Table.lookup ScheduleRow.key row.schedule t.schedules).isNone ∨
      (row.tenantID, row.grantID, row.grantVersion) ∉ t.grants then
    (.error (.database .constraintViolation), t)
  else (.ok true, { t with occurrences := t.occurrences ++ [row] })

variable (t : AutonomyTables) (scope : Scope)

def saveAutonomyOccurrence (value : Occurrence) : Answer Unit :=
  let checks : Except Error Unit := do
    scope.validate
    rejectIf (value.id = "" ∨ value.key = "" ∨ value.scheduleID = "" ∨ value.scheduleVersion = 0)
      (.text "invalid occurrence")
    value.validate
  match checks with
  | .error e => (.error e, t)
  | .ok () =>
    match insertOccurrence t (occurrenceRow scope value) with
    | (.error e, t) => (.error (mapDatabaseError e), t)
    | (.ok true, t) => (.ok (), t)
    | (.ok false, t) =>
      match Table.lookup OccurrenceRow.uniqueKey (scope.tenantID, value.key) t.occurrences with
      | none => (.error (mapDatabaseError .noRows), t)
      | some existing =>
        if existing.scheduleDigest = value.scheduleDigest ∧ existing.grantID = value.grantID ∧
            existing.grantVersion = value.grantVersion then (.ok (), t)
        else (.error (.text "occurrence immutable conflict"), t)

/-- The occurrence that a row is read as. -/
def OccurrenceRow.restore (row : OccurrenceRow) : Occurrence :=
  { id := row.occurrenceID, key := row.occurrenceKey, scheduleID := row.scheduleID, scheduleDigest := row.scheduleDigest,
    grantID := row.grantID, grantVersion := row.grantVersion, scheduleVersion := row.scheduleVersion,
    scheduledAt := row.scheduledAt, createdAt := row.createdAt, status := row.status,
    leaseOwner := stringValue row.leaseOwner, leaseUntil := row.leaseUntil.getD 0, fence := row.fence,
    intentID := stringValue row.intentID, approvalID := stringValue row.approvalID,
    executionID := stringValue row.executionID, reason := row.reasonCode }

/-- The user of the schedule version that an occurrence belongs to: the join of the occurrence statements. -/
def occurrenceOwner (t : AutonomyTables) (row : OccurrenceRow) : Option String :=
  (Table.lookup ScheduleRow.key row.schedule t.schedules).map ScheduleRow.userID

def loadAutonomyOccurrence (id : String) : Except Error Occurrence := do
  scope.validate
  match Table.lookup OccurrenceRow.id (scope.tenantID, id) t.occurrences with
  | none => .error (.text "occurrence not found")
  | some row =>
    rejectIf (occurrenceOwner t row ≠ some scope.actorID) (.text "occurrence not found")
    row.restore.validate
    pure row.restore

/-! ### Claims -/

/-- `status IN ('CLAIMED','DISPATCHED','RECONCILIATION_ONLY')`. -/
def OccurrenceStatus.inProgress : OccurrenceStatus → Bool
  | .claimed | .dispatched | .reconcile => true
  | _ => false

namespace OccurrenceRow

/-- The row is due, and unclaimed or its lease has run out. -/
def claimable (now : Int) (row : OccurrenceRow) : Bool :=
  row.scheduledAt ≤ now && (row.status = .due || row.status = .claimed) &&
    match row.leaseUntil with
    | none => true
    | some leaseUntil => leaseUntil ≤ now

/-- Another occurrence of the schedule, of any version, is in progress. -/
def blockedBySibling (occurrences : List OccurrenceRow) (row : OccurrenceRow) : Bool :=
  occurrences.any fun other => other.tenantID = row.tenantID && other.scheduleID = row.scheduleID &&
    OccurrenceStatus.inProgress other.status && other.occurrenceID ≠ row.occurrenceID

/-- `ORDER BY occurrence.scheduled_at, occurrence.occurrence_id`. -/
def before (first second : OccurrenceRow) : Bool :=
  first.scheduledAt < second.scheduledAt ||
    (first.scheduledAt = second.scheduledAt && first.occurrenceID < second.occurrenceID)

end OccurrenceRow

/-- What a claim is made with; without a scope it is `ClaimNextAutonomyDue`. -/
structure ClaimRequest where
  scope : Option Scope
  now : Int
  worker : String
  lease : Int
deriving DecidableEq

namespace ClaimRequest

variable (request : ClaimRequest)

/-- The `timestamptz` parameter of the statements. -/
def instant : Int := truncMicros request.now

/-- The schedules that the first statement looks at. -/
def selects (schedule : ScheduleRow) : Bool :=
  schedule.status = .active &&
    match request.scope with
    | none => true
    | some scope => schedule.tenantID = scope.tenantID && schedule.userID = scope.actorID

/-- The occurrences of one schedule version that could be claimed, as the statement's snapshot shows them. -/
def candidates (snapshot : List OccurrenceRow) (schedule : ScheduleKey) : List OccurrenceRow :=
  snapshot.filter fun row => row.schedule = schedule && row.claimable request.instant && !row.blockedBySibling snapshot

/-- The first statement: the unlocked schedule version with the earliest candidate. -/
def selectSchedule (schedules : List ScheduleRow) (snapshot : List OccurrenceRow)
    (locked : ScheduleKey → Bool) : Option ScheduleRow :=
  let found := schedules.filterMap fun schedule =>
    if request.selects schedule && !locked schedule.key then
      (Table.least OccurrenceRow.before (request.candidates snapshot schedule.key)).map fun row => (schedule, row)
    else none
  (Table.least (fun first second => first.2.before second.2) found).map Prod.fst

/-- The second statement: the earliest unlocked candidate of that version; a row that changed since the snapshot is
checked again. -/
def selectOccurrence (schedule : ScheduleKey) (snapshot current : List OccurrenceRow)
    (locked : String × String → Bool) : Option OccurrenceRow :=
  Table.least OccurrenceRow.before <| (request.candidates snapshot schedule).filter fun row =>
    !locked row.id &&
      match Table.lookup OccurrenceRow.id row.id current with
      | none => false
      | some latest => latest = row || latest.claimable request.instant

/-- The update of the claimed row. -/
def claim (row : OccurrenceRow) : OccurrenceRow :=
  { row with
    status := .claimed
    leaseOwner := some request.worker
    leaseUntil := some (truncMicros (request.now + request.lease))
    fence := row.fence + 1 }

section Selection

variable {request : ClaimRequest} {schedules : List ScheduleRow} {snapshot current : List OccurrenceRow}
  {schedule : ScheduleRow} {key : ScheduleKey} {row : OccurrenceRow}

theorem mem_candidates : row ∈ request.candidates snapshot key ↔
    row ∈ snapshot ∧ row.schedule = key ∧ row.claimable request.instant = true ∧ row.blockedBySibling snapshot = false := by
  simp [candidates, and_assoc]

theorem selectSchedule_some {locked : ScheduleKey → Bool}
    (found : request.selectSchedule schedules snapshot locked = some schedule) :
    schedule ∈ schedules ∧ request.selects schedule = true ∧ locked schedule.key = false := by
  simp only [selectSchedule, Option.map_eq_some_iff] at found
  obtain ⟨⟨_, row⟩, chosen, rfl⟩ := found
  obtain ⟨other, listed, kept⟩ := List.mem_filterMap.mp (Table.least_mem chosen)
  split at kept
  next eligible =>
    simp only [Option.map_eq_some_iff, Prod.mk.injEq] at kept
    obtain ⟨_, -, rfl, -⟩ := kept
    simpa [listed] using eligible
  next => cases kept

theorem selectOccurrence_some {locked : String × String → Bool}
    (found : request.selectOccurrence key snapshot current locked = some row) :
    row ∈ request.candidates snapshot key ∧ locked row.id = false ∧
      ∃ latest, Table.lookup OccurrenceRow.id row.id current = some latest ∧
        (latest = row ∨ latest.claimable request.instant = true) := by
  have member := Table.least_mem found
  rw [List.mem_filter, Bool.and_eq_true] at member
  obtain ⟨candidate, unlocked, rechecked⟩ := member
  refine ⟨candidate, by simpa using unlocked, ?_⟩
  cases stored : Table.lookup OccurrenceRow.id row.id current with
  | none => simp [stored] at rechecked
  | some latest =>
    simp only [stored, Bool.or_eq_true, decide_eq_true_eq] at rechecked
    exact ⟨latest, rfl, rechecked⟩

theorem claimable_status {now : Int} (claimable : row.claimable now = true) : row.status = .due ∨ row.status = .claimed := by
  simp only [OccurrenceRow.claimable, Bool.and_eq_true, Bool.or_eq_true, decide_eq_true_eq] at claimable
  exact claimable.1.2

end Selection

/-- The claiming transaction run by itself: the occurrence that it claims, and its owner. -/
def transact (t : AutonomyTables) : Option (ScheduleRow × OccurrenceRow) × AutonomyTables :=
  match request.selectSchedule t.schedules t.occurrences (fun _ => false) with
  | none => (none, t)
  | some schedule =>
    match request.selectOccurrence schedule.key t.occurrences t.occurrences (fun _ => false) with
    | none => (none, t)
    | some row =>
      (some (schedule, request.claim row),
        { t with occurrences := Table.modify OccurrenceRow.id row.id request.claim t.occurrences })

end ClaimRequest

def claimAutonomyDue (now : Int) (worker : String) (lease : Int) :
    Answer (Option Occurrence) :=
  let checks : Except Error Unit := do
    scope.validate
    rejectIf (worker = "" ∨ lease ≤ 0) (.text "worker and lease are required")
  match checks with
  | .error e => (.error e, t)
  | .ok () =>
    match ClaimRequest.transact ⟨some scope, now, worker, lease⟩ t with
    | (none, t) => (.ok none, t)
    | (some (_, row), t) =>
      ((loadAutonomyOccurrence t scope row.occurrenceID).map fun o => some { o with fence := row.fence }, t)

def claimNextAutonomyDue (t : AutonomyTables) (worker : String) (now lease : Int) :
    Answer (Option (Scope × Occurrence)) :=
  if worker = "" ∨ lease ≤ 0 then (.error (.text "worker and lease are required"), t)
  else
    match ClaimRequest.transact ⟨none, now, worker, lease⟩ t with
    | (none, t) => (.ok none, t)
    | (some (schedule, row), claimed) =>
      match newScope schedule.tenantID schedule.userID ("autonomy-" ++ worker) "" with
      -- the transaction is rolled back
      | .error e => (.error e, t)
      | .ok scope =>
        ((loadAutonomyOccurrence claimed scope row.occurrenceID).map fun o => some (scope, { o with fence := row.fence }),
          claimed)

/-- The row that the updates of an occurrence address: its schedule version belongs to the actor. -/
def addresses (value : Occurrence) (row : OccurrenceRow) : Bool :=
  row.id = (scope.tenantID, value.id) && row.fence = value.fence && occurrenceOwner t row = some scope.actorID

/-- `BlockAutonomyOccurrence`; the table checks the reason codes of rows. -/
def blockAutonomyOccurrence (value : Occurrence) (reason : ReasonCode) :
    Answer Unit :=
  match scope.validate with
  | .error e => (.error e, t)
  | .ok () =>
    if fitsBigint value.fence = false then (.error (.database .other), t)
    else if reason.valid = false && t.occurrences.any (addresses t scope value) then
      (.error (.database .constraintViolation), t)
    else
      (.ok (), { t with
        occurrences := t.occurrences.map fun row =>
          if addresses t scope value row then
            { row with status := .blocked, reasonCode := some reason, leaseOwner := none, leaseUntil := none }
          else row })

/-- `BindAutonomyApproval`. -/
def bindAutonomyApproval (value : Occurrence) (approvalID : String) :
    Answer Unit :=
  let checks : Except Error Unit := do
    scope.validate
    rejectIf (approvalID = "") (.text "approval ID is required")
    rejectIf (fitsBigint value.fence = false) (.database .other)
  match checks with
  | .error e => (.error e, t)
  | .ok () =>
    (.ok (), { t with
      occurrences := t.occurrences.map fun row =>
        if addresses t scope value row && row.approvalID = none then
          { row with approvalID := some approvalID, status := .approvalRequired }
        else row })

/-- The row that the update of `CheckAutonomyDispatchFence` meets. -/
def holdsFence (id worker : String) (fence : Nat) (now : Int)
    (row : OccurrenceRow) : Bool :=
  row.id = (scope.tenantID, id) && row.status = .claimed && row.leaseOwner = some worker && row.fence = fence &&
    (match row.leaseUntil with
      | none => false
      | some leaseUntil => truncMicros now < leaseUntil) &&
    occurrenceOwner t row = some scope.actorID

/-- `CheckAutonomyDispatchFence`: the fence holds when the update meets the row; the occurrence is read afterwards. -/
def checkAutonomyDispatchFence (id worker : String) (fence : Nat) (now : Int) :
    Except Error (Option Occurrence × Bool) := do
  scope.validate
  rejectIf (fitsBigint fence = false) (mapDatabaseError (.database .other))
  if t.occurrences.countP (holdsFence t scope id worker fence now) ≠ 1 then
    match loadAutonomyOccurrence t scope id with
    | .ok current => pure (some current, false)
    | .error _ => pure (none, false)
  else do
    let current ← loadAutonomyOccurrence t scope id
    pure (some current, true)

/-! ### Spending -/

/-- `state IN ('RESERVED','COMMITTED')`. -/
def ReservationState.active : ReservationState → Bool
  | .reserved | .committed => true
  | .released => false

/-- The sum of the amounts of rows. -/
def totalAmount (rows : List ReservationRow) : Int := (rows.map ReservationRow.amount).sum

/-- The active reservations of a grant version. -/
def activeReservations (t : AutonomyTables) (tenantID grantID : String) (grantVersion : Nat) : List ReservationRow :=
  t.reservations.filter fun row =>
    row.tenantID = tenantID && row.grantID = grantID && row.grantVersion = grantVersion && row.state.active

/-- `numeric(78,0)`. -/
def fitsNumeric (amount : Int) : Bool := amount.natAbs < 10 ^ 78

/-- The amount with the cap: absent caps allow everything. -/
def withinCap (cap : String) (total : Int) : Bool :=
  cap = "" || total ≤ (parseBig cap).getD 0

/-- The checks of `ReserveAutonomySpend` and the amount in base units. -/
def spendUnits (scope : Scope) (grant : Grant) (amount : String) : Except Error Int := do
  scope.validate
  grant.validate
  match parseBig amount with
  | none => .error (.text "invalid spend amount")
  | some units => do
    rejectIf (units ≤ 0) (.text "invalid spend amount")
    pure units

/-- `ReserveAutonomySpend`, one serializable transaction. -/
def reserveAutonomySpend (grant : Grant) (occurrence amount : String) (now : Int) :
    Answer Bool :=
  match spendUnits scope grant amount with
  | .error e => (.error e, t)
  | .ok units =>
    if fitsBigint grant.version = false then (.error (mapDatabaseError (.database .other)), t)
    else
      match Table.lookup ReservationRow.key (scope.tenantID, grant.id, grant.version, occurrence) t.reservations with
      -- whatever its state
      | some existing => (.ok (toString existing.amount = amount), t)
      | none =>
        let rows := activeReservations t scope.tenantID grant.id grant.version
        let window := rows.filter fun row => truncMicros (now - grant.rollingWindow) ≤ row.reservedAt
        if withinCap grant.aggregateCapBaseUnits (totalAmount rows + units) = false then (.ok false, t)
        else if withinCap grant.rollingWindowCapBaseUnits (totalAmount window + units) = false then (.ok false, t)
        else if fitsNumeric units = false then (.error (mapDatabaseError (.database .other)), t)
        else if (scope.tenantID, grant.id, grant.version) ∉ t.grants ∨
            (Table.lookup OccurrenceRow.id (scope.tenantID, occurrence) t.occurrences).isNone then
          (.error (mapDatabaseError (.database .constraintViolation)), t)
        else
          (.ok true, { t with
            reservations := t.reservations ++
              [⟨scope.tenantID, grant.id, grant.version, occurrence, units, truncMicros now, .reserved⟩] })

/-- The update of `ReleaseAutonomySpend` on one row. -/
def releaseReservation (tenantID occurrence : String) (row : ReservationRow) : ReservationRow :=
  if row.tenantID = tenantID ∧ row.occurrenceID = occurrence ∧ row.state = .reserved then
    { row with state := .released }
  else row

/-- `ReleaseAutonomySpend`. -/
def releaseAutonomySpend (occurrence : String) : Answer Unit :=
  match scope.validate with
  | .error e => (.error e, t)
  | .ok () =>
    (.ok (), { t with reservations := t.reservations.map (releaseReservation scope.tenantID occurrence) })

/-! ### Emergency stops -/

def EmergencyStopRow.restore (row : EmergencyStopRow) : EmergencyStop :=
  ⟨row.active, row.scope, row.changedAt, row.actorID, row.reasonCode⟩

/-- `fmt.Errorf("context: %w", err)` of a plain error. -/
def inContext (context : String) : Error → Error
  | .text message => .text (context ++ message)
  | e => e

/-- `LoadAutonomyEmergencyStop`: a tenant without a row has the zero value. -/
def loadAutonomyEmergencyStop : Except Error EmergencyStop := do
  scope.validate
  match Table.lookup EmergencyStopRow.tenantID scope.tenantID t.emergencyStops with
  | none => pure .zero
  | some row => do
    row.restore.validate.mapError (inContext "malformed emergency stop state: ")
    pure row.restore

/-- `SetAutonomyEmergencyStop`. -/
def setAutonomyEmergencyStop (e : EmergencyStop) : Answer Unit :=
  let checks : Except Error Unit := do
    scope.validate
    e.validate
  match checks with
  | .error message => (.error message, t)
  | .ok () =>
    let row : EmergencyStopRow := ⟨scope.tenantID, e.active, e.scope, e.actor, e.reason, truncMicros e.changedAt⟩
    match Table.lookup EmergencyStopRow.tenantID scope.tenantID t.emergencyStops with
    | none => (.ok (), { t with emergencyStops := t.emergencyStops ++ [row] })
    | some _ =>
      (.ok (), { t with emergencyStops := Table.modify EmergencyStopRow.tenantID scope.tenantID (fun _ => row) t.emergencyStops })

end WizPay.Storage
