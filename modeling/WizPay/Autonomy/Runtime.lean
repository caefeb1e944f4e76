import WizPay.Storage.AutonomyRepository

/-!
# The dispatch gate

`Runtime.BeforeDispatch` over both stores that a runtime can be given.
-/
namespace WizPay.Autonomy

open Checks GoText GoTime Storage

structure DispatchGuard where
  occurrenceID : String
  scheduleID : String
  grantID : String
  principalUserID : String
  agentID : String
  delegationID : String
  leaseOwner : String
  scheduleVersion : Nat
  grantVersion : Nat
  delegationVersion : Nat
  fence : Nat
deriving DecidableEq

/-- What the gate reads of a `MemoryStore`; the occurrences are listed in the order the map is visited in. -/
structure MemoryStore where
  occurrences : List Occurrence
  stop : EmergencyStop
deriving DecidableEq

def MemoryStore.checkDispatchFence (m : MemoryStore) (id worker : String) (fence : Nat) (now : Int) :
    Except Error (Option Occurrence × Bool) :=
  match m.occurrences.find? (·.id = id) with
  | none => .error (.text "occurrence not found")
  | some o => .ok (some o, o.status = .claimed && o.leaseOwner = worker && o.fence = fence && now < o.leaseUntil)

/-- `Store`: the durable adapter of one scope, or the one in memory. -/
inductive Store
  | durable (tables : AutonomyTables) (scope : Scope)
  | memory (m : MemoryStore)

namespace Store

def emergency : Store → Except Error EmergencyStop
  | durable tables scope => loadAutonomyEmergencyStop tables scope
  | memory m => .ok m.stop

def checkDispatchFence : Store → String → String → Nat → Int → Except Error (Option Occurrence × Bool)
  | durable tables scope => checkAutonomyDispatchFence tables scope
  | memory m => m.checkDispatchFence

end Store

/-- What `Now` returns, one call after the other. -/
structure Clock where
  atGrant : Int
  atDelegation : Int
  atFence : Int

structure Runtime where
  store : Option Store
  now : Option Clock
  enabled : Bool
  workerID : String

/-- A reason code with a nil error, or an error with the reason code that comes with it. -/
abbrev GateAnswer := Except (Option ReasonCode × Error) ReasonCode

namespace Runtime

/-- The comparisons of `BeforeDispatch` between its arguments. -/
def bindsGrant (g : DispatchGuard) (s : Schedule) (grant : Grant) : Bool :=
  s.grantID = grant.id && s.grantVersion = grant.version && g.grantID = grant.id && g.grantVersion = grant.version &&
    g.scheduleID = s.id && g.scheduleVersion = s.version

def grantCovers (now : Int) (s : Schedule) (grant : Grant) (p : Principal) : Bool :=
  grant.active now && grant.principalUserID = p.userID && grant.walletBindingID = s.walletBindingID &&
    (grant.scheduleID = "" || grant.scheduleID = s.id)

def bindsDelegation (g : DispatchGuard) (s : Schedule) (p : Principal) (d : Delegation) : Bool :=
  d.principalUserID = p.userID && d.agentID = p.agentID && s.principal.userID = p.userID &&
    s.principal.agentID = p.agentID && g.principalUserID = p.userID && g.agentID = p.agentID && g.delegationID = d.id &&
    g.delegationVersion = d.version && s.delegationID = d.id && s.delegationVersion = d.version

def bindsOccurrence (o : Occurrence) (s : Schedule) (grant : Grant) : Bool :=
  o.grantID = grant.id && o.grantVersion = grant.version && o.scheduleID = s.id && o.scheduleVersion = s.version

/-- The checks of `BeforeDispatch` after the stop has been read. -/
def admission (r : Runtime) (store : Store) (now : Clock) (g : DispatchGuard) (s : Schedule) (grant : Grant) (p : Principal)
    (d : Delegation) : GateAnswer :=
  if r.enabled = false then .ok .runtimeDisabled
  else if s.status ≠ .active then .ok .schedulePaused
  else if bindsGrant g s grant = false then .ok .grantDenied
  else if grantCovers now.atGrant s grant p = false then .ok .grantDenied
  else if bindsDelegation g s p d = false then .ok .delegationDenied
  else if (d.validate now.atDelegation s.spec.intent).isOk = false then .ok .delegationDenied
  else if g.occurrenceID = "" ∨ g.leaseOwner = "" then .ok .grantDenied
  else
    match store.checkDispatchFence g.occurrenceID g.leaseOwner g.fence now.atFence with
    | .error e => .error (none, e)
    | .ok (_, false) => .ok .grantDenied
    | .ok (none, true) => .ok .grantDenied
    | .ok (some o, true) => if bindsOccurrence o s grant then .ok .eligible else .ok .grantDenied

def beforeDispatch (r : Runtime) (g : DispatchGuard) (s : Schedule) (grant : Grant) (p : Principal) (d : Delegation) :
    GateAnswer :=
  match r.store, r.now with
  | some store, some now =>
    if r.workerID = "" then .error (none, .text "autonomy runtime dependencies are required")
    else
      match store.emergency with
      | .error e => .error (none, e)
      | .ok stop =>
        -- a stop that is not the zero value must be well formed
        match (if stop = .zero then .ok () else stop.validate) with
        | .error e => .error (some .emergencyStop, e)
        | .ok () => if stop.active then .ok .emergencyStop else r.admission store now g s grant p d
  | _, _ => .error (none, .text "autonomy runtime dependencies are required")

end Runtime

/-! ### What an eligible answer guarantees -/

/-- The occurrence is stored under the ID, as the store's scope sees it. -/
def Store.Stores : Store → String → Occurrence → Prop
  | .durable tables scope, id, o => ∃ row ∈ tables.occurrences, row.id = (scope.tenantID, id) ∧ row.restore = o
  | .memory m, id, o => o ∈ m.occurrences ∧ o.id = id

def Store.Stopped : Store → Prop
  | .durable tables scope => ∃ row ∈ tables.emergencyStops, row.tenantID = scope.tenantID ∧ row.active = true
  | .memory m => m.stop.active = true

/-- Primary keys are unique, and `timestamptz` has whole microseconds. -/
def Store.WellFormed : Store → Prop
  | .durable tables _ =>
    (tables.occurrences.map OccurrenceRow.id).Nodup ∧ (tables.emergencyStops.map EmergencyStopRow.tenantID).Nodup ∧
      ∀ row ∈ tables.occurrences, ∀ leaseUntil ∈ row.leaseUntil, truncMicros leaseUntil = leaseUntil
  | .memory m => (m.occurrences.map Occurrence.id).Nodup

/-- The authority under which a dispatch may happen. -/
structure DispatchSound (r : Runtime) (store : Store) (now : Clock) (g : DispatchGuard) (s : Schedule) (grant : Grant)
    (p : Principal) (d : Delegation) : Prop where
  running : ¬ store.Stopped
  enabled : r.enabled = true
  scheduled : s.status = .active
  granted : grant.paused = false ∧ grant.revoked = false ∧ now.atGrant < grant.expiresAt
  boundUser : grant.principalUserID = p.userID ∧ s.principal.userID = p.userID
  boundWallet : grant.walletBindingID = s.walletBindingID
  boundSchedule : grant.scheduleID = "" ∨ grant.scheduleID = s.id
  boundIntent : grant.intent = s.spec.intent
  delegated : d.revoked = false ∧ now.atDelegation < d.expiresAt ∧ d.principalUserID = p.userID ∧ d.agentID = p.agentID ∧
    s.spec.intent ∈ d.capabilities
  claimed : ∃ o, store.Stores g.occurrenceID o ∧ o.status = .claimed ∧ o.leaseOwner = g.leaseOwner ∧ o.fence = g.fence ∧
    now.atFence < o.leaseUntil ∧ o.scheduleID = s.id ∧ o.scheduleVersion = s.version ∧ o.scheduleDigest = s.digest ∧
    o.grantID = s.grantID ∧ o.grantVersion = s.grantVersion

section Stores

variable {store : Store} {id : String} {o other : Occurrence}

theorem Store.Stores.unique (wellFormed : store.WellFormed) (first : store.Stores id o) (second : store.Stores id other) :
    o = other := by
  cases store with
  | durable tables scope =>
    obtain ⟨row, stored, key, rfl⟩ := first
    obtain ⟨row', stored', key', rfl⟩ := second
    have found := Table.lookup_of_mem wellFormed.1 stored
    rw [key, ← key', Table.lookup_of_mem wellFormed.1 stored'] at found
    rw [Option.some.inj found]
  | memory m =>
    have found := Table.lookup_of_mem wellFormed first.1
    rw [first.2, ← second.2, Table.lookup_of_mem wellFormed second.1] at found
    exact (Option.some.inj found).symm

/-- A whole number of microseconds that is later than the truncated instant is later than the instant. -/
theorem lt_of_truncMicros_lt {now limit : Int} (whole : truncMicros limit = limit) (later : truncMicros now < limit) :
    now < limit := by
  by_contra late
  have ordered := truncMicros_mono (Int.not_lt.mp late)
  rw [whole] at ordered
  omega

theorem Store.checkDispatchFence_true {worker : String} {fence : Nat} {now : Int} (wellFormed : store.WellFormed)
    (held : store.checkDispatchFence id worker fence now = .ok (some o, true)) :
    store.Stores id o ∧ o.status = .claimed ∧ o.leaseOwner = worker ∧ o.fence = fence ∧ now < o.leaseUntil := by
  cases store with
  | durable tables scope =>
    simp only [Store.checkDispatchFence, checkAutonomyDispatchFence, bind_ok, rejectIf_ok] at held
    obtain ⟨-, -, -, -, held⟩ := held
    split at held
    · -- the branch without the row never reports the fence as held
      split at held <;> simp at held
    next one =>
      simp only [bind_ok, pure_ok, Prod.mk.injEq, Option.some.injEq, and_true] at held
      obtain ⟨current, loaded, rfl⟩ := held
      obtain ⟨row, stored, holds⟩ : ∃ row ∈ tables.occurrences, holdsFence tables scope id worker fence now row = true :=
        List.countP_pos_iff.mp (by omega)
      simp only [holdsFence, Bool.and_eq_true, decide_eq_true_eq] at holds
      obtain ⟨⟨⟨⟨⟨key, status⟩, owner⟩, fenced⟩, lease⟩, -⟩ := holds
      -- the row that is loaded is the one that the update met
      have found := Table.lookup_of_mem wellFormed.1 stored
      rw [key] at found
      simp only [loadAutonomyOccurrence, found, bind_ok, pure_ok] at loaded
      obtain ⟨-, -, -, -, -, -, rfl⟩ := loaded
      refine ⟨⟨row, stored, key, rfl⟩, status, ?_, fenced, ?_⟩
      · simp [OccurrenceRow.restore, owner, stringValue]
      · cases until_ : row.leaseUntil with
        | none => simp [until_] at lease
        | some leaseUntil =>
          simp only [until_, decide_eq_true_eq] at lease
          have whole := wellFormed.2.2 row stored leaseUntil until_
          simpa [OccurrenceRow.restore, until_] using lt_of_truncMicros_lt whole lease
  | memory m =>
    simp only [Store.checkDispatchFence, MemoryStore.checkDispatchFence] at held
    split at held
    · cases held
    next found =>
      simp only [Except.ok.injEq, Prod.mk.injEq, Option.some.injEq, Bool.and_eq_true, decide_eq_true_eq] at held
      obtain ⟨rfl, ⟨⟨status, owner⟩, fenced⟩, lease⟩ := held
      exact ⟨⟨List.mem_of_find?_eq_some found, by simpa using List.find?_some found⟩, status, owner, fenced, lease⟩

theorem Store.not_stopped {stop : EmergencyStop} (wellFormed : store.WellFormed) (read : store.emergency = .ok stop)
    (inactive : stop.active = false) : ¬ store.Stopped := by
  cases store with
  | durable tables scope =>
    rintro ⟨row, stored, tenant, active⟩
    have found := Table.lookup_of_mem wellFormed.2.1 stored
    rw [tenant] at found
    simp only [Store.emergency, loadAutonomyEmergencyStop, found, bind_ok, pure_ok] at read
    obtain ⟨-, -, -, -, rfl⟩ := read
    simp [EmergencyStopRow.restore, active] at inactive
  | memory m =>
    cases read
    intro active
    rw [Store.Stopped, inactive] at active
    cases active

end Stores

section Gate

variable {r : Runtime} {store : Store} {now : Clock} {g : DispatchGuard} {s : Schedule} {grant : Grant} {p : Principal}
  {d : Delegation}

/-- The checks that stand between the stop and an eligible answer. -/
theorem Runtime.admission_eligible (eligible : r.admission store now g s grant p d = .ok .eligible) :
    r.enabled = true ∧ s.status = .active ∧ bindsGrant g s grant = true ∧ grantCovers now.atGrant s grant p = true ∧
      bindsDelegation g s p d = true ∧ d.validate now.atDelegation s.spec.intent = .ok () ∧
      ∃ o, store.checkDispatchFence g.occurrenceID g.leaseOwner g.fence now.atFence = .ok (some o, true) ∧
        bindsOccurrence o s grant = true := by
  unfold Runtime.admission at eligible
  split_ifs at eligible with disabled paused unbound uncovered undelegated inactive unnamed
  case neg =>
    rw [Bool.not_eq_false] at disabled unbound uncovered undelegated inactive
    obtain ⟨_, valid⟩ := exists_ok_of_isOk inactive
    split at eligible
    case h_4 o held =>
      split at eligible
      next bound =>
        exact ⟨disabled, not_not.mp paused, unbound, uncovered, undelegated, valid, o, held, bound⟩
      next => cases eligible
    all_goals cases eligible
  all_goals cases eligible

theorem Runtime.beforeDispatch_eligible (configured : r.store = some store) (clock : r.now = some now)
    (eligible : r.beforeDispatch g s grant p d = .ok .eligible) :
    (∃ stop, store.emergency = .ok stop ∧ stop.active = false) ∧ r.admission store now g s grant p d = .ok .eligible := by
  unfold Runtime.beforeDispatch at eligible
  rw [configured, clock] at eligible
  dsimp only at eligible
  split at eligible
  · cases eligible
  split at eligible
  · cases eligible
  next stop read =>
    split at eligible
    · cases eligible
    · split at eligible
      · cases eligible
      next inactive => exact ⟨⟨stop, read, by simpa using inactive⟩, eligible⟩

/-- An eligible answer is sound exactly if the two comparisons that the gate does not make would have passed: the
grant's intent type with the schedule's, and the digest of the stored occurrence with the schedule's. -/
theorem beforeDispatch_sound_iff (r : Runtime) (store : Store) (now : Clock) (g : DispatchGuard) (s : Schedule)
    (grant : Grant) (p : Principal) (d : Delegation) (configured : r.store = some store) (clock : r.now = some now)
    (wellFormed : store.WellFormed) (eligible : r.beforeDispatch g s grant p d = .ok .eligible) :
    DispatchSound r store now g s grant p d ↔
      grant.intent = s.spec.intent ∧ ∀ o, store.Stores g.occurrenceID o → o.scheduleDigest = s.digest := by
  obtain ⟨⟨stop, read, inactive⟩, admitted⟩ := Runtime.beforeDispatch_eligible configured clock eligible
  obtain ⟨enabled, scheduled, boundGrant, covered, boundDelegation, valid, o, held, boundOccurrence⟩ :=
    Runtime.admission_eligible admitted
  obtain ⟨stored, status, owner, fence, lease⟩ := Store.checkDispatchFence_true wellFormed held
  simp only [Runtime.bindsGrant, Runtime.bindsDelegation, Runtime.bindsOccurrence, Bool.and_eq_true,
    decide_eq_true_eq] at boundGrant boundDelegation boundOccurrence
  simp only [Runtime.grantCovers, Grant.active, Bool.and_eq_true, Bool.or_eq_true, Bool.not_eq_true',
    decide_eq_true_eq] at covered
  simp only [Delegation.validate, checks_ok, not_or, not_not, Bool.not_eq_true, Int.not_le] at valid
  constructor
  · intro sound
    obtain ⟨claimed, isStored, -, -, -, -, -, -, digest, -, -⟩ := sound.claimed
    refine ⟨sound.boundIntent, ?_⟩
    intro other otherStored
    rw [Store.Stores.unique wellFormed otherStored isStored]
    exact digest
  · rintro ⟨intent, digest⟩
    constructor
    case running => exact Store.not_stopped wellFormed read inactive
    case enabled => exact enabled
    case scheduled => exact scheduled
    case granted => tauto
    case boundUser => tauto
    case boundWallet => tauto
    case boundSchedule => tauto
    case boundIntent => exact intent
    case delegated => tauto
    case claimed =>
      refine ⟨o, stored, status, owner, fence, lease, boundOccurrence.1.2, boundOccurrence.2, digest o stored, ?_, ?_⟩
      · rw [boundOccurrence.1.1.1, boundGrant.1.1.1.1.1]
      · rw [boundOccurrence.1.1.2, boundGrant.1.1.1.1.2]

end Gate

/-- A daily payroll schedule and the claimed occurrence of it that is stored. -/
def gateSchedule : Schedule :=
  { id := "s", version := 1, principal := ⟨"t", "u", "a"⟩, walletBindingID := "w", walletBindingVersion := 1,
    grantID := "g", grantVersion := 1, delegationID := "d", delegationVersion := 1, createdAt := 1000, updatedAt := 1000,
    status := .active, digest := "digest"
    spec :=
      { recurrence :=
          { frequency := .daily, start := 1000, startIsLocal := false, stop := 0, weekday := 0, dayOfMonth := 0,
            location := "UTC" }
        missed := .skip, concurrency := .forbidOverlap, maxRecipients := 1, intent := .payroll,
        templateDigest := "template" } }

def gateOccurrence : OccurrenceRow :=
  { tenantID := "t", occurrenceID := occurrenceID (occurrenceKey "s" 1 1000), occurrenceKey := occurrenceKey "s" 1 1000,
    scheduleID := "s", scheduleVersion := 1, scheduleDigest := "digest", scheduledAt := 1000, status := .claimed,
    grantID := "g", grantVersion := 1, intentID := none, approvalID := none, executionID := none,
    leaseOwner := some "worker", leaseUntil := some 5000, fence := 2, reasonCode := none, createdAt := 1000 }

def gateStore : Store :=
  .durable
    { schedules := [
        { tenantID := "t", scheduleID := "s", version := 1, userID := "u", agentID := "a", walletBindingID := "w",
          walletBindingVersion := 1, intentType := .payroll, grantID := "g", grantVersion := 1, delegationID := "d",
          delegationVersion := 1, status := .active, specDigest := "template", scheduleDigest := "digest",
          timezone := "UTC", startAt := 1000, endAt := none, maxRecipients := 1, recurrence := .daily,
          missedRun := .skip, concurrency := .forbidOverlap, createdAt := 1000, updatedAt := 1000 }]
      occurrences := [gateOccurrence], reservations := [], grants := [("t", "g", 1)], delegations := [("t", "d", 1)],
      emergencyStops := [⟨"t", false, "TENANT", "u", "resumed", 1000⟩] }
    ⟨"t", "u", "r", ""⟩

def gateClock : Clock := ⟨2000, 2000, 2000⟩

def gateRuntime : Runtime := ⟨some gateStore, some gateClock, true, "worker"⟩

def gateGuard : DispatchGuard :=
  ⟨occurrenceID (occurrenceKey "s" 1 1000), "s", "g", "u", "a", "d", "worker", 1, 1, 1, 2⟩

def gateGrant (intent : IntentType) : Grant :=
  { id := "g", version := 1, principalUserID := "u", walletBindingID := "w", intent := intent, scheduleID := "s",
    expiresAt := 9000, paused := false, revoked := false, perActionBaseUnits := "", aggregateCapBaseUnits := "",
    rollingWindowCapBaseUnits := "", rollingWindow := 0, allowedRecipients := [], allowedTokens := [],
    allowedChains := [], stepUpAboveBaseUnits := "" }

def gateDelegation : Delegation := ⟨"d", 1, "u", "a", [.payroll], 9000, false, true⟩

theorem gateStore_wellFormed : gateStore.WellFormed := by
  refine ⟨by simp, by simp, ?_⟩
  intro row stored leaseUntil leased
  rw [List.mem_singleton.mp stored] at leased
  cases leased
  decide

/-- The sound case: the grant is for payrolls and the stored occurrence has the digest of the schedule. -/
theorem beforeDispatch_sound_iff_payroll :
    gateRuntime.beforeDispatch gateGuard gateSchedule (gateGrant .payroll) ⟨"t", "u", "a"⟩ gateDelegation =
        .ok .eligible ∧
      DispatchSound gateRuntime gateStore gateClock gateGuard gateSchedule (gateGrant .payroll) ⟨"t", "u", "a"⟩
        gateDelegation := by
  have eligible : gateRuntime.beforeDispatch gateGuard gateSchedule (gateGrant .payroll) ⟨"t", "u", "a"⟩
      gateDelegation = .ok .eligible := by decide +kernel
  refine ⟨eligible, ?_⟩
  have sound := beforeDispatch_sound_iff gateRuntime gateStore gateClock gateGuard gateSchedule (gateGrant .payroll)
    ⟨"t", "u", "a"⟩ gateDelegation rfl rfl gateStore_wellFormed eligible
  rw [sound]
  refine ⟨rfl, ?_⟩
  rintro o ⟨row, stored, -, rfl⟩
  rw [List.mem_singleton.mp stored]
  rfl

/-- A grant for swaps dispatches a payroll. -/
theorem swap_grant_dispatches_payroll :
    gateRuntime.beforeDispatch gateGuard gateSchedule (gateGrant .swap) ⟨"t", "u", "a"⟩ gateDelegation = .ok .eligible ∧
      ¬ DispatchSound gateRuntime gateStore gateClock gateGuard gateSchedule (gateGrant .swap) ⟨"t", "u", "a"⟩
        gateDelegation := by
  constructor
  · decide +kernel
  · intro sound
    exact absurd sound.boundIntent (by decide)

end WizPay.Autonomy
