import WizPay.Errors
import WizPay.Lib.Calendar
import WizPay.Lib.Sha256

/-!
# Schedules, grants, delegations and occurrences

`internal/autonomy/model.go`. A version is a `Nat`; a Go text that is none of the
constants of its type is `other`.
-/
namespace WizPay.Autonomy

open Checks GoText GoTime

inductive IntentType
  | payroll | swap
  | other (text : String)
deriving DecidableEq

namespace IntentType

def text : IntentType → String
  | .payroll => "PAYROLL"
  | .swap => "SWAP"
  | .other text => text

def valid : IntentType → Bool
  | .payroll | .swap => true
  | .other _ => false

end IntentType

inductive ScheduleStatus
  | active | paused | revoked
  | other (text : String)
deriving DecidableEq

def ScheduleStatus.valid : ScheduleStatus → Bool
  | .active | .paused | .revoked => true
  | .other _ => false

def validScheduleTransition (source target : ScheduleStatus) : Bool :=
  match source with
  | .active => target = .paused || target = .revoked
  | .paused => target = .active || target = .revoked
  | .revoked => false
  | .other _ => false

inductive MissedRunPolicy
  | skip | runLatest
  | other (text : String)
deriving DecidableEq

namespace MissedRunPolicy

def text : MissedRunPolicy → String
  | .skip => "SKIP"
  | .runLatest => "RUN_LATEST"
  | .other text => text

def valid : MissedRunPolicy → Bool
  | .skip | .runLatest => true
  | .other _ => false

end MissedRunPolicy

inductive ConcurrencyPolicy
  | forbidOverlap
  | other (text : String)
deriving DecidableEq

def ConcurrencyPolicy.text : ConcurrencyPolicy → String
  | .forbidOverlap => "FORBID_OVERLAP"
  | .other text => text

inductive Frequency
  | once | daily | weekly | monthly
  | other (text : String)
deriving DecidableEq

namespace Frequency

def text : Frequency → String
  | .once => "ONCE"
  | .daily => "DAILY"
  | .weekly => "WEEKLY"
  | .monthly => "MONTHLY"
  | .other text => text

def valid : Frequency → Bool
  | .once | .daily | .weekly | .monthly => true
  | .other _ => false

end Frequency

/-! ### Recurrences -/

structure Recurrence where
  frequency : Frequency
  start : Int
  /-- `Start.Location() == time.Local` -/
  startIsLocal : Bool
  stop : Int
  weekday : Int
  dayOfMonth : Int
  location : String
deriving DecidableEq

namespace Recurrence

def validate (zones : TimeZones) (r : Recurrence) : Except Error Unit := do
  rejectIf (isZero r.start = true ∨ r.startIsLocal = true)
    (.text "recurrence start and explicit timezone are required")
  rejectIf (r.frequency.valid = false) (.text "unsupported recurrence frequency")
  rejectIf (isZero r.stop = false ∧ r.stop ≤ r.start) (.text "recurrence end must follow start")
  rejectIf (r.frequency = .weekly ∧ (r.weekday < 0 ∨ 6 < r.weekday)) (.text "invalid weekly day")
  rejectIf (r.frequency = .monthly ∧ (r.dayOfMonth < 1 ∨ 31 < r.dayOfMonth)) (.text "invalid monthly day")
  rejectIf (r.location = "") (.text "timezone is required")
  rejectIf ((zones.loadLocation r.location).isNone = true) (.text "invalid timezone")

/-- A `for` loop of `Next`: advance until the instant is taken, at most `fuel` times. -/
def advance (taken : Int → Bool) (step : Int → Int) : Nat → Int → Option Int
  | 0, _ => none
  | fuel + 1, candidate => if taken candidate then some candidate else advance taken step fuel (step candidate)

/-- The instant of the switch over the frequency; `none` is the zero time. -/
def candidate (loc : Location) (r : Recurrence) (after : Int) (fuel : Nat) : Option Int :=
  match r.frequency with
  | .once => if after < r.start then some r.start else none
  | .daily => advance (fun next => after < next) (fun next => addDateIn loc next 0 1) fuel r.start
  | .weekly =>
    advance (fun next => after < next && (civilIn loc next).weekday = r.weekday)
      (fun next => addDateIn loc next 0 1) fuel r.start
  | .monthly =>
    advance (fun next => after < next && (civilIn loc next).day = r.dayOfMonth)
      (fun next =>
        let month := civilIn loc (addDateIn loc next 1 0)
        let base := civilIn loc r.start
        dateIn loc month.year month.month r.dayOfMonth base.clock base.nanosecond)
      fuel r.start
  | .other _ => none

/-- `Next(after)`, with a bound on the iterations of its loop. -/
def next (zones : TimeZones) (r : Recurrence) (after : Int) (fuel : Nat) : Option Int :=
  match r.validate zones, zones.loadLocation r.location with
  | .ok (), some loc =>
    match r.candidate loc after fuel with
    | none => none
    | some next => if next = 0 ∨ (r.stop ≠ 0 ∧ r.stop ≤ next) then none else some next
  | _, _ => none

end Recurrence

structure ScheduleSpec where
  recurrence : Recurrence
  missed : MissedRunPolicy
  concurrency : ConcurrencyPolicy
  maxRecipients : Int
  intent : IntentType
  templateDigest : String
deriving DecidableEq

def ScheduleSpec.validate (zones : TimeZones) (s : ScheduleSpec) : Except Error Unit := do
  s.recurrence.validate zones
  rejectIf (s.missed.valid = false) (.text "invalid missed-run policy")
  rejectIf (s.concurrency ≠ .forbidOverlap) (.text "unsupported concurrency policy")
  rejectIf (s.intent.valid = false) (.text "unsupported intent type")
  rejectIf (s.templateDigest = "" ∨ len s.templateDigest > 128) (.text "typed intent template digest is required")
  rejectIf (s.maxRecipients < 1 ∨ 500 < s.maxRecipients) (.text "recipient bound is invalid")

structure Principal where
  tenantID : String
  userID : String
  agentID : String
deriving DecidableEq

/-- Go visits the three fields in map order. -/
def Principal.validate (p : Principal) : Except Error Unit := do
  let field (name value : String) : Except Error Unit :=
    rejectIf (trimSpace value = "" ∨ len value > 256) (.text s!"{name} principal field is invalid")
  field "tenant" p.tenantID
  field "user" p.userID
  field "agent" p.agentID

/-! ### Delegations and grants -/

structure Delegation where
  id : String
  version : Nat
  principalUserID : String
  agentID : String
  capabilities : List IntentType
  expiresAt : Int
  revoked : Bool
  nonTransitive : Bool
deriving DecidableEq

namespace Delegation

def validateStructure (d : Delegation) : Except Error Unit := do
  rejectIf (d.id = "" ∨ len d.id > 256 ∨ d.version = 0 ∨ d.principalUserID = "" ∨ len d.principalUserID > 256 ∨
      d.agentID = "" ∨ len d.agentID > 256 ∨ isZero d.expiresAt = true)
    (.text "delegation identity is invalid")
  rejectIf (d.nonTransitive = false) (.text "delegation must be explicitly non-transitive")
  rejectIf (d.capabilities.length = 0 ∨ d.capabilities.length > 2)
    (.text "delegation capabilities are required and bounded")
  rejectIf (d.capabilities.any (fun capability => !capability.valid) = true ∨ ¬ d.capabilities.Nodup)
    (.text "delegation capability is invalid")

def validate (d : Delegation) (now : Int) (intent : IntentType) : Except Error Unit := do
  d.validateStructure
  rejectIf (d.revoked = true ∨ d.expiresAt ≤ now) (.text "delegation is not active")
  rejectIf (intent ∉ d.capabilities) (.text "delegation capability denied")

end Delegation

structure Grant where
  id : String
  version : Nat
  principalUserID : String
  walletBindingID : String
  intent : IntentType
  scheduleID : String
  expiresAt : Int
  paused : Bool
  revoked : Bool
  perActionBaseUnits : String
  aggregateCapBaseUnits : String
  rollingWindowCapBaseUnits : String
  rollingWindow : Int
  stepUpAboveBaseUnits : String
  allowedRecipients : List String
  allowedTokens : List String
  allowedChains : List String
deriving DecidableEq

namespace Grant

/-- A limit that is absent or a positive number. -/
def validateLimit (name value : String) : Except Error Unit :=
  rejectIf (value ≠ "" ∧ ¬ ∃ limit ∈ parseBig value, 0 < limit) (.text s!"{name} limit must be positive")

def validAllowlistValue (value : String) : Bool :=
  value ≠ "" && len value ≤ 256 && value.toList.all fun c => ' '.toNat ≤ c.toNat

/-- The loop over an allowlist; `previous` is the value before. -/
def validateAllowlistValues (name : String) : Option String → List String → Except Error Unit
  | _, [] => .ok ()
  | previous, value :: rest => do
    rejectIf (validAllowlistValue value = false) (.text s!"{name} allowlist value is invalid")
    rejectIf (∃ before ∈ previous, value ≤ before) (.text s!"{name} allowlist must be sorted and unique")
    validateAllowlistValues name (some value) rest

def validateAllowlist (name : String) (values : List String) : Except Error Unit := do
  rejectIf (values.length > 500) (.text s!"{name} allowlist is too large")
  validateAllowlistValues name none values

def validate (g : Grant) : Except Error Unit := do
  rejectIf (g.id = "" ∨ g.version = 0 ∨ g.principalUserID = "" ∨ g.walletBindingID = "" ∨ g.intent.valid = false ∨
      isZero g.expiresAt = true)
    (.text "invalid policy grant")
  validateLimit "per action" g.perActionBaseUnits
  validateLimit "aggregate" g.aggregateCapBaseUnits
  validateLimit "rolling" g.rollingWindowCapBaseUnits
  rejectIf (g.rollingWindowCapBaseUnits ≠ "" ∧ g.rollingWindow ≤ 0) (.text "rolling window is required")
  validateAllowlist "recipient" g.allowedRecipients
  validateAllowlist "token" g.allowedTokens
  validateAllowlist "chain" g.allowedChains

def active (g : Grant) (now : Int) : Bool := g.validate.isOk && !g.paused && !g.revoked && now < g.expiresAt

end Grant

/-! ### Schedules -/

structure Schedule where
  id : String
  version : Nat
  principal : Principal
  walletBindingID : String
  walletBindingVersion : Nat
  grantID : String
  grantVersion : Nat
  delegationID : String
  delegationVersion : Nat
  createdAt : Int
  updatedAt : Int
  status : ScheduleStatus
  spec : ScheduleSpec
  digest : String
deriving DecidableEq

namespace Schedule

/-- The fields of the digest in their order; neither the agent nor the status is among them. -/
def material (s : Schedule) : String :=
  let r := s.spec.recurrence
  "|".intercalate
    [s.id, toString s.version, s.principal.tenantID, s.principal.userID, s.walletBindingID,
      toString s.walletBindingVersion, s.grantID, toString s.grantVersion, s.delegationID,
      toString s.delegationVersion, s.spec.intent.text, r.frequency.text, formatRFC3339Nano r.start,
      formatRFC3339Nano r.stop, toString r.weekday, toString r.dayOfMonth, r.location, s.spec.missed.text,
      s.spec.concurrency.text, toString s.spec.maxRecipients, s.spec.templateDigest]

def computeDigest (s : Schedule) : String := "sha256:" ++ Sha256.hexText (Sha256.sum256 (bytes s.material))

def validate (zones : TimeZones) (s : Schedule) : Except Error Unit := do
  rejectIf (s.id = "" ∨ s.version = 0 ∨ s.walletBindingID = "" ∨ s.walletBindingVersion = 0 ∨ s.grantID = "" ∨
      s.grantVersion = 0 ∨ s.delegationID = "" ∨ s.delegationVersion = 0 ∨ isZero s.createdAt = true ∨
      isZero s.updatedAt = true)
    (.text "invalid schedule identity")
  s.principal.validate
  s.spec.validate zones
  rejectIf (s.status.valid = false) (.text "invalid schedule status")
  rejectIf (s.digest = "") (.text "schedule digest is required")
  rejectIf (s.digest ≠ s.computeDigest) (.text "schedule digest does not match immutable schedule material")

end Schedule

/-! ### Occurrences -/

inductive OccurrenceStatus
  | due | claimed | blocked | approvalRequired | dispatched | reconcile | completed | skipped
  | other (text : String)
deriving DecidableEq

def OccurrenceStatus.valid : OccurrenceStatus → Bool
  | .other _ => false
  | _ => true

inductive ReasonCode
  | eligible | runtimeDisabled | schedulePaused | grantDenied | delegationDenied | emergencyStop | stepUp | overlap
  | providerUnavailable | alreadySubmitted
  | other (text : String)
deriving DecidableEq

def ReasonCode.valid : ReasonCode → Bool
  | .other _ => false
  | _ => true

structure Occurrence where
  id : String
  key : String
  scheduleID : String
  scheduleDigest : String
  grantID : String
  grantVersion : Nat
  scheduleVersion : Nat
  scheduledAt : Int
  createdAt : Int
  status : OccurrenceStatus
  leaseOwner : String
  /-- the zero time of an occurrence without a lease is 0 -/
  leaseUntil : Int
  fence : Nat
  intentID : String
  approvalID : String
  executionID : String
  /-- `none` is the empty reason -/
  reason : Option ReasonCode
deriving DecidableEq

def occurrenceKey (scheduleID : String) (scheduleVersion : Nat) (scheduledAt : Int) : String :=
  scheduleID ++ "/" ++ toString scheduleVersion ++ "/" ++ formatRFC3339Nano scheduledAt

/-- `"occ_"` and the first 16 bytes of the hash of the key. -/
def occurrenceID (key : String) : String := "occ_" ++ Sha256.hexText ((Sha256.sum256 (bytes key)).take 16)

def Occurrence.validate (o : Occurrence) : Except Error Unit := do
  rejectIf (o.id = "" ∨ o.key = "" ∨ o.scheduleID = "" ∨ o.scheduleVersion = 0 ∨ o.scheduleDigest = "" ∨
      o.grantID = "" ∨ o.grantVersion = 0 ∨ isZero o.scheduledAt = true ∨ isZero o.createdAt = true ∨ o.fence = 0)
    (.text "occurrence identity is invalid")
  rejectIf (o.status.valid = false) (.text "occurrence status is invalid")
  rejectIf (o.key ≠ occurrenceKey o.scheduleID o.scheduleVersion o.scheduledAt) (.text "occurrence key is invalid")
  rejectIf (o.id ≠ occurrenceID o.key) (.text "occurrence ID is invalid")
  rejectIf ((o.reason.map ReasonCode.valid).getD true = false) (.text "occurrence reason is invalid")

/-- `NewOccurrence` of the schedule for the instant; `now` is the clock's reading. -/
def newOccurrence (s : Schedule) (scheduledAt now : Int) : Occurrence :=
  let key := occurrenceKey s.id s.version scheduledAt
  { id := occurrenceID key, key := key, scheduleID := s.id, scheduleDigest := s.digest, grantID := s.grantID,
    grantVersion := s.grantVersion, scheduleVersion := s.version, scheduledAt := scheduledAt, createdAt := now,
    status := .due, leaseOwner := "", leaseUntil := 0, fence := 1, intentID := "", approvalID := "", executionID := "",
    reason := none }

/-! ### Emergency stops -/

structure EmergencyStop where
  active : Bool
  scope : String
  changedAt : Int
  actor : String
  reason : String
deriving DecidableEq

namespace EmergencyStop

/-- `EmergencyStop{}`. -/
def zero : EmergencyStop := ⟨false, "", 0, "", ""⟩

def validate (e : EmergencyStop) : Except Error Unit := do
  rejectIf (e.scope ≠ "TENANT") (.text "emergency stop scope must be TENANT")
  rejectIf (e.actor = "" ∨ len e.actor > 256 ∨ isZero e.changedAt = true ∨ e.reason = "" ∨ len e.reason > 256)
    (.text "emergency stop state is invalid")

end EmergencyStop

/-! ### What validation guarantees -/

/-- The facts that the storage of a schedule and its later checks rely on. -/
structure Recurrence.Valid (zones : TimeZones) (r : Recurrence) : Prop where
  started : r.start ≠ 0
  explicit : r.startIsLocal = false
  frequency : r.frequency.valid = true
  ends : r.stop = 0 ∨ r.start < r.stop
  weekday : r.frequency = .weekly → 0 ≤ r.weekday ∧ r.weekday ≤ 6
  dayOfMonth : r.frequency = .monthly → 1 ≤ r.dayOfMonth ∧ r.dayOfMonth ≤ 31
  located : r.location ≠ ""
  loads : (zones.loadLocation r.location).isSome = true

variable {zones : TimeZones}

theorem Recurrence.validate_ok {r : Recurrence} :
    r.validate zones = .ok () ↔ r.Valid zones := by
  have started : ¬ (isZero r.start = true ∨ r.startIsLocal = true) ↔ r.start ≠ 0 ∧ r.startIsLocal = false := by
    rw [not_or, isZero_iff, Bool.not_eq_true]
  have ends : ¬ (isZero r.stop = false ∧ r.stop ≤ r.start) ↔ r.stop = 0 ∨ r.start < r.stop := by
    rw [not_and_or, Bool.not_eq_false, isZero_iff, Int.not_le]
  simp only [Recurrence.validate, checks_ok, started, ends, not_and, not_or, Int.not_lt, Bool.not_eq_false,
    ← Option.not_isSome, Bool.not_eq_true', Bool.not_eq_false]
  constructor
  · rintro ⟨⟨start, explicit⟩, frequency, stop, weekday, dayOfMonth, located, loads⟩
    exact ⟨start, explicit, frequency, stop, weekday, dayOfMonth, located, by simpa using loads⟩
  · rintro ⟨start, explicit, frequency, stop, weekday, dayOfMonth, located, loads⟩
    exact ⟨⟨start, explicit⟩, frequency, stop, weekday, dayOfMonth, located, by simpa using loads⟩

structure Schedule.Valid (zones : TimeZones) (s : Schedule) : Prop where
  identity : ¬(s.id = "" ∨ s.version = 0 ∨ s.walletBindingID = "" ∨ s.walletBindingVersion = 0 ∨ s.grantID = "" ∨
    s.grantVersion = 0 ∨ s.delegationID = "" ∨ s.delegationVersion = 0 ∨ isZero s.createdAt = true ∨
    isZero s.updatedAt = true)
  principal : s.principal.validate = .ok ()
  spec : s.spec.validate zones = .ok ()
  status : s.status.valid = true
  digest : s.digest = s.computeDigest

theorem Schedule.computeDigest_ne_empty (s : Schedule) : s.computeDigest ≠ "" := by
  intro empty
  have chars := congrArg String.toList empty
  rw [computeDigest, String.toList_append] at chars
  cases chars

theorem Schedule.validate_ok {s : Schedule} : s.validate zones = .ok () ↔ s.Valid zones := by
  simp only [Schedule.validate, checks_ok, Bool.not_eq_false, not_not]
  constructor
  · rintro ⟨identity, principal, spec, status, -, digest⟩
    exact ⟨identity, principal, spec, status, digest⟩
  · rintro ⟨identity, principal, spec, status, digest⟩
    refine ⟨identity, principal, spec, status, ?_, digest⟩
    rw [digest]
    exact s.computeDigest_ne_empty

/-- Every instant of a recurrence has the nanoseconds of its start. -/
theorem Recurrence.next_nanosecond {r : Recurrence} {after instant : Int} {fuel : Nat}
    (produced : r.next zones after fuel = some instant) : instant % second = r.start % second := by
  -- a loop whose steps keep the nanoseconds ends at an instant that has them
  have loop (taken : Int → Bool) (step : Int → Int) (keeps : ∀ t, t % second = r.start % second →
      step t % second = r.start % second) : ∀ (fuel : Nat) (from_ : Int), from_ % second = r.start % second →
      Recurrence.advance taken step fuel from_ = some instant → instant % second = r.start % second := by
    intro fuel
    induction fuel with
    | zero => intro from_ _ ended; cases ended
    | succ fuel ih =>
      intro from_ same ended
      unfold Recurrence.advance at ended
      split at ended
      next =>
        cases ended
        exact same
      next => exact ih _ (keeps from_ same) ended
  unfold Recurrence.next at produced
  split at produced
  next loc _ _ =>
    split at produced
    next => cases produced
    next found chosen =>
      split at produced
      next => cases produced
      next =>
        cases produced
        have days (t : Int) (same : t % second = r.start % second) :
            addDateIn loc t 0 1 % second = r.start % second := by rw [addDateIn_nanosecond, same]
        unfold Recurrence.candidate at chosen
        split at chosen
        next =>
          split at chosen
          next =>
            cases chosen
            rfl
          next => cases chosen
        next => exact loop _ _ days fuel _ rfl chosen
        next => exact loop _ _ days fuel _ rfl chosen
        next =>
          have small : 0 ≤ r.start % second ∧ r.start % second < second := by
            unfold second
            omega
          exact loop _ _ (fun _ _ => dateIn_nanosecond small loc _ _ _ _) fuel _ rfl chosen
        next => cases chosen
  next => cases produced

end WizPay.Autonomy
