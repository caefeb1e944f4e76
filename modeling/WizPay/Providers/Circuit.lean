import WizPay.Providers.Circle.Client

/-!
# The circuit breaker

`internal/providers/circuit/breaker.go` and the exits of the clients that ask it: `do`
and `healthProbe` of the Circle client, `call` of the Arc client. A call that `Allow`
admits tells the breaker how it went, on some exits not at all.
-/
namespace WizPay.Providers.Circuit

open Checks GoTime

inductive State
  | stateClosed | stateOpen | stateHalfOpen
deriving DecidableEq

structure Config where
  failureThreshold : Int
  openDuration : Int
  halfOpenMaxProbes : Int
deriving DecidableEq

def Config.validate (c : Config) : Except Error Unit := do
  rejectIf (c.failureThreshold < 1) (.text "circuit breaker failure threshold must be at least 1")
  rejectIf (c.openDuration ≤ 0) (.text "circuit breaker open duration must be positive")
  rejectIf (c.halfOpenMaxProbes < 1) (.text "circuit breaker half-open probe limit must be at least 1")

structure Breaker where
  config : Config
  state : State
  consecutiveFails : Int
  openedAt : Int
  lastFailureAt : Int
  lastSuccessAt : Int
  halfOpenProbes : Int
deriving DecidableEq

variable (b : Breaker) (now : Int)

namespace Breaker

def new (config : Config) : Except Error Breaker := do
  config.validate
  pure ⟨config, .stateClosed, 0, 0, 0, 0, 0⟩

/-- `Allow`; without a breaker the answer is `ErrOpen`, and the breaker stays as it is. -/
def allow : Option Breaker :=
  match b.state with
  | .stateClosed => some b
  | .stateOpen =>
    if now < b.openedAt + b.config.openDuration then none
    else some { b with state := .stateHalfOpen, halfOpenProbes := 1 }
  | .stateHalfOpen =>
    if b.halfOpenProbes ≥ b.config.halfOpenMaxProbes then none
    else some { b with halfOpenProbes := b.halfOpenProbes + 1 }

def recordSuccess : Breaker :=
  { b with consecutiveFails := 0, halfOpenProbes := 0, state := .stateClosed, openedAt := 0, lastSuccessAt := now }

def openLocked : Breaker :=
  { b with state := .stateOpen, openedAt := now, halfOpenProbes := 0 }

def recordFailure : Breaker :=
  let b := { b with lastFailureAt := now, consecutiveFails := b.consecutiveFails + 1 }
  match b.state with
  | .stateHalfOpen => b.openLocked now
  | .stateClosed => if b.consecutiveFails ≥ b.config.failureThreshold then b.openLocked now else b
  | .stateOpen => b

end Breaker

/-! ### What a call reports -/

inductive Report
  | success | failure
deriving DecidableEq

def Breaker.record : Report → Breaker
  | .success => b.recordSuccess now
  | .failure => b.recordFailure now

/-- An admitted Circle request. -/
inductive CircleSent
  | unbuildable
  | unreachable
  | response (statusCode : Int) (body : Option Circle.Body)
deriving DecidableEq

def CircleSent.exchange : CircleSent → Circle.Exchange
  | .unbuildable => .unbuildable
  | .unreachable => .unreachable
  | .response statusCode body => .response statusCode body

def countsTowardCircuit (classification : Classification) (statusCode : Int) : Bool :=
  match classification with
  | .transientProviderError | .ambiguousSubmission => true
  | .permanentProviderRejection => statusCode = 401 || statusCode = 403 || statusCode ≥ 500
  | _ => false

/-- The Circle client's `do` once `Allow` has admitted it: the answer, and what the breaker is told on the way. -/
def circleDo (submitting : Bool) (sent : CircleSent) : Except Circle.ReadError Circle.Body × List Report :=
  match sent with
  | .unbuildable => (.error (.transport .preSubmissionValidationFailure "PROVIDER_REQUEST_INVALID"), [])
  | .unreachable =>
    (if submitting then .error (.transport .ambiguousSubmission "PROVIDER_SUBMISSION_UNCONFIRMED")
      else .error (.transport .transientProviderError "PROVIDER_UNREACHABLE"), [.failure])
  | .response statusCode body =>
    if statusCode < 200 ∨ statusCode > 299 then
      let (classification, reasonCode) := Circle.classifyHTTPStatus statusCode submitting
      (.error (.transport classification reasonCode),
        if countsTowardCircuit classification statusCode then [.failure] else [])
    else
      match body with
      | none =>
        (.error (.transport (if submitting then .ambiguousSubmission else .transientProviderError)
          "PROVIDER_RESPONSE_UNREADABLE"), [.failure])
      | some payload => (.ok payload, [.success])

/-- The Circle client's `healthProbe` once admitted; the body is not read. -/
def healthProbe (sent : CircleSent) : Except Error Int × List Report :=
  match sent with
  -- the error of net/http is passed on as it is, here only its kind
  | .unbuildable => (.error (.text "net/http: request"), [])
  | .unreachable => (.error (.text "net/http: transport"), [.failure])
  | .response statusCode _ =>
    if statusCode ≥ 500 then (.error (.text s!"circle health probe status {statusCode}"), [.failure])
    else (.ok statusCode, [.success])

/-- What the Arc client makes of a response body. -/
inductive ArcBody
  | unreadable | undecodable
  | rpcError (code : Int)
  | resultUndecodable
  | result (raw : String)
deriving DecidableEq

/-- An admitted Arc request. -/
inductive ArcSent
  | unencodable | unbuildable | unreachable
  | response (statusCode : Int) (body : ArcBody)
deriving DecidableEq

/-- The Arc client's `call` once admitted. -/
def arcCall (sent : ArcSent) : Except Error String × List Report :=
  match sent with
  | .unencodable => (.error (.text "Arc request could not be encoded"), [])
  | .unbuildable => (.error (.text "Arc request could not be built"), [])
  | .unreachable => (.error (.text "Arc endpoint is unreachable"), [.failure])
  | .response statusCode body =>
    if statusCode < 200 ∨ statusCode > 299 then
      (.error (.text s!"Arc endpoint returned status {statusCode}"), [.failure])
    else
      match body with
      | .unreadable => (.error (.text "Arc response could not be read"), [.failure])
      | .undecodable => (.error (.text "Arc response could not be decoded"), [.failure])
      | .rpcError code => (.error (.text s!"Arc endpoint reported RPC error {code}"), [.failure])
      | .resultUndecodable => (.error (.text "Arc result could not be decoded"), [.failure])
      | .result raw => (.ok raw, [.success])

/-- How an admitted call returned. -/
inductive Ending
  | circle (submitting : Bool) (sent : CircleSent)
  | health (sent : CircleSent)
  | arc (sent : ArcSent)
deriving DecidableEq

def Ending.reports : Ending → List Report
  | .circle submitting sent => (circleDo submitting sent).2
  | .health sent => (healthProbe sent).2
  | .arc sent => (arcCall sent).2

/-- The exits that report: not those of a request that was never built, and no refused read. -/
def Ending.Reporting : Ending → Prop
  | .circle _ .unbuildable => False
  | .circle submitting (.response statusCode _) =>
    submitting = true ∨ statusCode ≠ 400 ∧ statusCode ≠ 404 ∧ statusCode ≠ 422
  | .health .unbuildable => False
  | .arc .unencodable | .arc .unbuildable => False
  | _ => True

/-- Which refused statuses count. -/
theorem countsTowardCircuit_classify (statusCode : Int) (submitting : Bool) :
    countsTowardCircuit (Circle.classifyHTTPStatus statusCode submitting).1 statusCode = true ↔
      submitting = true ∨ statusCode ≠ 400 ∧ statusCode ≠ 404 ∧ statusCode ≠ 422 := by
  unfold Circle.classifyHTTPStatus
  cases submitting with
  | true =>
    simp only [if_true, true_or, iff_true]
    split_ifs <;> rfl
  | false =>
    simp only [Bool.false_eq_true, if_false, false_or]
    split_ifs with forbidden refused
    · simp only [countsTowardCircuit, Bool.or_eq_true, decide_eq_true_eq]
      omega
    · simp only [countsTowardCircuit, Bool.or_eq_true, decide_eq_true_eq]
      omega
    all_goals
      simp only [countsTowardCircuit, true_iff]
      omega

/-- A call reports at most once, and exactly once on the reporting exits. -/
theorem Ending.reports_length (ending : Ending) :
    ending.reports.length ≤ 1 ∧ (ending.reports.length = 1 ↔ ending.Reporting) := by
  cases ending with
  | circle submitting sent =>
    cases sent with
    | unbuildable | unreachable => simp [Ending.reports, Ending.Reporting, circleDo]
    | response statusCode body =>
      have counts := countsTowardCircuit_classify statusCode submitting
      simp only [Ending.reports, Ending.Reporting, circleDo]
      split
      next =>
        rw [← counts]
        dsimp only
        split <;> simp_all
      next inside =>
        have settled : submitting = true ∨ statusCode ≠ 400 ∧ statusCode ≠ 404 ∧ statusCode ≠ 422 := by omega
        cases body <;> simp [settled]
  | health sent =>
    cases sent with
    | unbuildable | unreachable => simp [Ending.reports, Ending.Reporting, healthProbe]
    | response statusCode body =>
      simp only [Ending.reports, Ending.Reporting, healthProbe]
      split <;> simp
  | arc sent =>
    cases sent with
    | response statusCode body =>
      simp only [Ending.reports, Ending.Reporting, arcCall]
      split
      next => simp
      next => cases body <;> simp
    | _ => simp [Ending.reports, Ending.Reporting, arcCall]

/-! ### Calls over time -/

/-- A breaker, and how many admitted calls have not returned. -/
structure Gate where
  breaker : Breaker
  inFlight : Nat
deriving DecidableEq

/-- A call asks for admission, or an admitted call returns. -/
inductive Event
  | ask (now : Int)
  | finish (ending : Ending) (now : Int)
deriving DecidableEq

namespace Gate

def next (g : Gate) : Event → Gate
  | .ask now =>
    match g.breaker.allow now with
    | some admitted => ⟨admitted, g.inFlight + 1⟩
    | none => g
  | .finish ending now =>
    if g.inFlight = 0 then g
    else ⟨ending.reports.foldl (fun b report => b.record now report) g.breaker, g.inFlight - 1⟩

def run (g : Gate) (events : List Event) : Gate := events.foldl next g

end Gate

/-- Every call that returns does so on a reporting exit. -/
def AllReport (events : List Event) : Prop := ∀ ending now, Event.finish ending now ∈ events → ending.Reporting

variable {b c : Breaker} {g : Gate} {now : Int} {config : Config}

theorem Breaker.allow_cases (admitted : b.allow now = some c) :
    b.state = .stateClosed ∧ c = b ∨
      b.state = .stateOpen ∧ b.openedAt + b.config.openDuration ≤ now ∧
        c = { b with state := .stateHalfOpen, halfOpenProbes := 1 } ∨
      b.state = .stateHalfOpen ∧ b.halfOpenProbes < b.config.halfOpenMaxProbes ∧
        c = { b with halfOpenProbes := b.halfOpenProbes + 1 } := by
  unfold Breaker.allow at admitted
  split at admitted
  next closed => exact .inl ⟨closed, (Option.some.inj admitted).symm⟩
  next opened =>
    split at admitted
    next => cases admitted
    next elapsed => exact .inr (.inl ⟨opened, by omega, (Option.some.inj admitted).symm⟩)
  next half =>
    split at admitted
    next => cases admitted
    next room => exact .inr (.inr ⟨half, by omega, (Option.some.inj admitted).symm⟩)

theorem Breaker.record_settles (b : Breaker) (now : Int) (report : Report) :
    (b.record now report).state ≠ .stateHalfOpen ∧ (b.record now report).config = b.config := by
  cases report with
  | success => exact ⟨nofun, rfl⟩
  | failure =>
    simp only [Breaker.record, Breaker.recordFailure]
    split
    next => exact ⟨nofun, rfl⟩
    next closed =>
      split
      next => exact ⟨nofun, rfl⟩
      next => exact ⟨fun half => State.noConfusion (closed.symm.trans half), rfl⟩
    next opened => exact ⟨fun half => State.noConfusion (opened.symm.trans half), rfl⟩

/-- While the breaker is half open its probes are in flight. -/
structure Accounted (config : Config) (g : Gate) : Prop where
  config : g.breaker.config = config
  probes : g.breaker.state = .stateHalfOpen → 1 ≤ g.breaker.halfOpenProbes ∧ g.breaker.halfOpenProbes ≤ g.inFlight

theorem Accounted.next (accounted : Accounted config g) (event : Event)
    (reports : ∀ ending now, event = .finish ending now → ending.Reporting) : Accounted config (g.next event) := by
  cases event with
  | ask now =>
    unfold Gate.next
    dsimp only
    split
    next admitted allowed =>
      rcases Breaker.allow_cases allowed with ⟨closed, rfl⟩ | ⟨_, _, rfl⟩ | ⟨half, _, rfl⟩
      · refine ⟨accounted.config, fun half => ?_⟩
        rw [closed] at half
        cases half
      · refine ⟨accounted.config, fun _ => ?_⟩
        dsimp only
        omega
      · have probes := accounted.probes half
        refine ⟨accounted.config, fun _ => ?_⟩
        dsimp only
        omega
    next => exact accounted
  | finish ending now =>
    -- exactly one report is made, and whatever it is the breaker is not half open after it
    obtain ⟨report, once⟩ := List.length_eq_one_iff.mp (ending.reports_length.2.mpr (reports ending now rfl))
    unfold Gate.next
    dsimp only
    split
    next => exact accounted
    next =>
      obtain ⟨settled, same⟩ := Breaker.record_settles g.breaker now report
      rw [once, List.foldl_cons, List.foldl_nil]
      exact ⟨same.trans accounted.config, fun half => absurd half settled⟩

theorem Accounted.run (accounted : Accounted config g) (events : List Event) (reports : AllReport events) :
    Accounted config (g.run events) := by
  induction events generalizing g with
  | nil => exact accounted
  | cons event rest ih =>
    have first : Accounted config (g.next event) :=
      accounted.next event fun ending now same => reports ending now (same ▸ (.head _))
    exact ih first fun ending now member => reports ending now (.tail _ member)

/-- A breaker that is not half open admits every call from some time on. -/
theorem Breaker.admits_later (settled : b.state ≠ .stateHalfOpen) :
    ∃ limit, ∀ now, limit ≤ now → (b.allow now).isSome = true := by
  refine ⟨b.openedAt + b.config.openDuration, fun now late => ?_⟩
  unfold Breaker.allow
  split
  next => rfl
  next => rw [if_neg (by omega)]; rfl
  next half => exact absurd half settled

/-- Exactly the reporting exits settle their admission; and where all calls leave by them, the breaker is not half open
once no call is in flight, and it admits calls again. -/
theorem settled_iff_reports (built : Breaker.new config = .ok b) :
    (∀ ending : Ending, ending.reports.length = 1 ↔ ending.Reporting) ∧
      ∀ events, AllReport events → (Gate.run ⟨b, 0⟩ events).inFlight = 0 →
        (Gate.run ⟨b, 0⟩ events).breaker.state ≠ .stateHalfOpen ∧
          ∃ limit, ∀ now, limit ≤ now → ((Gate.run ⟨b, 0⟩ events).breaker.allow now).isSome = true := by
  simp only [Breaker.new, bind_ok, pure_ok] at built
  obtain ⟨_, _, rfl⟩ := built
  refine ⟨fun ending => ending.reports_length.2, fun events reports idle => ?_⟩
  have start : Accounted config ⟨⟨config, .stateClosed, 0, 0, 0, 0, 0⟩, 0⟩ := ⟨rfl, by rintro ⟨⟩⟩
  have settled : (Gate.run ⟨⟨config, .stateClosed, 0, 0, 0, 0, 0⟩, 0⟩ events).breaker.state ≠ .stateHalfOpen := by
    intro half
    have probes := (start.run events reports).probes half
    omega
  exact ⟨settled, Breaker.admits_later settled⟩

def defaultConfig : Config := ⟨5, 30000000000, 1⟩

/-- Five calls in a row do not reach the provider, and a probe half a minute later is answered as given. -/
def outage (probe : Ending) : List Event :=
  (List.replicate 5 [Event.ask 0, .finish (.arc .unreachable) 0]).flatten ++
    [.ask 30000000000, .finish probe 31000000000]

theorem settled_after_outage : ∃ b, Breaker.new defaultConfig = .ok b ∧
    ∃ limit, ∀ now, limit ≤ now →
      ((Gate.run ⟨b, 0⟩ (outage (.circle false .unreachable))).breaker.allow now).isSome = true := by
  have built : Breaker.new defaultConfig = .ok ⟨defaultConfig, .stateClosed, 0, 0, 0, 0, 0⟩ := rfl
  refine ⟨_, built, ((settled_iff_reports built).2 _ ?_ rfl).2⟩
  intro ending now member
  simp only [outage, List.replicate, List.flatten_cons, List.flatten_nil, List.mem_append, List.mem_cons,
    List.not_mem_nil, Event.finish.injEq, reduceCtorEq] at member
  rcases member with _ | _
  all_goals simp_all [Ending.Reporting]

/-- The probe reads a transaction that the provider does not know: the breaker is told nothing, stays half open with
its only probe spent, and refuses every call from then on. -/
theorem unreported_probe_wedges : ∃ b, Breaker.new defaultConfig = .ok b ∧
    (Gate.run ⟨b, 0⟩ (outage (.circle false (.response 404 none)))).inFlight = 0 ∧
    (Gate.run ⟨b, 0⟩ (outage (.circle false (.response 404 none)))).breaker.state = .stateHalfOpen ∧
    ∀ later now, ((Gate.run ⟨b, 0⟩ (outage (.circle false (.response 404 none)))).run later).breaker.allow now = none := by
  have wedged : Gate.run ⟨⟨defaultConfig, .stateClosed, 0, 0, 0, 0, 0⟩, 0⟩ (outage (.circle false (.response 404 none))) =
      ⟨⟨defaultConfig, .stateHalfOpen, 5, 0, 0, 0, 1⟩, 0⟩ := by decide
  have stuck (later : List Event) :
      Gate.run ⟨⟨defaultConfig, .stateHalfOpen, 5, 0, 0, 0, 1⟩, 0⟩ later =
        ⟨⟨defaultConfig, .stateHalfOpen, 5, 0, 0, 0, 1⟩, 0⟩ := by
    induction later with
    | nil => rfl
    | cons event rest ih => cases event <;> exact ih
  refine ⟨_, rfl, ?_, ?_, fun later now => ?_⟩
  · rw [wedged]
  · rw [wedged]
  · rw [wedged, stuck]
    rfl

end WizPay.Providers.Circuit
