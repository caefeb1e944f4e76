import Mathlib

/-!
# Threads that share a state

A program is a tree of requests. A system of threads runs such programs in any
interleaving over a shared state: every request is one atomic step whose reply and
effect are given by a relation, threads may crash between any two requests, and the
environment may change the shared state at any time.

What a thread may request next is described by a monitor that reads the thread's own
requests and replies. `Program.Follows` checks a program text against a monitor, and
`invariant` is the induction rule whose step may assume that the monitor permits it.
-/
namespace Threads

/-- A tree of requests; `Reply request` is the type of the answers to `request`. -/
inductive Program {Request : Type} (Reply : Request → Type) (α : Type) : Type
  | done (value : α)
  | call (request : Request) (next : Reply request → Program Reply α)

variable {Request : Type} {Reply : Request → Type} {α β μ σ ι : Type}

namespace Program

/-- Run the first program, then the second on its value. -/
def bind : Program Reply α → (α → Program Reply β) → Program Reply β
  | .done value, rest => rest value
  | .call request next, rest => .call request fun reply => (next reply).bind rest

/-- Make one request and return its reply. -/
def perform (request : Request) : Program Reply (Reply request) := .call request .done

instance : Monad (Program Reply) where
  pure := .done
  bind := bind

@[simp] theorem pure_eq (value : α) : (pure value : Program Reply α) = .done value := rfl

@[simp] theorem done_bind (value : α) (rest : α → Program Reply β) :
    ((Program.done value : Program Reply α) >>= rest) = rest value := rfl

@[simp] theorem call_bind (request : Request) (next : Reply request → Program Reply α)
    (rest : α → Program Reply β) :
    (Program.call request next >>= rest) = .call request fun reply => next reply >>= rest := rfl

theorem bind_assoc {γ : Type} (first : Program Reply α) (second : α → Program Reply β)
    (third : β → Program Reply γ) :
    first >>= second >>= third = first >>= fun value => second value >>= third := by
  induction first with
  | done value => rfl
  | call request next ih => exact congrArg (Program.call request) (funext ih)

@[simp] theorem perform_bind (request : Request) (rest : Reply request → Program Reply β) :
    (perform request >>= rest) = .call request rest := rfl

end Program

/-! ### Monitors -/

/-- What one thread may request, as a function of its own past. `expects` is what
every reply to a request is known to satisfy, whatever the shared state. -/
structure Monitor (Reply : Request → Type) (μ : Type) where
  permits : μ → Request → Prop
  expects : (request : Request) → Reply request → Prop
  advance : μ → (request : Request) → Reply request → μ

/-- Every path of the program makes permitted requests only, and ends in `post`. -/
inductive Program.Follows (M : Monitor Reply μ) (post : α → μ → Prop) : μ → Program Reply α → Prop
  | done (m : μ) (value : α) (ends : post value m) : Follows M post m (.done value)
  | call (m : μ) (request : Request) (next : Reply request → Program Reply α)
      (permitted : M.permits m request)
      (follows : ∀ reply, M.expects request reply → Follows M post (M.advance m request reply) (next reply)) :
      Follows M post m (.call request next)

section Follows

variable {M : Monitor Reply μ} {m : μ} {request : Request}
  {continuation : Reply request → Program Reply α} {post weaker : α → μ → Prop} {program : Program Reply α}

theorem Program.Follows.permits (follows : (Program.call request continuation).Follows M post m) :
    M.permits m request := by
  cases follows with
  | call _ _ _ permitted _ => exact permitted

theorem Program.Follows.next (follows : (Program.call request continuation).Follows M post m)
    (reply : Reply request) (expected : M.expects request reply) :
    (continuation reply).Follows M post (M.advance m request reply) := by
  cases follows with
  | call _ _ _ _ continues => exact continues reply expected

theorem Program.Follows.bind {rest : α → Program Reply β} {last : β → μ → Prop}
    (follows : program.Follows M post m)
    (continues : ∀ value reached, post value reached → (rest value).Follows M last reached) :
    (program >>= rest).Follows M last m := by
  induction follows with
  | done m value ends => exact continues value m ends
  | call m request next permitted _ ih => exact .call m request _ permitted ih

theorem Program.Follows.ask {rest : Reply request → Program Reply α} (permitted : M.permits m request)
    (follows : ∀ reply, M.expects request reply → (rest reply).Follows M post (M.advance m request reply)) :
    (Program.perform request >>= rest).Follows M post m :=
  .call m request rest permitted follows

theorem Program.Follows.mono (follows : program.Follows M post m)
    (implies : ∀ value reached, post value reached → weaker value reached) :
    program.Follows M weaker m := by
  induction follows with
  | done m value ends => exact .done m value (implies value m ends)
  | call m request next permitted _ ih => exact .call m request next permitted ih

end Follows

/-- Every request that the program can make is allowed. -/
inductive Program.Uses (allowed : Request → Prop) : Program Reply α → Prop
  | done (value : α) : Uses allowed (.done value)
  | call (request : Request) (next : Reply request → Program Reply α) (permitted : allowed request)
      (uses : ∀ reply, Uses allowed (next reply)) : Uses allowed (.call request next)

/-- Every value that the program can return satisfies `post`, whatever the replies. -/
inductive Program.Returns (post : α → Prop) : Program Reply α → Prop
  | done (value : α) (returns : post value) : Returns post (.done value)
  | call (request : Request) (next : Reply request → Program Reply α)
      (returns : ∀ reply, Returns post (next reply)) : Returns post (.call request next)

section Uses

variable {allowed : Request → Prop} {program : Program Reply α} {rest : α → Program Reply β}

theorem Program.Uses.bind (uses : program.Uses allowed) (uses_rest : ∀ value, (rest value).Uses allowed) :
    (program >>= rest).Uses allowed := by
  induction uses with
  | done value => exact uses_rest value
  | call request next permitted _ ih => exact .call request _ permitted ih

theorem Program.Uses.mono {weaker : Request → Prop} (uses : program.Uses allowed)
    (implies : ∀ request, allowed request → weaker request) : program.Uses weaker := by
  induction uses with
  | done value => exact .done value
  | call request next permitted _ ih => exact .call request next (implies request permitted) ih

theorem Program.Uses.ask {request : Request} {rest : Reply request → Program Reply α}
    (permitted : allowed request) (uses : ∀ reply, (rest reply).Uses allowed) :
    (Program.perform request >>= rest).Uses allowed :=
  .call request rest permitted uses

/-- As `Uses.bind`, when the rest depends on what the first part returns. -/
theorem Program.Uses.bind_returns {post : α → Prop} (uses : program.Uses allowed)
    (returns : program.Returns post) (uses_rest : ∀ value, post value → (rest value).Uses allowed) :
    (program >>= rest).Uses allowed := by
  induction uses with
  | done value =>
    cases returns with
    | done _ returned => exact uses_rest value returned
  | call request next permitted _ ih =>
    cases returns with
    | call _ _ returned => exact .call request _ permitted fun reply => ih reply (returned reply)

/-- Requests that are always permitted can be made freely. -/
theorem Program.Uses.obeys {M : Monitor Reply μ} (uses : program.Uses allowed)
    (permitted : ∀ m request, allowed request → M.permits m request) (m : μ) :
    program.Follows M (fun _ _ => True) m := by
  induction uses generalizing m with
  | done value => exact .done m value trivial
  | call request next granted _ ih => exact .call m request next (permitted m request granted) fun reply _ => ih reply _

/-- Requests that are permitted and leave the monitor where it is can be made freely. -/
theorem Program.Uses.follows {M : Monitor Reply μ} {m : μ} (uses : program.Uses allowed)
    (permitted : ∀ request, allowed request → M.permits m request)
    (still : ∀ request, allowed request → ∀ reply, M.advance m request reply = m) :
    program.Follows M (fun _ reached => reached = m) m := by
  induction uses with
  | done value => exact .done m value rfl
  | call request next granted _ ih =>
    refine .call m request next (permitted request granted) fun reply _ => ?_
    rw [still request granted reply]
    exact ih reply

end Uses

/-! ### Runs -/

/-- One answered request. -/
structure Event (ι : Type) (Reply : Request → Type) where
  thread : ι
  request : Request
  reply : Reply request

/-- The shared state, the rest of every thread, and the answered requests, newest first. -/
structure Config (σ ι : Type) (Reply : Request → Type) where
  shared : σ
  thread : ι → Program Reply Unit
  trace : List (Event ι Reply)

/-- How the shared state answers requests and changes by itself. -/
structure System (σ : Type) (Reply : Request → Type) where
  answer : (request : Request) → σ → Reply request → σ → Prop
  environment : σ → σ → Prop

/-- What a step does. -/
inductive Label (ι : Type) (Reply : Request → Type)
  | call (event : Event ι Reply)
  | crash (thread : ι)
  | environment

variable [DecidableEq ι]

/-- One step of one thread, a crash, or a change by the environment. -/
inductive Step (S : System σ Reply) : Config σ ι Reply → Label ι Reply → Config σ ι Reply → Prop
  | call (c : Config σ ι Reply) (i : ι) (request : Request) (next : Reply request → Program Reply Unit)
      (reply : Reply request) (after : σ) (running : c.thread i = .call request next)
      (answered : S.answer request c.shared reply after) :
      Step S c (.call ⟨i, request, reply⟩)
        ⟨after, Function.update c.thread i (next reply), ⟨i, request, reply⟩ :: c.trace⟩
  | crash (c : Config σ ι Reply) (i : ι) :
      Step S c (.crash i) ⟨c.shared, Function.update c.thread i (.done ()), c.trace⟩
  | environment (c : Config σ ι Reply) (after : σ) (changed : S.environment c.shared after) :
      Step S c .environment ⟨after, c.thread, c.trace⟩

/-- A step of any kind. -/
def Steps (S : System σ Reply) (c d : Config σ ι Reply) : Prop := ∃ label, Step S c label d

/-- The configurations that runs from `start` reach. -/
def Reachable (S : System σ Reply) (start c : Config σ ι Reply) : Prop :=
  Relation.ReflTransGen (Steps S) start c

/-- A step taken in a run. -/
structure Move (σ ι : Type) (Reply : Request → Type) where
  before : Config σ ι Reply
  label : Label ι Reply
  after : Config σ ι Reply

/-- A run together with its steps, newest first. -/
inductive Run (S : System σ Reply) (first : Config σ ι Reply) : List (Move σ ι Reply) → Config σ ι Reply → Prop
  | start : Run S first [] first
  | step (moves : List (Move σ ι Reply)) (c d : Config σ ι Reply) (label : Label ι Reply)
      (run : Run S first moves c) (stepped : Step S c label d) : Run S first (⟨c, label, d⟩ :: moves) d

theorem Run.reachable {S : System σ Reply} {first c : Config σ ι Reply} {moves : List (Move σ ι Reply)}
    (run : Run S first moves c) : Reachable S first c := by
  induction run with
  | start => exact .refl
  | step moves c d label _ stepped ih => exact ih.tail ⟨label, stepped⟩

theorem Reachable.run {S : System σ Reply} {first c : Config σ ι Reply} (reached : Reachable S first c) :
    ∃ moves, Run S first moves c := by
  induction reached with
  | refl => exact ⟨[], .start⟩
  | @tail mid last _ stepped ih =>
    obtain ⟨moves, run⟩ := ih
    obtain ⟨label, stepped⟩ := stepped
    exact ⟨_, .step moves mid last label run stepped⟩

/-- The request that a move has answered, if it is one. -/
def Move.event (move : Move σ ι Reply) : Option (Event ι Reply) :=
  match move.label with
  | .call event => some event
  | _ => none

theorem Move.event_eq {move : Move σ ι Reply} {event : Event ι Reply} :
    move.event = some event ↔ move.label = .call event := by
  unfold Move.event
  cases move.label with
  | call other => simp
  | crash i => simp
  | environment => simp

/-- The trace of a run lists the answered requests of its moves. -/
theorem Run.trace_eq {S : System σ Reply} {first c : Config σ ι Reply} {moves : List (Move σ ι Reply)}
    (run : Run S first moves c) : c.trace = moves.filterMap Move.event ++ first.trace := by
  induction run with
  | start => rfl
  | step moves c d label _ stepped ih =>
    cases stepped with
    | call => exact congrArg _ ih
    | crash => exact ih
    | environment => exact ih

theorem Run.mem_trace {S : System σ Reply} {first c : Config σ ι Reply} {moves : List (Move σ ι Reply)}
    (run : Run S first moves c) {move : Move σ ι Reply} {event : Event ι Reply} (member : move ∈ moves)
    (called : move.label = .call event) : event ∈ c.trace := by
  rw [run.trace_eq]
  exact List.mem_append_left _ (List.mem_filterMap.mpr ⟨move, member, Move.event_eq.mpr called⟩)

theorem eq_of_countP_le_one {hit : α → Bool} {items : List α} (once : items.countP hit ≤ 1) {a b : α}
    (first : a ∈ items) (second : b ∈ items) (hits : hit a = true) (hits' : hit b = true) : a = b := by
  induction items with
  | nil => cases first
  | cons head tail ih =>
    rw [List.countP_cons] at once
    have sole (found : hit head = true) : ∀ c ∈ tail, ¬ hit c = true := by
      rw [if_pos found] at once
      exact List.countP_eq_zero.mp (by omega)
    rcases List.mem_cons.mp first with rfl | inTail
    · rcases List.mem_cons.mp second with rfl | inTail'
      · rfl
      · exact absurd hits' (sole hits b inTail')
    · rcases List.mem_cons.mp second with rfl | inTail'
      · exact absurd hits (sole hits' a inTail)
      · exact ih (by omega) inTail inTail'

/-- A request that is answered at most once is answered by one move. -/
theorem Run.sole {S : System σ Reply} {first c : Config σ ι Reply} {moves : List (Move σ ι Reply)}
    (run : Run S first moves c) {hit : Event ι Reply → Bool} (once : c.trace.countP hit ≤ 1)
    {move other : Move σ ι Reply} {event event' : Event ι Reply} (member : move ∈ moves) (member' : other ∈ moves)
    (called : move.label = .call event) (called' : other.label = .call event') (hits : hit event = true)
    (hits' : hit event' = true) : move = other := by
  rw [run.trace_eq, List.countP_append, List.countP_filterMap] at once
  refine eq_of_countP_le_one (Nat.le_trans (Nat.le_add_right _ _) once) member member' ?_ ?_
  · simp [Move.event_eq.mpr called, hits]
  · simp [Move.event_eq.mpr called', hits']

/-- Every move of a run is the last one of a run. -/
theorem Run.upto {S : System σ Reply} {first c : Config σ ι Reply} {later earlier : List (Move σ ι Reply)}
    {move : Move σ ι Reply} (run : Run S first (later ++ move :: earlier) c) :
    Run S first earlier move.before ∧ Step S move.before move.label move.after := by
  induction later generalizing c with
  | nil =>
    cases run with
    | step _ before _ label run stepped => exact ⟨run, stepped⟩
  | cons newest later ih =>
    cases run with
    | step _ before _ label run stepped => exact ih run

/-- What every step from a reachable configuration satisfies holds of every step of a run. -/
theorem Run.forall_moves {S : System σ Reply} {first c : Config σ ι Reply} {moves : List (Move σ ι Reply)}
    {P : Move σ ι Reply → Prop} (run : Run S first moves c)
    (each : ∀ c label d, Reachable S first c → Step S c label d → P ⟨c, label, d⟩) :
    ∀ move ∈ moves, P move := by
  induction run with
  | start => exact nofun
  | step moves c d label run stepped ih =>
    intro move member
    rcases List.mem_cons.mp member with rfl | earlier
    · exact each c label d run.reachable stepped
    · exact ih move earlier

/-- The monitor's state for thread `i` after a trace. -/
def Monitor.after (M : Monitor Reply μ) (start : μ) (i : ι) : List (Event ι Reply) → μ
  | [] => start
  | event :: older =>
    if event.thread = i then M.advance (M.after start i older) event.request event.reply
    else M.after start i older

@[simp] theorem Monitor.after_own (M : Monitor Reply μ) (start : μ) (i : ι) (request : Request)
    (reply : Reply request) (older : List (Event ι Reply)) :
    M.after start i (⟨i, request, reply⟩ :: older) = M.advance (M.after start i older) request reply := by
  simp [Monitor.after]

theorem Monitor.after_other (M : Monitor Reply μ) (start : μ) {i j : ι} (other : j ≠ i)
    (request : Request) (reply : Reply request) (older : List (Event ι Reply)) :
    M.after start i (⟨j, request, reply⟩ :: older) = M.after start i older := by
  simp [Monitor.after, other]

section Monitored

variable {S : System σ Reply} {M : Monitor Reply μ} {start : μ} {first c d : Config σ ι Reply}

/-- Every thread's remaining program follows the monitor from the thread's own past. -/
def Monitored (M : Monitor Reply μ) (start : μ) (c : Config σ ι Reply) : Prop :=
  ∀ i, (c.thread i).Follows M (fun _ _ => True) (M.after start i c.trace)

/-- The system answers requests as the monitor expects. -/
def Answers (S : System σ Reply) (M : Monitor Reply μ) : Prop :=
  ∀ request s reply after, S.answer request s reply after → M.expects request reply

theorem Monitored.step {label : Label ι Reply} (monitored : Monitored M start c) (answers : Answers S M)
    (stepped : Step S c label d) : Monitored M start d := by
  cases stepped with
  | call i request next reply after running answered =>
    intro j
    by_cases same : j = i
    · subst same
      have own := monitored j
      rw [running] at own
      simpa using own.next reply (answers _ _ _ _ answered)
    · rw [Monitor.after_other M start (Ne.symm same)]
      simpa [Function.update_of_ne same] using monitored j
  | crash i =>
    intro j
    by_cases same : j = i
    · subst same
      simpa using Program.Follows.done _ () trivial
    · simpa [Function.update_of_ne same] using monitored j
  | environment after changed => exact monitored

theorem Monitored.reachable (monitored : Monitored M start first) (answers : Answers S M)
    (reached : Reachable S first c) : Monitored M start c := by
  induction reached with
  | refl => exact monitored
  | tail _ stepped ih =>
    obtain ⟨label, stepped⟩ := stepped
    exact ih.step answers stepped

/-- Every request made in a run is permitted by the monitor at that point. -/
theorem Monitored.permits {event : Event ι Reply} (monitored : Monitored M start c)
    (stepped : Step S c (.call event) d) : M.permits (M.after start event.thread c.trace) event.request := by
  cases stepped with
  | call i request next reply after running answered =>
    have own := monitored i
    rw [running] at own
    exact own.permits

/-- **Invariant rule.** A property of the shared state and the trace that holds at the
start holds in every configuration reached, when permitted requests and the
environment preserve it. -/
theorem invariant (inv : σ → List (Event ι Reply) → Prop)
    (monitored : Monitored M start first) (answers : Answers S M)
    (initial : inv first.shared first.trace)
    (call : ∀ s trace i request reply after, inv s trace →
      M.permits (M.after start i trace) request → S.answer request s reply after →
      inv after (⟨i, request, reply⟩ :: trace))
    (environment : ∀ s trace after, inv s trace → S.environment s after → inv after trace)
    (reached : Reachable S first c) : inv c.shared c.trace := by
  induction reached with
  | refl => exact initial
  | @tail mid last path stepped ih =>
    obtain ⟨label, stepped⟩ := stepped
    have permitted : Monitored M start mid := monitored.reachable answers path
    cases stepped with
    | call i request next reply after running answered =>
      have own := permitted i
      rw [running] at own
      exact call _ _ i request reply after ih own.permits answered
    | crash i => exact ih
    | environment after changed => exact environment _ _ after ih changed

end Monitored

/-! ### Single outcomes -/

/-- Running alone as thread `i`, the program can make the requests of `events`, in this
order, and return `value`. -/
inductive Program.Yields (S : System σ Reply) (i : ι) :
    σ → Program Reply α → List (Event ι Reply) → α → σ → Prop
  | done (s : σ) (value : α) : Yields S i s (.done value) [] value s
  | call (s mid after : σ) (request : Request) (next : Reply request → Program Reply α) (reply : Reply request)
      (events : List (Event ι Reply)) (value : α) (answered : S.answer request s reply mid)
      (continues : Yields S i mid (next reply) events value after) :
      Yields S i s (.call request next) (⟨i, request, reply⟩ :: events) value after

section Yields

variable {S : System σ Reply} {i : ι} {program : Program Reply α} {events : List (Event ι Reply)} {value : α}
  {s after : σ}

omit [DecidableEq ι] in
/-- One request, and then what follows its reply. -/
theorem Program.Yields.ask {request : Request} {reply : Reply request} {rest : Reply request → Program Reply α}
    {mid : σ} (answered : S.answer request s reply mid)
    (continues : (rest reply).Yields S i mid events value after) :
    (Program.perform request >>= rest).Yields S i s (⟨i, request, reply⟩ :: events) value after :=
  .call s mid after request rest reply events value answered continues

omit [DecidableEq ι] in
theorem Program.Yields.bind {rest : α → Program Reply β} {later : List (Event ι Reply)} {result : β} {last : σ}
    (yields : program.Yields S i s events value after)
    (continues : (rest value).Yields S i after later result last) :
    (program >>= rest).Yields S i s (events ++ later) result last := by
  induction yields with
  | done s value => exact continues
  | call s mid after request next reply events value answered _ ih =>
    exact .call s mid last request _ reply _ result answered (ih continues)

/-- A thread that runs alone for a while reaches the rest of its program. -/
theorem Program.Yields.reachable {c : Config σ ι Reply} {rest : α → Program Reply Unit}
    (yields : program.Yields S i c.shared events value after) (running : c.thread i = program >>= rest) :
    Reachable S c ⟨after, Function.update c.thread i (rest value), events.reverse ++ c.trace⟩ := by
  obtain ⟨s, thread, trace⟩ := c
  dsimp only at yields running ⊢
  induction yields generalizing thread trace with
  | done s value =>
    have same : Function.update thread i (rest value) = thread :=
      Function.update_eq_self_iff.mpr running.symm
    rw [same]
    exact .refl
  | call s mid after request next reply events value answered _ ih =>
    have step := Step.call (S := S) ⟨s, thread, trace⟩ i request _ reply mid running answered
    have tail := ih (Function.update thread i (next reply >>= rest)) (⟨i, request, reply⟩ :: trace)
      (Function.update_self ..)
    rw [Function.update_idem] at tail
    rw [List.reverse_cons, List.append_assoc]
    exact .head ⟨_, step⟩ tail

/-- The same at the end of a run. -/
theorem Program.Yields.extend {first : Config σ ι Reply} {thread : ι → Program Reply Unit}
    {trace : List (Event ι Reply)} {rest : α → Program Reply Unit}
    (yields : program.Yields S i s events value after)
    (reached : Reachable S first ⟨s, Function.update thread i (program >>= rest), trace⟩) :
    Reachable S first ⟨after, Function.update thread i (rest value), events.reverse ++ trace⟩ := by
  have last := yields.reachable (c := ⟨s, Function.update thread i (program >>= rest), trace⟩)
    (Function.update_self ..)
  rw [Function.update_idem] at last
  exact reached.trans last

/-- One more request at the end of a run. -/
theorem Reachable.ask {first : Config σ ι Reply} {thread : ι → Program Reply Unit}
    {trace : List (Event ι Reply)} {request : Request} {next : Reply request → Program Reply Unit}
    (reached : Reachable S first ⟨s, Function.update thread i (.call request next), trace⟩)
    (reply : Reply request) (answered : S.answer request s reply after) :
    Reachable S first ⟨after, Function.update thread i (next reply), ⟨i, request, reply⟩ :: trace⟩ := by
  have step := Step.call (S := S) ⟨s, Function.update thread i (.call request next), trace⟩ i request next reply
    after (Function.update_self ..) answered
  rw [Function.update_idem] at step
  exact reached.tail ⟨_, step⟩

end Yields

end Threads
