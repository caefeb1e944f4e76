import WizPay.Lib.Threads

/-!
# Programs run alone

A program that runs alone against a machine is a function of the state. `Routine.Meets`
is a pre- and postcondition with two ends: one for the value and one for the error.
-/
namespace Threads

variable {Request : Type} {Reply : Request → Type} {α β ε σ : Type}

/-- The reply to a request and the state after it. -/
abbrev Machine (σ : Type) (Reply : Request → Type) := (request : Request) → σ → Reply request × σ

namespace Program

variable (M : Machine σ Reply)

def exec : Program Reply α → σ → α × σ
  | .done value, s => (value, s)
  | .call request next, s => (next (M request s).1).exec (M request s).2

@[simp] theorem exec_done (value : α) (s : σ) : (Program.done value : Program Reply α).exec M s = (value, s) := rfl

@[simp] theorem exec_call (request : Request) (next : Reply request → Program Reply α) (s : σ) :
    (Program.call request next).exec M s = (next (M request s).1).exec M (M request s).2 := rfl

@[simp] theorem exec_bind (first : Program Reply α) (rest : α → Program Reply β) (s : σ) :
    (first >>= rest).exec M s = (rest (first.exec M s).1).exec M (first.exec M s).2 := by
  induction first generalizing s with
  | done value => rfl
  | call request next ih => exact ih (M request s).1 (M request s).2

variable {M} {allowed : Request → Prop} {program : Program Reply α}

end Program

/-- A program that may end with an error. -/
abbrev Routine (Reply : Request → Type) (ε : Type) := ExceptT ε (Program Reply)

namespace Routine

/-- Make one request and continue with its reply. -/
def call (request : Request) : Routine Reply ε (Reply request) := ExceptT.lift (.perform request)

/-- A check that makes no request. -/
def check (result : Except ε α) : Routine Reply ε α := ExceptT.mk (.done result)

/-- Run a routine and hand on its error as a value. -/
def attempt (routine : Routine Reply ε α) : Routine Reply ε (Except ε α) := ExceptT.lift routine.run

def exec (M : Machine σ Reply) (routine : Routine Reply ε α) (s : σ) : Except ε α × σ := Program.exec M routine.run s

section Exec

variable (M : Machine σ Reply) (s : σ)

@[simp] theorem exec_pure (value : α) : exec M (pure value : Routine Reply ε α) s = (.ok value, s) := rfl

@[simp] theorem exec_throw (error : ε) : exec M (throw error : Routine Reply ε α) s = (.error error, s) := rfl

@[simp] theorem exec_check (result : Except ε α) : exec M (check result : Routine Reply ε α) s = (result, s) := rfl

@[simp] theorem exec_request (request : Request) :
    exec M (call request : Routine Reply ε _) s = (.ok (M request s).1, (M request s).2) := rfl

@[simp] theorem exec_attempt (routine : Routine Reply ε α) :
    exec M (attempt routine) s = (.ok (exec M routine s).1, (exec M routine s).2) := by
  change Program.exec M (routine.run >>= fun value => Program.done (Except.ok value)) s = _
  rw [Program.exec_bind]
  rfl

theorem exec_bind (first : Routine Reply ε α) (rest : α → Routine Reply ε β) :
    exec M (first >>= rest) s =
      match exec M first s with
      | (.ok value, after) => exec M (rest value) after
      | (.error error, after) => (.error error, after) := by
  change Program.exec M (first.run >>= ExceptT.bindCont rest) s = _
  rw [Program.exec_bind]
  cases ended : (Program.exec M first.run s).1 with
  | ok value =>
    have first_exec : exec M first s = (.ok value, (Program.exec M first.run s).2) := by rw [← ended]; rfl
    rw [first_exec]
    rfl
  | error error =>
    have first_exec : exec M first s = (.error error, (Program.exec M first.run s).2) := by rw [← ended]; rfl
    rw [first_exec]
    rfl

variable {M s}

theorem exec_bind_of_ok {first : Routine Reply ε α} {rest : α → Routine Reply ε β} {value : α} {after : σ}
    (ended : exec M first s = (.ok value, after)) : exec M (first >>= rest) s = exec M (rest value) after := by
  rw [exec_bind, ended]

theorem exec_bind_of_error {first : Routine Reply ε α} {rest : α → Routine Reply ε β} {error : ε} {after : σ}
    (ended : exec M first s = (.error error, after)) : exec M (first >>= rest) s = (.error error, after) := by
  rw [exec_bind, ended]

theorem exec_bind_eq_ok {first : Routine Reply ε α} {rest : α → Routine Reply ε β} {value : β} {last : σ} :
    exec M (first >>= rest) s = (.ok value, last) ↔
      ∃ middle after, exec M first s = (.ok middle, after) ∧ exec M (rest middle) after = (.ok value, last) := by
  rw [exec_bind]
  constructor
  · intro ended
    split at ended
    next middle after first_ended => exact ⟨middle, after, first_ended, ended⟩
    next => simp at ended
  · rintro ⟨middle, after, first_ended, ended⟩
    rw [first_ended]
    exact ended

end Exec

/-! ### Pre- and postconditions -/

/-- From a state in `pre` the routine ends with a value in `post` or with an error in `fails`. -/
def Meets (M : Machine σ Reply) (pre : σ → Prop) (routine : Routine Reply ε α) (post : α → σ → Prop)
    (fails : σ → Prop) : Prop :=
  ∀ s, pre s →
    match exec M routine s with
    | (.ok value, after) => post value after
    | (.error _, after) => fails after

namespace Meets

variable {M : Machine σ Reply} {pre fails : σ → Prop} {post : α → σ → Prop}

theorem pure {value : α} (ends : ∀ s, pre s → post value s) : Meets M pre (pure value : Routine Reply ε α) post fails :=
  fun s holds => ends s holds

theorem throw {error : ε} (ends : ∀ s, pre s → fails s) : Meets M pre (throw error : Routine Reply ε α) post fails :=
  fun s holds => ends s holds

theorem check {result : Except ε α} (ends : ∀ s value, pre s → result = .ok value → post value s)
    (failed : ∀ s, pre s → fails s) : Meets M pre (Routine.check result : Routine Reply ε α) post fails := by
  intro s holds
  rw [exec_check]
  cases result with
  | ok value => exact ends s value holds rfl
  | error error => exact failed s holds

theorem call {request : Request} {post : Reply request → σ → Prop}
    (ends : ∀ s, pre s → post (M request s).1 (M request s).2) :
    Meets M pre (Routine.call request : Routine Reply ε _) post fails := ends

theorem bind {first : Routine Reply ε α} {rest : α → Routine Reply ε β} {mid : α → σ → Prop} {post : β → σ → Prop}
    (starts : Meets M pre first mid fails) (continues : ∀ value, Meets M (mid value) (rest value) post fails) :
    Meets M pre (first >>= rest) post fails := by
  intro s holds
  have ended := starts s holds
  split at ended
  next value after first_ended =>
    rw [exec_bind_of_ok first_ended]
    exact continues value after ended
  next error after first_ended =>
    rw [exec_bind_of_error first_ended]
    exact ended

theorem attempt {routine : Routine Reply ε α} {post : Except ε α → σ → Prop}
    (ends : ∀ s, pre s → post (exec M routine s).1 (exec M routine s).2) :
    Meets M pre (Routine.attempt routine) post fails := by
  intro s holds
  rw [exec_attempt]
  exact ends s holds

end Meets

end Routine

end Threads
