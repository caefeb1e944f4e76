import Mathlib

/-!
# Histories of a value

The values a caller sees who keeps the old one after an error. The rules turn what one
successful operation does into what a whole history does.
-/
namespace WizPay.History

variable {α ι ε : Type} (act : α → ι → Except ε α)

/-- The value a caller holds after an operation. -/
def after (value : α) (operation : ι) : α :=
  match act value operation with
  | .ok next => next
  | .error _ => value

def run (value : α) (operations : List ι) : α := operations.foldl (after act) value

variable {act} {value : α} {operation : ι}

theorem after_ok {next : α} (done : act value operation = .ok next) : after act value operation = next := by
  simp [after, done]

theorem after_cases (act : α → ι → Except ε α) (value : α) (operation : ι) :
    after act value operation = value ∨ act value operation = .ok (after act value operation) := by
  cases result : act value operation with
  | error failure => exact .inl (by simp [after, result])
  | ok next => exact .inr (by simp [after, result])

@[simp] theorem run_nil : run act value [] = value := rfl

@[simp] theorem run_cons (rest : List ι) :
    run act value (operation :: rest) = run act (after act value operation) rest := rfl

@[simp] theorem run_append (first second : List ι) :
    run act value (first ++ second) = run act (run act value first) second :=
  List.foldl_append

/-- What every successful operation keeps holds after every history. -/
theorem run_keeps {P : α → Prop} (initial : P value)
    (kept : ∀ value operation next, P value → act value operation = .ok next → P next)
    (operations : List ι) : P (run act value operations) := by
  induction operations generalizing value with
  | nil => exact initial
  | cons operation rest ih =>
    apply ih
    rcases after_cases act value operation with same | done
    · rwa [same]
    · exact kept _ _ _ initial done

/-- A reflexive and transitive relation between a value and what one operation makes of it holds along a history. -/
theorem run_related {R : α → α → Prop} (refl : ∀ value, R value value)
    (trans : ∀ {first second third}, R first second → R second third → R first third)
    (step : ∀ value operation next, act value operation = .ok next → R value next)
    (operations : List ι) : R value (run act value operations) := by
  refine run_keeps (refl value) ?_ operations
  intro middle operation next related done
  exact trans related (step _ _ _ done)

section Changes

variable [DecidableEq α]

variable (act) in
/-- How many operations of a history changed the value. -/
def changes (value : α) : List ι → Nat
  | [] => 0
  | operation :: rest =>
    (if after act value operation = value then 0 else 1) + changes (after act value operation) rest

/-- A counter that each effective operation raises by one counts the changes. -/
theorem run_counts {counter : α → Nat}
    (step : ∀ value operation next, act value operation = .ok next → next = value ∨ counter next = counter value + 1)
    (operations : List ι) : counter (run act value operations) = counter value + changes act value operations := by
  induction operations generalizing value with
  | nil => rfl
  | cons operation rest ih =>
    rw [run_cons, ih, changes]
    by_cases same : after act value operation = value
    · simp [same]
    · rcases after_cases act value operation with unchanged | done
      · exact absurd unchanged same
      · rcases step _ _ _ done with unchanged | raised
        · exact absurd unchanged same
        · simp only [same, if_false]
          omega

end Changes

end WizPay.History
