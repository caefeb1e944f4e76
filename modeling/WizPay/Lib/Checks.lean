import Mathlib

/-!
# Guarded computations

A validator is a chain of guards, each of which stops the chain with its own error. The
inversion lemmas turn the success of a chain into the conjunction of its negated guards;
`FailsWith` says the same about its errors.
-/
namespace Checks

variable {ε α β : Type}

/-- Stop with `error` when `bad` holds. -/
def rejectIf (bad : Prop) [Decidable bad] (error : ε) : Except ε Unit :=
  if bad then .error error else .ok ()

/-- Run `check` only when `applies` holds. -/
def checkIf (applies : Prop) [Decidable applies] (check : Except ε Unit) : Except ε Unit :=
  if applies then check else .ok ()

variable {bad : Prop}

@[simp] theorem rejectIf_ok [Decidable bad] {error : ε} {value : Unit} :
    rejectIf bad error = .ok value ↔ ¬ bad := by
  unfold rejectIf
  split
  next holds => simp [holds]
  next fails => simp [fails]

@[simp] theorem checkIf_ok {applies : Prop} [Decidable applies] {check : Except ε Unit} {value : Unit} :
    checkIf applies check = .ok value ↔ (applies → check = .ok ()) := by
  unfold checkIf
  split
  next holds => simp [holds]
  next fails => simp [fails]

/-- A sequence succeeds exactly when both of its parts do. -/
@[simp] theorem bind_ok {first : Except ε α} {next : α → Except ε β} {result : β} :
    (first >>= next) = .ok result ↔ ∃ value, first = .ok value ∧ next value = .ok result := by
  cases first with
  | error message => simp [bind, Except.bind]
  | ok value => simp [bind, Except.bind]

/-- The same for a guard, whose value carries nothing. -/
@[simp] theorem guard_ok {first : Except ε Unit} {next : Unit → Except ε β} {result : β} :
    (first >>= next) = .ok result ↔ first = .ok () ∧ next () = .ok result := by
  rw [bind_ok]
  constructor
  · rintro ⟨⟨⟩, passed, rest⟩
    exact ⟨passed, rest⟩
  · rintro ⟨passed, rest⟩
    exact ⟨(), passed, rest⟩

@[simp] theorem pure_ok {value result : α} :
    (pure value : Except ε α) = .ok result ↔ value = result := by
  simp [pure, Except.pure]

@[simp] theorem mapError_ok {γ : Type} {wrap : ε → γ} {first : Except ε α} {result : α} :
    first.mapError wrap = .ok result ↔ first = .ok result := by
  cases first <;> simp [Except.mapError]

/-- The rules by which a chain of guards is taken apart. -/
theorem checks_ok {ε : Type} :
    (∀ {β : Type} {first : Except ε Unit} {next : Unit → Except ε β} {result : β},
      (first >>= next) = .ok result ↔ first = .ok () ∧ next () = .ok result) ∧
    (∀ {α γ : Type} {wrap : ε → γ} {first : Except ε α} {result : α},
      first.mapError wrap = .ok result ↔ first = .ok result) ∧
    ∀ {bad : Prop} [Decidable bad] {error : ε} {value : Unit}, rejectIf bad error = .ok value ↔ ¬ bad :=
  ⟨guard_ok, mapError_ok, rejectIf_ok⟩

@[simp] theorem map_ok {change : α → β} {first : Except ε α} {result : β} :
    first.map change = .ok result ↔ ∃ value, first = .ok value ∧ change value = result := by
  cases first <;> simp [Except.map]

theorem exists_ok_of_isOk {first : Except ε α} (passed : first.isOk = true) : ∃ value, first = .ok value := by
  cases first with
  | error message => cases passed
  | ok value => exact ⟨value, rfl⟩

/-! ### The errors of a chain -/

/-- Every error that the computation can end with has the property. -/
def FailsWith (property : ε → Prop) (first : Except ε α) : Prop := ∀ error, first = .error error → property error

namespace FailsWith

variable {property : ε → Prop}

theorem ok {value : α} : FailsWith property (.ok value : Except ε α) := nofun

theorem error {message : ε} (holds : property message) : FailsWith property (.error message : Except ε α) := by
  intro error failed
  cases failed
  exact holds

theorem rejectIf_of [Decidable bad] {message : ε} (holds : bad → property message) :
    FailsWith property (Checks.rejectIf bad message) := by
  unfold Checks.rejectIf
  split
  next failed => exact .error (holds failed)
  next => exact .ok

theorem rejectIf [Decidable bad] {message : ε} (holds : property message) :
    FailsWith property (Checks.rejectIf bad message) :=
  rejectIf_of fun _ => holds

theorem checkIf {applies : Prop} [Decidable applies] {check : Except ε Unit} (fails : FailsWith property check) :
    FailsWith property (Checks.checkIf applies check) := by
  unfold Checks.checkIf
  split
  next => exact fails
  next => exact .ok

theorem bind {first : Except ε α} {next : α → Except ε β} (fails : FailsWith property first)
    (rest : ∀ value, first = .ok value → FailsWith property (next value)) : FailsWith property (first >>= next) := by
  cases result : first with
  | error message => exact .error (fails message result)
  | ok value => exact rest value result

theorem mapError {γ : Type} {wrap : γ → ε} {first : Except γ α} (holds : ∀ message, first = .error message →
    property (wrap message)) : FailsWith property (first.mapError wrap) := by
  cases result : first with
  | error message => exact .error (holds message result)
  | ok value => exact .ok

end FailsWith

end Checks
