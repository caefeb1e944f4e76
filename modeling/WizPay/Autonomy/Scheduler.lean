import WizPay.Autonomy.Model

/-!
# Missed runs

`MissedInstants` collects at most `max` instants and returns the last of them, which need not be the latest missed one.
-/
namespace WizPay.Autonomy

open Checks GoTime

/-- The instants that `Next` enumerates after the cursor, counted from 0. -/
def instant (next : Int → Option Int) : Nat → Int → Option Int
  | 0, cursor => next cursor
  | n + 1, cursor => (next cursor).bind (instant next n)

section Enumeration

variable {next : Int → Option Int} {now cursor x y : Int} {n k : Nat}

/-- `Next` answers with later instants. -/
def Onward (next : Int → Option Int) : Prop := ∀ cursor x, next cursor = some x → cursor < x

theorem instant_succ (found : instant next (n + 1) cursor = some y) : ∃ x, next cursor = some x ∧ instant next n x = some y :=
  Option.bind_eq_some_iff.mp found

theorem Onward.after (onward : Onward next) (found : instant next n cursor = some x) : cursor < x := by
  induction n generalizing cursor with
  | zero => exact onward cursor x found
  | succ n ih =>
    obtain ⟨first, isFirst, found⟩ := instant_succ found
    exact Int.lt_trans (onward cursor first isFirst) (ih found)

/-- A later instant has every earlier one before it. -/
theorem Onward.earlier (onward : Onward next) (found : instant next k cursor = some y) (before : n < k) :
    ∃ x, instant next n cursor = some x ∧ x < y := by
  induction n generalizing cursor k with
  | zero =>
    obtain ⟨k, rfl⟩ := Nat.exists_eq_add_of_lt before
    obtain ⟨first, isFirst, found⟩ := instant_succ (n := 0 + k) found
    exact ⟨first, isFirst, onward.after found⟩
  | succ n ih =>
    obtain ⟨k, rfl⟩ := Nat.exists_eq_succ_of_ne_zero (Nat.ne_of_gt (Nat.zero_lt_of_lt before))
    obtain ⟨first, isFirst, found⟩ := instant_succ found
    obtain ⟨x, isEarlier, less⟩ := ih found (Nat.lt_of_succ_lt_succ before)
    exact ⟨x, by rw [instant, isFirst]; exact isEarlier, less⟩

end Enumeration

end WizPay.Autonomy
