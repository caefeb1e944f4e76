import Mathlib

/-!
# Keyed tables

A table is the list of its rows; a key function gives the primary key.
-/
namespace Table

variable {ρ κ : Type} [DecidableEq κ]

def lookup (key : ρ → κ) (k : κ) (rows : List ρ) : Option ρ := rows.find? fun row => key row = k

def modify (key : ρ → κ) (k : κ) (change : ρ → ρ) (rows : List ρ) : List ρ :=
  rows.map fun row => if key row = k then change row else row

/-- The first row of the table in the order of `before`; of rows that tie, the one listed last. -/
def least (before : ρ → ρ → Bool) : List ρ → Option ρ
  | [] => none
  | row :: rest =>
    match least before rest with
    | none => some row
    | some other => if before row other then some row else some other

variable {key : ρ → κ} {k : κ} {change : ρ → ρ} {rows : List ρ} {row : ρ}

theorem least_mem {before : ρ → ρ → Bool} (found : least before rows = some row) : row ∈ rows := by
  induction rows generalizing row with
  | nil => cases found
  | cons first rest ih =>
    unfold least at found
    split at found
    next =>
      cases found
      exact .head _
    next other among =>
      split at found
      next =>
        cases found
        exact .head _
      next =>
        cases found
        exact .tail _ (ih among)

theorem lookup_some (found : lookup key k rows = some row) : key row = k ∧ row ∈ rows := by
  refine ⟨?_, List.mem_of_find?_eq_some found⟩
  simpa using List.find?_some found

theorem lookup_head (key : ρ → κ) (row : ρ) (rows : List ρ) : lookup key (key row) (row :: rows) = some row := by
  simp [lookup]

/-- Where keys are unique, every row is the one found under its key. -/
theorem lookup_of_mem (unique : (rows.map key).Nodup) (listed : row ∈ rows) : lookup key (key row) rows = some row := by
  induction rows with
  | nil => cases listed
  | cons first rest ih =>
    rw [List.map_cons, List.nodup_cons] at unique
    rcases List.mem_cons.mp listed with rfl | later
    · exact lookup_head key row rest
    · have differs : key first ≠ key row := by
        intro same
        exact unique.1 (same ▸ List.mem_map_of_mem later)
      rw [← ih unique.2 later, lookup, lookup, List.find?_cons_of_neg (by simpa using differs)]

theorem nodup_append_singleton (unique : (rows.map key).Nodup) (absent : lookup key (key row) rows = none) :
    ((rows ++ [row]).map key).Nodup := by
  rw [List.map_append, List.map_singleton, List.nodup_append]
  refine ⟨unique, by simp, ?_⟩
  rintro k taken _ same rfl
  rw [List.mem_singleton] at same
  obtain ⟨other, listed, rfl⟩ := List.mem_map.mp taken
  exact List.find?_eq_none.mp absent other listed (by simpa using same)

theorem lookup_append_singleton (other : κ) :
    lookup key other (rows ++ [row]) =
      (lookup key other rows).or (if key row = other then some row else none) := by
  simp only [lookup, List.find?_append]
  congr 1
  by_cases same : key row = other
  · simp [same]
  · simp [same]

variable (keeps : ∀ row, key (change row) = key row)
include keeps

omit [DecidableEq κ] in
theorem map_key_map : (rows.map change).map key = rows.map key := by
  rw [List.map_map]
  exact List.map_congr_left fun row _ => keeps row

theorem map_key_modify :
    (modify key k change rows).map key = rows.map key := by
  apply map_key_map
  intro row
  split
  · exact keeps row
  · rfl

theorem lookup_modify_same :
    lookup key k (modify key k change rows) = (lookup key k rows).map change := by
  induction rows with
  | nil => rfl
  | cons first rest ih =>
    simp only [lookup, modify, List.map_cons, List.find?_cons] at *
    by_cases same : key first = k
    · simp [same, keeps]
    · simp [same, ih]

theorem lookup_modify_other {other : κ} (differs : other ≠ k) :
    lookup key other (modify key k change rows) = lookup key other rows := by
  induction rows with
  | nil => rfl
  | cons first rest ih =>
    simp only [lookup, modify, List.map_cons, List.find?_cons] at *
    by_cases same : key first = k
    · have changed_ne : key (change first) ≠ other := by
        rw [keeps, same]
        exact Ne.symm differs
      simp [same, changed_ne, ih, Ne.symm differs]
    · simp [same, ih]

/-- A change that keeps the keys keeps which keys have a row. -/
theorem lookup_modify (other : κ) :
    lookup key other (modify key k change rows) =
      (lookup key other rows).map fun row => if other = k then change row else row := by
  by_cases same : other = k
  · subst same
    simp [lookup_modify_same keeps]
  · simp [lookup_modify_other keeps same, same]

end Table
