import Mathlib

/-!
# Transactions that lock rows

Threads run transactions over shared tables at the isolation level READ COMMITTED.
Locked rows are read in their latest version and stay locked until the end; whatever is
not locked may change between any two steps.

`Runs now past` is the meaning of a transaction text as one atomic step: every row that
it locked has the version of `now`, every unlocked read is of tables in `past`.
`Reachable.commit` says that every commit in every interleaving is such a step, and
`Preserved.throughout` is the induction rule that comes from it.
-/
namespace RowLocks

variable {K : Type} {Row : K → Type} {ε α β ι Call Answer : Type}

/-- A change of one row. -/
inductive Write (Row : K → Type)
  | insert (key : K) (row : Row key)
  | update (key : K) (row : Row key)
  | delete (key : K)

def Write.key : Write Row → K
  | .insert key _ => key
  | .update key _ => key
  | .delete key => key

/-- Whether others may read the row meanwhile. -/
inductive Mode
  | share | exclusive
deriving DecidableEq

/-- The text of a transaction. -/
inductive Txn (Row : K → Type) (ε α : Type)
  | done (value : α)
  | fail (error : ε)
  | lock (mode : Mode) (key : K) (next : Option (Row key) → Txn Row ε α)
  | read (next : AList Row → Txn Row ε α)
  | clock (next : Int → Txn Row ε α)

namespace Txn

def bind : Txn Row ε α → (α → Txn Row ε β) → Txn Row ε β
  | .done value, rest => rest value
  | .fail error, _ => .fail error
  | .lock mode key next, rest => .lock mode key fun row => (next row).bind rest
  | .read next, rest => .read fun tables => (next tables).bind rest
  | .clock next, rest => .clock fun instant => (next instant).bind rest

instance : Monad (Txn Row ε) where
  pure := .done
  bind := bind

/-- Lock the row, if there is one. -/
def seek (mode : Mode) (key : K) : Txn Row ε (Option (Row key)) := .lock mode key .done

/-- Lock the row, or fail. -/
def fetch (mode : Mode) (key : K) (error : ε) : Txn Row ε (Row key) :=
  .lock mode key fun
    | some row => .done row
    | none => .fail error

/-- The committed tables as one statement sees them. -/
def snapshot : Txn Row ε (AList Row) := .read .done

def now : Txn Row ε Int := .clock .done

def ensure (condition : Bool) (error : ε) : Txn Row ε Unit := if condition then .done () else .fail error

end Txn

section Tables

variable [DecidableEq K]

/-- The tables after a change. -/
def write (tables : AList Row) : Write Row → AList Row
  | .insert key row => tables.insert key row
  | .update key row => tables.insert key row
  | .delete key => tables.erase key

theorem lookup_write_of_ne {tables : AList Row} {change : Write Row} {key : K} (other : key ≠ change.key) :
    (write tables change).lookup key = tables.lookup key := by
  cases change with
  | insert k row => exact AList.lookup_insert_ne other
  | update k row => exact AList.lookup_insert_ne other
  | delete k => exact AList.lookup_erase_ne other

@[simp] theorem lookup_write_insert (tables : AList Row) (key : K) (row : Row key) :
    (write tables (.insert key row)).lookup key = some row := AList.lookup_insert tables

@[simp] theorem lookup_write_update (tables : AList Row) (key : K) (row : Row key) :
    (write tables (.update key row)).lookup key = some row := AList.lookup_insert tables

@[simp] theorem lookup_write_delete (tables : AList Row) (key : K) :
    (write tables (.delete key)).lookup key = none := AList.lookup_erase key tables

/-- The changes in order; one that breaks a constraint undoes them all. -/
def applyAll (lawful : AList Row → Write Row → Bool) (tables : AList Row) : List (Write Row) → Option (AList Row)
  | [] => some tables
  | change :: rest => if lawful tables change then applyAll lawful (write tables change) rest else none

variable {lawful : AList Row → Write Row → Bool} {tables after : AList Row} {change : Write Row}
  {changes : List (Write Row)}

@[simp] theorem applyAll_nil : applyAll lawful tables [] = some after ↔ tables = after := by
  simp [applyAll]

@[simp] theorem applyAll_cons : applyAll lawful tables (change :: changes) = some after ↔
    lawful tables change = true ∧ applyAll lawful (write tables change) changes = some after := by
  simp [applyAll]

theorem applyAll_append {later : List (Write Row)} : applyAll lawful tables (changes ++ later) = some after ↔
    ∃ mid, applyAll lawful tables changes = some mid ∧ applyAll lawful mid later = some after := by
  induction changes generalizing tables with
  | nil => simp
  | cons change rest ih => simp [ih, and_assoc]

theorem applyAll_keeps {P : AList Row → Prop} (applied : applyAll lawful tables changes = some after)
    (kept : ∀ tables, ∀ change ∈ changes, lawful tables change = true → P tables → P (write tables change))
    (holds : P tables) : P after := by
  induction changes generalizing tables with
  | nil => exact applyAll_nil.mp applied ▸ holds
  | cons change rest ih =>
    obtain ⟨allowed, applied⟩ := applyAll_cons.mp applied
    apply ih applied
    · intro tables other member
      exact kept tables other (.tail _ member)
    · exact kept tables change (.head _) allowed holds

theorem lookup_applyAll (applied : applyAll lawful tables changes = some after) {key : K}
    (unnamed : ∀ change ∈ changes, key ≠ change.key) : after.lookup key = tables.lookup key := by
  refine applyAll_keeps (P := fun t => t.lookup key = tables.lookup key) applied ?_ rfl
  intro t change member _ same
  rw [lookup_write_of_ne (unnamed change member), same]

/-- Every row was there, or is one that the changes write. -/
theorem mem_of_lookup (applied : applyAll lawful tables changes = some after) {key : K} {row : Row key}
    (found : after.lookup key = some row) :
    tables.lookup key = some row ∨ Write.insert key row ∈ changes ∨ Write.update key row ∈ changes := by
  induction changes generalizing tables with
  | nil => exact .inl (applyAll_nil.mp applied ▸ found)
  | cons change rest ih =>
    obtain ⟨_, applied⟩ := applyAll_cons.mp applied
    rcases ih applied with before | inserted | updated
    · by_cases same : key = change.key
      · cases change with
        | insert k new =>
          change key = k at same
          subst same
          rw [lookup_write_insert] at before
          cases before
          exact .inr (.inl (.head _))
        | update k new =>
          change key = k at same
          subst same
          rw [lookup_write_update] at before
          cases before
          exact .inr (.inr (.head _))
        | delete k =>
          change key = k at same
          subst same
          rw [lookup_write_delete] at before
          cases before
      · exact .inl ((lookup_write_of_ne same).symm.trans before)
    · exact .inr (.inl (.tail _ inserted))
    · exact .inr (.inr (.tail _ updated))

end Tables

section Runs

variable [DecidableEq K] (now : AList Row) (past : AList Row → Prop)

/-- Two states of the tables agree on some rows. -/
def Agree (keys : List K) (first second : AList Row) : Prop := ∀ key ∈ keys, first.lookup key = second.lookup key

/-- The text can come to `value` when it is committed at `now`. The lists are the rows
locked before and after. -/
inductive Runs : List K → Txn Row ε α → α → List K → Prop
  | done (held : List K) (value : α) : Runs held (.done value) value held
  | lock (held : List K) (mode : Mode) (key : K) (next : Option (Row key) → Txn Row ε α) (row : Row key) (value : α)
      (locked : List K) (found : now.lookup key = some row) (rest : Runs (key :: held) (next (some row)) value locked) :
      Runs held (.lock mode key next) value locked
  | absent (held : List K) (mode : Mode) (key : K) (next : Option (Row key) → Txn Row ε α) (seen : AList Row) (value : α)
      (locked : List K) (earlier : past seen) (agree : Agree held seen now) (missing : seen.lookup key = none)
      (rest : Runs held (next none) value locked) : Runs held (.lock mode key next) value locked
  | read (held : List K) (next : AList Row → Txn Row ε α) (seen : AList Row) (value : α) (locked : List K)
      (earlier : past seen) (agree : Agree held seen now) (rest : Runs held (next seen) value locked) :
      Runs held (.read next) value locked
  | clock (held : List K) (next : Int → Txn Row ε α) (instant : Int) (value : α) (locked : List K)
      (rest : Runs held (next instant) value locked) : Runs held (.clock next) value locked

variable {now past} {held locked : List K}

@[simp] theorem runs_done {value result : α} :
    Runs now past held (.done value : Txn Row ε α) result locked ↔ value = result ∧ held = locked := by
  constructor
  · intro runs
    cases runs with
    | done => exact ⟨rfl, rfl⟩
  · rintro ⟨rfl, rfl⟩
    exact .done held value

@[simp] theorem runs_pure {value result : α} :
    Runs now past held (pure value : Txn Row ε α) result locked ↔ value = result ∧ held = locked := runs_done

@[simp] theorem runs_fail {error : ε} {result : α} :
    ¬ Runs now past held (.fail error : Txn Row ε α) result locked := by
  intro runs
  cases runs

theorem runs_bind {first : Txn Row ε α} {rest : α → Txn Row ε β} {result : β} :
    Runs now past held (first >>= rest) result locked ↔
      ∃ value mid, Runs now past held first value mid ∧ Runs now past mid (rest value) result locked := by
  constructor
  · intro runs
    induction first generalizing held with
    | done value => exact ⟨value, held, .done held value, runs⟩
    | fail error => exact absurd runs runs_fail
    | lock mode key next ih =>
      cases runs with
      | lock _ _ _ _ row _ _ found runs =>
        obtain ⟨value, mid, before, after⟩ := ih (some row) runs
        exact ⟨value, mid, .lock held mode key next row value mid found before, after⟩
      | absent _ _ _ _ seen _ _ earlier agree missing runs =>
        obtain ⟨value, mid, before, after⟩ := ih none runs
        exact ⟨value, mid, .absent held mode key next seen value mid earlier agree missing before, after⟩
    | read next ih =>
      cases runs with
      | read _ _ seen _ _ earlier agree runs =>
        obtain ⟨value, mid, before, after⟩ := ih seen runs
        exact ⟨value, mid, .read held next seen value mid earlier agree before, after⟩
    | clock next ih =>
      cases runs with
      | clock _ _ instant _ _ runs =>
        obtain ⟨value, mid, before, after⟩ := ih instant runs
        exact ⟨value, mid, .clock held next instant value mid before, after⟩
  · rintro ⟨value, mid, before, after⟩
    induction before with
    | done => exact after
    | lock held mode key next row value locked found _ ih => exact .lock held mode key _ row result _ found (ih after)
    | absent held mode key next seen value locked earlier agree missing _ ih =>
      exact .absent held mode key _ seen result _ earlier agree missing (ih after)
    | read held next seen value locked earlier agree _ ih => exact .read held _ seen result _ earlier agree (ih after)
    | clock held next instant value locked _ ih => exact .clock held _ instant result _ (ih after)

@[simp] theorem runs_seek {mode : Mode} {key : K} {result : Option (Row key)} :
    Runs now past held (Txn.seek mode key : Txn Row ε (Option (Row key))) result locked ↔
      (∃ row, now.lookup key = some row ∧ result = some row ∧ locked = key :: held) ∨
      ((∃ seen, past seen ∧ Agree held seen now ∧ seen.lookup key = none) ∧ result = none ∧ locked = held) := by
  constructor
  · intro runs
    cases runs with
    | lock _ _ _ _ row _ _ found rest =>
      obtain ⟨rfl, rfl⟩ := runs_done.mp rest
      exact .inl ⟨row, found, rfl, rfl⟩
    | absent _ _ _ _ seen _ _ earlier agree missing rest =>
      obtain ⟨rfl, rfl⟩ := runs_done.mp rest
      exact .inr ⟨⟨seen, earlier, agree, missing⟩, rfl, rfl⟩
  · rintro (⟨row, found, rfl, rfl⟩ | ⟨⟨seen, earlier, agree, missing⟩, rfl, rfl⟩)
    · exact .lock held mode key _ row _ _ found (.done _ _)
    · exact .absent _ mode key _ seen _ _ earlier agree missing (.done _ _)

@[simp] theorem runs_fetch {mode : Mode} {key : K} {error : ε} {row : Row key} :
    Runs now past held (Txn.fetch mode key error : Txn Row ε (Row key)) row locked ↔
      now.lookup key = some row ∧ locked = key :: held := by
  constructor
  · intro runs
    cases runs with
    | lock _ _ _ _ found _ _ present rest =>
      obtain ⟨rfl, rfl⟩ := runs_done.mp rest
      exact ⟨present, rfl⟩
    | absent _ _ _ _ seen _ _ earlier agree missing rest => exact absurd rest runs_fail
  · rintro ⟨found, rfl⟩
    exact .lock held mode key _ row row _ found (.done _ _)

@[simp] theorem runs_snapshot {seen : AList Row} :
    Runs now past held (Txn.snapshot : Txn Row ε (AList Row)) seen locked ↔
      past seen ∧ Agree held seen now ∧ locked = held := by
  constructor
  · intro runs
    cases runs with
    | read _ _ _ _ _ earlier agree rest =>
      obtain ⟨rfl, rfl⟩ := runs_done.mp rest
      exact ⟨earlier, agree, rfl⟩
  · rintro ⟨earlier, agree, rfl⟩
    exact .read locked _ seen seen locked earlier agree (.done _ _)

@[simp] theorem runs_now {instant : Int} :
    Runs now past held (Txn.now : Txn Row ε Int) instant locked ↔ locked = held := by
  constructor
  · intro runs
    cases runs with
    | clock _ _ _ _ _ rest =>
      obtain ⟨rfl, rfl⟩ := runs_done.mp rest
      rfl
  · rintro rfl
    exact .clock locked _ instant instant locked (.done _ _)

@[simp] theorem runs_ensure {condition : Bool} {error : ε} {value : Unit} :
    Runs now past held (Txn.ensure condition error : Txn Row ε Unit) value locked ↔ condition = true ∧ locked = held := by
  cases condition with
  | true => simp [Txn.ensure, eq_comm]
  | false => simp [Txn.ensure]

theorem Runs.mono {wider : AList Row → Prop} {text : Txn Row ε α} {value : α}
    (runs : Runs now past held text value locked) (wide : ∀ seen, past seen → wider seen) :
    Runs now wider held text value locked := by
  induction runs with
  | done held value => exact .done held value
  | lock held mode key next row value locked found _ ih => exact .lock held mode key next row value locked found ih
  | absent held mode key next seen value locked earlier agree missing _ ih =>
    exact .absent held mode key next seen value locked (wide seen earlier) agree missing ih
  | read held next seen value locked earlier agree _ ih =>
    exact .read held next seen value locked (wide seen earlier) agree ih
  | clock held next instant value locked _ ih => exact .clock held next instant value locked ih

theorem Runs.held_subset {text : Txn Row ε α} {value : α} (runs : Runs now past held text value locked) :
    held ⊆ locked := by
  induction runs with
  | done => exact List.Subset.refl _
  | lock held mode key next row value locked found _ ih =>
    intro k member
    exact ih (.tail _ member)
  | absent held mode key next seen value locked _ _ _ _ ih => exact ih
  | read held next seen value locked _ _ _ ih => exact ih
  | clock held next instant value locked _ ih => exact ih

end Runs

/-! ### Interleavings -/

/-- The constraints of the tables, the texts of the calls, and what changes the tables by other means. -/
structure System (Row : K → Type) (ε Call Answer : Type) where
  lawful : AList Row → Write Row → Bool
  text : Call → Txn Row ε (List (Write Row) × Answer)
  administers : AList Row → List (Write Row) → Prop

/-- A transaction under way. `since` is what was committed since it began, newest
first; no step depends on it. -/
structure Job (Row : K → Type) (ε Call Answer : Type) where
  call : Call
  rest : Txn Row ε (List (Write Row) × Answer)
  held : List (K × Mode)
  since : List (AList Row)

structure Config (Row : K → Type) (ι ε Call Answer : Type) where
  tables : AList Row
  job : ι → Option (Job Row ε Call Answer)

/-- Nobody is in a transaction. -/
def idle (tables : AList Row) : Config Row ι ε Call Answer := ⟨tables, fun _ => none⟩

/-- What a step does. -/
inductive Label (Row : K → Type) (ι Call Answer : Type)
  | start (thread : ι) (call : Call)
  | progress (thread : ι)
  | commit (thread : ι) (call : Call) (changes : List (Write Row)) (answer : Answer)
  | abort (thread : ι)
  | administer (changes : List (Write Row))

namespace Config

/-- No other thread has a lock on the row that conflicts. -/
def Free (c : Config Row ι ε Call Answer) (i : ι) (mode : Mode) (key : K) : Prop :=
  ∀ j, j ≠ i → ∀ job, c.job j = some job → ∀ other, (key, other) ∈ job.held → mode = .share ∧ other = .share

/-- No thread has a lock on the row. -/
def Unlocked (c : Config Row ι ε Call Answer) (key : K) : Prop :=
  ∀ j job, c.job j = some job → ∀ mode, (key, mode) ∉ job.held

/-- Other tables are committed, and every transaction under way may see them. -/
def publish (c : Config Row ι ε Call Answer) (after : AList Row) : Config Row ι ε Call Answer :=
  ⟨after, fun i => (c.job i).map fun job => { job with since := after :: job.since }⟩

end Config

variable [DecidableEq K] [DecidableEq ι]

/-- Thread `i` is given another transaction, or none. -/
def Config.assign (c : Config Row ι ε Call Answer) (i : ι) (job : Option (Job Row ε Call Answer)) :
    Config Row ι ε Call Answer := { c with job := Function.update c.job i job }

inductive Step (S : System Row ε Call Answer) :
    Config Row ι ε Call Answer → Label Row ι Call Answer → Config Row ι ε Call Answer → Prop
  | start (c : Config Row ι ε Call Answer) (i : ι) (call : Call) (free : c.job i = none) :
      Step S c (.start i call) (c.assign i (some ⟨call, S.text call, [], [c.tables]⟩))
  | lock (c : Config Row ι ε Call Answer) (i : ι) (job : Job Row ε Call Answer) (mode : Mode) (key : K)
      (next : Option (Row key) → Txn Row ε (List (Write Row) × Answer)) (row : Row key) (running : c.job i = some job)
      (text : job.rest = .lock mode key next) (found : c.tables.lookup key = some row) (free : c.Free i mode key) :
      Step S c (.progress i) (c.assign i (some { job with rest := next (some row), held := (key, mode) :: job.held }))
  | absent (c : Config Row ι ε Call Answer) (i : ι) (job : Job Row ε Call Answer) (mode : Mode) (key : K)
      (next : Option (Row key) → Txn Row ε (List (Write Row) × Answer)) (running : c.job i = some job)
      (text : job.rest = .lock mode key next) (missing : c.tables.lookup key = none) :
      Step S c (.progress i) (c.assign i (some { job with rest := next none }))
  | read (c : Config Row ι ε Call Answer) (i : ι) (job : Job Row ε Call Answer)
      (next : AList Row → Txn Row ε (List (Write Row) × Answer)) (running : c.job i = some job)
      (text : job.rest = .read next) : Step S c (.progress i) (c.assign i (some { job with rest := next c.tables }))
  | clock (c : Config Row ι ε Call Answer) (i : ι) (job : Job Row ε Call Answer)
      (next : Int → Txn Row ε (List (Write Row) × Answer)) (instant : Int) (running : c.job i = some job)
      (text : job.rest = .clock next) : Step S c (.progress i) (c.assign i (some { job with rest := next instant }))
  | commit (c : Config Row ι ε Call Answer) (i : ι) (job : Job Row ε Call Answer) (changes : List (Write Row))
      (answer : Answer) (after : AList Row) (running : c.job i = some job) (text : job.rest = .done (changes, answer))
      (free : ∀ change ∈ changes, c.Free i .exclusive change.key)
      (applied : applyAll S.lawful c.tables changes = some after) :
      Step S c (.commit i job.call changes answer) ((c.assign i none).publish after)
  -- a refusal, an error of any statement, a lost connection, a deadlock
  | abort (c : Config Row ι ε Call Answer) (i : ι) : Step S c (.abort i) (c.assign i none)
  | administer (c : Config Row ι ε Call Answer) (changes : List (Write Row)) (after : AList Row)
      (administered : S.administers c.tables changes) (free : ∀ change ∈ changes, c.Unlocked change.key)
      (applied : applyAll S.lawful c.tables changes = some after) :
      Step S c (.administer changes) (c.publish after)

def Steps (S : System Row ε Call Answer) (c d : Config Row ι ε Call Answer) : Prop := ∃ label, Step S c label d

/-- The configurations that runs from `first` reach. -/
def Reachable (S : System Row ε Call Answer) (first c : Config Row ι ε Call Answer) : Prop :=
  Relation.ReflTransGen (Steps S) first c

section Meaning

variable {S : System Row ε Call Answer} {c d first : Config Row ι ε Call Answer}
  {label : Label Row ι Call Answer}

/-- Only commits and administration change the tables. -/
theorem Step.tables (step : Step S c label d) :
    d.tables = c.tables ∨ (∃ i call changes answer, label = .commit i call changes answer ∧
        applyAll S.lawful c.tables changes = some d.tables) ∨
      ∃ changes, S.administers c.tables changes ∧ applyAll S.lawful c.tables changes = some d.tables := by
  cases step with
  | start | lock | absent | read | clock | abort => exact .inl rfl
  | commit i job changes answer after running text free applied =>
    exact .inr (.inl ⟨i, job.call, changes, answer, rfl, applied⟩)
  | administer changes after administered free applied => exact .inr (.inr ⟨changes, administered, applied⟩)

/-- What a transaction may have seen, it may have seen before the step, or it is the
tables of now. -/
theorem Step.seen (step : Step S c label d) {j : ι} {job : Job Row ε Call Answer} (running : d.job j = some job)
    {seen : AList Row} (member : seen ∈ job.since) :
    seen = d.tables ∨ ∃ old, c.job j = some old ∧ seen ∈ old.since := by
  have assigned {i : ι} {new : Job Row ε Call Answer}
      (given : (c.assign i (some new)).job j = some job) (own : ∀ seen ∈ new.since, seen = c.tables ∨
        ∃ old, c.job i = some old ∧ seen ∈ old.since) : seen = c.tables ∨ ∃ old, c.job j = some old ∧ seen ∈ old.since := by
    by_cases same : j = i
    · subst same
      obtain rfl : new = job := by simpa [Config.assign] using given
      exact own seen member
    · exact .inr ⟨job, by simpa [Config.assign, Function.update_of_ne same] using given, member⟩
  have dropped {i : ι} {job : Job Row ε Call Answer} (given : (c.assign i none).job j = some job) : c.job j = some job := by
    by_cases same : j = i
    · subst same
      simp [Config.assign] at given
    · simpa [Config.assign, Function.update_of_ne same] using given
  cases step with
  | start i call free => exact assigned running fun seen member => .inl (List.mem_singleton.mp member)
  | lock i job mode key next row current | absent i job mode key next current | read i job next current
  | clock i job next instant current => exact assigned running fun seen member => .inr ⟨job, current, member⟩
  | commit i ended changes answer after current text free applied =>
    obtain ⟨old, before, rfl⟩ : ∃ old, (c.assign i none).job j = some old ∧
        { old with since := after :: old.since } = job := by simpa [Config.publish] using running
    exact (List.mem_cons.mp member).imp id fun earlier => ⟨old, dropped before, earlier⟩
  | abort i => exact .inr ⟨job, dropped running, member⟩
  | administer changes after administered free applied =>
    obtain ⟨old, before, rfl⟩ : ∃ old, c.job j = some old ∧ { old with since := after :: old.since } = job := by
      simpa [Config.publish] using running
    exact (List.mem_cons.mp member).imp id fun earlier => ⟨old, before, earlier⟩

/-- What holds of a transaction under way: the tables of now are among those it may
have seen, no other thread has a conflicting lock, and whatever its rest can come to
from the rows it holds, the whole call can come to. -/
structure Job.Sound (S : System Row ε Call Answer) (c : Config Row ι ε Call Answer) (i : ι)
    (job : Job Row ε Call Answer) : Prop where
  current : c.tables ∈ job.since
  disjoint : ∀ key mode, (key, mode) ∈ job.held → c.Free i mode key
  means : ∀ now past, (∀ seen ∈ job.since, past seen) → Agree (job.held.map Prod.fst) now c.tables →
    ∀ value locked, Runs now past (job.held.map Prod.fst) job.rest value locked →
      ∃ locked, Runs now past [] (S.text job.call) value locked

def Sound (S : System Row ε Call Answer) (c : Config Row ι ε Call Answer) : Prop :=
  ∀ i job, c.job i = some job → job.Sound S c i

theorem Agree.symm {keys : List K} {first second : AList Row} (agree : Agree keys first second) :
    Agree keys second first := fun key member => (agree key member).symm

/-- A step of one thread that keeps the tables leaves the others sound, when it adds
no lock that conflicts with theirs. -/
theorem Sound.assign {i : ι} {job : Option (Job Row ε Call Answer)} (sound : Sound S c)
    (own : ∀ new, job = some new → new.Sound S (c.assign i job) i)
    (compatible : ∀ new, job = some new → ∀ key mode, (key, mode) ∈ new.held → c.Free i mode key) :
    Sound S (c.assign i job) := by
  intro j other running
  by_cases same : j = i
  · subst same
    exact own other (by simpa [Config.assign] using running)
  · have before : c.job j = some other := by simpa [Config.assign, Function.update_of_ne same] using running
    have old := sound j other before
    refine ⟨old.current, ?_, old.means⟩
    intro key mode holds k different new runs
    by_cases mine : k = i
    · subst mine
      have given : job = some new := by simpa [Config.assign] using runs
      intro strength held
      -- the lock was compatible with that of `j` when it was taken
      have free := compatible new given key strength held j same other before mode holds
      exact ⟨free.2, free.1⟩
    · exact old.disjoint key mode holds k different new
        (by simpa [Config.assign, Function.update_of_ne mine] using runs)

omit [DecidableEq ι] in
/-- Other tables keep the transactions sound whose rows they do not change. -/
theorem Sound.publish {after : AList Row} (sound : Sound S c)
    (kept : ∀ i job, c.job i = some job → Agree (job.held.map Prod.fst) after c.tables) :
    Sound S (c.publish after) := by
  intro i job running
  obtain ⟨old, before, rfl⟩ : ∃ old, c.job i = some old ∧ { old with since := after :: old.since } = job := by
    simpa [Config.publish] using running
  have was := sound i old before
  refine ⟨.head _, ?_, ?_⟩
  · intro key mode holds j different new runs
    obtain ⟨other, earlier, rfl⟩ : ∃ other, c.job j = some other ∧ { other with since := after :: other.since } = new := by
      simpa [Config.publish] using runs
    exact was.disjoint key mode holds j different other earlier
  · intro now past wide agree
    refine was.means now past (fun seen member => wide seen (.tail _ member)) ?_
    intro key member
    exact (agree key member).trans (kept i old before key member)

/-- Changes of rows that a thread has not locked. -/
theorem agree_applyAll {changes : List (Write Row)} {tables after : AList Row} {keys : List K}
    (applied : applyAll S.lawful tables changes = some after) (apart : ∀ change ∈ changes, change.key ∉ keys) :
    Agree keys after tables := by
  intro key member
  apply lookup_applyAll applied
  rintro change listed rfl
  exact apart change listed member

/-- A step within a transaction: whatever the new rest can come to, the old one can. -/
theorem Sound.advance {i : ι} {job : Job Row ε Call Answer} {rest : Txn Row ε (List (Write Row) × Answer)}
    {held : List (K × Mode)} (sound : Sound S c) (running : c.job i = some job)
    (compatible : ∀ key mode, (key, mode) ∈ held → c.Free i mode key)
    (means : ∀ now past, past c.tables → Agree (held.map Prod.fst) now c.tables →
      Agree (job.held.map Prod.fst) now c.tables ∧ ∀ value locked, Runs now past (held.map Prod.fst) rest value locked →
        Runs now past (job.held.map Prod.fst) job.rest value locked) :
    Sound S (c.assign i (some { job with rest := rest, held := held })) := by
  have old := sound i job running
  apply sound.assign
  · rintro _ ⟨⟩
    refine ⟨old.current, ?_, ?_⟩
    · intro key mode holds j different other runs
      exact compatible key mode holds j different other
        (by simpa [Config.assign, Function.update_of_ne different] using runs)
    · intro now past wide agree value locked runs
      obtain ⟨before, whole⟩ := means now past (wide _ old.current) agree
      exact old.means now past wide before value locked (whole value locked runs)
  · rintro _ ⟨⟩
    exact compatible

theorem Sound.step (sound : Sound S c) (step : Step S c label d) : Sound S d := by
  cases step with
  | start i call free =>
    apply sound.assign
    · rintro _ ⟨⟩
      refine ⟨List.mem_singleton_self _, ?_, ?_⟩
      · intro key mode holds
        cases holds
      · intro now past _ _ value locked runs
        exact ⟨locked, runs⟩
    · rintro _ ⟨⟩ _ _ holds
      cases holds
  | lock i job mode key next row running text found free =>
    apply sound.advance running
    · intro k m holds
      rcases List.mem_cons.mp holds with new | before
      · cases new
        exact free
      · exact (sound i job running).disjoint k m before
    · intro now past _ agree
      refine ⟨fun k member => agree k (.tail _ member), ?_⟩
      intro value locked runs
      rw [text]
      exact .lock _ mode key next row value locked ((agree key (.head _)).trans found) runs
  | absent i job mode key next running text missing =>
    apply sound.advance running (sound i job running).disjoint
    intro now past current agree
    refine ⟨agree, ?_⟩
    intro value locked runs
    rw [text]
    exact .absent _ mode key next c.tables value locked current agree.symm missing runs
  | read i job next running text =>
    apply sound.advance running (sound i job running).disjoint
    intro now past current agree
    refine ⟨agree, ?_⟩
    intro value locked runs
    rw [text]
    exact .read _ next c.tables value locked current agree.symm runs
  | clock i job next instant running text =>
    apply sound.advance running (sound i job running).disjoint
    intro now past current agree
    refine ⟨agree, ?_⟩
    intro value locked runs
    rw [text]
    exact .clock _ next instant value locked runs
  | commit i job changes answer after running text free applied =>
    have ended : Sound S (c.assign i none) := sound.assign nofun nofun
    apply ended.publish
    intro j other runs
    have different : j ≠ i := by
      rintro rfl
      simp [Config.assign] at runs
    have before : c.job j = some other := by simpa [Config.assign, Function.update_of_ne different] using runs
    apply agree_applyAll applied
    intro change listed holds
    obtain ⟨⟨key, mode⟩, member, rfl⟩ := List.mem_map.mp holds
    -- the writer could not have written under this lock
    have conflict := free change listed j different other before mode member
    cases conflict.1
  | abort i => exact sound.assign nofun nofun
  | administer changes after administered free applied =>
    apply sound.publish
    intro j other runs
    apply agree_applyAll applied
    intro change listed holds
    obtain ⟨⟨key, mode⟩, member, rfl⟩ := List.mem_map.mp holds
    exact free change listed j other runs mode member

theorem Reachable.sound {tables : AList Row} (reached : Reachable S (idle tables) c) : Sound S c := by
  induction reached with
  | refl =>
    intro i job running
    cases running
  | tail _ step ih =>
    obtain ⟨label, step⟩ := step
    exact ih.step step

/-- **A commit is one atomic step**, at the tables that it changes. -/
theorem Reachable.commit {tables : AList Row} {i : ι} {call : Call} {changes : List (Write Row)} {answer : Answer}
    (reached : Reachable S (idle tables) c) (step : Step S c (.commit i call changes answer) d) :
    applyAll S.lawful c.tables changes = some d.tables ∧
      ∃ job locked, c.job i = some job ∧
        Runs c.tables (· ∈ job.since) [] (S.text call) (changes, answer) locked := by
  cases step with
  | commit _ job _ _ after running text free applied =>
    have meaning := (reached.sound i job running).means c.tables (· ∈ job.since) (fun _ member => member)
      (fun _ _ => rfl) (changes, answer) (job.held.map Prod.fst)
    rw [text] at meaning
    obtain ⟨locked, runs⟩ := meaning (.done _ _)
    exact ⟨applied, job, locked, running, runs⟩

/-- What holds of the tables, and of everything that a transaction under way may have
seen in relation to them. -/
structure Keeps (I : AList Row → Prop) (R : AList Row → AList Row → Prop) (c : Config Row ι ε Call Answer) : Prop where
  now : I c.tables
  seen : ∀ i job, c.job i = some job → ∀ seen ∈ job.since, I seen ∧ R seen c.tables

variable {I : AList Row → Prop} {R : AList Row → AList Row → Prop}

/-- What every commit keeps, taken as one atomic step whose unlocked reads are of
tables with these properties, and all administration. -/
structure Preserved (S : System Row ε Call Answer) (I : AList Row → Prop) (R : AList Row → AList Row → Prop) : Prop where
  refl : ∀ tables, R tables tables
  trans : ∀ first second third, R first second → R second third → R first third
  commit : ∀ now after call changes answer locked, I now →
    Runs now (fun seen => I seen ∧ R seen now) [] (S.text call) (changes, answer) locked →
    applyAll S.lawful now changes = some after → I after ∧ R now after
  administer : ∀ now after changes, I now → S.administers now changes →
    applyAll S.lawful now changes = some after → I after ∧ R now after

theorem Preserved.step {tables : AList Row} (preserved : Preserved S I R) (keeps : Keeps I R c)
    (reached : Reachable S (idle tables) c) (step : Step S c label d) : I d.tables ∧ R c.tables d.tables := by
  rcases step.tables with same | ⟨i, call, changes, answer, rfl, applied⟩ | ⟨changes, administered, applied⟩
  · rw [same]
    exact ⟨keeps.now, preserved.refl _⟩
  · obtain ⟨_, job, locked, running, runs⟩ := reached.commit step
    exact preserved.commit _ _ call changes answer locked keeps.now (runs.mono fun seen => keeps.seen i job running seen)
      applied
  · exact preserved.administer _ _ changes keeps.now administered applied

/-- **Invariant rule.** What is preserved holds throughout every run from where it holds. -/
theorem Preserved.throughout {tables : AList Row} (preserved : Preserved S I R) (initial : I tables)
    (reached : Reachable S (idle tables) c) : Keeps I R c := by
  induction reached with
  | refl =>
    refine ⟨initial, ?_⟩
    intro i job running
    cases running
  | tail path step ih =>
    obtain ⟨label, step⟩ := step
    obtain ⟨holds, related⟩ := preserved.step ih path step
    refine ⟨holds, ?_⟩
    intro i job running seen member
    rcases step.seen running member with rfl | ⟨old, was, earlier⟩
    · exact ⟨holds, preserved.refl _⟩
    · obtain ⟨held, before⟩ := ih.seen i old was seen earlier
      exact ⟨held, preserved.trans _ _ _ before related⟩

/-- The relation between any two states of the tables in a run. -/
theorem Preserved.related {tables : AList Row} (preserved : Preserved S I R) (initial : I tables)
    (reached : Reachable S (idle tables) c) (later : Reachable S c d) : R c.tables d.tables := by
  induction later with
  | refl => exact preserved.refl _
  | tail path step ih =>
    obtain ⟨label, step⟩ := step
    have here := reached.trans path
    exact preserved.trans _ _ _ ih (preserved.step (preserved.throughout initial here) here step).2

/-- A commit, as one atomic step whose unlocked reads are of tables with the
properties of the invariant rule. -/
theorem Keeps.commit {tables : AList Row} {i : ι} {call : Call} {changes : List (Write Row)} {answer : Answer}
    (keeps : Keeps I R c) (reached : Reachable S (idle tables) c) (step : Step S c (.commit i call changes answer) d) :
    applyAll S.lawful c.tables changes = some d.tables ∧
      ∃ locked, Runs c.tables (fun seen => I seen ∧ R seen c.tables) [] (S.text call) (changes, answer) locked := by
  obtain ⟨applied, job, locked, running, runs⟩ := reached.commit step
  exact ⟨applied, locked, runs.mono fun seen => keeps.seen i job running seen⟩

/-- What lawful changes keep. -/
theorem Reachable.lasting {P : AList Row → Prop}
    (lasting : ∀ tables after changes, applyAll S.lawful tables changes = some after → P tables → P after)
    (holds : P c.tables) (reached : Reachable S c d) : P d.tables := by
  induction reached with
  | refl => exact holds
  | tail _ step ih =>
    obtain ⟨label, step⟩ := step
    rcases step.tables with same | ⟨i, call, changes, answer, rfl, applied⟩ | ⟨changes, administered, applied⟩
    · exact same ▸ ih
    · exact lasting _ _ changes applied ih
    · exact lasting _ _ changes applied ih

/-- What holds from the beginning of a call on holds of all that it sees. -/
theorem Reachable.started {P : AList Row → Prop} {mid : Config Row ι ε Call Answer} {i : ι} {call : Call}
    (holds : ∀ e, Reachable S c e → P e.tables) (begins : Step S c (.start i call) mid) (reached : Reachable S mid d) :
    ∀ job, d.job i = some job → ∀ seen ∈ job.since, P seen := by
  induction reached with
  | refl =>
    intro job running seen member
    cases begins with
    | start _ _ free =>
      obtain rfl : (⟨call, S.text call, [], [c.tables]⟩ : Job Row ε Call Answer) = job := by
        simpa [Config.assign] using running
      cases List.mem_singleton.mp member
      exact holds c .refl
  | @tail before after path step ih =>
    have fresh : P after.tables := holds after (.head ⟨_, begins⟩ (path.tail step))
    obtain ⟨label, step⟩ := step
    intro job running seen member
    rcases step.seen running member with rfl | ⟨old, was, earlier⟩
    · exact fresh
    · exact ih old was seen earlier

/-! ### Runs with their steps -/

/-- A step taken in a run. -/
structure Move (Row : K → Type) (ι ε Call Answer : Type) where
  before : Config Row ι ε Call Answer
  label : Label Row ι Call Answer
  after : Config Row ι ε Call Answer

/-- A run together with its steps, newest first. -/
inductive Run (S : System Row ε Call Answer) (first : Config Row ι ε Call Answer) :
    List (Move Row ι ε Call Answer) → Config Row ι ε Call Answer → Prop
  | start : Run S first [] first
  | step (moves : List (Move Row ι ε Call Answer)) (c d : Config Row ι ε Call Answer) (label : Label Row ι Call Answer)
      (run : Run S first moves c) (stepped : Step S c label d) : Run S first (⟨c, label, d⟩ :: moves) d

theorem Run.reachable {moves : List (Move Row ι ε Call Answer)} (run : Run S first moves c) : Reachable S first c := by
  induction run with
  | start => exact .refl
  | step moves c d label _ stepped ih => exact ih.tail ⟨label, stepped⟩

/-- Every step of a run lies between its ends. -/
theorem Run.between {moves : List (Move Row ι ε Call Answer)} (run : Run S first moves c) {move : Move Row ι ε Call Answer}
    (member : move ∈ moves) :
    Reachable S first move.before ∧ Step S move.before move.label move.after ∧ Reachable S move.after c := by
  induction run with
  | start => cases member
  | step moves c d label run stepped ih =>
    rcases List.mem_cons.mp member with rfl | earlier
    · exact ⟨run.reachable, stepped, .refl⟩
    · obtain ⟨before, step, after⟩ := ih earlier
      exact ⟨before, step, after.tail ⟨label, stepped⟩⟩

/-- Administration while no transaction is under way. -/
theorem Run.administer {tables after : AList Row} {changes : List (Write Row)}
    {moves : List (Move Row ι ε Call Answer)} (administered : S.administers tables changes)
    (applied : applyAll S.lawful tables changes = some after) (run : Run S first moves (idle tables)) :
    Run S first (⟨idle tables, .administer changes, idle after⟩ :: moves) (idle after) :=
  .step moves _ _ _ run (.administer (idle tables) changes after administered nofun applied)

end Meaning

end RowLocks
