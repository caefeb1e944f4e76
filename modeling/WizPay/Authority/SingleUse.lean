import WizPay.Authority.WalletAuthority

/-!
# What is used once

An OAuth transaction is decided, a code redeemed and a challenge answered by one committed
call at most. The row of each has a time of use, which a call that commits finds empty and
sets, and which the triggers keep.
-/
namespace WizPay.Authority

open GoText GoTime RowLocks Txn

/-- The row has been used. -/
def usedRow : (key : Key) → Row key → Bool
  | .transaction _, r => r.completedAt.isSome
  | .code _, r => r.consumedAt.isSome
  | .challenge _, r => r.consumedAt.isSome
  | _, _ => false

def Used (key : Key) (tables : Tables) : Prop := ∃ row, tables.lookup key = some row ∧ usedRow key row = true

/-- The row that a call uses when it commits; a denial finds its transaction in the browser session. -/
def Call.uses (tables : Tables) : Call → Option Key
  | .complete t _ _ => some (.transaction t.id)
  | .deny digest _ => (tables.lookup (.browser digest)).map fun b => .transaction b.transactionID
  | .redeem r => some (.code r.codeDigest)
  | .finalize _ id _ _ => some (.challenge id)
  | _ => none

/-- The step is the commit of a call that uses the row. -/
def Event.Uses {ι : Type} (key : Key) (move : Event ι) : Prop :=
  ∃ i call changes answer, move.label = .commit i call changes answer ∧ call.uses move.before.tables = some key

variable {key : Key}

theorem usedRow_keeps (old new : Row key) (kept : keeps key old new = true) (used : usedRow key old = true) :
    usedRow key new = true := by
  cases key with
  | transaction id | code digest | challenge id =>
    -- the trigger compares the time of use last
    simp only [keeps, usedRow, Bool.and_eq_true] at kept used ⊢
    exact terminal_isSome kept.2 used
  | _ => cases used

theorem Used.lasts (tables after : Tables) (changes : List Change) (applied : applyAll lawful tables changes = some after)
    (used : Used key tables) : Used key after := by
  obtain ⟨row, found, mark⟩ := used
  have fixed : key.deletable = false := by
    cases key with
    | browser digest | browserReference reference => cases mark
    | _ => rfl
  exact lasting (P := fun row => usedRow key row = true) fixed usedRow_keeps applied found mark

variable {curve : Siwe.Curve} {now after : Tables} {past : Tables → Prop} {call : Call} {changes : List Change}
  {answer : Answer}

/-- A call that commits found its row unused, and writes that it is used. -/
theorem Effect.updates_used (effect : Effect curve now past call changes answer) (uses : call.uses now = some key) :
    ∃ old new, now.lookup key = some old ∧ usedRow key old = false ∧ Write.update key new ∈ changes ∧
      usedRow key new = true := by
  cases effect with
  | complete t d k row found browser grants =>
    cases uses
    exact ⟨row, { row with completedAt := some (truncMicros k.issuedAt) }, grants.transaction,
      by simp [usedRow, grants.uncompleted], by simp, rfl⟩
  | redeem r k u s i instant redeems =>
    cases uses
    exact ⟨k, _, redeems.code, by simp [usedRow, redeems.unconsumed], .head _, rfl⟩
  | deny digest proof v t instant browser live undecided transaction uncompleted =>
    -- the browser session names the transaction
    rw [Call.uses, browser] at uses
    cases uses
    exact ⟨t, _, transaction, by simp [usedRow, uncompleted], .head _, rfl⟩
  | enroll r id signature next v c i binding b instant purpose finalizes
  | authenticate r id signature next v c i binding b instant purpose finalizes named =>
    cases uses
    exact ⟨c, _, finalizes.challenge, by simp [usedRow, finalizes.unconsumed], .head _, rfl⟩
  | _ => cases uses

theorem Effect.used (effect : Effect curve now past call changes answer) (uses : call.uses now = some key)
    (applied : applyAll lawful now changes = some after) : ¬ Used key now ∧ Used key after := by
  obtain ⟨old, new, found, unused, member, used⟩ := effect.updates_used uses
  refine ⟨?_, lasting_of_written (effect.undeleting _) usedRow_keeps applied (.inr member) used⟩
  rintro ⟨row, present, marked⟩
  cases found.symm.trans present
  cases unused.symm.trans marked

section Runs

variable {ι : Type} [DecidableEq ι] {c : Config Row ι Error Call Answer} {tables : Tables}

/-- A transaction with a code is completed and has no other code, and one browser session at most has granted it. -/
structure Settled (tables : Tables) : Prop where
  completed : ∀ digest k, tables.lookup (Key.code digest) = some k → Used (.transaction k.transactionID) tables
  code : ∀ digest digest' k k', tables.lookup (Key.code digest) = some k → tables.lookup (Key.code digest') = some k' →
    k.transactionID = k'.transactionID → digest = digest'
  browser : ∀ name name' b b', tables.lookup (Key.browser name) = some b → tables.lookup (Key.browser name') = some b' →
    b.decision = .granted → b'.decision = .granted → b.transactionID = b'.transactionID → name = name'

end Runs

end WizPay.Authority
