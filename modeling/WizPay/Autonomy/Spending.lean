import Mathlib
import WizPay.Storage.AutonomyRepository

/-!
# Spending caps

What the reservations of one grant add up to over any sequence of calls. The book is
what the callers were told: the amounts granted and not released since.
-/
namespace WizPay.Autonomy

open Checks GoText GoTime Storage

/-- A call that touches reservations. No statement of the repository writes the state COMMITTED that its table
provides for; `commit` is the transition of `Ledger.Commit`. -/
inductive SpendCall
  | reserve (scope : Scope) (grant : Grant) (occurrence amount : String) (now : Int)
  | commit (tenantID grantID : String) (grantVersion : Nat) (occurrence : String)
  | release (scope : Scope) (occurrence : String)
deriving DecidableEq

/-- Mark a reservation as spent. -/
def commitReservation (tenantID grantID : String) (grantVersion : Nat) (occurrence : String) (row : ReservationRow) :
    ReservationRow :=
  if row.key = (tenantID, grantID, grantVersion, occurrence) ∧ row.state = .reserved then
    { row with state := .committed }
  else row

/-- The answer of a reserve call, and whether a release took place, with the tables afterwards. -/
def SpendCall.perform (t : AutonomyTables) : SpendCall → Answer Bool
  | .reserve scope grant occurrence amount now => reserveAutonomySpend t scope grant occurrence amount now
  | .commit tenantID grantID grantVersion occurrence =>
    (.ok true, { t with
      reservations := t.reservations.map (commitReservation tenantID grantID grantVersion occurrence) })
  | .release scope occurrence =>
    let answer := releaseAutonomySpend t scope occurrence
    (answer.1.map fun _ => true, answer.2)

/-- An amount that is granted and not released. -/
structure Entry where
  occurrence : String
  units : Int
  reservedAt : Int
  committed : Bool
deriving DecidableEq

section Book

variable (tenantID : String) (grant : Grant)

/-- The call is a reserve call under the grant. -/
def SpendCall.Reserves (occurrence amount : String) (now : Int) (call : SpendCall) : Prop :=
  ∃ scope, scope.tenantID = tenantID ∧ call = .reserve scope grant occurrence amount now

/-- The book after the call. A repeated reservation keeps its first entry; a release does not undo a commit. -/
def account (book : List Entry) (answer : Except Error Bool) : SpendCall → List Entry
  | .reserve scope asked occurrence amount now =>
    if scope.tenantID = tenantID ∧ asked.id = grant.id ∧ asked.version = grant.version ∧ answer = .ok true ∧
        book.all (fun entry => entry.occurrence ≠ occurrence) then
      book ++ [⟨occurrence, (parseBig amount).getD 0, now, false⟩]
    else book
  | .commit tenant grantID grantVersion occurrence =>
    if tenant = tenantID ∧ grantID = grant.id ∧ grantVersion = grant.version then
      book.map fun entry => if entry.occurrence = occurrence then { entry with committed := true } else entry
    else book
  | .release scope occurrence =>
    if scope.tenantID = tenantID ∧ answer = .ok true then
      book.filter fun entry => entry.committed || entry.occurrence ≠ occurrence
    else book

end Book

def totalUnits (book : List Entry) : Int := (book.map Entry.units).sum

/-- The part of the book that was reserved from `first` to `last`. -/
def reservedWithin (first last : Int) (book : List Entry) : List Entry :=
  book.filter fun entry => first ≤ entry.reservedAt && entry.reservedAt ≤ last

/-- Both caps of the grant hold for the book. -/
structure CapsHold (grant : Grant) (book : List Entry) : Prop where
  aggregate : withinCap grant.aggregateCapBaseUnits (totalUnits book) = true
  rolling : ∀ first last, last - first < grant.rollingWindow →
    withinCap grant.rollingWindowCapBaseUnits (totalUnits (reservedWithin first last book)) = true

/-- The stored rows count the amount as active. -/
def CountedActive (t : AutonomyTables) (tenantID : String) (grant : Grant) (occurrence amount : String) : Prop :=
  ∃ row ∈ activeReservations t tenantID grant.id grant.version,
    row.occurrenceID = occurrence ∧ parseBig amount = some row.amount

/-- The caps hold after every call, and every granted amount is counted. -/
def SpendHolds (tenantID : String) (grant : Grant) (t : AutonomyTables) (book : List Entry) : List SpendCall → Prop
  | [] => CapsHold grant book
  | call :: rest =>
    CapsHold grant book ∧
    (∀ occurrence amount now, call.Reserves tenantID grant occurrence amount now → (call.perform t).1 = .ok true →
      CountedActive (call.perform t).2 tenantID grant occurrence amount) ∧
    SpendHolds tenantID grant (call.perform t).2 (account tenantID grant book (call.perform t).1 call) rest

/-- The reserve calls made for the grant's id and version in the tenant carry the grant itself. -/
def ForGrant (tenantID : String) (grant : Grant) (call : SpendCall) : Prop :=
  ∀ scope asked occurrence amount now, call = .reserve scope asked occurrence amount now →
    scope.tenantID = tenantID → asked.id = grant.id → asked.version = grant.version → asked = grant

/-- The call does not reserve for an occurrence whose reservation was released. -/
def KeepsReleased (t : AutonomyTables) (call : SpendCall) : Prop :=
  ∀ scope asked occurrence amount now, call = .reserve scope asked occurrence amount now →
    ∀ row ∈ t.reservations, row.key = (scope.tenantID, asked.id, asked.version, occurrence) → row.state ≠ .released

/-- No call of the run reserves for an occurrence whose reservation was released. -/
def NeverReplaysReleased (t : AutonomyTables) : List SpendCall → Prop
  | [] => True
  | call :: rest => KeepsReleased t call ∧ NeverReplaysReleased (call.perform t).2 rest

/-! ### The book and the rows -/

/-- What an entry and its row have in common. -/
def Entry.image (entry : Entry) : String × Int × Int × Bool :=
  (entry.occurrence, entry.units, truncMicros entry.reservedAt, entry.committed)

def rowImage (row : ReservationRow) : String × Int × Int × Bool :=
  (row.occurrenceID, row.amount, row.reservedAt, row.state = .committed)

/-- The invariant of a run: the book lists the active rows, in their order. -/
structure Balanced (tenantID : String) (grant : Grant) (t : AutonomyTables) (book : List Entry) : Prop where
  rows : (activeReservations t tenantID grant.id grant.version).map rowImage = book.map Entry.image
  positive : ∀ entry ∈ book, 0 < entry.units
  caps : CapsHold grant book

variable {rows : List ReservationRow} {row : ReservationRow}

section Sums

variable {book : List Entry}

theorem totalUnits_sublist {part : List Entry} (positive : ∀ entry ∈ book, 0 < entry.units) (sub : part.Sublist book) :
    totalUnits part ≤ totalUnits book := by
  apply List.Sublist.sum_le_sum (sub.map Entry.units)
  intro units member
  obtain ⟨entry, isEntry, rfl⟩ := List.mem_map.mp member
  exact (positive entry isEntry).le

theorem withinCap_le {cap : String} {less more : Int} (le : less ≤ more) (within : withinCap cap more = true) :
    withinCap cap less = true := by
  simp only [withinCap, Bool.or_eq_true, decide_eq_true_eq] at within ⊢
  rcases within with none | bounded
  · exact .inl none
  · exact .inr (le.trans bounded)

theorem CapsHold.sublist {grant : Grant} {part : List Entry} (positive : ∀ entry ∈ book, 0 < entry.units)
    (holds : CapsHold grant book) (sub : part.Sublist book) : CapsHold grant part := by
  constructor
  case aggregate => exact withinCap_le (totalUnits_sublist positive sub) holds.aggregate
  case rolling =>
    intro first last short
    apply withinCap_le _ (holds.rolling first last short)
    apply totalUnits_sublist
    · exact fun entry member => positive entry (List.mem_of_mem_filter member)
    · exact sub.filter _

/-- The caps see amounts and times only. -/
theorem CapsHold.map {grant : Grant} {change : Entry → Entry} (units : ∀ entry, (change entry).units = entry.units)
    (times : ∀ entry, (change entry).reservedAt = entry.reservedAt) (holds : CapsHold grant book) :
    CapsHold grant (book.map change) := by
  have total (entries : List Entry) : totalUnits (entries.map change) = totalUnits entries := by
    simp [totalUnits, Function.comp_def, units]
  constructor
  case aggregate => rw [total]; exact holds.aggregate
  case rolling =>
    intro first last short
    have within : reservedWithin first last (book.map change) = (reservedWithin first last book).map change := by
      simp [reservedWithin, List.filter_map, Function.comp_def, times]
    rw [within, total]
    exact holds.rolling first last short

/-- The total of rows is the total of the entries that have their images. -/
theorem totalAmount_eq (same : rows.map rowImage = book.map Entry.image) :
    totalAmount rows = totalUnits book := by
  have amounts : rows.map ReservationRow.amount = (rows.map rowImage).map fun image => image.2.1 := by
    simp [rowImage, Function.comp_def]
  have entries : book.map Entry.units = (book.map Entry.image).map fun image => image.2.1 := by
    simp [Entry.image, Function.comp_def]
  rw [totalAmount, totalUnits, amounts, entries, same]

/-- The same for the rows and entries from an instant on. -/
theorem totalAmount_window (same : rows.map rowImage = book.map Entry.image) (start : Int) :
    totalAmount (rows.filter fun row => start ≤ row.reservedAt) =
      totalUnits (book.filter fun entry => start ≤ truncMicros entry.reservedAt) := by
  apply totalAmount_eq
  have filteredRows : (rows.filter fun row => start ≤ row.reservedAt).map rowImage =
      (rows.map rowImage).filter fun image => start ≤ image.2.2.1 := by
    rw [List.filter_map]
    rfl
  have filteredBook : (book.filter fun entry => start ≤ truncMicros entry.reservedAt).map Entry.image =
      (book.map Entry.image).filter fun image => start ≤ image.2.2.1 := by
    rw [List.filter_map]
    rfl
  rw [filteredRows, filteredBook, same]

end Sums

theorem CapsHold.reserve {grant : Grant} {book : List Entry} {occurrence : String}
    {units now : Int} (holds : CapsHold grant book) (positive : ∀ entry ∈ book, 0 < entry.units)
    (same : rows.map rowImage = book.map Entry.image)
    (aggregate : withinCap grant.aggregateCapBaseUnits (totalAmount rows + units) = true)
    (rolling : withinCap grant.rollingWindowCapBaseUnits
      (totalAmount (rows.filter fun row => truncMicros (now - grant.rollingWindow) ≤ row.reservedAt) + units) = true) :
    CapsHold grant (book ++ [⟨occurrence, units, now, false⟩]) := by
  have total (entries : List Entry) :
      totalUnits (entries ++ [⟨occurrence, units, now, false⟩]) = totalUnits entries + units := by
    simp [totalUnits]
  constructor
  case aggregate =>
    rw [total, ← totalAmount_eq same]
    exact aggregate
  case rolling =>
    intro first last short
    by_cases inside : first ≤ now ∧ now ≤ last
    · -- every entry of a short interval around `now` was counted in the window that ends at `now`
      have split : reservedWithin first last (book ++ [⟨occurrence, units, now, false⟩]) =
          reservedWithin first last book ++ [⟨occurrence, units, now, false⟩] := by
        simp [reservedWithin, List.filter_append, inside]
      rw [split, total]
      rw [totalAmount_window same] at rolling
      refine withinCap_le ?_ rolling
      have counted : (reservedWithin first last book).Sublist
          (book.filter fun entry => truncMicros (now - grant.rollingWindow) ≤ truncMicros entry.reservedAt) := by
        apply List.monotone_filter_right
        intro entry within
        simp only [Bool.and_eq_true, decide_eq_true_eq] at within ⊢
        apply truncMicros_mono
        omega
      have bounded := totalUnits_sublist (fun entry member => positive entry (List.mem_of_mem_filter member)) counted
      omega
    · have unchanged : reservedWithin first last (book ++ [⟨occurrence, units, now, false⟩]) =
          reservedWithin first last book := by
        simp only [reservedWithin, List.filter_append]
        have out : (decide (first ≤ now) && decide (now ≤ last)) = false := by
          simpa [Bool.and_eq_false_iff] using inside
        simp [out]
      rw [unchanged]
      exact holds.rolling first last short

section Reserve

variable {t : AutonomyTables} {scope : Scope} {grant : Grant} {occurrence amount : String} {now : Int}

theorem spendUnits_ok {units : Int} (passed : spendUnits scope grant amount = .ok units) :
    parseBig amount = some units ∧ 0 < units := by
  simp only [spendUnits, bind_ok] at passed
  obtain ⟨-, -, -, -, passed⟩ := passed
  split at passed
  · cases passed
  next parsed read =>
    simp only [bind_ok, rejectIf_ok, pure_ok] at passed
    obtain ⟨-, positive, rfl⟩ := passed
    exact ⟨read, by omega⟩

/-- A granted amount was reserved before, or fits under both caps and is inserted. -/
theorem reserveAutonomySpend_true (granted : (reserveAutonomySpend t scope grant occurrence amount now).1 = .ok true) :
    ∃ units, parseBig amount = some units ∧ 0 < units ∧
      ((∃ existing, Table.lookup ReservationRow.key (scope.tenantID, grant.id, grant.version, occurrence) t.reservations =
            some existing ∧ toString existing.amount = amount ∧
          (reserveAutonomySpend t scope grant occurrence amount now).2 = t) ∨
        (Table.lookup ReservationRow.key (scope.tenantID, grant.id, grant.version, occurrence) t.reservations = none ∧
          withinCap grant.aggregateCapBaseUnits
            (totalAmount (activeReservations t scope.tenantID grant.id grant.version) + units) = true ∧
          withinCap grant.rollingWindowCapBaseUnits
            (totalAmount ((activeReservations t scope.tenantID grant.id grant.version).filter fun row =>
              truncMicros (now - grant.rollingWindow) ≤ row.reservedAt) + units) = true ∧
          (reserveAutonomySpend t scope grant occurrence amount now).2 = { t with
            reservations := t.reservations ++
              [⟨scope.tenantID, grant.id, grant.version, occurrence, units, truncMicros now, .reserved⟩] })) := by
  simp only [reserveAutonomySpend] at granted ⊢
  cases checked : spendUnits scope grant amount with
  | error e => simp [checked] at granted
  | ok units =>
    obtain ⟨parsed, positive⟩ := spendUnits_ok checked
    refine ⟨units, parsed, positive, ?_⟩
    simp only [checked] at granted ⊢
    split at granted
    · cases granted
    next fits =>
      rw [if_neg fits]
      cases found : Table.lookup ReservationRow.key (scope.tenantID, grant.id, grant.version, occurrence) t.reservations with
      | some existing =>
        left
        simp only [found, Except.ok.injEq, decide_eq_true_eq] at granted
        exact ⟨existing, rfl, granted, rfl⟩
      | none =>
        right
        simp only [found] at granted
        -- the four refusals of a new reservation
        split_ifs at granted with aggregate rolling numeric known
        case neg =>
          rw [Bool.not_eq_false] at aggregate rolling
          refine ⟨rfl, aggregate, rolling, ?_⟩
          simp only [aggregate, rolling, numeric, known, Bool.true_eq_false, if_false]
        all_goals simp at granted

theorem reserveAutonomySpend_unchanged
    (refused : (reserveAutonomySpend t scope grant occurrence amount now).1 ≠ .ok true) :
    (reserveAutonomySpend t scope grant occurrence amount now).2 = t := by
  simp only [reserveAutonomySpend] at refused ⊢
  repeat' split
  all_goals first | rfl | simp_all

end Reserve

section Step

variable {tenantID : String} {grant : Grant} {t : AutonomyTables} {book : List Entry}

theorem mem_activeReservations :
    row ∈ activeReservations t tenantID grant.id grant.version ↔
      row ∈ t.reservations ∧ row.tenantID = tenantID ∧ row.grantID = grant.id ∧ row.grantVersion = grant.version ∧
        row.state.active = true := by
  simp [activeReservations, and_assoc]

/-- A stored row under the grant that was not released is active. -/
theorem active_of_lookup {occurrence : String}
    (found : Table.lookup ReservationRow.key (tenantID, grant.id, grant.version, occurrence) t.reservations = some row)
    (kept : row.state ≠ .released) :
    row ∈ activeReservations t tenantID grant.id grant.version ∧ row.occurrenceID = occurrence := by
  obtain ⟨key, stored⟩ := Table.lookup_some found
  simp only [ReservationRow.key, Prod.mk.injEq] at key
  obtain ⟨tenant, grantID, version, named⟩ := key
  refine ⟨mem_activeReservations.mpr ⟨stored, tenant, grantID, version, ?_⟩, named⟩
  cases state : row.state <;> simp_all [ReservationState.active]

/-- A change that keeps keys, and of the grant's active rows those with `kept` active. -/
theorem activeReservations_map (tenantID : String) (grant : Grant) (t : AutonomyTables)
    {change : ReservationRow → ReservationRow} (kept : ReservationRow → Bool) (keys : ∀ row, (change row).key = row.key)
    (live : ∀ row, row.tenantID = tenantID → row.grantID = grant.id → row.grantVersion = grant.version →
      (change row).state.active = (row.state.active && kept row)) :
    activeReservations { t with reservations := t.reservations.map change } tenantID grant.id grant.version =
      ((activeReservations t tenantID grant.id grant.version).filter kept).map change := by
  rw [activeReservations, activeReservations, List.filter_map, List.filter_filter]
  congr 1
  apply List.filter_congr
  intro row _
  have key := keys row
  simp only [ReservationRow.key, Prod.mk.injEq] at key
  by_cases ours : row.tenantID = tenantID ∧ row.grantID = grant.id ∧ row.grantVersion = grant.version
  · simp [key, ours, live row ours.1 ours.2.1 ours.2.2, Bool.and_comm]
  · have out : (decide (row.tenantID = tenantID) && decide (row.grantID = grant.id) &&
        decide (row.grantVersion = grant.version)) = false := by
      simpa [and_assoc] using ours
    simp [key, out]

/-- A change that keeps keys and leaves the rows of the grant. -/
theorem activeReservations_map_other {change : ReservationRow → ReservationRow} (keys : ∀ row, (change row).key = row.key)
    (leaves : ∀ row, row.tenantID = tenantID → row.grantID = grant.id → row.grantVersion = grant.version →
      change row = row) :
    activeReservations { t with reservations := t.reservations.map change } tenantID grant.id grant.version =
      activeReservations t tenantID grant.id grant.version := by
  rw [activeReservations_map tenantID grant t (fun _ => true) keys, List.filter_true]
  · refine (List.map_congr_left fun row active => ?_).trans (List.map_id _)
    obtain ⟨-, tenant, grantID, version, -⟩ := mem_activeReservations.mp active
    exact leaves row tenant grantID version
  · intro row tenant grantID version
    rw [leaves row tenant grantID version, Bool.and_true]

theorem commitReservation_key (tenantID grantID : String) (grantVersion : Nat) (occurrence : String)
    (row : ReservationRow) : (commitReservation tenantID grantID grantVersion occurrence row).key = row.key := by
  unfold commitReservation
  split <;> rfl

theorem releaseReservation_key (tenantID occurrence : String) (row : ReservationRow) :
    (releaseReservation tenantID occurrence row).key = row.key := by
  unfold releaseReservation
  split <;> rfl

variable (balanced : Balanced tenantID grant t book)
include balanced

theorem Balanced.entry_of_row
    (active : row ∈ activeReservations t tenantID grant.id grant.version) :
    ∃ entry ∈ book, entry.image = rowImage row := by
  rw [← List.mem_map, ← balanced.rows]
  exact List.mem_map_of_mem active

theorem Balanced.row_of_entry {entry : Entry} (listed : entry ∈ book) :
    ∃ row ∈ activeReservations t tenantID grant.id grant.version, rowImage row = entry.image := by
  rw [← List.mem_map, balanced.rows]
  exact List.mem_map_of_mem listed

theorem Balanced.amount_pos
    (active : row ∈ activeReservations t tenantID grant.id grant.version) : 0 < row.amount := by
  obtain ⟨entry, listed, same⟩ := balanced.entry_of_row active
  have units : entry.units = row.amount := congrArg (fun image => image.2.1) same
  rw [← units]
  exact balanced.positive entry listed

/-- Without a stored row for the occurrence there is no entry for it. -/
theorem Balanced.fresh {occurrence : String}
    (absent : Table.lookup ReservationRow.key (tenantID, grant.id, grant.version, occurrence) t.reservations = none) :
    book.all (fun entry => entry.occurrence ≠ occurrence) = true := by
  rw [List.all_eq_true]
  intro entry listed
  rw [decide_eq_true_eq]
  rintro rfl
  obtain ⟨row, active, same⟩ := balanced.row_of_entry listed
  obtain ⟨stored, tenant, grantID, version, -⟩ := mem_activeReservations.mp active
  have named : row.occurrenceID = entry.occurrence := congrArg (fun image => image.1) same
  have key : row.key = (tenantID, grant.id, grant.version, entry.occurrence) := by
    rw [ReservationRow.key, tenant, grantID, version, named]
  exact List.find?_eq_none.mp absent row stored (by simpa using key)

section ReserveCall

variable {scope : Scope} {asked : Grant} {occurrence amount : String} {now : Int}

/-- A reservation of another tenant or grant leaves the book. -/
theorem Balanced.reserve_other
    (other : ¬(scope.tenantID = tenantID ∧ asked.id = grant.id ∧ asked.version = grant.version)) :
    Balanced tenantID grant (reserveAutonomySpend t scope asked occurrence amount now).2 book := by
  by_cases granted : (reserveAutonomySpend t scope asked occurrence amount now).1 = .ok true
  · obtain ⟨units, -, -, ⟨existing, -, -, unchanged⟩ | ⟨-, -, -, inserted⟩⟩ := reserveAutonomySpend_true granted
    · rw [unchanged]
      exact balanced
    · rw [inserted]
      constructor
      case rows =>
        rw [← balanced.rows, activeReservations, activeReservations, List.filter_append, List.filter_cons_of_neg,
          List.filter_nil, List.append_nil]
        simpa [ReservationState.active, and_assoc] using other
      case positive => exact balanced.positive
      case caps => exact balanced.caps
  · rw [reserveAutonomySpend_unchanged granted]
    exact balanced

/-- A granted reservation under the grant is in the book afterwards, and the stored rows count it. -/
theorem Balanced.reserve_granted (tenant : scope.tenantID = tenantID)
    (kept : ∀ row ∈ t.reservations, row.key = (scope.tenantID, grant.id, grant.version, occurrence) →
      row.state ≠ .released)
    (granted : (reserveAutonomySpend t scope grant occurrence amount now).1 = .ok true) :
    Balanced tenantID grant (reserveAutonomySpend t scope grant occurrence amount now).2
      (if book.all (fun entry => entry.occurrence ≠ occurrence) then
        book ++ [⟨occurrence, (parseBig amount).getD 0, now, false⟩] else book) ∧
    CountedActive (reserveAutonomySpend t scope grant occurrence amount now).2 tenantID grant occurrence amount := by
  subst tenant
  obtain ⟨units, parsed, positive, ⟨existing, found, written, unchanged⟩ | ⟨absent, aggregate, rolling, inserted⟩⟩ :=
    reserveAutonomySpend_true granted
  · -- a repeated call: its row is active, so the book has the entry
    obtain ⟨key, stored⟩ := Table.lookup_some found
    obtain ⟨active, named⟩ := active_of_lookup found (kept existing stored key)
    obtain ⟨entry, listed, same⟩ := balanced.entry_of_row active
    have occurs : entry.occurrence = existing.occurrenceID := congrArg (fun image => image.1) same
    have known : ¬book.all (fun entry => entry.occurrence ≠ occurrence) = true := by
      intro all
      have differs := List.all_eq_true.mp all entry listed
      simp [occurs, named] at differs
    rw [if_neg known, unchanged]
    refine ⟨balanced, existing, active, named, ?_⟩
    obtain ⟨units, amountIs⟩ := Int.eq_ofNat_of_zero_le (balanced.amount_pos active).le
    rw [← written, amountIs]
    exact parseBig_toString units
  · rw [if_pos (balanced.fresh absent), inserted, parsed, Option.getD_some]
    constructor
    · constructor
      case rows =>
        simp only [activeReservations, List.filter_append, List.map_append]
        rw [← balanced.rows]
        simp [activeReservations, ReservationState.active, rowImage, Entry.image]
      case positive =>
        intro entry listed
        rcases List.mem_append.mp listed with old | new
        · exact balanced.positive entry old
        · rw [List.mem_singleton.mp new]
          exact positive
      case caps => exact balanced.caps.reserve balanced.positive balanced.rows aggregate rolling
    · refine ⟨⟨scope.tenantID, grant.id, grant.version, occurrence, units, truncMicros now, .reserved⟩, ?_, rfl, parsed⟩
      simp [activeReservations, ReservationState.active]

end ReserveCall

theorem Balanced.of_active {changed : AutonomyTables}
    (same : activeReservations changed tenantID grant.id grant.version =
      activeReservations t tenantID grant.id grant.version) : Balanced tenantID grant changed book where
  rows := by rw [same]; exact balanced.rows
  positive := balanced.positive
  caps := balanced.caps

/-- Marking entries and rows of an occurrence as committed keeps them in step. -/
theorem Balanced.commit (occurrence : String) :
    Balanced tenantID grant
      { t with reservations := t.reservations.map (commitReservation tenantID grant.id grant.version occurrence) }
      (book.map fun entry => if entry.occurrence = occurrence then { entry with committed := true } else entry) := by
  constructor
  case rows =>
    let mark (image : String × Int × Int × Bool) : String × Int × Int × Bool :=
      if image.1 = occurrence then (image.1, image.2.1, image.2.2.1, true) else image
    have entries : ∀ entry : Entry, Entry.image (if entry.occurrence = occurrence then
        { entry with committed := true } else entry) = mark entry.image := by
      intro entry
      by_cases named : entry.occurrence = occurrence <;> simp [mark, named, Entry.image]
    have rows : ∀ row ∈ activeReservations t tenantID grant.id grant.version,
        rowImage (commitReservation tenantID grant.id grant.version occurrence row) = mark (rowImage row) := by
      intro row active
      obtain ⟨-, tenant, grantID, version, live⟩ := mem_activeReservations.mp active
      by_cases named : row.occurrenceID = occurrence
      · cases state : row.state <;>
          simp_all [commitReservation, ReservationRow.key, rowImage, mark, ReservationState.active]
      · simp [commitReservation, ReservationRow.key, rowImage, mark, named]
    have live : ∀ row : ReservationRow,
        (commitReservation tenantID grant.id grant.version occurrence row).state.active = row.state.active := by
      intro row
      unfold commitReservation
      split
      next both => simp [both.2, ReservationState.active]
      next => rfl
    have active := activeReservations_map tenantID grant t (fun _ => true)
      (commitReservation_key tenantID grant.id grant.version occurrence) fun row _ _ _ => by rw [live, Bool.and_true]
    rw [List.filter_true] at active
    calc (activeReservations _ tenantID grant.id grant.version).map rowImage
        = (activeReservations t tenantID grant.id grant.version).map (fun row => mark (rowImage row)) := by
          rw [active, List.map_map]
          exact List.map_congr_left rows
      _ = ((activeReservations t tenantID grant.id grant.version).map rowImage).map mark := by
          rw [List.map_map, Function.comp_def]
      _ = (book.map Entry.image).map mark := by rw [balanced.rows]
      _ = _ := by
          rw [List.map_map, List.map_map]
          exact List.map_congr_left fun entry _ => (entries entry).symm
  case positive =>
    intro entry listed
    obtain ⟨old, member, rfl⟩ := List.mem_map.mp listed
    have units := balanced.positive old member
    split <;> exact units
  case caps =>
    apply balanced.caps.map
    · intro entry
      split <;> rfl
    · intro entry
      split <;> rfl

/-- What a release leaves: the rows that are committed or belong to another occurrence. -/
theorem Balanced.release (occurrence : String) :
    Balanced tenantID grant
      { t with reservations := t.reservations.map (releaseReservation tenantID occurrence) }
      (book.filter fun entry => entry.committed || entry.occurrence ≠ occurrence) := by
  have part : (book.filter fun entry => entry.committed || entry.occurrence ≠ occurrence).Sublist book :=
    List.filter_sublist
  constructor
  case rows =>
    have left := activeReservations_map tenantID grant t (fun row => row.state = .committed || row.occurrenceID ≠ occurrence)
      (releaseReservation_key tenantID occurrence) fun row tenant _ _ => by
        by_cases named : row.occurrenceID = occurrence <;> cases state : row.state <;>
          simp [releaseReservation, tenant, named, state, ReservationState.active]
    have images : (book.filter fun entry => entry.committed || entry.occurrence ≠ occurrence).map Entry.image =
        (book.map Entry.image).filter fun image => image.2.2.2 || image.1 ≠ occurrence := by
      rw [List.filter_map]
      rfl
    rw [left, images, ← balanced.rows, List.filter_map, List.map_map]
    apply List.map_congr_left
    intro row listed
    have kept := (List.mem_filter.mp listed).2
    rw [Function.comp_apply, releaseReservation, if_neg]
    rintro ⟨-, named, reserved⟩
    simp [named, reserved] at kept
  case positive => exact fun entry listed => balanced.positive entry (List.mem_of_mem_filter listed)
  case caps => exact balanced.caps.sublist balanced.positive part

theorem Balanced.perform {call : SpendCall}
    (ours : ForGrant tenantID grant call) (kept : KeepsReleased t call) :
    Balanced tenantID grant (call.perform t).2 (account tenantID grant book (call.perform t).1 call) := by
  cases call with
  | reserve scope asked occurrence amount now =>
    by_cases same : scope.tenantID = tenantID ∧ asked.id = grant.id ∧ asked.version = grant.version
    · obtain rfl := ours scope asked occurrence amount now rfl same.1 same.2.1 same.2.2
      by_cases granted : (reserveAutonomySpend t scope asked occurrence amount now).1 = .ok true
      · have next := (balanced.reserve_granted same.1 (kept scope asked occurrence amount now rfl) granted).1
        simpa only [SpendCall.perform, account, granted, same.1, true_and] using next
      · have refused : account tenantID asked book (reserveAutonomySpend t scope asked occurrence amount now).1
            (.reserve scope asked occurrence amount now) = book := by
          simp [account, granted]
        rw [SpendCall.perform, refused, reserveAutonomySpend_unchanged granted]
        exact balanced
    · have other : ∀ answer, account tenantID grant book answer (.reserve scope asked occurrence amount now) = book := by
        intro answer
        rw [account, if_neg]
        rintro ⟨tenant, id, version, -⟩
        exact same ⟨tenant, id, version⟩
      rw [other, SpendCall.perform]
      exact balanced.reserve_other same
  | commit tenant grantID grantVersion occurrence =>
    by_cases same : tenant = tenantID ∧ grantID = grant.id ∧ grantVersion = grant.version
    · obtain ⟨rfl, rfl, rfl⟩ := same
      have next := balanced.commit occurrence
      simpa only [SpendCall.perform, account, and_self, if_true] using next
    · rw [account, if_neg same]
      apply balanced.of_active
      apply activeReservations_map_other (commitReservation_key tenant grantID grantVersion occurrence)
      intro row isTenant isGrant isVersion
      rw [commitReservation, if_neg]
      rintro ⟨key, -⟩
      simp only [ReservationRow.key, Prod.mk.injEq] at key
      exact same ⟨key.1.symm.trans isTenant, key.2.1.symm.trans isGrant, key.2.2.1.symm.trans isVersion⟩
  | release scope occurrence =>
    simp only [SpendCall.perform, releaseAutonomySpend]
    cases scope.validate with
    | error e => simpa [account, Except.map] using balanced
    | ok _ =>
      by_cases same : scope.tenantID = tenantID
      · subst same
        have next := balanced.release occurrence
        simpa only [account, Except.map, and_self, if_true] using next
      · simp only [account, same, false_and, if_false]
        apply balanced.of_active
        apply activeReservations_map_other (releaseReservation_key scope.tenantID occurrence)
        intro row isTenant _ _
        rw [releaseReservation, if_neg]
        rintro ⟨tenant, -⟩
        exact same (tenant.symm.trans isTenant)

end Step

/-! ### Whole runs -/

theorem Balanced.run {tenantID : String} {grant : Grant} {t : AutonomyTables} {book : List Entry}
    {calls : List SpendCall} (balanced : Balanced tenantID grant t book)
    (fixed : ∀ call ∈ calls, ForGrant tenantID grant call) (kept : NeverReplaysReleased t calls) :
    SpendHolds tenantID grant t book calls := by
  induction calls generalizing t book with
  | nil => exact balanced.caps
  | cons call rest ih =>
    obtain ⟨keepsReleased, keptRest⟩ := kept
    have ours : ForGrant tenantID grant call := fixed call (.head _)
    refine ⟨balanced.caps, ?_, ?_⟩
    · rintro occurrence amount now ⟨scope, tenant, rfl⟩ granted
      rw [SpendCall.perform] at granted ⊢
      exact (balanced.reserve_granted tenant (keepsReleased scope grant occurrence amount now rfl) granted).2
    · apply ih (balanced.perform ours keepsReleased)
      · exact fun later member => fixed later (.tail _ member)
      · exact keptRest

theorem withinCap_zero {name cap : String} (valid : Grant.validateLimit name cap = .ok ()) : withinCap cap 0 = true := by
  simp only [Grant.validateLimit, rejectIf_ok, not_and, not_not] at valid
  simp only [withinCap, Bool.or_eq_true, decide_eq_true_eq]
  by_cases absent : cap = ""
  · exact .inl absent
  · obtain ⟨limit, parsed, positive⟩ := valid absent
    rw [Option.mem_def] at parsed
    rw [parsed]
    exact .inr positive.le

theorem CapsHold.empty {grant : Grant} (valid : grant.validate = .ok ()) : CapsHold grant [] := by
  simp only [Grant.validate, guard_ok] at valid
  obtain ⟨-, -, aggregate, rolling, -⟩ := valid
  constructor
  case aggregate => exact withinCap_zero aggregate
  case rolling => exact fun _ _ _ => withinCap_zero rolling

/-- From a store without rows of the grant, every sequence of calls that does not reserve again what was released
keeps the granted and unreleased amounts under both caps, and every granted amount is an active row. -/
theorem spend_caps_hold (tenantID : String) (grant : Grant) (t : AutonomyTables) (calls : List SpendCall)
    (valid : grant.validate = .ok ())
    (unused : ∀ row ∈ t.reservations, ¬(row.tenantID = tenantID ∧ row.grantID = grant.id ∧ row.grantVersion = grant.version))
    (fixed : ∀ call ∈ calls, ForGrant tenantID grant call) (kept : NeverReplaysReleased t calls) :
    SpendHolds tenantID grant t [] calls := by
  have empty : activeReservations t tenantID grant.id grant.version = [] := by
    rw [List.eq_nil_iff_forall_not_mem]
    intro row active
    obtain ⟨stored, tenant, grantID, version, -⟩ := mem_activeReservations.mp active
    exact unused row stored ⟨tenant, grantID, version⟩
  have balanced : Balanced tenantID grant t [] :=
    ⟨by rw [empty]; rfl, by simp, CapsHold.empty valid⟩
  exact balanced.run fixed kept

/-- A grant of ten units, and a store with two claimed occurrences. -/
def sampleGrant : Grant :=
  { id := "g", version := 1, principalUserID := "u", walletBindingID := "w", intent := .payroll, scheduleID := "",
    expiresAt := 9000, paused := false, revoked := false, perActionBaseUnits := "", aggregateCapBaseUnits := "10",
    rollingWindowCapBaseUnits := "10", rollingWindow := 1000, allowedRecipients := [], allowedTokens := [],
    allowedChains := [], stepUpAboveBaseUnits := "" }

def sampleScope : Scope := ⟨"t", "u", "r", ""⟩

def sampleOccurrence (id : String) : OccurrenceRow :=
  { tenantID := "t", occurrenceID := id, occurrenceKey := id, scheduleID := "s", scheduleVersion := 1,
    scheduleDigest := "", scheduledAt := 0, status := .claimed, grantID := "g", grantVersion := 1, intentID := none,
    approvalID := none, executionID := none, leaseOwner := none, leaseUntil := none, fence := 1, reasonCode := none,
    createdAt := 0 }

def sampleTables : AutonomyTables :=
  { schedules := [], occurrences := [sampleOccurrence "o1", sampleOccurrence "o2"], reservations := [],
    grants := [("t", "g", 1)], delegations := [], emergencyStops := [] }

def reserveSample (occurrence : String) : SpendCall := .reserve sampleScope sampleGrant occurrence "10" 5000

theorem sampleGrant_valid : sampleGrant.validate = .ok () := by decide +kernel

theorem reserveSample_forGrant (occurrence : String) : ForGrant "t" sampleGrant (reserveSample occurrence) := by
  intro scope asked occurrence amount now called _ _ _
  cases called
  rfl

/-- The store with these reservations for ten units. -/
def sampleReserved (rows : List (String × ReservationState)) : AutonomyTables :=
  { sampleTables with reservations := rows.map fun row => ⟨"t", "g", 1, row.1, 10, 5000, row.2⟩ }

theorem reserveSample_first : (reserveSample "o1").perform sampleTables = (.ok true, sampleReserved [("o1", .reserved)]) := by
  decide +kernel

theorem releaseSample_first : (SpendCall.release sampleScope "o1").perform (sampleReserved [("o1", .reserved)]) =
    (.ok true, sampleReserved [("o1", .released)]) := by
  decide +kernel

/-- Reserve, repeat, release, and reserve for the other occurrence. -/
theorem spend_caps_hold_released : SpendHolds "t" sampleGrant sampleTables []
    [reserveSample "o1", reserveSample "o1", .release sampleScope "o1", reserveSample "o2"] := by
  have repeated : (reserveSample "o1").perform (sampleReserved [("o1", .reserved)]) =
      (.ok true, sampleReserved [("o1", .reserved)]) := by decide +kernel
  apply spend_caps_hold "t" sampleGrant sampleTables _ sampleGrant_valid
  · simp [sampleTables]
  · intro call listed
    simp only [List.mem_cons, List.not_mem_nil, or_false] at listed
    rcases listed with rfl | rfl | rfl | rfl
    · exact reserveSample_forGrant "o1"
    · exact reserveSample_forGrant "o1"
    · intro _ _ _ _ _ called
      cases called
    · exact reserveSample_forGrant "o2"
  · simp only [NeverReplaysReleased, reserveSample_first, repeated, releaseSample_first]
    refine ⟨?_, ?_, ?_, ?_, trivial⟩
    all_goals
      intro _ _ _ _ _ called
      cases called
    · decide +kernel
    · decide +kernel
    · decide +kernel

/-- Both occurrences hold the ten units at once: the released one is granted again without a check. -/
theorem released_reservation_granted_again :
    ¬ SpendHolds "t" sampleGrant sampleTables []
      [reserveSample "o1", .release sampleScope "o1", reserveSample "o2", reserveSample "o1"] := by
  have other : (reserveSample "o2").perform (sampleReserved [("o1", .released)]) =
      (.ok true, sampleReserved [("o1", .released), ("o2", .reserved)]) := by decide +kernel
  have again : ((reserveSample "o1").perform (sampleReserved [("o1", .released), ("o2", .reserved)])).1 = .ok true := by
    decide +kernel
  simp only [SpendHolds, reserveSample_first, releaseSample_first, other, again]
  rintro ⟨-, -, -, -, -, -, -, -, exceeded⟩
  have aggregate := exceeded.aggregate
  revert aggregate
  decide +kernel

end WizPay.Autonomy
