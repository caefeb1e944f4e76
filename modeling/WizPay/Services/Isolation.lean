import WizPay.Services.Replay
import WizPay.Services.Visits

/-!
# What another user can do to `CreateIntent`

Whatever a second user of the tenant asks of the services leaves the first one's rows as
they were; but the unique keys of the intents belong to the tenant, and so does the
identifier that is derived from a client request ID.
-/
namespace WizPay.Services

open Checks GoText Threads Threads.Routine Intents Intents.Intent Storage Auth Exec

/-- The identifier of the event with which an intent is audited. -/
def createdEvent (requestID id : String) : String :=
  requestID ++ "/" ++ id ++ "/" ++ Audit.EventType.intentCreated.text

theorem createdEvent_inj {requestID otherID x y : String} (sized : x.toList.length = y.toList.length)
    (same : createdEvent requestID x = createdEvent otherID y) : x = y := by
  have lists := congrArg String.toList same
  simp only [createdEvent, String.toList_append] at lists
  obtain ⟨typed, -⟩ := List.append_inj' lists rfl
  obtain ⟨slashed, -⟩ := List.append_inj' typed rfl
  exact String.toList_inj.mp (List.append_inj' slashed sized).2

/-- The last letters of an event identifier are those of its type. -/
def lastLetters (text : String) : List Char := text.toList.reverse.take 4

theorem lastLetters_append (first : String) {last : String} (long : 4 ≤ last.toList.length) :
    lastLetters (first ++ last) = lastLetters last := by
  rw [lastLetters, lastLetters, String.toList_append, List.reverse_append, List.take_append_of_le_length]
  rwa [List.length_reverse]

theorem createdEvent_ne {requestID x first last : String} (long : 4 ≤ last.toList.length)
    (differs : lastLetters last ≠ lastLetters Audit.EventType.intentCreated.text) :
    first ++ last ≠ createdEvent requestID x := by
  intro same
  apply differs
  rw [← lastLetters_append first long, same]
  exact lastLetters_append _ (by decide)

/-! ### What the second user leaves alone -/

/-- The row is the second user's. -/
def ownedBy (tenantID userID : String) (r : IntentRow) : Bool :=
  r.tenantID = tenantID && r.params.ownership.userID = userID

/-- An audit record that can be taken for the creation of an intent belongs to a stored intent of the user. -/
def Explained (tenantID userID : String) (intents : List IntentRow) (a : AuditRow) : Prop :=
  ∀ requestID clientRequestID, a.record.event.eventID = createdEvent requestID (intentID tenantID clientRequestID) →
    ∃ r ∈ intents, ownedBy tenantID userID r = true ∧ r.params.intentID = intentID tenantID clientRequestID

/-- The tables `t` differ from `start` by what a user of the tenant has done. -/
structure Beside (tenantID userID : String) (start t : ApplicationTables) : Prop where
  bindings : t.bindings = start.bindings
  versions : t.bindingVersions = start.bindingVersions
  identities : t.identities = start.identities
  others : t.intents.filter (!ownedBy tenantID userID ·) = start.intents.filter (!ownedBy tenantID userID ·)
  keys : ∀ r ∈ start.intents, ∃ kept ∈ t.intents, ∀ row : IntentRow, row.collides kept = row.collides r
  audit : ∀ a ∈ start.execution.audit, a ∈ t.execution.audit
  added : ∀ a ∈ t.execution.audit, a ∈ start.execution.audit ∨ Explained tenantID userID t.intents a

variable {time : Int}

section Beside

variable {tenantID userID : String} {start t : ApplicationTables}

theorem Beside.refl (tenantID userID : String) (t : ApplicationTables) : Beside tenantID userID t t :=
  ⟨rfl, rfl, rfl, rfl, fun r member => ⟨r, member, fun _ => rfl⟩, fun _ member => member, fun _ member => .inl member⟩

theorem Explained.mono {intents more : List IntentRow} {a : AuditRow} (explained : Explained tenantID userID intents a)
    (kept : ∀ r ∈ intents, ∃ same ∈ more, ownedBy tenantID userID same = ownedBy tenantID userID r ∧
      same.params.intentID = r.params.intentID) : Explained tenantID userID more a := by
  intro requestID clientRequestID event
  obtain ⟨r, member, owned, named⟩ := explained requestID clientRequestID event
  obtain ⟨same, found, owner, name⟩ := kept r member
  exact ⟨same, found, owner.trans owned, name.trans named⟩

theorem Beside.record (beside : Beside tenantID userID start t) {a : AuditRow}
    (explained : Explained tenantID userID t.intents a) {requests : List RequestRow} {executions : List ExecutionRow}
    {revisions : List RevisionRow} {work : List WorkRow} {evidence : List EvidenceRow} {clock : Int} :
    Beside tenantID userID start { t with
      execution := ⟨requests, executions, revisions, work, evidence, t.execution.audit ++ [a], clock⟩ } := by
  refine { beside with audit := ?_, added := ?_ }
  · intro old member
    exact List.mem_append_left _ (beside.audit old member)
  · intro any member
    rcases List.mem_append.mp member with old | new
    · exact beside.added any old
    · rw [List.mem_singleton.mp new]
      exact .inr explained

theorem approvalEvents_differ : ∀ type ∈ Leaves.approvalEvents, 4 ≤ type.text.toList.length ∧
    lastLetters type.text ≠ lastLetters Audit.EventType.intentCreated.text := by decide

theorem explained_approval {scope : Scope} {type : Audit.EventType} (approval : type ∈ Leaves.approvalEvents)
    {a : Approvals.Approval} {previous : String} {intents : List IntentRow} :
    Explained tenantID userID intents ⟨scope.tenantID, approvalRecord scope type a previous time⟩ := by
  intro requestID clientRequestID event
  obtain ⟨long, differs⟩ := approvalEvents_differ type approval
  exact absurd event (createdEvent_ne long differs)

theorem beside_indifferent : Leaves.Indifferent (Beside tenantID userID start) where
  approvals _ _ beside := { beside with }
  evaluations _ _ beside := { beside with }
  records _ _ _ _ _ _ approval beside := beside.record (explained_approval approval)

/-! ### The services that write intents or executions -/

theorem Beside.insert (beside : Beside tenantID userID start t) {row : IntentRow}
    (owned : ownedBy tenantID userID row = true) :
    Beside tenantID userID start (ApplicationTables.addIntent t row) := by
  refine { beside with others := ?_, keys := ?_, added := ?_ }
  · simp only [ApplicationTables.addIntent, List.filter_append, List.filter_cons, owned, Bool.not_true,
      List.filter_nil, Bool.false_eq_true, if_false, List.append_nil]
    exact beside.others
  · intro r member
    obtain ⟨kept, found, same⟩ := beside.keys r member
    exact ⟨kept, List.mem_append_left _ found, same⟩
  · intro a member
    refine (beside.added a member).imp_right fun explained => explained.mono fun r stored => ?_
    exact ⟨r, List.mem_append_left _ stored, rfl, rfl⟩

/-- An update that spares the rows of a filter leaves what the filter keeps. -/
theorem filter_map_of_fixed {α : Type} {change : α → α} {keeps : α → Bool} (rows : List α)
    (same : ∀ row, keeps (change row) = keeps row) (fixed : ∀ row, keeps row = true → change row = row) :
    (rows.map change).filter keeps = rows.filter keeps := by
  induction rows with
  | nil => rfl
  | cons row rest ih =>
    rw [List.map_cons, List.filter_cons, List.filter_cons, same row, ih]
    split
    next kept => rw [fixed row kept]
    next => rfl

/-- Rows of the user get another status. -/
theorem Beside.update (beside : Beside tenantID userID start t) {u : IntentUpdate} (tenant : u.tenantID = tenantID)
    (actor : u.actorID = userID) :
    Beside tenantID userID start { t with intents := t.intents.map fun r => if u.selects r then u.apply r else r } := by
  have owned {r : IntentRow} (selected : u.selects r = true) : ownedBy tenantID userID r = true := by
    simp only [IntentUpdate.selects, IntentRow.identified, Bool.and_eq_true, decide_eq_true_eq] at selected
    simp only [ownedBy, Bool.and_eq_true, decide_eq_true_eq]
    exact ⟨selected.1.1.1.1.1.trans tenant, selected.1.1.1.2.trans actor⟩
  refine { beside with others := ?_, keys := ?_, added := ?_ }
  · rw [← beside.others]
    apply filter_map_of_fixed
    · intro r
      split <;> rfl
    · intro r other
      rw [if_neg fun selected => ?_]
      rw [owned selected] at other
      cases other
  · intro r member
    obtain ⟨kept, found, same⟩ := beside.keys r member
    refine ⟨_, List.mem_map_of_mem found, fun row => ?_⟩
    rw [← same row]
    split <;> rfl
  · intro a member
    refine (beside.added a member).imp_right fun explained => explained.mono fun r stored => ?_
    refine ⟨_, List.mem_map_of_mem stored, ?_⟩
    split <;> exact ⟨rfl, rfl⟩

variable {ctx : Context} {scope : Scope} (placed : scope.tenantID = tenantID ∧ scope.actorID = userID)
include placed

theorem beside_insert {row stored : IntentRow} {after : ApplicationTables} {value : Intent}
    (owner : value.params.ownership.userID = scope.actorID) (written : intentCreateParams scope.tenantID value = .ok row)
    (beside : Beside tenantID userID start t) (inserted : insertIntent row t = .ok (stored, after)) :
    Beside tenantID userID start after := by
  obtain ⟨kept, -, -, rfl⟩ := insertIntent_ok.mp inserted
  obtain ⟨-, rfl⟩ := storeInstants_ok.mp kept
  apply beside.insert
  simp only [intentCreateParams, bind_ok, pure_ok] at written
  obtain ⟨_, _, _, _, _, _, _, _, _, _, _, _, rfl⟩ := written
  simp [ownedBy, placed, owner]

omit placed in
/-- The audit record of a new intent comes after the intent's own row. -/
theorem beside_recorded {i : Intent} {clientRequestID : String}
    (named : i.params.intentID = intentID tenantID clientRequestID) {present : IntentRow}
    (owned : ownedBy tenantID userID present = true) (same : present.params.intentID = i.params.intentID) :
    Leaves (fun t => Beside tenantID userID start t ∧ present ∈ t.intents)
      (Repository.appendAudit scope (intentCreatedRecord scope i time)) fun _ => True := by
  apply Leaves.appendAudit
  rintro t ⟨beside, stored⟩
  refine ⟨beside.record ?_, stored⟩
  intro requestID other event
  refine ⟨present, stored, owned, same.trans ?_⟩
  refine createdEvent_inj ?_ event
  rw [named, length_intentID, length_intentID]

omit placed in
theorem beside_createIntent {command : CreateIntentCommand}
    (caller : ∀ scope, ctx.storageScope = .ok scope → scope.tenantID = tenantID ∧ scope.actorID = userID) :
    Leaves (Beside tenantID userID start) (createIntent ctx command) fun _ => True := by
  refine .bind (.check fun _ granted => granted) fun scope granted => .guarded fun _ => ?_
  refine .bind .findBindingByID fun _ _ => .guarded fun _ => .bind .now fun time _ => ?_
  refine .bind (.check fun _ frozen => frozen) fun value frozen => ?_
  have placed := caller scope (storageScope_of_scope granted)
  obtain ⟨valid, actor⟩ := scope_ok granted
  obtain ⟨faithful, owner, named⟩ := frozen_faithful actor frozen
  refine .bind_exec (.createIntent fun t row after stored owner written => beside_insert placed owner written) ?_
  rintro ⟨stored, created⟩ w after ended beside
  obtain ⟨rfl, -, outcome⟩ := (storeIntent_ok valid faithful owner).mp ended
  rcases outcome with ⟨rfl, -, rfl⟩ | ⟨rfl, -, rfl⟩
  · have owned : ownedBy tenantID userID (rowOf scope.tenantID stored) = true := by
      simp [ownedBy, rowOf, placed, owner]
    rw [placed.1] at named
    have recorded : Leaves (fun t => Beside tenantID userID start t ∧ rowOf scope.tenantID stored ∈ t.intents)
        (Repository.appendAudit scope (intentCreatedRecord scope stored time) >>= fun _ => pure stored) fun _ => True :=
      (beside_recorded named owned rfl).bind fun _ _ => .pure trivial
    simp only [if_true]
    exact (recorded.tables ⟨beside, List.mem_append_right _ (List.mem_singleton.mpr rfl)⟩).1
  · exact beside

theorem beside_awaitApproval {i : Intent} :
    Leaves (Beside tenantID userID start) (awaitApproval scope i time) fun _ => True := by
  unfold awaitApproval
  split
  · refine .guarded fun next => .updateIntent ?_
    intro t u row after _ tenant actor beside updated
    rw [updateIntent, bind_ok] at updated
    simp only [guard_ok, pure_ok, Prod.mk.injEq] at updated
    obtain ⟨_, -, -, -, -, rfl⟩ := updated
    exact ⟨beside.update (tenant.trans placed.1) (actor.trans placed.2), fun _ _ => trivial⟩
  · exact .pure trivial

omit placed in
theorem audit_insertExecution {e : ExecutionRow} {t after : ExecutionTables} (inserted : insertExecution e t = .ok after) :
    after.audit = t.audit := by
  rw [insertExecution_ok inserted]
  unfold createRuntimeWork
  split <;> rfl

omit placed in
theorem beside_createExecution {i : Intent} {a : Approvals.Approval} {operation : OperationIdentity}
    {result : Policies.Result} :
    Leaves (Beside tenantID userID start) (createExecution scope i a operation result) fun _ => True := by
  refine .bind .now fun _ _ => .guarded fun _ => .bind .now fun _ _ => .guarded fun _ => .guarded fun execution => ?_
  refine .bind .now fun time _ => ?_
  refine .bind (.consumeApprovalAndCreateExecution beside_indifferent ?_) fun _ _ => .pure trivial
  intro t request row stored after requested beside inserted created
  have same : after.audit = t.execution.audit := by
    rw [audit_insertExecution created, insertRequest_ok inserted]
  rw [same]
  apply beside.record
  intro requestID clientRequestID event
  exact absurd event (createdEvent_ne (by decide) (by decide))

omit placed in
theorem beside_prepareExecution {intentID approvalID policyID : String} {version : Nat} :
    Leaves (Beside tenantID userID start) (prepareExecution ctx intentID approvalID policyID version) fun _ => True := by
  refine .guarded fun _ => .guarded fun _ => .guarded fun _ => .bind (.findIntentByID fun _ _ _ _ _ _ => trivial) ?_
  intro i _
  refine .bind .findApprovalByID fun a _ => .guarded fun _ => .guarded fun operation => ?_
  split
  · refine .guarded fun _ => .bind (.attempt (.findExecutionByOperationKey fun _ _ _ _ _ _ => trivial)) fun _ _ => ?_
    exact .guarded fun _ => .guarded fun _ => .pure trivial
  · exact .bind (.evaluateForExecution beside_indifferent) fun _ _ => beside_createExecution

end Beside

/-- A call of a user of the tenant; the step-up's scope is the user's as well. -/
def Visit.By (v : Visit) (tenantID userID : String) : Prop :=
  (∀ scope, v.ctx.storageScope = .ok scope → scope.tenantID = tenantID ∧ scope.actorID = userID) ∧
    ∀ scope id, v.request = .stepUp scope id → scope.tenantID = tenantID ∧ scope.actorID = userID

theorem beside_visit {tenantID userID : String} {start t : ApplicationTables} {v : Visit} (by_user : v.By tenantID userID)
    (beside : Beside tenantID userID start t) : Beside tenantID userID start (visit t v) := by
  obtain ⟨ctx, request, clock⟩ := v
  refine Leaves.tables (Q := fun _ => True) ?_ (w := ⟨t, clock, 0⟩) beside
  exact .perform beside_indifferent (fun _ => beside_createIntent by_user.1)
    (fun scope id asked _ _ => beside_awaitApproval (by_user.2 scope id asked)) fun _ _ _ _ => beside_prepareExecution

theorem beside_visits {tenantID userID : String} {start : ApplicationTables} {calls : List Visit}
    (by_user : ∀ v ∈ calls, v.By tenantID userID) : Beside tenantID userID start (visits start calls) :=
  visits_keep (fun _ _ by_user beside => beside_visit by_user beside) (.refl tenantID userID start) by_user

section First

variable {tenantID userID : String} {start t : ApplicationTables} {scope : Scope} {row : IntentRow} {i : Intent}

/-- No row of the second user has a unique key of the given row. -/
def Unclaimed (tenantID userID : String) (t : ApplicationTables) (row : IntentRow) : Prop :=
  ∀ r ∈ t.intents, ownedBy tenantID userID r = true → row.collides r = false

theorem collides_of_found (found : findIntentByClientRequestID scope.tenantID i.params.clientRequestID scope.actorID t =
    .ok row) : t.intents.any ((rowOf scope.tenantID i).collides ·) = true := by
  have located := oneRow_ok.mp found
  have selected := List.find?_some located
  simp only [Bool.and_eq_true, decide_eq_true_eq] at selected
  exact List.any_eq_true.mpr ⟨row, List.mem_of_find?_eq_some located, by simp [IntentRow.collides, rowOf, selected]⟩

/-- A row of the client request ID has a key of the new row, so there is no need to look for another one. -/
theorem repeated_iff : Repeated t scope i ↔
    t.bindingVersions.any (providerRelates · (rowOf scope.tenantID i)) = true ∧
      (rowOf scope.tenantID i).satisfiesChecks = true ∧
      ∃ row, findIntentByClientRequestID scope.tenantID i.params.clientRequestID scope.actorID t = .ok row ∧
        intentFromRow row = .ok i := by
  constructor
  · rintro ⟨⟨provider, checks, -⟩, found⟩
    exact ⟨provider, checks, found⟩
  · rintro ⟨provider, checks, row, found, restored⟩
    exact ⟨⟨provider, checks, collides_of_found found⟩, row, found, restored⟩

variable (beside : Beside tenantID userID start t)
include beside

theorem Beside.mem_iff {r : IntentRow} (other : ownedBy tenantID userID r = false) :
    r ∈ t.intents ↔ r ∈ start.intents := by
  have same : r ∈ t.intents.filter (!ownedBy tenantID userID ·) ↔ r ∈ start.intents.filter (!ownedBy tenantID userID ·) := by
    rw [beside.others]
  simpa [List.mem_filter, other] using same

theorem Beside.fresh_iff :
    t.intents.any (row.collides ·) = false ↔
      start.intents.any (row.collides ·) = false ∧ Unclaimed tenantID userID t row := by
  simp only [List.any_eq_false, Bool.not_eq_true]
  constructor
  · intro fresh
    refine ⟨fun r member => ?_, fun r member _ => fresh r member⟩
    obtain ⟨kept, found, same⟩ := beside.keys r member
    rw [← same row]
    exact fresh kept found
  · rintro ⟨fresh, unclaimed⟩ r member
    cases owned : ownedBy tenantID userID r with
    | true => exact unclaimed r member owned
    | false => exact fresh r ((beside.mem_iff owned).mp member)

/-- The first user's rows are looked for among the rows that the second one leaves alone. -/
theorem Beside.find_eq {actorID id : String} (differs : actorID ≠ userID) :
    findIntentByClientRequestID tenantID id actorID t = findIntentByClientRequestID tenantID id actorID start := by
  have spared (rows : List IntentRow) :
      (rows.find? fun r => r.tenantID = tenantID && r.params.clientRequestID = id && r.params.ownership.userID = actorID) =
        (rows.filter (!ownedBy tenantID userID ·)).find? fun r =>
          r.tenantID = tenantID && r.params.clientRequestID = id && r.params.ownership.userID = actorID := by
    rw [List.find?_filter]
    congr 1
    funext r
    by_cases owner : r.params.ownership.userID = actorID
    · simp [ownedBy, owner, differs]
    · simp [owner]
  rw [findIntentByClientRequestID, findIntentByClientRequestID, spared, beside.others, ← spared]

theorem Beside.repeated_iff (tenant : scope.tenantID = tenantID)
    (differs : scope.actorID ≠ userID) : Repeated t scope i ↔ Repeated start scope i := by
  rw [Services.repeated_iff, Services.repeated_iff, beside.versions, tenant, beside.find_eq differs]

theorem Beside.audited_iff {clientRequestID : String}
    (named : i.params.intentID = intentID tenantID clientRequestID)
    (unclaimed : Unclaimed tenantID userID t (rowOf tenantID i)) :
    Audited t.execution.audit scope (intentCreatedRecord scope i time) ↔
      Audited start.execution.audit scope (intentCreatedRecord scope i time) := by
  constructor
  · rintro ⟨accepted, fresh⟩
    refine ⟨accepted, ?_⟩
    rw [List.any_eq_false] at fresh ⊢
    exact fun a member => fresh a (beside.audit a member)
  · rintro ⟨accepted, fresh⟩
    refine ⟨accepted, ?_⟩
    rw [List.any_eq_false] at fresh ⊢
    intro a member taken
    rcases beside.added a member with old | explained
    · exact fresh a old taken
    · -- a record of this event stands for a row with the same identifier
      simp only [Bool.and_eq_true, beq_iff_eq] at taken
      obtain ⟨r, stored, owned, same⟩ := explained scope.requestID clientRequestID
        (taken.2.trans (by rw [← named]; rfl))
      have placed : r.tenantID = tenantID := by
        simp only [ownedBy, Bool.and_eq_true, decide_eq_true_eq] at owned
        exact owned.1
      have clash := unclaimed r stored owned
      simp [IntentRow.collides, rowOf, placed, named, same] at clash

theorem Beside.inserted_iff :
    Inserted t row ↔ Inserted start row ∧ Unclaimed tenantID userID t row := by
  constructor
  · rintro ⟨⟨provider, checks, identity, binding⟩, fresh⟩
    rw [beside.versions] at provider binding
    rw [beside.identities] at identity
    obtain ⟨first, unclaimed⟩ := beside.fresh_iff.mp fresh
    exact ⟨⟨⟨provider, checks, identity, binding⟩, first⟩, unclaimed⟩
  · rintro ⟨⟨⟨provider, checks, identity, binding⟩, first⟩, unclaimed⟩
    rw [← beside.versions] at provider binding
    rw [← beside.identities] at identity
    exact ⟨⟨provider, checks, identity, binding⟩, beside.fresh_iff.mpr ⟨first, unclaimed⟩⟩

variable {ctx : Context} {command : CreateIntentCommand}

omit beside in
/-- The intent that a call returns, as a property of the tables it starts from. -/
theorem created_iff (granted : ctx.scope .createIntent = .ok scope) (t : ApplicationTables) (clock : Nat → Int) :
    (exec machine (createIntent ctx command) ⟨t, clock, 0⟩).1 = .ok i ↔
      Asked ctx command t.bindings (clock 0) scope i ∧ Storable i ∧
        ((Inserted t (rowOf scope.tenantID i) ∧
            Audited t.execution.audit scope (intentCreatedRecord scope i (clock 0))) ∨ Repeated t scope i) := by
  constructor
  · intro returned
    obtain ⟨own, asked, storable, outcome⟩ := createIntent_ok.mp (Prod.ext returned rfl)
    obtain rfl : own = scope := Except.ok.inj (asked.authority.symm.trans granted)
    exact ⟨asked, storable, outcome.imp (fun stored => ⟨stored.1, stored.2.1⟩) And.left⟩
  · rintro ⟨asked, storable, ⟨inserted, audited⟩ | repeated⟩
    · exact congrArg Prod.fst (createIntent_ok.mpr ⟨scope, asked, storable, .inl ⟨inserted, audited, rfl⟩⟩)
    · exact congrArg Prod.fst (createIntent_ok.mpr ⟨scope, asked, storable, .inr ⟨repeated, rfl⟩⟩)

omit beside in
/-- What the first user is answered after any requests of the second one is what they would have been answered without
them, exactly when the new intent, if there is one, has no unique key of an intent of the second user. -/
theorem creation_isolated {calls : List Visit} (granted : ctx.scope .createIntent = .ok scope)
    (tenant : scope.tenantID = tenantID) (differs : scope.actorID ≠ userID)
    (by_user : ∀ v ∈ calls, v.By tenantID userID) (clock : Nat → Int) :
    (∀ i, (exec machine (createIntent ctx command) ⟨visits start calls, clock, 0⟩).1 = .ok i ↔
        (exec machine (createIntent ctx command) ⟨start, clock, 0⟩).1 = .ok i) ↔
      ∀ i, (exec machine (createIntent ctx command) ⟨start, clock, 0⟩).1 = .ok i →
        (∃ row, findIntentByClientRequestID tenantID i.params.clientRequestID scope.actorID start = .ok row) ∨
          Unclaimed tenantID userID (visits start calls) (rowOf tenantID i) := by
  have beside : Beside tenantID userID start (visits start calls) := beside_visits by_user
  subst tenant
  simp only [created_iff granted, beside.bindings, beside.inserted_iff, beside.repeated_iff rfl differs]
  constructor
  · rintro same i ⟨asked, storable, outcome⟩
    obtain ⟨-, -, after⟩ := (same i).mpr ⟨asked, storable, outcome⟩
    rcases after with ⟨⟨-, unclaimed⟩, -⟩ | repeated
    · exact .inr unclaimed
    · obtain ⟨-, -, row, found, -⟩ := repeated_iff.mp repeated
      exact .inl ⟨row, found⟩
  · intro unclaimed i
    refine and_congr_right fun asked => and_congr_right fun storable => ?_
    have named := asked.faithful.2.2
    constructor
    · rintro (⟨⟨inserted, free⟩, audited⟩ | repeated)
      · exact .inl ⟨inserted, (beside.audited_iff named free).mp audited⟩
      · exact .inr repeated
    · rintro (⟨inserted, audited⟩ | repeated)
      · rcases unclaimed i ⟨asked, storable, .inl ⟨inserted, audited⟩⟩ with ⟨row, found⟩ | free
        · have taken := collides_of_found found
          rw [inserted.fresh] at taken
          cases taken
        · exact .inl ⟨⟨inserted, free⟩, (beside.audited_iff named free).mpr audited⟩
      · exact .inr repeated

end First

/-! ### Two sample users -/

def secondBinding : Wallet.Binding :=
  { sampleBinding with
    bindingID := "bind_2", userID := "user_2", walletID := "wal_2",
    address := "0x3333333333333333333333333333333333333333" }

theorem secondUser : SampleUser secondBinding where
  bound := by decide +kernel
  version := by decide
  authorized := by decide +kernel
  granted := by decide +kernel
  normal := by decide +kernel
  valid := by decide +kernel
  named := by decide +kernel
  clean := by decide +kernel

def twoUsers : ApplicationTables := sampleTables [sampleBinding, secondBinding]

/-- The first user's call, at the instant of the sample. -/
def firstCall (t : ApplicationTables) : Except Error Intent :=
  (exec machine (createIntent (sampleContext "user_1") (sampleCommand sampleBinding))
    ⟨t, fun _ => sampleSend.createdAt, 0⟩).1

/-- A call of the second user. -/
def secondCall (request : ServiceRequest) : Visit := ⟨sampleContext "user_2", request, fun _ => sampleSend.createdAt⟩

theorem firstCall_twoUsers : firstCall twoUsers = .ok (sampleIntent sampleBinding) := by
  have created : exec machine (createIntent (sampleContext "user_1") (sampleCommand sampleBinding))
      ⟨twoUsers, fun _ => sampleSend.createdAt, 0⟩ = (.ok (sampleIntent sampleBinding), _) :=
    sampleUser.created rfl (by decide) (.head _) (.head _) rfl rfl
  rw [firstCall, created]

theorem second_granted : (sampleContext "user_2").scope .createIntent = .ok (sampleScope "user_2") := secondUser.granted

theorem second_placed : (sampleContext "user_2").storageScope = .ok (sampleScope "user_2") :=
  storageScope_of_scope second_granted

theorem secondCall_by {request : ServiceRequest} (plain : ∀ scope id, request ≠ .stepUp scope id) :
    (secondCall request).By "tenant_1" "user_2" := by
  refine ⟨fun scope placed => ?_, fun scope id same => absurd same (plain scope id)⟩
  have same : sampleScope "user_2" = scope := Except.ok.inj (second_placed.symm.trans placed)
  rw [← same]
  exact ⟨rfl, rfl⟩

theorem visit_getIntent (t : ApplicationTables) (ctx : Context) (id : String) (clock : Nat → Int) :
    visit t ⟨ctx, .getIntent id, clock⟩ = t := by
  have reads : Leaves (· = t) (perform ctx (.getIntent id)) fun _ => True := .bind .getIntent fun _ _ => .pure trivial
  exact reads.tables (w := ⟨t, clock, 0⟩) rfl

theorem creation_isolated_from_a_read :
    firstCall (visits twoUsers [secondCall (.getIntent "int_1")]) = .ok (sampleIntent sampleBinding) := by
  have by_user : ∀ v ∈ [secondCall (.getIntent "int_1")], v.By "tenant_1" "user_2" := by
    intro v member
    rw [List.mem_singleton.mp member]
    exact secondCall_by (by simp)
  have unchanged : visits twoUsers [secondCall (.getIntent "int_1")] = twoUsers := by
    rw [visits, List.foldl_cons, List.foldl_nil]
    exact visit_getIntent _ _ _ _
  have first := firstCall_twoUsers
  rw [firstCall] at first ⊢
  refine ((creation_isolated sample_granted rfl (show "user_1" ≠ "user_2" by decide) by_user
    fun _ => sampleSend.createdAt).mpr (fun i _ => .inr ?_) _).mpr first
  rw [unchanged]
  intro r member
  cases member

/-- The second user has stored an intent with the first user's client request ID. -/
theorem same_client_request_id_refused :
    let request := ServiceRequest.createIntent (sampleCommand secondBinding)
    firstCall twoUsers = .ok (sampleIntent sampleBinding) ∧
      ∀ i, firstCall (visits twoUsers [secondCall request]) ≠ .ok i := by
  refine ⟨firstCall_twoUsers, fun i returned => ?_⟩
  have stored : visits twoUsers [secondCall (.createIntent (sampleCommand secondBinding))] =
      ApplicationTables.withIntent twoUsers (sampleScope "user_2") (sampleIntent secondBinding) sampleSend.createdAt := by
    have created : exec machine (createIntent (sampleContext "user_2") (sampleCommand secondBinding))
        ⟨twoUsers, fun _ => sampleSend.createdAt, 0⟩ = (.ok (sampleIntent secondBinding), _) :=
      secondUser.created rfl (by decide) (.tail _ (.head _))
        (.tail _ (.head _)) rfl rfl
    rw [visits, List.foldl_cons, List.foldl_nil, visit, secondCall, perform, exec_bind_of_ok created, exec_pure]
    rfl
  rw [firstCall, stored, created_iff sample_granted] at returned
  obtain ⟨asked, -, ⟨inserted, -⟩ | repeated⟩ := returned
  · have clash : (rowOf "tenant_1" i).collides (rowOf "tenant_1" (sampleIntent secondBinding)) = true := by
      have named : i.params.intentID = (sampleIntent secondBinding).params.intentID := asked.faithful.2.2
      simp [IntentRow.collides, rowOf, named]
    exact absurd clash (List.any_eq_false.mp inserted.fresh _ (List.mem_singleton.mpr rfl))
  · obtain ⟨-, -, row, found, -⟩ := repeated_iff.mp repeated
    have located := oneRow_ok.mp found
    have selected := List.find?_some located
    rw [List.mem_singleton.mp (List.mem_of_find?_eq_some located)] at selected
    simp only [Bool.and_eq_true, decide_eq_true_eq] at selected
    exact absurd selected.2 (show ¬ "user_2" = "user_1" by decide)

end WizPay.Services
