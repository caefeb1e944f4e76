import WizPay.Services.Creation

/-!
# What `CreateIntent` returns

A call that succeeds has inserted its row, or the caller's row of the same client request
ID holds this very intent already.
-/
namespace WizPay.Services

open Checks GoText GoTime Threads Threads.Routine Intents Storage Auth

/-- What a statement answers, and the world after it. -/
theorem exec_query (statement : Statement) (w : World) :
    exec machine (query statement) w =
      match statement.run w.tables with
      | .ok (row, tables) => (.ok (.ok row), { w with tables := tables })
      | .error e => (.ok (.error e), w) := by
  change (Except.ok (machine (.db statement) w).1, (machine (.db statement) w).2) = _
  cases ran : statement.run w.tables <;> simp only [machine, ran] <;> rfl

theorem exec_now (w : World) : exec machine now w = (.ok (w.clock w.reads), { w with reads := w.reads + 1 }) := rfl

variable {statement : Statement} {t after : ApplicationTables} {α : Type}

/-- A statement whose error ends the routine. -/
theorem exec_ask {f : Error → Error} {w last : World} {row : statement.Row} :
    exec machine (do
        let answer ← query statement
        check (answer.mapError f)) w = (.ok row, last) ↔
      ∃ tables, statement.run w.tables = .ok (row, tables) ∧ last = { w with tables := tables } := by
  rw [exec_bind, exec_query]
  cases ran : statement.run w.tables with
  | error e => simp [Except.mapError]
  | ok answer =>
    obtain ⟨found, tables⟩ := answer
    simp only [exec_check, Except.mapError, Prod.mk.injEq, Except.ok.injEq]
    constructor
    · rintro ⟨rfl, rfl⟩
      exact ⟨tables, ⟨rfl, rfl⟩, rfl⟩
    · rintro ⟨_, ⟨rfl, rfl⟩, rfl⟩
      exact ⟨rfl, rfl⟩

theorem exec_fetch {missing : Error} {w last : World} {row : statement.Row} :
    exec machine (fetch statement missing) w = (.ok row, last) ↔
      ∃ tables, statement.run w.tables = .ok (row, tables) ∧ last = { w with tables := tables } :=
  exec_ask

theorem read_ok {query : ApplicationTables → Except Error α} {row : α} :
    Statement.read query t = .ok (row, after) ↔ query t = .ok row ∧ after = t := by
  simp only [Statement.read, map_ok, Prod.mk.injEq]
  constructor
  · rintro ⟨_, found, rfl, rfl⟩
    exact ⟨found, rfl⟩
  · rintro ⟨found, rfl⟩
    exact ⟨_, found, rfl, rfl⟩

/-- A repository method that reads one row and restores its value. -/
theorem exec_lookup {scope : Scope} {missing : Error} {restore : statement.Row → Except Error α} {w last : World}
    {value : α} {query : ApplicationTables → Except Error statement.Row}
    (reads : ∀ t, statement.run t = Statement.read query t) :
    exec machine (do
        check scope.validate
        let row ← fetch statement missing
        check (restore row)) w = (.ok value, last) ↔
      scope.validate = .ok () ∧ (∃ row, query w.tables = .ok row ∧ restore row = .ok value) ∧ w = last := by
  simp only [exec_bind_eq_ok, exec_check, exec_fetch, reads, read_ok, Prod.mk.injEq]
  constructor
  · rintro ⟨_, _, ⟨valid, rfl⟩, row, _, ⟨_, ⟨found, rfl⟩, rfl⟩, restored, rfl⟩
    exact ⟨valid, ⟨row, found, restored⟩, rfl⟩
  · rintro ⟨valid, ⟨row, found, restored⟩, rfl⟩
    exact ⟨(), _, ⟨valid, rfl⟩, row, _, ⟨_, ⟨found, rfl⟩, rfl⟩, restored, rfl⟩

theorem findBindingByID_ok {scope : Scope} {id : String} {w last : World} {b : Wallet.Binding} :
    exec machine (Repository.findBindingByID scope id) w = (.ok b, last) ↔
      scope.validate = .ok () ∧
        (∃ row, findWalletBindingByID scope.tenantID id scope.actorID w.tables = .ok row ∧ walletFromRow row = .ok b) ∧
        w = last :=
  exec_lookup fun _ => rfl

theorem findIntentByClientRequestID_ok {scope : Scope} {id : String} {w last : World} {i : Intent} :
    exec machine (Repository.findIntentByClientRequestID scope id) w = (.ok i, last) ↔
      scope.validate = .ok () ∧
        (∃ row, findIntentByClientRequestID scope.tenantID id scope.actorID w.tables = .ok row ∧
          intentFromRow row = .ok i) ∧
        w = last :=
  exec_lookup fun _ => rfl

theorem oneRow_ok {found : Option α} {row : α} : oneRow found = .ok row ↔ found = some row := by
  cases found <;> simp [oneRow]

/-! ### The insert -/

/-- Everything that a new row needs apart from the unique keys. -/
structure Admitted (t : ApplicationTables) (row : IntentRow) : Prop where
  provider : t.bindingVersions.any (providerRelates · row) = true
  checks : row.satisfiesChecks = true
  identity : (t.identities.any fun i => i.tenantID = row.tenantID && i.userID = row.params.ownership.userID &&
    i.provider = row.params.ownership.identityProvider) = true
  binding : t.bindingVersions.any (relates · row) = true

def ApplicationTables.addIntent (t : ApplicationTables) (row : IntentRow) : ApplicationTables :=
  { t with intents := t.intents ++ [row] }

theorem insertIntent_ok {row stored : IntentRow} :
    insertIntent row t = .ok (stored, after) ↔
      storeInstants row = .ok stored ∧ Admitted t stored ∧ t.intents.any (stored.collides ·) = false ∧
        after = ApplicationTables.addIntent t stored := by
  rw [insertIntent, bind_ok]
  simp only [checks_ok, pure_ok, not_or, Bool.not_eq_false, Bool.not_eq_true, Prod.mk.injEq]
  constructor
  · rintro ⟨_, kept, provider, checks, fresh, ⟨identity, binding⟩, rfl, rfl⟩
    exact ⟨kept, ⟨provider, checks, identity, binding⟩, fresh, rfl⟩
  · rintro ⟨kept, ⟨provider, checks, identity, binding⟩, fresh, rfl⟩
    exact ⟨_, kept, provider, checks, fresh, ⟨identity, binding⟩, rfl, rfl⟩

/-- The keys of a row that cannot be inserted because they are taken. -/
structure Taken (t : ApplicationTables) (row : IntentRow) : Prop where
  provider : t.bindingVersions.any (providerRelates · row) = true
  checks : row.satisfiesChecks = true
  taken : t.intents.any (row.collides ·) = true

theorem insertIntent_taken {t : ApplicationTables} {row stored : IntentRow} (kept : storeInstants row = .ok stored)
    (taken : Taken t stored) : insertIntent row t = .error (.database .uniqueViolation) := by
  rw [insertIntent, kept]
  simp [bind, Except.bind, rejectIf, taken.provider, taken.checks, taken.taken]

/-- The only conflict of an insert is a row with one of its keys. -/
theorem insertIntent_conflict {t : ApplicationTables} {row : IntentRow} :
    FailsWith (fun e => Repository.isConflict (mapDatabaseError e) = true →
      ∃ stored, storeInstants row = .ok stored ∧ Taken t stored) (insertIntent row t) := by
  have constraint : ¬ Repository.isConflict (mapDatabaseError (.database .constraintViolation)) = true := by decide
  have out : ¬ Repository.isConflict (mapDatabaseError (.database .other)) = true := by decide
  refine .bind (.bind (.rejectIf (absurd · out)) fun _ _ => .ok) fun stored kept => ?_
  refine .bind (.rejectIf (absurd · constraint)) fun _ provider => ?_
  refine .bind (.rejectIf (absurd · constraint)) fun _ checks => ?_
  rw [rejectIf_ok, Bool.not_eq_false] at provider checks
  refine .bind (.rejectIf_of fun taken _ => ⟨stored, kept, provider, checks, taken⟩) fun _ _ => ?_
  exact .bind (.rejectIf (absurd · constraint)) fun _ _ => .ok

section Store

variable {scope : Scope} {value : Intent} {w last : World}

/-- The row is new, and nothing but the unique keys could have refused it. -/
structure Inserted (t : ApplicationTables) (row : IntentRow) : Prop where
  admitted : Admitted t row
  fresh : t.intents.any (row.collides ·) = false

/-- One of the row's keys is taken, and the caller's row of that client request ID holds the value itself. -/
structure Repeated (t : ApplicationTables) (scope : Scope) (value : Intent) : Prop where
  taken : Taken t (rowOf scope.tenantID value)
  found : ∃ row, findIntentByClientRequestID scope.tenantID value.params.clientRequestID scope.actorID t = .ok row ∧
    intentFromRow row = .ok value

theorem written_of_storable (storable : Storable value) (faithful : Faithful value) (tenantID : String) :
    intentCreateParams tenantID value = .ok (rowOf tenantID value) ∧
      storeInstants (rowOf tenantID value) = .ok (rowOf tenantID value) :=
  ⟨(intentCreateParams_ok faithful tenantID).mpr ⟨rfl, storable.version, storable.walletBindingVersion,
      storable.routeVersion, storable.lifecycleRevision, storable.payload⟩,
    (storeInstants_rowOf faithful.settled).mpr ⟨rfl, storable.columns⟩⟩

/-- The intent that the repository returns is always the one it was given. -/
theorem storeIntent_ok (placed : scope.validate = .ok ()) (faithful : Faithful value)
    (owner : value.params.ownership.userID = scope.actorID) {stored : Intent} {created : Bool} :
    exec machine (Repository.createIntent scope value) w = (.ok (stored, created), last) ↔
      stored = value ∧ Storable value ∧
        ((created = true ∧ Inserted w.tables (rowOf scope.tenantID value) ∧
            last = { w with tables := ApplicationTables.addIntent w.tables (rowOf scope.tenantID value) }) ∨
          (created = false ∧ Repeated w.tables scope value ∧ last = w)) := by
  constructor
  · intro ended
    simp only [Repository.createIntent, exec_bind_eq_ok, exec_check, Prod.mk.injEq] at ended
    obtain ⟨_, _, ⟨-, rfl⟩, _, _, ⟨-, rfl⟩, _, _, ⟨-, rfl⟩, row, _, ⟨written, rfl⟩, answer, after, asked, rest⟩ := ended
    obtain ⟨rfl, version, binding, route, revision, payload⟩ := (intentCreateParams_ok faithful _).mp written
    rw [exec_query] at asked
    cases ran : (Statement.insertIntent (rowOf scope.tenantID value)).run w.tables with
    | ok result =>
      obtain ⟨kept, tables⟩ := result
      rw [ran] at asked
      cases asked
      obtain ⟨stores, admitted, fresh, rfl⟩ := insertIntent_ok.mp ran
      obtain ⟨rfl, columns⟩ := (storeInstants_rowOf faithful.settled).mp stores
      simp only [exec_bind_eq_ok, exec_check, exec_pure, Prod.mk.injEq, Except.ok.injEq] at rest
      obtain ⟨restored, _, ⟨reads, rfl⟩, ⟨rfl, rfl⟩, rfl⟩ := rest
      rw [intentFromRow_rowOf faithful revision.1] at reads
      cases reads
      exact ⟨rfl, ⟨version, binding, route, revision, payload, columns⟩, .inl ⟨rfl, ⟨admitted, fresh⟩, rfl⟩⟩
    | error e =>
      rw [ran] at asked
      cases asked
      simp only [exec_bind_eq_ok, exec_check, exec_attempt, Prod.mk.injEq, Except.ok.injEq, rejectIf_ok,
        Bool.not_eq_false] at rest
      obtain ⟨_, _, ⟨conflict, rfl⟩, existing, _, ⟨found, rfl⟩, rest⟩ := rest
      obtain ⟨kept, stores, taken⟩ := insertIntent_conflict e ran conflict
      obtain ⟨rfl, columns⟩ := (storeInstants_rowOf faithful.settled).mp stores
      cases existing with
      | error _ => cases rest
      | ok existing =>
        have lookup : exec machine (Repository.findIntentByClientRequestID scope value.params.clientRequestID) w =
            (.ok existing, (exec machine (Repository.findIntentByClientRequestID scope
              value.params.clientRequestID) w).2) := Prod.ext found rfl
        obtain ⟨-, row, same⟩ := findIntentByClientRequestID_ok.mp lookup
        rw [← same] at rest
        simp only [exec_bind_eq_ok, exec_check, exec_pure, Prod.mk.injEq, Except.ok.injEq, rejectIf_ok, not_not] at rest
        obtain ⟨_, _, ⟨rfl, rfl⟩, ⟨rfl, rfl⟩, rfl⟩ := rest
        exact ⟨rfl, ⟨version, binding, route, revision, payload, columns⟩, .inr ⟨rfl, ⟨taken, row⟩, rfl⟩⟩
  · rintro ⟨rfl, storable, outcome⟩
    obtain ⟨written, stores⟩ := written_of_storable storable faithful scope.tenantID
    have valid := faithful.validate storable.lifecycleRevision.1
    simp only [Repository.createIntent, exec_bind_eq_ok, exec_check, Prod.mk.injEq]
    refine ⟨(), w, ⟨placed, rfl⟩, (), w, ⟨valid, rfl⟩, (), w, ⟨by simp [owner], rfl⟩, _, w, ⟨written, rfl⟩, ?_⟩
    rcases outcome with ⟨rfl, inserted, rfl⟩ | ⟨rfl, repeated, rfl⟩
    · have ran : (Statement.insertIntent (rowOf scope.tenantID stored)).run w.tables = .ok _ :=
        insertIntent_ok.mpr ⟨stores, inserted.admitted, inserted.fresh, rfl⟩
      refine ⟨_, _, by rw [exec_query, ran], ?_⟩
      simp only [exec_bind_eq_ok, exec_check, exec_pure, Prod.mk.injEq]
      exact ⟨_, _, ⟨intentFromRow_rowOf faithful storable.lifecycleRevision.1 _, rfl⟩, rfl, rfl⟩
    · have ran : (Statement.insertIntent (rowOf scope.tenantID stored)).run last.tables = .error _ :=
        insertIntent_taken stores repeated.taken
      have found := findIntentByClientRequestID_ok.mpr ⟨placed, repeated.found, rfl⟩
      refine ⟨.error (.database .uniqueViolation), last, by rw [exec_query, ran], ?_⟩
      simp only [exec_bind_eq_ok, exec_check, Prod.mk.injEq, rejectIf_ok]
      refine ⟨(), last, ⟨by decide, rfl⟩, .ok stored, last, by rw [exec_attempt, found], ?_⟩
      simp [exec_bind_eq_ok]

end Store

section Create

variable {ctx : Context} {command : CreateIntentCommand} {scope : Scope} {i : Intent} {w last : World}

/-- The intent that a command asks for at an instant; of the tables only the wallet bindings matter. -/
structure Asked (ctx : Context) (command : CreateIntentCommand) (bindings : List BindingRow) (time : Int) (scope : Scope)
    (i : Intent) : Prop where
  authority : ctx.scope .createIntent = .ok scope
  frozen : ∃ request row b, ctx.trustedRequest = .ok request ∧
    (bindings.find? fun r => r.tenantID = scope.tenantID && r.binding.bindingID = command.walletBindingID &&
      r.binding.userID = scope.actorID) = some row ∧
    walletFromRow row = .ok b ∧ b.ensureAuthorizable scope.actorID = .ok () ∧
    frozenIntent (intentParams scope request.principal.identityProvider b command time) time = .ok i

/-- The audit record of a new intent passes its checks and its event is new in the tenant. -/
structure Audited (audit : List AuditRow) (scope : Scope) (record : Audit.Record) : Prop where
  accepted : auditParams scope record = .ok ⟨scope.tenantID, record⟩
  fresh : (audit.any fun a => a.tenantID == scope.tenantID && a.record.event.eventID == record.event.eventID) = false

/-- The tables after an intent was stored and audited. -/
def ApplicationTables.withIntent (t : ApplicationTables) (scope : Scope) (i : Intent) (time : Int) : ApplicationTables :=
  { t with
    intents := t.intents ++ [rowOf scope.tenantID i],
    execution := { t.execution with
      audit := t.execution.audit ++ [⟨scope.tenantID, intentCreatedRecord scope i time⟩] } }

theorem auditParams_ok {record : Audit.Record} {row : AuditRow} (accepted : auditParams scope record = .ok row) :
    row = ⟨scope.tenantID, record⟩ := by
  simp only [auditParams, guard_ok, pure_ok] at accepted
  exact accepted.2.2.2.symm

theorem insertAudit_ok {row : AuditRow} :
    onExecution (Storage.appendAudit row) t = .ok ((), after) ↔
      (t.execution.audit.any fun a =>
        a.tenantID == row.tenantID && a.record.event.eventID == row.record.event.eventID) = false ∧
      after = { t with execution := { t.execution with audit := t.execution.audit ++ [row] } } := by
  rw [onExecution, bind_ok]
  simp only [Storage.appendAudit, checks_ok, pure_ok, Prod.mk.injEq, true_and, Bool.not_eq_true]
  constructor
  · rintro ⟨_, ⟨fresh, rfl⟩, rfl⟩
    exact ⟨fresh, rfl⟩
  · rintro ⟨fresh, rfl⟩
    exact ⟨_, ⟨fresh, rfl⟩, rfl⟩

theorem appendAudit_exec {record : Audit.Record} :
    exec machine (Repository.appendAudit scope record) w = (.ok (), last) ↔
      Audited w.tables.execution.audit scope record ∧
        last = { w with tables := { w.tables with
          execution := { w.tables.execution with
            audit := w.tables.execution.audit ++ [⟨scope.tenantID, record⟩] } } } := by
  rw [Repository.appendAudit, exec_bind_eq_ok]
  constructor
  · rintro ⟨row, after, checked, asked⟩
    obtain ⟨accepted, rfl⟩ := Prod.mk.inj checked
    obtain rfl := auditParams_ok accepted
    obtain ⟨tables, ran, rfl⟩ := exec_ask.mp asked
    obtain ⟨fresh, rfl⟩ := insertAudit_ok.mp ran
    exact ⟨⟨accepted, fresh⟩, rfl⟩
  · rintro ⟨⟨accepted, fresh⟩, rfl⟩
    exact ⟨_, w, Prod.ext accepted rfl, exec_ask.mpr ⟨_, insertAudit_ok.mpr ⟨fresh, rfl⟩, rfl⟩⟩

theorem scope_ok {permission : Permission} (granted : ctx.scope permission = .ok scope) :
    scope.validate = .ok () ∧ trimSpace scope.actorID = scope.actorID := by
  simp only [Context.scope, Context.storageScope, bind_ok] at granted
  obtain ⟨-, -, -, -, request, -, built⟩ := granted
  have same := newScope_ok built
  have actor : trimSpace scope.actorID = scope.actorID := by simp [same]
  refine ⟨?_, actor⟩
  simp only [Scope.validate, bind_ok]
  refine ⟨scope, ?_, rfl⟩
  rw [← built, same]
  simp only [newScope, trimSpace_idempotent]

theorem frozen_faithful {provider : String} {b : Wallet.Binding} {time : Int}
    (actor : trimSpace scope.actorID = scope.actorID)
    (frozen : frozenIntent (intentParams scope provider b command time) time = .ok i) :
    Faithful i ∧ i.params.ownership.userID = scope.actorID ∧
      i.params.intentID = intentID scope.tenantID command.clientRequestID := by
  obtain ⟨valid, rfl⟩ := (frozenIntent_ok (p := intentParams _ _ _ _ _)).mp frozen
  refine ⟨faithful_of_validate (Params.frozen_valid valid rfl (by decide) (by decide)) (settled_normalizeCreation _),
    actor, ?_⟩
  exact trimSpace_graphic (graphic_intentID _ _)

theorem Asked.faithful {bindings : List BindingRow} {time : Int} (asked : Asked ctx command bindings time scope i) :
    Faithful i ∧ i.params.ownership.userID = scope.actorID ∧
      i.params.intentID = intentID scope.tenantID command.clientRequestID := by
  obtain ⟨request, row, b, -, -, -, -, frozen⟩ := asked.frozen
  exact frozen_faithful (scope_ok asked.authority).2 frozen

theorem createIntent_ok :
    exec machine (createIntent ctx command) w = (.ok i, last) ↔
      ∃ scope, Asked ctx command w.tables.bindings (w.clock w.reads) scope i ∧ Storable i ∧
        ((Inserted w.tables (rowOf scope.tenantID i) ∧
            Audited w.tables.execution.audit scope (intentCreatedRecord scope i (w.clock w.reads)) ∧
            last = { w with
              tables := ApplicationTables.withIntent w.tables scope i (w.clock w.reads), reads := w.reads + 1 }) ∨
          (Repeated w.tables scope i ∧ last = { w with reads := w.reads + 1 })) := by
  constructor
  · intro ended
    simp only [createIntent, exec_bind_eq_ok, exec_check, findBindingByID_ok, exec_now, Prod.mk.injEq, Except.ok.injEq]
      at ended
    obtain ⟨scope, _, ⟨granted, rfl⟩, request, _, ⟨trusted, rfl⟩, b, _, ⟨placed, ⟨row, found, restored⟩, rfl⟩, _, _,
      ⟨authorized, rfl⟩, time, _, ⟨rfl, rfl⟩, value, _, ⟨frozen, rfl⟩, ⟨stored, created⟩, after, stores, rest⟩ := ended
    have asked : Asked ctx command w.tables.bindings (w.clock w.reads) scope value :=
      ⟨granted, request, row, b, trusted, oneRow_ok.mp found, restored, authorized, frozen⟩
    obtain ⟨faithful, owner, -⟩ := asked.faithful
    obtain ⟨rfl, storable, outcome⟩ := (storeIntent_ok placed faithful owner).mp stores
    rcases outcome with ⟨rfl, inserted, rfl⟩ | ⟨rfl, repeated, rfl⟩
    · simp only [if_true, exec_bind_eq_ok, exec_pure, Prod.mk.injEq, Except.ok.injEq] at rest
      obtain ⟨_, _, recorded, rfl, rfl⟩ := rest
      obtain ⟨audited, rfl⟩ := appendAudit_exec.mp recorded
      exact ⟨scope, asked, storable, .inl ⟨inserted, audited, rfl⟩⟩
    · cases rest
      exact ⟨scope, asked, storable, .inr ⟨repeated, rfl⟩⟩
  · rintro ⟨scope, asked, storable, outcome⟩
    obtain ⟨faithful, owner, -⟩ := asked.faithful
    obtain ⟨placed, -⟩ := scope_ok asked.authority
    obtain ⟨request, row, b, trusted, found, restored, authorized, frozen⟩ := asked.frozen
    simp only [createIntent, exec_bind_eq_ok, exec_check, findBindingByID_ok, exec_now, Prod.mk.injEq, Except.ok.injEq]
    refine ⟨scope, w, ⟨asked.authority, rfl⟩, request, w, ⟨trusted, rfl⟩, b, w,
      ⟨placed, ⟨row, oneRow_ok.mpr found, restored⟩, rfl⟩, (), w, ⟨authorized, rfl⟩, _, _, ⟨rfl, rfl⟩, i, _,
      ⟨frozen, rfl⟩, ?_⟩
    rcases outcome with ⟨inserted, audited, rfl⟩ | ⟨repeated, rfl⟩
    · refine ⟨(i, true), _, (storeIntent_ok placed faithful owner).mpr ⟨rfl, storable, .inl ⟨rfl, inserted, rfl⟩⟩, ?_⟩
      simp only [if_true, exec_bind_eq_ok, exec_pure, Prod.mk.injEq, true_and]
      exact ⟨(), _, appendAudit_exec.mpr ⟨audited, rfl⟩, rfl⟩
    · exact ⟨(i, false), _, (storeIntent_ok placed faithful owner).mpr ⟨rfl, storable, .inr ⟨rfl, repeated, rfl⟩⟩, rfl⟩

end Create

/-! ### A sample call -/

def sampleContext (actorID : String) : Context :=
  ⟨some ⟨samplePrincipal actorID, sampleIdentity actorID, "request_1", "client_1", ""⟩, none⟩

/-- A user whose sample command passes every check that reads no table but the binding's. -/
structure SampleUser (b : Wallet.Binding) : Prop where
  bound : Wallet.newBinding b = .ok b
  version : b.version ≠ 0 ∧ b.version ≤ 2 ^ 63 - 1
  authorized : b.ensureAuthorizable b.userID = .ok ()
  granted : (sampleContext b.userID).scope .createIntent = .ok (sampleScope b.userID)
  normal : normalizeCreation (sendOf b) = sendOf b
  valid : (sendOf b).validate = .ok ()
  named : Audit.safeField "actor ID" b.userID true = .ok ()
  clean : [b.userID, b.bindingID].any Audit.containsForbidden = false

section Sample

variable {b : Wallet.Binding}

theorem SampleUser.asked (user : SampleUser b) {bindings : List BindingRow}
    (found : (bindings.find? fun r => r.tenantID = "tenant_1" && r.binding.bindingID = b.bindingID &&
      r.binding.userID = b.userID) = some ⟨"tenant_1", b⟩) :
    Asked (sampleContext b.userID) (sampleCommand b) bindings sampleSend.createdAt (sampleScope b.userID)
      (sampleIntent b) := by
  obtain ⟨request, trusted⟩ : ∃ request, (sampleContext b.userID).trustedRequest = .ok request := by
    have granted := user.granted
    rw [Context.scope, bind_ok] at granted
    obtain ⟨request, trusted, -⟩ := granted
    exact ⟨request, trusted⟩
  have provider : request.principal.identityProvider = "https://connect.wizpay.xyz" := by
    simp only [Context.trustedRequest, sampleContext] at trusted
    split at trusted
    next => cases trusted; rfl
    next => cases trusted
  have restored : walletFromRow ⟨"tenant_1", b⟩ = .ok b := by
    simp only [walletFromRow, bind_ok, domainVersion_ok]
    exact ⟨b.version, ⟨user.version.1, rfl⟩, user.bound⟩
  refine ⟨user.granted, request, _, b, trusted, found, restored, user.authorized, ?_⟩
  rw [provider]
  exact frozenIntent_sample user.normal user.valid

theorem SampleUser.storable (user : SampleUser b) : Storable (sampleIntent b) where
  version := show sampleSend.version ≤ 2 ^ 63 - 1 by decide
  walletBindingVersion := user.version.2
  routeVersion := show sampleSend.route.version ≤ 2 ^ 63 - 1 by decide
  lifecycleRevision := show 2 ≠ 0 ∧ 2 ≤ 2 ^ 63 - 1 by decide
  payload := show (instants sampleSend.financial).all jsonYear = true by decide
  columns := show [sampleSend.createdAt, sampleSend.expiresAt, sampleSend.constraints.deadline].all timestamptzRange =
    true by decide

theorem sampleIntent_checks (user : SampleUser b) : (rowOf "tenant_1" (sampleIntent b)).satisfiesChecks = true := by
  have positive := Nat.pos_of_ne_zero user.version.1
  have digest : (rowOf "tenant_1" (sampleIntent b)).intentDigest.isSome = true := by
    simp [rowOf, sampleIntent, Params.frozen, dbOptionalString]
  have key : (rowOf "tenant_1" (sampleIntent b)).operationKey.isSome = true := by
    simp [rowOf, sampleIntent, Params.frozen, dbOptionalString, operationKeyOf_ne_empty]
  have columns : (decide (0 < sampleSend.version) && sampleSend.type.valid && decide (0 < sampleSend.route.version) &&
      sampleSend.route.type.valid && decide (sampleSend.createdAt < sampleSend.expiresAt) &&
      decide (sampleSend.createdAt ≤ sampleSend.constraints.deadline) &&
      decide (sampleSend.constraints.deadline ≤ sampleSend.expiresAt)) = true := by decide
  simp only [Bool.and_eq_true] at columns
  obtain ⟨⟨⟨⟨⟨⟨version, type⟩, route⟩, routeType⟩, period⟩, started⟩, ended⟩ := columns
  simp only [IntentRow.satisfiesChecks, digest, key, Bool.and_eq_true, Bool.true_and]
  exact ⟨⟨⟨⟨⟨⟨⟨⟨⟨⟨version, type⟩, decide_eq_true positive⟩, routeType⟩, route⟩, rfl⟩, rfl⟩, rfl⟩, period⟩, started⟩, ended⟩

theorem safeField_intentID (tenantID clientRequestID : String) :
    Audit.safeField "resource ID" (intentID tenantID clientRequestID) true = .ok () := by
  have graphic := graphic_intentID tenantID clientRequestID
  have sized := length_intentID tenantID clientRequestID
  simp [Audit.safeField, rejectIf_ok, intentID_ne_empty, len_graphic graphic, sized, hasControl_graphic graphic]

theorem SampleUser.audited (user : SampleUser b) {audit : List AuditRow} (empty : audit = []) :
    Audited audit (sampleScope b.userID) (intentCreatedRecord (sampleScope b.userID) (sampleIntent b)
      sampleSend.createdAt) := by
  subst empty
  refine ⟨?_, rfl⟩
  simp only [auditParams, checks_ok, pure_ok, and_true]
  refine ⟨(scope_ok user.granted).1, ?_, ?_⟩
  · simp only [Audit.Record.validate, checks_ok]
    have fields : ∀ field ∈ [("actor type", "user", true), ("request ID", "request_1", true),
        ("resource type", "intent", true), ("source component", "intent.service", true), ("trace ID", "", false),
        ("previous state", "", false), ("new state", "CREATED", false), ("safe reason code", "", false)],
        Audit.safeField field.1 field.2.1 field.2.2 = .ok () := by decide +kernel
    simp only [List.forall_mem_cons, List.not_mem_nil, false_implies, implies_true, and_true] at fields
    obtain ⟨actorType, requestID, resourceType, component, trace, previous, new, reason⟩ := fields
    refine ⟨?_, actorType, user.named, requestID, resourceType, safeField_intentID _ _, component, trace, previous,
      new, reason, ?_⟩
    · rintro (empty | zero)
      · simp [intentCreatedRecord, String.append_eq_empty_iff, sampleScope] at empty
      · exact absurd zero (show ¬ isZero sampleSend.createdAt = true by decide)
    · have plain : ["user", "request_1", "", "intent", "intent.service"].any Audit.containsForbidden = false := by
        decide +kernel
      have identifier : Audit.containsForbidden (intentID "tenant_1" "req_1") = false :=
        Audit.containsForbidden_hash (by decide +kernel) _
      have digest : Audit.containsForbidden (sampleIntent b).digest = false :=
        Audit.containsForbidden_hash (by decide +kernel) _
      have clean := user.clean
      simp only [List.any_cons, List.any_nil, Bool.or_false, Bool.or_eq_false_iff] at plain clean
      have owned : (sampleIntent b).params.ownership = ownerOf b.userID "https://connect.wizpay.xyz" b := rfl
      have named : (sampleIntent b).params.intentID = intentID "tenant_1" "req_1" := rfl
      simp only [Audit.Record.auditedTexts, intentCreatedRecord, sampleScope, owned, named, ownerOf, List.any_cons,
        List.any_nil, identifier, digest, plain, clean, Bool.or_false, Bool.false_eq_true, not_false_iff]
  · simp [intentCreatedRecord]

/-- The sample command of a user who is known to the tables is stored. -/
theorem SampleUser.created (user : SampleUser b) {w : World} (time : w.clock w.reads = sampleSend.createdAt)
    (found : (w.tables.bindings.find? fun r => r.tenantID = "tenant_1" && r.binding.bindingID = b.bindingID &&
      r.binding.userID = b.userID) = some ⟨"tenant_1", b⟩)
    (version : ⟨"tenant_1", b⟩ ∈ w.tables.bindingVersions)
    (identity : ⟨"tenant_1", b.userID, "https://connect.wizpay.xyz"⟩ ∈ w.tables.identities)
    (fresh : w.tables.intents = []) (silent : w.tables.execution.audit = []) :
    exec machine (createIntent (sampleContext b.userID) (sampleCommand b)) w =
      (.ok (sampleIntent b), { w with
        tables := ApplicationTables.withIntent w.tables (sampleScope b.userID) (sampleIntent b) sampleSend.createdAt,
        reads := w.reads + 1 }) := by
  rw [createIntent_ok, time]
  obtain ⟨checked, normal⟩ := newBinding_ok.mp user.bound
  have provider : b.provider ≠ "" := binding_provider_ne (normal ▸ checked)
  have row : relates ⟨"tenant_1", b⟩ (rowOf "tenant_1" (sampleIntent b)) = true := by
    simp [relates, rowOf, sampleIntent, Params.frozen, sendOf, ownerOf]
  refine ⟨sampleScope b.userID, user.asked found, user.storable, .inl ⟨⟨⟨?_, sampleIntent_checks user, ?_, ?_⟩, ?_⟩,
    user.audited silent, rfl⟩⟩
  · refine List.any_eq_true.mpr ⟨_, version, ?_⟩
    rw [providerRelates, Bool.and_eq_true]
    refine ⟨row, ?_⟩
    simp [rowOf, sampleIntent, Params.frozen, sendOf, ownerOf, Ownership.effectiveWalletProvider, provider]
  · refine List.any_eq_true.mpr ⟨_, identity, ?_⟩
    simp [rowOf, sampleIntent, Params.frozen, sendOf, ownerOf, sampleScope]
  · exact List.any_eq_true.mpr ⟨_, version, row⟩
  · simp [fresh]

theorem sampleUser : SampleUser sampleBinding where
  bound := newBinding_sampleBinding
  version := by decide
  authorized := by decide +kernel
  granted := by decide +kernel
  normal := normalizeCreation_sendOf
  valid := sendOf_valid
  named := by decide +kernel
  clean := by decide +kernel

/-- The tables of some users at an instant. -/
def sampleWorld (bindings : List Wallet.Binding) (time : Int) : World := ⟨sampleTables bindings, fun _ => time, 0⟩

/-- The same with the sample intent stored. -/
def storedWorld (bindings : List Wallet.Binding) (b : Wallet.Binding) (time : Int) : World :=
  ⟨ApplicationTables.withIntent (sampleTables bindings) (sampleScope b.userID) (sampleIntent b) sampleSend.createdAt,
    fun _ => time, 1⟩

end Sample

end WizPay.Services
