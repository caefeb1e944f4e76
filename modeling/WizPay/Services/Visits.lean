import WizPay.Services.Executions
import WizPay.Services.Outcome

/-!
# Calls of the application services

`Leaves P routine Q`: from tables with `P` the routine ends in tables with `P`, and what
it returns satisfies `Q`. Each repository method has one such rule, with an obligation for
the rows it writes, and a service is walked through by `Leaves.bind`.
-/
namespace WizPay.Services

open Checks Threads Threads.Routine Intents Storage Auth Exec

/-- What a caller can ask of the services; the scope of a step-up comes from the autonomy runtime. -/
inductive ServiceRequest
  | createIntent (command : CreateIntentCommand)
  | getIntent (intentID : String)
  | requestApproval (intentID : String)
  | getApproval (approvalID : String)
  | decideApproval (approvalID : String) (decision : Approvals.Decision)
  | authorizeExecution (approvalID intentID walletBindingID : String) (walletBindingVersion : Nat)
  | stepUp (scope : Scope) (intentID : String)
  | evaluatePolicy (intentID policyID : String) (policyVersion : Nat) (stage : Policies.EvaluationStage)
  | prepareExecution (intentID approvalID policyID : String) (policyVersion : Nat)

structure Visit where
  ctx : Context
  request : ServiceRequest
  clock : Nat → Int

/-- The call, with its answer left out. -/
def perform (ctx : Context) : ServiceRequest → Service Unit
  | .createIntent command => do let _ ← createIntent ctx command
  | .getIntent intentID => do let _ ← getIntent ctx intentID
  | .requestApproval intentID => do let _ ← requestApproval ctx intentID
  | .getApproval approvalID => do let _ ← getApproval ctx approvalID
  | .decideApproval approvalID decision => do let _ ← decideApproval ctx approvalID decision
  | .authorizeExecution approvalID intentID bindingID version => do
    let _ ← authorizeExecution ctx approvalID intentID bindingID version
  | .stepUp scope intentID => do let _ ← stepUpRequest scope intentID
  | .evaluatePolicy intentID policyID version stage => do let _ ← evaluatePolicy ctx intentID policyID version stage
  | .prepareExecution intentID approvalID policyID version => do
    let _ ← prepareExecution ctx intentID approvalID policyID version

/-- The tables after a call, whether it succeeds or not. -/
def visit (t : ApplicationTables) (v : Visit) : ApplicationTables :=
  (exec machine (perform v.ctx v.request) ⟨t, v.clock, 0⟩).2.tables

def visits (t : ApplicationTables) (calls : List Visit) : ApplicationTables := calls.foldl visit t

theorem visits_keep {P : ApplicationTables → Prop} {A : Visit → Prop}
    (kept : ∀ t v, A v → P t → P (visit t v)) {t : ApplicationTables} (initial : P t) {calls : List Visit}
    (permitted : ∀ v ∈ calls, A v) : P (visits t calls) := by
  induction calls generalizing t with
  | nil => exact initial
  | cons v rest ih =>
    have now : P (visit t v) := kept t v (permitted v (.head _)) initial
    exact ih now fun later member => permitted later (.tail _ member)

/-! ### What a statement changes -/

variable {t after : ApplicationTables} {statement : Statement} {missing : Error} {version expected : Nat}

theorem insertApproval_ok {row stored : ApprovalRow} (inserted : insertApproval row t = .ok (stored, after)) :
    stored = row ∧ after = { t with approvals := t.approvals ++ [row] } := by
  simp only [insertApproval, guard_ok, pure_ok, Prod.mk.injEq] at inserted
  obtain ⟨-, -, -, rfl, rfl⟩ := inserted
  exact ⟨rfl, rfl⟩

theorem updateApproval_ok {u : ApprovalUpdate} {row : ApprovalRow} (updated : updateApproval u t = .ok (row, after)) : ∃ rows, after = { t with approvals := rows } := by
  rw [updateApproval, bind_ok] at updated
  simp only [guard_ok, pure_ok, Prod.mk.injEq] at updated
  obtain ⟨_, -, -, -, rfl⟩ := updated
  exact ⟨_, rfl⟩

theorem insertEvaluation_ok {row : EvaluationRow} {done : Unit}
    (inserted : insertEvaluation row t = .ok (done, after)) :
    after = { t with evaluations := t.evaluations ++ [row] } := by
  simp only [insertEvaluation, guard_ok, pure_ok, Prod.mk.injEq, true_and] at inserted
  exact inserted.2.2.symm

/-- The transaction writes one approval, one request, one execution and one record. -/
theorem consumeAndCreate_ok {u : ApprovalUpdate} {request : RequestRow} {execution : ExecutionRow}
    {record : AuditRow} {row : ApprovalRow}
    (committed : consumeAndCreate u request execution record t = .ok (row, after)) :
    ∃ rows stored created, insertRequest request t.execution = .ok stored ∧ insertExecution execution stored = .ok created ∧
      after = { t with
        approvals := rows, execution := { created with audit := created.audit ++ [record] } } := by
  rw [consumeAndCreate, bind_ok] at committed
  obtain ⟨⟨updated, middle⟩, updates, committed⟩ := committed
  obtain ⟨rows, rfl⟩ := updateApproval_ok updates
  rw [bind_ok] at committed
  obtain ⟨stored, inserted, committed⟩ := committed
  rw [guard_ok, bind_ok] at committed
  obtain ⟨-, created, creates, committed⟩ := committed
  rw [bind_ok] at committed
  obtain ⟨audited, appended, committed⟩ := committed
  obtain rfl := appendAudit_ok appended
  simp only [pure_ok, Prod.mk.injEq] at committed
  exact ⟨rows, stored, created, inserted, creates, committed.2.symm⟩

/-! ### What a routine leaves behind -/

/-- From tables with `P` the routine ends in tables with `P`, and a value it returns satisfies `Q`. -/
structure Leaves {α : Type} (P : ApplicationTables → Prop) (routine : Service α) (Q : α → Prop) : Prop where
  meets : Meets machine (fun w => P w.tables) routine (fun value w => P w.tables ∧ Q value) (fun w => P w.tables)

namespace Leaves

variable {α β : Type} {P : ApplicationTables → Prop} {Q : α → Prop}

theorem tables {routine : Service α} (leaves : Leaves P routine Q) {w : World} (holds : P w.tables) :
    P (exec machine routine w).2.tables := by
  have ended := leaves.meets w holds
  split at ended
  next value after returned =>
    rw [returned]
    exact ended.1
  next error after failed =>
    rw [failed]
    exact ended

theorem value {routine : Service α} (leaves : Leaves P routine Q) {w : World} (holds : P w.tables) {value : α}
    (returned : (exec machine routine w).1 = .ok value) : Q value := by
  have ended := leaves.meets w holds
  rw [show exec machine routine w = (.ok value, (exec machine routine w).2) from Prod.ext returned rfl] at ended
  exact ended.2

theorem pure {value : α} (holds : Q value) : Leaves P (pure value) Q :=
  ⟨Meets.pure fun _ kept => ⟨kept, holds⟩⟩

theorem throw {error : Error} : Leaves P (throw error : Service α) Q := ⟨Meets.throw fun _ kept => kept⟩

theorem check {result : Except Error α} (holds : ∀ value, result = .ok value → Q value) :
    Leaves P (check result) Q :=
  ⟨Meets.check (fun _ value kept done => ⟨kept, holds value done⟩) fun _ kept => kept⟩

theorem now : Leaves P Storage.now fun _ => True := ⟨Meets.call fun _ kept => ⟨kept, trivial⟩⟩

theorem bind {first : Service α} {rest : α → Service β} {m : α → Prop} {Q : β → Prop}
    (starts : Leaves P first m) (continues : ∀ value, m value → Leaves P (rest value) Q) :
    Leaves P (first >>= rest) Q := by
  refine ⟨Meets.bind starts.meets ?_⟩
  rintro value w ⟨kept, holds⟩
  exact (continues value holds).meets w kept

/-- As `bind`, when the rest depends on the state that the first part ended in. -/
theorem bind_exec {first : Service α} {rest : α → Service β} (starts : Leaves P first fun _ => True)
    (continues : ∀ value w after, exec machine first w = (.ok value, after) → P after.tables →
      P (exec machine (rest value) after).2.tables) :
    Leaves P (first >>= rest) fun _ => True := by
  refine ⟨fun w kept => ?_⟩
  have between := starts.tables kept
  have ends : P (exec machine (first >>= rest) w).2.tables := by
    rw [exec_bind]
    split
    next value after ended =>
      rw [ended] at between
      exact continues value w after ended between
    next error after ended =>
      rw [ended] at between
      exact between
  split
  next value after ended =>
    rw [ended] at ends
    exact ⟨ends, trivial⟩
  next error after ended =>
    rw [ended] at ends
    exact ends

theorem attempt {routine : Service α} (leaves : Leaves P routine Q) :
    Leaves P (attempt routine) fun answer => ∀ value, answer = .ok value → Q value :=
  ⟨Meets.attempt fun _ kept => ⟨leaves.tables kept, fun _ returned => leaves.value kept returned⟩⟩

theorem query {Q : Except Error statement.Row → Prop}
    (runs : ∀ t row after, P t → statement.run t = .ok (row, after) → P after ∧ Q (.ok row))
    (fails : ∀ error, Q (.error error)) : Leaves P (query statement) Q := by
  refine ⟨fun w kept => ?_⟩
  rw [exec_query]
  cases ran : statement.run w.tables with
  | error error => exact ⟨kept, fails error⟩
  | ok result => exact runs w.tables result.1 result.2 kept ran

theorem fetch {Q : statement.Row → Prop}
    (runs : ∀ t row after, P t → statement.run t = .ok (row, after) → P after ∧ Q row) :
    Leaves P (fetch statement missing) Q := by
  apply bind (m := fun answer => ∀ row, answer = .ok row → Q row)
  · apply query
    · intro t row after kept ran
      obtain ⟨keeps, holds⟩ := runs t row after kept ran
      exact ⟨keeps, fun _ same => Except.ok.inj same ▸ holds⟩
    · intro error row impossible
      cases impossible
  · intro answer holds
    apply check
    intro row returned
    exact holds row (mapError_ok.mp returned)

/-- Find or change one row and restore its value. -/
theorem row {restore : statement.Row → Except Error α}
    (runs : ∀ t row after, P t → statement.run t = .ok (row, after) →
      P after ∧ ∀ value, restore row = .ok value → Q value) :
    Leaves P (do
      let row ← Storage.fetch statement missing
      Routine.check (restore row)) Q :=
  bind (fetch runs) fun _ holds => check holds

/-- A row that is only read says of its value what the tables say of the row. -/
theorem found {restore : statement.Row → Except Error α} {query : ApplicationTables → Except Error statement.Row}
    (reads : statement.run = Statement.read query)
    (holds : ∀ t row value, P t → query t = .ok row → restore row = .ok value → Q value) :
    Leaves P (do
      let row ← Storage.fetch statement missing
      Routine.check (restore row)) Q := by
  apply row
  intro t row after kept ran
  rw [reads] at ran
  obtain ⟨located, rfl⟩ := read_ok.mp ran
  exact ⟨kept, fun value restored => holds after row value kept located restored⟩

/-- A check whose value is not looked at. -/
theorem guarded {result : Except Error β} {rest : β → Service α} (continues : ∀ value, Leaves P (rest value) Q) :
    Leaves P (Routine.check result >>= rest) Q :=
  bind (m := fun _ => True) (check fun _ _ => trivial) fun value _ => continues value

/-- A step that answers with an error goes on from the error. -/
theorem either {first : Service (Except Error β)} {rest : Except Error β → Service α} {m : Except Error β → Prop}
    (starts : Leaves P first m) (returned : ∀ value, Leaves P (rest (.ok value)) Q)
    (failed : ∀ error, Leaves P (rest (.error error)) Q) : Leaves P (first >>= rest) Q := by
  refine bind starts fun answer _ => ?_
  cases answer with
  | ok value => exact returned value
  | error error => exact failed error

theorem written (keeps : ∀ t row after, P t → statement.run t = .ok (row, after) → P after) :
    Leaves P (Storage.query statement) fun _ => True :=
  query (fun t row after kept ran => ⟨keeps t row after kept ran, trivial⟩) fun _ => trivial

/-! ### The repository -/

variable {scope : Scope} {id : String}

theorem findBindingByID : Leaves P (Repository.findBindingByID scope id) fun _ => True :=
  guarded fun _ => found rfl fun _ _ _ _ _ _ => trivial

theorem findApprovalByID : Leaves P (Repository.findApprovalByID scope id) fun _ => True :=
  guarded fun _ => found rfl fun _ _ _ _ _ _ => trivial

theorem findApprovalByIntent {digest : String} :
    Leaves P (Repository.findApprovalByIntent scope id version digest) fun _ => True :=
  guarded fun _ => guarded fun _ => found rfl fun _ _ _ _ _ _ => trivial

theorem findPolicyByID : Leaves P (Repository.findPolicyByID scope id version) fun _ => True :=
  guarded fun _ => guarded fun _ => found rfl fun _ _ _ _ _ _ => trivial

theorem findIntentByID {Q : Intent → Prop}
    (holds : ∀ t row i, P t → Storage.findIntentByID scope.tenantID id scope.actorID t = .ok row →
      intentFromRow row = .ok i → Q i) :
    Leaves P (Repository.findIntentByID scope id) Q :=
  guarded fun _ => found rfl holds

theorem findIntentByClientRequestID : Leaves P (Repository.findIntentByClientRequestID scope id) fun _ => True :=
  guarded fun _ => found rfl fun _ _ _ _ _ _ => trivial

theorem findExecutionByOperationKey {operationKey : String} {Q : Execution → Prop}
    (holds : ∀ t row value, P t →
      Storage.findExecutionByOperationKey scope.tenantID operationKey version scope.actorID t.execution = .ok row →
      restoreExecutionRecord row = .ok value → Q value) :
    Leaves P (Repository.findExecutionByOperationKey scope operationKey version) Q := by
  refine guarded fun _ => bind (check fun _ fits => fits) fun stored fits => ?_
  obtain ⟨-, -, rfl⟩ := dbVersion_ok.mp fits
  exact found rfl holds

theorem findPolicyEvaluation : Leaves P (Repository.findPolicyEvaluation scope id) fun _ => True := by
  refine guarded fun _ => bind (fetch fun t row after kept ran => ⟨?_, trivial⟩) fun _ _ => pure trivial
  rw [(read_ok.mp ran).2]
  exact kept

theorem createIntent {value : Intent}
    (keeps : ∀ t row after stored, value.params.ownership.userID = scope.actorID →
      intentCreateParams scope.tenantID value = .ok row → P t → insertIntent row t = .ok (stored, after) → P after) :
    Leaves P (Repository.createIntent scope value) fun _ => True := by
  refine guarded fun _ => guarded fun _ => bind (check fun _ owned => owned) fun _ owned => ?_
  refine bind (check fun _ written => written) fun row written => ?_
  have owner : value.params.ownership.userID = scope.actorID := by
    simpa only [rejectIf_ok, not_not, ne_eq] using owned
  refine either (Leaves.written fun t stored after kept ran => keeps t row after stored owner written kept ran)
    (fun _ => guarded fun _ => pure trivial) fun e => guarded fun _ => ?_
  exact either (attempt findIntentByClientRequestID) (fun _ => guarded fun _ => pure trivial) fun _ => throw

theorem updateIntent {value : Intent} {Q : Intent → Prop}
    (keeps : ∀ t u row after, u.status = value.status → u.tenantID = scope.tenantID → u.actorID = scope.actorID →
      P t → Storage.updateIntent u t = .ok (row, after) → P after ∧ ∀ i, intentFromRow row = .ok i → Q i) :
    Leaves P (Repository.updateIntent scope value expected) Q := by
  refine guarded fun _ => guarded fun _ => guarded fun _ => guarded fun _ => guarded fun _ => ?_
  exact row fun t row after kept ran => keeps t _ row after rfl rfl rfl kept ran

theorem appendAudit {record : Audit.Record}
    (keeps : ∀ t, P t → P { t with execution := { t.execution with
      audit := t.execution.audit ++ [⟨scope.tenantID, record⟩] } }) :
    Leaves P (Repository.appendAudit scope record) fun _ => True := by
  refine bind (check fun _ accepted => auditParams_ok accepted) fun row written => ?_
  subst written
  refine bind (Leaves.written fun t _ after kept ran => ?_) fun _ _ => check fun _ _ => trivial
  obtain ⟨-, rfl⟩ := insertAudit_ok.mp ran
  exact keeps t kept

/-- The events of the approval service. -/
def approvalEvents : List Audit.EventType := [.approvalRequested, .approvalGranted, .approvalRejected]

/-- The tables matter to `P` apart from approvals and evaluations, and so does the audit trail apart from the records of
approvals. -/
structure Indifferent (P : ApplicationTables → Prop) : Prop where
  approvals : ∀ t rows, P t → P { t with approvals := rows }
  evaluations : ∀ t rows, P t → P { t with evaluations := rows }
  records : ∀ t scope a previous time, ∀ type ∈ approvalEvents, P t → P { t with execution := { t.execution with
    audit := t.execution.audit ++ [⟨scope.tenantID, approvalRecord scope type a previous time⟩] } }

section Indifferent

variable (indifferent : Indifferent P)
include indifferent

theorem createApproval {value : Approvals.Approval} : Leaves P (Repository.createApproval scope value) fun _ => True := by
  refine guarded fun _ => guarded fun _ => guarded fun _ => guarded fun row => ?_
  refine either (written fun t stored after kept ran => ?_) (fun _ => guarded fun _ => pure trivial)
    fun e => guarded fun _ => ?_
  · obtain ⟨-, rfl⟩ := insertApproval_ok ran
    exact indifferent.approvals _ _ kept
  · exact either (attempt findApprovalByIntent) (fun _ => guarded fun _ => pure trivial) fun _ => throw

theorem updateApproval {value : Approvals.Approval} :
    Leaves P (Repository.updateApproval scope value expected) fun _ => True := by
  refine guarded fun _ => guarded fun _ => guarded fun _ => guarded fun update => row fun t stored after kept ran => ?_
  obtain ⟨rows, rfl⟩ := updateApproval_ok ran
  exact ⟨indifferent.approvals _ _ kept, fun _ _ => trivial⟩

theorem createPolicyEvaluation {result : Policies.Result} :
    Leaves P (Repository.createPolicyEvaluation scope result) fun _ => True := by
  refine guarded fun _ => guarded fun _ => either (written fun t _ after kept ran => ?_) (fun _ => pure trivial)
    fun e => guarded fun _ => either (attempt findPolicyEvaluation) (fun existing => ?_) fun _ => throw
  · obtain rfl := insertEvaluation_ok ran
    exact indifferent.evaluations _ _ kept
  · dsimp only
    split
    · exact pure trivial
    · exact throw

theorem consumeApprovalAndCreateExecution {consumed : Approvals.Approval} {value : Execution}
    {record : Audit.Record}
    (keeps : ∀ t request execution stored after, requestCreateParams scope value.request = .ok request → P t →
      insertRequest request t.execution = .ok stored → insertExecution execution stored = .ok after →
      P { t with execution := { after with audit := after.audit ++ [⟨scope.tenantID, record⟩] } }) :
    Leaves P (Repository.consumeApprovalAndCreateExecution scope consumed expected value record) fun _ => True := by
  refine bind (check fun _ written => written) fun rows written => ?_
  obtain ⟨update, request, execution, audit⟩ := rows
  obtain ⟨requested, audited⟩ : requestCreateParams scope value.request = .ok request ∧ audit = ⟨scope.tenantID, record⟩ := by
    simp only [Repository.consumptionRows, guard_ok] at written
    obtain ⟨-, -, -, -, -, written⟩ := written
    rw [bind_ok] at written
    obtain ⟨_, -, written⟩ := written
    simp only [bind_ok, pure_ok, Prod.mk.injEq] at written
    obtain ⟨_, requested, _, -, _, accepted, -, rfl, -, rfl⟩ := written
    exact ⟨requested, auditParams_ok accepted⟩
  subst audited
  refine either (Leaves.written fun t _ after kept ran => ?_) (fun _ => guarded fun _ => pure trivial) fun e => ?_
  · obtain ⟨rows, stored, created, inserted, creates, rfl⟩ := consumeAndCreate_ok ran
    exact indifferent.approvals _ rows (keeps t request execution stored created requested kept inserted creates)
  · exact either (attempt (findExecutionByOperationKey fun _ _ _ _ _ _ => trivial))
      (fun _ => guarded fun _ => bind findApprovalByID fun _ _ => pure trivial) fun _ => throw

/-! ### Services that write no intent -/

variable {ctx : Context}

omit indifferent in
theorem getIntent {intentID : String} : Leaves P (Services.getIntent ctx intentID) fun _ => True :=
  guarded fun _ => findIntentByID fun _ _ _ _ _ _ => trivial

omit indifferent in
theorem getApproval {approvalID : String} : Leaves P (Services.getApproval ctx approvalID) fun _ => True :=
  guarded fun _ => findApprovalByID

theorem evaluatePolicy {intentID policyID : String} {stage : Policies.EvaluationStage} :
    Leaves P (Services.evaluatePolicy ctx intentID policyID version stage) fun _ => True := by
  refine guarded fun _ => guarded fun _ => bind (findIntentByID fun _ _ _ _ _ _ => trivial) fun _ _ => ?_
  refine bind findPolicyByID fun _ _ => bind findBindingByID fun _ _ => bind now fun _ _ => guarded fun _ => ?_
  exact createPolicyEvaluation indifferent

theorem evaluateForExecution {scope : Scope} {identity : Identity} {i : Intent} {policyID : String} :
    Leaves P (Services.evaluateForExecution scope identity i policyID version) fun _ => True := by
  refine bind findPolicyByID fun _ _ => bind findBindingByID fun _ _ => bind now fun _ _ => guarded fun _ => ?_
  exact createPolicyEvaluation indifferent

theorem requestApproval {intentID : String} :
    Leaves P (Services.requestApproval ctx intentID) fun _ => True := by
  refine guarded fun _ => bind (findIntentByID fun _ _ _ _ _ _ => trivial) fun _ _ => guarded fun _ => guarded fun _ => ?_
  refine bind (attempt findApprovalByIntent) fun answer _ => ?_
  cases answer with
  | ok existing => exact pure trivial
  | error _ =>
    refine bind now fun time _ => ?_
    dsimp only
    refine guarded fun _ => bind (createApproval indifferent) fun result _ => ?_
    split
    · refine bind (appendAudit fun t kept => ?_) fun _ _ => pure trivial
      exact indifferent.records t _ _ _ _ _ (by decide) kept
    · exact pure trivial

omit indifferent in
theorem validateApprovalBinding {scope : Scope} {a : Approvals.Approval} {i : Intent} :
    Leaves P (Services.validateApprovalBinding ctx scope a i) fun _ => True :=
  guarded fun _ => guarded fun _ => guarded fun _ => bind findBindingByID fun _ _ => check fun _ _ => trivial

theorem decideApproval {approvalID : String} {decision : Approvals.Decision} :
    Leaves P (Services.decideApproval ctx approvalID decision) fun _ => True := by
  refine guarded fun _ => bind findApprovalByID fun _ _ => guarded fun _ => ?_
  refine bind (findIntentByID fun _ _ _ _ _ _ => trivial) fun _ _ => bind validateApprovalBinding fun _ _ => ?_
  refine bind now fun _ _ => guarded fun _ => guarded fun _ => ?_
  split
  · exact pure trivial
  · refine bind now fun _ _ => guarded fun _ => bind (updateApproval indifferent) fun _ _ => ?_
    refine bind (appendAudit fun t kept => ?_) fun _ _ => pure trivial
    refine indifferent.records t _ _ _ _ _ ?_ kept
    unfold decisionEvent
    split <;> decide

theorem authorizeExecution {approvalID intentID bindingID : String} :
    Leaves P (Services.authorizeExecution ctx approvalID intentID bindingID version) fun _ => True := by
  refine guarded fun _ => bind findApprovalByID fun _ _ => guarded fun _ => ?_
  refine bind (findIntentByID fun _ _ _ _ _ _ => trivial) fun _ _ => guarded fun _ => guarded fun _ => ?_
  refine bind validateApprovalBinding fun _ _ => bind now fun _ _ => guarded fun _ => guarded fun _ => ?_
  split
  · exact bind (updateApproval indifferent) fun _ _ => pure trivial
  · exact pure trivial

/-- Every request, once the routines that write intents and executions are known. -/
theorem perform {request : ServiceRequest}
    (creates : ∀ command, Leaves P (Services.createIntent ctx command) fun _ => True)
    (awaits : ∀ scope intentID, request = .stepUp scope intentID →
      ∀ i time, Leaves P (awaitApproval scope i time) fun _ => True)
    (prepares : ∀ intentID approvalID policyID version,
      Leaves P (prepareExecution ctx intentID approvalID policyID version) fun _ => True) :
    Leaves P (Services.perform ctx request) fun _ => True := by
  cases request with
  | createIntent command => exact bind (creates command) fun _ _ => pure trivial
  | getIntent intentID => exact bind getIntent fun _ _ => pure trivial
  | requestApproval intentID => exact bind (requestApproval indifferent) fun _ _ => pure trivial
  | getApproval approvalID => exact bind getApproval fun _ _ => pure trivial
  | decideApproval approvalID decision => exact bind (decideApproval indifferent) fun _ _ => pure trivial
  | authorizeExecution approvalID intentID bindingID version =>
    exact bind (authorizeExecution indifferent) fun _ _ => pure trivial
  | stepUp scope intentID =>
    refine bind (m := fun _ => True) ?_ fun _ _ => pure trivial
    refine bind (findIntentByID fun _ _ _ _ _ _ => trivial) fun _ _ => bind now fun _ _ => ?_
    refine bind (awaits scope intentID rfl _ _) fun _ _ => guarded fun _ => bind (attempt findApprovalByIntent) fun answer _ => ?_
    cases answer with
    | ok existing => exact pure trivial
    | error _ =>
      dsimp only
      exact guarded fun _ => bind (createApproval indifferent) fun _ _ => pure trivial
  | evaluatePolicy intentID policyID version stage => exact bind (evaluatePolicy indifferent) fun _ _ => pure trivial
  | prepareExecution intentID approvalID policyID version => exact bind (prepares _ _ _ _) fun _ _ => pure trivial

end Indifferent

end Leaves

end WizPay.Services
