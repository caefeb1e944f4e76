import WizPay.Runtime.System

/-!
# Claiming what is available

A worker that asks for an execution whose lease is free, and that nobody disturbs,
gets the claim.
-/
namespace WizPay.Runtime

open Checks GoTime Exec Storage Threads

/-- The tables after worker `workerID` has leased execution `k`. -/
def leasedTables (k : Key) (workerID : String) (micros : Int) (t : ExecutionTables) : ExecutionTables :=
  { t with work := Table.modify WorkRow.key k (·.lease workerID micros t.clock) t.work }

/-- An execution that its owner's worker can claim now. -/
structure Claimable (t : ExecutionTables) (scope : Scope) (executionID : String) (w : WorkRow)
    (record : ExecutionRecord) (value : Execution) : Prop where
  trusted : scope.validate = .ok ()
  identity : executionID ≠ ""
  owner : (t.requests.any fun r =>
    r.tenantID == scope.tenantID && r.request.executionID == executionID && r.userID == scope.actorID) = true
  work : t.workOf (scope.tenantID, executionID) = some w
  available : w.available t.clock = true
  execution : t.executionOf (scope.tenantID, executionID) = some record.execution
  unfinished : record.execution.claimable = true
  found : findExecutionByID (scope.tenantID, executionID) scope.actorID t = .ok record
  restored : restoreExecutionRecord record = .ok value

variable {t : ExecutionTables} {scope : Scope} {executionID workerID : String} {w : WorkRow}
  {record : ExecutionRecord} {value : Execution} {now leaseDuration : Int}

/-- The claim that the worker then has. -/
def claimOf (scope : Scope) (value : Execution) (workerID : String) (w : WorkRow) (micros clock : Int) :
    ExecutionClaim :=
  ⟨scope, value, workerID, w.fencingToken + 1, some (clock + micros * microsecond), w.submissionStarted⟩

theorem Claimable.claimed (claimable : Claimable t scope executionID w record value) (micros : Int) :
    claimExecutionWork (scope.tenantID, executionID) scope.actorID workerID micros t =
      .ok (w.lease workerID micros t.clock, leasedTables (scope.tenantID, executionID) workerID micros t) := by
  have free : (w.available t.clock && record.execution.claimable) = true := by
    rw [claimable.available, claimable.unfinished, Bool.true_and]
  simp only [claimExecutionWork, checks_ok, claimAt, claimable.work, claimable.execution, free, if_true,
    claimable.owner]
  exact ⟨Bool.noConfusion, rfl⟩

theorem Claimable.leased_work (claimable : Claimable t scope executionID w record value) (workerID : String)
    (micros : Int) :
    (leasedTables (scope.tenantID, executionID) workerID micros t).workOf (scope.tenantID, executionID) =
      some (w.lease workerID micros t.clock) := by
  have found : Table.lookup WorkRow.key (scope.tenantID, executionID) t.work = some w := claimable.work
  simp only [ExecutionTables.workOf, leasedTables,
    Table.lookup_modify_same (fun w => WorkRow.lease_key w workerID micros t.clock), found, Option.map_some]

theorem Claimable.holds_lease (claimable : Claimable t scope executionID w record value) (workerID : String)
    {micros : Int} (lasting : 0 < micros) :
    holds ⟨scope.tenantID, executionID, workerID, w.fencingToken + 1⟩
      (leasedTables (scope.tenantID, executionID) workerID micros t) = true := by
  refine holds_iff.mpr ⟨w.lease workerID micros t.clock, claimable.leased_work workerID micros, ?_, ?_⟩
  · simp [WorkRow.heldBy, WorkRow.lease]
  · have later : t.clock < t.clock + micros * microsecond := by
      simp only [microsecond]
      omega
    exact decide_eq_true later

section Yields

variable {ι : Type}

theorem confirmClaim_yields (i : ι) (claimable : Claimable t scope executionID w record value) {micros : Int}
    (lasting : 0 < micros) :
    (confirmClaim scope executionID workerID (w.lease workerID micros t.clock)).Yields system i
      (leasedTables (scope.tenantID, executionID) workerID micros t)
      [⟨i, .findExecutionByID (scope.tenantID, executionID) scope.actorID, .ok record⟩,
        ⟨i, .validateExecutionClaim ⟨scope.tenantID, executionID, workerID, w.fencingToken + 1⟩, .ok 1⟩]
      (.ok (some (claimOf scope value workerID w micros t.clock)))
      (leasedTables (scope.tenantID, executionID) workerID micros t) := by
  set leased := leasedTables (scope.tenantID, executionID) workerID micros t with leased_def
  have read : answer (.findExecutionByID (scope.tenantID, executionID) scope.actorID) leased (.ok record) leased := by
    refine .done _ _ ?_
    rw [show findExecutionByID (scope.tenantID, executionID) scope.actorID leased = .ok record from claimable.found]
    rfl
  have confirmed : answer (.validateExecutionClaim ⟨scope.tenantID, executionID, workerID, w.fencingToken + 1⟩)
      leased (.ok 1) leased := by
    refine .done _ _ ?_
    rw [validateExecutionClaim_eq_one.mpr (claimable.holds_lease workerID lasting)]
  have found : (findExecutionByIDProc scope executionID).Yields system i leased
      [⟨i, .findExecutionByID (scope.tenantID, executionID) scope.actorID, .ok record⟩] (.ok value) leased := by
    simp only [findExecutionByIDProc, claimable.trusted]
    refine Program.Yields.ask read ?_
    simp only [claimable.restored]
    exact .done _ _
  unfold confirmClaim
  refine found.bind ?_
  refine Program.Yields.ask confirmed ?_
  exact .done _ _

/-- The claim succeeds when the worker runs undisturbed. -/
theorem claimExecutionWorkProc_yields (i : ι) (claimable : Claimable t scope executionID w record value)
    (input : validateClaimInput workerID now leaseDuration = .ok ())
    (lasting : 0 < leaseDuration / microsecond) :
    (claimExecutionWorkProc scope executionID workerID now leaseDuration).Yields system i t
      [⟨i, .claimExecutionWork (scope.tenantID, executionID) scope.actorID workerID (leaseDuration / microsecond),
          .ok (w.lease workerID (leaseDuration / microsecond) t.clock)⟩,
        ⟨i, .findExecutionByID (scope.tenantID, executionID) scope.actorID, .ok record⟩,
        ⟨i, .validateExecutionClaim ⟨scope.tenantID, executionID, workerID, w.fencingToken + 1⟩, .ok 1⟩]
      (.ok (some (claimOf scope value workerID w (leaseDuration / microsecond) t.clock)))
      (leasedTables (scope.tenantID, executionID) workerID (leaseDuration / microsecond) t) := by
  have claimed : answer (.claimExecutionWork (scope.tenantID, executionID) scope.actorID workerID
      (leaseDuration / microsecond)) t (.ok (w.lease workerID (leaseDuration / microsecond) t.clock))
      (leasedTables (scope.tenantID, executionID) workerID (leaseDuration / microsecond) t) :=
    .done _ _ (claimable.claimed _)
  have checks : (do
      scope.validate
      rejectIf (executionID = "") (.app .validationError "Execution identity is required." false true true)
      validateClaimInput workerID now leaseDuration : Except Error Unit) = .ok () := by
    rw [guard_ok, guard_ok, rejectIf_ok]
    exact ⟨claimable.trusted, claimable.identity, input⟩
  unfold claimExecutionWorkProc
  dsimp only
  rw [checks]
  exact Program.Yields.ask claimed (confirmClaim_yields i claimable lasting)

/-- The requests of a `Process` call until it has its claim, newest first. -/
def claimEvents (i : ι) (scope : Scope) (executionID workerID : String) (w : WorkRow) (record : ExecutionRecord)
    (now leaseDuration clock : Int) : List (Event ι Reply) :=
  [⟨i, .validateExecutionClaim ⟨scope.tenantID, executionID, workerID, w.fencingToken + 1⟩, .ok 1⟩,
    ⟨i, .findExecutionByID (scope.tenantID, executionID) scope.actorID, .ok record⟩,
    ⟨i, .claimExecutionWork (scope.tenantID, executionID) scope.actorID workerID (leaseDuration / microsecond),
      .ok (w.lease workerID (leaseDuration / microsecond) clock)⟩,
    ⟨i, .now, now⟩]

theorem process_bind (config : Config) (scope : Scope) (executionID : String) (rest : Returned → Proc Unit) :
    process config scope executionID >>= rest = .call Call.now fun now =>
      claimExecutionWorkProc scope executionID config.workerID now config.leaseDuration >>= fun claimed =>
        afterClaim config scope executionID now claimed >>= rest := by
  unfold process
  rw [Program.perform_bind, Program.call_bind]
  simp only [Program.bind_assoc]

/-- A `Process` call that nobody disturbs claims an execution that can be claimed. -/
theorem process_claims [DecidableEq ι] {c : Threads.Config ExecutionTables ι Reply} {i : ι} {config : Config}
    {rest : Returned → Proc Unit} (running : c.thread i = process config scope executionID >>= rest)
    (claimable : Claimable c.shared scope executionID w record value)
    (input : validateClaimInput config.workerID now config.leaseDuration = .ok ())
    (lasting : 0 < config.leaseDuration / microsecond) :
    Reachable system c
      ⟨leasedTables (scope.tenantID, executionID) config.workerID (config.leaseDuration / microsecond) c.shared,
        Function.update c.thread i (afterClaim config scope executionID now (.ok (some
          (claimOf scope value config.workerID w (config.leaseDuration / microsecond) c.shared.clock))) >>= rest),
        claimEvents i scope executionID config.workerID w record now config.leaseDuration c.shared.clock ++
          c.trace⟩ := by
  rw [process_bind] at running
  have asked := Step.call (S := system) c i Call.now _ now c.shared running rfl
  exact (claimExecutionWorkProc_yields i claimable input lasting).extend (.single ⟨_, asked⟩)

end Yields

/-- With a claim, a `Process` call goes on with `processClaim`. -/
theorem afterClaim_bind (config : Config) (scope : Scope) (executionID : String) (now : Int) (claim : ExecutionClaim)
    (rest : Returned → Proc Unit) :
    ∃ last, afterClaim config scope executionID now (.ok (some claim)) >>= rest = processClaim claim now >>= last := by
  unfold afterClaim
  exact ⟨_, Program.bind_assoc _ _ _⟩

/-! ### One execution with two workers

A small instance for the runs that witnesses and counterexamples follow. -/

theorem sample_claimable {status : Status} (evidence : List EvidenceRow)
    (unfinished : (sampleRecord status).execution.claimable = true)
    (running : status ≠ .failed) (steady : status ≠ .recoveryRequired) :
    Claimable (sampleTables status evidence) sampleScope sampleRequest.executionID sampleWork (sampleRecord status)
      (sampleRecord status).value where
  trusted := by decide
  identity := by decide
  owner := by simp [sampleTables, sampleRecord, sampleScope]
  work := by simp [sampleTables, ExecutionTables.workOf, Table.lookup, sampleWork, WorkRow.key, sampleScope]
  available := (by decide : sampleWork.available sampleRequest.createdAt = true)
  execution := by
    simp [sampleTables, ExecutionTables.executionOf, Table.lookup, sampleRecord, ExecutionRow.key, sampleScope]
  unfinished := unfinished
  found := by
    simp [findExecutionByID, ExecutionTables.executionOf, ExecutionTables.requestOf, sampleTables, Table.lookup,
      sampleRecord, ExecutionRow.key, sampleScope]
  restored := restoreExecutionRecord_ok.mpr ⟨sampleRecord_valid running steady, rfl⟩

/-- The two workers lease for a minute and retry after a second. -/
def sampleConfig (worker : Bool) : Config :=
  ⟨if worker then "worker_a" else "worker_b", 60 * second, second⟩

/-- Both workers process the same execution. -/
def sampleStart (status : Status) (evidence : List EvidenceRow) : Threads.Config ExecutionTables Bool Reply :=
  ⟨sampleTables status evidence,
    fun worker => process (sampleConfig worker) sampleScope sampleRequest.executionID >>= fun _ => pure (), []⟩

theorem sampleStart_initial (status : Status) (evidence : List EvidenceRow) :
    Initial (sampleStart status evidence) :=
  ⟨fun worker => .process (sampleConfig worker) sampleScope sampleRequest.executionID, rfl⟩

/-- Worker `a` right after its claim. -/
def sampleClaim (status : Status) : ExecutionClaim :=
  claimOf sampleScope (sampleRecord status).value "worker_a" sampleWork 60000000 sampleRequest.createdAt

def sampleLeased (status : Status) (evidence : List EvidenceRow) : ExecutionTables :=
  leasedTables sampleKey "worker_a" 60000000 (sampleTables status evidence)

def sampleClaimEvents (status : Status) : List (Event Bool Reply) :=
  claimEvents true sampleScope sampleRequest.executionID "worker_a" sampleWork (sampleRecord status)
    sampleRequest.createdAt (60 * second) sampleRequest.createdAt

theorem sample_claimed {status : Status} (evidence : List EvidenceRow)
    (unfinished : (sampleRecord status).execution.claimable = true)
    (running : status ≠ .failed) (steady : status ≠ .recoveryRequired) :
    Reachable system (sampleStart status evidence)
      ⟨sampleLeased status evidence,
        Function.update (sampleStart status evidence).thread true
          (afterClaim (sampleConfig true) sampleScope sampleRequest.executionID sampleRequest.createdAt
            (.ok (some (sampleClaim status))) >>= fun _ => pure ()),
        sampleClaimEvents status ++ []⟩ := by
  have worker : (sampleStart status evidence).thread true =
      process (sampleConfig true) sampleScope sampleRequest.executionID >>= fun _ => pure () := rfl
  have input : validateClaimInput (sampleConfig true).workerID sampleRequest.createdAt
      (sampleConfig true).leaseDuration = .ok () := by decide
  exact process_claims worker (sample_claimable evidence unfinished running steady) input (by decide)

end WizPay.Runtime
