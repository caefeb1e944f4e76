import WizPay.Runtime.Submission

/-!
# Fenced writes

The transactions of the runtime repository write only under a claim that is current and
unexpired at that instant. The exception is the evidence that a PENDING verification
appends: that statement presents no claim.
-/
namespace WizPay.Runtime

open Checks Exec Storage Threads

/-- What the runtime stores about one execution. -/
structure Durable where
  execution : Option ExecutionRow
  revisions : List RevisionRow
  started : Bool
  evidence : List EvidenceRow
  audit : List AuditRow

def durable (t : ExecutionTables) (k : Key) : Durable :=
  { execution := t.executionOf k
    revisions := t.revisions.filter fun row => row.key = k
    started := started t k
    evidence := t.evidence.filter fun row => row.key = k
    audit := t.audit.filter fun row => row.key = k }

variable {t after : ExecutionTables} {k : Key} {f : Fence}

/-! ### What each statement leaves alone -/

theorem durable_of_eq (executions : after.executions = t.executions) (revisions : after.revisions = t.revisions)
    (mark : started after k = started t k) (evidence : after.evidence = t.evidence)
    (audit : after.audit = t.audit) : durable after k = durable t k := by
  simp only [durable, ExecutionTables.executionOf, executions, revisions, mark, evidence, audit]

theorem filter_append_other {ρ : Type} {key : ρ → Key} {rows : List ρ} {row : ρ} (other : key row ≠ k) :
    (rows ++ [row]).filter (fun row => decide (key row = k)) = rows.filter fun row => decide (key row = k) := by
  simp [List.filter_append, other]

theorem durable_updateExecution {u : ExecutionUpdate} (updated : updateExecution u t = .ok after)
    (other : u.key ≠ k) : durable after k = durable t k := by
  obtain ⟨e, found, _, _, _, rfl⟩ := updateExecution_ok updated
  have key : e.key = u.key := (Table.lookup_some found).1
  simp only [durable, ExecutionTables.executionOf]
  rw [Table.lookup_modify_other u.apply_key (Ne.symm other), filter_append_other]
  · rfl
  · exact fun same => other (key.symm.trans same)

theorem durable_appendVerificationEvidence {p : EvidenceParams} {inserted : Nat}
    (appended : appendVerificationEvidence p t = .ok (inserted, after)) (other : p.key ≠ k) :
    durable after k = durable t k := by
  rcases appendVerificationEvidence_ok appended with ⟨_, _, rfl⟩ | ⟨_, _, _, rfl⟩
  · rfl
  · simp only [durable]
    rw [filter_append_other]
    · rfl
    · exact other

theorem durable_appendAudit {record : AuditRow} (appended : appendAudit record t = .ok after)
    (other : record.key ≠ k) : durable after k = durable t k := by
  rw [appendAudit_ok appended]
  simp only [durable]
  rw [filter_append_other other]
  rfl

theorem durable_markSubmissionStarted {row : WorkRow} (marked : markSubmissionStarted f t = .ok (row, after))
    (other : f.key ≠ k) : durable after k = durable t k := by
  have mark : started after k = started t k := by
    rw [(started_mark marked).2 k, decide_eq_false (Ne.symm other), Bool.or_false]
  obtain ⟨w, _, _, _, _, _, rfl⟩ := markSubmissionStarted_ok marked
  exact durable_of_eq rfl rfl mark rfl rfl

section Step

variable {ι : Type} [DecidableEq ι]

/-- `ValidateExecutionClaim` has confirmed fence `f` to worker `i`. -/
def Granted (i : ι) (f : Fence) (trace : List (Event ι Reply)) : Prop :=
  ⟨i, .validateExecutionClaim f, .ok 1⟩ ∈ trace

/-- Worker `i` has the current claim of execution `k`, and its lease has not run out. -/
def HoldsClaim (i : ι) (k : Key) (c : Threads.Config ExecutionTables ι Reply) : Prop :=
  ∃ f, Granted i f c.trace ∧ f.key = k ∧ holds f c.shared = true

/-- Whatever a worker changes in a step, it changes under a current claim. -/
def FencedWrites (move : Move ExecutionTables ι Reply) : Prop :=
  ∀ event, move.label = .call event → ∀ k, durable move.after.shared k ≠ durable move.before.shared k →
    HoldsClaim event.thread k move.before

/-- An appended observation is appended under a current claim. -/
def AppendsUnderClaim (move : Move ExecutionTables ι Reply) : Prop :=
  ∀ i p reply, move.label = .call ⟨i, .appendVerificationEvidence p, reply⟩ → HoldsClaim i p.key move.before

variable {first c d : Threads.Config ExecutionTables ι Reply}

theorem granted_of_fences {i : ι} {trace : List (Event ι Reply)} (known : f ∈ (knowledge i trace).fences) :
    Granted i f trace := by
  induction trace with
  | nil => cases known
  | cons event older ih =>
    obtain ⟨j, call, reply⟩ := event
    by_cases own : j = i
    · subst own
      rw [knowledge, Monitor.after_own] at known
      cases call with
      | validateExecutionClaim g =>
        cases reply with
        | error e => exact .tail _ (ih known)
        | ok rows =>
          simp only [protocol, protocolAdvance] at known
          split at known
          next confirmed =>
            subst confirmed
            rcases List.mem_cons.mp known with rfl | earlier
            · exact .head _
            · exact .tail _ (ih earlier)
          next => exact .tail _ (ih known)
      | markSubmissionStarted g => cases reply <;> exact .tail _ (ih known)
      | _ => exact .tail _ (ih known)
    · rw [knowledge, Monitor.after_other protocol Knowledge.start own] at known
      exact .tail _ (ih known)

/-- Every permitted request but the append changes something under a current claim only. -/
theorem changes_under_fence {call : Call} {reply : Reply call} {m : Knowledge}
    (permitted : protocolPermits m call) (answered : answer call t reply after)
    (other : ∀ p, call ≠ .appendVerificationEvidence p) (changed : durable after k ≠ durable t k) :
    ∃ f ∈ m.fences, f.key = k ∧ holds f t = true := by
  cases change_of_answer answered with
  | nothing _ same => exact absurd (by rw [same]) changed
  | lease _ _ _ keys marks leased =>
    subst leased
    exact (changed (durable_of_eq rfl rfl (started_modify keys marks) rfl rfl)).elim
  | mark f row marked =>
    obtain ⟨w, found, owned, unexpired, _⟩ := markSubmissionStarted_ok marked
    refine ⟨f, permitted, ?_, holds_iff.mpr ⟨w, found, owned, unexpired⟩⟩
    by_contra elsewhere
    exact changed (durable_markSubmissionStarted marked elsewhere)
  | update f u record mid held updated audited =>
    obtain ⟨known, update, recorded, _⟩ := permitted
    refine ⟨f, known, ?_, held⟩
    by_contra elsewhere
    apply changed
    rw [durable_appendAudit audited (recorded ▸ elsewhere), durable_updateExecution updated (update ▸ elsewhere)]
  | observe f u p record mid last held updated appended audited =>
    obtain ⟨known, update, observed, recorded, _⟩ := permitted
    refine ⟨f, known, ?_, held⟩
    by_contra elsewhere
    apply changed
    rw [durable_appendAudit audited (recorded ▸ elsewhere), durable_appendVerificationEvidence appended (observed ▸ elsewhere),
      durable_updateExecution updated (update ▸ elsewhere)]
  | append p => exact absurd rfl (other p)

theorem step_fencedWrites {label : Label ι Reply} (initial : Initial first) (reached : Reachable system first c)
    (stepped : Step system c label d) (claimed : AppendsUnderClaim ⟨c, label, d⟩) :
    FencedWrites ⟨c, label, d⟩ := by
  rintro event rfl k changed
  have permitted := (initial.monitored.reachable answers_protocol reached).permits stepped
  cases stepped with
  | call i call next reply after running answered =>
    by_cases appends : ∃ p, call = .appendVerificationEvidence p
    · obtain ⟨p, rfl⟩ := appends
      have target : p.key = k := by
        by_contra elsewhere
        rcases DbAnswer.effect answered with same | ⟨inserted, appended⟩
        · exact changed (congrArg (durable · k) same)
        · exact changed (durable_appendVerificationEvidence appended elsewhere)
      exact target ▸ claimed i p reply rfl
    · obtain ⟨f, known, key, held⟩ := changes_under_fence permitted answered (not_exists.mp appends) changed
      exact ⟨f, granted_of_fences known, key, held⟩

/-- In every run in which observations are appended under a current claim only, whatever the
runtime stores about an execution is stored by a worker that holds its current claim. -/
theorem durable_writes_fenced {moves : List (Move ExecutionTables ι Reply)} (initial : Initial first)
    (run : Run system first moves c) (claimed : ∀ move ∈ moves, AppendsUnderClaim move) :
    ∀ move ∈ moves, FencedWrites move := by
  have each := run.forall_moves (P := fun move => AppendsUnderClaim move → FencedWrites move)
    fun c label d reached stepped => step_fencedWrites initial reached stepped
  exact fun move member => each move member (claimed move member)

end Step

/-- The run that submits writes under its claim. -/
theorem durable_writes_fenced_submission :
    ∃ moves c, Run system (sampleStart .executing []) moves c ∧
      durable c.shared sampleKey ≠ durable (sampleStart .executing []).shared sampleKey ∧
      (∀ move ∈ moves, AppendsUnderClaim move) ∧ ∀ move ∈ moves, FencedWrites move := by
  obtain ⟨c, reached, trace, marked⟩ := sample_submits
  obtain ⟨moves, run⟩ := reached.run
  have claimed : ∀ move ∈ moves, AppendsUnderClaim move := by
    intro move member i p reply called
    have listed := run.mem_trace member called
    rw [trace] at listed
    simp [sampleSubmission, sampleClaimEvents, claimEvents] at listed
  refine ⟨moves, c, run, fun same => ?_, claimed,
    durable_writes_fenced (sampleStart_initial _ _) run claimed⟩
  have mark : started c.shared sampleKey = started (sampleStart .executing []).shared sampleKey :=
    congrArg Durable.started same
  rw [marked] at mark
  exact absurd mark (by decide)

/-! ### A stale append -/

/-- A visit to a CONFIRMING execution reads the last reference, asks the verifier, and applies its answer. -/
theorem afterClaim_verifies {claim : ExecutionClaim} (config : Config) (scope : Scope) (executionID : String)
    (now : Int) (rest : Returned → Proc Unit) (confirming : claim.execution.status = .confirming) :
    ∃ tail, afterClaim config scope executionID now (.ok (some claim)) >>= rest =
        latestReference claim.scope claim.execution.executionID >>= tail ∧
      ∀ reference, ∃ next last, tail (.ok reference) = .call (.verify claim.scope claim.execution reference) next ∧
        ∀ answer, next answer = applyVerification claim claim.execution reference now answer >>= last := by
  obtain ⟨last, shape⟩ := afterClaim_bind config scope executionID now claim rest
  have verifies : processClaim claim now = verify claim claim.execution now := by
    rw [processClaim, confirming]
  rw [shape, verifies, verify, Program.bind_assoc]
  exact ⟨_, rfl, fun reference => ⟨_, _, rfl, fun answer => rfl⟩⟩

theorem latestReference_yields {ι : Type} (i : ι) {scope : Scope} {executionID reference : String}
    {rows : List EvidenceRow} {values : List Result} (trusted : scope.validate = .ok ())
    (found : findVerificationEvidence (scope.tenantID, executionID) scope.actorID t = rows)
    (restored : evidenceFromRows rows = .ok values) (last : lastReference values = some reference) :
    (latestReference scope executionID).Yields system i t
      [⟨i, .findVerificationEvidence (scope.tenantID, executionID) scope.actorID, .ok rows⟩] (.ok reference) t := by
  have read : answer (.findVerificationEvidence (scope.tenantID, executionID) scope.actorID) t (.ok rows) t :=
    .done _ _ (by rw [found])
  have values : (findVerificationEvidenceProc scope executionID).Yields system i t
      [⟨i, .findVerificationEvidence (scope.tenantID, executionID) scope.actorID, .ok rows⟩] (.ok values) t := by
    simp only [findVerificationEvidenceProc, trusted]
    refine Program.Yields.ask read ?_
    simp only [restored]
    exact .done _ _
  unfold latestReference
  refine values.bind ?_
  simp only [last]
  exact .done _ _

/-- A PENDING answer with another reference is appended at once. -/
theorem applyVerification_appends {claim : ExecutionClaim} {value : Execution} {reference : String} {now : Int}
    {result : VerificationResult} {observation : Result} {params : EvidenceParams}
    (valid : validateVerification result = .ok ()) (pending : result.outcome = .pending)
    (moved : result.reference ≠ "" ∧ result.reference ≠ reference)
    (observed : newResult
      { executionID := value.executionID, executionVersion := value.revision, status := value.status,
        adapterReference := result.reference, errorCode := "", observedAt := result.observedAt } = .ok observation)
    (built : appendVerificationEvidenceParams claim.scope observation = .ok params) (rest : Returned → Proc Unit) :
    ∃ tail, applyVerification claim value reference now (.ok result) >>= rest =
      .call (.appendVerificationEvidence params) tail := by
  simp only [applyVerification, valid, pending, persistPending, if_pos moved, observed,
    appendVerificationEvidenceProc, built]
  exact ⟨_, rfl⟩

def sampleEvidence : EvidenceRow :=
  ⟨"tenant_1", 1, sampleRequest.executionID, 4, .submitted, "ref_1", "", sampleRequest.createdAt⟩

/-- The verifier saw the transaction move to another reference. -/
def samplePending : VerificationResult := ⟨.pending, "ref_2", "", sampleRequest.createdAt + GoTime.second⟩

/-- What the PENDING branch then appends. -/
def sampleAppend : EvidenceParams :=
  ⟨"tenant_1", "user_1", sampleRequest.executionID, 5, .confirming, "ref_2", "",
    sampleRequest.createdAt + GoTime.second⟩

/-- Two minutes later the lease of worker `a` has run out. -/
def sampleExpired : ExecutionTables :=
  { sampleLeased .confirming [sampleEvidence] with clock := sampleRequest.createdAt + 120 * GoTime.second }

/-- The tables with the observation that worker `a` still adds. -/
def sampleAppended : ExecutionTables :=
  { sampleExpired with evidence := [sampleEvidence, sampleAppend.row 2] }

theorem sample_appends (last : Returned → Proc Unit) : ∃ rest,
    applyVerification (sampleClaim .confirming) (sampleClaim .confirming).execution "ref_1" sampleRequest.createdAt
      (.ok samplePending) >>= last = .call (.appendVerificationEvidence sampleAppend) rest := by
  have valid : validateVerification samplePending = .ok () := by decide
  have moved : samplePending.reference ≠ "" ∧ samplePending.reference ≠ "ref_1" := by decide
  have observed : newResult
      { executionID := (sampleClaim .confirming).execution.executionID
        executionVersion := (sampleClaim .confirming).execution.revision
        status := (sampleClaim .confirming).execution.status
        adapterReference := samplePending.reference, errorCode := "", observedAt := samplePending.observedAt } =
      .ok ⟨sampleRequest.executionID, 5, .confirming, "ref_2", "", sampleRequest.createdAt + GoTime.second⟩ := by
    decide +kernel
  have built : appendVerificationEvidenceParams (sampleClaim .confirming).scope ⟨sampleRequest.executionID, 5,
      .confirming, "ref_2", "", sampleRequest.createdAt + GoTime.second⟩ = .ok sampleAppend := by decide +kernel
  exact applyVerification_appends valid rfl moved observed built last

theorem sample_reads : (latestReference sampleScope sampleRequest.executionID).Yields system true
    (sampleLeased .confirming [sampleEvidence])
    [⟨true, .findVerificationEvidence (sampleScope.tenantID, sampleRequest.executionID) sampleScope.actorID,
      .ok [sampleEvidence]⟩] (.ok "ref_1") (sampleLeased .confirming [sampleEvidence]) := by
  have trusted : sampleScope.validate = .ok () := by decide
  have found : findVerificationEvidence (sampleScope.tenantID, sampleRequest.executionID) sampleScope.actorID
      (sampleLeased .confirming [sampleEvidence]) = [sampleEvidence] := by decide +kernel
  have restored : evidenceFromRows [sampleEvidence] = .ok [⟨sampleRequest.executionID, 4, .submitted, "ref_1", "",
      sampleRequest.createdAt⟩] := by decide +kernel
  have last : lastReference [⟨sampleRequest.executionID, 4, .submitted, "ref_1", "",
      sampleRequest.createdAt⟩] = some "ref_1" := by decide
  exact latestReference_yields true trusted found restored last

/-- Worker `a` is about to append what it has been told, and its lease has run out. -/
theorem sample_stale : ∃ thread trace tail,
    Reachable system (sampleStart .confirming [sampleEvidence])
      ⟨sampleExpired, Function.update thread true (.call (.appendVerificationEvidence sampleAppend) tail), trace⟩ := by
  have unfinished : (sampleRecord .confirming).execution.claimable = true := rfl
  have confirming : (sampleClaim .confirming).execution.status = .confirming := rfl
  have claimed := sample_claimed [sampleEvidence] unfinished (by decide) (by decide)
  obtain ⟨tail, shape, asks⟩ := afterClaim_verifies (sampleConfig true) sampleScope sampleRequest.executionID
    sampleRequest.createdAt (fun _ => pure ()) confirming
  obtain ⟨next, last, verifies, applies⟩ := asks "ref_1"
  obtain ⟨rest, appends⟩ := sample_appends last
  rw [shape] at claimed
  have read := sample_reads.extend claimed
  rw [verifies] at read
  have answered := read.ask (Except.ok samplePending) rfl
  rw [applies, appends] at answered
  exact ⟨_, _, rest, answered.tail ⟨_, .environment _ sampleExpired (.clock _ _)⟩⟩

theorem sampleExpired_not_held (key : f.key = sampleKey) : holds f sampleExpired = false := by
  rw [Bool.eq_false_iff]
  intro held
  obtain ⟨w, found, _, unexpired⟩ := holds_iff.mp held
  have row : sampleExpired.workOf sampleKey = some (sampleWork.lease "worker_a" 60000000 sampleRequest.createdAt) := by
    decide +kernel
  rw [key, row] at found
  cases found
  exact absurd unexpired (by decide)

/-- A worker whose lease has run out still adds an observation to the stored evidence. -/
theorem pending_append_unfenced :
    ∃ moves c, Run system (sampleStart .confirming [sampleEvidence]) moves c ∧
      ∃ move ∈ moves, ¬ FencedWrites move := by
  obtain ⟨thread, trace, tail, stale⟩ := sample_stale
  obtain ⟨moves, run⟩ := stale.run
  have appended : appendVerificationEvidence sampleAppend sampleExpired = .ok (1, sampleAppended) := by
    decide +kernel
  have stepped := Step.call (S := system)
    ⟨sampleExpired, Function.update thread true (.call (.appendVerificationEvidence sampleAppend) tail), trace⟩
    true _ tail (Except.ok 1) sampleAppended (Function.update_self true _ thread) (.done _ _ appended)
  refine ⟨_, _, .step moves _ _ _ run stepped, _, .head _, fun fenced => ?_⟩
  have changed : durable sampleAppended sampleKey ≠ durable sampleExpired sampleKey := by
    intro same
    have rows : (durable sampleAppended sampleKey).evidence = (durable sampleExpired sampleKey).evidence :=
      congrArg Durable.evidence same
    exact absurd (congrArg List.length rows) (by decide +kernel)
  obtain ⟨f, _, key, held⟩ := fenced _ rfl sampleKey changed
  rw [sampleExpired_not_held key] at held
  cases held

end WizPay.Runtime
