import WizPay.Runtime.Claiming
import WizPay.Runtime.Protocol

/-!
# At most one submission

The column `submission_started` only ever goes from false to true, and the worker whose
statement turned it is the only one armed to call `Execute`. Being armed is spent by that
call, and a lost answer to the statement arms nobody.
-/
namespace WizPay.Runtime

open Checks Exec Storage Threads

/-- The stored column `submission_started`; an execution without a work row has not started. -/
def started (t : ExecutionTables) (k : Key) : Bool := (t.workOf k).any WorkRow.submissionStarted

variable {ι : Type} {t after : ExecutionTables} {k : Key}

/-- Whether the event is a call of `Execute` for execution `k`. -/
def isSubmission (k : Key) (event : Event ι Reply) : Bool :=
  match event.request with
  | .execute scope request => executeKey scope request = k
  | _ => false

/-- How often `Execute` was called for execution `k`. -/
def submissions (k : Key) (trace : List (Event ι Reply)) : Nat := trace.countP (isSubmission k)

theorem submissions_cons_other {i : ι} {trace : List (Event ι Reply)} {call : Call} {reply : Reply call}
    (other : ∀ scope request, call ≠ .execute scope request) :
    submissions k (⟨i, call, reply⟩ :: trace) = submissions k trace := by
  refine List.countP_cons_of_neg ?_
  cases call with
  | execute scope request => exact absurd rfl (other scope request)
  | _ => exact Bool.false_ne_true

/-! ### The stored mark -/

theorem started_of_work_eq (same : after.work = t.work) : started after k = started t k := by
  simp only [started, ExecutionTables.workOf, same]

/-- An update of work rows that leaves the column alone. -/
theorem started_modify {target : Key} {change : WorkRow → WorkRow} (keys : ∀ w, (change w).key = w.key)
    (mark : ∀ w, (change w).submissionStarted = w.submissionStarted) :
    started { t with work := Table.modify WorkRow.key target change t.work } k = started t k := by
  simp only [started, ExecutionTables.workOf, Table.lookup_modify keys]
  cases Table.lookup WorkRow.key k t.work with
  | none => rfl
  | some w =>
    simp only [Option.map_some, Option.any_some]
    split
    next => exact mark w
    next => rfl

theorem started_mark {f : Fence} {row : WorkRow} (marked : markSubmissionStarted f t = .ok (row, after)) :
    started t f.key = false ∧ ∀ k, started after k = (started t k || decide (k = f.key)) := by
  obtain ⟨w, found, _, _, unmarked, _, rfl⟩ := markSubmissionStarted_ok marked
  refine ⟨by simp [started, found, unmarked], fun k => ?_⟩
  simp only [started, ExecutionTables.workOf, Table.lookup_modify WorkRow.markStarted_key]
  by_cases target : k = f.key
  · subst target
    have row : Table.lookup WorkRow.key f.key t.work = some w := found
    simp [row, WorkRow.markStarted]
  · simp [target]

theorem work_updateExecution {u : ExecutionUpdate} (updated : updateExecution u t = .ok after) :
    after.work = t.work := by
  obtain ⟨e, _, _, _, _, rfl⟩ := updateExecution_ok updated
  rfl

theorem work_appendVerificationEvidence {p : EvidenceParams} {inserted : Nat}
    (appended : appendVerificationEvidence p t = .ok (inserted, after)) : after.work = t.work := by
  rcases appendVerificationEvidence_ok appended with ⟨_, _, rfl⟩ | ⟨_, _, _, rfl⟩
  · rfl
  · rfl

theorem work_appendAudit {record : AuditRow} (appended : appendAudit record t = .ok after) :
    after.work = t.work := by
  rw [appendAudit_ok appended]

/-- No request but the mark touches the column. -/
theorem started_answer {call : Call} {reply : Reply call} (answered : answer call t reply after)
    (other : ∀ f, call ≠ .markSubmissionStarted f) : started after k = started t k := by
  cases change_of_answer answered with
  | nothing _ same => rw [same]
  | lease _ _ _ keys mark changed =>
    rw [changed]
    exact started_modify keys mark
  | mark f => exact absurd rfl (other f)
  | update _ _ _ _ _ updated audited =>
    exact started_of_work_eq ((work_appendAudit audited).trans (work_updateExecution updated))
  | observe _ _ _ _ _ _ _ updated appended audited =>
    apply started_of_work_eq
    rw [work_appendAudit audited, work_appendVerificationEvidence appended, work_updateExecution updated]
  | append _ _ appended => exact started_of_work_eq (work_appendVerificationEvidence appended)

/-- A mark goes one way, and only a mark that was not there yet is reported as a success. -/
theorem started_mark_answer {f : Fence} {reply : Except Error WorkRow}
    (answered : answer (.markSubmissionStarted f) t reply after) :
    (∀ k, started t k = true → started after k = true) ∧
      ∀ row, reply = .ok row → started t f.key = false ∧ started after f.key = true := by
  constructor
  · intro k set
    rcases DbAnswer.effect answered with rfl | ⟨row, marked⟩
    · exact set
    · rw [(started_mark marked).2 k, set, Bool.true_or]
  · rintro row rfl
    obtain ⟨unset, marked⟩ := started_mark (DbAnswer.of_ok answered)
    exact ⟨unset, by simp [marked]⟩

theorem started_environment (changed : Environment t after) : started after k = started t k := by
  cases changed with
  | clock => rfl
  | create _ r e created =>
    obtain ⟨mid, requested, inserted⟩ := bind_ok.mp created
    rw [insertExecution_ok inserted, insertRequest_ok requested]
    unfold createRuntimeWork
    split
    next => rfl
    next missing =>
      -- the new row stands for an execution that had none, and starts unmarked
      have absent : Table.lookup WorkRow.key e.key t.work = none := missing
      simp only [started, ExecutionTables.workOf, Table.lookup_append_singleton]
      by_cases own : e.newWork.key = k
      · subst own
        rw [show e.newWork.key = e.key from rfl, absent]
        simp [ExecutionRow.newWork]
      · simp [own]

section Invariant

variable [DecidableEq ι]

/-- What worker `i` knows after a trace. -/
def knowledge (i : ι) (trace : List (Event ι Reply)) : Knowledge := protocol.after Knowledge.start i trace

/-- Nobody has submitted execution `k` and nobody may. -/
def Untouched (k : Key) (trace : List (Event ι Reply)) : Prop :=
  submissions k trace = 0 ∧ ∀ i, (knowledge i trace).armed ≠ some k

/-- The state of one execution's submission, in a run that started from `first`. -/
structure SubmissionInv (first : ExecutionTables) (k : Key) (t : ExecutionTables)
    (trace : List (Event ι Reply)) : Prop where
  unmarked : started t k = false → Untouched k trace
  inherited : started first k = true → started t k = true ∧ Untouched k trace
  armed : ∀ i, (knowledge i trace).armed = some k → submissions k trace = 0
  sole : ∀ i j, (knowledge i trace).armed = some k → (knowledge j trace).armed = some k → i = j
  once : submissions k trace ≤ 1

variable {first : ExecutionTables} {trace longer : List (Event ι Reply)}

/-- Steps that submit nothing, arm nobody and never take the mark back. -/
theorem SubmissionInv.frame (inv : SubmissionInv first k t trace)
    (kept : started t k = true → started after k = true)
    (submitted : submissions k longer = submissions k trace)
    (disarms : ∀ i, (knowledge i longer).armed = some k → (knowledge i trace).armed = some k) :
    SubmissionInv first k after longer := by
  have untouched : Untouched k trace → Untouched k longer := fun ⟨none_yet, nobody⟩ =>
    ⟨submitted.trans none_yet, fun i armed => nobody i (disarms i armed)⟩
  constructor
  · intro unset
    refine untouched (inv.unmarked ?_)
    cases set : started t k with
    | false => rfl
    | true => rw [kept set] at unset; cases unset
  · intro before
    exact ⟨kept (inv.inherited before).1, untouched (inv.inherited before).2⟩
  · intro i armed
    rw [submitted]
    exact inv.armed i (disarms i armed)
  · intro i j armed armed'
    exact inv.sole i j (disarms i armed) (disarms j armed')
  · rw [submitted]
    exact inv.once

/-- A request other than a mark arms nobody. -/
theorem armed_of_longer {i j : ι} {call : Call} {reply : Reply call}
    (other : ∀ f, call ≠ .markSubmissionStarted f)
    (armed : (knowledge j (⟨i, call, reply⟩ :: trace)).armed = some k) :
    (knowledge j trace).armed = some k := by
  by_cases own : i = j
  · subst own
    rw [knowledge, Monitor.after_own] at armed
    cases call with
    | markSubmissionStarted f => exact absurd rfl (other f)
    | claimExecutionWork => cases armed
    | claimNextExecutionWork => cases armed
    | execute => cases armed
    | validateExecutionClaim f =>
      cases reply with
      | error e => exact armed
      | ok rows =>
        simp only [protocol, protocolAdvance] at armed
        split at armed
        all_goals exact armed
    | _ => exact armed
  · rwa [knowledge, Monitor.after_other protocol Knowledge.start own] at armed

/-- A successful mark makes its worker the only one armed. -/
theorem SubmissionInv.mark {i : ι} {f : Fence} {reply : Except Error WorkRow}
    (inv : SubmissionInv first k t trace) (answered : answer (.markSubmissionStarted f) t reply after) :
    SubmissionInv first k after (⟨i, .markSubmissionStarted f, reply⟩ :: trace) := by
  obtain ⟨kept, reported⟩ := started_mark_answer answered
  have submitted : submissions k (⟨i, .markSubmissionStarted f, reply⟩ :: trace) = submissions k trace :=
    submissions_cons_other fun _ _ same => nomatch same
  have elsewhere {j : ι} (other : i ≠ j) :
      knowledge j (⟨i, .markSubmissionStarted f, reply⟩ :: trace) = knowledge j trace :=
    Monitor.after_other protocol Knowledge.start other _ _ _
  have own : knowledge i (⟨i, .markSubmissionStarted f, reply⟩ :: trace) =
      protocolAdvance (knowledge i trace) (.markSubmissionStarted f) reply :=
    Monitor.after_own protocol Knowledge.start i _ _ _
  by_cases arms : (∃ row, reply = .ok row) ∧ f.key = k
  · obtain ⟨⟨row, rfl⟩, rfl⟩ := arms
    obtain ⟨unset, set⟩ := reported row rfl
    obtain ⟨none_yet, nobody⟩ := inv.unmarked unset
    have only {j : ι} (armed : (knowledge j (⟨i, .markSubmissionStarted f, .ok row⟩ :: trace)).armed =
        some f.key) : i = j := by
      by_contra other
      rw [elsewhere other] at armed
      exact nobody j armed
    constructor
    · intro still
      rw [set] at still
      cases still
    · intro before
      rw [(inv.inherited before).1] at unset
      cases unset
    · intro j _
      rw [submitted, none_yet]
    · intro j j' armed armed'
      rw [← only armed, ← only armed']
    · rw [submitted]
      exact inv.once
  · refine inv.frame (kept k) submitted fun j armed => ?_
    by_cases other : i = j
    · subst other
      rw [own] at armed
      cases reply with
      | error e => exact armed
      | ok row => exact absurd ⟨⟨row, rfl⟩, Option.some.inj armed⟩ arms
    · rwa [elsewhere other] at armed

/-- A permitted call of `Execute` spends the only arming there is. -/
theorem SubmissionInv.execute {i : ι} {scope : Scope} {request : Request} {reply : Except Error Result}
    (inv : SubmissionInv first k t trace)
    (armed : (knowledge i trace).armed = some (executeKey scope request)) :
    SubmissionInv first k t (⟨i, .execute scope request, reply⟩ :: trace) := by
  have disarms : ∀ j, (knowledge j (⟨i, .execute scope request, reply⟩ :: trace)).armed = some k →
      (knowledge j trace).armed = some k :=
    fun j => armed_of_longer fun _ same => nomatch same
  by_cases own : executeKey scope request = k
  · subst own
    have submitted : submissions (executeKey scope request) (⟨i, .execute scope request, reply⟩ :: trace) = 1 := by
      rw [submissions, List.countP_cons_of_pos (by simp [isSubmission])]
      exact congrArg (· + 1) (inv.armed i armed)
    have nobody (j : ι) : (knowledge j (⟨i, .execute scope request, reply⟩ :: trace)).armed ≠
        some (executeKey scope request) := by
      intro still
      obtain rfl := inv.sole i j armed (disarms j still)
      rw [knowledge, Monitor.after_own] at still
      cases still
    constructor
    · exact fun unset => absurd armed ((inv.unmarked unset).2 i)
    · exact fun before => absurd armed ((inv.inherited before).2.2 i)
    · exact fun j still => absurd still (nobody j)
    · exact fun j _ still _ => absurd still (nobody j)
    · exact submitted.le
  · refine inv.frame id ?_ disarms
    exact List.countP_cons_of_neg (by simp [isSubmission, own])

/-- One permitted request of one worker. -/
theorem SubmissionInv.call {i : ι} {call : Call} {reply : Reply call} (inv : SubmissionInv first k t trace)
    (permitted : protocolPermits (knowledge i trace) call) (answered : answer call t reply after) :
    SubmissionInv first k after (⟨i, call, reply⟩ :: trace) := by
  by_cases marks : ∃ f, call = .markSubmissionStarted f
  · obtain ⟨f, rfl⟩ := marks
    exact inv.mark answered
  · have other : ∀ f, call ≠ .markSubmissionStarted f := not_exists.mp marks
    by_cases submits : ∃ scope request, call = .execute scope request
    · obtain ⟨scope, request, rfl⟩ := submits
      obtain rfl : after = t := answered
      exact inv.execute permitted.1
    · refine inv.frame (fun set => (started_answer answered other).trans set) ?_ fun j => armed_of_longer other
      exact submissions_cons_other fun scope request same => submits ⟨scope, request, same⟩

/-! ### Visits -/

/-- The adapter calls of a visit after one more request; a claim begins a new visit. -/
def visitAfter (calls : List Call) : Call → List Call
  | .claimExecutionWork .. => []
  | .claimNextExecutionWork .. => []
  | .execute scope request => .execute scope request :: calls
  | .getStatus scope executionID => .getStatus scope executionID :: calls
  | _ => calls

/-- The adapter calls that worker `i` has made since its last claim, newest first. -/
def visit (i : ι) : List (Event ι Reply) → List Call
  | [] => []
  | event :: older => if event.thread = i then visitAfter (visit i older) event.request else visit i older

/-- A visit calls the adapter once at most: it submits, or it asks for the status. -/
def SingleCall (calls : List Call) : Prop :=
  calls = [] ∨ (∃ scope request, calls = [.execute scope request]) ∨
    ∃ scope executionID, calls = [.getStatus scope executionID]

theorem visit_own {i : ι} {call : Call} {reply : Reply call} :
    visit i (⟨i, call, reply⟩ :: trace) = visitAfter (visit i trace) call := by
  simp only [visit, if_true]

theorem visit_eq_nil {i : ι} (fresh : (knowledge i trace).called = false) : visit i trace = [] := by
  induction trace with
  | nil => rfl
  | cons event older ih =>
    obtain ⟨j, call, reply⟩ := event
    by_cases own : j = i
    · subst own
      rw [knowledge, Monitor.after_own] at fresh
      rw [visit_own]
      cases call with
      | claimExecutionWork => rfl
      | claimNextExecutionWork => rfl
      | execute => cases fresh
      | getStatus => cases fresh
      | validateExecutionClaim f =>
        refine ih ?_
        cases reply with
        | error e => exact fresh
        | ok rows =>
          simp only [protocol, protocolAdvance] at fresh
          split at fresh
          all_goals exact fresh
      | markSubmissionStarted f => cases reply <;> exact ih fresh
      | _ => exact ih fresh
    · rw [knowledge, Monitor.after_other protocol Knowledge.start own] at fresh
      simp only [visit, own, if_false]
      exact ih fresh

theorem singleCall_cons {i j : ι} {call : Call} {reply : Reply call} (single : SingleCall (visit i trace))
    (permitted : protocolPermits (knowledge j trace) call) :
    SingleCall (visit i (⟨j, call, reply⟩ :: trace)) := by
  by_cases own : j = i
  · subst own
    rw [visit_own]
    cases call with
    | claimExecutionWork => exact .inl rfl
    | claimNextExecutionWork => exact .inl rfl
    | execute scope request => exact .inr (.inl ⟨scope, request, by rw [visit_eq_nil permitted.2, visitAfter]⟩)
    | getStatus scope executionID => exact .inr (.inr ⟨scope, executionID, by rw [visit_eq_nil permitted, visitAfter]⟩)
    | _ => exact single
  · simpa only [visit, own, if_false] using single

/-- The invariants hold in every configuration that a run reaches. -/
theorem submissionInv_reachable {first c : Threads.Config ExecutionTables ι Reply} (initial : Initial first)
    (reached : Reachable system first c) :
    (∀ k, SubmissionInv first.shared k c.shared c.trace) ∧ ∀ i, SingleCall (visit i c.trace) := by
  refine Threads.invariant
    (fun t trace => (∀ k, SubmissionInv first.shared k t trace) ∧ ∀ i, SingleCall (visit i trace))
    initial.monitored answers_protocol ?_ ?_ ?_ reached
  · rw [initial.trace]
    have untouched (k : Key) : Untouched k ([] : List (Event ι Reply)) := ⟨rfl, fun _ => nofun⟩
    exact ⟨fun k => ⟨fun _ => untouched k, fun before => ⟨before, untouched k⟩, fun _ => nofun,
      fun _ _ => nofun, Nat.zero_le 1⟩, fun _ => .inl rfl⟩
  · intro t trace i call reply after inv permitted answered
    exact ⟨fun k => (inv.1 k).call permitted answered, fun j => singleCall_cons (inv.2 j) permitted⟩
  · intro t trace after inv changed
    refine ⟨fun k => (inv.1 k).frame (fun set => ?_) rfl fun _ => id, inv.2⟩
    rw [started_environment changed, set]

/-- In every run of any number of workers, `Execute` is called at most once for every
execution, and not at all when its mark was already there; a visit that does not submit
calls `GetStatus` only, once at most. -/
theorem submission_at_most_once {first c : Threads.Config ExecutionTables ι Reply} (initial : Initial first)
    (reached : Reachable system first c) :
    (∀ k, submissions k c.trace ≤ 1 ∧ (started first.shared k = true → submissions k c.trace = 0)) ∧
      ∀ i, SingleCall (visit i c.trace) := by
  obtain ⟨inv, single⟩ := submissionInv_reachable initial reached
  exact ⟨fun k => ⟨(inv k).once, fun before => ((inv k).inherited before).2.1⟩, single⟩

end Invariant

section Run

variable {claim : ExecutionClaim}

/-- The first visit to an EXECUTING execution marks it and then calls `Execute`. -/
theorem afterClaim_submits (config : Config) (scope : Scope) (executionID : String) (now : Int)
    (rest : Returned → Proc Unit)
    (executing : claim.execution.status = .executing) (unstarted : claim.submissionStarted = false) :
    ∃ tail, afterClaim config scope executionID now (.ok (some claim)) >>= rest =
        markSubmissionStartedProc claim >>= tail ∧
      ∀ marked, ∃ next, tail (.ok (some marked)) = .call (.execute claim.scope claim.execution.request) next := by
  obtain ⟨last, shape⟩ := afterClaim_bind config scope executionID now claim rest
  have submits : processClaim claim now = submitOrReconcile claim claim.execution now := by
    rw [processClaim, executing]
  rw [shape, submits, submitOrReconcile, if_neg (by simp [unstarted]), Program.bind_assoc]
  exact ⟨_, rfl, fun marked => ⟨_, rfl⟩⟩

/-- A mark that takes effect is answered with the renewed claim. -/
theorem markSubmissionStartedProc_yields (i : ι) {row : WorkRow}
    (token : dbVersion claim.fencingToken = .ok claim.fencingToken)
    (marked : markSubmissionStarted (claimFence claim) t = .ok (row, after))
    (renewed : row.fencingToken = claim.fencingToken) :
    (markSubmissionStartedProc claim).Yields system i t
      [⟨i, .markSubmissionStarted (claimFence claim), .ok row⟩]
      (.ok (some ⟨claim.scope, claim.execution, row.leaseOwner, row.fencingToken, row.leaseExpiresAt,
        row.submissionStarted⟩)) after := by
  have positive : row.fencingToken ≠ 0 := by
    rw [renewed]
    exact (dbVersion_ok.mp token).1
  have built : executionClaim claim.scope row claim.execution = .ok ⟨claim.scope, claim.execution,
      row.leaseOwner, row.fencingToken, row.leaseExpiresAt, row.submissionStarted⟩ := by
    simp only [executionClaim, domainVersion_ok.mpr ⟨positive, rfl⟩]
    rfl
  unfold markSubmissionStartedProc
  simp only [token]
  refine Program.Yields.ask (.done row after marked) ?_
  simp only [built]
  exact .done _ _

end Run

theorem markSubmissionStarted_of_holds {f : Fence} {w : WorkRow} (found : t.workOf f.key = some w)
    (held : holds f t = true) (unstarted : w.submissionStarted = false) :
    markSubmissionStarted f t = .ok (w.markStarted,
      { t with work := Table.modify WorkRow.key f.key WorkRow.markStarted t.work }) := by
  obtain ⟨row, same, owned, unexpired⟩ := holds_iff.mp held
  obtain rfl : w = row := Option.some.inj (found.symm.trans same)
  simp only [markSubmissionStarted, found, owned, unexpired, unstarted]
  rfl

/-- The requests of worker `a` until it has submitted, newest first. -/
def sampleSubmission : List (Event Bool Reply) :=
  [⟨true, .execute sampleScope sampleRequest, .error .interrupted⟩,
    ⟨true, .markSubmissionStarted (claimFence (sampleClaim .executing)),
      .ok (sampleWork.lease "worker_a" 60000000 sampleRequest.createdAt).markStarted⟩] ++
    sampleClaimEvents .executing

/-- The same requests with any answer to the submission. -/
def sampleExecuted (answer : Except Error Result) : List (Event Bool Reply) :=
  ⟨true, .execute sampleScope sampleRequest, answer⟩ :: sampleSubmission.tail

/-- A worker that claims a fresh EXECUTING execution does submit it, whatever is answered. -/
theorem sample_executes (answer : Except Error Result) :
    ∃ c, Reachable system (sampleStart .executing []) c ∧ c.trace = sampleExecuted answer ∧
      started c.shared sampleKey = true := by
  have unfinished : (sampleRecord .executing).execution.claimable = true := rfl
  have claimable := sample_claimable [] unfinished (by decide) (by decide)
  have claimed := sample_claimed [] unfinished (by decide) (by decide)
  -- the mark takes effect under the lease just taken
  have marked := markSubmissionStarted_of_holds (claimable.leased_work "worker_a" 60000000)
    (claimable.holds_lease "worker_a" (by decide)) rfl
  obtain ⟨tail, shape, submits⟩ := afterClaim_submits (sampleConfig true) sampleScope sampleRequest.executionID
    sampleRequest.createdAt (fun _ => pure ()) (show (sampleClaim .executing).execution.status = .executing from rfl) rfl
  rw [shape] at claimed
  have token : dbVersion (sampleClaim .executing).fencingToken = .ok (sampleClaim .executing).fencingToken := rfl
  have armed := (markSubmissionStartedProc_yields true token marked rfl).extend claimed
  obtain ⟨next, executing⟩ := submits _
  rw [executing] at armed
  refine ⟨_, armed.ask answer rfl, rfl, ?_⟩
  rw [(started_mark marked).2]
  simp [sampleKey, Fence.key]

theorem sample_submits :
    ∃ c, Reachable system (sampleStart .executing []) c ∧ c.trace = sampleSubmission ∧
      started c.shared sampleKey = true :=
  sample_executes (.error .interrupted)

theorem submission_at_most_once_reached :
    ∃ c, Reachable system (sampleStart .executing []) c ∧ submissions sampleKey c.trace = 1 ∧
      (∀ k, submissions k c.trace ≤ 1 ∧
        (started (sampleStart .executing []).shared k = true → submissions k c.trace = 0)) ∧
      ∀ i, SingleCall (visit i c.trace) := by
  obtain ⟨c, reached, trace, _⟩ := sample_submits
  have once : submissions sampleKey c.trace = 1 := by
    rw [trace]
    rfl
  exact ⟨c, reached, once, submission_at_most_once (sampleStart_initial _ _) reached⟩

end WizPay.Runtime
