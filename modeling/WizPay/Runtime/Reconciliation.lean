import WizPay.Providers.Circle.Evidence
import WizPay.Providers.Verifier
import WizPay.Runtime.Submission

/-!
# No false terminal failure

Once a provider request may have been sent for an execution, it fails for good only when
the provider has shown that no transfer can happen any more, or on an on-chain receipt.
A reconciliation, however, takes an HTTP refusal of a read for a refusal of the
operation, so the result holds for trusted reads.
-/
namespace WizPay.Runtime

open Checks Exec Storage Threads Providers Providers.Circle

/-- The wired providers. -/
structure Plane where
  adapter : Adapter
  verifier : Verifier

/-- What the providers, the chain and the clock answered while a step called the adapter or the verifier. -/
inductive Pass
  | submit (pass : SubmitPass)
  | status (pass : StatusPass)
  | verify (memory : ObservationTracker) (pass : VerifyPass)
      (domain : VerificationObservation → Except Error VerificationResult)
  | idle

/-- The adapter reads the evidence of the execution from the same tables, or fails to. -/
def ReadsEvidence (t : ExecutionTables) (scope : Scope) (executionID : String)
    (records : Except Error (List Result)) : Prop :=
  ∀ values, records = .ok values →
    evidenceFromRows (findVerificationEvidence (scope.tenantID, executionID) scope.actorID t) = .ok values

/-- The reply is what the wired method computes from its pass. -/
def Explains (plane : Plane) (t : ExecutionTables) : (call : Call) → Reply call → Pass → Prop
  | .execute _ request, reply, .submit pass => reply = (plane.adapter.execute request pass).answer
  | .getStatus scope executionID, reply, .status pass =>
    ReadsEvidence t scope executionID pass.records ∧ reply = plane.adapter.getStatus executionID pass
  | .verify _ _ reference, reply, .verify memory pass domain =>
    reply = (plane.verifier.verify memory reference pass domain).1
  | .execute .., _, _ => False
  | .getStatus .., _, _ => False
  | .verify .., _, _ => False
  | _, _, _ => True

variable {reply : Except Error Result} {scope : Scope} {plane : Plane} {u : ExecutionUpdate} {record : AuditRow}

theorem Explains.status {t : ExecutionTables} {executionID : String} {pass : Pass}
    (explained : Explains plane t (.getStatus scope executionID) reply pass) :
    ∃ reads, pass = .status reads ∧ reply = plane.adapter.getStatus executionID reads := by
  cases pass with
  | status reads => exact ⟨reads, rfl, explained.2⟩
  | submit => exact explained.elim
  | verify => exact explained.elim
  | idle => exact explained.elim

theorem Explains.verify {t : ExecutionTables} {value : Execution} {reference : String}
    {reply : Except Error VerificationResult} {pass : Pass}
    (explained : Explains plane t (.verify scope value reference) reply pass) :
    ∃ memory reads domain, pass = .verify memory reads domain ∧
      reply = (plane.verifier.verify memory reference reads domain).1 := by
  cases pass with
  | verify memory reads domain => exact ⟨memory, reads, domain, rfl, explained⟩
  | submit => exact explained.elim
  | status => exact explained.elim
  | idle => exact explained.elim

variable {ι : Type} {k : Key} {t after : ExecutionTables}

variable (plane : Plane) (pass : Move ExecutionTables ι Reply → Pass)

/-- Every answer of the run comes from the wired providers, by the recorded passes. -/
def Wired (moves : List (Move ExecutionTables ι Reply)) : Prop :=
  ∀ move ∈ moves, ∀ event, move.label = .call event →
    Explains plane move.before.shared event.request event.reply (pass move)

/-- Every reconciliation of the run has trusted reads. -/
def TrustedReads (pass : Move ExecutionTables ι Reply → Pass) (moves : List (Move ExecutionTables ι Reply)) : Prop :=
  ∀ move ∈ moves, ∀ i scope executionID reply reads,
    move.label = .call ⟨i, .getStatus scope executionID, reply⟩ → pass move = .status reads →
    Trusted executionID reads

/-- The move has handed a provider request for `k` to the network. -/
def Sends (k : Key) (move : Move ExecutionTables ι Reply) : Prop :=
  ∃ i scope request reply submission, move.label = .call ⟨i, .execute scope request, reply⟩ ∧
    executeKey scope request = k ∧ pass move = .submit submission ∧
    (plane.adapter.execute request submission).sent ≠ none

/-- A provider request may have been sent for `k`: before the run, or in it. -/
def MaySent (first : ExecutionTables) (k : Key) (earlier : List (Move ExecutionTables ι Reply)) : Prop :=
  started first k = true ∨ ∃ move ∈ earlier, Sends plane pass k move

/-- The stored execution `k` has failed for good. -/
def Ended (t : ExecutionTables) (k : Key) : Prop :=
  ∃ e, t.executionOf k = some e ∧ failedForGood e.status e.failure

/-- The stored execution `k` turns from anything else into a final failure. -/
def Ends (k : Key) (before after : ExecutionTables) : Prop :=
  (before.executionOf k).isSome = true ∧ ¬ Ended before k ∧ Ended after k

/-- What a final failure of `k` may rest on. -/
inductive Ground (k : Key) (i : ι) (move : Move ExecutionTables ι Reply) : Pass → Prop
  | noTransfer (scope : Scope) (executionID : String) (reply : Except Error Result) (reads : StatusPass)
      (called : move.label = .call ⟨i, .getStatus scope executionID, reply⟩)
      (target : (scope.tenantID, executionID) = k) (shown : NoTransfer executionID reads) :
      Ground k i move (.status reads)
  | receipt (scope : Scope) (value : Execution) (reference : String) (reply : Except Error VerificationResult)
      (memory : ObservationTracker) (reads : VerifyPass)
      (domain : VerificationObservation → Except Error VerificationResult)
      (called : move.label = .call ⟨i, .verify scope value reference, reply⟩)
      (target : (scope.tenantID, value.executionID) = k) (shown : OnChain reference reads) :
      Ground k i move (.verify memory reads domain)

/-! ### Which statement ends an execution -/

theorem ended_of_executions_eq (same : after.executions = t.executions) : Ended after k ↔ Ended t k := by
  simp only [Ended, ExecutionTables.executionOf, same]

/-- An update of execution rows ends the one that it names, and only by its own values. -/
theorem ends_updateExecution (updated : updateExecution u t = .ok after) (alive : ¬ Ended t k)
    (ended : Ended after k) : u.key = k ∧ failedForGood u.status u.failure := by
  obtain ⟨row, found, _, _, _, rfl⟩ := updateExecution_ok updated
  obtain ⟨e, stored, final⟩ := ended
  simp only [ExecutionTables.executionOf, Table.lookup_modify u.apply_key] at stored
  cases old : Table.lookup ExecutionRow.key k t.executions with
  | none => simp [old] at stored
  | some before =>
    simp only [old, Option.map_some, Option.some.injEq] at stored
    split at stored
    next target =>
      subst stored
      exact ⟨target.symm, final⟩
    next =>
      subst stored
      exact absurd ⟨before, old, final⟩ alive

theorem executions_appendAudit (appended : appendAudit record t = .ok after) :
    after.executions = t.executions := by
  rw [appendAudit_ok appended]

/-- Only a fenced update ends an execution. -/
theorem ends_answer {call : Call} {reply : Reply call} (answered : answer call t reply after)
    (ends : Ends k t after) :
    (∃ f u record, call = .updateClaimed f u record ∧ u.key = k ∧ failedForGood u.status u.failure) ∨
      ∃ f u p record, call = .persistClaimed f u p record ∧ u.key = k ∧ failedForGood u.status u.failure := by
  obtain ⟨_, alive, ended⟩ := ends
  have unchanged (same : after.executions = t.executions) : False :=
    alive ((ended_of_executions_eq same).mp ended)
  cases change_of_answer answered with
  | nothing _ same => exact (unchanged (by rw [same])).elim
  | lease _ _ _ _ _ changed => exact (unchanged (by rw [changed])).elim
  | mark f row marked =>
    obtain ⟨w, _, _, _, _, _, rfl⟩ := markSubmissionStarted_ok marked
    exact (unchanged rfl).elim
  | update f u record mid _ updated audited =>
    have reached : Ended mid k := (ended_of_executions_eq (executions_appendAudit audited)).mp ended
    exact .inl ⟨f, u, record, rfl, ends_updateExecution updated alive reached⟩
  | observe f u p record mid last _ updated appended audited =>
    have same : after.executions = mid.executions :=
      (executions_appendAudit audited).trans (executions_appendVerificationEvidence appended)
    have reached : Ended mid k := (ended_of_executions_eq same).mp ended
    exact .inr ⟨f, u, p, record, rfl, ends_updateExecution updated alive reached⟩
  | append _ _ appended => exact (unchanged (executions_appendVerificationEvidence appended)).elim

/-- The environment adds executions and ends none. -/
theorem ends_environment (changed : Environment t after) : ¬ Ends k t after := by
  rintro ⟨stored, alive, ended⟩
  cases changed with
  | clock => exact alive ended
  | create _ r e created =>
    obtain ⟨mid, requested, inserted⟩ := bind_ok.mp created
    obtain ⟨row, found⟩ := Option.isSome_iff_exists.mp stored
    refine alive ?_
    obtain ⟨last, read, final⟩ := ended
    -- the row that is there already is found before the new one
    have same : after.executionOf k = some row := by
      rw [insertExecution_ok inserted, insertRequest_ok requested]
      have kept : Table.lookup ExecutionRow.key k (t.executions ++ [e]) = some row := by
        rw [Table.lookup_append_singleton]
        simp [show Table.lookup ExecutionRow.key k t.executions = some row from found]
      unfold createRuntimeWork
      split
      all_goals exact kept
    rw [same] at read
    cases read
    exact ⟨row, found, final⟩

/-! ### The answer behind a final failure -/

variable {plane pass}

section Ground

variable {first c : Threads.Config ExecutionTables ι Reply} {moves : List (Move ExecutionTables ι Reply)}

def isClaim : Call → Bool
  | .claimExecutionWork .. | .claimNextExecutionWork .. => true
  | _ => false

/-- Worker `i` has made no claim in these moves: they belong to one visit. -/
def SameVisit (i : ι) (moves : List (Move ExecutionTables ι Reply)) : Prop :=
  ∀ move ∈ moves, ∀ event, move.label = .call event → event.thread = i → isClaim event.request = false

theorem SameVisit.cons {i : ι} {move : Move ExecutionTables ι Reply} (same : SameVisit i moves)
    (unclaimed : ∀ event, move.label = .call event → event.thread = i → isClaim event.request = false) :
    SameVisit i (move :: moves) := by
  intro other member
  rcases List.mem_cons.mp member with rfl | older
  · exact unclaimed
  · exact same other older

variable [DecidableEq ι]

/-- What a worker has heard was answered to it in the present visit. -/
theorem heard_in_visit (untouched : first.trace = []) (run : Run system first moves c) {i : ι} {call : Call}
    {reply : Reply call} (heard : (knowledge i c.trace).heard = some ⟨call, reply⟩) :
    ∃ visit ground older, moves = visit ++ ground :: older ∧ ground.label = .call ⟨i, call, reply⟩ ∧
      SameVisit i visit := by
  induction run with
  | start =>
    rw [untouched] at heard
    cases heard
  | step moves c d label run stepped ih =>
    -- a move that leaves the hearing alone joins the visit
    have extend (same : (knowledge i c.trace).heard = some ⟨call, reply⟩)
        (unclaimed : ∀ event, label = .call event → event.thread = i → isClaim event.request = false) :
        ∃ visit ground older, (⟨c, label, d⟩ :: moves : List (Move ExecutionTables ι Reply)) =
          visit ++ ground :: older ∧ ground.label = .call ⟨i, call, reply⟩ ∧ SameVisit i visit := by
      obtain ⟨visit, ground, older, shape, called, quiet⟩ := ih same
      exact ⟨⟨c, label, d⟩ :: visit, ground, older, by rw [shape]; rfl, called, quiet.cons unclaimed⟩
    cases stepped with
    | crash j | environment after changed => exact extend heard (by rintro event ⟨⟩)
    | call j request next answered after running served =>
      by_cases own : j = i
      · subst own
        rw [knowledge, Monitor.after_own] at heard
        have quiet (plain : isClaim request = false) : ∀ event,
            (Label.call ⟨j, request, answered⟩ : Label ι Reply) = .call event → event.thread = j →
              isClaim event.request = false := by
          intro event called _
          cases called
          exact plain
        cases request with
        | claimExecutionWork => cases heard
        | claimNextExecutionWork => cases heard
        | execute scope request | getStatus scope executionID | verify scope value reference =>
          cases heard
          exact ⟨[], _, moves, rfl, rfl, by rintro _ ⟨⟩⟩
        | validateExecutionClaim f =>
          refine extend ?_ (quiet rfl)
          cases answered with
          | error e => exact heard
          | ok rows =>
            simp only [protocol, protocolAdvance] at heard
            split at heard
            all_goals exact heard
        | markSubmissionStarted f =>
          refine extend ?_ (quiet rfl)
          cases answered with
          | error e => exact heard
          | ok row => exact heard
        | _ => exact extend heard (quiet rfl)
      · rw [knowledge, Monitor.after_other protocol Knowledge.start own] at heard
        refine extend heard fun event called same => ?_
        cases called
        exact absurd same own

/-- The step that ends an execution follows an answer that condemns it. -/
theorem ends_condemned (initial : Initial first) (reached : Reachable system first c)
    {label : Label ι Reply} {d : Threads.Config ExecutionTables ι Reply} (stepped : Step system c label d)
    (ends : Ends k c.shared d.shared) :
    ∃ event, label = .call event ∧ (knowledge event.thread c.trace).Condemns k := by
  have monitored := initial.monitored.reachable answers_protocol reached
  cases stepped with
  | crash i => exact absurd ends.2.2 ends.2.1
  | environment after changed => exact absurd ends (ends_environment changed)
  | call i request next reply after running answered =>
    refine ⟨_, rfl, ?_⟩
    have own := monitored i
    rw [running] at own
    have permitted := own.permits
    rcases ends_answer answered ends with ⟨f, u, record, rfl, target, final⟩ | ⟨f, u, p, record, rfl, target, final⟩
    · obtain ⟨_, same, _, grounds⟩ := permitted
      rw [← target, same]
      exact grounds final
    · obtain ⟨_, same, _, _, grounds⟩ := permitted
      rw [← target, same]
      exact grounds final

/-- `Execute` has not condemned an execution for which a request may have been sent. -/
theorem execute_not_condemned {pass : Move ExecutionTables ι Reply → Pass} (initial : Initial first)
    (run : Run system first moves c) (wired : Wired plane pass moves)
    (sent : MaySent plane pass first.shared k moves) {ground : Move ExecutionTables ι Reply}
    (member : ground ∈ moves) {i : ι} {request : Request}
    (called : ground.label = .call ⟨i, .execute scope request, reply⟩) (target : executeKey scope request = k) : ¬ Condemning reply := by
  intro condemned
  obtain ⟨inv, _⟩ := submissionInv_reachable initial run.reachable
  have explained := wired ground member _ called
  have hit : isSubmission k ⟨i, .execute scope request, reply⟩ = true := by simp [isSubmission, target]
  rcases sent with before | ⟨other, member', j, scope', request', reply', submission, called', target', passed, left⟩
  · -- a mark from before the run leaves no submission to the run
    have never : submissions k c.trace = 0 := ((inv k).inherited before).2.1
    exact List.countP_eq_zero.mp never _ (run.mem_trace member called) hit
  · -- the submission that was sent is the one that condemned
    have hit' : isSubmission k ⟨j, .execute scope' request', reply'⟩ = true := by simp [isSubmission, target']
    obtain rfl := run.sole (inv k).once member member' called called' hit hit'
    rw [called] at called'
    cases called'
    rw [passed] at explained
    have answered : reply = (plane.adapter.execute request submission).answer := explained
    rw [answered] at condemned
    exact left (Adapter.execute_condemning condemned)

/-- Every execution that ends in the run after a provider request may have been sent ends on evidence
that its worker was shown in the same visit. -/
def EndsOnEvidence (plane : Plane) (pass : Move ExecutionTables ι Reply → Pass) (first : ExecutionTables)
    (moves : List (Move ExecutionTables ι Reply)) : Prop :=
  ∀ later move earlier, moves = later ++ move :: earlier → ∀ k, MaySent plane pass first k earlier →
    Ends k move.before.shared move.after.shared →
    ∃ i visit ground older, (∃ request reply, move.label = .call ⟨i, request, reply⟩) ∧
      earlier = visit ++ ground :: older ∧ SameVisit i visit ∧ Ground k i ground (pass ground)

/-- In a run with trusted reads, no execution fails for good after its submission without evidence. -/
theorem final_failure_on_evidence (plane : Plane) (pass : Move ExecutionTables ι Reply → Pass)
    (initial : Initial first) (run : Run system first moves c) (wired : Wired plane pass moves)
    (trusted : TrustedReads pass moves) : EndsOnEvidence plane pass first.shared moves := by
  rintro later move earlier rfl k sent ends
  obtain ⟨before, stepped⟩ := run.upto
  have older {ground : Move ExecutionTables ι Reply} (member : ground ∈ earlier) :
      ground ∈ later ++ move :: earlier := List.mem_append_right _ (.tail _ member)
  obtain ⟨event, called, call, reply, heard, condemned⟩ := ends_condemned initial before.reachable stepped ends
  obtain ⟨visit, ground, rest, rfl, answered, quiet⟩ := heard_in_visit initial.trace before heard
  have member : ground ∈ visit ++ ground :: rest := List.mem_append_right _ (.head _)
  have explained := wired ground (older member) _ answered
  refine ⟨event.thread, visit, ground, rest, ⟨_, _, called⟩, rfl, quiet, ?_⟩
  cases call with
  | execute scope request =>
    exact absurd condemned.2 (execute_not_condemned initial before (fun other found => wired other (older found))
      sent member answered condemned.1)
  | getStatus scope executionID =>
    obtain ⟨reads, passed, verdict⟩ := explained.status
    have shown : Condemning (plane.adapter.getStatus executionID reads) := verdict ▸ condemned.2
    have safe : Trusted executionID reads := trusted ground (older member) _ _ _ _ _ answered passed
    rw [passed]
    exact .noTransfer scope executionID reply reads answered condemned.1 (Adapter.getStatus_condemning safe shown)
  | verify scope value reference =>
    obtain ⟨memory, reads, domain, passed, computed⟩ := explained.verify
    obtain ⟨target, result, verdict, failed⟩ := condemned
    have shown : OnChain reference reads := Verifier.verify_failed (computed.symm.trans verdict) failed
    rw [passed]
    exact .receipt scope value reference reply memory reads domain answered target shown
  | _ => exact condemned.elim

end Ground

/-! ### A worker that reconciles -/

theorem afterClaim_reconciles {claim : ExecutionClaim} (config : Config) (scope : Scope) (executionID : String)
    (now : Int) (rest : Returned → Proc Unit) (executing : claim.execution.status = .executing)
    (marked : claim.submissionStarted = true) :
    ∃ next last, afterClaim config scope executionID now (.ok (some claim)) >>= rest =
        .call (.getStatus claim.scope claim.execution.executionID) next ∧
      ∀ answer, next answer = applyAdapterAnswer claim claim.execution now answer >>= last := by
  obtain ⟨last, shape⟩ := afterClaim_bind config scope executionID now claim rest
  have reconciles : processClaim claim now = Program.perform (.getStatus claim.scope claim.execution.executionID) >>=
      applyAdapterAnswer claim claim.execution now := by
    rw [processClaim, executing]
    dsimp only
    rw [submitOrReconcile, if_pos marked]
  rw [shape, reconciles]
  exact ⟨_, last, rfl, fun answer => rfl⟩

/-- A permanent error of the adapter is persisted as a final failure. -/
theorem applyAdapterAnswer_condemned {claim : ExecutionClaim} {value next : Execution} {now : Int} {code : String}
    {f : Fence} {p : EvidenceParams}
    (failed : value.fail ⟨code, some .terminal, none⟩ now = .ok next)
    (status : next.status = .failed)
    (observed : newResult ⟨next.executionID, next.revision, .failed, "", code, now⟩ =
      .ok ⟨next.executionID, next.revision, .failed, "", code, now⟩)
    (built : persistClaimedObservationParams claim ⟨next.executionID, next.revision, .failed, "", code, now⟩ next
      value.revision (auditRecord claim.scope claim.leaseOwner value next now code) now = .ok (f, u, p, record))
    (last : Returned → Proc Unit) : ∃ tail,
    applyAdapterAnswer claim value now (.error (.adapter .permanent code)) >>= last =
      .call (.persistClaimed f u p record) tail := by
  have condemned : applyAdapterAnswer claim value now (.error (.adapter .permanent code)) =
      persistObservedFailure claim value (value.fail ⟨code, some .terminal, none⟩ now) .failed code now now := rfl
  have observes : persistObservedFailure claim value (.ok next) .failed code now now =
      persistFailureObservation claim value next ⟨next.executionID, next.revision, .failed, "", code, now⟩ now code := by
    unfold persistObservedFailure
    simp only [observed]
  have persists : persistFailureObservation claim value next
      ⟨next.executionID, next.revision, .failed, "", code, now⟩ now code = (do
        let answer ← persistClaimedObservation claim ⟨next.executionID, next.revision, .failed, "", code, now⟩ next
          value.revision (auditRecord claim.scope claim.leaseOwner value next now code) now
        pure (.ofExcept answer)) := by
    unfold persistFailureObservation
    simp only [status, observed]
  have asks : ∃ rest, persistClaimedObservation claim ⟨next.executionID, next.revision, .failed, "", code, now⟩ next
      value.revision (auditRecord claim.scope claim.leaseOwner value next now code) now =
        .call (.persistClaimed f u p record) rest := by
    unfold persistClaimedObservation
    simp only [built]
    exact ⟨_, rfl⟩
  obtain ⟨rest, asks⟩ := asks
  rw [condemned, failed, observes, persists, asks]
  exact ⟨_, rfl⟩

/-- The user has been asked to authorize the submission; the observation that says so carries its reason. -/
def askedEvidence : EvidenceRow :=
  ⟨"tenant_1", 1, sampleRequest.executionID, 4, .recoveryRequired,
    "wzp1;p=CIRCLE_USER_CONTROLLED_WALLET;chain=5042;w=wallet-1;ch=challenge-1", "USER_AUTHORIZATION_REQUIRED",
    sampleRequest.createdAt⟩

def askedWork : WorkRow := { sampleWork with submissionStarted := true }

/-- The execution has been submitted, and has recovered to EXECUTING. -/
def askedTables : ExecutionTables := { sampleTables .executing [askedEvidence] with work := [askedWork] }

-- `AppendVerificationEvidence` leaves such a row, one revision earlier
example : (appendVerificationEvidence ⟨"tenant_1", "user_1", sampleRequest.executionID, 4, .recoveryRequired,
    askedEvidence.adapterReference, "USER_AUTHORIZATION_REQUIRED", sampleRequest.createdAt⟩
    { sampleTables .recoveryRequired [] with
      executions := [{ (sampleRecord .recoveryRequired).execution with revision := 4 }] }).map
    (fun stored => stored.2.evidence) = .ok [askedEvidence] := by decide +kernel

def askedStart : Threads.Config ExecutionTables Bool Reply :=
  { sampleStart .executing [askedEvidence] with shared := askedTables }

def askedClaim : ExecutionClaim :=
  claimOf sampleScope (sampleRecord .executing).value "worker_a" askedWork 60000000 sampleRequest.createdAt

def askedLeased : ExecutionTables := leasedTables sampleKey "worker_a" 60000000 askedTables

def askedClaimEvents : List (Event Bool Reply) :=
  claimEvents true sampleScope sampleRequest.executionID "worker_a" askedWork (sampleRecord .executing)
    sampleRequest.createdAt (60 * GoTime.second) sampleRequest.createdAt

theorem asked_claimable : Claimable askedTables sampleScope sampleRequest.executionID askedWork
    (sampleRecord .executing) (sampleRecord .executing).value where
  work := Table.lookup_head WorkRow.key askedWork []
  available := (by decide : askedWork.available sampleRequest.createdAt = true)
  __ := sample_claimable [askedEvidence] rfl (by decide) (by decide)

theorem asked_claimed : Reachable system askedStart
    ⟨askedLeased,
      Function.update askedStart.thread true
        (afterClaim (sampleConfig true) sampleScope sampleRequest.executionID sampleRequest.createdAt
          (.ok (some askedClaim)) >>= fun _ => pure ()),
      askedClaimEvents ++ []⟩ := by
  have worker : askedStart.thread true =
      process (sampleConfig true) sampleScope sampleRequest.executionID >>= fun _ => pure () := rfl
  have input : validateClaimInput (sampleConfig true).workerID sampleRequest.createdAt
      (sampleConfig true).leaseDuration = .ok () := by decide
  exact process_claims worker asked_claimable input (by decide)

/-- The reasons with which a provider ends the sample execution below. -/
def sampleReasons : List String := ["PROVIDER_REQUEST_REJECTED", "USER_AUTHORIZATION_EXPIRED"]

def condemnedValue (code : String) : Execution :=
  { (sampleRecord .executing).value with
    status := .failed, revision := 6, failure := ⟨code, some .terminal, none⟩, failedFrom := some .executing }

def condemnedUpdate (code : String) : ExecutionUpdate :=
  ⟨"tenant_1", "user_1", sampleRequest.executionID, .failed, 6, sampleRequest.createdAt,
    ⟨code, some .terminal, none⟩, some .executing, .zero, 5⟩

def condemnedParams (code : String) : EvidenceParams :=
  evidenceParams sampleScope ⟨sampleRequest.executionID, 6, .failed, "", code, sampleRequest.createdAt⟩ 6 ""

def condemnedEvent : String := "event_dbb790269b0e405dcdd6de1f5145b3c6ba9e111cf49da7a068ec5e85c72d99d3"

def condemnedAudit (code : String) : AuditRow :=
  let record := auditRecord sampleScope "worker_a" (sampleRecord .executing).value (condemnedValue code)
    sampleRequest.createdAt code
  ⟨"tenant_1", { record with event := { record.event with eventID := condemnedEvent } }⟩

/-- The hash is computed here once; everything below compares texts. -/
theorem condemned_auditRecord (code : String) :
    auditRecord sampleScope "worker_a" (sampleRecord .executing).value (condemnedValue code) sampleRequest.createdAt
      code = (condemnedAudit code).record := by
  have hashed : eventID (condemnedValue "") = condemnedEvent := by decide +kernel
  have named : eventID (condemnedValue code) = condemnedEvent := hashed
  unfold condemnedAudit
  rw [← named]
  rfl

theorem asked_fails {code : String} (known : code ∈ sampleReasons) :
    askedClaim.execution.fail ⟨code, some .terminal, none⟩ sampleRequest.createdAt = .ok (condemnedValue code) := by
  have recorded : ∀ code ∈ sampleReasons,
      Failure.validate ⟨code, some .terminal, none⟩ (some .executing) = .ok () := by decide +kernel
  exact Execution.fail_eq (sampleRecord_valid (by decide) (by decide)) rfl (by decide) (recorded code known)

/-- The hashes that a request carries pass the search for secret material. -/
theorem hashes_clean {r : Request} (valid : r.WellFormed) :
    [r.executionID, r.requestID, r.requestKey, r.policyEvaluationKey].any Audit.containsForbidden = false := by
  have bare (data : List UInt8) : Audit.containsForbidden (Sha256.hexText data) = false := by
    have hashed := @Audit.containsForbidden_hash "" rfl data
    rwa [String.empty_append] at hashed
  have execution : Audit.containsForbidden r.executionID = false := by
    rw [valid.executionID]
    exact Audit.containsForbidden_hash (by decide +kernel) _
  have request : Audit.containsForbidden r.requestID = false := by
    rw [valid.requestID]
    exact Audit.containsForbidden_hash (by decide +kernel) _
  have key : Audit.containsForbidden r.requestKey = false := by
    rw [valid.requestKey]
    exact bare _
  have evaluation : Audit.containsForbidden r.policyEvaluationKey = false := by
    rw [valid.evaluationKey]
    exact bare _
  simp [execution, request, key, evaluation]

theorem condemned_audit_valid {code : String} (known : code ∈ sampleReasons) :
    (condemnedAudit code).record.validate = .ok () := by
  have hashes := hashes_clean sampleRequest_wellFormed
  have reason : ∀ code ∈ sampleReasons, Audit.containsForbidden code = false ∧
      Audit.safeField "safe reason code" code false = .ok () := by decide +kernel
  have short : ["system", "worker_a", "req_1", "", "execution", "execution_runtime", "int_1", "sha256:aa", "apr_1",
      "pol_1", "user_1", "op_1"].any Audit.containsForbidden = false := by decide +kernel
  have listed : (condemnedAudit code).record.auditedTexts = ["system", "worker_a", "req_1", "", "execution",
      sampleRequest.executionID, code, "execution_runtime", "int_1", "sha256:aa", "apr_1", "pol_1",
      sampleRequest.policyEvaluationKey, sampleRequest.executionID, sampleRequest.requestID,
      sampleRequest.requestKey, code, "", "user_1", "op_1"] := rfl
  have texts : (condemnedAudit code).record.auditedTexts.any Audit.containsForbidden = false := by
    rw [listed]
    simp only [List.any_cons, List.any_nil, Bool.or_false, Bool.or_eq_false_iff] at hashes short ⊢
    simp only [hashes, short, (reason code known).1, and_self]
  have fields : ∀ field ∈ [("actor type", "system", true), ("actor ID", "worker_a", true), ("request ID", "req_1", true),
      ("resource type", "execution", true), ("resource ID", sampleRequest.executionID, true),
      ("source component", "execution_runtime", true), ("trace ID", "", false), ("previous state", "EXECUTING", false),
      ("new state", "FAILED", false)], Audit.safeField field.1 field.2.1 field.2.2 = .ok () := by decide +kernel
  simp only [List.forall_mem_cons, List.not_mem_nil, false_implies, implies_true, and_true] at fields
  obtain ⟨actorType, actorID, requestID, resourceType, resourceID, component, trace, previous, new⟩ := fields
  simp only [Audit.Record.validate, checks_ok, texts]
  have identified : ¬ (condemnedEvent = "" ∨ GoTime.isZero sampleRequest.createdAt = true) := by decide +kernel
  exact ⟨identified, actorType, actorID, requestID, resourceType, resourceID, component, trace, previous, new,
    (reason code known).2, by rintro ⟨⟩⟩

theorem asked_params {code : String} (known : code ∈ sampleReasons) : persistClaimedObservationParams askedClaim
    ⟨sampleRequest.executionID, 6, .failed, "", code, sampleRequest.createdAt⟩ (condemnedValue code) 5
    (condemnedAudit code).record sampleRequest.createdAt =
      .ok (askedClaim.fence 1, condemnedUpdate code, condemnedParams code, condemnedAudit code) := by
  have claim : validateClaimParams askedClaim sampleRequest.createdAt = .ok 1 := by decide +kernel
  have observed : ∀ code ∈ sampleReasons,
      Result.validate ⟨sampleRequest.executionID, 6, .failed, "", code, sampleRequest.createdAt⟩ = .ok () := by
    decide +kernel
  have trusted : askedClaim.scope.validate = .ok () := by decide
  simp only [persistClaimedObservationParams, claim, observed code known, auditParams, trusted, condemned_audit_valid known]
  rfl

theorem asked_persists {code : String} (known : code ∈ sampleReasons) (last : Returned → Proc Unit) : ∃ tail,
    applyAdapterAnswer askedClaim askedClaim.execution sampleRequest.createdAt (.error (.adapter .permanent code)) >>=
      last = .call (.persistClaimed (askedClaim.fence 1) (condemnedUpdate code) (condemnedParams code)
        (condemnedAudit code)) tail := by
  have observed : ∀ code ∈ sampleReasons,
      newResult ⟨sampleRequest.executionID, 6, .failed, "", code, sampleRequest.createdAt⟩ =
        .ok ⟨sampleRequest.executionID, 6, .failed, "", code, sampleRequest.createdAt⟩ := by decide +kernel
  have params : persistClaimedObservationParams askedClaim
      ⟨sampleRequest.executionID, 6, .failed, "", code, sampleRequest.createdAt⟩ (condemnedValue code) 5
      (auditRecord askedClaim.scope askedClaim.leaseOwner askedClaim.execution (condemnedValue code)
        sampleRequest.createdAt code) sampleRequest.createdAt = .ok (askedClaim.fence 1, condemnedUpdate code,
        condemnedParams code, condemnedAudit code) := (condemned_auditRecord code).symm ▸ asked_params known
  exact applyAdapterAnswer_condemned (asked_fails known) rfl (observed code known) params last

theorem asked_commits {code : String} (known : code ∈ sampleReasons) : ∃ after,
    persistClaimed (askedClaim.fence 1) (condemnedUpdate code) (condemnedParams code) (condemnedAudit code)
      askedLeased = .ok after := by
  have accepted : ∀ code ∈ sampleReasons, (persistClaimed (askedClaim.fence 1) (condemnedUpdate code)
      (condemnedParams code) (condemnedAudit code) askedLeased).isOk = true := by decide +kernel
  exact exists_ok_of_isOk (accepted code known)

theorem persistClaimed_ends {f : Fence} {p : EvidenceParams} (persisted : persistClaimed f u p record t = .ok after)
    (final : failedForGood u.status u.failure) :
    Ended after u.key := by
  obtain ⟨_, mid, last, first, second, third⟩ := persistClaimed_ok persisted
  have same : after.executions = mid.executions :=
    (executions_appendAudit third).trans (executions_appendVerificationEvidence second)
  obtain ⟨row, found, _, _, _, rfl⟩ := updateExecution_ok first
  refine (ended_of_executions_eq same).mpr ⟨u.apply row, ?_, final⟩
  simp only [ExecutionTables.executionOf, Table.lookup_modify_same u.apply_key,
    show Table.lookup ExecutionRow.key u.key t.executions = some row from found, Option.map_some]

/-- A run in which worker `a` reconciles the sample and is told to give it up. -/
structure CondemnedRun (code : String) (moves : List (Move ExecutionTables Bool Reply)) : Prop where
  run : ∃ c, Run system askedStart moves c
  shape : ∃ persist status older, moves = persist :: status :: older ∧
    status.label = .call ⟨true, .getStatus sampleScope sampleRequest.executionID, .error (.adapter .permanent code)⟩ ∧
    status.before.shared = askedLeased ∧ Ends sampleKey persist.before.shared persist.after.shared ∧
    (∀ event, persist.label = .call event → ∃ f u p record, event.request = .persistClaimed f u p record) ∧
    ∀ move ∈ older, ∀ event, move.label = .call event → event ∈ askedClaimEvents

theorem asked_condemned {code : String} (known : code ∈ sampleReasons) : ∃ moves, CondemnedRun code moves := by
  obtain ⟨next, last, asks, answers⟩ := afterClaim_reconciles (sampleConfig true) sampleScope
    sampleRequest.executionID sampleRequest.createdAt (fun _ => pure ())
    (show askedClaim.execution.status = .executing from rfl) rfl
  obtain ⟨tail, persists⟩ := asked_persists known last
  obtain ⟨after, committed⟩ := asked_commits known
  have claimed := asked_claimed
  rw [asks] at claimed
  obtain ⟨older, run⟩ := claimed.run
  -- the adapter answers, and the worker persists what it was told
  let asking : Bool → Proc Unit := Function.update askedStart.thread true
    (.call (.getStatus askedClaim.scope askedClaim.execution.executionID) next)
  have told := Step.call (S := system) ⟨askedLeased, asking, askedClaimEvents ++ []⟩ true _ next
    (Except.error (.adapter .permanent code)) askedLeased (Function.update_self true _ askedStart.thread) rfl
  rw [answers, persists] at told
  have answered : answer (.persistClaimed (askedClaim.fence 1) (condemnedUpdate code) (condemnedParams code)
      (condemnedAudit code)) askedLeased (Except.ok ()) after := .done _ _ (by rw [committed]; rfl)
  have stored := Step.call (S := system) ⟨askedLeased, Function.update asking true (.call (.persistClaimed
      (askedClaim.fence 1) (condemnedUpdate code) (condemnedParams code) (condemnedAudit code)) tail),
      ⟨true, .getStatus askedClaim.scope askedClaim.execution.executionID, Except.error (.adapter .permanent code)⟩ ::
        (askedClaimEvents ++ [])⟩ true _ tail (Except.ok ()) after (Function.update_self true _ asking) answered
  have alive : ¬ Ended askedLeased sampleKey := by
    rintro ⟨row, found, final⟩
    have only : row = (sampleRecord .executing).execution :=
      List.mem_singleton.mp (Table.lookup_some found).2
    rw [only] at final
    exact absurd final.1 (by decide)
  have ends : Ends sampleKey askedLeased after :=
    ⟨by decide +kernel, alive, persistClaimed_ends committed ⟨rfl, rfl⟩⟩
  refine ⟨_, ⟨_, .step _ _ _ _ (.step _ _ _ _ run told) stored⟩, _, _, _, rfl, rfl, rfl, ends, ?_, ?_⟩
  · intro event called
    cases called
    exact ⟨_, _, _, _, rfl⟩
  · intro move member event called
    simpa using run.mem_trace member called

def askedPlane : Plane :=
  ⟨⟨⟨"ARC", Contracts.chainIDArcMainnet, Contracts.networkArcMainnet⟩, Contracts.defaultRegistry⟩, ⟨1⟩⟩

/-- The one reconciliation of these runs answers by `reads`. -/
def askedPass (reads : StatusPass) (move : Move ExecutionTables Bool Reply) : Pass :=
  match move.label with
  | .call ⟨_, .getStatus .., _⟩ => .status reads
  | _ => .idle

/-- What the stored observation is read back as. -/
def askedResult : Result :=
  ⟨sampleRequest.executionID, 4, .recoveryRequired, askedEvidence.adapterReference, "USER_AUTHORIZATION_REQUIRED",
    sampleRequest.createdAt⟩

/-- What the adapter reads when the two provider reads are answered by these exchanges. -/
def askedReads (transactions challenges : Exchange) : StatusPass :=
  { records := .ok [askedResult]
    authorization := .ok (some ⟨"token-1"⟩), transactions := transactions, challenges := challenges,
    observedAt := sampleRequest.createdAt, now := sampleRequest.createdAt }

/-- The search for the transaction is answered with 404. -/
def refusedReads : StatusPass := askedReads (.response 404 none) .circuitOpen

/-- There is no transaction, and the challenge has expired. -/
def expiredReads : StatusPass :=
  askedReads (.response 200 (some ⟨none, none, some [], none⟩))
    (.response 200 (some ⟨none, none, none, some [⟨"challenge-1", .expired⟩]⟩))

section Passes

variable {code : String} {transactions challenges : Exchange} {moves : List (Move ExecutionTables Bool Reply)}

theorem claimEvents_explained {event : Event Bool Reply} (member : event ∈ askedClaimEvents) (plane : Plane)
    (t : ExecutionTables) (pass : Pass) : Explains plane t event.request event.reply pass := by
  simp only [askedClaimEvents, claimEvents, List.mem_cons, List.not_mem_nil, or_false] at member
  rcases member with rfl | rfl | rfl | rfl
  all_goals trivial

theorem CondemnedRun.wired (condemned : CondemnedRun code moves)
    (told : askedPlane.adapter.getStatus sampleRequest.executionID (askedReads transactions challenges) =
      .error (.adapter .permanent code)) :
    Wired askedPlane (askedPass (askedReads transactions challenges)) moves := by
  have stored : evidenceFromRows (findVerificationEvidence (sampleScope.tenantID, sampleRequest.executionID)
      sampleScope.actorID askedLeased) = .ok [askedResult] := by decide +kernel
  obtain ⟨persist, status, older, rfl, asked, leased, _, persists, claims⟩ := condemned.shape
  intro move member event called
  rcases List.mem_cons.mp member with rfl | member
  · obtain ⟨f, u, p, record, request⟩ := persists event called
    obtain ⟨i, call, reply⟩ := event
    cases request
    trivial
  · rcases List.mem_cons.mp member with rfl | old
    · rw [asked] at called
      cases called
      have passed : askedPass (askedReads transactions challenges) move = .status (askedReads transactions challenges) := by
        simp only [askedPass, asked]
      rw [passed, leased]
      exact ⟨fun values same => stored.trans same, told.symm⟩
    · exact claimEvents_explained (claims move old event called) _ _ _

theorem CondemnedRun.passes (condemned : CondemnedRun code moves) (reads : StatusPass)
    {move : Move ExecutionTables Bool Reply} (member : move ∈ moves) {i : Bool} {executionID : String}
    (called : move.label = .call ⟨i, .getStatus scope executionID, reply⟩) :
    askedPass reads move = .status reads ∧ executionID = sampleRequest.executionID := by
  refine ⟨by simp only [askedPass, called], ?_⟩
  obtain ⟨persist, status, older, rfl, asked, _, _, persists, claims⟩ := condemned.shape
  rcases List.mem_cons.mp member with rfl | member
  · obtain ⟨f, u, p, record, request⟩ := persists _ called
    cases request
  · rcases List.mem_cons.mp member with rfl | old
    · rw [asked] at called
      cases called
      rfl
    · have claim := claims move old _ called
      simp [askedClaimEvents, claimEvents] at claim

end Passes

theorem askedStart_initial : Initial askedStart :=
  ⟨fun worker => .process (sampleConfig worker) sampleScope sampleRequest.executionID, rfl⟩

theorem refusedReads_condemn : askedPlane.adapter.getStatus sampleRequest.executionID refusedReads =
    .error (.adapter .permanent "PROVIDER_REQUEST_REJECTED") := by decide +kernel

theorem expiredReads_condemn : askedPlane.adapter.getStatus sampleRequest.executionID expiredReads =
    .error (.adapter .permanent "USER_AUTHORIZATION_EXPIRED") := by decide +kernel

theorem asked_maySent (pass : Move ExecutionTables Bool Reply → Pass) (earlier : List (Move ExecutionTables Bool Reply)) :
    MaySent askedPlane pass askedStart.shared sampleKey earlier := .inl (by decide +kernel)

theorem expiredReads_trusted : Trusted sampleRequest.executionID expiredReads := by
  intro reference authorization _ _
  refine ⟨(by decide : ¬ Refusing 200), fun _ => (by decide : ¬ Refusing 200), ?_⟩
  -- the list of transactions is empty
  intro record found
  obtain ⟨body, answered, present⟩ := lookupTransaction_ok found
  obtain ⟨_, same, _⟩ := performRequest_ok answered
  cases same
  rcases present with single | ⟨records, listed, member⟩
  · cases single
  · cases listed
    cases member

theorem final_failure_on_evidence_expired :
    ∃ moves c, Run system askedStart moves c ∧ Wired askedPlane (askedPass expiredReads) moves ∧
      (∃ later move earlier, moves = later ++ move :: earlier ∧
        MaySent askedPlane (askedPass expiredReads) askedStart.shared sampleKey earlier ∧
        Ends sampleKey move.before.shared move.after.shared) ∧
      EndsOnEvidence askedPlane (askedPass expiredReads) askedStart.shared moves := by
  have known : "USER_AUTHORIZATION_EXPIRED" ∈ sampleReasons := by decide
  obtain ⟨moves, condemned⟩ := asked_condemned known
  obtain ⟨c, run⟩ := condemned.run
  have wired : Wired askedPlane (askedPass expiredReads) moves := condemned.wired expiredReads_condemn
  have trusted : TrustedReads (askedPass expiredReads) moves := by
    intro move member i scope executionID reply reads called passed
    obtain ⟨same, rfl⟩ := condemned.passes expiredReads member called
    rw [same] at passed
    cases passed
    exact expiredReads_trusted
  obtain ⟨persist, status, older, rfl, _, _, ends, _⟩ := condemned.shape
  exact ⟨_, c, run, wired, ⟨[], persist, _, rfl, asked_maySent _ _, ends⟩,
    final_failure_on_evidence askedPlane _ askedStart_initial run wired trusted⟩

theorem refusedReads_show_nothing : ¬ NoTransfer sampleRequest.executionID refusedReads := by
  intro shown
  cases shown with
  | transaction reference authorization record stored found =>
    obtain ⟨body, answered, _⟩ := lookupTransaction_ok found
    obtain ⟨_, same, _⟩ := performRequest_ok answered
    cases same
  | challenge reference authorization record stored found =>
    obtain ⟨body, _, answered, _⟩ := findChallenge_ok found
    obtain ⟨_, same, _⟩ := performRequest_ok answered
    cases same

/-- A worker ends an execution for good because the provider has answered a read with 404. -/
theorem refused_read_ends_execution :
    ∃ moves c, Initial askedStart ∧ Run system askedStart moves c ∧ Wired askedPlane (askedPass refusedReads) moves ∧
      ¬ EndsOnEvidence askedPlane (askedPass refusedReads) askedStart.shared moves := by
  have known : "PROVIDER_REQUEST_REJECTED" ∈ sampleReasons := by decide
  obtain ⟨moves, condemned⟩ := asked_condemned known
  obtain ⟨c, run⟩ := condemned.run
  refine ⟨moves, c, askedStart_initial, run, condemned.wired refusedReads_condemn, fun evidence => ?_⟩
  obtain ⟨persist, status, older, rfl, _, _, ends, _⟩ := condemned.shape
  obtain ⟨i, visit, ground, rest, _, split, _, shown⟩ := evidence [] persist _ rfl sampleKey (asked_maySent _ _) ends
  have member : ground ∈ persist :: status :: older := by
    rw [split]
    exact .tail _ (List.mem_append_right _ (.head _))
  cases passed : askedPass refusedReads ground with
  | status reads =>
    rw [passed] at shown
    cases shown with
    | noTransfer scope executionID reply _ called target shown =>
      obtain ⟨same, rfl⟩ := condemned.passes refusedReads member called
      rw [same] at passed
      cases passed
      exact refusedReads_show_nothing shown
  | verify memory reads domain =>
    rw [passed] at shown
    cases shown with
    | receipt scope value reference reply _ _ _ called =>
      simp [askedPass, called] at passed
  | submit => rw [passed] at shown; cases shown
  | idle => rw [passed] at shown; cases shown

end WizPay.Runtime
