import WizPay.Providers.Circle.Identifiers
import WizPay.Runtime.Completion
import WizPay.Runtime.Reconciliation

/-!
# An execution that waits for its user

`Execute` answers USER_AUTHORIZATION_REQUIRED without a reference when the user has not
delegated a session. The submission mark is set by then, so every later visit
reconciles, and without a stored reference `GetStatus` stops before it asks anyone.
-/
namespace WizPay.Runtime

open Checks Exec Storage Threads Providers Providers.Circle

/-- No observation of execution `k` carries a reference. -/
def Unreferenced (t : ExecutionTables) (k : Key) : Prop := ∀ row ∈ t.evidence, row.key = k → row.adapterReference = ""

/-! ### Where references come from -/

/-- The request neither stores a reference of execution `k` nor verifies one. -/
def Mute (k : Key) : Call → Prop
  | .persistClaimed _ _ p _ => p.key = k → p.adapterReference = ""
  | .appendVerificationEvidence p => p.key = k → p.adapterReference = ""
  | .verify scope value _ => (scope.tenantID, value.executionID) ≠ k
  | _ => True

/-- The answer shows a reference of execution `k`. -/
def Hears (k : Key) : (call : Call) → Reply call → Prop
  | .execute scope request, answer => executeKey scope request = k ∧ Referring answer
  | .getStatus scope executionID, answer => (scope.tenantID, executionID) = k ∧ Referring answer
  | .findVerificationEvidence key _, answer =>
    key = k ∧ ∃ rows, answer = .ok rows ∧ ∃ row ∈ rows, row.adapterReference ≠ ""
  | _, _ => False

/-- A worker is mute about `k` until it has heard a reference of it. -/
def hearsay (k : Key) : Monitor Reply Prop :=
  ⟨fun heard call => heard ∨ Mute k call, fun _ _ => True, fun heard call answer => heard ∨ Hears k call answer⟩

/-- The program stores only references that it has heard. -/
def Discreet {α : Type} (k : Key) (program : Proc α) : Prop := ∀ heard, program.Follows (hearsay k) (fun _ _ => True) heard

section Discreet

variable {α : Type} {k : Key} {program : Proc α} {heard : Prop}

theorem Discreet.of_uses (uses : program.Uses (Mute k)) : Discreet k program :=
  uses.obeys fun _ _ mute => .inr mute

/-- A worker that has heard a reference may do anything. -/
theorem follows_informed (known : heard) : program.Follows (hearsay k) (fun _ _ => True) heard := by
  induction program generalizing heard with
  | done value => exact .done _ value trivial
  | call request next ih => exact .call _ request next (.inl known) fun reply _ => ih reply (.inl known)

end Discreet

/-! ### A pass stores what it has heard -/

variable {scope : Scope}

section Passes

variable {k : Key} {claim : ExecutionClaim} {now : Int} {heard : Prop}

/-- Under a claim on another execution a pass is mute about `k`, and under one on `k` while it is silent. -/
theorem Issue.mute {α : Type} {f : Fence} {current : Execution} {final silent : Prop} {program : Proc α}
    (issues : program.Uses (Issue f current final silent)) (silence : f.key = k → silent)
    (own : (f.tenantID, current.executionID) = f.key)
    (trimmed : GoText.trimSpace current.executionID = current.executionID) : program.Uses (Mute k) := by
  refine issues.mono fun request issued => ?_
  cases request with
  | persistClaimed g u p record =>
    obtain ⟨_, _, target, _, _, _, _, _, quiet⟩ := issued
    exact fun same => quiet (silence (target.symm.trans same))
  | appendVerificationEvidence p =>
    exact fun same => absurd (silence ((own.symm.trans (issued.2 trimmed).symm).trans same)) issued.1
  | verify => cases issued
  | _ => trivial

/-- The parts of a pass that hear nothing. -/
theorem Discreet.of_issues {α : Type} {program : Proc α}
    (trimmed : GoText.trimSpace claim.execution.executionID = claim.execution.executionID)
    (issues : program.Uses (Issue (claimFence claim) claim.execution False True)) : Discreet k program :=
  .of_uses (Issue.mute issues (fun _ => trivial) rfl trimmed)

theorem applyAdapterAnswer_discreet {answer : Except Error Result} {value : Execution}
    (unverified : value.status ≠ .verified) (trimmed : GoText.trimSpace value.executionID = value.executionID)
    (own : (claim.scope.tenantID, value.executionID) = (claimFence claim).key)
    (known : (claimFence claim).key = k → Referring answer → heard) :
    (applyAdapterAnswer claim value now answer).Follows (hearsay k) (fun _ _ => True) heard := by
  by_cases shown : (claimFence claim).key = k ∧ Referring answer
  · exact follows_informed (known shown.1 shown.2)
  · have issues : (applyAdapterAnswer claim value now answer).Uses (Issue (claimFence claim) value (Condemning answer)
        ((claimFence claim).key = k)) :=
      applyAdapterAnswer_issues unverified fun same referring => shown ⟨same, referring⟩
    exact Discreet.of_uses (Issue.mute issues id own trimmed) _

/-- The renewed claim is about the same execution. -/
theorem markSubmissionStartedProc_discreet :
    (markSubmissionStartedProc claim).Follows (hearsay k)
      (fun answer _ => ∀ marked, answer = .ok (some marked) → marked.scope = claim.scope ∧
        (claimFence marked).key = (claimFence claim).key) heard := by
  unfold markSubmissionStartedProc
  split
  next => exact .done _ _ fun _ refused => nomatch refused
  next =>
    refine .ask (.inr trivial) fun reply _ => ?_
    cases reply with
    | error e => exact .done _ _ fun marked answered => absurd answered (refused_claim marked)
    | ok row =>
      refine .done _ _ fun marked answered => ?_
      rw [executionClaim_ok (executionClaim_map_ok answered)]
      exact ⟨rfl, rfl⟩

theorem submitOrReconcile_discreet (unverified : claim.execution.status ≠ .verified)
    (trimmed : GoText.trimSpace claim.execution.executionID = claim.execution.executionID) :
    Discreet k (submitOrReconcile claim claim.execution now) := by
  intro heard
  unfold submitOrReconcile
  split
  next =>
    refine .ask (.inr trivial) fun answer _ => applyAdapterAnswer_discreet unverified trimmed rfl fun own referring => ?_
    exact .inr ⟨own, referring⟩
  next =>
    refine markSubmissionStartedProc_discreet.bind fun answer reached marked => ?_
    match answer with
    | .error e => exact .done _ _ trivial
    | .ok none =>
      exact Discreet.of_issues trimmed (persistStep_issues fun _ => .requireRecovery unverified) _
    | .ok (some again) =>
      obtain ⟨sameScope, sameKey⟩ := marked again rfl
      have own : (again.scope.tenantID, claim.execution.executionID) = (claimFence again).key := by
        rw [sameScope, sameKey]
        rfl
      refine .ask (.inr trivial) fun answer _ => applyAdapterAnswer_discreet unverified trimmed own fun own referring => ?_
      exact .inr ⟨sameKey.symm.trans own, referring⟩

theorem lastReference_none {values : List Result} (none : ∀ value ∈ values, value.adapterReference = "") :
    lastReference values = Option.none := by
  induction values with
  | nil => rfl
  | cons value rest ih =>
    rw [List.forall_mem_cons] at none
    rw [lastReference, ih none.2]
    simp [none.1]

/-- A restored observation carries the reference of its row. -/
theorem evidenceFromRows_references {rows : List EvidenceRow} {values : List Result}
    (read : evidenceFromRows rows = .ok values) (none : ∀ row ∈ rows, row.adapterReference = "") :
    ∀ value ∈ values, value.adapterReference = "" := by
  induction rows generalizing values with
  | nil =>
    cases read
    exact nofun
  | cons row rest ih =>
    rw [List.forall_mem_cons] at none
    simp only [evidenceFromRows, bind_ok, pure_ok] at read
    obtain ⟨value, restored, others, read, rfl⟩ := read
    simp only [evidenceFromRow, bind_ok] at restored
    obtain ⟨_, _, made⟩ := restored
    rw [List.forall_mem_cons]
    exact ⟨newResult_unreferenced made none.1, ih read none.2⟩

/-- A stored reference that was read has been heard. -/
theorem findVerificationEvidenceProc_discreet {executionID : String} :
    (findVerificationEvidenceProc scope executionID).Follows (hearsay k) (fun answer reached =>
      ∀ values, answer = .ok values → (scope.tenantID, executionID) = k →
        reached ∨ ∀ value ∈ values, value.adapterReference = "") heard := by
  unfold findVerificationEvidenceProc
  split
  next => exact .done _ _ fun _ refused => nomatch refused
  next =>
    refine .ask (.inr trivial) fun reply _ => ?_
    cases reply with
    | error e => exact .done _ _ fun _ refused => nomatch refused
    | ok rows =>
      refine .done _ _ fun values read own => ?_
      by_cases shown : ∃ row ∈ rows, row.adapterReference ≠ ""
      · exact .inl (.inr ⟨own, rows, rfl, shown⟩)
      · refine .inr (evidenceFromRows_references read fun row member => ?_)
        by_contra some
        exact shown ⟨row, member, some⟩

theorem latestReference_discreet {executionID : String} :
    (latestReference scope executionID).Follows (hearsay k) (fun answer reached =>
      ∀ reference, answer = .ok reference → (scope.tenantID, executionID) = k → reached) heard := by
  unfold latestReference
  refine findVerificationEvidenceProc_discreet.bind fun answer reached read => ?_
  cases answer with
  | error e => exact .done _ _ fun _ refused => nomatch refused
  | ok values =>
    dsimp only
    cases last : lastReference values with
    | none => exact .done _ _ fun _ refused => nomatch refused
    | some reference =>
      refine .done _ _ fun _ _ own => (read values rfl own).resolve_right fun none => ?_
      rw [lastReference_none none] at last
      cases last

theorem verify_discreet (unverified : claim.execution.status ≠ .verified)
    (trimmed : GoText.trimSpace claim.execution.executionID = claim.execution.executionID) :
    Discreet k (verify claim claim.execution now) := by
  intro heard
  unfold verify
  refine latestReference_discreet.bind fun answer reached found => ?_
  cases answer with
  | error e => exact .done _ _ trivial
  | ok reference =>
    by_cases own : (claim.scope.tenantID, claim.execution.executionID) = k
    · exact follows_informed (found reference rfl own)
    · refine .ask (.inr own) fun answer _ => Discreet.of_uses ?_ _
      exact Issue.mute (applyVerification_issues unverified answer) own rfl trimmed

theorem processClaim_discreet (trimmed : GoText.trimSpace claim.execution.executionID = claim.execution.executionID) :
    Discreet k (processClaim claim now) := by
  rcases processClaim_cases claim now with issues | ⟨unverified, same | same⟩
  · exact .of_issues trimmed (issues True)
  · rw [same]
    exact submitOrReconcile_discreet unverified trimmed
  · rw [same]
    exact verify_discreet unverified trimmed

/-- A claim carries an execution that was read back, and its texts are trimmed. -/
theorem hearsay_admits : Admits (hearsay k) (fun _ _ _ => True)
    (fun claim _ => GoText.trimSpace claim.execution.executionID = claim.execution.executionID) where
  opens m call opens := by
    cases call <;> first | cases opens; done | exact .inr trivial
  clock m _ := or_false m
  claimed _ _ _ _ _ _ _ := trivial
  claimedNext _ _ _ _ _ := trivial
  owned _ _ _ _ _ _ := trivial
  confirmed m scope executionID owner work record value claim _ _ restored made := by
    obtain ⟨valid, rfl⟩ := restoreExecutionRecord_ok.mp restored
    have text : validateExecutionText "execution ID" record.value.request.executionID = .ok () :=
      valid.request.texts ("execution ID", _) (by simp [Request.textFields])
    rw [executionClaim_ok made]
    exact (validateBoundedText_ok.mp text).2.1
  passes claim now heard trimmed :=
    (processClaim_discreet trimmed heard).mono fun _ reached _ _ =>
      Discreet.of_issues trimmed (releaseExecutionWorkProc_issues claim.execution) reached

/-- Every worker stores only references that it has heard. -/
theorem worker_discreet {program : Proc Unit} (worker : IsWorker program) : Discreet k program :=
  fun _ => hearsay_admits.worker worker

end Passes

section Adapter

variable {a : Adapter} {executionID : String} {request : Request}

theorem outcome_unreferring {value : Outcome} {now : Int} (none : value.reference = Option.none) :
    ¬ Referring (outcome executionID value now) := by
  rintro ⟨result, reported, some⟩
  unfold outcome Outcome.adapterResult Outcome.encodedReference at reported
  simp only [none, bind_ok] at reported
  obtain ⟨_, _, text, empty, reported⟩ := reported
  cases empty
  exact some (report_reference reported)

/-- `Execute` shows a reference only when it has sent a request. -/
theorem submit_referring {plan : Plan} {key : String} {authorization : UserAuthorization} {p : SubmitPass}
    (referring : Referring (submit executionID plan key authorization p).answer) :
    (submit executionID plan key authorization p).sent ≠ none := by
  unfold submit at referring ⊢
  split
  next e refused =>
    rw [refused] at referring
    exact absurd referring (outcome_unreferring rfl)
  next body built =>
    rw [built] at referring
    dsimp only at referring ⊢
    cases answered : createChallenge authorization p.exchange with
    | error e =>
      rw [answered] at referring
      exact absurd referring (outcome_unreferring rfl)
    | ok challengeID =>
      have left : authorization.present = true ∧ p.exchange.left = true := by
        simp only [createChallenge, bind_ok] at answered
        obtain ⟨body, performed, _⟩ := answered
        unfold performRequest at performed
        split at performed
        next => cases performed
        next present =>
          refine ⟨by simpa using present, ?_⟩
          cases exchange : p.exchange with
          | response => rfl
          | unreachable => rfl
          | circuitOpen | unbuildable => rw [exchange] at performed; cases performed
      simp [left]

theorem execute_referring {p : SubmitPass} (referring : Referring (a.execute request p).answer) :
    (a.execute request p).sent ≠ none := by
  unfold Adapter.execute unsent at referring ⊢
  dsimp only at referring ⊢
  cases planned : p.plan with
  | error e =>
    rw [planned] at referring
    exact absurd referring (outcome_unreferring rfl)
  | ok plan =>
    rw [planned] at referring
    dsimp only at referring ⊢
    cases validated : a.validatePlan plan with
    | error e =>
      rw [validated] at referring
      exact absurd referring (outcome_unreferring rfl)
    | ok =>
      rw [validated] at referring
      dsimp only at referring ⊢
      split
      next expired =>
        rw [if_pos expired] at referring
        exact absurd referring (outcome_unreferring rfl)
      next fresh =>
        rw [if_neg fresh] at referring
        cases derived : idempotencyKey request with
        | error e =>
          rw [derived] at referring
          exact absurd referring (outcome_unreferring rfl)
        | ok key =>
          rw [derived] at referring
          dsimp only at referring ⊢
          split
          next authorization authorized =>
            rw [authorized] at referring
            exact submit_referring referring
          next absent =>
            split at referring
            next authorization authorized => exact absurd authorized (absent authorization)
            next => exact absurd referring (outcome_unreferring rfl)

/-- `GetStatus` asks the provider. -/
def Asks (p : StatusPass) : Prop :=
  ∃ reference authorization, Circle.latestReference p.records = .ok (some reference) ∧
    p.authorization = .ok (some authorization)

/-- Evidence without a reference leaves `GetStatus` nothing to ask for and nothing to report. -/
theorem getStatus_unreferenced {p : StatusPass} (none : ∀ values, p.records = .ok values → ∀ value ∈ values, value.adapterReference = "") :
    ¬ Asks p ∧ ¬ Referring (a.getStatus executionID p) := by
  have latest : ∀ reference, Circle.latestReference p.records ≠ .ok (some reference) := by
    intro reference found
    unfold Circle.latestReference at found
    cases read : p.records with
    | error e => rw [read] at found; cases found
    | ok values =>
      rw [read] at found
      dsimp only at found
      rw [lastReference_none (none values read)] at found
      cases found
  refine ⟨fun ⟨reference, _, found, _⟩ => latest reference found, ?_⟩
  unfold Adapter.getStatus
  split
  next => exact outcome_unreferring rfl
  next => exact outcome_unreferring rfl
  next reference found => exact absurd found (latest reference)

end Adapter

section Runs

variable {ι : Type} {k : Key} {t after : ExecutionTables} {plane : Plane}
  {pass : Move ExecutionTables ι Reply → Pass} {first c : Threads.Config ExecutionTables ι Reply}
  {moves : List (Move ExecutionTables ι Reply)}

/-- The move calls `Execute` for `k`, which has sent nothing and waits for the user. -/
def Waits (plane : Plane) (pass : Move ExecutionTables ι Reply → Pass) (k : Key)
    (move : Move ExecutionTables ι Reply) : Prop :=
  ∃ i scope request result submission, move.label = .call ⟨i, .execute scope request, .ok result⟩ ∧
    executeKey scope request = k ∧ pass move = .submit submission ∧
    (plane.adapter.execute request submission).sent = none ∧ result.errorCode = "USER_AUTHORIZATION_REQUIRED"

/-- The move sends a provider request for `k`: a submission, the reads of a reconciliation or of a verification. -/
def Contacts (plane : Plane) (pass : Move ExecutionTables ι Reply → Pass) (k : Key)
    (move : Move ExecutionTables ι Reply) : Prop :=
  Sends plane pass k move ∨
    (∃ i scope executionID reply reads, move.label = .call ⟨i, .getStatus scope executionID, reply⟩ ∧
      (scope.tenantID, executionID) = k ∧ pass move = .status reads ∧ Asks reads) ∨
    ∃ i scope value reference reply, move.label = .call ⟨i, .verify scope value reference, reply⟩ ∧
      (scope.tenantID, value.executionID) = k

theorem Unreferenced.of_evidence_eq (none : Unreferenced t k) (same : after.evidence = t.evidence) :
    Unreferenced after k := by
  intro row member
  rw [same] at member
  exact none row member

theorem Unreferenced.append {p : EvidenceParams} {inserted : Nat} (none : Unreferenced t k)
    (appended : appendVerificationEvidence p t = .ok (inserted, after)) (quiet : p.key = k → p.adapterReference = "") :
    Unreferenced after k := by
  rcases appendVerificationEvidence_ok appended with ⟨_, _, rfl⟩ | ⟨_, _, _, rfl⟩
  · exact none
  · intro row member own
    rcases List.mem_append.mp member with old | new
    · exact none row old own
    · obtain rfl := List.mem_singleton.mp new
      exact quiet own

/-- A mute request leaves execution `k` without a reference. -/
theorem Unreferenced.answer {call : Call} {reply : Reply call} (none : Unreferenced t k) (mute : Mute k call)
    (answered : Runtime.answer call t reply after) : Unreferenced after k := by
  cases books_answer answered with
  | none _ same => exact none.of_evidence_eq same.evidence
  | update f u record mid updated same =>
    obtain ⟨_, _, _, _, _, rfl⟩ := updateExecution_ok updated
    exact none.of_evidence_eq same.evidence
  | observe f u p record mid last updated appended same =>
    have kept : mid.evidence = t.evidence := by
      obtain ⟨_, _, _, _, _, rfl⟩ := updateExecution_ok updated
      rfl
    exact ((none.of_evidence_eq kept).append appended mute).of_evidence_eq same.evidence
  | append p inserted appended => exact none.append appended mute

/-- The evidence of `k` that can be read carries no reference either. -/
theorem Unreferenced.read {actorID : String} (none : Unreferenced t k) :
    ∀ row ∈ findVerificationEvidence k actorID t, row.adapterReference = "" := by
  intro row member
  unfold findVerificationEvidence at member
  split at member
  next =>
    simp only [List.mem_insertionSort, List.mem_filter, Bool.and_eq_true, beq_iff_eq] at member
    exact none row member.1 (Prod.ext member.2.1 member.2.2)
  next => cases member

theorem Unreferenced.environment (none : Unreferenced t k) (changed : Environment t after) : Unreferenced after k := by
  cases changed with
  | clock => exact none
  | create _ r e created =>
    obtain ⟨mid, requested, inserted⟩ := bind_ok.mp created
    have same := (insertExecution_books inserted).2.2.1
    rw [insertRequest_ok requested] at same
    exact none.of_evidence_eq same

/-- A reconciliation of `k` on these tables asks nothing. -/
theorem Unreferenced.getStatus {a : Adapter} {executionID : String} {reads : StatusPass} (none : Unreferenced t k)
    (own : (scope.tenantID, executionID) = k) (read : ReadsEvidence t scope executionID reads.records) :
    ¬ Asks reads ∧ ¬ Referring (a.getStatus executionID reads) := by
  subst own
  exact getStatus_unreferenced fun values answered => evidenceFromRows_references (read values answered) none.read

/-- No answer of the wired providers shows a reference of an execution that has none and has sent nothing. -/
theorem Unreferenced.unheard {call : Call} {reply : Reply call} {step : Pass} (none : Unreferenced t k)
    (answered : Runtime.answer call t reply after) (explained : Explains plane t call reply step)
    (unsent : ∀ scope request submission, call = .execute scope request → executeKey scope request = k →
      step = .submit submission → (plane.adapter.execute request submission).sent = Option.none) :
    ¬ Hears k call reply := by
  cases call with
  | execute scope request =>
    rintro ⟨own, referring⟩
    cases step with
    | submit submission =>
      have computed : reply = (plane.adapter.execute request submission).answer := explained
      rw [computed] at referring
      exact execute_referring referring (unsent scope request submission rfl own rfl)
    | status => exact explained
    | verify => exact explained
    | idle => exact explained
  | getStatus scope executionID =>
    rintro ⟨own, referring⟩
    obtain ⟨reads, rfl, computed⟩ := explained.status
    rw [computed] at referring
    exact (none.getStatus own explained.1).2 referring
  | findVerificationEvidence key actorID =>
    rintro ⟨rfl, rows, rfl, row, member, some⟩
    cases DbAnswer.of_ok answered
    exact some (none.read row member)
  | _ => exact id

variable [DecidableEq ι]

theorem Initial.discreet (initial : Initial first) : Monitored (hearsay k) False first :=
  fun i => worker_discreet (initial.workers i) _

/-- As long as no `Execute` for `k` has sent anything, no worker has heard of a reference and none is stored. -/
theorem unreferenced_of_run (initial : Initial first) (fresh : Unreferenced first.shared k)
    (run : Run system first moves c) (wired : Wired plane pass moves)
    (unsent : ∀ move ∈ moves, ¬ Sends plane pass k move) :
    Unreferenced c.shared k ∧ ∀ i, ¬ (hearsay k).after False i c.trace := by
  induction run with
  | start =>
    refine ⟨fresh, fun i heard => ?_⟩
    rw [initial.trace] at heard
    exact heard
  | step moves c d label run stepped ih =>
    obtain ⟨none, unheard⟩ := ih (fun move member => wired move (.tail _ member))
      fun move member => unsent move (.tail _ member)
    have monitored : Monitored (hearsay k) False c := initial.discreet.reachable (fun _ _ _ _ _ => trivial) run.reachable
    cases stepped with
    | call i request next reply after running answered =>
      have mute : Mute k request := by
        have follows := monitored i
        rw [running] at follows
        exact follows.permits.resolve_left (unheard i)
      have explained := wired _ (.head _) _ rfl
      refine ⟨none.answer mute answered, fun j heard => ?_⟩
      by_cases own : i = j
      · subst own
        rw [Monitor.after_own] at heard
        refine heard.elim (unheard i) (none.unheard answered explained fun scope request submission called own passed => ?_)
        by_contra sent
        subst called
        exact unsent _ (.head _) ⟨i, scope, request, reply, submission, rfl, own, passed, sent⟩
      · rw [Monitor.after_other _ _ own] at heard
        exact unheard j heard
    | crash i => exact ⟨none, unheard⟩
    | environment after changed => exact ⟨none.environment changed, unheard⟩

/-- The only `Execute` for `k` in a run is the one that waits, so nothing is ever submitted for it. -/
theorem waiting_unsent (initial : Initial first) (run : Run system first moves c)
    {waiting : Move ExecutionTables ι Reply} (member : waiting ∈ moves) (waits : Waits plane pass k waiting) :
    ∀ move ∈ moves, ¬ Sends plane pass k move := by
  rintro move member' ⟨j, scope', request', reply', submission', called', own', passed', sent⟩
  obtain ⟨i, scope, request, result, submission, called, own, passed, unsent, _⟩ := waits
  obtain ⟨inv, _⟩ := submissionInv_reachable initial run.reachable
  have hit : isSubmission k ⟨i, .execute scope request, .ok result⟩ = true := by simp [isSubmission, own]
  have hit' : isSubmission k ⟨j, .execute scope' request', reply'⟩ = true := by simp [isSubmission, own']
  obtain rfl := run.sole (inv k).once member member' called called' hit hit'
  rw [called] at called'
  cases called'
  rw [passed] at passed'
  cases passed'
  exact sent unsent

/-- A run in which `Execute` waits for the user of `k` sends no provider request for `k`. -/
theorem waiting_silent (initial : Initial first) (fresh : Unreferenced first.shared k) (run : Run system first moves c)
    (wired : Wired plane pass moves) {waiting : Move ExecutionTables ι Reply} (member : waiting ∈ moves)
    (waits : Waits plane pass k waiting) : ∀ move ∈ moves, ¬ Contacts plane pass k move := by
  have unsent := waiting_unsent initial run member waits
  intro move here contacts
  obtain ⟨later, earlier, rfl⟩ := List.append_of_mem here
  obtain ⟨before, stepped⟩ := run.upto
  have older {other : Move ExecutionTables ι Reply} (found : other ∈ earlier) : other ∈ later ++ move :: earlier :=
    List.mem_append_right _ (.tail _ found)
  obtain ⟨none, unheard⟩ := unreferenced_of_run initial fresh before (fun other found => wired other (older found))
    fun other found => unsent other (older found)
  rcases contacts with sends | ⟨i, scope, executionID, reply, reads, called, own, passed, asks⟩ |
    ⟨i, scope, value, reference, reply, called, own⟩
  · exact unsent move here sends
  · have explained := wired move here _ called
    rw [passed] at explained
    exact (none.getStatus (a := plane.adapter) own explained.1).1 asks
  · -- a worker that has heard of no reference verifies none
    have monitored : Monitored (hearsay k) False move.before :=
      initial.discreet.reachable (fun _ _ _ _ _ => trivial) before.reachable
    rw [called] at stepped
    exact (monitored.permits stepped).elim (unheard i) fun other => other own

/-- Once `Execute` has answered for `k` that it waits for the user, no continuation of the run sends a
provider request for `k`, whatever the user authorizes and however many passes follow. -/
theorem waiting_never_sends (plane : Plane) (past : Move ExecutionTables ι Reply → Pass) (initial : Initial first)
    (fresh : Unreferenced first.shared k) {waiting : Move ExecutionTables ι Reply} (member : waiting ∈ moves)
    (waits : Waits plane past k waiting) :
    ¬ ∃ pass later d, (∀ move ∈ moves, pass move = past move) ∧ Run system first (later ++ moves) d ∧
      Wired plane pass (later ++ moves) ∧ ∃ move ∈ later, Contacts plane pass k move := by
  rintro ⟨pass, later, d, same, run, wired, move, found, contacts⟩
  have still : Waits plane pass k waiting := by
    unfold Waits
    rw [same waiting member]
    exact waits
  exact waiting_silent initial fresh run wired (List.mem_append_right _ member) still move
    (List.mem_append_left _ found) contacts

end Runs

/-! ### A transfer whose user signs in late -/

/-- A transfer of one token. -/
def waitingPlan : Plan :=
  { Plan.zero with
    walletBindingID := "binding-1", walletID := "wallet-1", walletAddress := "0x1111111111111111111111111111111111111111",
    chainID := Contracts.chainIDArcMainnet, network := Contracts.networkArcMainnet, tokenID := "token-1", amount := "1",
    destinationAddress := "0x2222222222222222222222222222222222222222" }

/-- The provider is there to answer; what the user has delegated is `authorization`. -/
def signedIn (authorization : Option UserAuthorization) : SubmitPass :=
  { plan := .ok waitingPlan, freshAt := sampleRequest.createdAt, authorization := .ok authorization,
    exchange := .response 201 (some ⟨some "challenge-1", none, none, none⟩), now := sampleRequest.createdAt }

theorem waitingPlan_valid : askedPlane.adapter.validatePlan waitingPlan = .ok () := by decide +kernel

theorem sampleRequest_keyed : ∃ key, idempotencyKey sampleRequest = .ok key := by
  simp only [idempotencyKey, Request.validate_ok.mpr sampleRequest_wellFormed]
  exact ⟨_, rfl⟩

/-- What `Execute` reports without a session. -/
def waitingResult : Result :=
  ⟨sampleRequest.executionID, requestVersion, .recoveryRequired, "", "USER_AUTHORIZATION_REQUIRED", sampleRequest.createdAt⟩

theorem signedIn_none : askedPlane.adapter.execute sampleRequest (signedIn none) = ⟨none, .ok waitingResult⟩ := by
  obtain ⟨key, keyed⟩ := sampleRequest_keyed
  have reported : outcome sampleRequest.executionID ⟨.userAuthorizationRequired, "USER_AUTHORIZATION_REQUIRED", none, 0⟩
      sampleRequest.createdAt = .ok waitingResult := by decide +kernel
  have fresh (time : Int) : waitingPlan.freshnessExpired time = false := rfl
  simp [Adapter.execute, signedIn, waitingPlan_valid, keyed, fresh, unsent, reported]

/-- With a session the same call would have been sent. -/
theorem signedIn_some : (askedPlane.adapter.execute sampleRequest (signedIn (some ⟨"token-1"⟩))).sent ≠ none := by
  obtain ⟨key, keyed⟩ := sampleRequest_keyed
  have fresh (time : Int) : waitingPlan.freshnessExpired time = false := rfl
  have kind : waitingPlan.effectiveKind = .tokenTransfer := rfl
  have answered : createChallenge ⟨"token-1"⟩ (.response 201 (some ⟨some "challenge-1", none, none, none⟩)) =
      .ok "challenge-1" := by decide
  have present : UserAuthorization.present ⟨"token-1"⟩ = true := by decide
  simp [Adapter.execute, signedIn, waitingPlan_valid, keyed, fresh, submit, providerRequest, kind, answered, present,
    Exchange.left]

/-- `Execute` is answered without a session, and no other call needs the providers. -/
def waitingPass (move : Move ExecutionTables Bool Reply) : Pass :=
  match move.label with
  | .call ⟨_, .execute .., _⟩ => .submit (signedIn none)
  | _ => .idle

/-- The move in which the sample is told to wait. -/
def IsWait (move : Move ExecutionTables Bool Reply) : Prop :=
  move.label = .call ⟨true, .execute sampleScope sampleRequest, .ok waitingResult⟩

theorem IsWait.waits {waiting : Move ExecutionTables Bool Reply} (wait : IsWait waiting)
    {pass : Move ExecutionTables Bool Reply → Pass} (passed : pass waiting = .submit (signedIn none)) :
    Waits askedPlane pass sampleKey waiting :=
  ⟨true, sampleScope, sampleRequest, waitingResult, signedIn none, wait, rfl, passed, by rw [signedIn_none], rfl⟩

theorem IsWait.passed {waiting : Move ExecutionTables Bool Reply} (wait : IsWait waiting) :
    waitingPass waiting = .submit (signedIn none) := by
  unfold waitingPass
  rw [show waiting.label = _ from wait]

theorem waiting_run : ∃ moves c waiting, Run system (sampleStart .executing []) moves c ∧
    Wired askedPlane waitingPass moves ∧ waiting ∈ moves ∧ IsWait waiting := by
  obtain ⟨c, reached, trace, _⟩ := sample_executes (.ok waitingResult)
  obtain ⟨moves, run⟩ := reached.run
  have events : c.trace = moves.filterMap Move.event := by
    rw [run.trace_eq]
    exact List.append_nil _
  have submitted : ⟨true, .execute sampleScope sampleRequest, .ok waitingResult⟩ ∈ moves.filterMap Move.event := by
    rw [← events, trace]
    exact .head _
  obtain ⟨waiting, member, called⟩ := List.mem_filterMap.mp submitted
  refine ⟨moves, c, waiting, run, fun move here event happened => ?_, member, Move.event_eq.mp called⟩
  have listed := run.mem_trace here happened
  rw [trace] at listed
  simp only [sampleExecuted, sampleSubmission, sampleClaimEvents, claimEvents, List.tail, List.cons_append, List.nil_append,
    List.mem_cons, List.not_mem_nil, or_false] at listed
  rcases listed with rfl | rfl | rfl | rfl | rfl | rfl
  · -- the one answer that the providers gave
    rw [IsWait.passed happened]
    show Except.ok waitingResult = (askedPlane.adapter.execute sampleRequest (signedIn none)).answer
    rw [signedIn_none]
  all_goals trivial

theorem sample_unreferenced : Unreferenced (sampleStart .executing []).shared sampleKey := fun _ none => nomatch none

theorem waiting_never_sends_sample : ∃ moves c, Run system (sampleStart .executing []) moves c ∧
    Wired askedPlane waitingPass moves ∧ (∃ waiting ∈ moves, Waits askedPlane waitingPass sampleKey waiting) ∧
    ¬ ∃ pass later d, (∀ move ∈ moves, pass move = waitingPass move) ∧
      Run system (sampleStart .executing []) (later ++ moves) d ∧ Wired askedPlane pass (later ++ moves) ∧
      ∃ move ∈ later, Contacts askedPlane pass sampleKey move := by
  obtain ⟨moves, c, waiting, run, wired, member, wait⟩ := waiting_run
  have waits := wait.waits wait.passed
  exact ⟨moves, c, run, wired, ⟨waiting, member, waits⟩, waiting_never_sends askedPlane waitingPass
    (sampleStart_initial _ _) sample_unreferenced member waits⟩

/-- The transfer would have been sent at once with a session. It waits, and in every continuation of its run
no request is sent for it, although the passes that follow may have the session. -/
theorem late_session_sends_nothing :
    (askedPlane.adapter.execute sampleRequest (signedIn (some ⟨"token-1"⟩))).sent ≠ none ∧
      ∃ moves c waiting, Run system (sampleStart .executing []) moves c ∧ waiting ∈ moves ∧ IsWait waiting ∧
        ∀ pass later d, pass waiting = .submit (signedIn none) → Run system (sampleStart .executing []) (later ++ moves) d →
          Wired askedPlane pass (later ++ moves) → ∀ move ∈ later, ¬ Contacts askedPlane pass sampleKey move := by
  obtain ⟨moves, c, waiting, run, _, member, wait⟩ := waiting_run
  refine ⟨signedIn_some, moves, c, waiting, run, member, wait, fun pass later d passed continued wired move found => ?_⟩
  exact waiting_silent (sampleStart_initial _ _) sample_unreferenced continued wired
    (List.mem_append_right _ member) (wait.waits passed) move (List.mem_append_left _ found)

end WizPay.Runtime
