import WizPay.Runtime.System

/-!
# What a worker requests

`Issue` says what a worker that holds a claim can ask for. Outside its passes a worker
claims, reads and confirms: `Admits` collects what a monitor must grant there, and
`Admits.worker` is the walk through the worker's loop.
-/
namespace WizPay.Runtime

open Checks Exec Storage Threads

/-- The fence of a claim as every repository method presents it. -/
def claimFence (claim : ExecutionClaim) : Fence := claim.fence claim.fencingToken

/-- The recorded recovery does not lead back to VERIFIED. -/
def Steady (failure : Failure) (recovery : Recovery) : Prop :=
  failure.recoveryTarget ≠ some .verified ∧ recovery.target ≠ some .verified

/-- The adapter's answer carries a reference. -/
def Referring (answer : Except Error Result) : Prop := ∃ result, answer = .ok result ∧ result.adapterReference ≠ ""

/-- The requests of a pass over `current` under the fence `f`, beside its calls to the adapter and the
verifier. `final` says whether the execution may be ended for good, `silent` that there is no reference to store. -/
def Issue (f : Fence) (current : Execution) (final silent : Prop) : Call → Prop
  | .updateClaimed g u record =>
    g = f ∧ u.key = f.key ∧ record.key = f.key ∧ u.status ≠ .failed ∧
      (Steady current.failure current.recovery → Steady u.failure u.recovery ∧ u.status ≠ .verified) ∧
      (u.status = .completed → u.key = (f.tenantID, current.executionID) ∧ u.expected = current.revision ∧
        current.status = .verified)
  | .persistClaimed g u p record =>
    g = f ∧ u.key = f.key ∧ p.key = f.key ∧ record.key = f.key ∧ (failedForGood u.status u.failure → final) ∧
      (Steady current.failure current.recovery → Steady u.failure u.recovery) ∧ u.status ≠ .completed ∧
      (u.status = .verified → p.executionVersion = u.revision ∧ p.status = .verified) ∧
      (silent → p.adapterReference = "")
  | .releaseExecutionWork g _ => g = f
  | .appendVerificationEvidence p => ¬ silent ∧
      (GoText.trimSpace current.executionID = current.executionID → p.key = (f.tenantID, current.executionID))
  | .findVerificationEvidence .. => True
  | _ => False

variable {claim : ExecutionClaim} {value current next : Execution} {expected : Nat} {record : Audit.Record} {now : Int}
  {fence f : Fence} {update : ExecutionUpdate} {auditValue : AuditRow} {evidence result : Result}
  {step : Except Error Execution} {status : Status} {reason : String} {final silent : Prop}

/-! ### The parameters of a fenced write -/

variable {scope : Scope} {reasonCode : String} {row : WorkRow}

theorem executionUpdateParams_eq (built : executionUpdateParams scope value expected = .ok update) :
    update = { tenantID := scope.tenantID, actorID := scope.actorID, executionID := value.executionID,
               status := value.status, revision := value.revision, updatedAt := GoTime.truncMicros value.updatedAt,
               failure := value.failure, failedFrom := value.failedFrom, recovery := value.recovery,
               expected := expected } := by
  simp only [executionUpdateParams, bind_ok, dbVersion_ok, pure_ok] at built
  obtain ⟨_, ⟨_, _, rfl⟩, _, ⟨_, _, rfl⟩, rfl⟩ := built
  rfl

theorem validateRuntimeAudit_ok (matched : validateRuntimeAudit claim value record = .ok ()) :
    claim.execution.executionID = value.executionID ∧ record.resourceID = value.executionID := by
  simp only [validateRuntimeAudit, rejectIf_ok, not_or, ne_eq, not_not] at matched
  exact ⟨matched.1, matched.2.2.1⟩

theorem auditParams_key (built : auditParams scope record = .ok auditValue) :
    auditValue.key = (scope.tenantID, record.resourceID) := by
  simp only [auditParams, bind_ok, pure_ok] at built
  obtain ⟨_, _, _, _, _, _, rfl⟩ := built
  rfl

theorem validateClaimParams_ok {token : Nat} (checked : validateClaimParams claim now = .ok token) :
    token = claim.fencingToken := by
  simp only [validateClaimParams, guard_ok, dbVersion_ok] at checked
  exact checked.2.2.2.2.symm

theorem updateClaimedParams_ok
    (built : updateClaimedParams claim value expected record now = .ok (fence, update, auditValue)) :
    fence = claimFence claim ∧ auditValue.key = (claimFence claim).key ∧
      claim.execution.executionID = value.executionID ∧
      executionUpdateParams claim.scope value expected = .ok update := by
  simp only [updateClaimedParams, bind_ok, pure_ok, Prod.mk.injEq] at built
  obtain ⟨token, checked, _, _, _, matched, _, updated, _, recorded, rfl, rfl, rfl⟩ := built
  obtain ⟨sameID, resource⟩ := validateRuntimeAudit_ok matched
  refine ⟨by rw [validateClaimParams_ok checked]; rfl, ?_, sameID, updated⟩
  rw [auditParams_key recorded, resource, ← sameID]
  rfl

/-- What both observation writes present. -/
theorem observationParams_ok {params : EvidenceParams}
    (built : persistClaimedObservationParams claim evidence value expected record now =
        .ok (fence, update, params, auditValue) ∨
      persistClaimedEvidenceParams claim evidence value expected record now =
        .ok (fence, update, params, auditValue)) :
    ∃ token code, validateClaimParams claim now = .ok token ∧ validateRuntimeAudit claim value record = .ok () ∧
      executionUpdateParams claim.scope value expected = .ok update ∧
      auditParams claim.scope record = .ok auditValue ∧ evidence.executionID = value.executionID ∧
      fence = claim.fence token ∧ params = evidenceParams claim.scope evidence value.revision code := by
  rcases built with built | built
  · simp only [persistClaimedObservationParams, bind_ok, rejectIf_ok, not_or, ne_eq, not_not, pure_ok,
      Prod.mk.injEq, dbVersion_ok] at built
    obtain ⟨token, checked, _, _, _, matched, _, ⟨sameID, sameVersion, _⟩, _, ⟨_, _, rfl⟩, _, updated, _, recorded,
      rfl, rfl, rfl, rfl⟩ := built
    exact ⟨token, _, checked, matched, updated, recorded, sameID, rfl, by rw [sameVersion]⟩
  · simp only [persistClaimedEvidenceParams, bind_ok, rejectIf_ok, not_or, ne_eq, not_not, pure_ok,
      Prod.mk.injEq, dbVersion_ok] at built
    obtain ⟨token, checked, _, _, _, matched, _, ⟨_, _, sameID, _, sameVersion⟩, _, ⟨_, _, rfl⟩, _, updated, _, recorded,
      rfl, rfl, rfl, rfl⟩ := built
    exact ⟨token, _, checked, matched, updated, recorded, sameID, rfl, by rw [sameVersion]⟩

/-! ### What a lifecycle step leaves behind -/

/-- A step that is written alone. -/
structure Advances (current next : Execution) : Prop where
  running : next.status ≠ .failed
  steady : Steady current.failure current.recovery → Steady next.failure next.recovery ∧ next.status ≠ .verified
  completes : next.status = .completed → next.executionID = current.executionID ∧ current.status = .verified

/-- A step that is written with an observation. -/
structure Settles (current next : Execution) (final : Prop) : Prop where
  running : next.status ≠ .completed
  steady : Steady current.failure current.recovery → Steady next.failure next.recovery
  ends : failedForGood next.status next.failure → final

theorem transition_keeps (moved : current.transition status now = .ok next) :
    next.executionID = current.executionID ∧
      (Steady current.failure current.recovery → Steady next.failure next.recovery) := by
  obtain ⟨_, ⟨_, rfl⟩ | ⟨_, _, advanced⟩⟩ := Execution.transition_ok moved
  · exact ⟨rfl, id⟩
  · rw [(Execution.advance_ok.mp advanced).1]
    exact ⟨rfl, id⟩

theorem Advances.transition (moved : current.transition status now = .ok next)
    (plain : status ≠ .failed ∧ status ≠ .verified ∧ status ≠ .completed) : Advances current next := by
  rw [← Execution.transition_status moved] at plain
  exact ⟨plain.1, fun steady => ⟨(transition_keeps moved).2 steady, plain.2.1⟩, fun same => absurd same plain.2.2⟩

theorem Advances.complete (moved : current.transition .completed now = .ok next) (verified : current.status = .verified) :
    Advances current next := by
  have completed := Execution.transition_status moved
  refine ⟨?_, fun steady => ⟨(transition_keeps moved).2 steady, ?_⟩, fun _ => ⟨(transition_keeps moved).1, verified⟩⟩
  all_goals
    rw [completed]
    exact nofun

theorem Settles.transition (moved : current.transition status now = .ok next)
    (plain : status ≠ .failed ∧ status ≠ .completed) : Settles current next final := by
  rw [← Execution.transition_status moved] at plain
  exact ⟨plain.2, (transition_keeps moved).2, fun ended => absurd ended.1 plain.1⟩

theorem requireRecovery_steady (moved : current.requireRecovery reasonCode now = .ok next)
    (unverified : current.status ≠ .verified) (steady : Steady current.failure current.recovery) :
    Steady next.failure next.recovery := by
  obtain ⟨_, ⟨_, rfl⟩ | ⟨_, _, advanced⟩⟩ := Execution.requireRecovery_ok moved
  · exact steady
  · rw [(Execution.advance_ok.mp advanced).1]
    refine ⟨steady.1, ?_⟩
    -- only a VERIFIED execution would recover to VERIFIED
    show recoveryTarget current.status ≠ some .verified
    cases status : current.status with
    | verified => exact absurd status unverified
    | _ => exact nofun

theorem Settles.requireRecovery (unverified : current.status ≠ .verified)
    (moved : current.requireRecovery reasonCode now = .ok next) : Settles current next final := by
  have waiting := Execution.requireRecovery_status moved
  refine ⟨?_, requireRecovery_steady moved unverified, fun ended => absurd ended.1 ?_⟩
  all_goals
    rw [waiting]
    exact nofun

theorem Advances.requireRecovery (unverified : current.status ≠ .verified)
    (moved : current.requireRecovery reasonCode now = .ok next) : Advances current next := by
  have waiting := Execution.requireRecovery_status moved
  refine ⟨?_, fun steady => ⟨requireRecovery_steady moved unverified steady, ?_⟩, ?_⟩
  all_goals
    rw [waiting]
    exact nofun

theorem Settles.fail {failure : Failure} (moved : current.fail failure now = .ok next)
    (target : failure.recoveryTarget ≠ some .verified) (ends : failure.eligibility = some .terminal → final) :
    Settles current next final := by
  refine ⟨?_, ?_, fun ended => ends (Execution.fail_final moved ended)⟩
  all_goals obtain ⟨_, ⟨failed, _, rfl⟩ | ⟨_, _, _, advanced⟩⟩ := Execution.fail_ok moved
  · rw [failed]
    exact nofun
  · rw [(Execution.advance_ok.mp advanced).1]
    exact nofun
  · exact id
  · rw [(Execution.advance_ok.mp advanced).1]
    exact fun steady => ⟨target, steady.2⟩

theorem Advances.recover (moved : current.recover now = .ok next) : Advances current next := by
  have waiting := Execution.recover_status moved
  obtain ⟨_, _, _, _, advanced⟩ := Execution.recover_ok moved
  rw [(Execution.advance_ok.mp advanced).1] at waiting ⊢
  refine ⟨?_, fun steady => ⟨⟨steady.1, steady.1⟩, ?_⟩, ?_⟩
  all_goals
    rw [waiting]
    exact nofun

/-- The targets of a recovery leave COMPLETED alone, and lead to VERIFIED only when the record says so. -/
theorem Advances.resume (moved : current.resume now = .ok next) : Advances current next := by
  have running := Execution.resume_status moved
  obtain ⟨target, found, valid, waiting, _, advanced⟩ := Execution.resume_ok moved
  have checked := (Execution.validate_ok.mp valid).recovering waiting
  simp only [Recovery.validate, checks_ok, found, Bool.not_eq_false] at checked
  rw [(Execution.advance_ok.mp advanced).1] at running ⊢
  refine ⟨running, fun steady => ⟨steady, fun verified => steady.2 ?_⟩, ?_⟩
  · rw [found]
    exact congrArg some verified
  · rintro rfl
    revert checked
    cases current.recovery.fromStatus with
    | none => simp [validRecoveryTarget]
    | some status => cases status <;> simp [validRecoveryTarget]

/-! ### The helpers of a pass -/

theorem updateClaimedExecution_issues (advances : Advances current value) :
    (updateClaimedExecution claim value current.revision record now).Uses
      (Issue (claimFence claim) current final silent) := by
  unfold updateClaimedExecution
  split
  next => exact .done _
  next built =>
    obtain ⟨rfl, recorded, sameID, updated⟩ := updateClaimedParams_ok built
    obtain rfl := executionUpdateParams_eq updated
    refine .ask ⟨rfl, congrArg _ sameID.symm, recorded, advances.running, advances.steady, fun completed => ?_⟩
      fun _ => .done _
    obtain ⟨sameID, verified⟩ := advances.completes completed
    exact ⟨congrArg _ sameID, rfl, verified⟩

theorem persistStep_issues (advances : ∀ next, step = .ok next → Advances current next) :
    (persistStep claim current step now reason).Uses (Issue (claimFence claim) current final silent) := by
  unfold persistStep
  split
  next => exact .done _
  next next =>
    unfold persist
    exact (updateClaimedExecution_issues (advances next rfl)).bind fun _ => .done _

theorem transition_issues (plain : status ≠ .failed ∧ status ≠ .verified ∧ status ≠ .completed) :
    (transition claim current status now reason).Uses (Issue (claimFence claim) current final silent) :=
  persistStep_issues fun _ moved => .transition moved plain

theorem observation_issue {params : EvidenceParams}
    (built : persistClaimedObservationParams claim evidence value expected record now =
        .ok (fence, update, params, auditValue) ∨
      persistClaimedEvidenceParams claim evidence value expected record now =
        .ok (fence, update, params, auditValue))
    (settles : Settles current value final) (status : evidence.status = value.status)
    (quiet : silent → evidence.adapterReference = "") :
    Issue (claimFence claim) current final silent (.persistClaimed fence update params auditValue) := by
  obtain ⟨token, code, checked, matched, updated, recorded, observed, rfl, rfl⟩ := observationParams_ok built
  obtain ⟨sameID, resource⟩ := validateRuntimeAudit_ok matched
  obtain rfl := executionUpdateParams_eq updated
  refine ⟨by rw [validateClaimParams_ok checked]; rfl, congrArg _ sameID.symm, congrArg _ (observed.trans sameID.symm),
    ?_, settles.ends, settles.steady, settles.running, fun verified => ⟨rfl, status.trans verified⟩, quiet⟩
  rw [auditParams_key recorded, resource, ← sameID]
  rfl

theorem persistClaimedObservation_issues (settles : Settles current value final)
    (status : evidence.status = value.status) (quiet : silent → evidence.adapterReference = "") :
    (persistClaimedObservation claim evidence value expected record now).Uses
      (Issue (claimFence claim) current final silent) := by
  unfold persistClaimedObservation
  split
  next => exact .done _
  next built => exact .ask (observation_issue (.inl built) settles status quiet) fun _ => .done _

theorem newResult_unreferenced {params : Result} (made : newResult params = .ok result)
    (none : params.adapterReference = "") : result.adapterReference = "" := by
  rw [← (newResult_ok.mp made).2]
  simp only [Result.trimmed, none]
  decide

theorem newResult_status {params : Result} (made : newResult params = .ok result) : result.status = params.status := by
  rw [← (newResult_ok.mp made).2]
  rfl

theorem persistObservation_issues (plain : status ≠ .failed ∧ status ≠ .completed)
    (quiet : silent → result.adapterReference = "") :
    (persistObservation claim current result status now).Uses (Issue (claimFence claim) current final silent) := by
  unfold persistObservation
  split
  next => exact .done _
  next next moved =>
    split
    next => exact .done _
    next made =>
      exact (persistClaimedObservation_issues (.transition moved plain) (newResult_status made)
        fun alone => newResult_unreferenced made (quiet alone)).bind fun _ => .done _

theorem persistFailureObservation_issues (settles : Settles current next final)
    (quiet : silent → result.adapterReference = "") :
    (persistFailureObservation claim current next result now reason).Uses
      (Issue (claimFence claim) current final silent) := by
  unfold persistFailureObservation
  split
  next => exact .done _
  next made =>
    exact (persistClaimedObservation_issues settles (newResult_status made)
      fun alone => newResult_unreferenced made (quiet alone)).bind fun _ => .done _

theorem persistObservedFailure_issues {code : String} {observedAt : Int}
    (settles : ∀ next, step = .ok next → Settles current next final) :
    (persistObservedFailure claim current step status code observedAt now).Uses
      (Issue (claimFence claim) current final silent) := by
  unfold persistObservedFailure
  split
  next => exact .done _
  next next =>
    split
    next => exact .done _
    next made => exact persistFailureObservation_issues (settles next rfl) fun _ => newResult_unreferenced made rfl

theorem persistReportedFailure_issues (settles : ∀ next, step = .ok next → Settles current next final)
    (quiet : silent → result.adapterReference = "") :
    (persistReportedFailure claim current step result now).Uses (Issue (claimFence claim) current final silent) := by
  cases step with
  | error e => exact .done _
  | ok next => exact persistFailureObservation_issues (settles next rfl) quiet

/-- The adapter's answer ends the execution only when it condemns it. -/
theorem applyAdapterAnswer_issues (unverified : value.status ≠ .verified) {answer : Except Error Result}
    (quiet : silent → ¬ Referring answer) :
    (applyAdapterAnswer claim value now answer).Uses
      (Issue (claimFence claim) value (Condemning answer) silent) := by
  unfold applyAdapterAnswer
  split
  next e =>
    split
    next kind reasonCode failed =>
      refine persistObservedFailure_issues fun next moved => .fail moved ?_ fun terminal => ?_
      · cases kind <;> exact nofun
      · cases kind with
        | permanent => exact ⟨reasonCode, failed⟩
        | transient => cases terminal
    next => exact persistObservedFailure_issues fun _ => .requireRecovery unverified
  next result =>
    have silence (alone : silent) : result.adapterReference = "" := by
      by_contra some
      exact quiet alone ⟨result, rfl, some⟩
    split
    next => exact .done _
    next =>
      split
      next => exact persistObservation_issues (by decide) silence
      next => exact persistObservation_issues (by decide) silence
      next => exact persistObservation_issues (by decide) silence
      next failed =>
        exact persistReportedFailure_issues (fun _ moved => .fail moved nofun fun _ => failed) silence
      next => exact persistReportedFailure_issues (fun _ => .requireRecovery unverified) silence
      next => exact .done _

theorem findVerificationEvidenceProc_issues {executionID : String} :
    (findVerificationEvidenceProc scope executionID).Uses (Issue f current final silent) := by
  unfold findVerificationEvidenceProc
  split
  next => exact .done _
  next =>
    refine .ask trivial fun reply => ?_
    cases reply <;> exact .done _

theorem persistPending_issues {reference : String} {result : VerificationResult} :
    (persistPending claim value reference result).Uses (Issue (claimFence claim) value final False) := by
  unfold persistPending
  split
  next =>
    split
    next => exact .done _
    next observation made =>
      obtain ⟨_, rfl⟩ := newResult_ok.mp made
      refine Program.Uses.bind ?_ fun answer => by cases answer <;> exact .done _
      unfold appendVerificationEvidenceProc
      split
      next => exact .done _
      next params built =>
        simp only [appendVerificationEvidenceParams, bind_ok, pure_ok] at built
        obtain ⟨_, _, _, _, _, _, rfl⟩ := built
        refine .ask ⟨not_false, fun trimmed => ?_⟩ fun reply => by cases reply <;> exact .done _
        rw [EvidenceParams.key, evidenceParams, Result.trimmed, trimmed]
        rfl
  next => exact .done _

theorem persistVerified_issues {confirmed : Execution} {result : VerificationResult}
    (steady : Steady current.failure current.recovery → Steady confirmed.failure confirmed.recovery) :
    (persistVerified claim confirmed result now).Uses (Issue (claimFence claim) current final False) := by
  unfold persistVerified
  split
  next => exact .done _
  next verified moved =>
    have status := Execution.transition_status moved
    have settles : Settles confirmed verified final := .transition moved (by decide)
    split
    next => exact .done _
    next made =>
      refine Program.Uses.bind ?_ fun _ => .done _
      unfold persistClaimedEvidence
      split
      next => exact .done _
      next built =>
        refine .ask (observation_issue (.inr built) ⟨settles.running, fun clean => settles.steady (steady clean),
          settles.ends⟩ ?_ False.elim) fun _ => .done _
        rw [newResult_status made, status]

/-- A fenced update returns the value that it was given, of the claimed execution. -/
theorem updateClaimedExecution_returns :
    (updateClaimedExecution claim value expected record now).Returns fun answer =>
      ∀ stored, answer = .ok stored → stored = value ∧ claim.execution.executionID = value.executionID := by
  unfold updateClaimedExecution
  split
  next => exact .done _ fun _ refused => nomatch refused
  next built =>
    obtain ⟨_, _, sameID, _⟩ := updateClaimedParams_ok built
    refine .call _ _ fun reply => .done _ fun stored answered => ?_
    cases reply with
    | ok => cases answered; exact ⟨rfl, sameID⟩
    | error e =>
      simp only [fencedAnswer] at answered
      split at answered
      all_goals cases answered

/-- The claim that carries the CONFIRMED value still has the same fence. -/
theorem confirmAndVerify_issues {result : VerificationResult} :
    (confirmAndVerify claim value result now).Uses (Issue (claimFence claim) value final False) := by
  unfold confirmAndVerify
  split
  next =>
    split
    next => exact .done _
    next confirmed moved =>
      refine (updateClaimedExecution_issues (.transition moved (by decide))).bind_returns
        updateClaimedExecution_returns fun answer returned => ?_
      cases answer with
      | error e => exact .done _
      | ok stored =>
        obtain ⟨rfl, sameID⟩ := returned stored rfl
        have sameFence : claimFence { claim with execution := stored } = claimFence claim := by
          simp only [claimFence, ExecutionClaim.fence, sameID]
        rw [← sameFence]
        exact persistVerified_issues (transition_keeps moved).2
  next => exact persistVerified_issues id

/-- The verifier's answer ends the execution only when it reports a failure. -/
theorem applyVerification_issues {reference : String} (unverified : value.status ≠ .verified)
    (answer : Except Error VerificationResult) :
    (applyVerification claim value reference now answer).Uses
      (Issue (claimFence claim) value (∃ result, answer = .ok result ∧ result.outcome = .failed) False) := by
  unfold applyVerification
  split
  next =>
    split
    next => exact .done _
    next => exact persistStep_issues fun _ => .requireRecovery unverified
  next result =>
    split
    next => exact .done _
    next =>
      split
      next => exact persistPending_issues
      next failed =>
        exact persistObservedFailure_issues fun _ moved => .fail moved nofun fun _ => ⟨result, rfl, failed⟩
      next => exact confirmAndVerify_issues

theorem latestReference_issues (current : Execution) {executionID : String} :
    (latestReference scope executionID).Uses (Issue f current final silent) := by
  unfold latestReference
  refine findVerificationEvidenceProc_issues.bind fun found => ?_
  cases found with
  | error e => exact .done _
  | ok values =>
    dsimp only
    split
    all_goals exact .done _

theorem complete_issues (verified : value.status = .verified) :
    (complete claim value now).Uses (Issue (claimFence claim) value final silent) := by
  unfold complete
  refine Program.Uses.bind ?_ fun found => ?_
  · unfold hasVerifiedEvidence
    refine findVerificationEvidenceProc_issues.bind fun found => ?_
    cases found <;> exact .done _
  · match found with
    | .error e => exact .done _
    | .ok false => exact .done _
    | .ok true => exact persistStep_issues fun _ moved => .complete moved verified

theorem releaseExecutionWorkProc_issues (current : Execution) {nextRunAt : Int} :
    (releaseExecutionWorkProc claim nextRunAt).Uses (Issue (claimFence claim) current final silent) := by
  unfold releaseExecutionWorkProc
  simp only
  split
  next => exact .done _
  next token checked =>
    simp only [guard_ok, dbVersion_ok] at checked
    refine .ask ?_ fun reply => ?_
    · rw [← checked.2.2.2.2]
      rfl
    · cases reply <;> exact .done _

/-- A pass submits or reconciles, verifies, or moves the execution on by itself. -/
theorem processClaim_cases (claim : ExecutionClaim) (now : Int) :
    (∀ silent, (processClaim claim now).Uses (Issue (claimFence claim) claim.execution False silent)) ∨
      claim.execution.status ≠ .verified ∧ (processClaim claim now = submitOrReconcile claim claim.execution now ∨
        processClaim claim now = verify claim claim.execution now) := by
  unfold processClaim
  dsimp only
  cases status : claim.execution.status with
  | created | authorized | queued | submitted => exact .inl fun _ => transition_issues (by decide)
  | executing => exact .inr ⟨nofun, .inl rfl⟩
  | confirming | confirmed => exact .inr ⟨nofun, .inr rfl⟩
  | verified => exact .inl fun _ => complete_issues status
  | failed =>
    dsimp only
    split
    next => exact .inl fun _ => .done _
    next =>
      split
      next => exact .inl fun _ => .done _
      next => exact .inl fun _ => persistStep_issues fun _ => .recover
  | recoveryRequired => exact .inl fun _ => persistStep_issues fun _ => .resume
  | completed | cancelled => exact .inl fun _ => .done _

/-! ### The worker around its passes -/

theorem executionClaim_ok {execution : Execution} {built : ExecutionClaim}
    (made : executionClaim scope row execution = .ok built) :
    built = ⟨scope, execution, row.leaseOwner, row.fencingToken, row.leaseExpiresAt, row.submissionStarted⟩ := by
  simp only [executionClaim, bind_ok, domainVersion_ok, pure_ok] at made
  obtain ⟨token, ⟨_, rfl⟩, rfl⟩ := made
  rfl

theorem executionClaim_map_ok {execution : Execution} {built : ExecutionClaim}
    (made : (executionClaim scope row execution).map some = .ok (some built)) :
    executionClaim scope row execution = .ok built := by
  cases answered : executionClaim scope row execution with
  | error e => simp [answered, Except.map] at made
  | ok claim =>
    rw [answered] at made
    cases made
    rfl

/-- The requests outside a pass. -/
def Opens : Call → Prop
  | .now | .claimExecutionWork .. | .claimNextExecutionWork .. | .findExecutionOwner .. | .findExecutionByID ..
  | .validateExecutionClaim .. => True
  | _ => False

/-- What a monitor must grant for every worker to follow it. `Fresh` holds from a claim to its confirmation, and a
confirmed claim makes the monitor `Ready`; a pass and its release go on from there. -/
structure Admits {μ : Type} (M : Monitor Reply μ) (Fresh : WorkRow → String → μ → Prop)
    (Ready : ExecutionClaim → μ → Prop) : Prop where
  opens : ∀ m call, Opens call → M.permits m call
  clock : ∀ m reply, M.advance m .now reply = m
  claimed : ∀ m k actorID owner micros row, M.expects (.claimExecutionWork k actorID owner micros) (.ok row) →
    Fresh row owner (M.advance m (.claimExecutionWork k actorID owner micros) (.ok row))
  claimedNext : ∀ m owner micros row, M.expects (.claimNextExecutionWork owner micros) (.ok row) →
    Fresh row owner (M.advance m (.claimNextExecutionWork owner micros) (.ok row))
  owned : ∀ m row owner k reply, Fresh row owner m → Fresh row owner (M.advance m (.findExecutionOwner k) reply)
  confirmed : ∀ m (scope : Scope) executionID owner work record value claim, Fresh work owner m →
    M.expects (.findExecutionByID (scope.tenantID, executionID) scope.actorID) (.ok record) →
    restoreExecutionRecord record = .ok value → executionClaim scope work value = .ok claim →
    Ready claim (M.advance (M.advance m (.findExecutionByID (scope.tenantID, executionID) scope.actorID) (.ok record))
      (.validateExecutionClaim ⟨scope.tenantID, executionID, owner, work.fencingToken⟩) (.ok 1))
  passes : ∀ claim now m, Ready claim m → (processClaim claim now).Follows M (fun _ reached =>
    ∀ nextRunAt, (releaseExecutionWorkProc claim nextRunAt).Follows M (fun _ _ => True) reached) m

section Admits

variable {μ : Type} {M : Monitor Reply μ} {Fresh : WorkRow → String → μ → Prop} {Ready : ExecutionClaim → μ → Prop} {m : μ}

/-- The answer is a claim that makes the monitor ready. -/
def Readies (Ready : ExecutionClaim → μ → Prop) (answer : Except Error (Option ExecutionClaim)) (reached : μ) : Prop :=
  ∀ claim, answer = .ok (some claim) → Ready claim reached

theorem refused_claim {e : Error} (claim : ExecutionClaim) :
    (if e.isNoRows then .ok none else .error (mapDatabaseError e) : Except Error (Option ExecutionClaim)) ≠
      .ok (some claim) := by
  split
  all_goals exact nofun

variable (admits : Admits M Fresh Ready)
include admits

theorem Admits.find (scope : Scope) (executionID : String) :
    (findExecutionByIDProc scope executionID).Follows M (fun answer reached => ∀ found, answer = .ok found →
      ∃ record, M.expects (.findExecutionByID (scope.tenantID, executionID) scope.actorID) (.ok record) ∧
        restoreExecutionRecord record = .ok found ∧
        reached = M.advance m (.findExecutionByID (scope.tenantID, executionID) scope.actorID) (.ok record)) m := by
  unfold findExecutionByIDProc
  split
  next => exact .done _ _ fun _ refused => nomatch refused
  next =>
    refine .ask (admits.opens _ _ trivial) fun reply expected => ?_
    cases reply with
    | error e =>
      dsimp only
      split
      all_goals exact .done _ _ fun _ refused => nomatch refused
    | ok record => exact .done _ _ fun found restored => ⟨record, expected, restored, rfl⟩

theorem Admits.confirm {executionID workerID : String}
    (fresh : Fresh row workerID m) :
    (confirmClaim scope executionID workerID row).Follows M (Readies Ready) m := by
  unfold confirmClaim
  refine (admits.find scope executionID).bind fun answer reached found => ?_
  cases answer with
  | error e => exact .done _ _ fun _ refused => nomatch refused
  | ok value =>
    obtain ⟨record, expected, restored, rfl⟩ := found value rfl
    refine .ask (admits.opens _ _ trivial) fun reply _ => ?_
    cases reply with
    | error e => exact .done _ _ fun _ refused => nomatch refused
    | ok rows =>
      dsimp only
      split
      next => exact .done _ _ fun _ refused => nomatch refused
      next one =>
        -- exactly one row matched
        obtain rfl := not_not.mp one
        exact .done _ _ fun claim answered =>
          admits.confirmed _ _ _ _ _ _ _ _ fresh expected restored (executionClaim_map_ok answered)

theorem Admits.claimOne {executionID workerID : String} {leaseDuration : Int} :
    (claimExecutionWorkProc scope executionID workerID now leaseDuration).Follows M (Readies Ready) m := by
  unfold claimExecutionWorkProc
  dsimp only
  split
  next => exact .done _ _ fun _ refused => nomatch refused
  next =>
    refine .ask (admits.opens _ _ trivial) fun reply expected => ?_
    cases reply with
    | error e => exact .done _ _ fun claim answered => absurd answered (refused_claim claim)
    | ok row => exact admits.confirm (admits.claimed _ _ _ _ _ _ expected)

theorem Admits.claimNext {workerID : String} {leaseDuration : Int} :
    (claimNextExecutionWorkProc workerID now leaseDuration).Follows M (Readies Ready) m := by
  unfold claimNextExecutionWorkProc
  split
  next => exact .done _ _ fun _ refused => nomatch refused
  next =>
    refine .ask (admits.opens _ _ trivial) fun reply expected => ?_
    cases reply with
    | error e => exact .done _ _ fun claim answered => absurd answered (refused_claim claim)
    | ok row =>
      refine .ask (admits.opens _ _ trivial) fun owner _ => ?_
      cases owner with
      | error e => exact .done _ _ fun _ refused => nomatch refused
      | ok owner =>
        dsimp only
        split
        next => exact .done _ _ fun _ refused => nomatch refused
        next => exact admits.confirm (admits.owned _ _ _ _ _ (admits.claimedNext _ _ _ _ expected))

theorem Admits.run (config : Config) (rounds : Nat) :
    (run config rounds).Follows M (fun _ _ => True) m := by
  induction rounds generalizing m with
  | zero => exact .done _ _ trivial
  | succ rounds ih =>
    unfold Runtime.run
    refine .ask (admits.opens _ _ trivial) fun claimedAt _ => ?_
    refine admits.claimNext.bind fun answer reached ready => ?_
    match answer with
    | .error e => exact .done _ _ trivial
    | .ok none => exact ih
    | .ok (some claim) =>
      refine .ask (admits.opens _ _ trivial) fun now _ => ?_
      rw [admits.clock]
      refine (admits.passes claim now _ (ready claim rfl)).bind fun returned last releases => ?_
      refine .ask (admits.opens _ _ trivial) fun releasedAt _ => ?_
      rw [admits.clock]
      refine (releases _).bind fun released _ _ => ?_
      split
      next => exact .done _ _ trivial
      next => exact .done _ _ trivial
      next => exact ih

theorem Admits.process (config : Config) (scope : Scope) (executionID : String) :
    (process config scope executionID).Follows M (fun _ _ => True) m := by
  unfold Runtime.process
  refine .ask (admits.opens _ _ trivial) fun now _ => ?_
  refine admits.claimOne.bind fun answer reached ready => ?_
  match answer with
  | .error e => exact .done _ _ trivial
  | .ok none => exact (admits.find scope executionID).bind fun _ _ _ => .done _ _ trivial
  | .ok (some claim) =>
    refine (admits.passes claim now _ (ready claim rfl)).bind fun returned last releases => ?_
    refine (releases _).bind fun released _ _ => ?_
    split
    all_goals exact .done _ _ trivial

/-- Every worker follows a monitor that admits its passes, whatever is answered to it. -/
theorem Admits.worker {program : Proc Unit} (worker : IsWorker program) :
    program.Follows M (fun _ _ => True) m := by
  cases worker with
  | process config scope executionID =>
    exact (admits.process config scope executionID).bind fun _ _ _ => .done _ _ trivial
  | run config rounds => exact (admits.run config rounds).bind fun _ _ _ => .done _ _ trivial

end Admits

end WizPay.Runtime
