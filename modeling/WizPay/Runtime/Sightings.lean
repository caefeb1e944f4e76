import WizPay.Runtime.Claiming
import WizPay.Runtime.Protocol

/-!
# What a pass writes

A pass makes an execution VERIFIED only together with a VERIFIED observation, and
COMPLETED only from a row that said VERIFIED. The one way around the evidence would be
a recovery whose target is VERIFIED; a pass over a row without one records none (`Steady`).
-/
namespace WizPay.Runtime

open Checks Exec Storage Threads

/-- What a pass over the execution `value` of `tenantID` may write. -/
def Lawful (tenantID : String) (value : Execution) : Call → Prop
  | .updateClaimed _ u _ => Steady value.failure value.recovery →
    Steady u.failure u.recovery ∧ u.status ≠ .verified ∧
      (u.status = .completed → u.key = (tenantID, value.executionID) ∧ u.expected = value.revision ∧
        value.status = .verified)
  | .persistClaimed _ u p _ => Steady value.failure value.recovery →
    Steady u.failure u.recovery ∧ u.status ≠ .completed ∧
      (u.status = .verified → p.key = u.key ∧ p.executionVersion = u.revision ∧ p.status = .verified)
  | .claimExecutionWork .. => False
  | .claimNextExecutionWork .. => False
  | .findExecutionByID .. => False
  | _ => True

variable {claim : ExecutionClaim} {current : Execution} {now : Int} {f : Fence} {final silent : Prop}

variable {α : Type}

theorem Issue.lawful {program : Proc α} (issues : program.Uses (Issue f current final silent)) :
    program.Uses (Lawful f.tenantID current) := by
  refine issues.mono fun request issued => ?_
  cases request with
  | updateClaimed g u record =>
    obtain ⟨_, _, _, _, steady, completes⟩ := issued
    exact fun clean => ⟨(steady clean).1, (steady clean).2, completes⟩
  | persistClaimed g u p record =>
    obtain ⟨_, target, observed, _, _, steady, running, verifies, _⟩ := issued
    exact fun clean => ⟨steady clean, running, fun verified => ⟨observed.trans target.symm, verifies verified⟩⟩
  | claimExecutionWork => cases issued
  | claimNextExecutionWork => cases issued
  | findExecutionByID => cases issued
  | _ => trivial

/-- Requests that end nothing. -/
theorem running_lawful {program : Proc α} (issues : program.Uses (Issue f current False False)) :
    program.Uses (Lawful f.tenantID current) := Issue.lawful issues

theorem markSubmissionStartedProc_lawful {tenantID : String} :
    (markSubmissionStartedProc claim).Uses (Lawful tenantID current) := by
  unfold markSubmissionStartedProc
  split
  next => exact .done _
  next =>
    refine .ask trivial fun reply => ?_
    cases reply <;> exact .done _

/-- The renewed claim keeps its scope. -/
theorem markSubmissionStartedProc_returns :
    (markSubmissionStartedProc claim).Returns fun answer => ∀ marked, answer = .ok (some marked) →
      marked.scope = claim.scope := by
  unfold markSubmissionStartedProc
  split
  next => exact .done _ fun _ refused => nomatch refused
  next =>
    refine .call _ _ fun reply => ?_
    cases reply with
    | error e => exact .done _ fun marked answered => absurd answered (refused_claim marked)
    | ok row =>
      refine .done _ fun marked answered => ?_
      rw [executionClaim_ok (executionClaim_map_ok answered)]

theorem submitOrReconcile_lawful (unverified : current.status ≠ .verified) :
    (submitOrReconcile claim current now).Uses (Lawful claim.scope.tenantID current) := by
  unfold submitOrReconcile
  split
  next => exact .ask trivial fun answer => Issue.lawful (applyAdapterAnswer_issues unverified False.elim)
  next =>
    refine markSubmissionStartedProc_lawful.bind_returns markSubmissionStartedProc_returns fun marked sameScope => ?_
    match marked with
    | .error e => exact .done _
    | .ok none => exact running_lawful (f := claimFence claim) (persistStep_issues fun _ => .requireRecovery unverified)
    | .ok (some again) =>
      rw [← sameScope again rfl]
      exact .ask trivial fun answer => Issue.lawful (applyAdapterAnswer_issues unverified False.elim)

theorem verify_lawful (unverified : current.status ≠ .verified) :
    (verify claim current now).Uses (Lawful claim.scope.tenantID current) := by
  unfold verify
  refine (running_lawful (f := claimFence claim) (latestReference_issues current)).bind fun found => ?_
  cases found with
  | error e => exact .done _
  | ok reference => exact .ask trivial fun answer => Issue.lawful (applyVerification_issues unverified answer)

theorem processClaim_lawful :
    (processClaim claim now).Uses (Lawful claim.scope.tenantID claim.execution) := by
  rcases processClaim_cases claim now with issues | ⟨unverified, same | same⟩
  · exact running_lawful (issues False)
  · rw [same]
    exact submitOrReconcile_lawful unverified
  · rw [same]
    exact verify_lawful unverified

/-! ### What a worker has seen -/

/-- The value is what the row says. -/
structure Sees (row : ExecutionRow) (tenantID : String) (value : Execution) : Prop where
  key : row.key = (tenantID, value.executionID)
  revision : row.revision = value.revision
  status : row.status = value.status
  failure : row.failure = value.failure
  recovery : row.recovery = value.recovery

def sightingPermits (seen : List ExecutionRow) : Call → Prop
  | .updateClaimed _ u _ => ∃ row ∈ seen, Steady row.failure row.recovery →
    Steady u.failure u.recovery ∧ u.status ≠ .verified ∧
      (u.status = .completed → u.key = row.key ∧ u.expected = row.revision ∧ row.status = .verified)
  | .persistClaimed _ u p _ => ∃ row ∈ seen, Steady row.failure row.recovery →
    Steady u.failure u.recovery ∧ u.status ≠ .completed ∧
      (u.status = .verified → p.key = u.key ∧ p.executionVersion = u.revision ∧ p.status = .verified)
  | _ => True

def sightingAdvance (seen : List ExecutionRow) : (call : Call) → Reply call → List ExecutionRow
  | .findExecutionByID .., .ok record => record.execution :: seen
  | _, _ => seen

/-- The monitor that collects the rows that a worker has read; each write goes back to one of them. -/
def sightings : Monitor Reply (List ExecutionRow) := ⟨sightingPermits, protocolExpects, sightingAdvance⟩

variable {seen : List ExecutionRow} {row : ExecutionRow}

theorem lawful_follows {program : Proc α} {tenantID : String} {value : Execution}
    (uses : program.Uses (Lawful tenantID value)) (member : row ∈ seen) (sees : Sees row tenantID value) :
    program.Follows sightings (fun _ reached => reached = seen) seen := by
  refine uses.follows (fun request allowed => ?_) fun request allowed reply => ?_
  · cases request with
    | updateClaimed f u record =>
      refine ⟨row, member, fun steady => ?_⟩
      rw [sees.failure, sees.recovery] at steady
      rw [sees.key, sees.revision, sees.status]
      exact allowed steady
    | persistClaimed f u p record =>
      refine ⟨row, member, fun steady => ?_⟩
      rw [sees.failure, sees.recovery] at steady
      exact allowed steady
    | _ => trivial
  · cases request <;> first | cases allowed; done | rfl

/-- A claim rests on a row that the worker has seen. -/
theorem sightings_admits : Admits sightings (fun _ _ _ => True)
    (fun claim seen => ∃ row ∈ seen, Sees row claim.scope.tenantID claim.execution) where
  opens m call opens := by
    cases call <;> first | cases opens; done | trivial
  clock _ _ := rfl
  claimed _ _ _ _ _ _ _ := trivial
  claimedNext _ _ _ _ _ := trivial
  owned _ _ _ _ _ _ := trivial
  confirmed m scope executionID owner work record value claim _ expected restored made := by
    obtain ⟨_, rfl⟩ := restoreExecutionRecord_ok.mp restored
    have tenant : record.execution.tenantID = scope.tenantID := congrArg Prod.fst expected
    rw [executionClaim_ok made]
    exact ⟨record.execution, .head _, congrArg (·, record.execution.executionID) tenant, rfl, rfl, rfl, rfl⟩
  passes claim now m ready := by
    obtain ⟨row, member, sees⟩ := ready
    refine (lawful_follows processClaim_lawful member sees).mono fun _ _ same _ => ?_
    subst same
    exact (lawful_follows (running_lawful (releaseExecutionWorkProc_issues claim.execution)) member sees).mono
      fun _ _ _ => trivial

theorem worker_sees {program : Proc Unit} (worker : IsWorker program) :
    program.Follows sightings (fun _ _ => True) seen := sightings_admits.worker worker

theorem Initial.sighted {ι : Type} [DecidableEq ι] {c : Threads.Config ExecutionTables ι Reply}
    (initial : Initial c) : Monitored sightings [] c :=
  fun i => worker_sees (initial.workers i)

end WizPay.Runtime
