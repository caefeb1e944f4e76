import WizPay.Runtime.Requests

/-!
# The protocol of a worker

Every fenced write presents a fence that `ValidateExecutionClaim` confirmed. A worker
may call `Execute` only after its own `MarkSubmissionStarted` succeeded for the same
execution, and calls the adapter at most once between two claims. It ends an execution
for good only when the adapter or the verifier has just condemned that execution.
-/
namespace WizPay.Runtime

open Checks Exec Storage Threads

/-- The monitor's state of one worker. -/
structure Knowledge where
  /-- the fences confirmed to this worker -/
  fences : List Fence
  /-- the execution that this worker has marked and not yet submitted -/
  armed : Option Key
  /-- the adapter was called in this visit -/
  called : Bool
  /-- what the adapter or the verifier last answered in this visit -/
  heard : Option ((call : Call) × Reply call)

def Knowledge.start : Knowledge := ⟨[], none, false, none⟩

def executeKey (scope : Scope) (request : Request) : Key := (scope.tenantID, request.executionID)

/-- The answer condemns execution `k`. -/
def Condemned (k : Key) : (call : Call) → Reply call → Prop
  | .execute scope request, answer => executeKey scope request = k ∧ Condemning answer
  | .getStatus scope executionID, answer => (scope.tenantID, executionID) = k ∧ Condemning answer
  | .verify scope value _, answer =>
    (scope.tenantID, value.executionID) = k ∧ ∃ result, answer = .ok result ∧ result.outcome = .failed
  | _, _ => False

/-- The last answer heard condemns execution `k`. -/
def Knowledge.Condemns (m : Knowledge) (k : Key) : Prop := ∃ call reply, m.heard = some ⟨call, reply⟩ ∧ Condemned k call reply

def protocolPermits (m : Knowledge) : Call → Prop
  | .execute scope request => m.armed = some (executeKey scope request) ∧ m.called = false
  | .getStatus .. => m.called = false
  | .markSubmissionStarted f => f ∈ m.fences
  | .updateClaimed f u record =>
    f ∈ m.fences ∧ u.key = f.key ∧ record.key = f.key ∧ (failedForGood u.status u.failure → m.Condemns f.key)
  | .persistClaimed f u p record =>
    f ∈ m.fences ∧ u.key = f.key ∧ p.key = f.key ∧ record.key = f.key ∧
      (failedForGood u.status u.failure → m.Condemns f.key)
  | .releaseExecutionWork f _ => f ∈ m.fences
  | _ => True

/-- What the statements promise about their answers. -/
def protocolExpects : (call : Call) → Reply call → Prop
  | .claimExecutionWork _ _ leaseOwner _, .ok row => row.leaseOwner = leaseOwner
  | .claimNextExecutionWork leaseOwner _, .ok row => row.leaseOwner = leaseOwner
  | .findExecutionByID k _, .ok record => record.execution.key = k
  | .markSubmissionStarted f, .ok row => row.leaseOwner = f.leaseOwner ∧ row.fencingToken = f.fencingToken
  | _, _ => True

def protocolAdvance (m : Knowledge) : (call : Call) → Reply call → Knowledge
  | .claimExecutionWork .., _ => { m with armed := none, called := false, heard := none }
  | .claimNextExecutionWork .., _ => { m with armed := none, called := false, heard := none }
  | .validateExecutionClaim f, .ok rows => if rows = 1 then { m with fences := f :: m.fences } else m
  | .markSubmissionStarted f, .ok _ => { m with armed := some f.key }
  | .execute scope request, answer =>
    { m with armed := none, called := true, heard := some ⟨.execute scope request, answer⟩ }
  | .getStatus scope executionID, answer =>
    { m with called := true, heard := some ⟨.getStatus scope executionID, answer⟩ }
  | .verify scope value reference, answer => { m with heard := some ⟨.verify scope value reference, answer⟩ }
  | _, _ => m

def protocol : Monitor Reply Knowledge := ⟨protocolPermits, protocolExpects, protocolAdvance⟩

theorem heldBy_iff (w : WorkRow) (f : Fence) :
    w.heldBy f = true ↔ w.leaseOwner = f.leaseOwner ∧ w.fencingToken = f.fencingToken := by
  simp [WorkRow.heldBy]

theorem answers_protocol : Answers system protocol := by
  intro call t reply after answered
  cases call with
  | claimExecutionWork k actorID leaseOwner micros =>
    cases reply with
    | error e => trivial
    | ok row =>
      obtain ⟨w, _, _, rfl, _⟩ := claimAt_ok (claimExecutionWork_ok (DbAnswer.of_ok answered))
      rfl
  | claimNextExecutionWork leaseOwner micros =>
    cases reply with
    | error e => trivial
    | ok row =>
      rcases answered with ⟨none_found, _⟩ | ⟨k, answered⟩
      · cases none_found
      · obtain ⟨w, _, _, rfl, _⟩ := claimAt_ok answered.of_ok
        rfl
  | findExecutionByID k actorID =>
    cases reply with
    | error e => trivial
    | ok record =>
      have found := DbAnswer.of_ok answered
      cases row : findExecutionByID k actorID t with
      | error e => simp [row, Except.map] at found
      | ok read =>
        simp only [row, Except.map, Except.ok.injEq, Prod.mk.injEq] at found
        obtain ⟨rfl, _⟩ := found
        exact (Table.lookup_some (findExecutionByID_ok.mp row).1).1
  | markSubmissionStarted f =>
    cases reply with
    | error e => trivial
    | ok row =>
      obtain ⟨w, _, held, _, _, rfl, _⟩ := markSubmissionStarted_ok (DbAnswer.of_ok answered)
      exact (heldBy_iff w f).mp held
  | _ => cases reply <;> trivial

/-! ### Conformance -/

variable {m : Knowledge} {claim : ExecutionClaim} {now : Int} {final silent : Prop}

/-- The requests under a confirmed claim leave it confirmed; they end an execution only on the last answer heard. -/
theorem Issue.follows {α : Type} {f : Fence} {current : Execution} {program : Proc α}
    (issues : program.Uses (Issue f current final silent)) (granted : f ∈ m.fences) (grounds : final → m.Condemns f.key) :
    program.Follows protocol (fun _ reached => f ∈ reached.fences) m := by
  refine (issues.follows (fun request issued => ?_) fun request issued reply => ?_).mono fun _ _ same => same ▸ granted
  · cases request with
    | updateClaimed g u record =>
      obtain ⟨rfl, target, recorded, running, _⟩ := issued
      exact ⟨granted, target, recorded, fun ended => absurd ended.1 running⟩
    | persistClaimed g u p record =>
      obtain ⟨rfl, target, observed, recorded, ends, _⟩ := issued
      exact ⟨granted, target, observed, recorded, fun ended => grounds (ends ended)⟩
    | releaseExecutionWork g nextRunAt => exact issued ▸ granted
    | execute => cases issued
    | getStatus => cases issued
    | markSubmissionStarted => cases issued
    | _ => trivial
  · cases request <;> first | cases issued; done | rfl

/-- Requests that end nothing need no grounds. -/
theorem stays_running {α : Type} {f : Fence} {current : Execution} {program : Proc α}
    (issues : program.Uses (Issue f current False False)) (granted : f ∈ m.fences) :
    program.Follows protocol (fun _ reached => f ∈ reached.fences) m :=
  Issue.follows issues granted False.elim

/-- A successful mark arms the worker for the execution that it has claimed. -/
theorem markSubmissionStartedProc_follows (granted : claimFence claim ∈ m.fences) (fresh : m.called = false) :
    (markSubmissionStartedProc claim).Follows protocol (fun answer reached =>
      claimFence claim ∈ reached.fences ∧ reached.called = false ∧
        ∀ marked, answer = .ok (some marked) →
          claimFence marked = claimFence claim ∧ reached.armed = some (claimFence claim).key) m := by
  unfold markSubmissionStartedProc
  split
  next => exact .done _ _ ⟨granted, fresh, fun _ refused => nomatch refused⟩
  next token checked =>
    obtain ⟨_, _, rfl⟩ := dbVersion_ok.mp checked
    refine .ask granted fun reply expected => ?_
    cases reply with
    | error e => exact .done _ _ ⟨granted, fresh, fun marked answered => absurd answered (refused_claim marked)⟩
    | ok row =>
      refine .done _ _ ⟨granted, fresh, fun marked answered => ⟨?_, rfl⟩⟩
      rw [executionClaim_ok (executionClaim_map_ok answered)]
      simp only [claimFence, ExecutionClaim.fence, expected.1, expected.2]

theorem submitOrReconcile_follows (granted : claimFence claim ∈ m.fences) (fresh : m.called = false)
    (unverified : claim.execution.status ≠ .verified) :
    (submitOrReconcile claim claim.execution now).Follows protocol
      (fun _ reached => claimFence claim ∈ reached.fences) m := by
  unfold submitOrReconcile
  split
  next =>
    refine .ask fresh fun answer _ => Issue.follows (applyAdapterAnswer_issues unverified False.elim) granted ?_
    exact fun condemned => ⟨_, _, rfl, rfl, condemned⟩
  next =>
    refine (markSubmissionStartedProc_follows granted fresh).bind fun answer reached marked => ?_
    obtain ⟨granted, fresh, marked⟩ := marked
    match answer with
    | .error e => exact .done _ _ granted
    | .ok none => exact stays_running (persistStep_issues fun _ => .requireRecovery unverified) granted
    | .ok (some again) =>
      obtain ⟨sameFence, armed⟩ := marked again rfl
      rw [← sameFence] at granted ⊢
      refine .ask ⟨armed, fresh⟩ fun answer _ =>
        Issue.follows (applyAdapterAnswer_issues unverified False.elim) granted fun condemned => ?_
      refine ⟨_, _, rfl, ?_, condemned⟩
      rw [sameFence]
      rfl

theorem verify_follows (granted : claimFence claim ∈ m.fences) (unverified : claim.execution.status ≠ .verified) :
    (verify claim claim.execution now).Follows protocol (fun _ reached => claimFence claim ∈ reached.fences) m := by
  unfold verify
  refine (stays_running (latestReference_issues claim.execution) granted).bind fun found reached granted => ?_
  cases found with
  | error e => exact .done _ _ granted
  | ok reference =>
    refine .ask trivial fun answer _ => Issue.follows (applyVerification_issues unverified answer) granted ?_
    exact fun condemned => ⟨_, _, rfl, rfl, condemned⟩

theorem processClaim_follows (granted : claimFence claim ∈ m.fences) (fresh : m.called = false) :
    (processClaim claim now).Follows protocol (fun _ reached => claimFence claim ∈ reached.fences) m := by
  rcases processClaim_cases claim now with issues | ⟨unverified, same | same⟩
  · exact stays_running (issues False) granted
  · rw [same]
    exact submitOrReconcile_follows granted fresh unverified
  · rw [same]
    exact verify_follows granted unverified

/-- A confirmed claim: its fence is known, and the adapter not yet called. -/
theorem protocol_admits : Admits protocol (fun row owner m => row.leaseOwner = owner ∧ m.called = false)
    (fun claim m => claimFence claim ∈ m.fences ∧ m.called = false) where
  opens m call opens := by
    cases call <;> trivial
  clock _ _ := rfl
  claimed _ _ _ _ _ _ expected := ⟨expected, rfl⟩
  claimedNext _ _ _ _ expected := ⟨expected, rfl⟩
  owned _ _ _ _ _ fresh := fresh
  confirmed m scope executionID owner work record value claim fresh expected restored made := by
    obtain ⟨_, rfl⟩ := restoreExecutionRecord_ok.mp restored
    have sameID : record.execution.executionID = executionID := congrArg Prod.snd expected
    rw [executionClaim_ok made]
    refine ⟨?_, fresh.2⟩
    rw [← fresh.1, ← sameID]
    exact .head _
  passes claim now m ready :=
    (processClaim_follows ready.1 ready.2).mono fun _ _ granted _ =>
      (stays_running (releaseExecutionWorkProc_issues claim.execution) granted).mono fun _ _ _ => trivial

theorem worker_follows {program : Proc Unit} (worker : IsWorker program) :
    program.Follows protocol (fun _ _ => True) m := protocol_admits.worker worker

theorem Initial.monitored {ι : Type} [DecidableEq ι] {c : Threads.Config ExecutionTables ι Reply}
    (initial : Initial c) : Monitored protocol Knowledge.start c :=
  fun i => worker_follows (initial.workers i)

end WizPay.Runtime
