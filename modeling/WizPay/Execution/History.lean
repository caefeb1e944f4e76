import WizPay.Execution.Lifecycle
import WizPay.Lib.History

/-!
# Histories of one execution

Any sequence of `Transition`, `Fail`, `RequireRecovery`, `Recover` and `Resume` on a
value `New` built. A failure stores a status that `Resume` enters later, so the order of
the statuses is kept by an invariant on what is stored (`Submitted`).
-/
namespace WizPay.Exec

open Checks History

namespace Status

/-- SUBMITTED and the statuses that follow it. -/
def submittedOrLater : Status → Bool
  | .submitted | .confirming | .confirmed | .verified | .completed => true
  | _ => false

def beforeSubmitted : Status → Bool
  | .created | .authorized | .queued | .executing => true
  | _ => false

end Status

variable {start : Execution}

namespace Execution

inductive Operation
  | transition (next : Status) (time : Int)
  | fail (failure : Failure) (time : Int)
  | requireRecovery (reasonCode : String) (time : Int)
  | recover (time : Int)
  | resume (time : Int)
deriving DecidableEq

def Operation.time : Operation → Int
  | .transition _ time | .fail _ time | .requireRecovery _ time | .recover time | .resume time => time

def act (e : Execution) : Operation → Except Error Execution
  | .transition next time => e.transition next time
  | .fail failure time => e.fail failure time
  | .requireRecovery reasonCode time => e.requireRecovery reasonCode time
  | .recover time => e.recover time
  | .resume time => e.resume time

/-- The ways in which an operation changes an execution, with what it stores. -/
inductive Change (e : Execution) : Operation → Execution → Prop
  | transition {status : Status} {time : Int} {next : Execution} (allowed : validTransition e.status status = true)
      (entered : next.status = status) (failedFrom : next.failedFrom = e.failedFrom) :
      Change e (.transition status time) next
  | fail {failure : Failure} {time : Int} {next : Execution} (allowed : canFail e.status = true)
      (entered : next.status = .failed) (failedFrom : next.failedFrom = some e.status) :
      Change e (.fail failure time) next
  | requireRecovery {reasonCode : String} {time : Int} {next : Execution} (entered : next.status = .recoveryRequired)
      (failedFrom : next.failedFrom = e.failedFrom)
      (recovery : next.recovery = ⟨reasonCode, some e.status, recoveryTarget e.status⟩) :
      Change e (.requireRecovery reasonCode time) next
  | recover {time : Int} {next : Execution} (failed : e.status = .failed)
      (recoverable : e.failure.eligibility = some .recoverable) (entered : next.status = .recoveryRequired)
      (failedFrom : next.failedFrom = e.failedFrom)
      (recovery : next.recovery = ⟨e.failure.code, e.failedFrom, e.failure.recoveryTarget⟩) :
      Change e (.recover time) next
  | resume {time : Int} {next : Execution} (waiting : e.status = .recoveryRequired)
      (target : e.recovery.target = some next.status) (failedFrom : next.failedFrom = e.failedFrom) :
      Change e (.resume time) next

/-- What an effective operation does: one revision on the same request, at its own time, from a valid value. -/
structure Effective (e : Execution) (operation : Operation) (next : Execution) : Prop where
  change : e.Change operation next
  advanced : e.Advanced next.status operation.time next
  later : e.updatedAt ≤ operation.time
  valid : e.Valid

variable {e next : Execution} {operation : Operation}

theorem act_ok (done : e.act operation = .ok next) : next = e ∨ e.Effective operation next := by
  cases operation with
  | transition status time =>
    obtain ⟨valid, ⟨_, rfl⟩ | ⟨allowed, timely, moved⟩⟩ := transition_ok done
    · exact .inl rfl
    · obtain ⟨rfl, checked⟩ := advance_ok.mp moved
      exact .inr ⟨.transition allowed rfl rfl, advanced_of_advance moved ⟨rfl, rfl, rfl⟩,
        (validateTransitionTime_ok.mp timely).2.1, Execution.validate_ok.mp valid⟩
  | fail failure time =>
    obtain ⟨valid, ⟨_, _, rfl⟩ | ⟨_, allowed, timely, moved⟩⟩ := fail_ok done
    · exact .inl rfl
    · obtain ⟨rfl, checked⟩ := advance_ok.mp moved
      exact .inr ⟨.fail allowed rfl rfl, advanced_of_advance moved ⟨rfl, rfl, rfl⟩,
        (validateTransitionTime_ok.mp timely).2.1, Execution.validate_ok.mp valid⟩
  | requireRecovery reasonCode time =>
    obtain ⟨valid, ⟨_, rfl⟩ | ⟨_, timely, moved⟩⟩ := requireRecovery_ok done
    · exact .inl rfl
    · obtain ⟨rfl, checked⟩ := advance_ok.mp moved
      exact .inr ⟨.requireRecovery rfl rfl rfl, advanced_of_advance moved ⟨rfl, rfl, rfl⟩,
        (validateTransitionTime_ok.mp timely).2.1, Execution.validate_ok.mp valid⟩
  | recover time =>
    obtain ⟨valid, failed, recoverable, timely, moved⟩ := recover_ok done
    obtain ⟨rfl, checked⟩ := advance_ok.mp moved
    exact .inr ⟨.recover failed recoverable rfl rfl rfl, advanced_of_advance moved ⟨rfl, rfl, rfl⟩,
      (validateTransitionTime_ok.mp timely).2.1, Execution.validate_ok.mp valid⟩
  | resume time =>
    obtain ⟨target, found, valid, waiting, timely, moved⟩ := resume_ok done
    obtain ⟨rfl, checked⟩ := advance_ok.mp moved
    exact .inr ⟨.resume waiting found rfl, advanced_of_advance moved ⟨rfl, rfl, rfl⟩,
      (validateTransitionTime_ok.mp timely).2.1, Execution.validate_ok.mp valid⟩

/-! ### Stored targets -/

theorem Valid.recovery_target (valid : e.Valid) (waiting : e.status = .recoveryRequired) :
    validRecoveryTarget e.recovery.fromStatus e.recovery.target = true := by
  have checked := valid.recovering waiting
  simp only [Recovery.validate, checks_ok, Bool.not_eq_false] at checked
  exact checked.2

theorem Valid.failure_target (valid : e.Valid) (failed : e.status = .failed)
    (recoverable : e.failure.eligibility = some .recoverable) :
    validRecoveryTarget e.failedFrom e.failure.recoveryTarget = true := by
  obtain ⟨-, -, -, checked⟩ := valid.failed failed
  simp only [Failure.validate, recoverable, checks_ok, Bool.not_eq_false] at checked
  exact checked.2

/-- A recovery resumes at the status it came from or at the checkpoint next to it. -/
theorem validRecoveryTarget_cases {source : Option Status} {target : Status}
    (valid : validRecoveryTarget source (some target) = true) :
    ∃ status, source = some status ∧ recoveryTarget status = some target := by
  cases source with
  | none => simp [validRecoveryTarget] at valid
  | some status =>
    refine ⟨status, rfl, ?_⟩
    cases status <;> simp_all [validRecoveryTarget, recoveryTarget]

theorem recoveryTarget_later {status target : Status} (found : recoveryTarget status = some target) :
    target.submittedOrLater = status.submittedOrLater := by
  cases status <;> cases found <;> rfl

theorem validTransition_later {status next : Status} (allowed : validTransition status next = true)
    (later : status.submittedOrLater = true) : next.submittedOrLater = true := by
  cases status <;> simp_all [validTransition, Status.submittedOrLater]

/-- SUBMITTED has been reached, as the status or as the status a failure or a recovery goes back to. -/
inductive Submitted (e : Execution) : Prop
  | status (later : e.status.submittedOrLater = true)
  | failed (failed : e.status = .failed) (source : Status) (found : e.failedFrom = some source)
      (later : source.submittedOrLater = true)
  | recovering (waiting : e.status = .recoveryRequired) (target : Status) (found : e.recovery.target = some target)
      (later : target.submittedOrLater = true)

theorem Submitted.not_before (reached : e.Submitted) : e.status.beforeSubmitted = false := by
  cases reached with
  | status later =>
    cases status : e.status <;> simp_all [Status.submittedOrLater, Status.beforeSubmitted]
  | failed failed => rw [failed]; rfl
  | recovering waiting => rw [waiting]; rfl

theorem Effective.submitted (effective : e.Effective operation next) (reached : e.Submitted) : next.Submitted := by
  have valid := effective.advanced.valid
  cases effective.change with
  | transition allowed entered failedFrom =>
    -- FAILED and RECOVERY_REQUIRED have no ordinary way out.
    cases reached with
    | status later => exact .status (entered ▸ validTransition_later allowed later)
    | failed failed => simp [failed, validTransition] at allowed
    | recovering waiting => simp [waiting, validTransition] at allowed
  | fail allowed entered failedFrom =>
    cases reached with
    | status later => exact .failed entered _ failedFrom later
    | failed failed => simp [failed, canFail] at allowed
    | recovering waiting => simp [waiting, canFail] at allowed
  | requireRecovery entered failedFrom recovery =>
    have target := ((Execution.validate_ok.mp valid).recovery_target entered)
    cases found : recoveryTarget e.status with
    | none =>
      rw [recovery, found] at target
      cases status : e.status <;> simp_all [validRecoveryTarget]
    | some checkpoint =>
      have stored : next.recovery.target = some checkpoint := by rw [recovery, found]
      cases reached with
      | status later => exact .recovering entered checkpoint stored (by rw [recoveryTarget_later found, later])
      | failed failed => simp [failed, recoveryTarget] at found
      | recovering waiting => simp [waiting, recoveryTarget] at found
  | recover failed recoverable entered failedFrom recovery =>
    cases reached with
    | status later => simp [failed, Status.submittedOrLater] at later
    | failed _ source found later =>
      have target := effective.valid.failure_target failed recoverable
      cases stored : e.failure.recoveryTarget with
      | none =>
        rw [stored, found] at target
        cases source <;> simp [validRecoveryTarget] at target
      | some checkpoint =>
        rw [stored] at target
        obtain ⟨status, origin, reachedFrom⟩ := validRecoveryTarget_cases target
        cases found.symm.trans origin
        exact .recovering entered checkpoint (by rw [recovery, stored]) (by rw [recoveryTarget_later reachedFrom, later])
    | recovering waiting => simp [failed] at waiting
  | resume waiting target failedFrom =>
    cases reached with
    | status later => simp [waiting, Status.submittedOrLater] at later
    | failed failed => simp [waiting] at failed
    | recovering _ checkpoint found later =>
      cases found.symm.trans target
      exact .status later

/-! ### Ends -/

theorem act_terminal (ended : e.terminal = true) (done : e.act operation = .ok next) : next = e := by
  rcases act_ok done with same | effective
  · exact same
  · exfalso
    have cases : (e.status = .completed ∨ e.status = .cancelled) ∨
        (e.status = .failed ∧ e.failure.eligibility = some .terminal) := by
      simpa [terminal] using ended
    cases effective.change with
    | transition allowed => rcases cases with (same | same) | ⟨same, _⟩ <;> simp [same, validTransition] at allowed
    | fail allowed => rcases cases with (same | same) | ⟨same, _⟩ <;> simp [same, canFail] at allowed
    | requireRecovery entered _ recovery =>
      have target := (Execution.validate_ok.mp effective.advanced.valid).recovery_target entered
      rw [recovery] at target
      rcases cases with (same | same) | ⟨same, _⟩ <;> simp [same, validRecoveryTarget] at target
    | recover failed recoverable => rcases cases with (same | same) | ⟨_, same⟩ <;> simp_all
    | resume waiting => rcases cases with (same | same) | ⟨same, _⟩ <;> simp [same] at waiting

/-! ### Where VERIFIED comes from -/

/-- A failure is only recorded from a running status, so never from VERIFIED. -/
theorem failedFrom_running (fresh : start.failedFrom = none) (operations : List Operation) :
    ∀ status, (run act start operations).failedFrom = some status → canFail status = true := by
  refine run_keeps (P := fun e : Execution => ∀ status, e.failedFrom = some status → canFail status = true)
    (by simp [fresh]) ?_ operations
  intro value operation next invariant done
  rcases act_ok done with rfl | effective
  · exact invariant
  · intro status stored
    cases effective.change with
    | fail allowed _ failedFrom =>
      cases failedFrom.symm.trans stored
      exact allowed
    | transition _ _ failedFrom | requireRecovery _ failedFrom _ | recover _ _ _ failedFrom _
    | resume _ _ failedFrom => exact invariant status (failedFrom.symm.trans stored)

/-- The recovery that is pending after `operations` was entered from VERIFIED and has been pending ever since. -/
def RecoveryFromVerified (start : Execution) (operations : List Operation) : Prop :=
  ∃ before reasonCode time waiting, operations = before ++ .requireRecovery reasonCode time :: waiting ∧
    (run act start before).status = .verified ∧
    ∀ part, part <+: waiting →
      (run act start (before ++ .requireRecovery reasonCode time :: part)).status = .recoveryRequired

theorem RecoveryFromVerified.extend {operations : List Operation} (pending : RecoveryFromVerified start operations)
    (still : (run act start (operations ++ [operation])).status = .recoveryRequired) :
    RecoveryFromVerified start (operations ++ [operation]) := by
  obtain ⟨before, reasonCode, time, waiting, rfl, verified, throughout⟩ := pending
  refine ⟨before, reasonCode, time, waiting ++ [operation], by simp, verified, ?_⟩
  intro part initial
  rcases List.prefix_concat_iff.mp initial with rfl | shorter
  · simpa using still
  · exact throughout part shorter

/-- The recovery record names VERIFIED only while such a recovery is pending. -/
theorem recoveryFromVerified (fresh : start.failedFrom = none) (running : start.status ≠ .recoveryRequired)
    (operations : List Operation) :
    (run act start operations).status = .recoveryRequired →
      (run act start operations).recovery.fromStatus = some .verified → RecoveryFromVerified start operations := by
  induction operations using List.reverseRecOn with
  | nil => exact fun waiting => absurd waiting running
  | append_singleton operations operation ih =>
    intro waiting source
    have last : run act start (operations ++ [operation]) = after act (run act start operations) operation := by simp
    rw [last] at waiting source
    rcases after_cases act (run act start operations) operation with same | done
    · rw [same] at waiting source
      exact (ih waiting source).extend (by rw [last, same]; exact waiting)
    rcases act_ok done with same | effective
    · rw [same] at waiting source
      exact (ih waiting source).extend (by rw [last, same]; exact waiting)
    · cases effective.change with
      | transition allowed entered =>
        rw [waiting] at entered
        subst entered
        cases status : (run act start operations).status <;> simp [status, validTransition] at allowed
      | fail _ entered => simp [waiting] at entered
      | @requireRecovery reasonCode time _ entered _ recovery =>
        rw [recovery] at source
        refine ⟨operations, reasonCode, time, [], rfl, Option.some.inj source, ?_⟩
        intro part initial
        rw [List.prefix_nil.mp initial]
        simpa using waiting
      | recover _ _ _ _ recovery =>
        rw [recovery] at source
        exact absurd (failedFrom_running fresh operations _ source) (by decide)
      | resume before target =>
        have checked := effective.valid.recovery_target before
        rw [target, waiting] at checked
        obtain ⟨status, -, found⟩ := validRecoveryTarget_cases checked
        cases status <;> simp [recoveryTarget] at found

/-- VERIFIED is entered from CONFIRMED, or by resuming a recovery that was entered from VERIFIED. -/
theorem verified_entry (fresh : start.failedFrom = none) (running : start.status ≠ .recoveryRequired)
    (operations : List Operation) (operation : Operation) (other : (run act start operations).status ≠ .verified)
    (entered : (after act (run act start operations) operation).status = .verified) :
    (run act start operations).status = .confirmed ∨
      ((∃ time, operation = .resume time) ∧ RecoveryFromVerified start operations) := by
  rcases after_cases act (run act start operations) operation with same | done
  · exact absurd (same ▸ entered) other
  rcases act_ok done with same | effective
  · exact absurd (same ▸ entered) other
  · cases effective.change with
    | transition allowed reached =>
      rw [entered] at reached
      subst reached
      cases status : (run act start operations).status <;> simp_all [validTransition]
    | fail _ reached | requireRecovery reached | recover _ _ reached => simp [entered] at reached
    | @resume time _ waiting target =>
      have checked := effective.valid.recovery_target waiting
      rw [target, entered] at checked
      obtain ⟨status, source, found⟩ := validRecoveryTarget_cases checked
      have verified : status = .verified := by cases status <;> simp_all [recoveryTarget]
      exact .inr ⟨⟨time, rfl⟩, recoveryFromVerified fresh running operations waiting (by rw [source, verified])⟩

/-! ### Whole histories -/

theorem act_kept (done : e.act operation = .ok next) :
    next.request = e.request ∧ next.createdAt = e.createdAt ∧ e.updatedAt ≤ next.updatedAt := by
  rcases act_ok done with rfl | effective
  · exact ⟨rfl, rfl, Int.le_refl _⟩
  · exact ⟨effective.advanced.request, effective.advanced.createdAt, effective.advanced.updatedAt ▸ effective.later⟩

theorem run_kept (e : Execution) (operations : List Operation) :
    (run act e operations).request = e.request ∧ (run act e operations).createdAt = e.createdAt ∧
      e.updatedAt ≤ (run act e operations).updatedAt := by
  apply run_related (R := fun first second : Execution =>
    second.request = first.request ∧ second.createdAt = first.createdAt ∧ first.updatedAt ≤ second.updatedAt)
  · intro value
    exact ⟨rfl, rfl, Int.le_refl _⟩
  · rintro first second third ⟨request, created, updated⟩ ⟨requestLater, createdLater, updatedLater⟩
    exact ⟨requestLater.trans request, createdLater.trans created, Int.le_trans updated updatedLater⟩
  · intro value operation next done
    exact act_kept done

theorem run_revision (e : Execution) (operations : List Operation) :
    (run act e operations).revision = e.revision + changes act e operations := by
  apply run_counts
  intro value operation next done
  exact (act_ok done).imp_right fun effective => effective.advanced.revision

theorem run_terminal (ended : e.terminal = true) (operations : List Operation) : run act e operations = e := by
  refine run_keeps (P := fun value => value = e) rfl ?_ operations
  rintro value operation next rfl done
  exact act_terminal ended done

theorem run_submitted (reached : e.Submitted) (operations : List Operation) : (run act e operations).Submitted := by
  refine run_keeps reached ?_ operations
  intro value operation next submitted done
  rcases act_ok done with rfl | effective
  · exact submitted
  · exact effective.submitted submitted

theorem new_ok {request : Request} (created : new request = .ok start) :
    start.request = request ∧ start.createdAt = request.createdAt ∧ start.status = .created ∧
      start.failedFrom = none := by
  simp only [new, guard_ok, pure_ok] at created
  obtain ⟨-, -, rfl⟩ := created
  exact ⟨rfl, rfl, rfl, rfl⟩

/-- What holds between any two moments of a history, and of any operation tried at the first of them. -/
theorem lifecycle_history {request : Request} {start : Execution} (created : new request = .ok start)
    (earlier later : List Operation) (operation : Operation) :
    let middle := run act start earlier
    let last := run act middle later
    (last.request = request ∧ last.createdAt = request.createdAt) ∧
      last.revision = middle.revision + changes act middle later ∧
      middle.updatedAt ≤ last.updatedAt ∧
      (middle.terminal = true → last = middle) ∧
      (middle.status ≠ .verified → (after act middle operation).status = .verified →
        middle.status = .confirmed ∨ ((∃ time, operation = .resume time) ∧ RecoveryFromVerified start earlier)) ∧
      (middle.status.submittedOrLater = true → last.status.beforeSubmitted = false) := by
  intro middle last
  obtain ⟨request, createdAt, status, fresh⟩ := new_ok created
  obtain ⟨requestEarlier, createdEarlier, -⟩ := run_kept start earlier
  obtain ⟨requestLater, createdLater, ordered⟩ := run_kept middle later
  refine ⟨⟨?_, ?_⟩, run_revision middle later, ordered, ?_, ?_, ?_⟩
  · rw [requestLater, requestEarlier, request]
  · rw [createdLater, createdEarlier, createdAt]
  · exact fun ended => run_terminal ended later
  · exact verified_entry fresh (by simp [status]) earlier operation
  · exact fun reached => (run_submitted (.status reached) later).not_before

def sampleExecution : Execution :=
  { request := sampleRequest, status := .created, revision := 1, createdAt := sampleRequest.createdAt,
    updatedAt := sampleRequest.createdAt, failure := .zero, failedFrom := none, recovery := .zero }

theorem sampleExecution_valid : sampleExecution.Valid where
  request := sampleRequest_wellFormed
  revision := by decide
  createdAt := by decide
  updatedAt := by decide
  ordered := Int.le_refl _
  failed := nofun
  recovering := nofun

theorem new_sampleRequest : new sampleRequest = .ok sampleExecution := by
  simp only [new, guard_ok, pure_ok]
  exact ⟨Request.validate_ok.mpr sampleRequest_wellFormed, Execution.validate_ok.mpr sampleExecution_valid, rfl⟩

/-- An execution that is authorized and queued keeps its request and its place in time. -/
theorem lifecycle_history_queued :
    let operations := [.transition .authorized sampleRequest.createdAt, .transition .queued sampleRequest.createdAt]
    new sampleRequest = .ok sampleExecution ∧ (run act sampleExecution operations).request = sampleRequest ∧
      sampleExecution.updatedAt ≤ (run act sampleExecution operations).updatedAt := by
  intro operations
  have history := lifecycle_history new_sampleRequest [] operations (.recover sampleRequest.createdAt)
  exact ⟨new_sampleRequest, history.1.1, history.2.2.1⟩

end Execution

end WizPay.Exec
