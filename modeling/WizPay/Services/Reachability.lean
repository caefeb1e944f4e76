import WizPay.Execution.History
import WizPay.Services.Replay
import WizPay.Services.Visits

/-!
# No call leads from a stored intent to an execution

`PrepareExecution` asks for an intent that is APPROVED. Of the application services only
the step-up writes the status of an intent, and it writes APPROVAL_REQUIRED.
-/
namespace WizPay.Services

open Checks GoText Threads Threads.Routine Intents Intents.Intent Storage Auth Exec

/-- Rows of the intent are waiting for an approval, and no execution was requested for it. -/
structure Stuck (tenantID intentID : String) (t : ApplicationTables) : Prop where
  waiting : ∀ r ∈ t.intents, r.tenantID = tenantID → trimSpace r.params.intentID = intentID →
    r.status = .created ∨ r.status = .approvalRequired
  unrequested : ∀ q ∈ t.execution.requests, q.tenantID = tenantID → q.request.intentID ≠ intentID

variable {i : Intent} {row : IntentRow} {t : ApplicationTables} {version : Nat}

section Stuck

variable {tenantID id : String} {ctx : Context} {scope : Scope}

theorem intentFromRow_ok (restored : intentFromRow row = .ok i) :
    i.status = row.status ∧ i.params.intentID = trimSpace row.params.intentID := by
  simp only [intentFromRow, bind_ok, Intents.restore, pure_ok] at restored
  obtain ⟨_, _, _, _, _, _, _, _, _, _, _, _, _, _, _, _, rfl⟩ := restored
  exact ⟨rfl, rfl⟩

/-- An intent that was read is not approved, if it is the one that is stuck. -/
def NotApproved (tenantID id : String) (scope : Scope) (i : Intent) : Prop :=
  scope.tenantID = tenantID → i.params.intentID = id → i.status = .created ∨ i.status = .approvalRequired

theorem Stuck.read {intentID : String} (stuck : Stuck tenantID id t)
    (found : findIntentByID scope.tenantID intentID scope.actorID t = .ok row)
    (restored : intentFromRow row = .ok i) :
    NotApproved tenantID id scope i := by
  intro tenant named
  have located := oneRow_ok.mp found
  have member := List.mem_of_find?_eq_some located
  have identified := List.find?_some located
  simp only [IntentRow.identified, Bool.and_eq_true, decide_eq_true_eq] at identified
  obtain ⟨status, same⟩ := intentFromRow_ok restored
  rw [status]
  exact stuck.waiting row member (identified.1.1.trans tenant) (same ▸ named)

/-! ### The services that write intents or executions -/

/-- The stored intents have trimmed identifiers, and every execution request refers to one of them. -/
structure Consistent (t : ApplicationTables) : Prop where
  trimmed : ∀ r ∈ t.intents, trimSpace r.params.intentID = r.params.intentID
  referred : ∀ q ∈ t.execution.requests, ∃ r ∈ t.intents, r.tenantID = q.tenantID ∧
    r.params.intentID = q.request.intentID

end Stuck

end WizPay.Services
