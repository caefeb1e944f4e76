import WizPay.Approvals.Approval
import WizPay.Storage.ExecutionTables

/-!
# Rows of the approvals table

The columns that `approvalCreateParams` and `UpdateApproval` write, the CHECK constraints
in force after all migrations, and the update trigger. Two instants that the domain tells
apart may be one instant in a row.
-/
namespace WizPay.Storage

open Approvals Approvals.Approval GoTime History Checks Intents

structure ApprovalRow where
  tenantID : String
  approvalID : String
  approvalVersion : Nat
  approvalRequestID : String
  intentID : String
  intentVersion : Nat
  intentDigest : String
  userID : String
  walletBindingID : String
  walletBindingVersion : Nat
  walletID : String
  walletAddress : String
  chainID : String
  status : Approvals.Status
  decision : Decision
  createdAt : Int
  expiresAt : Int
  decidedAt : Option Int
  consumedAt : Option Int
  operationKey : Option String
  operationVersion : Option Nat
  lifecycleVersion : Nat
deriving DecidableEq

/-- The row of a valid approval, whose creation and expiry are set. -/
def approvalRow (tenantID : String) (a : Approval) : ApprovalRow :=
  { tenantID := tenantID, approvalID := a.approvalID, approvalVersion := a.version,
    approvalRequestID := a.approvalRequestID, intentID := a.intentID, intentVersion := a.intentVersion,
    intentDigest := a.intentDigest, userID := a.userID, walletBindingID := a.walletBindingID,
    walletBindingVersion := a.walletBindingVersion, walletID := a.walletID, walletAddress := a.walletAddress,
    chainID := a.chainID, status := a.status, decision := a.decision, createdAt := truncMicros a.createdAt,
    expiresAt := truncMicros a.expiresAt, decidedAt := dbTime a.decidedAt, consumedAt := dbTime a.consumedAt,
    operationKey := dbOptionalString a.operationKey, operationVersion := dbOptionalVersion a.operationVersion,
    lifecycleVersion := a.lifecycleRevision }

namespace ApprovalRow

variable (r : ApprovalRow)

/-- `approvals_check` of migration 5. -/
def lifecycleCheck : Bool :=
  (r.status == .pending && r.decision == .pending && r.decidedAt.isNone) ||
  ((r.status == .approved || r.status == .readyForExecutionConfirmation) && r.decision == .approved &&
    r.decidedAt.isSome) ||
  (r.status == .rejected && r.decision == .rejected && r.decidedAt.isSome) ||
  (r.status == .expired &&
    ((r.decision == .pending && r.decidedAt.isNone) || (r.decision == .approved && r.decidedAt.isSome))) ||
  (r.status == .consumed && r.decision == .approved && r.decidedAt.isSome)

/-- `approvals_expiry_after_creation` of migration 7. -/
def expiryCheck : Bool := decide (r.createdAt < r.expiresAt)

/-- `approvals_check2`. -/
def decidedCheck : Bool :=
  match r.decidedAt with
  | none => true
  | some decided => decide (r.createdAt ≤ decided) && decide (decided < r.expiresAt)

/-- `approvals_check3`; a comparison with NULL does not fail a CHECK. -/
def consumedCheck : Bool :=
  match r.consumedAt with
  | none => r.status != .consumed && r.operationKey.isNone && r.operationVersion.isNone
  | some consumed =>
    r.status == .consumed && r.decidedAt.all (fun decided => decide (decided ≤ consumed)) &&
      decide (consumed < r.expiresAt) && r.operationKey.isSome && r.operationVersion.all (fun v => decide (0 < v))

def versionChecks : Bool :=
  decide (0 < r.approvalVersion) && decide (0 < r.intentVersion) && decide (0 < r.walletBindingVersion) &&
    decide (0 < r.lifecycleVersion)

def satisfiesChecks : Bool :=
  r.versionChecks && r.lifecycleCheck && r.expiryCheck && r.decidedCheck && r.consumedCheck

/-- The columns that `reject_approval_binding_mutation` compares. -/
def binding : List String × List Nat × List Int :=
  ([r.tenantID, r.approvalID, r.approvalRequestID, r.intentID, r.intentDigest, r.userID, r.walletBindingID, r.walletID,
    r.walletAddress, r.chainID], [r.approvalVersion, r.intentVersion, r.walletBindingVersion],
    [r.createdAt, r.expiresAt])

/-- The trigger `approvals_immutable_binding`. -/
def acceptsUpdate (old new : ApprovalRow) : Bool :=
  old.binding == new.binding && new.lifecycleVersion == old.lifecycleVersion + 1

end ApprovalRow

/-! ### What the constraints ask of a valid approval -/

/-- The order of the instants of an approval, as a row keeps them. -/
structure InOrder (a : Approval) : Prop where
  period : truncMicros a.createdAt < truncMicros a.expiresAt
  decided : a.decidedAt ≠ 0 → truncMicros a.createdAt ≤ truncMicros a.decidedAt ∧
    truncMicros a.decidedAt < truncMicros a.expiresAt
  lapsed : a.status = .expired → (a.decision = .pending ∧ a.decidedAt = 0) ∨ (a.decision = .approved ∧ a.decidedAt ≠ 0)
  consumed : a.status = .consumed → truncMicros a.decidedAt ≤ truncMicros a.consumedAt ∧
    truncMicros a.consumedAt < truncMicros a.expiresAt

variable {operation : Operation}

section

variable {a next : Approval} {tenantID : String}

theorem decidedCheck_iff : (approvalRow tenantID a).decidedCheck = true ↔
    (a.decidedAt ≠ 0 → truncMicros a.createdAt ≤ truncMicros a.decidedAt ∧
      truncMicros a.decidedAt < truncMicros a.expiresAt) := by
  by_cases set : a.decidedAt = 0
  · simp [ApprovalRow.decidedCheck, approvalRow, set]
  · simp [ApprovalRow.decidedCheck, approvalRow, dbTime_set set, set]

theorem lifecycleCheck_iff (valid : a.Valid) : (approvalRow tenantID a).lifecycleCheck = true ↔
    (a.status = .expired → (a.decision = .pending ∧ a.decidedAt = 0) ∨ (a.decision = .approved ∧ a.decidedAt ≠ 0)) := by
  have consistent := valid.consistent
  -- For every status but EXPIRED, Validate asks for what the constraint asks for.
  cases status : a.status <;>
    simp_all [ApprovalRow.lifecycleCheck, approvalRow, ConsistentWith, dbTime]

theorem consumedCheck_iff (valid : a.Valid) : (approvalRow tenantID a).consumedCheck = true ↔
    (a.status = .consumed → truncMicros a.decidedAt ≤ truncMicros a.consumedAt ∧
      truncMicros a.consumedAt < truncMicros a.expiresAt) := by
  have consistent := valid.consistent
  cases status : a.status with
  | consumed =>
    rw [status] at consistent
    obtain ⟨-, decided, consumed, key, version⟩ := consistent
    simp [ApprovalRow.consumedCheck, approvalRow, status, dbTime_set decided, dbTime_set consumed, dbOptionalString,
      dbOptionalVersion, key, version, Nat.pos_of_ne_zero version]
  | pending | approved | readyForExecutionConfirmation | rejected | expired =>
    have unused : a.Unused := by
      rw [status] at consistent
      first | exact consistent | exact consistent.2.2
    obtain ⟨consumed, key, version⟩ := unused
    simp [ApprovalRow.consumedCheck, approvalRow, status, consumed, dbOptionalString, dbOptionalVersion, key, version]

theorem satisfiesChecks_iff (valid : a.Valid) : (approvalRow tenantID a).satisfiesChecks = true ↔ InOrder a := by
  have versions : (approvalRow tenantID a).versionChecks = true := by
    simp [ApprovalRow.versionChecks, approvalRow, Nat.pos_of_ne_zero valid.version,
      Nat.pos_of_ne_zero valid.intentVersion, Nat.pos_of_ne_zero valid.walletBindingVersion,
      Nat.pos_of_ne_zero valid.lifecycleRevision]
  have expiry : (approvalRow tenantID a).expiryCheck = true ↔ truncMicros a.createdAt < truncMicros a.expiresAt :=
    decide_eq_true_iff
  simp only [ApprovalRow.satisfiesChecks, Bool.and_eq_true, versions, true_and, lifecycleCheck_iff valid, expiry,
    decidedCheck_iff, consumedCheck_iff valid]
  constructor
  · rintro ⟨⟨⟨lapsed, period⟩, decided⟩, consumed⟩
    exact ⟨period, decided, lapsed, consumed⟩
  · rintro ⟨period, decided, lapsed, consumed⟩
    exact ⟨⟨⟨lapsed, period⟩, decided⟩, consumed⟩

/-! ### One operation -/

/-- The times of an operation, in microseconds, are in the order that the table asks for. -/
def OnTime (a : Approval) : Operation → Prop
  | .approve time | .reject time => truncMicros time < truncMicros a.expiresAt
  | .consume time _ => truncMicros a.decidedAt ≤ truncMicros time ∧ truncMicros time < truncMicros a.expiresAt
  | .readyForExecutionConfirmation _ | .expire _ => True

theorem inOrder_count {revision : Nat} : InOrder { a with lifecycleRevision := revision } ↔ InOrder a := by
  constructor <;> exact fun order => ⟨order.period, order.decided, order.lapsed, order.consumed⟩

/-- A decision is stored in order exactly when it is before the expiry in microseconds. -/
theorem inOrder_decided {status : Approvals.Status} {decision : Decision} {time : Int} (order : InOrder a)
    (timely : a.validateDecisionTime time = .ok ()) (running : status ≠ .expired ∧ status ≠ .consumed) :
    InOrder { a with status := status, decision := decision, decidedAt := time } ↔
      truncMicros time < truncMicros a.expiresAt := by
  obtain ⟨set, created, -⟩ := validateDecisionTime_ok.mp timely
  constructor
  · exact fun stored => (stored.decided set).2
  · exact fun before => ⟨order.period, fun _ => ⟨truncMicros_mono created, before⟩, fun lapsed => absurd lapsed running.1,
      fun consumed => absurd consumed running.2⟩

theorem Effective.inOrder_iff (effective : a.Effective operation next) (order : InOrder a) :
    InOrder next ↔ OnTime a operation := by
  obtain ⟨draft, change, rfl⟩ := effective.changed
  rw [inOrder_count]
  have consistent := effective.before.consistent
  cases change with
  | approve pending timely | reject pending timely => exact inOrder_decided order timely (by simp)
  | ready approved timely =>
    simp only [OnTime, iff_true]
    exact ⟨order.period, order.decided, nofun, nofun⟩
  | expire running late =>
    simp only [OnTime, iff_true]
    refine ⟨order.period, order.decided, fun _ => ?_, nofun⟩
    rcases running with status | status | status
    · rw [status] at consistent
      exact .inl ⟨consistent.1, consistent.2.1⟩
    · rw [status] at consistent
      exact .inr ⟨consistent.1, consistent.2.1⟩
    · rw [status] at consistent
      exact .inr ⟨consistent.1, consistent.2.1⟩
  | consume granted set created timely intent =>
    constructor
    · exact fun stored => stored.consumed rfl
    · exact fun before => ⟨order.period, order.decided, nofun, fun _ => before⟩

theorem Effective.acceptsUpdate (effective : a.Effective operation next) (bounded : a.lifecycleRevision < 2 ^ 64) :
    (approvalRow tenantID a).acceptsUpdate (approvalRow tenantID next) = true := by
  have counted := effective.valid.lifecycleRevision
  obtain ⟨draft, change, rfl⟩ := effective.changed
  have revision : nextRevision a.lifecycleRevision = a.lifecycleRevision + 1 := by
    simp only [nextRevision] at counted ⊢
    omega
  cases change <;> simp [ApprovalRow.acceptsUpdate, ApprovalRow.binding, approvalRow, revision]

/-! ### Histories -/

/-- A value of a history: valid, with a revision that fits its type. -/
def Sound (a : Approval) : Prop := a.Valid ∧ a.lifecycleRevision < 2 ^ 64

theorem sound_run (sound : Sound a) (operations : List Operation) : Sound (run act a operations) := by
  refine run_keeps (P := Sound) sound ?_ operations
  intro value operation next before done
  rcases act_ok done with rfl | effective
  · exact before
  · refine ⟨effective.valid, ?_⟩
    obtain ⟨draft, change, rfl⟩ := effective.changed
    exact Nat.mod_lt _ (by decide)

/-- Every effective operation of a history is on time. -/
def AllOnTime (a : Approval) (operations : List Operation) : Prop :=
  ∀ part operation, part ++ [operation] <+: operations →
    after act (run act a part) operation ≠ run act a part → OnTime (run act a part) operation

/-- Every value of a history satisfies the constraints. -/
def AllFit (tenantID : String) (a : Approval) (operations : List Operation) : Prop :=
  ∀ part, part <+: operations → (approvalRow tenantID (run act a part)).satisfiesChecks = true

theorem run_snoc (part : List Operation) (operation : Operation) :
    run act a (part ++ [operation]) = after act (run act a part) operation := by simp

theorem effective_of_change (changed : after act a operation ≠ a) :
    a.Effective operation (after act a operation) := by
  rcases after_cases act a operation with same | done
  · exact absurd same changed
  · exact (act_ok done).resolve_left changed

theorem inOrder_pending (valid : a.Valid) (pending : a.status = .pending) :
    InOrder a ↔ truncMicros a.createdAt < truncMicros a.expiresAt := by
  have consistent := valid.consistent
  rw [pending] at consistent
  constructor
  · exact fun order => order.period
  · exact fun period => ⟨period, fun set => absurd consistent.2.1 set, by simp [pending], by simp [pending]⟩

/-- The rows of a history fit exactly when the period is one in microseconds and every operation is on time. -/
theorem allFit_iff (sound : Sound a) (pending : a.status = .pending) (operations : List Operation) :
    AllFit tenantID a operations ↔
      truncMicros a.createdAt < truncMicros a.expiresAt ∧ AllOnTime a operations := by
  have fits (part : List Operation) :
      (approvalRow tenantID (run act a part)).satisfiesChecks = true ↔ InOrder (run act a part) :=
    satisfiesChecks_iff (sound_run sound part).1
  constructor
  · intro all
    refine ⟨(inOrder_pending sound.1 pending).mp ((fits []).mp (all [] List.nil_prefix)), ?_⟩
    intro part operation initial changed
    have before := (fits part).mp (all part ((List.prefix_append part [operation]).trans initial))
    have stored := (fits _).mp (all _ initial)
    rw [run_snoc] at stored
    exact (Effective.inOrder_iff (effective_of_change changed) before).mp stored
  · rintro ⟨period, onTime⟩ part initial
    apply (fits part).mpr
    -- Along the history: each value is in order when the one before it is.
    induction part using List.reverseRecOn with
    | nil => exact (inOrder_pending sound.1 pending).mpr period
    | append_singleton part operation ih =>
      have before := ih ((List.prefix_append part [operation]).trans initial)
      rw [run_snoc]
      by_cases same : after act (run act a part) operation = run act a part
      · rwa [same]
      · exact (Effective.inOrder_iff (effective_of_change same) before).mpr (onTime part operation initial same)

/-- A decision, once taken, stays with its time. -/
theorem run_decision (decided : a.decision ≠ .pending) (operations : List Operation) :
    (run act a operations).decision = a.decision ∧ (run act a operations).decidedAt = a.decidedAt := by
  refine run_keeps (P := fun b : Approval => b.decision = a.decision ∧ b.decidedAt = a.decidedAt) ⟨rfl, rfl⟩ ?_
    operations
  rintro value operation next ⟨decision, time⟩ done
  rcases act_ok done with rfl | effective
  · exact ⟨decision, time⟩
  · have consistent := effective.before.consistent
    obtain ⟨draft, change, rfl⟩ := effective.changed
    cases change with
    | approve status | reject status =>
      rw [status] at consistent
      exact absurd (decision.symm.trans consistent.1) decided
    | ready | expire | consume => exact ⟨decision, time⟩

theorem run_consumed (consumed : a.status = .consumed) (operations : List Operation) : run act a operations = a := by
  refine run_keeps (P := fun b => b = a) rfl ?_ operations
  rintro value operation next rfl done
  rcases act_ok done with same | effective
  · exact same
  · obtain ⟨draft, change, -⟩ := effective.changed
    exfalso
    cases change <;> simp_all [Granted]

theorem new_sound {params : ApprovalParams} {intent : Intent} (created : Approvals.new params intent = .ok a) :
    Sound a ∧ a.status = .pending := by
  obtain ⟨valid, status, -⟩ := new_ok created
  refine ⟨⟨valid, ?_⟩, status⟩
  simp only [Approvals.new, guard_ok, pure_ok] at created
  obtain ⟨-, -, -, -, rfl⟩ := created
  exact (by decide : 1 < 2 ^ 64)

/-- The rows of an approval's history satisfy the constraints exactly when the period, the decision and the
consumption are in order in microseconds. In every history the trigger accepts each change, the decision is
taken once and one operation consumes the approval. -/
theorem approval_history_fits {params : ApprovalParams} {intent : Intent} (created : Approvals.new params intent = .ok a)
    (tenantID : String) (earlier later : List Operation) :
    (AllFit tenantID a earlier ↔ truncMicros a.createdAt < truncMicros a.expiresAt ∧ AllOnTime a earlier) ∧
      (∀ operation, after act (run act a earlier) operation ≠ run act a earlier →
        (approvalRow tenantID (run act a earlier)).acceptsUpdate
          (approvalRow tenantID (after act (run act a earlier) operation)) = true) ∧
      ((run act a earlier).decision ≠ .pending →
        (run act a (earlier ++ later)).decision = (run act a earlier).decision ∧
          (run act a (earlier ++ later)).decidedAt = (run act a earlier).decidedAt) ∧
      ((run act a earlier).status = .consumed → run act a (earlier ++ later) = run act a earlier) := by
  obtain ⟨sound, pending⟩ := new_sound created
  have middle := sound_run sound earlier
  refine ⟨allFit_iff sound pending earlier, ?_, ?_, ?_⟩
  · intro operation changed
    exact Effective.acceptsUpdate (effective_of_change changed) middle.2
  · intro decided
    rw [run_append]
    exact run_decision decided later
  · intro consumed
    rw [run_append]
    exact run_consumed consumed later

end

/-- The sample approval is decided within its period, so its rows fit. -/
theorem approval_history_fits_approved :
    AllFit "tenant_1" sampleApproval [.approve (sampleApproval.createdAt + second)] := by
  apply (approval_history_fits new_sampleApproval "tenant_1" _ []).1.mpr
  refine ⟨by decide, ?_⟩
  intro part operation initial changed
  have alone : part = [] ∧ operation = .approve (sampleApproval.createdAt + second) := by
    have short := initial.length_le
    cases part with
    | nil => simpa using initial
    | cons first rest => simp at short
  obtain ⟨rfl, rfl⟩ := alone
  show truncMicros (sampleApproval.createdAt + second) < truncMicros sampleApproval.expiresAt
  decide

def sampleOperation : OperationIdentity :=
  { intentID := "int_1", intentVersion := 1, intentDigest := digestBytes (canonicalMaterial sampleSend),
    operationKey := operationKeyOf "int_1" 1 (digestBytes (canonicalMaterial sampleSend)), version := 1 }

theorem operationKeyOf_ne_empty (intentID : String) (version : Nat) (digest : String) :
    operationKeyOf intentID version digest ≠ "" := by
  intro empty
  have size := Sha256.hexText_length (Sha256.sum256 (GoText.bytes (operationDomain ++ s!"{intentID}\n{version}\n{digest}")))
  rw [operationKeyOf] at empty
  rw [empty, Sha256.sum256_length] at size
  exact absurd size (by decide)

/-- An approval decided after a minute and consumed with a clock that shows half a minute: every call succeeds,
and the row breaks the constraint on the consumption. -/
theorem approval_consumed_before_decision :
    Approvals.new ⟨"app_1", 1, "areq_1", sampleSend.createdAt, sampleSend.expiresAt⟩ sampleSend.awaitingApproval =
        .ok sampleApproval ∧
      let approved := after act sampleApproval (.approve (sampleApproval.createdAt + 60 * second))
      ∃ consumed, sampleApproval.approve (sampleApproval.createdAt + 60 * second) = .ok approved ∧
        approved.consume (sampleApproval.createdAt + 30 * second) sampleOperation = .ok consumed ∧
        (approvalRow "tenant_1" consumed).satisfiesChecks = false := by
  refine ⟨new_sampleApproval, ?_⟩
  have approved : act sampleApproval (.approve (sampleApproval.createdAt + 60 * second)) = _ :=
    approve_eq sampleApproval_valid rfl (by decide) (by decide)
  have valid := (sound_run (new_sound new_sampleApproval).1 [.approve (sampleApproval.createdAt + 60 * second)]).1
  rw [run_cons, run_nil, after_ok approved] at valid
  rw [after_ok approved]
  refine ⟨_, approved, consume_eq valid (.inl rfl) ?_ ?_ ?_ ⟨rfl, rfl, rfl⟩ ?_ ?_ ?_, rfl⟩
  · decide
  · decide
  · decide
  · exact operationKeyOf_ne_empty _ _ _
  · decide
  · decide

end WizPay.Storage
