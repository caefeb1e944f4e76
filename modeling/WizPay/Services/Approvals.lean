import WizPay.Services.Intents

/-!
# The approval services

`approval.go`, `human_authority.go`, `execution_authorization.go` and `stepup.go` of
`internal/services`.
-/
namespace WizPay.Services

open Checks GoText Threads.Routine Intents Approvals Storage Auth

def approvalSum (i : Intent) : List UInt8 :=
  Sha256.sum256 (bytes ("approval/" ++ i.params.intentID ++ "/" ++ toString i.params.version ++ "/" ++ i.digest))

/-- `approvalIDs`: the approval's and the request's identifier. -/
def approvalIDs (i : Intent) : String × String :=
  ("apr_" ++ Sha256.hexText ((approvalSum i).take 12), "apr_req_" ++ Sha256.hexText ((approvalSum i).drop 12))

def approvalRecord (scope : Scope) (type : Audit.EventType) (a : Approval) (previous : String) (now : Int) :
    Audit.Record :=
  { event :=
      { eventID := scope.requestID ++ "/" ++ a.approvalID ++ "/" ++ type.text, type := type, occurredAt := now,
        intentID := a.intentID, intentVersion := a.intentVersion, intentDigest := a.intentDigest,
        approvalID := a.approvalID, userID := a.userID },
    actorType := "user", actorID := scope.actorID, requestID := scope.requestID, traceID := scope.traceID,
    resourceType := "approval", resourceID := a.approvalID, previousState := previous, newState := a.status.text,
    sourceComponent := "approval.service" }

/-- Reuse the approval of the intent, or create the given one. -/
def requestApproval (ctx : Context) (intentID : String) : Service Approval := do
  let scope ← check (ctx.scope .requestApproval)
  let intent ← Repository.findIntentByID scope intentID
  check (rejectIf (intent.params.ownership.userID ≠ scope.actorID) (.text "intent is not accessible"))
  check (rejectIf (intent.status ≠ .approvalRequired) (.text "intent is not awaiting approval"))
  match ← attempt (Repository.findApprovalByIntent scope intent.params.intentID intent.params.version intent.digest) with
  | .ok existing => pure existing
  | .error _ => do
    let time ← now
    let ids := approvalIDs intent
    let approval ← check (Approvals.new ⟨ids.1, 1, ids.2, time, intent.params.expiresAt⟩ intent)
    let (stored, created) ← Repository.createApproval scope approval
    if created then
      Repository.appendAudit scope (approvalRecord scope .approvalRequested stored "" time)
    pure stored

def getApproval (ctx : Context) (approvalID : String) : Service Approval := do
  let scope ← check (ctx.scope .readApproval)
  Repository.findApprovalByID scope approvalID

/-! ### Human decisions -/

/-- The approval is the caller's and names the intent and its wallet binding. -/
def ApprovalNames (scope : Scope) (a : Approval) (i : Intent) : Prop :=
  let o := i.params.ownership
  o.userID = scope.actorID ∧ a.userID = scope.actorID ∧ a.intentID = i.params.intentID ∧
    a.intentVersion = i.params.version ∧ a.intentDigest = i.digest ∧ a.walletBindingID = o.walletBindingID ∧
    a.walletBindingVersion = o.walletBindingVersion ∧ a.walletID = o.walletID ∧ a.walletAddress = o.walletAddress ∧
    a.chainID = o.chainID

instance (scope : Scope) (a : Approval) (i : Intent) : Decidable (ApprovalNames scope a i) :=
  inferInstanceAs (Decidable (_ ∧ _))

/-- The stored binding still is the one that the intent was frozen for. -/
def BindingUnchanged (b : Wallet.Binding) (o : Ownership) : Prop :=
  b.bindingID = o.walletBindingID ∧ b.version = o.walletBindingVersion ∧ b.userID = o.userID ∧
    b.provider = o.effectiveWalletProvider ∧ b.providerUserReference = o.providerUserReference ∧
    b.walletID = o.walletID ∧ b.address = o.walletAddress ∧ b.chainID = o.chainID ∧ b.network = o.network

instance (b : Wallet.Binding) (o : Ownership) : Decidable (BindingUnchanged b o) := inferInstanceAs (Decidable (_ ∧ _))

/-- The comparison of `validateApprovalBinding` with the binding that was read. -/
def checkBinding (scope : Scope) (i : Intent) (b : Wallet.Binding) : Except Error Unit := do
  rejectIf (¬ BindingUnchanged b i.params.ownership)
    (.app .walletMismatch "Wallet binding has changed." false true true)
  b.ensureAuthorizable scope.actorID

def validateApprovalBinding (ctx : Context) (scope : Scope) (a : Approval) (i : Intent) : Service Unit := do
  let request ← check ctx.trustedRequest
  check (rejectIf (i.params.ownership.identityProvider ≠ request.identity.provider)
    (.app .authorizationRequired "Intent authentication identity does not match." false true true))
  check (rejectIf (¬ ApprovalNames scope a i)
    (.app .approvalRequired "Approval does not match the intent." false true true))
  let b ← Repository.findBindingByID scope i.params.ownership.walletBindingID
  check (checkBinding scope i b)

/-- The approval after a decision; a decision that was taken already changes nothing. -/
def decided (a : Approval) (decision : Decision) (time : Int) : Except Error Approval :=
  match decision with
  | .approved => a.approve time
  | .rejected => a.reject time
  | .pending => .error (.text "invalid approval decision")

def decisionEvent (decision : Decision) : Audit.EventType :=
  if decision = .rejected then .approvalRejected else .approvalGranted

def decideApproval (ctx : Context) (approvalID : String) (decision : Decision) : Service Approval := do
  let scope ← check (ctx.humanScope .decideApproval)
  let current ← Repository.findApprovalByID scope approvalID
  check (rejectIf (current.userID ≠ scope.actorID)
    (.app .authorizationRequired "Approval is not accessible." false true true))
  let intent ← Repository.findIntentByID scope current.intentID
  validateApprovalBinding ctx scope current intent
  let seen ← now
  check (rejectIf (¬ seen < current.expiresAt) Approvals.expired)
  check (rejectIf (decision = .pending) (.text "invalid approval decision"))
  if (decision = .approved ∧ current.status = .approved) ∨ (decision = .rejected ∧ current.status = .rejected) then
    pure current
  else
    let time ← now
    let next ← check (decided current decision time)
    let updated ← Repository.updateApproval scope next current.lifecycleRevision
    Repository.appendAudit scope (approvalRecord scope (decisionEvent decision) updated current.status.text time)
    pure updated

/-! ### Confirmation of the execution -/

structure ExecutionAuthorization where
  authorizationID : String
  approvalID : String
  intentID : String
  walletBindingID : String
  walletBindingVersion : Nat
  status : Approvals.Status
  amount : String
  token : String
  walletReference : String
  recipient : String
  agentIdentity : String
deriving DecidableEq

/-- Amount, token and recipient that a reviewer is shown; a payroll shows its first line. -/
def reviewOf (f : FinancialParameters) : String × String × String :=
  match f.send, f.payroll, f.swap with
  | some send, _, _ => (send.amount.decimal, send.token.symbol, send.recipient)
  | none, some payroll, _ =>
    (payroll.total.decimal, payroll.sourceToken.symbol, (payroll.recipients.head?.map Recipient.address).getD "")
  | none, none, some swap => (swap.inputAmount.decimal, swap.inputToken.symbol, swap.recipient)
  | none, none, none => ("", "", "")

def executionAuthorizationOf (a : Approval) (i : Intent) : ExecutionAuthorization :=
  let sum := Sha256.sum256 (bytes ("execution-authorization/" ++ a.approvalID ++ "/" ++ toString a.lifecycleRevision))
  let review := reviewOf i.params.financial
  { authorizationID := "eauth_" ++ Sha256.hexText (sum.take 12), approvalID := a.approvalID, intentID := a.intentID,
    walletBindingID := a.walletBindingID, walletBindingVersion := a.walletBindingVersion, status := a.status,
    amount := review.1, token := review.2.1, walletReference := a.walletID ++ " / " ++ a.walletAddress,
    recipient := review.2.2, agentIdentity := a.userID }

def authorizeExecution (ctx : Context) (approvalID intentID walletBindingID : String) (walletBindingVersion : Nat) :
    Service ExecutionAuthorization := do
  let scope ← check (ctx.humanScope .confirmExecution)
  let current ← Repository.findApprovalByID scope approvalID
  check (rejectIf (current.userID ≠ scope.actorID)
    (.app .authorizationRequired "Approval is not accessible." false true true))
  let intent ← Repository.findIntentByID scope intentID
  check (rejectIf (current.intentID ≠ intent.params.intentID ∨ current.intentVersion ≠ intent.params.version ∨
      current.intentDigest ≠ intent.digest)
    (.app .approvalRequired "Approval does not match the intent." false true true))
  check (rejectIf (walletBindingID ≠ current.walletBindingID ∨ walletBindingVersion ≠ current.walletBindingVersion)
    (.app .walletMismatch "Wallet binding does not match the approval." false true true))
  validateApprovalBinding ctx scope current intent
  let time ← now
  check (current.ensureAuthorizes intent time)
  let next ← check (current.readyForExecutionConfirmation time)
  if next.status ≠ current.status then
    let _ ← Repository.updateApproval scope next current.lifecycleRevision
  pure (executionAuthorizationOf next intent)

/-! ### Step-up -/

def stepUpSum (i : Intent) : List UInt8 :=
  Sha256.sum256 (bytes ("step-up/" ++ i.params.intentID ++ "/" ++ i.digest))

/-- The intent awaiting approval: a CREATED one is moved first. -/
def awaitApproval (scope : Scope) (i : Intent) (time : Int) : Service Intent := do
  if i.status = .created then
    let next ← check (i.transition .approvalRequired time)
    Repository.updateIntent scope next i.lifecycleRevision
  else pure i

/-- `StepUpCoordinator.Request`; the scope comes from the autonomy runtime. -/
def stepUpRequest (scope : Scope) (intentID : String) : Service Approval := do
  let found ← Repository.findIntentByID scope intentID
  let time ← now
  let intent ← awaitApproval scope found time
  check (rejectIf (intent.status ≠ .approvalRequired) (.text "intent is not awaiting step-up approval"))
  match ← attempt (Repository.findApprovalByIntent scope intent.params.intentID intent.params.version intent.digest) with
  | .ok existing => pure existing
  | .error _ => do
    let id := "apr_auto_" ++ Sha256.hexText ((stepUpSum intent).take 12)
    let requestID := "apr_req_auto_" ++ Sha256.hexText ((stepUpSum intent).drop 12)
    let approval ← check (Approvals.new ⟨id, 1, requestID, time, intent.params.expiresAt⟩ intent)
    let (stored, _) ← Repository.createApproval scope approval
    pure stored

end WizPay.Services
