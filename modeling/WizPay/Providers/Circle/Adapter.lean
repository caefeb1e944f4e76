import WizPay.Providers.Circle.Client
import WizPay.Providers.Plan

/-!
# The Circle adapter

`internal/providers/circle/adapter.go` and the evidence reference store. The methods are
functions of a pass: what the planner, the store, the user's authorization, the provider
and the clock answered while the method ran.
-/
namespace WizPay.Providers.Circle

open Checks GoText GoTime Exec Contracts

structure Config where
  blockchain : String
  chainID : String
  network : String
deriving DecidableEq

structure Adapter where
  config : Config
  registry : Registry
deriving DecidableEq

/-- `outcome`: an outcome without an observation time is observed now. -/
def outcome (executionID : String) (value : Outcome) (now : Int) : Except Error Result :=
  { value with observedAt := if isZero value.observedAt then now else value.observedAt }.adapterResult executionID

/-! ### Submission -/

/-- The closed surface of contract executions. -/
def Adapter.validateEncodedCall (a : Adapter) (call : EncodedCall) : Except Error Unit := do
  match call.contractID with
  | .wizPayPayroll =>
    rejectIf (call.function = sigExecuteCrossTokenPayroll)
      (.text "Arc Mainnet cross-token payroll submission authority is unavailable")
  | .wizPaySwapExecutor => .error (.text "Arc Mainnet swap submission authority is unavailable")
  | .other text => .error (.text s!"contract {quote text} is not supported for provider execution")
  rejectIf (call.registryVersion ≠ registryVersion)
    (.text s!"contract registry version {call.registryVersion} is unsupported")
  rejectIf (call.chainID ≠ a.config.chainID ∨ call.chainID ≠ chainIDArcMainnet)
    (.text "encoded call targets an unsupported chain")
  rejectIf (call.network ≠ "" ∧ call.network ≠ a.config.network) (.text "encoded call targets an unsupported network")
  match a.registry.require call.contractID call.registryVersion call.chainID call.network with
  | .error _ => .error (.text "encoded call deployment is not registered")
  | .ok deployment =>
    rejectIf (addressesEqual call.target deployment.address = false)
      (.text "encoded call target does not match canonical deployment")
    rejectIf (deployment.allowsExecution call.function = false)
      (.text "encoded call function is not allowlisted for execution")

def Adapter.validatePlan (a : Adapter) (plan : Plan) : Except Error Unit := do
  plan.validate
  rejectIf (plan.chainID ≠ a.config.chainID ∨ plan.network ≠ a.config.network)
    (.text "submission plan targets an unsupported chain or network")
  match plan.effectiveKind with
  | .tokenTransfer => pure ()
  | .contractExecution =>
    match plan.encodedCall with
    | none => .error (.text "contract execution plan is missing sealed encoded call")
    | some call => a.validateEncodedCall call
  | _ => .error (.text "submission plan kind is unsupported")

/-- The body that `createChallenge` derives from the plan, up to the point where it is sent. -/
def providerRequest (plan : Plan) (idempotencyKey executionID : String) : Except ReadError ProviderRequest :=
  let invalid := ReadError.transport .preSubmissionValidationFailure "SUBMISSION_PLAN_INVALID"
  match plan.effectiveKind with
  | .tokenTransfer =>
    .ok (.transfer idempotencyKey plan.destinationAddress plan.amount plan.walletID plan.tokenID executionID)
  | .contractExecution =>
    match plan.encodedCall with
    | none => .error invalid
    | some call =>
      if call.callData.length < 4 then .error invalid
      else if idempotencyKey = "" ∨ call.target = "" ∨ plan.walletID = "" then
        .error (.transport .preSubmissionValidationFailure "PROVIDER_REQUEST_INVALID")
      else
        .ok (.contractExecution idempotencyKey call.target ("0x" ++ Sha256.hexText call.callData) plan.walletID
          executionID "MEDIUM")
  | _ => .error invalid

/-- What answered the adapter during one `Execute`. -/
structure SubmitPass where
  plan : Except Error Plan
  freshAt : Int
  authorization : Except Error (Option UserAuthorization)
  exchange : Exchange
  now : Int

/-- What one `Execute` did: the provider request that may have left the process, and the answer. -/
structure Attempt where
  sent : Option ProviderRequest
  answer : Except Error Result

/-- `createChallenge` and what follows it. -/
def submit (executionID : String) (plan : Plan) (idempotencyKey : String) (authorization : UserAuthorization)
    (p : SubmitPass) : Attempt :=
  match providerRequest plan idempotencyKey executionID with
  | .error e =>
    let (classification, reasonCode) := classifyTransportError e
    ⟨none, outcome executionID ⟨classification, reasonCode, none, 0⟩ p.now⟩
  | .ok request =>
    let sent := if authorization.present && p.exchange.left then some request else none
    match createChallenge authorization p.exchange with
    | .error e =>
      let (classification, reasonCode) := classifyTransportError e
      ⟨sent, outcome executionID ⟨classification, reasonCode, none, 0⟩ p.now⟩
    | .ok challengeID =>
      let reference := { Reference.zero with
        provider := .circleUserControlled, chainID := plan.chainID, walletID := plan.walletID,
        challengeID := challengeID }
      ⟨sent, outcome executionID
        ⟨.userAuthorizationRequired, "USER_AUTHORIZATION_REQUIRED", some reference, 0⟩ p.now⟩

/-- An outcome before anything was sent. -/
def unsent (executionID : String) (classification : Classification) (reasonCode : String) (p : SubmitPass) :
    Attempt :=
  ⟨none, outcome executionID ⟨classification, reasonCode, none, 0⟩ p.now⟩

def Adapter.execute (a : Adapter) (request : Request) (p : SubmitPass) : Attempt :=
  let refuse := unsent request.executionID .preSubmissionValidationFailure
  match p.plan with
  | .error _ => refuse "SUBMISSION_PLAN_UNAVAILABLE" p
  | .ok plan =>
    match a.validatePlan plan with
    | .error _ => refuse "SUBMISSION_PLAN_INVALID" p
    | .ok () =>
      -- freshness is checked here and nowhere else
      if plan.freshnessExpired p.freshAt then refuse "FINANCIAL_MATERIAL_EXPIRED" p
      else
        match idempotencyKey request with
        | .error _ => refuse "IDEMPOTENCY_KEY_UNAVAILABLE" p
        | .ok key =>
          match p.authorization with
          | .ok (some authorization) => submit request.executionID plan key authorization p
          | _ => unsent request.executionID .userAuthorizationRequired "USER_AUTHORIZATION_REQUIRED" p

/-! ### Reconciliation -/

/-- `EvidenceReferenceStore.LatestReference` on the evidence that the store returned. -/
def latestReference (records : Except Error (List Result)) : Except Error (Option Reference) :=
  match records with
  | .error e => .error e
  | .ok values =>
    match Runtime.lastReference values with
    | none => .ok none
    | some encoded => (parseReference encoded).map some

/-- One reconciliation observation; without a state no transaction was found. -/
structure Resolution where
  reference : Reference
  state : Option TransactionState
deriving DecidableEq

/-- The reference enriched with what the provider reports. -/
def enriched (reference : Reference) (record : Transaction) : Reference :=
  let merged := reference.withTransaction record.id (toLower record.txHash)
  -- an unusable hash is dropped, and with it the hash that was known before
  if merged.transactionHash ≠ "" ∧ validTransactionHash merged.transactionHash = false then
    { merged with transactionHash := "" }
  else merged

def Adapter.applyTransaction (a : Adapter) (reference : Reference) (record : Transaction) :
    Except ReadError Resolution :=
  if record.blockchain ≠ "" ∧ record.blockchain ≠ a.config.blockchain then
    .error (.text "provider transaction is on an unexpected blockchain")
  else if reference.walletID ≠ "" ∧ record.walletID ≠ "" ∧ record.walletID ≠ reference.walletID then
    .error (.text "provider transaction belongs to another wallet")
  else .ok ⟨enriched reference record, some record.state⟩

/-- The read of `resolveTransaction`: by the known transaction ID, or else by our own reference. -/
def lookupTransaction (executionID : String) (authorization : UserAuthorization) (reference : Reference)
    (exchange : Exchange) : Except ReadError (Option Transaction) :=
  if reference.providerTransactionID ≠ "" then
    (getTransaction authorization reference.providerTransactionID exchange).map some
  else findTransactionByRef authorization reference.walletID executionID exchange

variable (a : Adapter) (executionID : String)

def Adapter.resolveTransaction (authorization : UserAuthorization)
    (reference : Reference) (exchange : Exchange) : Except ReadError Resolution := do
  match ← lookupTransaction executionID authorization reference exchange with
  | none => pure ⟨reference, none⟩
  | some record => a.applyTransaction reference record

/-- `ResolveReference`, which the verifier asks for a hash. -/
def Adapter.resolveReference (a : Adapter) (executionID : String)
    (authorization : Except Error (Option UserAuthorization)) (reference : Reference) (exchange : Exchange) :
    Except ReadError Reference :=
  match authorization with
  | .ok (some authorization) =>
    (a.resolveTransaction executionID authorization reference exchange).map Resolution.reference
  | _ => .error (.text "user authorization is unavailable for reconciliation")

/-- `classifyResolution`: a failure verdict on a transaction with a hash is left to the chain. -/
def classifyResolution (reference : Reference) (state : TransactionState) : Classification × String :=
  match classifyTransactionState state with
  | (.permanentProviderRejection, reasonCode) =>
    if reference.transactionHash ≠ "" then (.submittedPending, "") else (.permanentProviderRejection, reasonCode)
  | (.submittedPending, _) => (.submittedPending, "")
  | other => other

def challengeOutcome (authorization : UserAuthorization) (reference : Reference) (exchange : Exchange)
    (observedAt : Int) : Outcome :=
  let observed (verdict : Classification × String) : Outcome := ⟨verdict.1, verdict.2, some reference, observedAt⟩
  if reference.challengeID = "" then observed (.ambiguousSubmission, "PROVIDER_TRANSACTION_NOT_FOUND")
  else
    match findChallenge authorization reference.challengeID exchange with
    | .error e => observed (classifyTransportError e)
    | .ok none => observed (.ambiguousSubmission, "PROVIDER_CHALLENGE_NOT_OUTSTANDING")
    | .ok (some record) =>
      match classifyChallengeStatus record.status with
      -- the user has authorized, but the transaction cannot be shown yet
      | (.submittedPending, _) => observed (.ambiguousSubmission, "PROVIDER_TRANSACTION_NOT_FOUND")
      | verdict => observed verdict

/-- What answered the adapter during one `GetStatus`. -/
structure StatusPass where
  /-- the evidence that the store returned -/
  records : Except Error (List Result)
  authorization : Except Error (Option UserAuthorization)
  /-- the read of the transaction -/
  transactions : Exchange
  /-- the read of the outstanding challenges, made when there is no transaction -/
  challenges : Exchange
  observedAt : Int
  now : Int

def Adapter.reconcile (authorization : UserAuthorization)
    (reference : Reference) (p : StatusPass) : Outcome :=
  match a.resolveTransaction executionID authorization reference p.transactions with
  | .error e =>
    let (classification, reasonCode) := classifyTransportError e
    ⟨classification, reasonCode, some reference, p.observedAt⟩
  | .ok ⟨reference, none⟩ => challengeOutcome authorization reference p.challenges p.observedAt
  | .ok ⟨reference, some state⟩ =>
    let (classification, reasonCode) := classifyResolution reference state
    ⟨classification, reasonCode, some reference, p.observedAt⟩

def Adapter.getStatus (p : StatusPass) : Except Error Result :=
  match latestReference p.records with
  | .error _ =>
    outcome executionID ⟨.transientProviderError, "PROVIDER_REFERENCE_UNAVAILABLE", none, 0⟩ p.now
  | .ok none => outcome executionID ⟨.ambiguousSubmission, "PROVIDER_REFERENCE_MISSING", none, 0⟩ p.now
  | .ok (some reference) =>
    match p.authorization with
    | .ok (some authorization) => outcome executionID (a.reconcile executionID authorization reference p) p.now
    | _ =>
      outcome executionID ⟨.userAuthorizationRequired, "USER_AUTHORIZATION_REQUIRED", some reference, 0⟩ p.now

end WizPay.Providers.Circle
