import WizPay.Intents.Parameters
import WizPay.Lib.CanonicalJson
import WizPay.Lib.Sha256

/-!
# Intents

`intent.go`, `canonical.go`, `ownership_material.go`, `restore.go` and `idempotency.go`
of `internal/intents`. A revision is a `uint64` and is counted modulo 2^64.
-/
namespace WizPay.Intents

open Checks GoText GoTime Contracts CanonicalJson

def digestDomain : String := "WIZPAY_MCP_INTENT_V1\n"

inductive RouteType
  | directWallet | allowlistedContract | approvedProvider
  | other (text : String)
deriving DecidableEq

namespace RouteType

def text : RouteType → String
  | .directWallet => "DIRECT_WALLET"
  | .allowlistedContract => "ALLOWLISTED_CONTRACT"
  | .approvedProvider => "APPROVED_PROVIDER"
  | .other text => text

def valid : RouteType → Bool
  | .other _ => false
  | _ => true

end RouteType

/-- The application identity and the wallet binding that an intent is frozen for. -/
structure Ownership where
  userID : String
  identityProvider : String
  /-- empty in records that were written before the two providers were told apart -/
  walletProvider : String
  providerUserReference : String
  walletBindingID : String
  walletBindingVersion : Nat
  walletID : String
  walletAddress : String
  chainID : String
  network : String
deriving DecidableEq

namespace Ownership

def effectiveWalletProvider (o : Ownership) : String :=
  if o.walletProvider ≠ "" then o.walletProvider else o.identityProvider

def textFields (o : Ownership) : List (String × String) :=
  [("user ID", o.userID), ("identity provider", o.identityProvider),
    ("provider user reference", o.providerUserReference), ("wallet binding ID", o.walletBindingID),
    ("wallet ID", o.walletID), ("wallet address", o.walletAddress), ("network", o.network)]

def validate (o : Ownership) : Except Error Unit := do
  checkIf (o.walletProvider ≠ "") (validateText "wallet provider" o.walletProvider)
  validateFields o.textFields
  rejectIf (o.walletBindingVersion = 0) (.text "wallet binding version must be at least 1")
  validateChainID o.chainID

end Ownership

structure Route where
  type : RouteType
  reference : String
  version : Nat
deriving DecidableEq

def Route.validate (r : Route) : Except Error Unit := do
  rejectIf (r.type.valid = false) (.text s!"invalid route type {quote r.type.text}")
  validateText "route reference" r.reference
  rejectIf (r.version = 0) (.text "route version must be at least 1")

def validateSendRoute (route : Route) : Except Error Unit :=
  rejectIf (route.type ≠ .directWallet ∨ route.reference ≠ routeReferenceSend ∨ route.version ≠ routeVersionSend)
    (.text "SEND requires the canonical direct ERC-20 route")

/-- `validatePayrollRoute` and `validateSwapRoute`: an allowlisted contract of the registry. -/
def validateContractRoute (name reference : String) (version : Nat) (route : Route) : Except Error Unit := do
  rejectIf (route.type ≠ .allowlistedContract) (.text s!"phase 12 {name} requires ALLOWLISTED_CONTRACT route")
  rejectIf (route.reference ≠ reference) (.text s!"phase 12 {name} route reference must be {reference}")
  rejectIf (route.version ≠ version) (.text s!"phase 12 {name} route version must be {version}")

def validatePayrollRoute : Route → Except Error Unit :=
  validateContractRoute "payroll" routeReferencePayroll routeVersionPayroll

def validateSwapRoute : Route → Except Error Unit :=
  validateContractRoute "swap" routeReferenceSwap routeVersionSwap

structure Constraints where
  deadline : Int
  policyReference : String
deriving DecidableEq

def Constraints.validate (c : Constraints) (createdAt expiresAt : Int) : Except Error Unit := do
  rejectIf (isZero c.deadline = true ∨ c.deadline < createdAt ∨ expiresAt < c.deadline)
    (.text "constraint deadline must be between creation and expiration")
  validateText "policy reference" c.policyReference

/-- Every material field of an intent. -/
structure Params where
  intentID : String
  version : Nat
  clientRequestID : String
  nonce : String
  type : IntentType
  ownership : Ownership
  financial : FinancialParameters
  route : Route
  constraints : Constraints
  createdAt : Int
  expiresAt : Int
deriving DecidableEq

/-! ### Validation -/

variable (p : Params)

namespace Params

def validateSend (send : SendParameters) : Except Error Unit := do
  rejectIf (send.token.chainID ≠ p.ownership.chainID) (.text "send token chain does not match owning wallet chain")
  rejectIf (p.ownership.chainID ≠ chainIDArcMainnet ∨ p.ownership.network ≠ networkArcMainnet)
    (.text "SEND requires Arc Mainnet wallet ownership")
  rejectIf (addressesEqual p.ownership.walletAddress send.recipient = true)
    (.text "send recipient cannot equal source wallet")
  validateSendRoute p.route

def validatePayroll (payroll : PayrollParameters) : Except Error Unit := do
  rejectIf (payroll.sourceToken.chainID ≠ p.ownership.chainID)
    (.text "payroll token chain does not match owning wallet chain")
  checkIf (payroll.isPhase12 = true) do
    rejectIf ((payroll.sameTokenExecutable = true ∨ payroll.crossTokenExecutable = true) ∧
        p.ownership.network ≠ networkArcMainnet)
      (.text "phase 12 payroll requires MAINNET ownership network")
    checkIf (payroll.crossToken.isSome = true)
      (payroll.validateCrossTokenTimeline p.createdAt p.constraints.deadline p.expiresAt p.ownership.walletAddress)
    validatePayrollRoute p.route

def validateSwap (swap : SwapParameters) : Except Error Unit := do
  rejectIf (swap.inputToken.chainID ≠ p.ownership.chainID)
    (.text "swap input token chain does not match owning wallet chain")
  checkIf (swap.isPhase12 = true) do
    rejectIf (p.ownership.network ≠ networkArcMainnet) (.text "phase 12 swap requires MAINNET ownership network")
    rejectIf (addressesEqual swap.recipient p.ownership.walletAddress = false)
      (.text "swap recipient must equal the bound wallet")
    swap.validateWithTimeline p.createdAt p.constraints.deadline p.expiresAt
    validateSwapRoute p.route

/-- The switch of `validateParams`; the payload that the type asks for is present here. -/
def validatePayload : Except Error Unit :=
  match p.type with
  | .send => p.financial.send.elim (.ok ()) p.validateSend
  | .payroll => p.financial.payroll.elim (.ok ()) p.validatePayroll
  | .swap => p.financial.swap.elim (.ok ()) p.validateSwap
  | .bridge =>
    p.financial.bridge.elim (.ok ()) fun bridge =>
      rejectIf (bridge.sourceChainID ≠ p.ownership.chainID)
        (.text "bridge source chain does not match owning wallet chain")
  | .ansRegistration =>
    p.financial.ans.elim (.ok ()) fun ans =>
      rejectIf (ans.costToken.chainID ≠ p.ownership.chainID)
        (.text "ANS cost token chain does not match owning wallet chain")
  | .other _ => .ok ()

def textFields : List (String × String) :=
  [("intent ID", p.intentID), ("client request ID", p.clientRequestID), ("nonce", p.nonce)]

/-- `validateParams`. -/
def validate : Except Error Unit := do
  validateFields p.textFields
  rejectIf (p.version = 0) (.text "intent version must be at least 1")
  rejectIf (p.type.valid = false) (.text s!"invalid intent type {quote p.type.text}")
  p.ownership.validate
  p.financial.validate p.type
  p.validatePayload
  p.route.validate
  rejectIf (isZero p.createdAt = true) (.text "intent creation time is required")
  rejectIf (isZero p.expiresAt = true ∨ ¬ p.createdAt < p.expiresAt) (.text "intent expiration must follow creation")
  p.constraints.validate p.createdAt p.expiresAt

end Params

/-! ### Normalisation -/

def Ownership.normalize (o : Ownership) : Ownership :=
  { o with
    userID := trimSpace o.userID, identityProvider := trimSpace o.identityProvider,
    walletProvider := trimSpace o.walletProvider, providerUserReference := trimSpace o.providerUserReference,
    walletBindingID := trimSpace o.walletBindingID, walletID := trimSpace o.walletID,
    walletAddress := trimSpace o.walletAddress, chainID := trimSpace o.chainID, network := trimSpace o.network }

/-- `normalizeParams`: texts are trimmed; an instant and a payload stay what they are. -/
def normalizeParams : Params :=
  { p with
    intentID := trimSpace p.intentID, clientRequestID := trimSpace p.clientRequestID, nonce := trimSpace p.nonce,
    ownership := p.ownership.normalize, route := { p.route with reference := trimSpace p.route.reference },
    constraints := { p.constraints with policyReference := trimSpace p.constraints.policyReference } }

def truncatePostgresTimestamp (value : Int) : Int := if isZero value then value else truncMicros value

def PayrollParameters.truncate (p : PayrollParameters) : PayrollParameters :=
  { p with crossToken := p.crossToken.map fun c => { c with deadline := truncatePostgresTimestamp c.deadline } }

def SwapParameters.truncate (p : SwapParameters) : SwapParameters :=
  { p with
    quote := p.quote.map fun q => { q with expiresAt := truncatePostgresTimestamp q.expiresAt },
    deadline := truncatePostgresTimestamp p.deadline }

def normalizeCreationTimestamps : Params :=
  { p with
    createdAt := truncatePostgresTimestamp p.createdAt, expiresAt := truncatePostgresTimestamp p.expiresAt,
    constraints := { p.constraints with deadline := truncatePostgresTimestamp p.constraints.deadline },
    financial := { p.financial with
      payroll := p.financial.payroll.map PayrollParameters.truncate,
      swap := p.financial.swap.map SwapParameters.truncate } }

/-- A valid address in lower case; any other text as it is. -/
def lowerAddress (value : String) : String := if validAddress value then normalizeAddress value else value

def Token.lowerAddress (t : Token) : Token := { t with address := Intents.lowerAddress t.address }

/-- The tokens of a payroll are touched only when they are set. -/
def Token.lowerAddressIfSet (t : Token) : Token := if t.isZero then t else t.lowerAddress

def normalizePayrollAddresses (p : PayrollParameters) : PayrollParameters :=
  { p with
    tokenIn := p.tokenIn.lowerAddressIfSet, token := p.token.lowerAddressIfSet,
    recipients := p.recipients.map fun r =>
      { r with address := lowerAddress r.address, tokenOut := r.tokenOut.lowerAddressIfSet } }

def normalizeSwapAddresses (p : SwapParameters) : SwapParameters :=
  { p with
    inputToken := p.inputToken.lowerAddress, outputToken := p.outputToken.lowerAddress,
    router := lowerAddress p.router, recipient := lowerAddress p.recipient,
    quote := p.quote.map fun q => { q with router := lowerAddress q.router } }

def normalizeSendAddresses (p : SendParameters) : SendParameters :=
  { p with token := p.token.lowerAddress, recipient := lowerAddress p.recipient }

def normalizeCreationAddresses : Params :=
  { p with
    ownership := { p.ownership with walletAddress := lowerAddress p.ownership.walletAddress },
    financial := { p.financial with
      send := p.financial.send.map normalizeSendAddresses,
      payroll := p.financial.payroll.map normalizePayrollAddresses,
      swap := p.financial.swap.map normalizeSwapAddresses } }

/-- The three steps with which `NewDraft` and `ReviseDraft` start. -/
def normalizeCreation : Params :=
  normalizeCreationAddresses (normalizeCreationTimestamps (normalizeParams p))

/-! ### Canonical material -/

def timeJson (t : Int) : Json := .str (formatRFC3339Nano t)

def Amount.json (a : Amount) : Json :=
  object [("decimal", .str a.decimal), ("base_units", .str a.baseUnits), ("decimals", .num a.decimals)]

def Token.json (t : Token) : Json :=
  object [("chain_id", .str t.chainID), ("standard", .str t.standard), ("address", .str t.address),
    ("symbol", .str t.symbol), ("decimals", .num t.decimals)]

def SendParameters.json (p : SendParameters) : Json :=
  object [("token", p.token.json), ("recipient", .str p.recipient), ("amount", p.amount.json)]

def Recipient.json (r : Recipient) : Json :=
  object [("address", .str r.address), ("amount", r.amount.json), ("token_out", r.tokenOut.json),
    ("amount_in", r.amountIn.json), ("min_amount_out", r.minAmountOut.json)]

def CrossTokenPayrollParameters.json (c : CrossTokenPayrollParameters) : Json :=
  object [("gross_input", c.grossInput.json), ("min_total_out", c.minTotalOut.json),
    ("min_hop_price_x36", .str c.minHopPriceX36), ("deadline", timeJson c.deadline)]

def PayrollParameters.json (p : PayrollParameters) : Json :=
  object ([("schema_version", .num p.schemaVersion), ("variant", .str p.variant.text), ("token_in", p.tokenIn.json),
    ("token", p.token.json), ("recipients", .arr (p.recipients.map Recipient.json)), ("total", p.total.json),
    ("reference_id", .str p.referenceID)] ++ optional "cross_token" (p.crossToken.map CrossTokenPayrollParameters.json))

def SwapQuote.json (q : SwapQuote) : Json :=
  object [("quote_id", .str q.quoteID), ("source", .str q.source), ("expected_amount_out", q.expectedAmountOut.json),
    ("min_amount_out", q.minAmountOut.json), ("router", .str q.router), ("expires_at", timeJson q.expiresAt),
    ("evidence_reference", .str q.evidenceReference)]

def SwapParameters.json (p : SwapParameters) : Json :=
  object ([("schema_version", .num p.schemaVersion), ("input_token", p.inputToken.json),
    ("output_token", p.outputToken.json), ("input_amount", p.inputAmount.json),
    ("expected_output", p.expectedOutput.json), ("minimum_output", p.minimumOutput.json),
    ("quote_reference", .str p.quoteReference), ("max_slippage_bps", .num p.maxSlippageBPS),
    ("min_hop_price_x36", .str p.minHopPriceX36), ("router", .str p.router), ("recipient", .str p.recipient)] ++
    optional "quote" (p.quote.map SwapQuote.json) ++ [("deadline", timeJson p.deadline)])

def BridgeParameters.json (p : BridgeParameters) : Json :=
  object [("source_chain_id", .str p.sourceChainID), ("destination_chain_id", .str p.destinationChainID),
    ("source_token", p.sourceToken.json), ("source_amount", p.sourceAmount.json),
    ("destination_amount", p.destinationAmount.json), ("destination_address", .str p.destinationAddress),
    ("plan_reference", .str p.planReference)]

def ANSParameters.json (p : ANSParameters) : Json :=
  object [("normalized_name", .str p.normalizedName), ("name_version", .str p.nameVersion),
    ("term_seconds", .num p.termSeconds), ("controller", .str p.controller), ("cost_token", p.costToken.json),
    ("cost", p.cost.json)]

def FinancialParameters.json (p : FinancialParameters) : Json :=
  object (optional "send" (p.send.map SendParameters.json) ++ optional "payroll" (p.payroll.map PayrollParameters.json) ++
    optional "swap" (p.swap.map SwapParameters.json) ++ optional "bridge" (p.bridge.map BridgeParameters.json) ++
    optional "ans_registration" (p.ans.map ANSParameters.json))

def Route.json (r : Route) : Json :=
  object [("type", .str r.type.text), ("reference", .str r.reference), ("version", .num r.version)]

def Constraints.json (c : Constraints) : Json :=
  object [("deadline", timeJson c.deadline), ("policy_reference", .str c.policyReference)]

/-- `ownershipMaterial`: an empty wallet provider is left out, as in the records written before it existed. -/
def ownershipMaterial (o : Ownership) : Json :=
  object ([("user_id", .str o.userID), ("identity_provider", .str o.identityProvider)] ++
    optional "wallet_provider" (if o.walletProvider ≠ "" then some (.str o.walletProvider) else none) ++
    [("provider_user_reference", .str o.providerUserReference), ("wallet_binding_id", .str o.walletBindingID),
      ("wallet_binding_version", .num o.walletBindingVersion), ("wallet_id", .str o.walletID),
      ("wallet_address", .str o.walletAddress), ("chain_id", .str o.chainID), ("network", .str o.network)])

/-- `materialEnvelope`. -/
def Params.json : Json :=
  object [("intent_id", .str p.intentID), ("intent_version", .num p.version),
    ("client_request_id", .str p.clientRequestID), ("nonce", .str p.nonce), ("intent_type", .str p.type.text),
    ("ownership", ownershipMaterial p.ownership), ("financial_parameters", p.financial.json), ("route", p.route.json),
    ("constraints", p.constraints.json), ("created_at", timeJson p.createdAt), ("expires_at", timeJson p.expiresAt)]

def canonicalMaterial : List UInt8 := bytes (text p.json)

def digestBytes (material : List UInt8) : String :=
  "sha256:" ++ Sha256.hexText (Sha256.sum256 (bytes digestDomain ++ material))

/-! ### Values -/

inductive Status
  | draft | created | approvalRequired | approved | readyForExecution | expired | cancelled
  | other (text : String)
deriving DecidableEq

namespace Status

def text : Status → String
  | .draft => "DRAFT"
  | .created => "CREATED"
  | .approvalRequired => "APPROVAL_REQUIRED"
  | .approved => "APPROVED"
  | .readyForExecution => "READY_FOR_EXECUTION"
  | .expired => "EXPIRED"
  | .cancelled => "CANCELLED"
  | .other text => text

def valid : Status → Bool
  | .other _ => false
  | _ => true

def terminal (s : Status) : Bool := s = .expired || s = .cancelled

end Status

structure Intent where
  params : Params
  status : Status
  digest : String
  lifecycleRevision : Nat
deriving DecidableEq

def invalidIntent (cause : Error) : Error :=
  .wrap .validationError "Intent is invalid." false true true cause

def validationError (message : String) : Error := .app .validationError message false true true

def materialChanged : Error :=
  .app .intentMutated "A material intent change requires a new intent and approval." false true true

def digestMismatch : Error :=
  .app .intentMutated "Intent material does not match its digest." false true true

/-- `revision + 1` on a `uint64`. -/
def nextRevision (revision : Nat) : Nat := (revision + 1) % 2 ^ 64

def newDraft (params : Params) : Except Error Intent := do
  let params := normalizeCreation params
  params.validate.mapError invalidIntent
  pure ⟨params, .draft, "", 1⟩

namespace Intent

def validate (i : Intent) : Except Error Unit := do
  i.params.validate.mapError invalidIntent
  rejectIf (i.status.valid = false) (validationError "Intent status is invalid.")
  rejectIf (i.lifecycleRevision = 0) (validationError "Intent lifecycle revision must be at least 1.")
  if i.status = .draft then
    rejectIf (i.digest ≠ "") (validationError "Draft intent cannot have a digest.")
  else
    rejectIf (i.digest = "" ∨ digestBytes (canonicalMaterial i.params) ≠ i.digest) digestMismatch

def reviseDraft (i : Intent) (params : Params) : Except Error Intent := do
  i.validate
  let params := normalizeCreation params
  params.validate.mapError invalidIntent
  rejectIf (i.params.intentID ≠ params.intentID ∨ i.params.version ≠ params.version) materialChanged
  if i.status = .draft then
    pure ⟨params, .draft, "", nextRevision i.lifecycleRevision⟩
  else if digestBytes (canonicalMaterial params) = i.digest then pure i
  else .error materialChanged

end Intent

/-- `Restore`: the checks of `Validate`, then the digest once more. -/
def restore (params : Params) (status : Status) (digest : String) (lifecycleRevision : Nat) : Except Error Intent := do
  let params := normalizeParams params
  params.validate.mapError invalidIntent
  let value : Intent := ⟨params, status, digest, lifecycleRevision⟩
  value.validate
  rejectIf (status ≠ .draft ∧ digest ≠ digestBytes (canonicalMaterial params)) digestMismatch
  rejectIf (status.valid = false) (.text "invalid persisted intent status")
  pure value

/-! ### Operation identities -/

def operationDomain : String := "WIZPAY_MCP_OPERATION_V1\n"

def operationIdentityVersion : Nat := 1

/-- The key of one logical operation: the retries of a frozen intent share it. -/
structure OperationIdentity where
  intentID : String
  intentVersion : Nat
  intentDigest : String
  operationKey : String
  version : Nat
deriving DecidableEq

def operationKeyOf (intentID : String) (intentVersion : Nat) (intentDigest : String) : String :=
  Sha256.hexText (Sha256.sum256 (bytes (operationDomain ++ s!"{intentID}\n{intentVersion}\n{intentDigest}")))

def newOperationIdentity (intent : Intent) : Except Error OperationIdentity := do
  intent.validate
  rejectIf (intent.status = .draft ∨ intent.digest = "")
    (validationError "Intent must be frozen before assigning an operation identity.")
  pure
    { intentID := intent.params.intentID, intentVersion := intent.params.version, intentDigest := intent.digest,
      operationKey := operationKeyOf intent.params.intentID intent.params.version intent.digest,
      version := operationIdentityVersion }

end WizPay.Intents
