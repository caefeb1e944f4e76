import WizPay.Auth.Request
import WizPay.Storage.ApplicationRepository

/-!
# The intent service

`internal/services/intent.go`.
-/
namespace WizPay.Services

open Checks GoText Threads.Routine Intents Storage Auth

structure CreateIntentCommand where
  clientRequestID : String
  nonce : String
  walletBindingID : String
  type : IntentType
  financial : FinancialParameters
  route : Route
  deadline : Int
  policyReference : String
deriving DecidableEq

/-- The identifier is a key of the tenant and the client's request ID, not of the user. -/
def intentID (tenantID clientRequestID : String) : String :=
  "int_" ++ Sha256.hexText ((Sha256.sum256 (bytes (tenantID ++ "/" ++ clientRequestID))).take 12)

/-- The owner that an intent is frozen for. -/
def ownerOf (actorID identityProvider : String) (b : Wallet.Binding) : Ownership :=
  { userID := actorID, identityProvider := identityProvider, walletProvider := b.provider,
    providerUserReference := b.providerUserReference, walletBindingID := b.bindingID,
    walletBindingVersion := b.version, walletID := b.walletID, walletAddress := b.address, chainID := b.chainID,
    network := b.network }

/-- The material of the intent that a command asks for. -/
def intentParams (scope : Scope) (identityProvider : String) (b : Wallet.Binding) (command : CreateIntentCommand)
    (now : Int) : Params :=
  { intentID := intentID scope.tenantID command.clientRequestID, version := 1,
    clientRequestID := command.clientRequestID, nonce := command.nonce, type := command.type,
    ownership := ownerOf scope.actorID identityProvider b, financial := command.financial, route := command.route,
    constraints := ⟨command.deadline, command.policyReference⟩, createdAt := now, expiresAt := command.deadline }

/-- The value that is stored: a draft that was frozen at once. -/
def frozenIntent (params : Params) (now : Int) : Except Error Intent := do
  let draft ← newDraft params
  draft.transition .created now

def intentCreatedRecord (scope : Scope) (i : Intent) (now : Int) : Audit.Record :=
  { event :=
      { eventID := scope.requestID ++ "/" ++ i.params.intentID ++ "/" ++ Audit.EventType.intentCreated.text,
        type := .intentCreated, occurredAt := now, intentID := i.params.intentID, intentVersion := i.params.version,
        intentDigest := i.digest, walletBindingID := i.params.ownership.walletBindingID,
        walletBindingVersion := i.params.ownership.walletBindingVersion, userID := i.params.ownership.userID },
    actorType := "user", actorID := scope.actorID, requestID := scope.requestID, traceID := scope.traceID,
    resourceType := "intent", resourceID := i.params.intentID, newState := i.status.text,
    sourceComponent := "intent.service" }

def createIntent (ctx : Context) (command : CreateIntentCommand) : Service Intent := do
  let scope ← check (ctx.scope .createIntent)
  let request ← check ctx.trustedRequest
  let binding ← Repository.findBindingByID scope command.walletBindingID
  check (binding.ensureAuthorizable scope.actorID)
  let time ← now
  let value ← check (frozenIntent (intentParams scope request.principal.identityProvider binding command time) time)
  let (stored, created) ← Repository.createIntent scope value
  if created then
    Repository.appendAudit scope (intentCreatedRecord scope stored time)
  pure stored

def getIntent (ctx : Context) (id : String) : Service Intent := do
  let scope ← check (ctx.scope .readIntent)
  Repository.findIntentByID scope id

end WizPay.Services
