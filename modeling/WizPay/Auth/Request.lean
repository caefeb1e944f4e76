import WizPay.Storage.Scope

/-!
# Trusted requests

`internal/auth` and `internal/requestauth/scope.go`: who calls a service, and the human
who stands behind the call after a browser authentication.
-/
namespace WizPay.Auth

open Checks GoText Storage

def maxIdentityFieldLength : Nat := 256

def validateIdentityField (name value : String) : Except Error Unit := do
  rejectIf (value = "") (.text s!"{name} is required")
  rejectIf (len value > maxIdentityFieldLength) (.text s!"{name} exceeds {maxIdentityFieldLength} characters")
  rejectIf (hasControl value = true) (.text s!"{name} contains control characters")

inductive Permission
  | createIntent | readIntent | requestApproval | decideApproval | confirmExecution | readApproval | evaluatePolicy
  | prepareExecution | autonomyRead | autonomyControl
deriving DecidableEq

/-- The claims of a verified credential, as far as authority depends on them. -/
structure Principal where
  tenantID : String
  actorID : String
  identityProvider : String
  providerSubject : String
  clientID : String
  tokenID : String
  expiresAt : Int
  permissions : List Permission
deriving DecidableEq

def Principal.normalize (p : Principal) : Principal :=
  { p with
    tenantID := trimSpace p.tenantID, actorID := trimSpace p.actorID,
    identityProvider := trimSpace p.identityProvider, providerSubject := trimSpace p.providerSubject,
    clientID := trimSpace p.clientID, tokenID := trimSpace p.tokenID }

/-- `NewAuthenticatedPrincipal`. Go checks the fields in map order and sorts the permissions, which are only ever
looked up. -/
def newAuthenticatedPrincipal (params : Principal) : Except Error Principal := do
  let p := params.normalize
  validateIdentityField "tenant ID" p.tenantID
  validateIdentityField "actor ID" p.actorID
  validateIdentityField "identity provider" p.identityProvider
  validateIdentityField "provider subject" p.providerSubject
  checkIf (p.clientID ≠ "") (validateIdentityField "client ID" p.clientID)
  checkIf (p.tokenID ≠ "") (validateIdentityField "token ID" p.tokenID)
  rejectIf (p.expiresAt = 0) (.text "credential expiration is required")
  pure p

/-- `Validate` builds the principal once more. -/
def Principal.validate (p : Principal) : Except Error Unit := do
  let _ ← newAuthenticatedPrincipal p
  pure ()

theorem newAuthenticatedPrincipal_ok {params p : Principal} (built : newAuthenticatedPrincipal params = .ok p) :
    p = params.normalize := by
  simp only [newAuthenticatedPrincipal, guard_ok, pure_ok] at built
  exact built.2.2.2.2.2.2.2.symm

inductive IdentityStatus
  | unknown | active | suspended | revoked
deriving DecidableEq

structure Identity where
  userID : String
  provider : String
  providerSubject : String
  status : IdentityStatus
deriving DecidableEq

def Identity.validate (i : Identity) : Except Error Unit := do
  validateIdentityField "user ID" i.userID
  validateIdentityField "identity provider" i.provider
  validateIdentityField "provider subject" i.providerSubject

def Identity.ensureAuthorizable (i : Identity) : Except Error Unit := do
  i.validate.mapError (.wrap .validationError "Identity is invalid." false true true)
  match i.status with
  | .active => .ok ()
  | .unknown => .error (.app .identityNotFound "Identity is not active." false true false)
  | .suspended => .error (.app .identitySuspended "Identity is suspended." false true false)
  | .revoked => .error (.app .identityRevoked "Identity is revoked." false true true)

structure RequestMetadata where
  requestID : String
  clientID : String
  traceID : String
deriving DecidableEq

/-- The metadata checks of `NewIdentityContext`, on trimmed texts. -/
def RequestMetadata.validate (m : RequestMetadata) : Except Error Unit := do
  rejectIf (trimSpace m.requestID = "") (.text "request ID is required")
  rejectIf (len (trimSpace m.requestID) > maxIdentityFieldLength ∨ len (trimSpace m.clientID) > maxIdentityFieldLength ∨
      len (trimSpace m.traceID) > maxIdentityFieldLength)
    (.text s!"request metadata exceeds {maxIdentityFieldLength} characters")
  validateIdentityField "request ID" (trimSpace m.requestID)
  checkIf (trimSpace m.clientID ≠ "") (validateIdentityField "client ID" (trimSpace m.clientID))
  checkIf (trimSpace m.traceID ≠ "") (validateIdentityField "trace ID" (trimSpace m.traceID))

def authorizationDenied : Error := .app .authorizationRequired "Access is forbidden." false true true

structure TrustedRequest where
  principal : Principal
  identity : Identity
  metadata : RequestMetadata
deriving DecidableEq

namespace TrustedRequest

/-- `NewTrustedRequest` on the request's own parts. -/
def validate (r : TrustedRequest) : Except Error Unit := do
  r.principal.validate.mapError (Error.under "invalid authenticated principal")
  r.identity.ensureAuthorizable
  r.metadata.validate
  rejectIf (r.identity.userID ≠ r.principal.actorID ∨ r.identity.provider ≠ r.principal.identityProvider ∨
      r.identity.providerSubject ≠ r.principal.providerSubject) authorizationDenied

/-- `sameAuthority`. -/
def sameAuthority (a b : TrustedRequest) : Bool :=
  a.principal.tenantID = b.principal.tenantID && a.principal.actorID = b.principal.actorID &&
    a.principal.identityProvider = b.principal.identityProvider &&
    a.principal.providerSubject = b.principal.providerSubject && a.principal.clientID = b.principal.clientID &&
    a.principal.tokenID = b.principal.tokenID

end TrustedRequest

/-- The values of a context: the request, and the human who was authenticated for it. -/
structure Context where
  request : Option TrustedRequest
  human : Option TrustedRequest
deriving DecidableEq

namespace Context

/-- `TrustedRequestFromContext`. -/
def trustedRequest (ctx : Context) : Except Error TrustedRequest :=
  match ctx.request with
  | some request =>
    if request.validate.isOk then .ok request
    else .error (.app .authenticationRequired "Authentication is required." false true false)
  | none => .error (.app .authenticationRequired "Authentication is required." false true false)

variable (ctx : Context) (permission : Permission)

def requireHuman : Except Error Unit := do
  let request ← ctx.trustedRequest
  match ctx.human with
  | none => .error authorizationDenied
  | some human =>
    rejectIf (human.validate.isOk = false ∨ request.sameAuthority human = false ∨
      permission ∉ human.principal.permissions) authorizationDenied

/-- `PermissionAuthorizer.Authorize` without the owner and wallet constraints, which the services do not give. -/
def authorize (ctx : Context) (request : TrustedRequest) (permission : Permission) : Except Error Unit := do
  rejectIf (request.validate.isOk = false) authorizationDenied
  checkIf (permission = .decideApproval ∨ permission = .confirmExecution) do
    ctx.requireHuman permission
    let trusted ← ctx.trustedRequest.mapError fun _ => authorizationDenied
    rejectIf (trusted.sameAuthority request = false) authorizationDenied
  rejectIf (permission ∉ request.principal.permissions) authorizationDenied

/-- `StorageScopeFromContext`. -/
def storageScope (ctx : Context) : Except Error Scope := do
  let request ← ctx.trustedRequest
  newScope request.principal.tenantID request.principal.actorID request.metadata.requestID request.metadata.traceID

/-- The method `scope` that every service starts with. -/
def scope : Except Error Scope := do
  let request ← ctx.trustedRequest
  ctx.authorize request permission
  ctx.storageScope

/-- `humanScope`. -/
def humanScope : Except Error Scope := do
  ctx.requireHuman permission
  ctx.scope permission

end Context

end WizPay.Auth
