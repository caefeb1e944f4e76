import WizPay.Authority.Siwe

/-!
# The repositories of the authorization server

`oauth_repository.go`, `browser_repository.go` and `siwe_repository.go` of
`internal/storage/postgres`: every call as the text of its transaction. The rows of a
join are locked one by one in the order of its FOR clause. A refusal of any kind ends
the transaction without effect. The random identifiers of a call are its arguments.
-/
namespace WizPay.Authority

open GoText GoTime RowLocks Txn

/-- What a committed call returns. -/
inductive Answer
  | done
  | token (token : String × TokenRow)
  | challenge (challenge : Siwe.Challenge)
  | enrollmentPending
deriving DecidableEq

abbrev Text (α : Type) := Txn Row Error α
abbrev Commit := List Change × Answer

def oauthDenied : Error := .text "oauth authority denied"
def browserDenied : Error := .text "browser authority denied"

/-- `authenticationTimeIn`, where the zero time stands for a failed reading. -/
def authenticationTime (denied : Error) : Text Int := do
  let now ← Txn.now
  ensure (!isZero now) denied
  return now

/-- `dbWallTime`: the database clock counts microseconds. -/
def dbWallTime : Text Int := do
  let now ← Txn.now
  return truncMicros now

/-! ### Browser sessions -/

structure BrowserSession where
  digest : String
  csrfHash : String
  reference : String
  transactionID : String
  state : BrowserState
  decision : Decision
  tenantID : String
  userID : String
  issuer : String
  subject : String
  evidence : String
  createdAt : Int
  expiresAt : Int
deriving DecidableEq

def BrowserSession.row (v : BrowserSession) : BrowserRow :=
  { csrfDigest := v.csrfHash, reference := v.reference, transactionID := v.transactionID, state := v.state,
    decision := v.decision, tenantID := v.tenantID, userID := v.userID, identityIssuer := v.issuer, subject := v.subject,
    evidence := v.evidence, createdAt := truncMicros v.createdAt, expiresAt := truncMicros v.expiresAt, revokedAt := none }

def insertBrowser (v : BrowserSession) : List Change :=
  [.insert (.browser v.digest) v.row, .insert (.browserReference v.reference) v.digest]

variable {change : Change}

@[simp] theorem mem_insertBrowser {v : BrowserSession} : change ∈ insertBrowser v ↔
    change = .insert (.browser v.digest) v.row ∨ change = .insert (.browserReference v.reference) v.digest := by
  simp [insertBrowser]

def lockBrowser (digest : String) : Text BrowserRow := do
  let v ← fetch .exclusive (Key.browser digest) browserDenied
  let now ← Txn.now
  ensure (v.revokedAt.isNone && now < v.expiresAt && !(now < v.createdAt)) browserDenied
  return v

/-- `lockBrowser` by the column `session_reference`. -/
def lockBrowserReference (reference : String) : Text (String × BrowserRow) := do
  let tables ← snapshot
  match tables.lookup (Key.browserReference reference) with
  | none => .fail browserDenied
  | some digest =>
    let v ← lockBrowser digest
    ensure (v.reference == reference) browserDenied
    return (digest, v)

/-- Locks the transaction, of which callers read the expiry and the client, and its client. -/
def lockBrowserTransaction (id : String) : Text TransactionRow := do
  let t ← fetch .exclusive (Key.transaction id) browserDenied
  let c ← fetch .exclusive (Key.client t.clientID) browserDenied
  ensure (t.completedAt.isNone && c.status == .active && c.redirectURIs.contains t.redirectURI &&
    c.resources.contains t.resource && c.scopes.contains t.scope) browserDenied
  return t

/-- `found` is the OAuth session of the same reference, if there is one. -/
def revokeChanges (digest : String) (v : BrowserRow) (found : Option SessionRow) (now : Int) : List Change :=
  .update (.browser digest) { v with revokedAt := some (truncMicros now) } ::
    match found with
    | none => []
    | some s =>
      [.update (.session v.tenantID v.userID v.reference) { s with revokedAt := s.revokedAt.or (some (truncMicros now)) }]

@[simp] theorem mem_revokeChanges {digest : String} {v : BrowserRow} {found : Option SessionRow} {now : Int} : change ∈ revokeChanges digest v found now ↔
      change = .update (.browser digest) { v with revokedAt := some (truncMicros now) } ∨
      ∃ s, found = some s ∧ change = .update (.session v.tenantID v.userID v.reference)
        { s with revokedAt := s.revokedAt.or (some (truncMicros now)) } := by
  cases found <;> simp [revokeChanges]

def revokeBrowser (digest : String) (v : BrowserRow) (now : Int) : Text (List Change) :=
  match v.state with
  | .pending => return revokeChanges digest v none now
  | .authenticated => do
    let found ← seek .exclusive (Key.session v.tenantID v.userID v.reference)
    return revokeChanges digest v found now

def createBrowserSession (v : BrowserSession) : Text Commit := do
  ensure (v.state == .pending && v.tenantID == "" && v.userID == "" && v.decision == .undecided) browserDenied
  let t ← lockBrowserTransaction v.transactionID
  let now ← authenticationTime browserDenied
  ensure (now < t.expiresAt && now < v.expiresAt && !(now < v.createdAt) && v.expiresAt ≤ t.expiresAt) browserDenied
  return (insertBrowser v, .done)

def rotateBrowserSession (digest proof : String) (next : BrowserSession) : Text Commit := do
  let old ← lockBrowser digest
  ensure (old.csrfDigest == proof && old.decision == .undecided && next.transactionID == old.transactionID &&
    next.state == .authenticated && next.decision == .undecided && next.reference != old.reference &&
    next.digest != digest) browserDenied
  ensure (old.state != .authenticated || (old.tenantID == next.tenantID && old.userID == next.userID &&
    old.identityIssuer == next.issuer && old.subject == next.subject)) browserDenied
  let t ← lockBrowserTransaction old.transactionID
  let i ← fetch .exclusive (Key.identity next.tenantID next.userID) browserDenied
  ensure (i.provider == next.issuer && i.subject == next.subject && i.status == .active) browserDenied
  let now ← authenticationTime browserDenied
  ensure (now < old.expiresAt && now < t.expiresAt && now < next.expiresAt && !(now < next.createdAt)) browserDenied
  let revoked ← revokeBrowser digest old now
  return (revoked ++ insertBrowser next, .done)

def revokeBrowserSession (digest proof : String) : Text Commit := do
  let v ← lockBrowser digest
  ensure (v.csrfDigest == proof) browserDenied
  let now ← authenticationTime browserDenied
  let revoked ← revokeBrowser digest v now
  return (revoked, .done)

def denyBrowserConsent (digest proof : String) : Text Commit := do
  let v ← lockBrowser digest
  ensure (v.csrfDigest == proof && v.decision == .undecided) browserDenied
  let t ← lockBrowserTransaction v.transactionID
  let now ← authenticationTime browserDenied
  ensure (now < v.expiresAt && now < t.expiresAt) browserDenied
  return ([.update (.transaction v.transactionID) { t with completedAt := some (truncMicros now) },
    .update (.browser digest) { v with decision := .denied }], .done)

/-! ### OAuth -/

structure AuthorizationRequest where
  clientID : String
  redirectURI : String
  resource : String
  scope : String
  challenge : String
  state : String
deriving DecidableEq

structure Transaction where
  id : String
  request : AuthorizationRequest
  createdAt : Int
  expiresAt : Int
deriving DecidableEq

/-- The principal is the one that the browser port has verified. -/
structure BrowserDecision where
  browserSessionReference : String
  principal : Auth.Principal
  sessionExpiresAt : Int
deriving DecidableEq

structure Code where
  digest : String
  transactionID : String
  consentID : String
  sessionID : String
  tenantID : String
  userID : String
  issuedAt : Int
  expiresAt : Int
deriving DecidableEq

structure Redemption where
  codeDigest : String
  challenge : String
  clientID : String
  redirectURI : String
  resource : String
  tokenDigest : String
deriving DecidableEq

inductive RevocationKind
  | consent | session | token
deriving DecidableEq

structure Revocation where
  tenantID : String
  userID : String
  id : String
  kind : RevocationKind
deriving DecidableEq

def tokenLifetime : Int := 10 * minute

def createOAuthTransaction (t : Transaction) : Text Commit :=
  return ([.insert (.transaction t.id)
    { clientID := t.request.clientID, redirectURI := t.request.redirectURI, resource := t.request.resource,
      scope := t.request.scope, challenge := t.request.challenge, state := t.request.state,
      createdAt := truncMicros t.createdAt, expiresAt := truncMicros t.expiresAt, completedAt := none }], .done)

/-- What a wallet sign-in rests on, as it was when the session was authenticated. -/
def AuthenticationRow.holds (a : AuthenticationRow) (t : TenantRow) (b : BindingRow) : Bool :=
  t.status == .active && b.status == .active && b.provider == externalProvider && b.chainID == chainID &&
    b.network == network && b.revokedAt.isNone && b.verifiedAt.isSome && b.verificationReference != "" &&
    b.version == a.bindingVersion && b.userID == a.userID

/-- `checkSIWESession`: a session without evidence passes. -/
def checkSIWESession (reference tenant user : String) : Text Unit := do
  let tables ← snapshot
  match tables.lookup (Key.authentication reference) with
  | none => return ()
  | some _ =>
    let tables ← snapshot
    match tables.lookup (Key.authentication reference) with
    | none => .fail Siwe.errDenied
    | some a =>
      ensure (a.tenantID == tenant && a.userID == user) Siwe.errDenied
      let t ← fetch .share (Key.tenant a.tenantID) Siwe.errDenied
      let b ← fetch .share (Key.binding a.tenantID a.bindingID) Siwe.errDenied
      ensure (a.holds t b) Siwe.errDenied

/-- The client may still be given what the transaction or code was made for. -/
def ClientRow.serves (c : ClientRow) (redirectURI scope resource : String) : Bool :=
  c.status == .active && c.clientType == "public" && c.authMethod == "none" && c.redirectURIs.contains redirectURI &&
    c.scopes.contains scope && c.resources.contains resource

/-- Locks the browser session that the decision was made in, where there is one. -/
def lockDecision (t : Transaction) (d : BrowserDecision) (k : Code) : Text (Option (String × BrowserRow)) :=
  if d.browserSessionReference = "" then return none
  else do
    let (digest, bs) ← lockBrowserReference d.browserSessionReference
    ensure (bs.state == .authenticated && bs.decision == .undecided && bs.transactionID == t.id &&
      bs.reference == k.sessionID && bs.tenantID == k.tenantID && bs.userID == k.userID &&
      bs.identityIssuer == d.principal.identityProvider && bs.subject == d.principal.providerSubject) oauthDenied
    return some (digest, bs)

/-- A decision made in a browser is timed once all rows are locked. -/
def checkDecisionTime (d : BrowserDecision) (k : Code) (browser : Option (String × BrowserRow))
    (expires sessionExpires : Int) : Text Unit :=
  match browser with
  | none => return ()
  | some (_, bs) => do
    let now ← authenticationTime oauthDenied
    ensure (now < bs.expiresAt && now < expires && now < sessionExpires && now < k.expiresAt &&
      now < d.principal.expiresAt) oauthDenied

/-- The OAuth session of the grant: the one found, or a new one. -/
def grantSession (d : BrowserDecision) (found : Option SessionRow) : SessionRow :=
  found.getD ⟨truncMicros d.sessionExpiresAt, none⟩

def grantConsent (d : BrowserDecision) (k : Code) (row : TransactionRow) (s : SessionRow) : ConsentRow :=
  { clientID := row.clientID, resource := row.resource, scope := row.scope, sessionID := k.sessionID,
    identityIssuer := d.principal.identityProvider, subject := d.principal.providerSubject,
    createdAt := truncMicros k.issuedAt,
    expiresAt := truncMicros (min (min d.sessionExpiresAt s.expiresAt) d.principal.expiresAt), revokedAt := none }

def grantCode (t : Transaction) (k : Code) (row : TransactionRow) : CodeRow :=
  { transactionID := t.id, tenantID := k.tenantID, userID := k.userID, consentID := k.consentID,
    sessionID := k.sessionID, clientID := row.clientID, redirectURI := row.redirectURI, resource := row.resource,
    scope := row.scope, challenge := row.challenge, issuedAt := truncMicros k.issuedAt,
    expiresAt := truncMicros k.expiresAt, consumedAt := none }

def grantChanges (t : Transaction) (d : BrowserDecision) (k : Code) (row : TransactionRow) (found : Option SessionRow)
    (browser : Option (String × BrowserRow)) : List Change :=
  (match found with
    | none => [.insert (.session k.tenantID k.userID k.sessionID) (grantSession d none)]
    | some _ => []) ++
  [.insert (.consent k.tenantID k.userID k.consentID) (grantConsent d k row (grantSession d found)),
    .insert (.code k.digest) (grantCode t k row), .insert (.codeTransaction t.id) k.digest,
    .update (.transaction t.id) { row with completedAt := some (truncMicros k.issuedAt) }] ++
  match browser with
  | none => []
  | some (digest, bs) => [.update (.browser digest) { bs with decision := .granted }]

@[simp] theorem mem_grantChanges {t : Transaction} {d : BrowserDecision} {k : Code} {row : TransactionRow}
    {found : Option SessionRow} {browser : Option (String × BrowserRow)} :
    change ∈ grantChanges t d k row found browser ↔
      (found = none ∧ change = .insert (.session k.tenantID k.userID k.sessionID) (grantSession d none)) ∨
      change = .insert (.consent k.tenantID k.userID k.consentID) (grantConsent d k row (grantSession d found)) ∨
      change = .insert (.code k.digest) (grantCode t k row) ∨ change = .insert (.codeTransaction t.id) k.digest ∨
      change = .update (.transaction t.id) { row with completedAt := some (truncMicros k.issuedAt) } ∨
      ∃ digest bs, browser = some (digest, bs) ∧ change = .update (.browser digest) { bs with decision := .granted } := by
  rcases found with _ | s <;> rcases browser with _ | ⟨digest, bs⟩ <;> simp [grantChanges]

def completeOAuthAuthorization (t : Transaction) (d : BrowserDecision) (k : Code) : Text Commit := do
  let browser ← lockDecision t d k
  let row ← fetch .exclusive (Key.transaction t.id) oauthDenied
  let c ← fetch .exclusive (Key.client row.clientID) oauthDenied
  ensure (row.completedAt.isNone && truncMicros k.issuedAt < row.expiresAt &&
    c.serves row.redirectURI row.scope row.resource) oauthDenied
  ensure (row.clientID == t.request.clientID && row.redirectURI == t.request.redirectURI &&
    row.resource == t.request.resource && row.scope == t.request.scope && row.challenge == t.request.challenge &&
    row.state == t.request.state && k.transactionID == t.id && k.tenantID == d.principal.tenantID &&
    k.userID == d.principal.actorID) oauthDenied
  let i ← fetch .exclusive (Key.identity k.tenantID k.userID) oauthDenied
  ensure (i.provider == d.principal.identityProvider && i.subject == d.principal.providerSubject && i.status == .active)
    oauthDenied
  checkSIWESession k.sessionID k.tenantID k.userID
  -- the insertion that does nothing on conflict, and the locking read after it
  let found ← seek .exclusive (Key.session k.tenantID k.userID k.sessionID)
  let s := grantSession d found
  ensure (s.revokedAt.isNone && truncMicros k.issuedAt < s.expiresAt) oauthDenied
  checkDecisionTime d k browser row.expiresAt s.expiresAt
  return (grantChanges t d k row found browser, .done)

def redeemToken (k : CodeRow) (u : ConsentRow) (s : SessionRow) (i : IdentityRow) (now : Int) : TokenRow :=
  { issuer := issuer, resource := k.resource, tenantID := k.tenantID, userID := k.userID, clientID := k.clientID,
    consentID := k.consentID, sessionID := k.sessionID, scope := k.scope, identityIssuer := i.provider,
    subject := i.subject, issuedAt := truncMicros now,
    expiresAt := truncMicros (min (min (now + tokenLifetime) u.expiresAt) s.expiresAt), revokedAt := none }

def redeemOAuthCode (r : Redemption) : Text Commit := do
  let k ← fetch .exclusive (Key.code r.codeDigest) oauthDenied
  let c ← fetch .exclusive (Key.client k.clientID) oauthDenied
  let u ← fetch .exclusive (Key.consent k.tenantID k.userID k.consentID) oauthDenied
  let s ← fetch .exclusive (Key.session k.tenantID k.userID k.sessionID) oauthDenied
  let i ← fetch .exclusive (Key.identity k.tenantID k.userID) oauthDenied
  let tables ← snapshot
  ensure (k.consumedAt.isNone && c.serves k.redirectURI k.scope k.resource &&
    u.clientID == k.clientID && u.resource == k.resource && u.scope == k.scope && u.sessionID == k.sessionID &&
    u.revokedAt.isNone && (tables.lookup (Key.consentWallets k.tenantID k.userID k.consentID)).isNone &&
    s.revokedAt.isNone && i.provider == u.identityIssuer && i.subject == u.subject && i.status == .active) oauthDenied
  ensure (k.challenge == r.challenge && k.redirectURI == r.redirectURI && k.clientID == r.clientID &&
    k.resource == r.resource && k.scope == readScope) oauthDenied
  checkSIWESession k.sessionID k.tenantID k.userID
  -- the clock is read after every lock is held
  let now ← authenticationTime oauthDenied
  ensure (!(now < k.issuedAt) && !(now < u.createdAt) && now < k.expiresAt && now < u.expiresAt && now < s.expiresAt)
    oauthDenied
  let token := redeemToken k u s i now
  return ([.update (.code r.codeDigest) { k with consumedAt := some (truncMicros now) },
    .insert (.token r.tokenDigest) token], .token (r.tokenDigest, token))

variable (tables : Tables)

/-- The query `ValidateOAuthAccessToken`. -/
def validateOAuthAccessToken (digest : String) (now : Int) : Option TokenRow := do
  let a ← tables.lookup (Key.token digest)
  let c ← tables.lookup (Key.client a.clientID)
  let u ← tables.lookup (Key.consent a.tenantID a.userID a.consentID)
  let s ← tables.lookup (Key.session a.tenantID a.userID a.sessionID)
  let i ← tables.lookup (Key.identity a.tenantID a.userID)
  if u.clientID == a.clientID && u.resource == a.resource && u.scope == a.scope && u.sessionID == a.sessionID &&
      i.provider == a.identityIssuer && i.subject == a.subject && a.issuer == issuer && a.resource == resource &&
      a.revokedAt.isNone && a.issuedAt ≤ now && now < a.expiresAt && c.status == .active && c.clientType == "public" &&
      c.authMethod == "none" && c.scopes.contains a.scope && c.resources.contains a.resource && u.revokedAt.isNone &&
      u.createdAt ≤ now && now < u.expiresAt &&
      (tables.lookup (Key.consentWallets a.tenantID a.userID a.consentID)).isNone && s.revokedAt.isNone &&
      now < s.expiresAt && i.status == .active then
    some a
  else none

/-- The second query of `ValidateOAuthToken`: whether there is evidence and it no longer holds. -/
def evidenceInvalid (session tenant user : String) : Bool :=
  match tables.lookup (Key.authentication session) with
  | none => false
  | some a =>
    a.tenantID != tenant || a.userID != user || (tables.lookup (Key.tenant a.tenantID)).all (·.status != .active) ||
      (tables.lookup (Key.binding a.tenantID a.bindingID)).all fun w =>
        w.status != .active || w.version != a.bindingVersion || w.userID != a.userID || w.revokedAt.isSome ||
          w.verifiedAt.isNone || w.verificationReference == ""

/-- Two statements of their own, without a transaction. -/
def validateOAuthToken (digest : String) (now : Int) : Text Commit := do
  let tables ← snapshot
  match validateOAuthAccessToken tables digest (truncMicros now) with
  | none => .fail .noRows
  | some t =>
    let tables ← snapshot
    ensure (!evidenceInvalid tables t.sessionID t.tenantID t.userID) oauthDenied
    return ([], .token (digest, t))

def revokeOAuthAuthority (r : Revocation) : Text Commit := do
  ensure (r.tenantID != "" && r.userID != "" && r.id != "") oauthDenied
  let now ← authenticationTime oauthDenied
  match r.kind with
  | .consent =>
    let u ← fetch .exclusive (Key.consent r.tenantID r.userID r.id) oauthDenied
    return ([.update (.consent r.tenantID r.userID r.id) { u with revokedAt := u.revokedAt.or (some (truncMicros now)) }],
      .done)
  | .token =>
    let a ← fetch .exclusive (Key.token r.id) oauthDenied
    ensure (a.tenantID == r.tenantID && a.userID == r.userID) oauthDenied
    return ([.update (.token r.id) { a with revokedAt := a.revokedAt.or (some (truncMicros now)) }], .done)
  | .session =>
    let s ← fetch .exclusive (Key.session r.tenantID r.userID r.id) oauthDenied
    return ([.update (.session r.tenantID r.userID r.id) { s with revokedAt := s.revokedAt.or (some (truncMicros now)) }],
      .done)

/-! ### Wallet sign-in -/

/-- The bindings of one address in any spelling, with their identifiers. -/
def bindingsOf (tenant address : String) : List (String × BindingRow) :=
  tables.entries.filterMap fun
    | ⟨.binding owner id, b⟩ =>
      if owner = tenant ∧ toLower b.address = toLower address ∧ b.chainID = chainID ∧ b.network = network then some (id, b)
      else none
    | _ => none

/-- How many challenges the browser session was given. -/
def challengeCount (reference : String) : Nat :=
  tables.entries.countP fun
    | ⟨.challenge _, c⟩ => c.sessionReference == reference
    | _ => false

/-- `hasVerifiedEnrollment`. -/
def hasVerifiedEnrollment (tenant user binding : String) : Bool :=
  match tables.lookup (Key.approval tenant binding), tables.lookup (Key.binding tenant binding) with
  | some a, some b =>
    a.userID == user && (tables.lookup (Key.proof a.challengeID)).any fun p =>
      b.verificationReference == "enrollment:" ++ a.challengeID && b.version == p.bindingVersion + 1
  | _, _ => false

def siwePending (v : BrowserRow) (r : Siwe.Request) : Bool :=
  v.state == .pending && v.decision == .undecided && v.revokedAt.isNone && v.csrfDigest == r.csrfDigest

/-- The statuses under which `IssueSIWE` goes on. -/
def mayIssue (tenant : TenantStatus) (binding : Wallet.BindingStatus) (identity : Auth.IdentityStatus) : Except Error Unit :=
  if binding = .revoked ∨ identity = .revoked then .error Siwe.errAccountRevoked
  else if ¬ (identity = .unknown ∨ identity = .active) then .error Siwe.errEnrollmentRequired
  else if binding = .active ∧ (tenant ≠ .active ∨ identity ≠ .active) then .error Siwe.errEnrollmentRequired
  else .ok ()

/-- The external binding of the address and its owner, as `IssueSIWE` reads them. -/
def enrolled (tenant address : String) : Option (String × BindingRow × IdentityRow) := do
  let (id, b) ← (bindingsOf tables tenant address).find? fun (_, b) => b.provider == externalProvider
  let i ← tables.lookup (Key.identity tenant b.userID)
  return (id, b, i)

def issueSIWE (curve : Siwe.Curve) (r : Siwe.Request) (id nonce : String) : Text Commit := do
  let v ← lockBrowser r.sessionDigest
  ensure (siwePending v r) Siwe.errDenied
  let t ← lockBrowserTransaction v.transactionID
  let tenant ← fetch .exclusive (Key.tenant r.tenantID) Siwe.errEnrollmentRequired
  ensure (tenant.status != .revoked) Siwe.errAccountRevoked
  let tables ← snapshot
  match enrolled tables r.tenantID r.address with
  | none => .fail Siwe.errEnrollmentRequired
  | some (binding, b, i) =>
    match mayIssue tenant.status b.status i.status with
    | .error refusal => .fail refusal
    | .ok () =>
      let tables ← snapshot
      ensure (b.status != .active || !r.requireEnrollment || hasVerifiedEnrollment tables r.tenantID b.userID binding)
        Siwe.errEnrollmentRequired
      let tables ← snapshot
      ensure (challengeCount tables v.reference < 3) Siwe.errDenied
      let now ← dbWallTime
      ensure (now < v.expiresAt && now < t.expiresAt) Siwe.errDenied
      let c : Siwe.Challenge :=
        { id := id, nonce := nonce, message := "", address := r.address, sessionReference := v.reference,
          transactionID := v.transactionID, clientID := t.clientID, tenantID := r.tenantID,
          purpose := if b.status = .pending then .enroll else .authenticate,
          issuedAt := now, expiresAt := min (min (now + Siwe.lifetime) t.expiresAt) v.expiresAt }
      match Siwe.message curve c with
      | none => .fail Siwe.errDenied
      | some message =>
        return ([.insert (.challenge id)
            { nonce := nonce, message := message, address := c.address, tenantID := c.tenantID,
              sessionReference := c.sessionReference, transactionID := c.transactionID, clientID := c.clientID,
              issuedAt := c.issuedAt, expiresAt := c.expiresAt, purpose := c.purpose, consumedAt := none },
          .insert (.nonce nonce) id], .challenge { c with message := message })

def ChallengeRow.challenge (c : ChallengeRow) (id : String) : Siwe.Challenge :=
  { id := id, nonce := c.nonce, message := c.message, address := c.address, sessionReference := c.sessionReference,
    transactionID := c.transactionID, clientID := c.clientID, tenantID := c.tenantID, purpose := c.purpose,
    issuedAt := c.issuedAt, expiresAt := c.expiresAt }

/-- The binding may carry the purpose of the challenge. -/
def BindingRow.eligible (b : BindingRow) (purpose : Purpose) (now : Int) : Bool :=
  b.provider == externalProvider && b.revokedAt.isNone &&
    ((b.status == .active && (b.verifiedAt.any (· ≤ now)) && b.verificationReference != "") ||
      (purpose == .enroll && b.status == .pending))

/-- Locks what the challenge's address belongs to: the identity, the tenant and the
only binding of the address. -/
def lockOwner (r : Siwe.Request) (c : ChallengeRow) : Text (IdentityRow × String × BindingRow) := do
  let tables ← snapshot
  match bindingsOf tables r.tenantID c.address with
  | [(_, resolved)] =>
    let i ← fetch .exclusive (Key.identity r.tenantID resolved.userID) Siwe.errDenied
    ensure (i.status == .active || (c.purpose == .enroll && i.status == .unknown)) Siwe.errDenied
    let t ← fetch .exclusive (Key.tenant r.tenantID) Siwe.errDenied
    ensure (t.status == .active || (c.purpose == .enroll && t.status == .inactive)) Siwe.errDenied
    let tables ← snapshot
    match bindingsOf tables r.tenantID c.address with
    | [(binding, _)] =>
      let b ← fetch .exclusive (Key.binding r.tenantID binding) Siwe.errDenied
      let now ← dbWallTime
      ensure (b.eligible c.purpose now && b.userID == resolved.userID) Siwe.errDenied
      return (i, binding, b)
    | _ => .fail Siwe.errDenied
  | _ => .fail Siwe.errDenied

def consumeChallenge (id : String) (c : ChallengeRow) (now : Int) : Change :=
  .update (.challenge id) { c with consumedAt := some now }

def enrollmentProof (r : Siwe.Request) (id : String) (c : ChallengeRow) (binding : String) (b : BindingRow) (now : Int) :
    Change :=
  .insert (.proof id)
    { tenantID := r.tenantID, userID := b.userID, bindingID := binding, bindingVersion := b.version, verifiedAt := now,
      messageDigest := Sha256.hexText (Sha256.sum256 (bytes c.message)) }

def authenticatedSession (r : Siwe.Request) (id : String) (v : BrowserRow) (i : IdentityRow) (b : BindingRow)
    (next : Siwe.Rotation) (now : Int) : BrowserSession :=
  { digest := next.digest, csrfHash := next.csrfHash, reference := next.reference, transactionID := v.transactionID,
    state := .authenticated, decision := .undecided, tenantID := r.tenantID, userID := b.userID, issuer := i.provider,
    subject := i.subject, evidence := "siwe:" ++ id, createdAt := now, expiresAt := now + 30 * minute }

def authenticationChanges (r : Siwe.Request) (id binding : String) (b : BindingRow) (next : Siwe.Rotation) (now : Int) :
    List Change :=
  [.insert (.authentication next.reference)
    { challengeID := id, tenantID := r.tenantID, userID := b.userID, bindingID := binding, bindingVersion := b.version,
      authenticatedAt := now },
    .insert (.authenticatedChallenge id) next.reference]

@[simp] theorem mem_authenticationChanges {r : Siwe.Request} {id binding : String} {b : BindingRow}
    {next : Siwe.Rotation} {now : Int} : change ∈ authenticationChanges r id binding b next now ↔
      change = .insert (.authentication next.reference)
        { challengeID := id, tenantID := r.tenantID, userID := b.userID, bindingID := binding,
          bindingVersion := b.version, authenticatedAt := now } ∨
      change = .insert (.authenticatedChallenge id) next.reference := by
  simp [authenticationChanges]

def finalizeSIWE (curve : Siwe.Curve) (r : Siwe.Request) (id signature : String) (next : Siwe.Rotation) : Text Commit := do
  let v ← lockBrowser r.sessionDigest
  ensure (siwePending v r) Siwe.errDenied
  let c ← fetch .exclusive (Key.challenge id) Siwe.errDenied
  ensure (c.consumedAt.isNone && c.sessionReference == v.reference && c.transactionID == v.transactionID &&
    c.tenantID == r.tenantID) Siwe.errDenied
  let t ← lockBrowserTransaction v.transactionID
  ensure (t.clientID == c.clientID) Siwe.errDenied
  let (i, binding, b) ← lockOwner r c
  let now ← dbWallTime
  ensure (Siwe.validTime (c.challenge id) now && now < v.expiresAt && now < t.expiresAt) Siwe.errDenied
  ensure (Siwe.message curve (c.challenge id) == some c.message) Siwe.errDenied
  let tables ← snapshot
  ensure (c.purpose == .enroll || !r.requireEnrollment || hasVerifiedEnrollment tables r.tenantID b.userID binding)
    Siwe.errDenied
  ensure (Siwe.verify curve c.message c.address signature) Siwe.errDenied
  let now ← dbWallTime
  ensure (Siwe.validTime (c.challenge id) now && now < v.expiresAt && now < t.expiresAt) Siwe.errDenied
  ensure (next.digest != r.sessionDigest && next.reference != v.reference && next.digest != "" && next.csrfHash != "" &&
    next.reference != "") Siwe.errDenied
  match c.purpose with
  | .enroll => return (consumeChallenge id c now :: [enrollmentProof r id c binding b now], .enrollmentPending)
  | .authenticate =>
    let revoked ← revokeBrowser r.sessionDigest v now
    return (consumeChallenge id c now :: revoked ++ insertBrowser (authenticatedSession r id v i b next now) ++
      authenticationChanges r id binding b next now, .done)

/-! ### The system -/

inductive Call
  | createTransaction (t : Transaction)
  | complete (t : Transaction) (d : BrowserDecision) (k : Code)
  | redeem (r : Redemption)
  | validate (digest : String) (now : Int)
  | revoke (r : Revocation)
  | createBrowser (v : BrowserSession)
  | rotate (digest proof : String) (next : BrowserSession)
  | logout (digest proof : String)
  | deny (digest proof : String)
  | issue (r : Siwe.Request) (id nonce : String)
  | finalize (r : Siwe.Request) (id signature : String) (next : Siwe.Rotation)

def text (curve : Siwe.Curve) : Call → Text Commit
  | .createTransaction t => createOAuthTransaction t
  | .complete t d k => completeOAuthAuthorization t d k
  | .redeem r => redeemOAuthCode r
  | .validate digest now => validateOAuthToken digest now
  | .revoke r => revokeOAuthAuthority r
  | .createBrowser v => createBrowserSession v
  | .rotate digest proof next => rotateBrowserSession digest proof next
  | .logout digest proof => revokeBrowserSession digest proof
  | .deny digest proof => denyBrowserConsent digest proof
  | .issue r id nonce => issueSIWE curve r id nonce
  | .finalize r id signature next => finalizeSIWE curve r id signature next

/-- The tables that the owner and the onboarding functions write. -/
def Key.administrative : Key → Bool
  | .client _ => true
  | .tenant _ => true
  | .identity _ _ => true
  | .binding _ _ => true
  | .consentWallets _ _ _ => true
  | .approval _ _ => true
  | _ => false

/-- No statement takes a tenant that has left INACTIVE back to it. -/
def onward : (key : Key) → Row key → Row key → Bool
  | .tenant _, old, new => new.status != .inactive || old.status == .inactive
  | _, _, _ => true

/-- What else changes the tables: the registration and revocation of clients,
`admin_onboarding`, `admin_activate_wallet` and the repositories of identities and
wallet bindings, as changes of single rows, and `CleanupBrowserSessions`, whatever its
clock says. -/
inductive Administers (tables : Tables) : List Change → Prop
  | insert (key : Key) (row : Row key) (owned : key.administrative = true) : Administers tables [.insert key row]
  | update (key : Key) (old row : Row key) (owned : key.administrative = true) (found : tables.lookup key = some old)
      (moves : onward key old row = true) : Administers tables [.update key row]
  | cleanup (digest : String) (row : BrowserRow) (found : tables.lookup (Key.browser digest) = some row)
      (pending : row.state = .pending) (unused : challengeCount tables row.reference = 0) :
      Administers tables [.delete (.browser digest), .delete (.browserReference row.reference)]

def system (curve : Siwe.Curve) : System Row Error Call Answer where
  lawful := lawful
  text := text curve
  administers := Administers

end WizPay.Authority
