import WizPay.Auth.Request
import WizPay.Lib.RowLocks
import WizPay.Lib.Sha256
import WizPay.Wallet.Binding

/-!
# The tables of the authorization server

The tables of `db/migrations/000008` to `000012` with their CHECK constraints,
references and triggers, as far as a row of them is read. A UNIQUE index is a table of
its own, from the indexed column to the primary key. A nullable text column that is
written with `NULLIF` and read with `COALESCE` is a text, a `timestamptz` column an
instant cut to microseconds.
-/
namespace WizPay.Authority

open GoText GoTime RowLocks

inductive ClientStatus
  | active | revoked
deriving DecidableEq

structure ClientRow where
  name : String
  clientType : String
  authMethod : String
  status : ClientStatus
  redirectURIs : List String
  scopes : List String
  resources : List String
deriving DecidableEq

structure TransactionRow where
  clientID : String
  redirectURI : String
  resource : String
  scope : String
  challenge : String
  state : String
  createdAt : Int
  expiresAt : Int
  completedAt : Option Int
deriving DecidableEq

structure SessionRow where
  expiresAt : Int
  revokedAt : Option Int
deriving DecidableEq

structure ConsentRow where
  clientID : String
  resource : String
  scope : String
  sessionID : String
  identityIssuer : String
  subject : String
  createdAt : Int
  expiresAt : Int
  revokedAt : Option Int
deriving DecidableEq

structure CodeRow where
  transactionID : String
  tenantID : String
  userID : String
  consentID : String
  sessionID : String
  clientID : String
  redirectURI : String
  resource : String
  scope : String
  challenge : String
  issuedAt : Int
  expiresAt : Int
  consumedAt : Option Int
deriving DecidableEq

structure TokenRow where
  issuer : String
  resource : String
  tenantID : String
  userID : String
  clientID : String
  consentID : String
  sessionID : String
  scope : String
  identityIssuer : String
  subject : String
  issuedAt : Int
  expiresAt : Int
  revokedAt : Option Int
deriving DecidableEq

inductive BrowserState
  | pending | authenticated
deriving DecidableEq

/-- `undecided` is OPEN. -/
inductive Decision
  | undecided | granted | denied
deriving DecidableEq

structure BrowserRow where
  csrfDigest : String
  reference : String
  transactionID : String
  state : BrowserState
  decision : Decision
  tenantID : String
  userID : String
  identityIssuer : String
  subject : String
  evidence : String
  createdAt : Int
  expiresAt : Int
  revokedAt : Option Int
deriving DecidableEq

inductive Purpose
  | authenticate | enroll
deriving DecidableEq

/-- The domain, the URI and the chain of a challenge are fixed by CHECK constraints. -/
structure ChallengeRow where
  nonce : String
  message : String
  address : String
  tenantID : String
  sessionReference : String
  transactionID : String
  clientID : String
  issuedAt : Int
  expiresAt : Int
  purpose : Purpose
  consumedAt : Option Int
deriving DecidableEq

structure AuthenticationRow where
  challengeID : String
  tenantID : String
  userID : String
  bindingID : String
  bindingVersion : Nat
  authenticatedAt : Int
deriving DecidableEq

inductive TenantStatus
  | inactive | active | revoked
deriving DecidableEq

structure TenantRow where
  status : TenantStatus
deriving DecidableEq

structure IdentityRow where
  provider : String
  subject : String
  status : Auth.IdentityStatus
  lifecycleVersion : Nat
deriving DecidableEq

structure BindingRow where
  version : Nat
  userID : String
  provider : String
  address : String
  chainID : String
  network : String
  status : Wallet.BindingStatus
  verificationReference : String
  verifiedAt : Option Int
  revokedAt : Option Int
deriving DecidableEq

structure ProofRow where
  tenantID : String
  userID : String
  bindingID : String
  bindingVersion : Nat
  verifiedAt : Int
  messageDigest : String
deriving DecidableEq

structure ApprovalRow where
  userID : String
  challengeID : String
deriving DecidableEq

/-- The primary keys. -/
inductive Key
  | client (id : String)
  | transaction (id : String)
  | session (tenant user id : String)
  | consent (tenant user id : String)
  | consentWallets (tenant user consent : String)
  | code (digest : String)
  | codeTransaction (transaction : String)
  | token (digest : String)
  | browser (digest : String)
  | browserReference (reference : String)
  | challenge (id : String)
  | nonce (nonce : String)
  | authentication (reference : String)
  | authenticatedChallenge (challenge : String)
  | tenant (id : String)
  | identity (tenant user : String)
  | binding (tenant id : String)
  | proof (challenge : String)
  | approval (tenant binding : String)
deriving DecidableEq

@[reducible] def Row : Key → Type
  | .client _ => ClientRow
  | .transaction _ => TransactionRow
  | .session _ _ _ => SessionRow
  | .consent _ _ _ => ConsentRow
  | .consentWallets _ _ _ => List String
  | .code _ => CodeRow
  | .codeTransaction _ => String
  | .token _ => TokenRow
  | .browser _ => BrowserRow
  | .browserReference _ => String
  | .challenge _ => ChallengeRow
  | .nonce _ => String
  | .authentication _ => AuthenticationRow
  | .authenticatedChallenge _ => String
  | .tenant _ => TenantRow
  | .identity _ _ => IdentityRow
  | .binding _ _ => BindingRow
  | .proof _ => ProofRow
  | .approval _ _ => ApprovalRow

abbrev Tables := AList Row
abbrev Change := Write Row

def issuer : String := "https://connect.wizpay.xyz"
def resource : String := "https://mcp.wizpay.xyz/mcp"
def readScope : String := "mcp:read"
def externalProvider : String := "EXTERNAL_EVM"
def chainID : String := "5042"
def network : String := "MAINNET"

/-! ### Constraints -/

/-- `^[A-Za-z0-9_-]{43}$`. -/
def isDigest (text : String) : Bool :=
  text.toList.length == 43 && text.toList.all fun c => c.isAlphanum || c == '_' || c == '-'

/-- `^[0-9a-f]{64}$`. -/
def isLowerHex (text : String) : Bool :=
  text.toList.length == 64 && text.toList.all fun c => Contracts.isHexCharacter c && !isUpperLetter c

/-- `^0x[0-9a-fA-F]{40}$`. -/
def isAddress (text : String) : Bool :=
  match text.toList with
  | '0' :: 'x' :: digits => digits.length == 40 && digits.all Contracts.isHexCharacter
  | _ => false

/-- A period that ends after it begins, and lasts at most so long. -/
def lasts (created expires lifetime : Int) : Bool := created < expires && expires ≤ created + lifetime

def BrowserRow.check (r : BrowserRow) : Bool :=
  match r.state with
  | .pending =>
    r.tenantID == "" && r.userID == "" && r.identityIssuer == "" && r.subject == "" && r.evidence == "" &&
      r.decision != .granted && lasts r.createdAt r.expiresAt (5 * minute)
  | .authenticated =>
    r.tenantID != "" && r.userID != "" && r.identityIssuer != "" && r.subject != "" && r.evidence != "" &&
      r.evidence.length ≤ 256 && lasts r.createdAt r.expiresAt (30 * minute)

/-- The CHECK constraints. -/
def checks : (key : Key) → Row key → Bool
  | .client _, r =>
    r.clientType == "public" && r.authMethod == "none" && 1 ≤ r.redirectURIs.length && r.redirectURIs.length ≤ 8 &&
      r.scopes == [readScope] && r.resources == [resource]
  | .transaction _, r =>
    r.resource == resource && r.scope == readScope && isDigest r.challenge && r.state.length ≤ 512 &&
      lasts r.createdAt r.expiresAt (5 * minute)
  | .consent _ _ _, r => r.resource == resource && r.scope == readScope && r.createdAt < r.expiresAt
  | .code digest, r => isDigest digest && lasts r.issuedAt r.expiresAt (2 * minute)
  | .token digest, r => isDigest digest && r.issuer == issuer && lasts r.issuedAt r.expiresAt (10 * minute)
  | .browser digest, r => isDigest digest && isDigest r.csrfDigest && r.check
  | .challenge id, r =>
    isLowerHex id && isLowerHex r.nonce && 1 ≤ len r.message && len r.message ≤ 2048 && isAddress r.address &&
      lasts r.issuedAt r.expiresAt (2 * minute) &&
      r.consumedAt.all fun consumed => r.issuedAt ≤ consumed && consumed < r.expiresAt
  | .binding _ _, r => 0 < r.version
  | .proof _, r => isLowerHex r.messageDigest
  | _, _ => true

/-- What `enforce_enrollment_proof_boundary` looks for. -/
def ProofRow.evidenced (tables : Tables) (challenge : String) (r : ProofRow) : Bool :=
  match tables.lookup (Key.challenge challenge), tables.lookup (Key.binding r.tenantID r.bindingID) with
  | some c, some b =>
    c.purpose == .enroll && c.consumedAt == some r.verifiedAt && r.tenantID == c.tenantID && r.userID == b.userID &&
      toLower b.address == toLower c.address && r.bindingVersion == b.version && b.status == .pending &&
      b.provider == externalProvider && b.chainID == chainID && b.network == network &&
      r.messageDigest == Sha256.hexText (Sha256.sum256 (bytes c.message))
  | _, _ => false

/-- The references of a new row, and what the triggers before an insertion look for. -/
def references (tables : Tables) : (key : Key) → Row key → Bool
  | .transaction _, r => (tables.lookup (.client r.clientID)).isSome
  | .session tenant user _, _ => (tables.lookup (.identity tenant user)).isSome
  | .consent tenant user _, r =>
    (tables.lookup (.client r.clientID)).isSome && (tables.lookup (.session tenant user r.sessionID)).isSome
  | .consentWallets tenant user consent, _ => (tables.lookup (.consent tenant user consent)).isSome
  | .code _, r =>
    ((tables.lookup (.consent r.tenantID r.userID r.consentID)).any fun u =>
      u.clientID == r.clientID && u.resource == r.resource && u.scope == r.scope && u.sessionID == r.sessionID) &&
    (tables.lookup (.transaction r.transactionID)).any fun t =>
      t.clientID == r.clientID && t.redirectURI == r.redirectURI && t.resource == r.resource && t.scope == r.scope &&
        t.challenge == r.challenge
  | .token _, r =>
    (tables.lookup (.consent r.tenantID r.userID r.consentID)).any fun u =>
      u.clientID == r.clientID && u.resource == r.resource && u.scope == r.scope && u.sessionID == r.sessionID &&
        u.identityIssuer == r.identityIssuer && u.subject == r.subject
  | .browser _, r =>
    (tables.lookup (.transaction r.transactionID)).isSome &&
      (r.state == .pending || (tables.lookup (.identity r.tenantID r.userID)).isSome)
  | .challenge _, r =>
    (tables.lookup (.tenant r.tenantID)).isSome && (tables.lookup (.browserReference r.sessionReference)).isSome &&
      (tables.lookup (.transaction r.transactionID)).isSome && (tables.lookup (.client r.clientID)).isSome
  | .authentication reference, r =>
    (tables.lookup (.browserReference reference)).isSome && (tables.lookup (.challenge r.challengeID)).isSome &&
      (tables.lookup (.identity r.tenantID r.userID)).isSome && (tables.lookup (.binding r.tenantID r.bindingID)).isSome
  | .proof challenge, r => r.evidenced tables challenge
  | .identity tenant _, _ => (tables.lookup (.tenant tenant)).isSome
  | .binding tenant _, r => (tables.lookup (.identity tenant r.userID)).isSome
  | .approval tenant binding, r =>
    (tables.lookup (.proof r.challengeID)).isSome && (tables.lookup (.identity tenant r.userID)).isSome &&
      (tables.lookup (.binding tenant binding)).isSome
  | _, _ => true

/-- A marker that is set once. -/
def terminal (old new : Option Int) : Bool := old.isNone || new == old

/-- What the triggers before an update let pass. -/
def keeps : (key : Key) → Row key → Row key → Bool
  | .client _, old, new => { new with status := old.status } == old && (old.status != .revoked || new.status == .revoked)
  | .transaction _, old, new =>
    { new with completedAt := old.completedAt } == old && terminal old.completedAt new.completedAt
  | .session _ _ _, old, new => { new with revokedAt := old.revokedAt } == old && terminal old.revokedAt new.revokedAt
  | .consent _ _ _, old, new => { new with revokedAt := old.revokedAt } == old && terminal old.revokedAt new.revokedAt
  | .code _, old, new => { new with consumedAt := old.consumedAt } == old && terminal old.consumedAt new.consumedAt
  | .token _, old, new => { new with revokedAt := old.revokedAt } == old && terminal old.revokedAt new.revokedAt
  | .browser _, old, new =>
    { new with decision := old.decision, revokedAt := old.revokedAt } == old &&
      (old.decision == .undecided || new.decision == old.decision) && terminal old.revokedAt new.revokedAt
  | .challenge _, old, new => { new with consumedAt := old.consumedAt } == old && terminal old.consumedAt new.consumedAt
  | .tenant _, old, new => old.status != .revoked || new.status == .revoked
  | .identity _ _, old, new =>
    new.provider == old.provider && new.subject == old.subject && (old.status != .revoked || new.status == .revoked) &&
      (new.status == old.status || new.lifecycleVersion == old.lifecycleVersion + 1)
  | .binding _ _, old, new =>
    new.userID == old.userID && new.provider == old.provider && new.address == old.address &&
      new.chainID == old.chainID && new.network == old.network && new.version == old.version + 1 &&
      (old.status != .revoked || (new.status == .revoked && new.revokedAt == old.revokedAt))
  | _, _, _ => false

/-- Rows are deleted from no other table. -/
def Key.deletable : Key → Bool
  | .browser _ => true
  | .browserReference _ => true
  | _ => false

/-- Which changes the database accepts. -/
def lawful (tables : Tables) : Change → Bool
  | .insert key row => (tables.lookup key).isNone && checks key row && references tables key row
  | .update key row => (tables.lookup key).any (keeps key · row) && checks key row
  | .delete key => key.deletable

theorem lawful_insert {tables : Tables} {key : Key} {row : Row key} (allowed : lawful tables (.insert key row) = true) :
    tables.lookup key = none ∧ checks key row = true ∧ references tables key row = true := by
  simpa [lawful, and_assoc] using allowed

theorem lawful_update {tables : Tables} {key : Key} {row : Row key} (allowed : lawful tables (.update key row) = true) :
    ∃ old, tables.lookup key = some old ∧ keeps key old row = true ∧ checks key row = true := by
  simp only [lawful, Bool.and_eq_true, Option.any_eq_true] at allowed
  obtain ⟨⟨old, found, kept⟩, checked⟩ := allowed
  exact ⟨old, found, kept, checked⟩

section Lasting

variable {key : Key} {tables after : Tables} {changes : List Change}

/-- **What the triggers protect lasts**: a property of a row that no update may take
away holds until the row is deleted. -/
theorem lasting_undeleted (undeleted : Write.delete key ∉ changes) {P : Row key → Prop}
    (protects : ∀ old new, keeps key old new = true → P old → P new)
    (applied : applyAll lawful tables changes = some after) {row : Row key} (found : tables.lookup key = some row)
    (holds : P row) : ∃ row, after.lookup key = some row ∧ P row := by
  refine applyAll_keeps (P := fun t => ∃ row, t.lookup key = some row ∧ P row) applied ?_ ⟨row, found, holds⟩
  rintro t change listed allowed ⟨row, found, holds⟩
  by_cases same : key = change.key
  · cases change with
    | insert k new =>
      change key = k at same
      subst same
      rw [(lawful_insert allowed).1] at found
      cases found
    | update k new =>
      change key = k at same
      subst same
      obtain ⟨old, present, kept, _⟩ := lawful_update allowed
      cases found.symm.trans present
      exact ⟨new, by simp, protects row new kept holds⟩
    | delete k =>
      change key = k at same
      subst same
      exact absurd listed undeleted
  · exact ⟨row, (lookup_write_of_ne same).trans found, holds⟩

theorem undeleted_of_fixed (fixed : key.deletable = false) (applied : applyAll lawful tables changes = some after) :
    Write.delete key ∉ changes := by
  induction changes generalizing tables with
  | nil => simp
  | cons change rest ih =>
    obtain ⟨allowed, applied⟩ := applyAll_cons.mp applied
    intro member
    rcases List.mem_cons.mp member with rfl | later
    · rw [lawful, fixed] at allowed
      cases allowed
    · exact ih applied later

/-- Forever, in every table from which nothing is deleted. -/
theorem lasting (fixed : key.deletable = false) {P : Row key → Prop}
    (protects : ∀ old new, keeps key old new = true → P old → P new)
    (applied : applyAll lawful tables changes = some after) {row : Row key} (found : tables.lookup key = some row)
    (holds : P row) : ∃ row, after.lookup key = some row ∧ P row :=
  lasting_undeleted (undeleted_of_fixed fixed applied) protects applied found holds

theorem lookup_none_of_insert (undeleted : Write.delete key ∉ changes)
    (applied : applyAll lawful tables changes = some after) {row : Row key} (member : Write.insert key row ∈ changes) :
    tables.lookup key = none := by
  obtain ⟨before, rest, rfl⟩ := List.append_of_mem member
  cases present : tables.lookup key with
  | none => rfl
  | some old =>
    -- a row that is there stays until the insertion
    obtain ⟨mid, first, second⟩ := applyAll_append.mp applied
    have kept := lasting_undeleted (P := fun _ => True)
      (fun listed => undeleted (List.mem_append_left _ listed)) (fun _ _ _ _ => trivial) first present trivial
    obtain ⟨row, found, _⟩ := kept
    rw [(lawful_insert (applyAll_cons.mp second).1).1] at found
    cases found

/-- What the triggers protect holds at the end of a row that has been written with it. -/
theorem lasting_of_written (undeleted : Write.delete key ∉ changes) {P : Row key → Prop}
    (protects : ∀ old new, keeps key old new = true → P old → P new)
    (applied : applyAll lawful tables changes = some after) {row : Row key}
    (member : Write.insert key row ∈ changes ∨ Write.update key row ∈ changes) (holds : P row) :
    ∃ row, after.lookup key = some row ∧ P row := by
  obtain ⟨change, listed, written⟩ : ∃ change ∈ changes, ∀ mid : Tables, (write mid change).lookup key = some row := by
    rcases member with inserted | updated
    · exact ⟨_, inserted, fun mid => lookup_write_insert mid key row⟩
    · exact ⟨_, updated, fun mid => lookup_write_update mid key row⟩
  obtain ⟨before, rest, rfl⟩ := List.append_of_mem listed
  obtain ⟨mid, _, second⟩ := applyAll_append.mp applied
  obtain ⟨_, second⟩ := applyAll_cons.mp second
  exact lasting_undeleted (fun listed => undeleted (by simp [listed])) protects second (written mid) holds

/-- Rows of tables that know no update stay as they are. -/
theorem unchanged_lasts (undeleted : Write.delete key ∉ changes) (immutable : ∀ old new, keeps key old new = false)
    (applied : applyAll lawful tables changes = some after) {row : Row key} (found : tables.lookup key = some row) :
    after.lookup key = some row := by
  obtain ⟨row', present, rfl⟩ := lasting_undeleted (P := fun new => new = row) undeleted
    (fun old new kept => by rw [immutable] at kept; cases kept) applied found rfl
  exact present

theorem not_updated (immutable : ∀ old new, keeps key old new = false)
    (applied : applyAll lawful tables changes = some after) {row : Row key} : Write.update key row ∉ changes := by
  intro member
  obtain ⟨before, rest, rfl⟩ := List.append_of_mem member
  obtain ⟨mid, _, second⟩ := applyAll_append.mp applied
  obtain ⟨old, _, kept, _⟩ := lawful_update (applyAll_cons.mp second).1
  rw [immutable] at kept
  cases kept

theorem lookup_of_insert (undeleted : Write.delete key ∉ changes) (immutable : ∀ old new, keeps key old new = false)
    (applied : applyAll lawful tables changes = some after) {row : Row key} (member : Write.insert key row ∈ changes) :
    after.lookup key = some row := by
  obtain ⟨row', found, rfl⟩ := lasting_of_written (P := fun new => new = row) undeleted
    (fun old new kept => by rw [immutable] at kept; cases kept) applied (.inl member) rfl
  exact found

end Lasting

theorem terminal_isSome {old new : Option Int} (kept : terminal old new = true) (set : old.isSome = true) :
    new.isSome = true := by
  cases old with
  | none => cases set
  | some at' =>
    obtain rfl : new = some at' := by simpa [terminal] using kept
    rfl

end WizPay.Authority
