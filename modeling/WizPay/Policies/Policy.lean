import WizPay.Intents.Types
import WizPay.Lib.GoSort
import WizPay.Policies.Types

/-!
# Policies

`types.go`, `rules.go`, `policy.go`, `lifecycle.go` and `restore.go` of
`internal/policies`. The accessors `Scope` and `Rules` normalise what the constructor
normalised already, so they are the fields here.
-/
namespace WizPay.Policies

open Checks GoText GoTime GoSort Intents

def maxPolicyTextLength : Nat := 256

def maxRules : Nat := 100

/-- `(1<<63 - 1) / 1_000_000_000`. -/
def maxDurationSeconds : Nat := 9223372036

def invalidPolicy (cause : Error) : Error := .wrap .policyInvalid "Policy is invalid." false true true cause

def validateText (name value : String) : Except Error Unit := do
  rejectIf (value = "" ∨ trimSpace value ≠ value)
    (.text s!"{name} is required and must not contain surrounding whitespace")
  rejectIf (len value > maxPolicyTextLength) (.text s!"{name} exceeds {maxPolicyTextLength} characters")
  rejectIf (hasControl value = true) (.text s!"{name} contains control characters")

def Decision.violationDecision : Decision → Bool
  | .deny | .requireReview => true
  | .allow => false

/-- The loop of the allowlist checks: every value passes, and none repeats the key of an earlier one. -/
def validateEach {α : Type} (check : α → Except Error Unit) (key : α → String) (duplicate : α → String) :
    List String → List α → Except Error Unit
  | _, [] => .ok ()
  | seen, value :: rest => do
    check value
    rejectIf (key value ∈ seen) (.text (duplicate value))
    validateEach check key duplicate (key value :: seen) rest

/-! ### Scopes -/

structure Scope where
  userID : String
  walletBindingID : String
  intentTypes : List IntentType
deriving DecidableEq

namespace Scope

def validate (s : Scope) : Except Error Unit := do
  validateText "policy user ID" s.userID
  checkIf (s.walletBindingID ≠ "") (validateText "policy wallet binding ID" s.walletBindingID)
  validateEach (fun kind => rejectIf (kind.valid = false) (.text s!"invalid scoped intent type {quote kind.text}"))
    IntentType.text (fun kind => s!"duplicate scoped intent type {quote kind.text}") [] s.intentTypes

/-- `normalizeScope`. -/
def normalize (s : Scope) : Scope :=
  { userID := trimSpace s.userID, walletBindingID := trimSpace s.walletBindingID,
    intentTypes := sortBy IntentType.text s.intentTypes }

/-- No listed type means every type. -/
def includes (s : Scope) (kind : IntentType) : Bool :=
  s.intentTypes.isEmpty || contains IntentType.text s.intentTypes kind.text

end Scope

/-! ### Tokens -/

/-- A token without its symbol, which never decides which token it is. -/
structure TokenReference where
  chainID : String
  standard : String
  address : String
  decimals : Nat
deriving DecidableEq

namespace TokenReference

def validate (t : TokenReference) : Except Error Unit := do
  validateChainID t.chainID
  validateText "token standard" t.standard
  validateText "token address" t.address
  rejectIf (t.decimals > 36) (.text "token decimals cannot exceed 36")

def key (t : TokenReference) : String :=
  t.chainID ++ "\x00" ++ t.standard ++ "\x00" ++ Contracts.normalizeAddress t.address ++ "\x00" ++ toString t.decimals

end TokenReference

def tokenReference (token : Token) : TokenReference :=
  ⟨token.chainID, token.standard, token.address, token.decimals⟩

/-! ### Rules -/

structure SpendingLimitRule where
  intentTypes : List IntentType
  token : TokenReference
  maximum : Amount
deriving DecidableEq

structure ExpirationRule where
  maxLifetimeSeconds : Nat
  minimumRemainingSeconds : Nat
deriving DecidableEq

structure Rule where
  ruleID : String
  onViolation : Decision
  spendingLimit : Option SpendingLimitRule := none
  operationAllowlist : Option (List IntentType) := none
  chainAllowlist : Option (List String) := none
  tokenAllowlist : Option (List TokenReference) := none
  recipient : Option (List String) := none
  expiration : Option ExpirationRule := none
deriving DecidableEq

def validateIntentTypes (values : List IntentType) : Except Error Unit := do
  rejectIf (values = []) (.text "intent type list cannot be empty")
  validateEach (fun kind => rejectIf (kind.valid = false) (.text s!"invalid intent type {quote kind.text}"))
    IntentType.text (fun kind => s!"duplicate intent type {quote kind.text}") [] values

def validateChains (values : List String) : Except Error Unit := do
  rejectIf (values = []) (.text "chain allowlist cannot be empty")
  validateEach validateChainID id (fun value => s!"duplicate chain {quote value}") [] values

def validateTokens (values : List TokenReference) : Except Error Unit := do
  rejectIf (values = []) (.text "token allowlist cannot be empty")
  validateEach TokenReference.validate TokenReference.key (fun _ => "duplicate token reference") [] values

def validateStrings (name : String) (values : List String) : Except Error Unit := do
  rejectIf (values = []) (.text s!"{name} allowlist cannot be empty")
  validateEach (validateText name) id (fun value => s!"duplicate {name} {quote value}") [] values

def SpendingLimitRule.validate (r : SpendingLimitRule) : Except Error Unit := do
  validateIntentTypes r.intentTypes
  r.token.validate
  r.maximum.validate
  rejectIf (r.maximum.baseUnits = "0") (.text "spending limit must be positive")
  rejectIf (r.maximum.decimals ≠ r.token.decimals) (.text "spending limit decimals do not match token")

def ExpirationRule.validate (r : ExpirationRule) : Except Error Unit := do
  rejectIf (r.maxLifetimeSeconds = 0 ∧ r.minimumRemainingSeconds = 0)
    (.text "expiration rule requires at least one positive constraint")
  rejectIf (r.maxLifetimeSeconds > maxDurationSeconds ∨ r.minimumRemainingSeconds > maxDurationSeconds)
    (.text "expiration rule duration exceeds supported range")

namespace Rule

/-- `Type()`: the first body that is present. -/
def type (r : Rule) : Option RuleType :=
  if r.spendingLimit.isSome then some .spendingLimit
  else if r.operationAllowlist.isSome then some .operationAllowlist
  else if r.chainAllowlist.isSome then some .chainAllowlist
  else if r.tokenAllowlist.isSome then some .tokenAllowlist
  else if r.recipient.isSome then some .recipient
  else if r.expiration.isSome then some .expiration
  else none

def bodies (r : Rule) : List Bool :=
  [r.spendingLimit.isSome, r.operationAllowlist.isSome, r.chainAllowlist.isSome, r.tokenAllowlist.isSome,
    r.recipient.isSome, r.expiration.isSome]

/-- The switch of `validate`, on the body that the type names. -/
def validateBody (r : Rule) : Except Error Unit :=
  match r.type with
  | some .spendingLimit => r.spendingLimit.elim (.ok ()) SpendingLimitRule.validate
  | some .operationAllowlist => r.operationAllowlist.elim (.ok ()) validateIntentTypes
  | some .chainAllowlist => r.chainAllowlist.elim (.ok ()) validateChains
  | some .tokenAllowlist => r.tokenAllowlist.elim (.ok ()) validateTokens
  | some .recipient => r.recipient.elim (.ok ()) (validateStrings "recipient")
  | some .expiration => r.expiration.elim (.ok ()) ExpirationRule.validate
  | none => .error (.text "invalid rule type")

def validate (r : Rule) : Except Error Unit := do
  validateText "rule ID" r.ruleID
  rejectIf (r.onViolation.violationDecision = false)
    (.text "rule violation decision must be DENY or REQUIRE_REVIEW")
  rejectIf (r.bodies.count true ≠ 1) (.text "rule must contain exactly one typed rule body")
  r.validateBody

/-- `normalizeRule`: every list in the order that its lookup assumes. -/
def normalize (r : Rule) : Rule :=
  { r with
    ruleID := trimSpace r.ruleID,
    spendingLimit := r.spendingLimit.map fun limit =>
      { limit with intentTypes := sortBy IntentType.text limit.intentTypes },
    operationAllowlist := r.operationAllowlist.map (sortBy IntentType.text),
    chainAllowlist := r.chainAllowlist.map (sortBy id),
    tokenAllowlist := r.tokenAllowlist.map (sortBy TokenReference.key),
    recipient := r.recipient.map (sortBy id) }

end Rule

/-! ### Policies -/

inductive Status
  | draft | active | disabled | expired
deriving DecidableEq

def Status.text : Status → String
  | .draft => "DRAFT"
  | .active => "ACTIVE"
  | .disabled => "DISABLED"
  | .expired => "EXPIRED"

structure PolicyParams where
  policyID : String
  version : Nat
  name : String
  scope : Scope
  rules : List Rule
  createdAt : Int
  validFrom : Int
  expiresAt : Int
deriving DecidableEq

structure Policy where
  params : PolicyParams
  status : Status
  lifecycleRevision : Nat
deriving DecidableEq

/-- The loop of `Validate`: rules are valid, their IDs differ and ascend. -/
def validateRules : List String → String → List Rule → Except Error Unit
  | _, _, [] => .ok ()
  | seen, previous, rule :: rest => do
    rule.validate.mapError fun cause => invalidPolicy (Error.under s!"rule {quote rule.ruleID}" cause)
    rejectIf (rule.ruleID ∈ seen) (invalidPolicy (.text s!"duplicate rule ID {quote rule.ruleID}"))
    rejectIf (previous ≠ "" ∧ rule.ruleID < previous)
      (invalidPolicy (.text "policy rules are not in canonical order"))
    validateRules (rule.ruleID :: seen) rule.ruleID rest

namespace Policy

def validate (p : Policy) : Except Error Unit := do
  (validateText "policy ID" p.params.policyID).mapError invalidPolicy
  (validateText "policy name" p.params.name).mapError invalidPolicy
  rejectIf (p.params.version = 0) (invalidPolicy (.text "policy version must be at least 1"))
  rejectIf (p.lifecycleRevision = 0) (invalidPolicy (.text "policy lifecycle revision must be at least 1"))
  p.params.scope.validate.mapError invalidPolicy
  rejectIf (p.params.rules = [] ∨ p.params.rules.length > maxRules)
    (invalidPolicy (.text s!"policy requires 1 to {maxRules} rules"))
  validateRules [] "" p.params.rules
  rejectIf (p.params.createdAt = 0 ∨ p.params.validFrom = 0 ∨ p.params.expiresAt = 0 ∨
      p.params.validFrom < p.params.createdAt ∨ ¬ p.params.validFrom < p.params.expiresAt)
    (invalidPolicy (.text "policy validity window is invalid"))

/-- `Reference`: the text that an intent's constraints carry. -/
def reference (p : Policy) : String := s!"{p.params.policyID}:{p.params.version}"

end Policy

def normalizePolicy (p : PolicyParams) : PolicyParams :=
  { p with
    policyID := trimSpace p.policyID, name := trimSpace p.name, scope := p.scope.normalize,
    rules := sortBy Rule.ruleID (p.rules.map Rule.normalize) }

/-- `NewDraft(params)`. -/
def newDraft (params : PolicyParams) : Except Error Policy := do
  let policy : Policy := ⟨normalizePolicy params, .draft, 1⟩
  policy.validate
  pure policy

/-- `Restore(params, status, lifecycleRevision)`. -/
def restore (params : PolicyParams) (status : Status) (lifecycleRevision : Nat) : Except Error Policy := do
  let draft ← newDraft params
  let policy := { draft with status := status, lifecycleRevision := lifecycleRevision }
  policy.validate
  pure policy

end WizPay.Policies
