import WizPay.Auth.Request
import WizPay.Intents.Lifecycle
import WizPay.Policies.Policy
import WizPay.Wallet.Binding

/-!
# Policy evaluation

`internal/policies/evaluator.go`.
-/
namespace WizPay.Policies

open Checks GoText GoTime GoSort Intents

structure IntentView where
  kind : IntentType
  spendToken : TokenReference
  spendAmount : Amount
  chains : List String
  tokens : List TokenReference
  recipients : List String
  createdAt : Int
  effectiveDeadline : Int
deriving DecidableEq

/-- The decimal of an integer number of base units. -/
def canonicalAmountDecimal (value : Int) (decimals : Nat) : String :=
  let digits := (toString value).toList
  if decimals = 0 then String.ofList digits
  else
    let padded := List.replicate (decimals + 1 - digits.length) '0' ++ digits
    let whole := padded.take (padded.length - decimals)
    let fraction := ((padded.drop (padded.length - decimals)).reverse.dropWhile (· = '0')).reverse
    if fraction = [] then String.ofList whole else String.ofList (whole ++ '.' :: fraction)

/-- The obligations of a payroll with the highest fee that its contract takes on top. -/
def payrollMaximumEmployerExposure (obligations : Amount) : Amount :=
  match obligations.baseInt with
  | .error _ => obligations
  | .ok base =>
    let total := base + base * Contracts.contractMaxFeeBPS / 10000
    ⟨canonicalAmountDecimal total obligations.decimals, toString total, obligations.decimals⟩

namespace IntentView

/-- The part of the view that every type shares. -/
def start (i : Intent) (token : Token) (amount : Amount) : IntentView :=
  { kind := i.params.type, spendToken := tokenReference token, spendAmount := amount,
    chains := [token.chainID], tokens := [tokenReference token], recipients := [],
    createdAt := i.params.createdAt, effectiveDeadline := min i.params.constraints.deadline i.params.expiresAt }

def ofSend (i : Intent) (p : SendParameters) : IntentView :=
  { start i p.token p.amount with recipients := [p.recipient] }

/-- A payroll is seen with its source token; only the amount knows about the two executable shapes. -/
def ofPayroll (i : Intent) (p : PayrollParameters) : IntentView :=
  let view := { start i p.sourceToken p.total with recipients := p.recipients.map Recipient.address }
  if p.sameTokenExecutable then { view with spendAmount := payrollMaximumEmployerExposure p.total }
  else if p.crossTokenExecutable then
    match p.crossToken with
    | some cross =>
      { view with spendAmount := cross.grossInput, effectiveDeadline := min cross.deadline view.effectiveDeadline }
    | none => view
  else view

def ofSwap (i : Intent) (p : SwapParameters) : IntentView :=
  { start i p.inputToken p.inputAmount with
    chains := [p.inputToken.chainID, p.outputToken.chainID],
    tokens := [tokenReference p.inputToken, tokenReference p.outputToken] }

def ofBridge (i : Intent) (p : BridgeParameters) : IntentView :=
  { start i p.sourceToken p.sourceAmount with
    chains := [p.sourceChainID, p.destinationChainID], recipients := [p.destinationAddress] }

def ofANS (i : Intent) (p : ANSParameters) : IntentView :=
  { start i p.costToken p.cost with recipients := [p.controller] }

/-- `uniqueSorted` on the three lists. -/
def sorted (view : IntentView) : IntentView :=
  { view with
    chains := dedupBy id (sortBy id view.chains), recipients := dedupBy id (sortBy id view.recipients),
    tokens := dedupBy TokenReference.key (sortBy TokenReference.key view.tokens) }

end IntentView

def unsupportedIntentType (i : Intent) : Error := .text s!"unsupported intent type {quote i.params.type.text}"

/-- `newIntentView`; a valid intent has the payload that its type asks for. -/
def newIntentView (i : Intent) : Except Error IntentView := do
  let f := i.params.financial
  let view := match i.params.type with
    | .send => f.send.map (IntentView.ofSend i)
    | .payroll => f.payroll.map (IntentView.ofPayroll i)
    | .swap => f.swap.map (IntentView.ofSwap i)
    | .bridge => f.bridge.map (IntentView.ofBridge i)
    | .ansRegistration => f.ans.map (IntentView.ofANS i)
    | .other _ => none
  match view with
  | some view => pure view.sorted
  | none => .error (unsupportedIntentType i)

/-! ### Rules -/

/-- `Time.Sub`: a duration saturates at the bounds of an `int64`. -/
def timeSub (first last : Int) : Int := max (-(2 ^ 63)) (min (first - last) (2 ^ 63 - 1))

def allStringsAllowed (values allowed : List String) : Bool := values.all fun value => contains id allowed value

def allTokensAllowed (values allowed : List TokenReference) : Bool :=
  values.all fun value => contains TokenReference.key allowed value.key

def containsIntentType (values : List IntentType) (target : IntentType) : Bool :=
  contains IntentType.text values target.text

namespace SpendingLimitRule

def evaluate (r : SpendingLimitRule) (view : IntentView) : Except Error (Option Reason) :=
  if containsIntentType r.intentTypes view.kind = false then .ok none
  else if r.token.key ≠ view.spendToken.key then .ok (some .tokenNotAllowed)
  else
    match parseBig r.maximum.baseUnits, parseBig view.spendAmount.baseUnits with
    | none, _ => .error (.text "invalid spending limit base units")
    | _, none => .error (.text "invalid intent amount base units")
    | some maximum, some amount => .ok (if maximum < amount then some .spendingLimitExceeded else none)

end SpendingLimitRule

def ExpirationRule.violated (r : ExpirationRule) (view : IntentView) (time : Int) : Bool :=
  (decide (0 < r.maxLifetimeSeconds) &&
      decide (r.maxLifetimeSeconds * second < timeSub view.effectiveDeadline view.createdAt)) ||
    (decide (0 < r.minimumRemainingSeconds) &&
      decide (timeSub view.effectiveDeadline time < r.minimumRemainingSeconds * second))

/-- The reason when a check fails. -/
def violation (allowed : Bool) (reason : Reason) : Option Reason := if allowed then none else some reason

/-- `evaluateRule`: the reason of a violation. -/
def evaluateRule (rule : Rule) (view : IntentView) (time : Int) : Except Error (Option Reason) :=
  match rule.type with
  | some .operationAllowlist =>
    .ok (violation (containsIntentType (rule.operationAllowlist.getD []) view.kind) .operationNotAllowed)
  | some .spendingLimit => rule.spendingLimit.elim (.ok none) (·.evaluate view)
  | some .chainAllowlist =>
    .ok (violation (allStringsAllowed view.chains (rule.chainAllowlist.getD [])) .chainNotAllowed)
  | some .tokenAllowlist =>
    .ok (violation (allTokensAllowed view.tokens (rule.tokenAllowlist.getD [])) .tokenNotAllowed)
  | some .recipient =>
    .ok (violation (allStringsAllowed view.recipients (rule.recipient.getD [])) .recipientNotAllowed)
  | some .expiration =>
    .ok (violation (!rule.expiration.any (·.violated view time)) .expirationConstraintViolated)
  | none => .error (.text "unsupported policy rule type \"\"")

def combineDecision (current next : Decision) : Decision :=
  if current = .deny ∨ next = .deny then .deny
  else if current = .requireReview ∨ next = .requireReview then .requireReview
  else .allow

/-- The loop over the rules, which collects every finding. -/
def evaluateRules (view : IntentView) (time : Int) : Result → List Rule → Except Error Result
  | result, [] => .ok result
  | result, rule :: rest => do
    let found ← (evaluateRule rule view time).mapError invalidPolicy
    match found with
    | none => evaluateRules view time result rest
    | some reason =>
      evaluateRules view time
        { result with
          decision := combineDecision result.decision rule.onViolation,
          findings := result.findings ++ [⟨rule.ruleID, rule.type, rule.onViolation, reason⟩] } rest

/-! ### Evaluation -/

/-- `lifecycleDecision` and `denyDecision`. -/
def Result.denied (r : Result) (reason : Reason) : Result :=
  { r with decision := .deny, findings := [⟨"", none, .deny, reason⟩] }

/-- The intent status that a stage asks for. -/
def EvaluationStage.expectedStatus : EvaluationStage → Intents.Status
  | .beforeExecution => .approved
  | .beforeApproval => .created

def EvaluationStage.statusError : EvaluationStage → Error
  | .beforeExecution =>
    .app .approvalRequired "Approved intent is required for policy evaluation." false true false
  | .beforeApproval => invalidPolicy (.text "created intent is required for pre-approval policy evaluation")

/-- The comparison of the identity and the binding with the owner that the intent froze. -/
def OwnerMatches (owner : Ownership) (identity : Auth.Identity) (b : Wallet.Binding) : Prop :=
  identity.userID = owner.userID ∧ identity.provider = owner.identityProvider ∧
    b.bindingID = owner.walletBindingID ∧ b.version = owner.walletBindingVersion ∧
    b.provider = owner.effectiveWalletProvider ∧ b.providerUserReference = owner.providerUserReference ∧
    b.walletID = owner.walletID ∧ b.address = owner.walletAddress ∧ b.chainID = owner.chainID ∧
    b.network = owner.network

instance (owner : Ownership) (identity : Auth.Identity) (b : Wallet.Binding) :
    Decidable (OwnerMatches owner identity b) := inferInstanceAs (Decidable (_ ∧ _))

variable (policy : Policy) (i : Intent)

variable (identity : Auth.Identity) (b : Wallet.Binding)

/-- The checks that come before the policy is looked at. -/
def checkContext (time : Int)
    (stage : EvaluationStage) : Except Error Unit := do
  policy.validate
  i.validate
  rejectIf (time = 0) (invalidPolicy (.text "evaluation time is required"))
  rejectIf (i.status ≠ stage.expectedStatus) stage.statusError
  rejectIf (¬ time < i.params.expiresAt ∨ ¬ time < i.params.constraints.deadline) intentExpired
  identity.ensureAuthorizable
  b.ensureAuthorizable identity.userID
  rejectIf (¬ OwnerMatches i.params.ownership identity b)
    (.app .walletMismatch "Identity and wallet context do not match the approved intent." false true true)

/-- The scope of a policy covers the intent. -/
def Scope.covers (s : Scope) (i : Intent) : Bool :=
  s.userID = i.params.ownership.userID &&
    (s.walletBindingID = "" || s.walletBindingID = i.params.ownership.walletBindingID) && s.includes i.params.type

/-- The reason for which a policy denies without looking at its rules. -/
def Policy.inapplicable (p : Policy) (i : Intent) (time : Int) : Option Reason :=
  if p.status = .disabled then some .policyDisabled
  else if p.status = .expired ∨ ¬ time < p.params.expiresAt then some .policyExpired
  else if p.status ≠ .active then some .policyDraft
  else if time < p.params.validFrom then some .policyNotEffective
  else if i.params.constraints.policyReference ≠ p.reference then some .policyReferenceMismatch
  else if p.params.scope.covers i = false then some .scopeMismatch
  else none

/-- The result before any finding. -/
def Result.start (stage : EvaluationStage) (time : Int) : Result :=
  { policyID := policy.params.policyID, policyVersion := policy.params.version, intentID := i.params.intentID,
    intentVersion := i.params.version, intentDigest := i.digest, stage := stage, decision := .allow,
    evaluatedAt := time, findings := [] }

def evaluateAt (time : Int)
    (stage : EvaluationStage) : Except Error Result := do
  checkContext policy i identity b time stage
  match policy.inapplicable i time with
  | some reason => pure ((Result.start policy i stage time).denied reason)
  | none => do
    let view ← (newIntentView i).mapError invalidPolicy
    evaluateRules view time (.start policy i stage time) policy.params.rules

/-- `Evaluate`: the check before an execution. -/
def evaluate (time : Int) :
    Except Error Result := evaluateAt policy i identity b time .beforeExecution

/-- `EvaluateForApproval`: the check before an approval is asked for. -/
def evaluateForApproval (time : Int) :
    Except Error Result := evaluateAt policy i identity b time .beforeApproval

/-! ### What an evaluation says -/

variable {policy : Policy} {i : Intent} {identity : Auth.Identity} {b : Wallet.Binding} {time : Int}
  {stage : EvaluationStage} {result : Result}

/-- `DENY` over `REQUIRE_REVIEW` over `ALLOW`. -/
def Decision.strength : Decision → Nat
  | .allow => 0
  | .requireReview => 1
  | .deny => 2

theorem combineDecision_strength (current next : Decision) :
    (combineDecision current next).strength = max current.strength next.strength := by
  cases current <;> cases next <;> rfl

theorem combineDecision_right_comm (current first second : Decision) :
    combineDecision (combineDecision current first) second = combineDecision (combineDecision current second) first := by
  cases current <;> cases first <;> cases second <;> rfl

/-- What a rule finds when it is violated. -/
def finding (view : IntentView) (time : Int) (rule : Rule) : Option Finding :=
  ((evaluateRule rule view time).toOption.join).map fun reason => ⟨rule.ruleID, rule.type, rule.onViolation, reason⟩

/-- The strongest of a decision and those of findings. -/
def strongest (decision : Decision) (findings : List Finding) : Decision :=
  findings.foldl (fun current f => combineDecision current f.decision) decision

section Rules

variable {view : IntentView} {start last : Result} {rules : List Rule}

/-- The loop evaluates every rule, finds what each finds, and decides with the strongest. -/
theorem evaluateRules_ok : evaluateRules view time start rules = .ok last ↔
    (∀ rule ∈ rules, (evaluateRule rule view time).isOk = true) ∧
      last = { start with
        decision := strongest start.decision (rules.filterMap (finding view time)),
        findings := start.findings ++ rules.filterMap (finding view time) } := by
  -- the result so far is the accumulator of the loop
  induction rules generalizing start with
  | nil =>
    simp only [evaluateRules, Except.ok.injEq, List.filterMap_nil, List.append_nil, List.not_mem_nil, false_implies,
      implies_true, true_and, strongest, List.foldl_nil]
    exact eq_comm
  | cons rule rest ih =>
    rw [evaluateRules, List.forall_mem_cons]
    cases evaluated : evaluateRule rule view time with
    | error e => simp [Except.mapError, Except.isOk, Except.toBool]
    | ok found =>
      cases found with
      | none => simp [Except.mapError, ih, finding, evaluated, Except.isOk, Except.toBool, Except.toOption]
      | some reason =>
        simp [Except.mapError, ih, finding, evaluated, Except.isOk, Except.toBool, Except.toOption, strongest]

theorem strongest_le {findings others : List Finding} (sublist : findings.Sublist others) {weak strong : Decision}
    (le : weak.strength ≤ strong.strength) : (strongest weak findings).strength ≤ (strongest strong others).strength := by
  -- the lead of the stronger side survives every finding
  induction sublist generalizing weak strong with
  | slnil => exact le
  | cons f _ ih => exact ih (by rw [combineDecision_strength]; omega)
  | cons_cons f _ ih => exact ih (by rw [combineDecision_strength, combineDecision_strength]; omega)

/-- **The order of the rules does not matter, and more rules are stricter**: the same decision with the same findings
comes of every order, and with more rules all findings stay and the decision is at least as strong. -/
theorem evaluateRules_order (evaluated : evaluateRules view time start rules = .ok last) :
    (∀ other, rules.Perm other → ∃ same, evaluateRules view time start other = .ok same ∧
      same.decision = last.decision ∧ same.findings.Perm last.findings) ∧
    ∀ more strict, rules.Sublist more → evaluateRules view time start more = .ok strict →
      last.decision.strength ≤ strict.decision.strength ∧ last.findings.Sublist strict.findings := by
  obtain ⟨each, rfl⟩ := evaluateRules_ok.mp evaluated
  refine ⟨fun other perm => ?_, fun more strict sublist stricter => ?_⟩
  · refine ⟨_, evaluateRules_ok.mpr ⟨fun rule member => each rule (perm.mem_iff.mpr member), rfl⟩, ?_, ?_⟩
    · exact (perm.symm.filterMap _).foldl_eq' (fun f _ g _ current => combineDecision_right_comm current f.decision g.decision) _
    · exact .append_left _ (perm.symm.filterMap _)
  · obtain ⟨-, rfl⟩ := evaluateRules_ok.mp stricter
    have found := sublist.filterMap (finding view time)
    exact ⟨strongest_le found le_rfl, .append_left found _⟩

end Rules

/-- A rule that lists no operation. -/
def closedRule : Rule := { ruleID := "closed", onViolation := .deny, operationAllowlist := some [] }

/-- An intent of any type is denied by a list of rules with that rule among them. -/
theorem closedRule_order : ∃ (view : IntentView) (start last : Result),
    evaluateRules view 0 start [closedRule] = .ok last ∧ last.decision = .deny ∧
      ∀ more strict, [closedRule].Sublist more → evaluateRules view 0 start more = .ok strict →
        last.decision.strength ≤ strict.decision.strength ∧ last.findings.Sublist strict.findings :=
  ⟨⟨.send, ⟨"", "", "", 0⟩, .zero, [], [], [], 0, 0⟩, ⟨"", 1, "", 1, "", .beforeApproval, .allow, 0, []⟩, _, rfl, rfl,
    (evaluateRules_order rfl).2⟩

end WizPay.Policies
