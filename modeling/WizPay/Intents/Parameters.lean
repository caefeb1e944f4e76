import WizPay.Intents.Types

/-!
# Validation of the payloads

`send_params.go`, `payroll_params.go`, `swap_params.go` and `deferred_params.go` of
`internal/intents`. A zero time stands for a clock that was not given.
-/
namespace WizPay.Intents

open Checks GoText GoTime Contracts

def routeReferenceSend : String := "ARC_MAINNET_ERC20_TRANSFER"

def routeVersionSend : Nat := 1

def SendParameters.validate (p : SendParameters) : Except Error Unit := do
  p.token.validatePhase12Token "send token"
  let canonical ← (canonicalToken p.token.symbol).mapError fun _ => .text "send token is unsupported"
  rejectIf (p.token.chainID ≠ canonical.chainID ∨ p.token.standard ≠ "ERC20" ∨
      addressesEqual p.token.address canonical.address = false ∨ p.token.decimals ≠ canonical.decimals)
    (.text "send token does not match the canonical Arc Mainnet registry")
  validateNonZeroEVMAddress "send recipient" p.recipient
  rejectIf (p.amount.isPositive = false) (.text "send amount must be positive")
  rejectIf (p.amount.decimals ≠ canonical.decimals) (.text "send amount decimals do not match canonical token")

/-! ### Payroll -/

def maxPayrollRecipientsPhase12 : Nat := 50

def maxPayrollRecipientsLegacy : Nat := 500

def maxPayrollReferenceIDLength : Nat := 64

def routeReferencePayroll : String := ContractID.wizPayPayroll.text

def routeVersionPayroll : Nat := registryVersion

def validatePayrollReferenceID (value : String) : Except Error Unit := do
  validateText "reference_id" value
  rejectIf (len value > maxPayrollReferenceIDLength)
    (.text s!"reference_id exceeds maximum UTF-8 byte length {maxPayrollReferenceIDLength}")

def canonicalPayrollToken (token : Token) : Bool :=
  token.chainID = chainIDArcMainnet && token.standard = "ERC20" && token.decimals = 6 &&
    (if token.symbol = "USDC" then addressesEqual token.address addressUSDCMainnet
     else if token.symbol = "EURC" then addressesEqual token.address addressEURCMainnet
     else false)

def samePayrollToken (a b : Token) : Bool :=
  canonicalPayrollToken a && canonicalPayrollToken b && a.chainID = b.chainID && a.standard = b.standard &&
    a.decimals = b.decimals && a.symbol = b.symbol && addressesEqual a.address b.address

/-- `SetString` with the conditions on a price: a canonical positive integer of at most 128 bits. -/
def canonicalPrice (text : String) : Bool :=
  ((parseBig text).any fun price => 0 < price && price < 2 ^ 128) && !leadingZero text

def positivePayrollUint128 (name : String) (amount : Amount) (decimals : Nat) : Except Error Int := do
  rejectIf (amount.isPositive = false ∨ amount.decimals ≠ decimals)
    (.text s!"{name} must be positive with canonical token decimals")
  let value ← amount.baseInt
  rejectIf (value ≥ 2 ^ 128) (.text s!"{name} exceeds uint128")
  pure value

namespace PayrollParameters

variable (p : PayrollParameters)

def isPhase12 : Bool :=
  p.schemaVersion ≥ financialSchemaPhase12 || p.variant ≠ .unset || !p.tokenIn.isZero || p.crossToken.isSome ||
    p.recipients.any fun r => !r.tokenOut.isZero || !r.amountIn.isZero || !r.minAmountOut.isZero

def sourceToken : Token :=
  if p.isPhase12 = true ∧ p.tokenIn.isZero = false then p.tokenIn else p.token

/-- What the loops over the recipients carry along. -/
structure Scan where
  seen : List String
  total : Int
  tokenOut : Option Token

def Scan.start : Scan := ⟨[], 0, none⟩

/-- A loop over the recipients with the index of each. -/
def scan (line : Nat → Scan → Recipient → Except Error Scan) : Nat → Scan → List Recipient → Except Error Scan
  | _, s, [] => .ok s
  | i, s, r :: rest => do
    let next ← line i s r
    scan line (i + 1) next rest

/-- One line of a payroll whose tokens are swapped together. -/
def crossTokenLine (employer : String) (i : Nat) (s : Scan) (r : Recipient) :
    Except Error Scan := do
  validateNonZeroEVMAddress s!"recipients[{i}].address" r.address
  rejectIf (addressesEqual r.address addressWizPayPayroll = true ∨
      (employer ≠ "" ∧ addressesEqual r.address employer = true))
    (.text s!"recipients[{i}] is a forbidden payroll recipient")
  rejectIf (normalizeAddress r.address ∈ s.seen) (.text s!"recipients[{i}]: duplicate recipient address")
  rejectIf (canonicalPayrollToken r.tokenOut = false ∨ samePayrollToken p.tokenIn r.tokenOut = true)
    (.text s!"recipients[{i}].token_out must be the opposite canonical token")
  -- every line delivers the token of the first one
  rejectIf (∃ tokenOut ∈ s.tokenOut, samePayrollToken tokenOut r.tokenOut = false)
    (.text "cross-token payroll requires one identical token_out")
  rejectIf (r.amountIn.isZero = false ∨ r.amount.isZero = false)
    (.text s!"recipients[{i}] cross-token input allocation is not allowed")
  rejectIf (r.minAmountOut.isPositive = false ∨ r.minAmountOut.decimals ≠ r.tokenOut.decimals)
    (.text s!"recipients[{i}] output obligation must be positive in token_out units")
  let amount ← r.minAmountOut.baseInt
  rejectIf (amount ≥ 2 ^ 128) (.text s!"recipients[{i}] output obligation exceeds uint128")
  pure ⟨normalizeAddress r.address :: s.seen, s.total + amount, some (s.tokenOut.getD r.tokenOut)⟩

/-- The deadline of a cross-token payroll against the clocks that are given. -/
def crossTokenDeadline (deadline createdAt constraintDeadline expiresAt : Int) : Except Error Unit := do
  checkIf (isZero createdAt = false) do
    rejectIf (¬ createdAt < deadline) (.text "cross-token payroll deadline has expired")
    rejectIf (createdAt + 20 * minute < deadline)
      (.text "cross-token payroll deadline exceeds 20 minute contract window")
  rejectIf (isZero constraintDeadline = false ∧ constraintDeadline < deadline)
    (.text "cross-token payroll deadline exceeds constraint deadline")
  rejectIf (isZero expiresAt = false ∧ expiresAt < deadline)
    (.text "cross-token payroll deadline exceeds intent expiry")

def validateCrossTokenTimeline (createdAt constraintDeadline expiresAt : Int)
    (employer : String) : Except Error Unit :=
  match p.crossToken with
  | none => .error (.text "cross-token payroll material is required")
  | some crossToken => do
    rejectIf (p.schemaVersion ≠ financialSchemaPhase12)
      (.text s!"cross-token payroll requires schema_version {financialSchemaPhase12}")
    rejectIf (p.variant ≠ .single ∧ p.variant ≠ .batchSingleTokenOut)
      (.text "cross-token payroll requires a single output-token variant")
    rejectIf (canonicalPayrollToken p.tokenIn = false) (.text "token_in must be canonical Arc Mainnet USDC or EURC")
    rejectIf (p.recipients.length = 0 ∨ p.recipients.length > maxPayrollRecipientsPhase12)
      (.text s!"cross-token payroll requires 1 to {maxPayrollRecipientsPhase12} recipients")
    rejectIf (p.variant = .single ∧ p.recipients.length ≠ 1) (.text "SINGLE payroll requires exactly one recipient")
    validatePayrollReferenceID p.referenceID
    let lines ← scan (p.crossTokenLine employer) 0 .start p.recipients
    let tokenOut := lines.tokenOut.getD .zero
    rejectIf (p.total.isPositive = false ∨ p.total.decimals ≠ tokenOut.decimals ∨
        p.total.baseUnits ≠ toString lines.total)
      (.text "payroll total must equal exact output obligations")
    let gross ← positivePayrollUint128 "gross_input" crossToken.grossInput p.tokenIn.decimals
    let minimum ← positivePayrollUint128 "min_total_out" crossToken.minTotalOut tokenOut.decimals
    rejectIf (minimum < lines.total) (.text "min_total_out must cover exact output obligations")
    rejectIf (canonicalPrice crossToken.minHopPriceX36 = false)
      (.text "min_hop_price_x36 must be a canonical positive uint128 integer")
    rejectIf (gross ≤ 0 ∨ isZero crossToken.deadline = true ∨ unix crossToken.deadline ≤ 0)
      (.text "cross-token payroll deadline is required")
    crossTokenDeadline crossToken.deadline createdAt constraintDeadline expiresAt
    rejectIf (p.token.isZero = false) (.text "legacy token is not allowed for cross-token payroll")

def validateCrossToken : Except Error Unit := p.validateCrossTokenTimeline 0 0 0 ""

def crossTokenExecutable : Bool := p.validateCrossToken.isOk

def legacyLine (i : Nat) (s : Scan) (r : Recipient) : Except Error Scan := do
  (validateText "recipient address" r.address).mapError (Error.under s!"recipient {i}")
  r.amount.validate.mapError (Error.under s!"recipient {i}")
  rejectIf (r.amount.decimals ≠ p.token.decimals) (.text s!"recipient {i} amount decimals do not match token")
  match parseBig r.amount.baseUnits with
  | none => .error (.text s!"recipient {i} amount is invalid")
  | some value => pure { s with total := s.total + value }

def validateLegacy : Except Error Unit := do
  p.token.validate
  rejectIf (p.recipients.length = 0 ∨ p.recipients.length > maxPayrollRecipientsLegacy)
    (.text s!"payroll requires 1 to {maxPayrollRecipientsLegacy} recipients")
  let lines ← scan p.legacyLine 0 .start p.recipients
  p.total.validate
  rejectIf (p.total.decimals ≠ p.token.decimals ∨ toString lines.total ≠ p.total.baseUnits)
    (.text "payroll total does not match recipient amounts")

/-- One line of the current shape. -/
def phase12Line (i : Nat) (s : Scan) (r : Recipient) : Except Error Scan := do
  validateNonZeroEVMAddress s!"recipients[{i}].address" r.address
  rejectIf (normalizeAddress r.address ∈ s.seen) (.text s!"recipients[{i}]: duplicate recipient address")
  r.tokenOut.validatePhase12Token s!"recipients[{i}].token_out"
  rejectIf (r.tokenOut.chainID ≠ p.tokenIn.chainID)
    (.text s!"recipients[{i}].token_out chain does not match token_in chain")
  rejectIf (r.amountIn.isPositive = false) (.text s!"recipients[{i}].amount_in must be a positive amount")
  rejectIf (r.amountIn.decimals ≠ p.tokenIn.decimals)
    (.text s!"recipients[{i}].amount_in decimals do not match token_in")
  rejectIf (r.minAmountOut.isPositive = false) (.text s!"recipients[{i}].min_amount_out must be a positive amount")
  rejectIf (r.minAmountOut.decimals ≠ r.tokenOut.decimals)
    (.text s!"recipients[{i}].min_amount_out decimals do not match token_out")
  rejectIf (r.amount.isZero = false)
    (.text s!"recipients[{i}]: legacy amount field is not allowed on Phase 12 payroll lines")
  let value ← r.amountIn.baseInt.mapError (Error.under s!"recipients[{i}].amount_in")
  -- only this variant compares the output token with the one of the first line
  rejectIf (p.variant = .batchSingleTokenOut ∧
      ∃ tokenOut ∈ s.tokenOut, normalizeAddress r.tokenOut.address ≠ normalizeAddress tokenOut.address)
    (.text "BATCH_SINGLE_TOKEN_OUT requires identical token_out on every recipient")
  pure ⟨normalizeAddress r.address :: s.seen, s.total + value, some (s.tokenOut.getD r.tokenOut)⟩

def checkReferenceID : Except Error Unit :=
  match p.variant with
  | .batchSingleTokenOut | .batchMultiTokenOut => validatePayrollReferenceID p.referenceID
  | .single => checkIf (p.referenceID ≠ "") (validatePayrollReferenceID p.referenceID)
  | _ => .ok ()

def checkLegacyToken : Except Error Unit :=
  checkIf (p.token.isZero = false) do
    p.token.validate.mapError (Error.under "legacy token")
    rejectIf (addressesEqual p.token.address p.tokenIn.address = false ∨ p.token.chainID ≠ p.tokenIn.chainID ∨
        p.token.decimals ≠ p.tokenIn.decimals ∨ p.token.standard ≠ p.tokenIn.standard)
      (.text "legacy token does not match token_in")

def validatePhase12 : Except Error Unit := do
  rejectIf (p.schemaVersion ≠ financialSchemaPhase12)
    (if p.schemaVersion = financialSchemaLegacy then
      .text s!"phase 12 payroll requires explicit schema_version {financialSchemaPhase12}"
    else .text s!"unsupported payroll schema version {p.schemaVersion}")
  rejectIf (p.variant.valid = false) (.text s!"invalid payroll variant {quote p.variant.text}")
  p.tokenIn.validatePhase12Token "token_in"
  rejectIf (p.recipients.length = 0) (.text "payroll requires at least one recipient")
  rejectIf (p.recipients.length > maxPayrollRecipientsPhase12)
    (.text s!"payroll recipients exceed maximum batch size {maxPayrollRecipientsPhase12}")
  rejectIf (p.variant = .single ∧ p.recipients.length ≠ 1) (.text "SINGLE payroll requires exactly one recipient")
  p.checkReferenceID
  let lines ← scan p.phase12Line 0 .start p.recipients
  p.total.validate
  rejectIf (p.total.decimals ≠ p.tokenIn.decimals) (.text "payroll total decimals do not match token_in")
  rejectIf (p.total.isPositive = false) (.text "payroll total must be positive")
  rejectIf (toString lines.total ≠ p.total.baseUnits) (.text "payroll total does not match recipient amounts")
  p.checkLegacyToken

def validate : Except Error Unit :=
  if p.isPhase12 then
    if p.crossToken.isSome then p.validateCrossToken else p.validatePhase12
  else p.validateLegacy

/-- The last loop of `ValidateSameToken`. -/
def sameTokenLines : Nat → List Recipient → Except Error Unit
  | _, [] => .ok ()
  | i, r :: rest => do
    rejectIf (samePayrollToken p.tokenIn r.tokenOut = false)
      (.text s!"recipients[{i}].token_out must exactly match token_in")
    rejectIf (r.amountIn ≠ r.minAmountOut) (.text s!"recipients[{i}] same-token amount must be exact")
    sameTokenLines (i + 1) rest

def validateSameToken : Except Error Unit := do
  rejectIf (p.crossToken.isSome = true) (.text "cross-token payroll is not same-token payroll")
  p.validatePhase12
  validatePayrollReferenceID p.referenceID
  rejectIf (p.variant ≠ .single ∧ p.variant ≠ .batchSingleTokenOut) (.text "cross-token payroll is unavailable")
  rejectIf (canonicalPayrollToken p.tokenIn = false) (.text "token_in must be canonical Arc Mainnet USDC or EURC")
  p.sameTokenLines 0 p.recipients

def sameTokenExecutable : Bool := p.validateSameToken.isOk

end PayrollParameters

/-! ### Swap -/

def routeReferenceSwap : String := ContractID.wizPaySwapExecutor.text

def routeVersionSwap : Nat := registryVersion

/-- `minimumOutputCeiling`: the expected output less the slippage, rounded up. -/
def minimumOutputCeiling (expected : Int) (maxSlippageBPS : Nat) : Int :=
  (expected * (10000 - maxSlippageBPS) + (10000 - 1)) / 10000

def SwapQuote.validate (q : SwapQuote) (outputDecimals : Nat) : Except Error Unit := do
  validateText "quote_id" q.quoteID
  validateText "quote source" q.source
  validateText "quote evidence_reference" q.evidenceReference
  validateNonZeroEVMAddress "quote router" q.router
  rejectIf (isZero q.expiresAt = true) (.text "quote expires_at is required")
  rejectIf (q.expectedAmountOut.isPositive = false) (.text "quote expected amount out must be positive")
  rejectIf (q.expectedAmountOut.decimals ≠ outputDecimals)
    (.text "quote expected amount out decimals do not match output token")
  rejectIf (q.minAmountOut.isPositive = false) (.text "quote minimum amount out must be positive")
  rejectIf (q.minAmountOut.decimals ≠ outputDecimals)
    (.text "quote minimum amount out decimals do not match output token")
  let minimum ← q.minAmountOut.baseInt
  let expected ← q.expectedAmountOut.baseInt
  rejectIf (expected < minimum) (.text "quote minimum amount out cannot exceed expected amount out")

def validateCanonicalSwapToken (token : Token) (name : String) : Except Error Unit := do
  rejectIf (token.chainID ≠ chainIDArcMainnet ∨ token.standard ≠ "ERC20" ∨ token.decimals ≠ canonicalTokenDecimals)
    (.text s!"{name} must be a canonical Arc Mainnet 6-decimal ERC20 token")
  if addressesEqual token.address addressUSDCMainnet then
    rejectIf (token.symbol ≠ "USDC") (.text s!"{name} symbol does not match canonical USDC")
  else if addressesEqual token.address addressEURCMainnet then
    rejectIf (token.symbol ≠ "EURC") (.text s!"{name} symbol does not match canonical EURC")
  else .error (.text s!"{name} address is not a supported swap token")

namespace SwapParameters

variable (p : SwapParameters)

def isPhase12 : Bool :=
  p.schemaVersion ≥ financialSchemaPhase12 || p.minHopPriceX36 ≠ "" || p.router ≠ "" || p.recipient ≠ "" ||
    p.quote.isSome || !isZero p.deadline

/-- One row of the table of amounts in `validateLegacy`. -/
def legacyAmount (name : String) (amount : Amount) (decimals : Nat) : Except Error Unit := do
  amount.validate.mapError (Error.under s!"{name} amount")
  rejectIf (amount.decimals ≠ decimals) (.text s!"{name} amount decimals do not match token")

def validateLegacy : Except Error Unit := do
  p.inputToken.validate
  p.outputToken.validate
  legacyAmount "input" p.inputAmount p.inputToken.decimals
  legacyAmount "expected output" p.expectedOutput p.outputToken.decimals
  legacyAmount "minimum output" p.minimumOutput p.outputToken.decimals
  validateText "quote reference" p.quoteReference
  rejectIf (p.maxSlippageBPS > 10000) (.text "maximum slippage cannot exceed 10000 basis points")
  rejectIf ((parseBig p.expectedOutput.baseUnits).getD 0 < (parseBig p.minimumOutput.baseUnits).getD 0)
    (.text "minimum output cannot exceed expected output")

/-- The tokens of a swap: the two canonical ones, in either direction. -/
def validateTokens : Except Error Unit := do
  p.inputToken.validatePhase12Token "input_token"
  p.outputToken.validatePhase12Token "output_token"
  rejectIf (p.inputToken.chainID ≠ p.outputToken.chainID)
    (.text "swap input and output tokens must share the same chain")
  rejectIf (addressesEqual p.inputToken.address p.outputToken.address = true)
    (.text "swap input and output tokens must differ")
  validateCanonicalSwapToken p.inputToken "input_token"
  validateCanonicalSwapToken p.outputToken "output_token"
  rejectIf (¬ ((addressesEqual p.inputToken.address addressUSDCMainnet = true ∧
        addressesEqual p.outputToken.address addressEURCMainnet = true) ∨
      (addressesEqual p.inputToken.address addressEURCMainnet = true ∧
        addressesEqual p.outputToken.address addressUSDCMainnet = true)))
    (.text "swap token pair must be canonical Arc Mainnet USDC/EURC")

def validateAmounts : Except Error Unit := do
  rejectIf (p.inputAmount.isPositive = false) (.text "input amount must be positive")
  rejectIf (p.inputAmount.decimals ≠ p.inputToken.decimals) (.text "input amount decimals do not match input token")
  rejectIf (p.expectedOutput.isPositive = false) (.text "expected output must be positive")
  rejectIf (p.expectedOutput.decimals ≠ p.outputToken.decimals)
    (.text "expected output decimals do not match output token")
  rejectIf (p.minimumOutput.isPositive = false) (.text "minimum output must be positive")
  rejectIf (p.minimumOutput.decimals ≠ p.outputToken.decimals)
    (.text "minimum output decimals do not match output token")
  rejectIf (p.maxSlippageBPS > 10000) (.text "maximum slippage cannot exceed 10000 basis points")
  rejectIf (canonicalPrice p.minHopPriceX36 = false)
    (.text "min_hop_price_x36 must be a canonical positive uint128 integer")
  let expected ← p.expectedOutput.baseInt.mapError (Error.under "expected output")
  let minimum ← p.minimumOutput.baseInt.mapError (Error.under "minimum output")
  rejectIf (expected < minimum) (.text "minimum output cannot exceed expected output")
  rejectIf (minimum < minimumOutputCeiling expected p.maxSlippageBPS)
    (.text "minimum output is weaker than max_slippage_bps allows")

/-- The quote repeats the frozen economic material. -/
def validateQuote (quote : SwapQuote) : Except Error Unit := do
  quote.validate p.outputToken.decimals
  rejectIf (addressesEqual quote.router p.router = false) (.text "quote router must equal frozen router")
  rejectIf (quote.expectedAmountOut ≠ p.expectedOutput)
    (.text "quote expected output must equal frozen expected output")
  rejectIf (quote.minAmountOut ≠ p.minimumOutput) (.text "quote minimum output must equal frozen minimum output")
  rejectIf (p.quoteReference ≠ "" ∧ p.quoteReference ≠ quote.quoteID)
    (.text "quote_reference must match quote_id when both are set")

/-- The swap deadline against the clocks that are given. -/
def validateTimeline (deadline quoteExpiresAt createdAt constraintDeadline expiresAt : Int) : Except Error Unit := do
  checkIf (isZero createdAt = false) do
    rejectIf (¬ createdAt < quoteExpiresAt) (.text "quote has already expired at freeze time")
    rejectIf (¬ createdAt < deadline) (.text "swap deadline must follow creation")
    rejectIf (createdAt + 20 * minute < deadline)
      (.text "swap deadline cannot exceed the contract maximum window of 20 minutes")
  rejectIf (isZero quoteExpiresAt = false ∧ quoteExpiresAt < deadline)
    (.text "swap deadline cannot be after quote expiry")
  rejectIf (isZero constraintDeadline = false ∧ constraintDeadline < deadline)
    (.text "swap deadline cannot exceed constraint deadline")
  rejectIf (isZero expiresAt = false ∧ expiresAt < deadline)
    (.text "swap deadline cannot exceed intent expiration")

def validatePhase12 (createdAt constraintDeadline expiresAt : Int) : Except Error Unit := do
  rejectIf (p.schemaVersion ≠ financialSchemaPhase12)
    (if p.schemaVersion = financialSchemaLegacy then
      .text s!"phase 12 swap requires explicit schema_version {financialSchemaPhase12}"
    else .text s!"unsupported swap schema version {p.schemaVersion}")
  p.validateTokens
  p.validateAmounts
  validateNonZeroEVMAddress "router" p.router
  rejectIf (addressesEqual p.router addressUniswapUniversalRouter = false)
    (.text "swap router must be the canonical Universal Router")
  validateNonZeroEVMAddress "recipient" p.recipient
  match p.quote with
  | none => .error (.text "swap quote is required")
  | some quote => do
    p.validateQuote quote
    rejectIf (isZero p.deadline = true) (.text "swap deadline is required")
    validateTimeline p.deadline quote.expiresAt createdAt constraintDeadline expiresAt

def phase12Executable : Bool := p.isPhase12 && (p.validatePhase12 0 0 0).isOk

def validateWithTimeline (createdAt constraintDeadline expiresAt : Int) : Except Error Unit :=
  if p.isPhase12 then p.validatePhase12 createdAt constraintDeadline expiresAt else p.validateLegacy

def validate : Except Error Unit := p.validateWithTimeline 0 0 0

end SwapParameters

/-! ### Payloads that no phase executes -/

def BridgeParameters.validate (p : BridgeParameters) : Except Error Unit := do
  validateChainID p.sourceChainID
  validateChainID p.destinationChainID
  rejectIf (p.sourceChainID = p.destinationChainID) (.text "bridge source and destination chains must differ")
  p.sourceToken.validate
  rejectIf (p.sourceToken.chainID ≠ p.sourceChainID)
    (.text "bridge source token chain does not match source chain")
  p.sourceAmount.validate
  p.destinationAmount.validate
  rejectIf (p.sourceAmount.decimals ≠ p.sourceToken.decimals)
    (.text "bridge source amount decimals do not match token")
  validateText "destination address" p.destinationAddress
  validateText "bridge plan reference" p.planReference

def ANSParameters.validate (p : ANSParameters) : Except Error Unit := do
  validateText "normalized name" p.normalizedName
  rejectIf (p.normalizedName ≠ toLower p.normalizedName ∨ p.normalizedName.toList.getLast? = some '.')
    (.text "ANS name must be normalized lowercase without a trailing dot")
  validateText "name version" p.nameVersion
  rejectIf (p.termSeconds = 0) (.text "ANS term must be positive")
  validateText "ANS controller" p.controller
  p.costToken.validate
  p.cost.validate
  rejectIf (p.cost.decimals ≠ p.costToken.decimals) (.text "ANS cost decimals do not match token")

/-! ### The union -/

namespace FinancialParameters

def count (p : FinancialParameters) : Nat :=
  p.send.isSome.toNat + p.payroll.isSome.toNat + p.swap.isSome.toNat + p.bridge.isSome.toNat + p.ans.isSome.toNat

/-- One case of the switch: the member that the type asks for. -/
def member {α : Type} (value : Option α) (missing : String) (check : α → Except Error Unit) : Except Error Unit :=
  match value with
  | none => .error (.text missing)
  | some value => check value

def validate (p : FinancialParameters) (kind : IntentType) : Except Error Unit := do
  rejectIf (p.count ≠ 1) (.text "financial parameters must contain exactly one typed payload")
  match kind with
  | .send => member p.send "SEND requires send parameters" SendParameters.validate
  | .payroll => member p.payroll "PAYROLL requires payroll parameters" PayrollParameters.validate
  | .swap => member p.swap "SWAP requires swap parameters" SwapParameters.validate
  | .bridge => member p.bridge "BRIDGE requires bridge parameters" BridgeParameters.validate
  | .ansRegistration => member p.ans "ANS_REGISTRATION requires ANS parameters" ANSParameters.validate
  | .other text => .error (.text s!"invalid intent type {quote text}")

end FinancialParameters

end WizPay.Intents
