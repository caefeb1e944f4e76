import WizPay.Intents.Validated
import WizPay.Providers.Domain

/-!
# Payroll plans and their verification

`internal/payroll`: the plan of a frozen payroll intent, and the check of the transaction
that executed it.
-/
namespace WizPay.Payroll

open Checks GoText GoTime Contracts Contracts.Payroll Intents Providers

structure Plan where
  intentID : String
  intentDigest : String
  capability : IntentType
  contractID : ContractID
  registryVersion : Nat
  chainID : String
  walletAddress : String
  encodedCall : EncodedCall
deriving DecidableEq

/-- `BaseInt` with its error dropped. -/
def baseOf (a : Amount) : Option Int := a.baseInt.toOption

variable (p : PayrollParameters)

/-- The lines of a same-token payroll: whom it pays how much. -/
def sameTokenObligations : List (String × Int) :=
  p.recipients.map fun r => (r.address, (baseOf r.amountIn).getD 0)

/-- The lines of a cross-token payroll. -/
def crossTokenObligations : List (String × Int) :=
  p.recipients.map fun r => (r.address, (baseOf r.minAmountOut).getD 0)

/-- The token that a cross-token payroll delivers, which is the one of its first line. -/
def outputToken : String := (p.recipients.head?.map fun r => r.tokenOut.address).getD ""

/-! ### Planning -/

variable (registry : Option Registry)

def validateBinding (route : Route) (ownership : Ownership) : Except Error Unit := do
  rejectIf (route.type ≠ .allowlistedContract) (.text "payroll route must be ALLOWLISTED_CONTRACT")
  rejectIf (route.reference ≠ routeReferencePayroll) (.text s!"payroll route reference must be {routeReferencePayroll}")
  rejectIf (route.version ≠ routeVersionPayroll) (.text s!"payroll route version must be {routeVersionPayroll}")
  rejectIf (route.version ≠ registryVersion) (.text s!"payroll route version must be {registryVersion}")
  rejectIf (ownership.chainID ≠ chainIDArcMainnet) (.text s!"payroll ownership chain must be {chainIDArcMainnet}")
  rejectIf (ownership.network ≠ networkArcMainnet) (.text s!"payroll ownership network must be {networkArcMainnet}")
  let deployment ← (expectedDeployment .wizPayPayroll registry).mapError (Error.under "resolve payroll deployment")
  rejectIf (ownership.chainID ≠ deployment.chainID ∨ addressesEqual deployment.address addressWizPayPayroll = false)
    (.text "payroll deployment does not match canonical Arc Mainnet binding")

def newPlan (intent : Intent) (call : EncodedCall) : Plan :=
  { intentID := intent.params.intentID, intentDigest := intent.digest, capability := .payroll,
    contractID := call.contractID, registryVersion := call.registryVersion, chainID := call.chainID,
    walletAddress := intent.params.ownership.walletAddress, encodedCall := call }

def sameTokenInput : SameTokenPayrollInput :=
  { token := p.tokenIn.address, recipients := p.recipients.map fun r => r.address,
    amounts := p.recipients.map fun r => baseOf r.amountIn, referenceID := bytes p.referenceID }

/-- The first amount of a line that cannot be read. -/
def checkAmounts : Nat → List Recipient → Except Error Unit
  | _, [] => .ok ()
  | i, r :: rest => do
    let _ ← r.amountIn.baseInt.mapError (Error.under s!"recipient {i} amount")
    checkAmounts (i + 1) rest

def planSameToken (intent : Intent) (p : PayrollParameters) : Except Error Plan := do
  checkAmounts 0 p.recipients
  let call ← (encodeSameTokenPayroll registry (sameTokenInput p)).mapError (Error.under "encode same-token payroll")
  pure (newPlan intent call)

def crossTokenInput (crossToken : CrossTokenPayrollParameters) : CrossTokenPayrollInput :=
  { tokenIn := p.tokenIn.address, tokenOut := outputToken p, recipients := p.recipients.map fun r => r.address,
    outputAmounts := p.recipients.map fun r => baseOf r.minAmountOut, grossInput := baseOf crossToken.grossInput,
    minTotalOut := baseOf crossToken.minTotalOut, minHopPriceX36 := parseBig crossToken.minHopPriceX36,
    deadline := some (unix crossToken.deadline), referenceID := bytes p.referenceID }

def planCrossToken (intent : Intent) (p : PayrollParameters)
    (crossToken : CrossTokenPayrollParameters) : Except Error Plan := do
  let call ← (encodeCrossTokenPayroll registry (crossTokenInput p crossToken)).mapError
    (Error.under "encode cross-token payroll")
  pure (newPlan intent call)

/-- `Planner.Plan`. -/
def plan (intent : Intent) : Except Error Plan := do
  intent.validate.mapError (Error.under "payroll intent is invalid")
  rejectIf (intent.params.type ≠ .payroll) (.text "payroll planner requires PAYROLL intent")
  rejectIf (intent.digest = "" ∨ intent.status = .draft) (.text "payroll planner requires a frozen intent")
  match intent.params.financial.payroll with
  | none => .error (.text "payroll financial parameters are required")
  | some financial =>
    validateBinding registry intent.params.route intent.params.ownership
    if financial.sameTokenExecutable then planSameToken registry intent financial
    else
      financial.validateCrossToken.mapError
        (Error.under "payroll intent is not an executable same-token or cross-token payroll")
      match financial.crossToken with
      | none => .error (.text "cross-token payroll material is required")
      | some crossToken => planCrossToken registry intent financial crossToken

/-! ### The binding of a plan -/

/-- The recipients and the amounts of a call against the lines of the intent. -/
def linesMatch : List String → List Int → List (String × Int) → Bool
  | [], [], [] => true
  | recipient :: recipients, amount :: amounts, (address, due) :: lines =>
    addressesEqual recipient address && amount = due && linesMatch recipients amounts lines
  | _, _, _ => false

/-- The decoded same-token call is the one of the intent. -/
def bindsSameToken (decoded : DecodedSameTokenPayroll) : Bool :=
  addressesEqual decoded.token p.tokenIn.address && decoded.referenceID = bytes p.referenceID &&
    linesMatch decoded.recipients decoded.amounts (sameTokenObligations p)

/-- The decoded cross-token call is the one of the intent. -/
def bindsCrossToken (crossToken : CrossTokenPayrollParameters)
    (decoded : DecodedCrossTokenPayroll) : Bool :=
  addressesEqual decoded.tokenIn p.tokenIn.address && addressesEqual decoded.tokenOut (outputToken p) &&
    some decoded.grossInput = baseOf crossToken.grossInput && some decoded.minTotalOut = baseOf crossToken.minTotalOut &&
    some decoded.minHopPriceX36 = parseBig crossToken.minHopPriceX36 && decoded.deadline = unix crossToken.deadline &&
    decoded.referenceID = bytes p.referenceID && linesMatch decoded.recipients decoded.outputAmounts (crossTokenObligations p)

def validatePlan (intent : Intent) (plan : Plan) : Except Error Unit := do
  rejectIf (plan.intentID ≠ intent.params.intentID ∨ plan.intentDigest ≠ intent.digest ∨ plan.capability ≠ .payroll)
    (.text "plan does not bind the frozen payroll intent")
  rejectIf (plan.contractID ≠ .wizPayPayroll ∨ plan.registryVersion ≠ registryVersion ∨ plan.chainID ≠ chainIDArcMainnet)
    (.text "plan does not bind the canonical payroll deployment")
  rejectIf (plan.chainID ≠ intent.params.ownership.chainID ∨
      addressesEqual plan.walletAddress intent.params.ownership.walletAddress = false)
    (.text "plan sender or chain does not match intent ownership")
  let call := plan.encodedCall
  rejectIf (addressesEqual call.target addressWizPayPayroll = false ∨ call.contractID ≠ .wizPayPayroll)
    (.text "plan target is not the canonical payroll contract")
  let deployment ← expectedDeployment .wizPayPayroll registry
  rejectIf (addressesEqual deployment.address call.target = false) (.text "plan target does not match registry")
  match intent.params.financial.payroll with
  | none => .error (.text "payroll financial parameters are required")
  | some financial =>
    if financial.crossTokenExecutable then do
      let decoded ← decodeCrossTokenPayrollCall call.callData
      rejectIf (financial.crossToken.any (bindsCrossToken financial · decoded) = false)
        (.text "plan calldata does not bind cross-token intent")
    else do
      rejectIf (financial.sameTokenExecutable = false) (.text "intent is not same-token payroll")
      let decoded ← decodeSameTokenPayrollCall call.callData
      rejectIf (bindsSameToken financial decoded = false) (.text "plan calldata does not bind intent")

/-! ### Collecting the events -/

structure Events where
  payments : List PaymentEvent
  references : List ReferenceConsumedEvent
  batches : List BatchExecutedEvent
  swaps : List SwapExecutedEvent
  refunds : List SurplusRefundedEvent
deriving DecidableEq

def Events.none : Events := ⟨[], [], [], [], []⟩

/-- One turn of the loop over the logs: other contracts and other events are passed over. -/
def collectLog (crossToken : Bool) (chainID : String) (seen : Events) (raw : ReceiptLog) :
    Except Stop Events :=
  let log := raw.contractLog chainID
  let topic (signature : String) : Bool := raw.topics.head? = some (eventTopic0 signature)
  if addressesEqual raw.address addressWizPayPayroll = false then .ok seen
  else if topic sigPayrollPayment then do
    let e ← (decodePaymentEvent registry log).mapError fun _ => .failed "PAYROLL_PAYMENT_MALFORMED"
    pure { seen with payments := seen.payments ++ [e] }
  else if topic sigPayrollReferenceConsumed then do
    let e ← (decodeReferenceConsumedEvent registry log).mapError fun _ => .failed "PAYROLL_REFERENCE_MALFORMED"
    pure { seen with references := seen.references ++ [e] }
  else if topic sigPayrollBatchExecuted then do
    let e ← (decodeBatchExecutedEvent registry log).mapError fun _ => .failed "PAYROLL_BATCH_MALFORMED"
    pure { seen with batches := seen.batches ++ [e] }
  else if topic sigPayrollSwapExecuted then do
    -- a same-token payroll has neither a swap nor a surplus
    rejectIf (crossToken = false) (.failed "CROSS_TOKEN_EVENT_PRESENT")
    let e ← (decodeSwapExecutedEvent registry log).mapError fun _ => .failed "PAYROLL_SWAP_MALFORMED"
    pure { seen with swaps := seen.swaps ++ [e] }
  else if topic sigPayrollSurplusRefunded then do
    rejectIf (crossToken = false) (.failed "CROSS_TOKEN_EVENT_PRESENT")
    let e ← (decodeSurplusRefundedEvent registry log).mapError fun _ => .failed "PAYROLL_SURPLUS_MALFORMED"
    pure { seen with refunds := seen.refunds ++ [e] }
  else .ok seen

def collect (crossToken : Bool) (chainID : String) : Events → List ReceiptLog → Except Stop Events
  | seen, [] => .ok seen
  | seen, raw :: rest => do
    let next ← collectLog registry crossToken chainID seen raw
    collect crossToken chainID next rest

/-! ### Same-token payrolls -/

/-- A payment is the one of the line at its position. -/
def paymentMatches (wallet token : String) (i : Nat) (line : String × Int) (e : PaymentEvent) : Bool :=
  addressesEqual e.employer wallet && addressesEqual e.tokenOut token && addressesEqual e.recipient line.1 &&
    e.amountOut = line.2 && e.paymentIndex = i

/-- The loop over the payments; an index is compared before the other fields, and the hash after them with the
one of the first payment. -/
def checkPayments (wallet token : String) (first : List UInt8) :
    Nat → List (String × Int) → List PaymentEvent → Except Stop Unit
  | i, line :: lines, e :: payments => do
    rejectIf (e.paymentIndex ≠ i) (.failed "PAYROLL_PAYMENT_INDEX_MISMATCH")
    rejectIf (paymentMatches wallet token i line e = false) (.failed "PAYROLL_PAYMENT_MISMATCH")
    rejectIf (e.referenceHash ≠ first) (.failed "PAYROLL_REFERENCE_HASH_MISMATCH")
    checkPayments wallet token first (i + 1) lines payments
  | _, _, _ => .ok ()

/-- The fee is at most a share of the total, rounded down. -/
def maximumFee (total : Int) : Int := (total * contractMaxFeeBPS).tdiv 10000

/-- The checks on the aggregate events of a same-token payroll. -/
def checkAggregates (wallet token : String) (referenceID : List UInt8) (count : Nat) (total : Int) (hash : List UInt8)
    (ref : ReferenceConsumedEvent) (batch : BatchExecutedEvent) : Except Stop Unit := do
  rejectIf (ref.referenceHash ≠ hash ∨ addressesEqual ref.employer wallet = false ∨ addressesEqual ref.tokenIn token = false ∨
    addressesEqual ref.tokenOut token = false ∨ ref.referenceID ≠ referenceID) (.failed "PAYROLL_REFERENCE_MISMATCH")
  rejectIf (addressesEqual batch.employer wallet = false ∨ addressesEqual batch.tokenIn token = false ∨
    addressesEqual batch.tokenOut token = false ∨ batch.referenceID ≠ referenceID) (.failed "PAYROLL_BATCH_MISMATCH")
  rejectIf (ref.recipientCount ≠ count ∨ batch.recipientCount ≠ count ∨ ref.totalOutput ≠ total ∨
    batch.totalOutput ≠ total ∨ ref.totalInput ≠ batch.totalInput ∨ ref.totalFees ≠ batch.totalFees ∨
    maximumFee total < ref.totalFees ∨ ref.totalInput ≠ total + ref.totalFees) (.failed "PAYROLL_AGGREGATE_TOTAL_MISMATCH")

/-- The checks of `Verify` on the collected events. -/
def checkSameToken (wallet : String) (p : PayrollParameters) (events : Events) : Except Stop Unit := do
  let lines := sameTokenObligations p
  rejectIf (events.payments.length ≠ lines.length) (.failed "PAYROLL_PAYMENT_COUNT_MISMATCH")
  match events.references, events.batches with
  | [ref], [batch] =>
    let hash := (events.payments.head?.map PaymentEvent.referenceHash).getD (List.replicate 32 0)
    checkPayments wallet p.tokenIn.address hash 0 lines events.payments
    checkAggregates wallet p.tokenIn.address (bytes p.referenceID) lines.length (lines.map Prod.snd).sum hash ref batch
  | _, _ => .error (.failed "PAYROLL_AGGREGATE_EVENT_COUNT_MISMATCH")

def sameTokenChecks (plan : Plan) (p : PayrollParameters) (receipt : Receipt) :
    Except Stop Unit := do
  checkEnvelope receipt plan.walletAddress addressWizPayPayroll
  rejectIf (decodeBig receipt.value ≠ some 0) (.failed "TRANSACTION_VALUE_NONZERO")
  rejectIf (receipt.input ≠ plan.encodedCall.callData) (.failed "TRANSACTION_CALLDATA_PLAN_MISMATCH")
  let decoded ← (decodeSameTokenPayrollCall receipt.input).mapError fun _ => .failed "TRANSACTION_CALLDATA_INVALID"
  rejectIf (p.sameTokenExecutable = false) (.failed "INTENT_NOT_SAME_TOKEN")
  rejectIf (bindsSameToken p decoded = false) (.failed "TRANSACTION_FINANCIAL_MISMATCH")
  (validateLogs receipt.logs).mapError fun _ => .failed "RECEIPT_LOGS_MALFORMED"
  let events ← collect registry false receipt.chainID .none receipt.logs
  checkSameToken plan.walletAddress p events

/-! ### Cross-token payrolls -/

/-- What a cross-token payroll spends of the native coin. -/
def crossTokenValue (gross : Int) : Int :=
  if addressesEqual p.tokenIn.address addressUSDCMainnet then gross * 1000000000000 else 0

def checkCrossPayments (wallet token : String) (hash : List UInt8) :
    Nat → List (String × Int) → List PaymentEvent → Except Stop Unit
  | i, line :: lines, e :: payments => do
    rejectIf (e.referenceHash ≠ hash ∨ paymentMatches wallet token i line e = false) (.failed "PAYROLL_PAYMENT_MISMATCH")
    checkCrossPayments wallet token hash (i + 1) lines payments
  | _, _, _ => .ok ()

/-- The checks on the swap of a cross-token payroll. -/
def checkSwap (wallet tokenIn tokenOut : String) (hash : List UInt8) (gross minimum obligations : Int)
    (swap : SwapExecutedEvent) : Except Stop Unit := do
  rejectIf (swap.referenceHash ≠ hash ∨ addressesEqual swap.employer wallet = false ∨
    addressesEqual swap.tokenIn tokenIn = false ∨ addressesEqual swap.tokenOut tokenOut = false ∨ swap.grossInput ≠ gross ∨
    swap.minTotalOut ≠ minimum) (.failed "PAYROLL_SWAP_MISMATCH")
  rejectIf (swap.netAmountIn + swap.feeAmount ≠ gross) (.failed "PAYROLL_FEE_ARITHMETIC_MISMATCH")
  rejectIf (gross * contractMaxFeeBPS < swap.feeAmount * 10000) (.failed "PAYROLL_FEE_EXCEEDS_MAXIMUM")
  rejectIf (swap.amountOut < minimum ∨ swap.amountOut < obligations) (.failed "PAYROLL_OUTPUT_BELOW_REQUIRED")

/-- The surplus of the swap goes back to the employer, or there is none. -/
def checkSurplus (wallet tokenOut : String) (hash : List UInt8) (surplus : Int) (refunds : List SurplusRefundedEvent) :
    Except Stop Unit :=
  if 0 < surplus then
    match refunds with
    | [refund] =>
      rejectIf (refund.referenceHash ≠ hash ∨ addressesEqual refund.employer wallet = false ∨
        addressesEqual refund.tokenOut tokenOut = false ∨ refund.amount ≠ surplus) (.failed "PAYROLL_SURPLUS_MISMATCH")
    | _ => .error (.failed "PAYROLL_SURPLUS_MISMATCH")
  else rejectIf (refunds.length ≠ 0) (.failed "PAYROLL_UNEXPECTED_SURPLUS")

/-- The checks on the aggregate events of a cross-token payroll. -/
def checkCrossAggregates (wallet tokenIn tokenOut : String) (referenceID : List UInt8) (count : Nat)
    (gross obligations fee : Int) (hash : List UInt8) (ref : ReferenceConsumedEvent) (batch : BatchExecutedEvent) :
    Except Stop Unit := do
  rejectIf (ref.referenceHash ≠ hash ∨ addressesEqual ref.employer wallet = false ∨
    addressesEqual ref.tokenIn tokenIn = false ∨ addressesEqual ref.tokenOut tokenOut = false ∨
    ref.referenceID ≠ referenceID ∨ ref.totalInput ≠ gross ∨ ref.totalOutput ≠ obligations ∨ ref.totalFees ≠ fee ∨
    ref.recipientCount ≠ count) (.failed "PAYROLL_REFERENCE_MISMATCH")
  rejectIf (addressesEqual batch.employer wallet = false ∨ addressesEqual batch.tokenIn tokenIn = false ∨
    addressesEqual batch.tokenOut tokenOut = false ∨ batch.referenceID ≠ referenceID ∨ batch.totalInput ≠ gross ∨
    batch.totalOutput ≠ obligations ∨ batch.totalFees ≠ fee ∨ batch.recipientCount ≠ count)
    (.failed "PAYROLL_BATCH_MISMATCH")

/-- The checks of `verifyCrossToken` on the collected events. -/
def checkCrossToken (wallet : String) (p : PayrollParameters) (gross minimum : Int) (events : Events) :
    Except Stop Unit := do
  let lines := crossTokenObligations p
  let obligations := (lines.map Prod.snd).sum
  rejectIf (events.payments.length ≠ lines.length) (.failed "PAYROLL_EVENT_COUNT_MISMATCH")
  match events.swaps, events.references, events.batches with
  | [swap], [ref], [batch] =>
    let hash ← (referenceHash wallet (bytes p.referenceID)).mapError fun _ => .failed "PAYROLL_REFERENCE_HASH_INVALID"
    checkSwap wallet p.tokenIn.address (outputToken p) hash gross minimum obligations swap
    checkCrossPayments wallet (outputToken p) hash 0 lines events.payments
    checkCrossAggregates wallet p.tokenIn.address (outputToken p) (bytes p.referenceID) lines.length gross obligations
      swap.feeAmount hash ref batch
    checkSurplus wallet (outputToken p) hash (swap.amountOut - obligations) events.refunds
  | _, _, _ => .error (.failed "PAYROLL_EVENT_COUNT_MISMATCH")

def crossTokenChecks (plan : Plan) (p : PayrollParameters)
    (crossToken : CrossTokenPayrollParameters) (receipt : Receipt) : Except Stop Unit := do
  checkEnvelope receipt plan.walletAddress addressWizPayPayroll
  rejectIf (receipt.input ≠ plan.encodedCall.callData) (.failed "TRANSACTION_CALLDATA_PLAN_MISMATCH")
  let decoded ← (decodeCrossTokenPayrollCall receipt.input).mapError fun _ => .failed "TRANSACTION_CALLDATA_INVALID"
  rejectIf (bindsCrossToken p crossToken decoded = false) (.failed "TRANSACTION_FINANCIAL_MISMATCH")
  let gross := (baseOf crossToken.grossInput).getD 0
  match decodeBig receipt.value with
  | none => .error (.failed "TRANSACTION_VALUE_INVALID")
  | some value =>
    rejectIf ((value : Int) ≠ crossTokenValue p gross) (.failed "TRANSACTION_VALUE_MISMATCH")
    (validateLogs receipt.logs).mapError fun _ => .failed "RECEIPT_LOGS_MALFORMED"
    let events ← collect registry true receipt.chainID .none receipt.logs
    checkCrossToken plan.walletAddress p gross ((baseOf crossToken.minTotalOut).getD 0) events

/-! ### The verifier -/

def sameTokenProvable : List String :=
  ["sender", "target", "zero_native_value", "calldata", "ordered_payments", "aggregate_totals", "reference"]

def crossTokenProvable : List String :=
  ["sender", "target", "calldata", "funding", "ordered_payments", "aggregate_totals", "reference", "swap", "surplus"]

/-- `Verifier.Verify`. -/
def verify (intent : Intent) (plan : Plan) (receipt : Receipt) : Except Error DomainResult := do
  intent.validate.mapError (Error.under "payroll intent is invalid")
  rejectIf (intent.params.type ≠ .payroll ∨ intent.digest = "" ∨ intent.status = .draft)
    (.text "payroll verifier requires a frozen PAYROLL intent")
  (validatePlan registry intent plan).mapError (Error.under "payroll plan binding is invalid")
  match intent.params.financial.payroll with
  | none => .error (.text "payroll financial parameters are required")
  | some financial =>
    match financial.crossToken, financial.crossTokenExecutable with
    | some crossToken, true =>
      pure (conclude receipt "CROSS_TOKEN_PAYROLL_VERIFIED" sigPayrollSwapExecuted crossTokenProvable
        (crossTokenChecks registry plan financial crossToken receipt))
    | _, _ =>
      pure (conclude receipt "SAME_TOKEN_PAYROLL_VERIFIED" sigPayrollBatchExecuted sameTokenProvable
        (sameTokenChecks registry plan financial receipt))

end WizPay.Payroll
