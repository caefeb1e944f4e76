import WizPay.Intents.Intent
import WizPay.Providers.NewPlan
import WizPay.Providers.ReceiptLogs

/-!
# Direct transfers

`internal/send`: the plan of a SEND intent and the check of its transaction.
-/
namespace WizPay.Send

open Checks GoText Contracts Intents Providers

structure Plan where
  intentID : String
  intentDigest : String
  token : Token
  recipient : String
  amount : Amount
  wallet : String
  provider : Providers.Plan
deriving DecidableEq

/-- What the provider plan of a transfer is built from. -/
def transferParams (owner : Ownership) (financial : SendParameters) (canonical : TokenResource) : TokenTransferParams :=
  { walletBindingID := owner.walletBindingID, walletID := owner.walletID, walletAddress := owner.walletAddress,
    chainID := owner.chainID, network := owner.network, destination := financial.recipient,
    tokenID := financial.token.symbol, tokenAddress := canonical.address, tokenDecimals := canonical.decimals,
    amount := financial.amount.decimal, amountBaseUnits := financial.amount.baseUnits }

/-- The plan of a frozen intent around its provider plan. -/
def planOf (intent : Intent) (financial : SendParameters) (provider : Providers.Plan) : Plan :=
  { intentID := intent.params.intentID, intentDigest := intent.digest, token := financial.token,
    recipient := financial.recipient, amount := financial.amount, wallet := intent.params.ownership.walletAddress,
    provider }

/-- `Planner.Plan`; a SEND intent that is valid has the parameters of a transfer. -/
def plan (intent : Intent) : Except Error Plan := do
  intent.validate.mapError (Error.under "send intent is invalid")
  rejectIf (intent.params.type ≠ .send) (.text "send planner requires SEND intent")
  rejectIf (intent.digest = "" ∨ (intent.status ≠ .approved ∧ intent.status ≠ .readyForExecution))
    (.text "send planner requires an approved frozen intent")
  match intent.params.financial.send with
  | none => .error (.text "send requires a canonical Arc Mainnet token")
  | some financial =>
    let owner := intent.params.ownership
    let notCanonical := Error.text "send requires a canonical Arc Mainnet token"
    let canonical ← (canonicalToken financial.token.symbol).mapError fun _ => notCanonical
    rejectIf (financial.token.chainID ≠ chainIDArcMainnet ∨ owner.chainID ≠ chainIDArcMainnet ∨
      owner.network ≠ networkArcMainnet ∨ addressesEqual financial.token.address canonical.address = false ∨
      financial.token.decimals ≠ canonical.decimals ∨ financial.token.standard ≠ "ERC20") notCanonical
    let provider ← (newTokenTransferPlan (transferParams owner financial canonical)).mapError
      (Error.under "build send provider plan")
    pure (planOf intent financial provider)

def transferSelector : List UInt8 := [0xa9, 0x05, 0x9c, 0xbb]

/-- `SetString(text, 16)`: an optional sign and hexadecimal digits. -/
def parseHex (chars : List Char) : Option Int :=
  let digitsOf (digits : List Char) : Option Int :=
    if digits.isEmpty || !digits.all isHexCharacter then none else some (hexNumber (digits.map digitValue))
  match chars with
  | '-' :: rest => (digitsOf rest).map Int.neg
  | '+' :: rest => digitsOf rest
  | digits => digitsOf digits

/-- `strings.TrimPrefix(text, "0x")`. -/
def trimHexPrefix : List Char → List Char
  | '0' :: 'x' :: rest => rest
  | chars => chars

/-- The native value of a transaction, as `Verify` reads it. -/
def nativeValue (value : String) : Option Int := parseHex (trimHexPrefix (toLower value).toList)

def decodeTransfer (input : List UInt8) : Except Error (String × Nat) := do
  rejectIf (input.length ≠ 68 ∨ input.take 4 ≠ transferSelector) (.text "calldata is not exact ERC-20 transfer")
  rejectIf (((input.drop 4).take 12).any (· ≠ 0) = true) (.text "recipient word is malformed")
  let recipient := hexOfBytes ((input.drop 16).take 20)
  rejectIf (Contracts.validAddress recipient = false ∨ addressesEqual recipient addressZero = true)
    (.text "recipient is invalid")
  let amount := Abi.number (input.drop 36)
  rejectIf (amount = 0) (.text "amount is invalid")
  pure (recipient, amount)

def topicAddressEquals (topic : List UInt8) (address : String) : Bool :=
  topic.length = 32 && !((topic.take 12).any (· ≠ 0)) && equalFold (hexOfBytes (topic.drop 12)) address

/-- One log of `hasTransferEvent`. -/
def isTransferEvent (token sender recipient : String) (amount : Nat) (log : ReceiptLog) : Bool :=
  addressesEqual log.address token &&
    match log.topics with
    | [event, first, second] =>
      event = transferEventID && log.data.length = 32 && topicAddressEquals first sender &&
        topicAddressEquals second recipient && Abi.number log.data = amount
    | _ => false

def hasTransferEvent (logs : List ReceiptLog) (token sender recipient : String) (amount : Nat) : Bool :=
  logs.any (isTransferEvent token sender recipient amount)

/-- `Verifier.Verify`. -/
def verify (intent : Intent) (plan : Plan) (receipt : Receipt) : Except Error Unit := do
  rejectIf (intent.validate.isOk = false ∨ intent.params.type ≠ .send) (.text "invalid SEND intent")
  rejectIf (plan.intentID ≠ intent.params.intentID ∨ plan.intentDigest ≠ intent.digest)
    (.text "send plan does not match frozen intent")
  rejectIf (receipt.chainID ≠ chainIDArcMainnet ∨ receipt.status ≠ .success)
    (.text "send receipt is not a successful Arc Mainnet receipt")
  rejectIf (receipt.hasTransaction = false) (.text "send transaction evidence is missing")
  rejectIf (addressesEqual receipt.fromAddress plan.wallet = false ∨
      addressesEqual receipt.toAddress plan.token.address = false)
    (.text "send transaction source or token is wrong")
  rejectIf (nativeValue receipt.value ≠ some 0) (.text "send transaction value must be zero")
  let mismatch := Error.text "send calldata does not match frozen intent"
  let (recipient, amount) ← (decodeTransfer receipt.input).mapError fun _ => mismatch
  rejectIf (addressesEqual recipient plan.recipient = false ∨ toString amount ≠ plan.amount.baseUnits) mismatch
  rejectIf (hasTransferEvent receipt.logs plan.token.address plan.wallet plan.recipient amount = false)
    (.text "matching ERC-20 Transfer event is missing")

end WizPay.Send
