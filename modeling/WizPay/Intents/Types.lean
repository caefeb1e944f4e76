import WizPay.Contracts.Registry
import WizPay.Lib.GoTime

/-!
# Intent values

`internal/intents/types.go` and `address.go`. A pointer is an `Option`, and a Go text
that is none of the constants of its type is `other`.
-/
namespace WizPay.Intents

open Checks GoText GoTime Contracts

def maxTextLength : Nat := 256

inductive IntentType
  | send | payroll | swap | bridge | ansRegistration
  | other (text : String)
deriving DecidableEq

namespace IntentType

def text : IntentType → String
  | .send => "SEND"
  | .payroll => "PAYROLL"
  | .swap => "SWAP"
  | .bridge => "BRIDGE"
  | .ansRegistration => "ANS_REGISTRATION"
  | .other text => text

def valid : IntentType → Bool
  | .other _ => false
  | _ => true

end IntentType

/-! ### Texts -/

def validateText (name value : String) : Except Error Unit := do
  rejectIf (value = "" ∨ trimSpace value ≠ value)
    (.text s!"{name} is required and must not contain surrounding whitespace")
  rejectIf (len value > maxTextLength) (.text s!"{name} exceeds {maxTextLength} characters")
  rejectIf (hasControl value = true) (.text s!"{name} contains control characters")

/-- The loop over named fields that stops at the first bad one. -/
def validateFields : List (String × String) → Except Error Unit
  | [] => .ok ()
  | (name, value) :: rest => do
    validateText name value
    validateFields rest

def validateChainID (value : String) : Except Error Unit := do
  rejectIf (value = "" ∨ len value > 20 ∨ value.toList.head? = some '0')
    (.text "chain ID must be a canonical positive decimal string")
  rejectIf (value.toList.all isDecimalDigit = false) (.text "chain ID must be a canonical positive decimal string")

def validateEVMAddress (name value : String) : Except Error Unit :=
  rejectIf (validAddress value = false) (.text s!"{name} is not a valid EVM address")

def validateNonZeroEVMAddress (name value : String) : Except Error Unit := do
  validateEVMAddress name value
  rejectIf (normalizeAddress value = addressZero) (.text s!"{name} must not be the zero address")

/-! ### Amounts -/

/-- An exact decimal and its integer base units. -/
structure Amount where
  decimal : String
  baseUnits : String
  decimals : Nat
deriving DecidableEq

def Amount.zero : Amount := ⟨"", "", 0⟩

def notCanonicalDecimal : Error := .text "amount decimal must be a canonical non-negative decimal string"

/-- `len(digits) > 1 && digits[0] == '0'`. -/
def leadingZero (digits : String) : Bool := 1 < len digits && digits.toList.head? = some '0'

/-- The fraction behind the point; the second case has no point. -/
def checkFraction (decimals : Nat) : List String → Except Error String
  | [_, fraction] => do
    rejectIf (fraction = "" ∨ len fraction > decimals ∨ fraction.toList.getLast? = some '0')
      (.text "amount decimal has a non-canonical fractional component")
    rejectIf (fraction.toList.all isDecimalDigit = false) (.text "amount decimal must contain digits only")
    pure fraction
  | _ => pure ""

def decimalToBaseUnits (value : String) (decimals : Nat) : Except Error Int := do
  rejectIf (value = "" ∨ trimSpace value ≠ value ∨ value.toList.head? = some '+' ∨ value.toList.head? = some '-')
    notCanonicalDecimal
  let parts := split value '.'
  let whole := parts.headD ""
  rejectIf (parts.length > 2 ∨ whole = "" ∨ leadingZero whole = true) notCanonicalDecimal
  rejectIf (whole.toList.all isDecimalDigit = false) notCanonicalDecimal
  let fraction ← checkFraction decimals parts
  let digits := whole ++ fraction ++ String.ofList (List.replicate (decimals - len fraction) '0')
  match parseBig digits with
  | some result => pure result
  | none => .error (.text "amount decimal is invalid")

namespace Amount

def validate (a : Amount) : Except Error Unit := do
  rejectIf (a.decimals > 36) (.text "amount decimals cannot exceed 36")
  let want ← decimalToBaseUnits a.decimal a.decimals
  rejectIf (a.baseUnits = "" ∨ leadingZero a.baseUnits = true)
    (.text "amount base units must be a canonical non-negative integer")
  match parseBig a.baseUnits with
  | none => .error (.text "amount base units must be a canonical non-negative integer")
  | some got => do
    rejectIf (got < 0) (.text "amount base units must be a canonical non-negative integer")
    rejectIf (want ≠ got) (.text "amount decimal and base units do not match")

def isZero (a : Amount) : Bool := a.decimal = "" && a.baseUnits = "" && a.decimals = 0

def isPositive (a : Amount) : Bool :=
  a.validate.isOk && (parseBig a.baseUnits).any fun value => 0 < value

def baseInt (a : Amount) : Except Error Int := do
  a.validate
  match parseBig a.baseUnits with
  | some value => pure value
  | none => .error (.text "amount base units are invalid")

end Amount

/-! ### Tokens -/

structure Token where
  chainID : String
  standard : String
  address : String
  symbol : String
  decimals : Nat
deriving DecidableEq

namespace Token

def zero : Token := ⟨"", "", "", "", 0⟩

def isZero (t : Token) : Bool :=
  t.chainID = "" && t.standard = "" && t.address = "" && t.symbol = "" && t.decimals = 0

def validate (t : Token) : Except Error Unit := do
  validateChainID t.chainID
  validateText "token standard" t.standard
  validateText "token address" t.address
  validateText "token symbol" t.symbol
  rejectIf (t.decimals > 36) (.text "token decimals cannot exceed 36")

/-- `ValidatePhase12Token`: also an address that is not the zero address. -/
def validatePhase12Token (t : Token) (name : String) : Except Error Unit := do
  t.validate.mapError (Error.under name)
  validateNonZeroEVMAddress (name ++ " address") t.address

end Token

/-! ### Payloads -/

structure SendParameters where
  token : Token
  recipient : String
  amount : Amount
deriving DecidableEq

/-- `PayrollVariant`; `unset` is the empty text of the legacy shape. -/
inductive PayrollVariant
  | unset | single | batchSingleTokenOut | batchMultiTokenOut
  | other (text : String)
deriving DecidableEq

namespace PayrollVariant

def text : PayrollVariant → String
  | .unset => ""
  | .single => "SINGLE"
  | .batchSingleTokenOut => "BATCH_SINGLE_TOKEN_OUT"
  | .batchMultiTokenOut => "BATCH_MULTI_TOKEN_OUT"
  | .other text => text

def valid : PayrollVariant → Bool
  | .single | .batchSingleTokenOut | .batchMultiTokenOut => true
  | _ => false

end PayrollVariant

def financialSchemaLegacy : Nat := 0

def financialSchemaPhase12 : Nat := 1

/-- One payroll line: `amount` in the legacy shape, the other three in the current one. -/
structure Recipient where
  address : String
  amount : Amount
  tokenOut : Token
  amountIn : Amount
  minAmountOut : Amount
deriving DecidableEq

structure CrossTokenPayrollParameters where
  grossInput : Amount
  minTotalOut : Amount
  minHopPriceX36 : String
  deadline : Int
deriving DecidableEq

structure PayrollParameters where
  schemaVersion : Nat
  variant : PayrollVariant
  tokenIn : Token
  token : Token
  recipients : List Recipient
  total : Amount
  referenceID : String
  crossToken : Option CrossTokenPayrollParameters
deriving DecidableEq

structure SwapQuote where
  quoteID : String
  source : String
  expectedAmountOut : Amount
  minAmountOut : Amount
  router : String
  expiresAt : Int
  evidenceReference : String
deriving DecidableEq

structure SwapParameters where
  schemaVersion : Nat
  inputToken : Token
  outputToken : Token
  inputAmount : Amount
  expectedOutput : Amount
  minimumOutput : Amount
  quoteReference : String
  maxSlippageBPS : Nat
  minHopPriceX36 : String
  router : String
  recipient : String
  quote : Option SwapQuote
  deadline : Int
deriving DecidableEq

structure BridgeParameters where
  sourceChainID : String
  destinationChainID : String
  sourceToken : Token
  sourceAmount : Amount
  destinationAmount : Amount
  destinationAddress : String
  planReference : String
deriving DecidableEq

structure ANSParameters where
  normalizedName : String
  nameVersion : String
  termSeconds : Nat
  controller : String
  costToken : Token
  cost : Amount
deriving DecidableEq

/-- A closed union: exactly one member is present, and it matches the intent's type. -/
structure FinancialParameters where
  send : Option SendParameters
  payroll : Option PayrollParameters
  swap : Option SwapParameters
  bridge : Option BridgeParameters
  ans : Option ANSParameters
deriving DecidableEq

end WizPay.Intents
