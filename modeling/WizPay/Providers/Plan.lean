import WizPay.Contracts.Registry
import WizPay.Execution.Request
import WizPay.Providers.Reference

/-!
# Submission plans

`internal/providers/plan.go`.
-/
namespace WizPay.Providers

open Checks GoText GoTime Contracts

/-- `PlanKind`; `unset` is the empty text, which stands for a token transfer. -/
inductive PlanKind
  | unset | tokenTransfer | contractExecution
  | other (text : String)
deriving DecidableEq

structure Plan where
  kind : PlanKind
  walletBindingID : String
  walletID : String
  walletAddress : String
  chainID : String
  network : String
  destinationAddress : String
  tokenID : String
  amount : String
  tokenAddress : String
  tokenDecimals : Nat
  amountBaseUnits : String
  encodedCall : Option EncodedCall
  /-- the exclusive bound of the first submission; a bound that is set may be the zero time -/
  submitNotAfter : Option Int
  nativeValueBaseUnits : Option String
deriving DecidableEq

/-- The zero `Plan`. -/
def Plan.zero : Plan := ⟨.unset, "", "", "", "", "", "", "", "", "", 0, "", none, none, none⟩

/-- `new(big.Int).SetString(text, 10)`: decimal digits behind an optional sign. -/
def bigInt (text : String) : Option Int :=
  match text.toList with
  | '-' :: digits => if digits ≠ [] ∧ digits.all isDecimalDigit then some (-(digitsValue digits : Int)) else none
  | '+' :: digits => if digits ≠ [] ∧ digits.all isDecimalDigit then some (digitsValue digits : Int) else none
  | digits => if digits ≠ [] ∧ digits.all isDecimalDigit then some (digitsValue digits : Int) else none

def validCanonicalNonNegativeInteger (value : String) : Bool :=
  value ≠ "" && !(1 < len value && value.toList.head? = some '0') &&
    match bigInt value with
    | some parsed => 0 ≤ parsed && parsed < 2 ^ 256
    | none => false

/-- `strings.Cut(text, ".")` with the three results of the source. -/
def cutFraction (text : String) : String × String × Bool :=
  match cut text '.' with
  | some (whole, fraction) => (whole, fraction, true)
  | none => (text, "", false)

def validateAmount (amount : String) : Except Error Unit := do
  rejectIf (amount = "" ∨ len amount > 80 ∨ amount ≠ trimSpace amount) (.text "submission plan amount is invalid")
  let (whole, fraction, hasFraction) := cutFraction amount
  rejectIf (whole = "" ∨ (hasFraction = true ∧ fraction = "")) (.text "submission plan amount is invalid")
  rejectIf ((whole.toList ++ fraction.toList).all isDecimalDigit = false) (.text "submission plan amount is invalid")
  rejectIf ((whole.toList ++ fraction.toList).all (· == '0') = true) (.text "submission plan amount must be positive")

def allowedContractExecutionID : ContractID → Bool
  | .wizPayPayroll | .wizPaySwapExecutor => true
  | .other _ => false

namespace Plan

variable (p : Plan)

/-- `EffectiveKind`. -/
def effectiveKind : PlanKind :=
  match p.kind with
  | .unset => .tokenTransfer
  | kind => kind

/-- `SubmitNotAfter`: a zero bound counts as none. -/
def submitBound : Option Int := p.submitNotAfter.filter (¬ isZero ·)

/-- `FreshnessExpired(at)`. -/
def freshnessExpired (time : Int) : Bool :=
  match p.submitBound with
  | none => false
  | some bound => isZero time || !(time < bound)

def validateTokenTransfer : Except Error Unit := do
  rejectIf (p.encodedCall.isSome = true) (.text "submission plan token transfer cannot carry an encoded call")
  -- freshness bounds belong to contract executions only
  rejectIf (p.submitNotAfter.isSome = true)
    (.text "submission plan token transfer cannot carry a contract freshness bound")
  rejectIf (p.nativeValueBaseUnits.isSome = true)
    (.text "submission plan token transfer cannot carry native contract value")
  rejectIf (validSafeText p.tokenID = false) (.text "submission plan token ID is invalid")
  rejectIf (Providers.validAddress p.destinationAddress = false)
    (.text "submission plan destination address is invalid")
  rejectIf (equalFold p.walletAddress p.destinationAddress = true)
    (.text "submission plan destination cannot equal the source wallet")
  validateAmount p.amount

/-- What the sealed call of a contract execution must carry. -/
def validateEncodedCall (call : EncodedCall) : Except Error Unit := do
  rejectIf (allowedContractExecutionID call.contractID = false)
    (.text s!"submission plan contract {quote call.contractID.text} is not supported")
  rejectIf (call.registryVersion = 0) (.text "submission plan registry version is invalid")
  rejectIf (call.chainID = "" ∨ call.target = "" ∨ call.function = "" ∨ call.callData.length < 4)
    (.text "submission plan encoded call is incomplete")
  rejectIf (Providers.validAddress call.target = false) (.text "submission plan contract address is invalid")
  rejectIf (p.chainID ≠ call.chainID) (.text "submission plan chain ID does not match encoded call")
  rejectIf (p.network ≠ "" ∧ call.network ≠ "" ∧ p.network ≠ call.network)
    (.text "submission plan network does not match encoded call")

def validateContractExecution : Except Error Unit := do
  rejectIf (p.destinationAddress ≠ "" ∨ p.tokenID ≠ "" ∨ p.amount ≠ "")
    (.text "submission plan contract execution cannot carry token-transfer fields")
  match p.encodedCall with
  | none => .error (.text "submission plan contract execution requires a sealed encoded call")
  | some call =>
    rejectIf (p.submitBound = none)
      (.text "submission plan contract execution requires a submit-not-after freshness bound")
    rejectIf ((p.nativeValueBaseUnits.any validCanonicalNonNegativeInteger) = false)
      (.text "submission plan contract execution requires exact native value")
    p.validateEncodedCall call

/-- One of the safe texts of a plan. -/
def validateText (name value : String) : Except Error Unit :=
  rejectIf (validSafeText value = false) (.text s!"submission plan {name} is invalid")

def validate : Except Error Unit := do
  validateText "wallet binding ID" p.walletBindingID
  validateText "wallet ID" p.walletID
  validateText "network" p.network
  rejectIf (validChainID p.chainID = false) (.text "submission plan chain ID is invalid")
  rejectIf (Providers.validAddress p.walletAddress = false) (.text "submission plan wallet address is invalid")
  match p.effectiveKind with
  | .tokenTransfer => p.validateTokenTransfer
  | .contractExecution => p.validateContractExecution
  | _ => .error (.text "submission plan kind is invalid")

end Plan

/-- `EarliestDeadline`: the earliest candidate that is set, or zero. -/
def earliestDeadline (candidates : List Int) : Int :=
  candidates.foldl
    (fun earliest candidate =>
      if isZero candidate then earliest
      else if isZero earliest || candidate < earliest then candidate
      else earliest) 0

/-! ### The idempotency key -/

def idempotencyDomain : String := "WIZPAY_MCP_PROVIDER_IDEMPOTENCY_V1\n"

/-- A digest in the form of a version 4 UUID. -/
def uuidText (sum : List UInt8) : String :=
  let tagged := sum.mapIdx fun i b => if i = 6 then (b &&& 0x0f) ||| 0x40 else if i = 8 then (b &&& 0x3f) ||| 0x80 else b
  let encoded := (tagged.take 16).flatMap Sha256.hexByte
  "-".intercalate ([(0, 8), (8, 12), (12, 16), (16, 20), (20, 32)].map fun (start, stop) =>
    String.ofList ((encoded.drop start).take (stop - start)))

def idempotencyKey (request : Exec.Request) : Except Error String := do
  request.validate
  pure (uuidText (Sha256.sum256 (Exec.hashInput (bytes idempotencyDomain)
    ([request.executionID, request.requestKey, toString request.version, request.operationKey,
      toString request.operationVersion].map bytes))))

end WizPay.Providers
