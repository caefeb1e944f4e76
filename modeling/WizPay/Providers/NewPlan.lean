import WizPay.Contracts.Codec
import WizPay.Providers.Plan

/-!
# Constructors of submission plans

`NewTokenTransferPlan` and `NewContractExecutionPlan` of `internal/providers/plan.go`.
-/
namespace WizPay.Providers

open Checks GoText GoTime Contracts

structure TokenTransferParams where
  walletBindingID : String
  walletID : String
  walletAddress : String
  chainID : String
  network : String
  destination : String
  tokenID : String
  tokenAddress : String
  tokenDecimals : Nat
  amount : String
  amountBaseUnits : String
deriving DecidableEq

def validateExactBaseUnits (decimal baseUnits : String) (decimals : Nat) : Except Error Unit := do
  rejectIf (baseUnits = "" ∨ (1 < len baseUnits ∧ baseUnits.toList.head? = some '0'))
    (.text "strict token transfer base units are invalid")
  let actual := (parseBig baseUnits).getD 0
  rejectIf (actual ≤ 0) (.text "strict token transfer base units must be positive")
  let (whole, fraction, hasFraction) := cutFraction decimal
  rejectIf (decimals < len fraction ∨ whole = "" ∨ (hasFraction = true ∧ fraction = ""))
    (.text "strict token transfer amount precision is invalid")
  let expected := parseBig (whole ++ fraction ++ String.ofList (List.replicate (decimals - len fraction) '0'))
  rejectIf (expected ≠ some actual) (.text "strict token transfer decimal and base units do not match")

/-- The plan that `NewTokenTransferPlan` checks. -/
def TokenTransferParams.plan (p : TokenTransferParams) : Plan :=
  { Plan.zero with
    kind := .tokenTransfer, walletBindingID := p.walletBindingID, walletID := p.walletID,
    walletAddress := p.walletAddress, chainID := p.chainID, network := p.network, destinationAddress := p.destination,
    tokenID := p.tokenID, tokenAddress := p.tokenAddress, tokenDecimals := p.tokenDecimals, amount := p.amount,
    amountBaseUnits := p.amountBaseUnits }

def newTokenTransferPlan (params : TokenTransferParams) : Except Error Plan := do
  let plan := params.plan
  plan.validate
  rejectIf (Providers.validAddress plan.tokenAddress = false ∨ plan.amountBaseUnits = "")
    (.text "strict token transfer requires token address and base units")
  let notCanonical := Error.text "strict token transfer requires a canonical Arc Mainnet token"
  let canonical ← (canonicalToken plan.tokenID).mapError fun _ => notCanonical
  rejectIf (plan.chainID ≠ canonical.chainID ∨ plan.network ≠ canonical.network ∨
    addressesEqual plan.tokenAddress canonical.address = false ∨ plan.tokenDecimals ≠ canonical.decimals) notCanonical
  validateExactBaseUnits plan.amount plan.amountBaseUnits plan.tokenDecimals
  pure plan

structure ContractExecutionParams where
  walletBindingID : String
  walletID : String
  walletAddress : String
  chainID : String
  network : String
  call : EncodedCall
  submitNotAfter : Int
  nativeValueBaseUnits : String
deriving DecidableEq

/-- Base units of the native coin in one base unit of USDC. -/
def nativeScale : Int := 1000000000000

/-- `nativeValueForCall`: what a sealed call spends of the native coin. -/
def nativeValueForCall (call : EncodedCall) : Except Error String :=
  match call.contractID with
  | .wizPayPayroll =>
    if call.function = sigExecuteCrossTokenPayroll then do
      let decoded ← (Payroll.decodeCrossTokenPayrollCall call.callData).mapError
        (Error.under "decode cross-token payroll native value")
      if addressesEqual decoded.tokenIn addressUSDCMainnet then pure (toString (decoded.grossInput * nativeScale))
      else pure "0"
    else pure "0"
  | .wizPaySwapExecutor => do
    let decoded ← (Swap.decodeExecuteSwapCall call.callData).mapError (Error.under "decode swap native value")
    if addressesEqual decoded.tokenIn addressUSDCMainnet then pure (toString (decoded.amountIn * nativeScale))
    else pure "0"
  | .other _ => .error (.text "contract execution native value is unsupported")

def newContractExecutionPlan (params : ContractExecutionParams) : Except Error Plan := do
  rejectIf (params.call.target = "" ∨ params.call.callData.length < 4)
    (.text "contract execution plan requires a sealed encoded call")
  rejectIf (allowedContractExecutionID params.call.contractID = false)
    (.text s!"contract execution plan contract {quote params.call.contractID.text} is not supported")
  rejectIf (isZero params.submitNotAfter = true)
    (.text "contract execution plan requires a submit-not-after freshness bound")
  let expectedNativeValue ← nativeValueForCall params.call
  rejectIf (params.nativeValueBaseUnits ≠ "" ∧ params.nativeValueBaseUnits ≠ expectedNativeValue)
    (.text "contract execution native value does not match sealed call")
  let plan : Plan :=
    { Plan.zero with
      kind := .contractExecution, walletBindingID := params.walletBindingID, walletID := params.walletID,
      walletAddress := params.walletAddress, chainID := params.chainID, network := params.network,
      encodedCall := some params.call, submitNotAfter := some params.submitNotAfter,
      nativeValueBaseUnits := some expectedNativeValue }
  plan.validate
  pure plan

end WizPay.Providers
