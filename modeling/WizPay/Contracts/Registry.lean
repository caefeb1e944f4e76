import WizPay.Errors
import WizPay.Lib.GoText

/-!
# Contract deployments

`internal/contracts`: the static registry of reviewed deployments, the canonical
tokens, and the sealed calls that name a registered target.
-/
namespace WizPay.Contracts

open GoText

/-- `ContractID`; `other` is a text that names no contract. -/
inductive ContractID
  | wizPayPayroll | wizPaySwapExecutor
  | other (text : String)
deriving DecidableEq

namespace ContractID

def text : ContractID → String
  | .wizPayPayroll => "WIZPAY_PAYROLL"
  | .wizPaySwapExecutor => "WIZPAY_SWAP_EXECUTOR"
  | .other text => text

def valid : ContractID → Bool
  | .other _ => false
  | _ => true

end ContractID

def registryVersion : Nat := 1

def chainIDArcMainnet : String := "5042"

def networkArcMainnet : String := "MAINNET"

def addressWizPayPayroll : String := "0x77AC7Cb6507D404b5530fC03e3D39BAaEdE10C34"

def addressWizPaySwapExecutor : String := "0x7A051F17B237750EF9D4E63fb75381B9F8755774"

def addressUSDCMainnet : String := "0x3600000000000000000000000000000000000000"

def addressEURCMainnet : String := "0xbEf5f6d51CB62b58e6A8f77868681825C6fe21c1"

def addressUniswapUniversalRouter : String := "0x4fca4a51ab4f23a7447b3284fbd7d73289a89fb1"

def addressZero : String := "0x0000000000000000000000000000000000000000"

def contractMaxFeeBPS : Nat := 100

def sigExecuteSameTokenPayroll : String := "executeSameTokenPayroll(address,address[],uint256[],string)"

def sigExecuteCrossTokenPayroll : String :=
  "executeCrossTokenPayroll(address,address,address[],uint256[],uint256,uint256,uint256,uint256,string)"

def sigExecuteSwap : String := "executeSwap(address,address,uint256,uint256,uint256,uint256)"

/-! ### Addresses -/

def isHexCharacter (c : Char) : Bool :=
  isDecimalDigit c || ('a'.toNat ≤ c.toNat && c.toNat ≤ 'f'.toNat) || ('A'.toNat ≤ c.toNat && c.toNat ≤ 'F'.toNat)

/-- `ValidAddress`: here the prefix may be written with a capital x. -/
def validAddress (value : String) : Bool :=
  len value = 42 &&
    match value.toList with
    | '0' :: x :: digits => (x == 'x' || x == 'X') && digits.all isHexCharacter
    | _ => false

def normalizeAddress (value : String) : String :=
  let trimmed := trimSpace value
  if validAddress trimmed then toLower trimmed else trimmed

def addressesEqual (a b : String) : Bool :=
  validAddress a && validAddress b && normalizeAddress a == normalizeAddress b

/-! ### Tokens -/

structure TokenResource where
  symbol : String
  chainID : String
  network : String
  address : String
  decimals : Nat
deriving DecidableEq

def canonicalTokenDecimals : Nat := 6

/-- The tokens of `DefaultArcMainnetResources`. -/
def arcMainnetTokens : List TokenResource :=
  [⟨"USDC", chainIDArcMainnet, networkArcMainnet, addressUSDCMainnet, canonicalTokenDecimals⟩,
    ⟨"EURC", chainIDArcMainnet, networkArcMainnet, addressEURCMainnet, canonicalTokenDecimals⟩]

def canonicalToken (symbol : String) : Except Error TokenResource :=
  match arcMainnetTokens.find? fun token => token.symbol = symbol with
  | some token => .ok token
  | none => .error (.text s!"token {quote symbol} is not registered for Arc Mainnet")

/-! ### Deployments -/

inductive DeploymentStatus
  | enabled | disabled
deriving DecidableEq

structure Deployment where
  id : ContractID
  registryVersion : Nat
  chainID : String
  network : String
  address : String
  executionFunctions : List String
  status : DeploymentStatus
deriving DecidableEq

def Deployment.allowsExecution (d : Deployment) (signature : String) : Bool :=
  d.executionFunctions.contains signature

def payrollDeploymentV1 : Deployment :=
  { id := .wizPayPayroll, registryVersion := Contracts.registryVersion, chainID := chainIDArcMainnet,
    network := networkArcMainnet, address := addressWizPayPayroll,
    executionFunctions := [sigExecuteCrossTokenPayroll, sigExecuteSameTokenPayroll], status := .enabled }

def swapDeploymentV1 : Deployment :=
  { id := .wizPaySwapExecutor, registryVersion := Contracts.registryVersion, chainID := chainIDArcMainnet,
    network := networkArcMainnet, address := addressWizPaySwapExecutor,
    executionFunctions := [sigExecuteSwap], status := .enabled }

/-- The registered deployments, one for each contract and version. -/
abbrev Registry : Type := List Deployment

def defaultRegistry : Registry := [payrollDeploymentV1, swapDeploymentV1]

def validationError (message : String) : Error := .app .validationError message false true true

def contractNotFound : Error := .app .contractNotFound "Contract deployment was not found." false true true

def contractUnavailable : Error := .app .contractUnavailable "Contract deployment is unavailable." false true false

namespace Registry

def getVersion (r : Registry) (id : ContractID) (version : Nat) : Except Error Deployment :=
  if id.valid = false ∨ version = 0 then .error (validationError "Contract deployment lookup is invalid.")
  else
    match r.find? fun d => d.id = id && d.registryVersion = version with
    | some deployment => .ok deployment
    | none => .error contractNotFound

/-- `Require`: an empty chain or network is not compared. -/
def require (r : Registry) (id : ContractID) (version : Nat) (chainID network : String) : Except Error Deployment :=
  match r.getVersion id version with
  | .error e => .error e
  | .ok deployment =>
    if deployment.status ≠ .enabled then .error contractUnavailable
    else if chainID ≠ "" ∧ chainID ≠ deployment.chainID then
      .error (validationError
        "Contract deployment chain ID does not match the registered Arc Mainnet deployment.")
    else if network ≠ "" ∧ network ≠ deployment.network then
      .error (validationError
        "Contract deployment network does not match the registered Arc Mainnet deployment.")
    else .ok deployment

end Registry

/-- A sealed call: its target and chain come from a deployment, never from a caller. -/
structure EncodedCall where
  contractID : ContractID
  registryVersion : Nat
  chainID : String
  network : String
  target : String
  function : String
  callData : List UInt8
deriving DecidableEq

end WizPay.Contracts
