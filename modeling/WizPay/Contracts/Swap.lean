import WizPay.Contracts.Calls

/-!
# Swap calldata

`internal/contracts/swap`: the check, the encoder and the decoder of the swap call.
-/
namespace WizPay.Contracts.Swap

open GoText Checks

structure ExecuteSwapInput where
  tokenIn : String
  tokenOut : String
  amountIn : Option Int
  minAmountOut : Option Int
  minHopPriceX36 : Option Int
  deadline : Option Int
deriving DecidableEq

def validateExecuteSwap (input : ExecuteSwapInput) : Except Error Unit := do
  rejectIf (canonicalPair input.tokenIn input.tokenOut = false)
    (.text "token pair must be canonical Arc Mainnet USDC/EURC")
  positiveUint128 "amountIn" input.amountIn
  positiveUint128 "minAmountOut" input.minAmountOut
  positiveUint128 "minHopPriceX36" input.minHopPriceX36
  positiveUint128 "deadline" input.deadline

abbrev executeSwapTypes : List Abi.Ty := [.word 160, .word 160, .word 256, .word 256, .word 256, .word 256]

def ExecuteSwapInput.values (input : ExecuteSwapInput) : Abi.Tuple executeSwapTypes :=
  (hexToAddress input.tokenIn, hexToAddress input.tokenOut, uint256 input.amountIn, uint256 input.minAmountOut,
    uint256 input.minHopPriceX36, uint256 input.deadline, ())

def encodeExecuteSwap (registry : Option Registry) (input : ExecuteSwapInput) : Except Error EncodedCall := do
  let deployment ← expectedDeployment .wizPaySwapExecutor registry
  (validateDeployment .wizPaySwapExecutor "swap" deployment).mapError
    (.wrap .validationError "Swap deployment validation failed." false true true)
  (validateExecuteSwap input).mapError (.wrap .validationError "Swap descriptor is invalid." false true true)
  rejectAdminSelector [sigExecuteSwap] "selector is not the allowlisted swap Mainnet selector" (selector4 sigExecuteSwap)
  newEncodedCall deployment sigExecuteSwap (selector4 sigExecuteSwap)
    (selector4 sigExecuteSwap ++ Abi.pack executeSwapTypes input.values)

structure DecodedExecuteSwap where
  tokenIn : String
  tokenOut : String
  amountIn : Int
  minAmountOut : Int
  minHopPriceX36 : Int
  deadline : Int
deriving DecidableEq

def DecodedExecuteSwap.input (d : DecodedExecuteSwap) : ExecuteSwapInput :=
  ⟨d.tokenIn, d.tokenOut, some d.amountIn, some d.minAmountOut, some d.minHopPriceX36, some d.deadline⟩

def readExecuteSwap : Abi.Tuple executeSwapTypes → DecodedExecuteSwap
  | (tokenIn, tokenOut, amountIn, minAmountOut, minHopPrice, deadline, ()) =>
    ⟨hex tokenIn, hex tokenOut, bigInt amountIn, bigInt minAmountOut, bigInt minHopPrice, bigInt deadline⟩

def decodeExecuteSwapCall (data : List UInt8) : Except Error DecodedExecuteSwap :=
  decodeCall sigExecuteSwap "executeSwap" "executeSwap" readExecuteSwap (fun out => validateExecuteSwap out.input) data

/-! ### Calldata and arguments -/

variable {input : ExecuteSwapInput}

theorem encodeExecuteSwap_callData {registry : Option Registry} {call : EncodedCall}
    (encoded : encodeExecuteSwap registry input = .ok call) :
    validateExecuteSwap input = .ok () ∧
      call.callData = selector4 sigExecuteSwap ++ Abi.pack executeSwapTypes input.values := by
  obtain ⟨deployment, -, rest⟩ := bind_ok.mp encoded
  simp only [guard_ok, mapError_ok] at rest
  obtain ⟨-, checked, -, built⟩ := rest
  rw [newEncodedCall_callData built]
  exact ⟨checked, rfl⟩

theorem encodeExecuteSwap_default (checked : validateExecuteSwap input = .ok ()) :
    encodeExecuteSwap none input = .ok (swapDeploymentV1.call sigExecuteSwap
      (selector4 sigExecuteSwap ++ Abi.pack executeSwapTypes input.values)) := by
  have reviewed : validateDeployment .wizPaySwapExecutor "swap" swapDeploymentV1 = .ok () := by
    rw [validateDeployment, rejectIf_ok]
    simp [swapDeploymentV1, canonicalAddress, addressesEqual_self validAddress_swapExecutor]
  have valid : swapDeploymentV1.validate = .ok () := validate_canonical validAddress_swapExecutor (by decide) (by
    intro signature member
    rw [List.mem_singleton.mp member]
    exact forall_literal rfl (by decide)) (by decide)
  apply bind_ok.mpr
  refine ⟨swapDeploymentV1, expectedDeployment_swap, ?_⟩
  simp only [checks_ok, rejectAdminSelector]
  exact ⟨reviewed, checked, by simp, newEncodedCall_ok valid (by decide) _⟩

theorem values_read (values : Abi.Tuple executeSwapTypes) : (readExecuteSwap values).input.values = values := by
  obtain ⟨tokenIn, tokenOut, amountIn, minAmountOut, minHopPrice, deadline, ⟨⟩⟩ := values
  simp [readExecuteSwap, DecodedExecuteSwap.input, ExecuteSwapInput.values]

/-- The input with its addresses spelled as the decoder spells them. -/
def ExecuteSwapInput.respelled (input : ExecuteSwapInput) : ExecuteSwapInput :=
  { input with tokenIn := checksumAddress input.tokenIn, tokenOut := checksumAddress input.tokenOut }

theorem read_values (checked : validateExecuteSwap input = .ok ()) :
    (readExecuteSwap input.values).input = input.respelled ∧ validateExecuteSwap input.respelled = .ok () := by
  simp only [validateExecuteSwap, checks_ok, Bool.not_eq_false, positiveUint128_eq_ok] at checked
  obtain ⟨pair, amountIn, minimum, price, deadline⟩ := checked
  obtain ⟨validIn, validOut, respelled⟩ := canonicalPair_respelled pair
  constructor
  · simp only [ExecuteSwapInput.values, readExecuteSwap, DecodedExecuteSwap.input, ExecuteSwapInput.respelled,
      bigInt_uint256 amountIn, bigInt_uint256 minimum, bigInt_uint256 price, bigInt_uint256 deadline,
      checksumAddress_valid validIn, checksumAddress_valid validOut]
  · show validateExecuteSwap ⟨checksumAddress input.tokenIn, checksumAddress input.tokenOut, input.amountIn,
      input.minAmountOut, input.minHopPriceX36, input.deadline⟩ = .ok ()
    simp only [validateExecuteSwap, checks_ok, Bool.not_eq_false, positiveUint128_eq_ok]
    exact ⟨respelled, amountIn, minimum, price, deadline⟩

end WizPay.Contracts.Swap
