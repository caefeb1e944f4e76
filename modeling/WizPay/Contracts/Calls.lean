import WizPay.Contracts.Address

/-!
# Sealed calls

What the payroll and the swap package share: the allowlists of a deployment, the
constructor of a sealed call, and the way calldata is read. A decoder packs what it has
unpacked again, so that only one byte string stands for it.
-/
namespace WizPay.Contracts

open GoText Checks

def sigPayrollBatchExecuted : String :=
  "PayrollBatchExecuted(address,address,address,uint256,uint256,uint256,uint256,string)"

def sigPayrollPayment : String := "PayrollPayment(bytes32,address,address,address,uint256,uint256)"

def sigPayrollReferenceConsumed : String :=
  "PayrollReferenceConsumed(bytes32,address,address,address,bytes32,uint256,uint256,uint256,uint256,string)"

def sigPayrollSurplusRefunded : String := "PayrollSurplusRefunded(bytes32,address,address,uint256)"

def sigPayrollSwapExecuted : String :=
  "PayrollSwapExecuted(bytes32,address,address,address,uint256,uint256,uint256,uint256,uint256)"

def sigWizPayMainnetSwapExecuted : String :=
  "WizPayMainnetSwapExecuted(address,address,address,uint256,uint256,uint256,uint256,uint256)"

def canonicalExecution : ContractID → List String
  | .wizPayPayroll => [sigExecuteCrossTokenPayroll, sigExecuteSameTokenPayroll]
  | .wizPaySwapExecutor => [sigExecuteSwap]
  | .other _ => []

def canonicalEvents : ContractID → List String
  | .wizPayPayroll =>
    [sigPayrollBatchExecuted, sigPayrollPayment, sigPayrollReferenceConsumed, sigPayrollSurplusRefunded,
      sigPayrollSwapExecuted]
  | .wizPaySwapExecutor => [sigWizPayMainnetSwapExecuted]
  | .other _ => []

/-- `AllowsEvent`: a registered deployment has the canonical events of its contract. -/
def Deployment.allowsEvent (d : Deployment) (signature : String) : Bool := (canonicalEvents d.id).contains signature

def validateUniqueStrings (name : String) : List String → List String → Except Error Unit
  | _, [] => .ok ()
  | seen, value :: rest => do
    rejectIf (trimSpace value = "" ∨ trimSpace value ≠ value) (.text s!"invalid {name} {quote value}")
    rejectIf (value ∈ seen) (.text s!"duplicate {name} {quote value}")
    validateUniqueStrings name (value :: seen) rest

/-- The reviewed address of each contract. -/
def canonicalAddress : ContractID → String
  | .wizPayPayroll => addressWizPayPayroll
  | .wizPaySwapExecutor => addressWizPaySwapExecutor
  | .other _ => ""

/-- `Deployment.Validate`, as far as a call's material goes. -/
def Deployment.validate (d : Deployment) : Except Error Unit := do
  rejectIf (d.id.valid = false) (.text s!"invalid contract ID {quote d.id.text}")
  rejectIf (d.registryVersion = 0) (.text "registry version must be positive")
  rejectIf (d.chainID ≠ chainIDArcMainnet)
    (.text s!"chain ID {quote d.chainID} is not the supported Arc Mainnet chain")
  rejectIf (d.network ≠ networkArcMainnet)
    (.text s!"network {quote d.network} is not the supported Arc Mainnet network label")
  rejectIf (validAddress d.address = false) (.text "deployment address is malformed")
  rejectIf (d.executionFunctions = []) (.text "deployment must declare at least one execution function")
  validateUniqueStrings "execution function" [] d.executionFunctions
  rejectIf (normalizeAddress d.address ≠ normalizeAddress (canonicalAddress d.id))
    (.text s!"{d.id.text} address does not match the reviewed Arc Mainnet deployment")
  rejectIf (d.executionFunctions.isPerm (canonicalExecution d.id) = false)
    (.text s!"{d.id.text} execution function allowlist does not match the canonical set")

theorem validateUniqueStrings_graphic {name : String} {values seen : List String}
    (graphic : ∀ value ∈ values, ∀ c ∈ value.toList, isGraphic c = true) (named : ∀ value ∈ values, value ≠ "")
    (distinct : values.Nodup) (fresh : ∀ value ∈ values, value ∉ seen) :
    validateUniqueStrings name seen values = .ok () := by
  induction values generalizing seen with
  | nil => rfl
  | cons value rest ih =>
    have trimmed := trimSpace_graphic (graphic value (.head _))
    obtain ⟨first, others⟩ := List.nodup_cons.mp distinct
    simp only [validateUniqueStrings, checks_ok, trimmed]
    refine ⟨by simpa using named value List.mem_cons_self, fresh value List.mem_cons_self, ?_⟩
    refine ih (fun v member => graphic v (.tail _ member))
      (fun v member => named v (.tail _ member)) others ?_
    intro v member
    rw [List.mem_cons, not_or]
    exact ⟨fun same => first (same ▸ member), fresh v (.tail _ member)⟩

theorem validate_canonical {d : Deployment} (valid : validAddress d.address = true)
    (material : d.id.valid = true ∧ d.registryVersion ≠ 0 ∧ d.chainID = chainIDArcMainnet ∧
      d.network = networkArcMainnet ∧ d.address = canonicalAddress d.id ∧
      d.executionFunctions = canonicalExecution d.id)
    (graphic : ∀ signature ∈ d.executionFunctions, ∀ c ∈ signature.toList, isGraphic c = true)
    (listed : d.executionFunctions ≠ [] ∧ d.executionFunctions.Nodup ∧ "" ∉ d.executionFunctions) :
    d.validate = .ok () := by
  obtain ⟨id, version, chain, network, address, functions⟩ := material
  have unique : validateUniqueStrings "execution function" [] d.executionFunctions = .ok () :=
    validateUniqueStrings_graphic graphic (fun v member same => listed.2.2 (same ▸ member)) listed.2.1 (by simp)
  have same : d.executionFunctions.isPerm (canonicalExecution d.id) = true := by
    rw [List.isPerm_iff, functions]
  simp only [Deployment.validate, checks_ok]
  exact ⟨by simp [id], version, by simp [chain], by simp [network], by simp [valid], listed.1, unique,
    by simp [← address], by simp [same]⟩

/-! ### Building a call -/

/-- `Selector4`. -/
def selector4 (signature : String) : List UInt8 := (Keccak.sum256 (bytes signature)).take 4

@[simp] theorem selector4_length (signature : String) : (selector4 signature).length = 4 := by simp [selector4]

/-- The unexported constructor `newEncodedCall`: the target is the deployment's. -/
def Deployment.call (d : Deployment) (function : String) (callData : List UInt8) : EncodedCall :=
  { contractID := d.id, registryVersion := d.registryVersion, chainID := d.chainID, network := d.network,
    target := d.address, function, callData }

/-- `NewEncodedCall`. -/
def newEncodedCall (deployment : Deployment) (function : String) (selector callData : List UInt8) :
    Except Error EncodedCall := do
  deployment.validate.mapError (Error.under "encoded call deployment is invalid")
  rejectIf (deployment.allowsExecution function = false)
    (.text s!"function {quote function} is not an allowlisted execution function")
  rejectIf (selector ≠ selector4 function) (.text "selector does not match function signature")
  rejectIf (callData.length < 4) (.text "call data is too short")
  rejectIf (callData.take 4 ≠ selector) (.text "call data does not begin with the function selector")
  pure (deployment.call function callData)

theorem newEncodedCall_callData {deployment : Deployment} {function : String} {selector callData : List UInt8}
    {call : EncodedCall} (built : newEncodedCall deployment function selector callData = .ok call) :
    call = deployment.call function callData := by
  simp only [newEncodedCall, guard_ok, pure_ok] at built
  obtain ⟨-, -, -, -, -, rfl⟩ := built
  rfl

theorem newEncodedCall_ok {deployment : Deployment} {function : String} (valid : deployment.validate = .ok ())
    (allowed : deployment.allowsExecution function = true) (packed : List UInt8) :
    newEncodedCall deployment function (selector4 function) (selector4 function ++ packed) =
      .ok (deployment.call function (selector4 function ++ packed)) := by
  have start : (selector4 function ++ packed).take 4 = selector4 function :=
    List.take_left' (selector4_length function)
  simp only [newEncodedCall, checks_ok, pure_ok, valid, allowed, start]
  simp

/-- `RejectAdminSelector` of either package, with the signatures it admits. -/
def rejectAdminSelector (allowed : List String) (message : String) (selector : List UInt8) : Except Error Unit :=
  rejectIf (∀ signature ∈ allowed, selector ≠ selector4 signature) (.text message)

/-- `ExpectedDeployment` of either package: no registry is the default one. -/
def expectedDeployment (id : ContractID) (registry : Option Registry) : Except Error Deployment :=
  (registry.getD defaultRegistry).require id registryVersion chainIDArcMainnet networkArcMainnet

theorem expectedDeployment_payroll : expectedDeployment .wizPayPayroll none = .ok payrollDeploymentV1 := by decide

theorem expectedDeployment_swap : expectedDeployment .wizPaySwapExecutor none = .ok swapDeploymentV1 := by decide

/-- `validateDeployment` of either package. -/
def validateDeployment (id : ContractID) (label : String) (d : Deployment) : Except Error Unit :=
  rejectIf (d.id ≠ id ∨ d.registryVersion ≠ registryVersion ∨ d.chainID ≠ chainIDArcMainnet ∨
      d.network ≠ networkArcMainnet ∨ addressesEqual d.address (canonicalAddress id) = false ∨ d.status ≠ .enabled)
    (.text s!"{label} deployment does not match the canonical Arc Mainnet descriptor")

/-! ### Checks of arguments -/

def canonicalPair (tokenIn tokenOut : String) : Bool :=
  (addressesEqual tokenIn addressUSDCMainnet && addressesEqual tokenOut addressEURCMainnet) ||
    (addressesEqual tokenIn addressEURCMainnet && addressesEqual tokenOut addressUSDCMainnet)

theorem addressesEqual_respelled {value other : String} (valid : validAddress value = true) :
    addressesEqual (checksumAddress value) other = addressesEqual value other := by
  rw [Bool.eq_iff_iff, checksumAddress_valid valid, addressesEqual_iff, addressesEqual_iff]
  simp [valid]

theorem validAddress_checksumAddress {value : String} (valid : validAddress value = true) :
    validAddress (checksumAddress value) = true := by
  rw [checksumAddress_valid valid]
  exact validAddress_hex _

theorem normalizeAddress_respelled {value : String} (valid : validAddress value = true) :
    normalizeAddress (checksumAddress value) = normalizeAddress value := by
  have same := addressesEqual_checksumAddress valid
  simpa [addressesEqual, valid, validAddress_checksumAddress valid] using same

theorem canonicalPair_respelled {tokenIn tokenOut : String} (pair : canonicalPair tokenIn tokenOut = true) :
    validAddress tokenIn = true ∧ validAddress tokenOut = true ∧
      canonicalPair (checksumAddress tokenIn) (checksumAddress tokenOut) = true := by
  have valid : validAddress tokenIn = true ∧ validAddress tokenOut = true := by
    rcases Bool.or_eq_true_iff.mp pair with same | same
    all_goals
      obtain ⟨first, second⟩ := Bool.and_eq_true_iff.mp same
      exact ⟨(addressesEqual_iff.mp first).1, (addressesEqual_iff.mp second).1⟩
  refine ⟨valid.1, valid.2, ?_⟩
  simpa only [canonicalPair, addressesEqual_respelled valid.1, addressesEqual_respelled valid.2] using pair

/-- `positiveUint128`; no value is a nil pointer. -/
def positiveUint128 (name : String) (value : Option Int) : Except Error Unit := do
  rejectIf (value.getD 0 ≤ 0) (.text s!"{name} must be greater than zero")
  rejectIf (2 ^ 128 ≤ value.getD 0) (.text s!"{name} exceeds uint128")

/-- A positive number of at most 128 bits. -/
def Uint128 (value : Option Int) : Prop := ∃ n : Nat, value = some (n : Int) ∧ 0 < n ∧ n < 2 ^ 128

theorem positiveUint128_eq_ok {name : String} {value : Option Int} :
    positiveUint128 name value = .ok () ↔ Uint128 value := by
  simp only [positiveUint128, checks_ok, not_le]
  constructor
  · rintro ⟨positive, small⟩
    cases value with
    | none => exact absurd positive (by simp)
    | some n =>
      have eq : ((n.toNat : Nat) : Int) = n := Int.toNat_of_nonneg positive.le
      rw [Option.getD_some] at positive small
      exact ⟨n.toNat, by rw [eq], by omega, by omega⟩
  · rintro ⟨n, rfl, positive, small⟩
    rw [Option.getD_some]
    omega

/-- The word that a checked amount is packed as. -/
def uint256 (value : Option Int) : BitVec 256 := BitVec.ofInt 256 (value.getD 0)

/-- An amount as it was unpacked. -/
def bigInt (value : BitVec 256) : Int := value.toNat

theorem bigInt_uint256 {value : Option Int} (checked : Uint128 value) :
    some (bigInt (uint256 value)) = value := by
  obtain ⟨n, rfl, -, small⟩ := checked
  simp [bigInt, uint256]
  omega

@[simp] theorem uint256_bigInt (value : BitVec 256) : uint256 (some (bigInt value)) = value := by
  apply BitVec.eq_of_toNat_eq
  simp [bigInt, uint256]

section Decode

variable {ts : List Abi.Ty} {α : Type}

/-- The call decoders: `method` and `label` are the words of their errors. -/
def decodeCall (signature method label : String) (read : Abi.Tuple ts → α) (check : α → Except Error Unit)
    (data : List UInt8) : Except Error α := do
  rejectIf (data.length < 4 ∨ data.take 4 ≠ selector4 signature) (.text s!"calldata selector is not {method}")
  match Abi.unpack ts (data.drop 4) with
  | none => .error (.text s!"decode {label} calldata")
  | some values =>
    check (read values)
    rejectIf (data ≠ selector4 signature ++ Abi.pack ts values) (.text s!"{label} calldata is not canonical")
    pure (read values)

variable {signature method label : String} {read : Abi.Tuple ts → α} {check : α → Except Error Unit}
  {data : List UInt8} {out : α}

/-- **What a call decoder accepts** is the packing of arguments that pass its check. -/
theorem decodeCall_eq_ok :
    decodeCall signature method label read check data = .ok out ↔
      ∃ values, data = selector4 signature ++ Abi.pack ts values ∧
        Abi.unpack ts (Abi.pack ts values) = some values ∧ check (read values) = .ok () ∧ read values = out := by
  have whole : ∀ packed, (selector4 signature ++ packed).drop 4 = packed := fun packed =>
    List.drop_left' (selector4_length signature)
  have start : ∀ packed, (selector4 signature ++ packed).take 4 = selector4 signature := fun packed =>
    List.take_left' (selector4_length signature)
  constructor
  · intro decoded
    simp only [decodeCall, guard_ok] at decoded
    obtain ⟨-, decoded⟩ := decoded
    split at decoded
    next => cases decoded
    next values unpacked =>
      simp only [checks_ok, not_not, pure_ok] at decoded
      obtain ⟨checked, canonical, result⟩ := decoded
      rw [canonical, whole] at unpacked
      exact ⟨values, canonical, unpacked, checked, result⟩
  · rintro ⟨values, rfl, unpacked, checked, rfl⟩
    simp only [decodeCall, checks_ok]
    refine ⟨by simp [start], ?_⟩
    simp only [whole, unpacked, checks_ok, pure_ok]
    exact ⟨checked, by simp, trivial⟩

end Decode

end WizPay.Contracts
