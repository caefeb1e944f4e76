import WizPay.Contracts.Calls

/-!
# Payroll calldata

`internal/contracts/payroll`: the checks, the encoders and the decoders of the two
payroll calls. A reference ID is the bytes of its text, since calldata can carry any.
-/
namespace WizPay.Contracts.Payroll

open GoText Checks

def maxReferenceIDLength : Nat := 64

def maxBatchRecipients : Nat := 50

structure SameTokenPayrollInput where
  token : String
  recipients : List String
  amounts : List (Option Int)
  referenceID : List UInt8
deriving DecidableEq

structure CrossTokenPayrollInput where
  tokenIn : String
  tokenOut : String
  recipients : List String
  outputAmounts : List (Option Int)
  grossInput : Option Int
  minTotalOut : Option Int
  minHopPriceX36 : Option Int
  deadline : Option Int
  referenceID : List UInt8
deriving DecidableEq

/-! ### Checks -/

/-- The characters that `strings.TrimSpace` removes, as bytes. -/
def spaceBytes : List (List UInt8) :=
  ([0x09, 0x0A, 0x0B, 0x0C, 0x0D, 0x20, 0x85, 0xA0, 0x1680, 0x2000, 0x2001, 0x2002, 0x2003, 0x2004, 0x2005, 0x2006,
    0x2007, 0x2008, 0x2009, 0x200A, 0x2028, 0x2029, 0x202F, 0x205F, 0x3000] : List Nat).map
      fun n => bytes (String.singleton (Char.ofNat n))

/-- `strings.TrimSpace(text) == text`: no space stands at either end. -/
def isTrimmed (text : List UInt8) : Bool :=
  spaceBytes.all fun space => !space.isPrefixOf text && !space.isSuffixOf text

/-- The loop of `validateBatch` over the recipients and their amounts. -/
def validateEntries : Nat → List (String × Option Int) → Except Error Unit
  | _, [] => .ok ()
  | i, (recipient, amount) :: rest => do
    rejectIf (validAddress recipient = false ∨ addressesEqual recipient addressZero = true)
      (.text s!"recipients[{i}] is invalid")
    positiveUint128 s!"amounts[{i}]" amount
    validateEntries (i + 1) rest

def validateBatch (recipients : List String) (amounts : List (Option Int)) (referenceID : List UInt8) :
    Except Error Unit := do
  rejectIf (recipients.length = 0 ∨ maxBatchRecipients < recipients.length)
    (.text s!"recipient count must be between 1 and {maxBatchRecipients}")
  rejectIf (amounts.length ≠ recipients.length) (.text "amounts length must match recipients length")
  rejectIf (referenceID = [] ∨ isTrimmed referenceID = false ∨ maxReferenceIDLength < referenceID.length)
    (.text s!"referenceId must be non-empty trimmed text of at most {maxReferenceIDLength} bytes")
  validateEntries 0 (recipients.zip amounts)

def canonicalToken (value : String) : Bool :=
  addressesEqual value addressUSDCMainnet || addressesEqual value addressEURCMainnet

def validateSameToken (input : SameTokenPayrollInput) : Except Error Unit := do
  rejectIf (canonicalToken input.token = false) (.text "token must be canonical Arc Mainnet USDC or EURC")
  validateBatch input.recipients input.amounts input.referenceID

/-- The loop of `validateCrossToken` that looks for the contract itself and for repeated recipients. -/
def validateDistinct : Nat → List String → List String → Except Error Unit
  | _, _, [] => .ok ()
  | i, seen, recipient :: rest => do
    rejectIf (addressesEqual recipient addressWizPayPayroll = true)
      (.text s!"recipients[{i}] cannot be the payroll contract")
    rejectIf (normalizeAddress recipient ∈ seen) (.text s!"recipients[{i}] is duplicated")
    validateDistinct (i + 1) (normalizeAddress recipient :: seen) rest

def validateCrossToken (input : CrossTokenPayrollInput) : Except Error Unit := do
  rejectIf (canonicalPair input.tokenIn input.tokenOut = false)
    (.text "token pair must be canonical Arc Mainnet USDC/EURC")
  validateBatch input.recipients input.outputAmounts input.referenceID
  validateDistinct 0 [] input.recipients
  positiveUint128 "grossInput" input.grossInput
  positiveUint128 "minTotalOut" input.minTotalOut
  positiveUint128 "minHopPriceX36" input.minHopPriceX36
  positiveUint128 "deadline" input.deadline
  rejectIf (input.minTotalOut.getD 0 < (input.outputAmounts.map fun amount => amount.getD 0).sum)
    (.text "minTotalOut must cover exact output obligations")

/-! ### Encoding -/

abbrev sameTokenTypes : List Abi.Ty := [.word 160, .words 160, .words 256, .text]

abbrev crossTokenTypes : List Abi.Ty :=
  [.word 160, .word 160, .words 160, .words 256, .word 256, .word 256, .word 256, .word 256, .text]

def SameTokenPayrollInput.values (input : SameTokenPayrollInput) : Abi.Tuple sameTokenTypes :=
  (hexToAddress input.token, input.recipients.map hexToAddress, input.amounts.map uint256, input.referenceID, ())

def CrossTokenPayrollInput.values (input : CrossTokenPayrollInput) : Abi.Tuple crossTokenTypes :=
  (hexToAddress input.tokenIn, hexToAddress input.tokenOut, input.recipients.map hexToAddress,
    input.outputAmounts.map uint256, uint256 input.grossInput, uint256 input.minTotalOut, uint256 input.minHopPriceX36,
    uint256 input.deadline, input.referenceID, ())

def payrollSignatures : List String := [sigExecuteSameTokenPayroll, sigExecuteCrossTokenPayroll]

def buildCall (deployment : Deployment) (signature : String) (packed : List UInt8) : Except Error EncodedCall := do
  rejectAdminSelector payrollSignatures "selector is not an allowlisted payroll Mainnet selector" (selector4 signature)
  newEncodedCall deployment signature (selector4 signature) (selector4 signature ++ packed)

/-- What both encoders do around their own check and arguments. -/
def encode (registry : Option Registry) (signature invalid : String) (check : Except Error Unit) (packed : List UInt8) :
    Except Error EncodedCall := do
  let deployment ← expectedDeployment .wizPayPayroll registry
  (validateDeployment .wizPayPayroll "payroll" deployment).mapError
    (.wrap .validationError "Payroll deployment validation failed." false true true)
  check.mapError (.wrap .validationError invalid false true true)
  buildCall deployment signature packed

def encodeSameTokenPayroll (registry : Option Registry) (input : SameTokenPayrollInput) : Except Error EncodedCall :=
  encode registry sigExecuteSameTokenPayroll "Same-token payroll descriptor is invalid." (validateSameToken input)
    (Abi.pack sameTokenTypes input.values)

def encodeCrossTokenPayroll (registry : Option Registry) (input : CrossTokenPayrollInput) : Except Error EncodedCall :=
  encode registry sigExecuteCrossTokenPayroll "Cross-token payroll descriptor is invalid." (validateCrossToken input)
    (Abi.pack crossTokenTypes input.values)

/-! ### Decoding -/

structure DecodedSameTokenPayroll where
  token : String
  recipients : List String
  amounts : List Int
  referenceID : List UInt8
deriving DecidableEq

structure DecodedCrossTokenPayroll where
  tokenIn : String
  tokenOut : String
  recipients : List String
  outputAmounts : List Int
  grossInput : Int
  minTotalOut : Int
  minHopPriceX36 : Int
  deadline : Int
  referenceID : List UInt8
deriving DecidableEq

/-- The decoded call as an encoder's input. -/
def DecodedSameTokenPayroll.input (d : DecodedSameTokenPayroll) : SameTokenPayrollInput :=
  ⟨d.token, d.recipients, d.amounts.map some, d.referenceID⟩

def DecodedCrossTokenPayroll.input (d : DecodedCrossTokenPayroll) : CrossTokenPayrollInput :=
  ⟨d.tokenIn, d.tokenOut, d.recipients, d.outputAmounts.map some, some d.grossInput, some d.minTotalOut,
    some d.minHopPriceX36, some d.deadline, d.referenceID⟩

def readSameToken : Abi.Tuple sameTokenTypes → DecodedSameTokenPayroll
  | (token, recipients, amounts, referenceID, ()) => ⟨hex token, recipients.map hex, amounts.map bigInt, referenceID⟩

def readCrossToken : Abi.Tuple crossTokenTypes → DecodedCrossTokenPayroll
  | (tokenIn, tokenOut, recipients, amounts, gross, minimum, price, deadline, referenceID, ()) =>
    ⟨hex tokenIn, hex tokenOut, recipients.map hex, amounts.map bigInt, bigInt gross, bigInt minimum, bigInt price,
      bigInt deadline, referenceID⟩

def decodeSameTokenPayrollCall (data : List UInt8) : Except Error DecodedSameTokenPayroll :=
  decodeCall sigExecuteSameTokenPayroll "executeSameTokenPayroll" "same-token payroll" readSameToken
    (fun out => validateSameToken out.input) data

def decodeCrossTokenPayrollCall (data : List UInt8) : Except Error DecodedCrossTokenPayroll :=
  decodeCall sigExecuteCrossTokenPayroll "executeCrossTokenPayroll" "cross-token payroll" readCrossToken
    (fun out => validateCrossToken out.input) data

/-- `ReferenceHash`: the hash of the chain, the contract, the employer and the reference ID. -/
def referenceHash (employer : String) (referenceID : List UInt8) : Except Error (List UInt8) :=
  if validAddress employer = false ∨ referenceID = [] then .error (.text "reference hash material is invalid")
  else .ok (Keccak.sum256 (Abi.pack [.word 256, .word 160, .word 160, .text]
    (5042, hexToAddress addressWizPayPayroll, hexToAddress employer, referenceID, ())))

section Checked

variable {recipients : List String} {amounts : List (Option Int)} {referenceID : List UInt8}

theorem validateEntries_eq_ok {i : Nat} {entries : List (String × Option Int)} :
    validateEntries i entries = .ok () ↔
      ∀ entry ∈ entries, validAddress entry.1 = true ∧ addressesEqual entry.1 addressZero = false ∧
        Uint128 entry.2 := by
  induction entries generalizing i with
  | nil => simp [validateEntries]
  | cons entry rest ih =>
    obtain ⟨recipient, amount⟩ := entry
    simp only [validateEntries, checks_ok, positiveUint128_eq_ok, ih, List.forall_mem_cons, not_or,
      Bool.not_eq_false, Bool.not_eq_true, and_assoc]

theorem validateBatch_eq_ok :
    validateBatch recipients amounts referenceID = .ok () ↔
      recipients.length ≠ 0 ∧ recipients.length ≤ maxBatchRecipients ∧ amounts.length = recipients.length ∧
        referenceID ≠ [] ∧ isTrimmed referenceID = true ∧ referenceID.length ≤ maxReferenceIDLength ∧
        (∀ r ∈ recipients, validAddress r = true ∧ addressesEqual r addressZero = false) ∧
        ∀ amount ∈ amounts, Uint128 amount := by
  simp only [validateBatch, checks_ok, validateEntries_eq_ok, not_or, not_lt, not_not, Bool.not_eq_false, and_assoc]
  refine and_congr_right fun _ => and_congr_right fun _ => and_congr_right fun length => and_congr_right fun _ =>
    and_congr_right fun _ => and_congr_right fun _ => ?_
  -- the two lists have one length, so that each item of either is in a pair
  constructor
  · intro entries
    constructor
    · intro r member
      obtain ⟨i, bound, rfl⟩ := List.mem_iff_getElem.mp member
      have pair : (recipients[i], amounts[i]) ∈ recipients.zip amounts := by
        rw [List.mem_iff_getElem]
        exact ⟨i, by simp [length, bound], by simp⟩
      exact ⟨(entries _ pair).1, (entries _ pair).2.1⟩
    · intro amount member
      obtain ⟨i, bound, rfl⟩ := List.mem_iff_getElem.mp member
      have pair : (recipients[i], amounts[i]) ∈ recipients.zip amounts := by
        rw [List.mem_iff_getElem]
        exact ⟨i, by simp [← length, bound], by simp⟩
      exact (entries _ pair).2.2
  · rintro ⟨valid, positive⟩ ⟨r, amount⟩ member
    have parts := List.of_mem_zip member
    exact ⟨(valid r parts.1).1, (valid r parts.1).2, positive amount parts.2⟩

theorem canonicalToken_respelled {token : String} (canonical : canonicalToken token = true) :
    validAddress token = true ∧ canonicalToken (checksumAddress token) = true := by
  have valid : validAddress token = true := by
    rcases Bool.or_eq_true_iff.mp canonical with same | same <;> exact (addressesEqual_iff.mp same).1
  refine ⟨valid, ?_⟩
  rw [canonicalToken, addressesEqual_respelled valid, addressesEqual_respelled valid]
  exact canonical

theorem validateBatch_respelled (checked : validateBatch recipients amounts referenceID = .ok ()) :
    validateBatch (recipients.map checksumAddress) amounts referenceID = .ok () := by
  rw [validateBatch_eq_ok] at checked ⊢
  obtain ⟨some, few, length, reference, trimmed, short, valid, positive⟩ := checked
  refine ⟨by simpa using some, by simpa using few, by simpa using length, reference, trimmed, short, ?_, positive⟩
  intro r member
  obtain ⟨recipient, inside, rfl⟩ := List.mem_map.mp member
  rw [addressesEqual_respelled (valid recipient inside).1]
  exact ⟨validAddress_checksumAddress (valid recipient inside).1, (valid recipient inside).2⟩

theorem validateDistinct_respelled (valid : ∀ r ∈ recipients, validAddress r = true) {i : Nat} {seen : List String} :
    validateDistinct i seen (recipients.map checksumAddress) = validateDistinct i seen recipients := by
  induction recipients generalizing i seen with
  | nil => rfl
  | cons r rest ih =>
    have this := valid r (.head _)
    have others : ∀ r ∈ rest, validAddress r = true := fun r member => valid r (.tail _ member)
    simp only [List.map_cons, validateDistinct, addressesEqual_respelled this,
      normalizeAddress_respelled this]
    congr 1
    funext _
    congr 1
    funext _
    exact ih others

theorem recipients_read (valid : ∀ r ∈ recipients, validAddress r = true) :
    (recipients.map hexToAddress).map hex = recipients.map checksumAddress := by
  rw [List.map_map]
  exact List.map_congr_left fun r member => (checksumAddress_valid (valid r member)).symm

theorem amounts_read (positive : ∀ amount ∈ amounts, Uint128 amount) :
    ((amounts.map uint256).map bigInt).map some = amounts := by
  simp only [List.map_map]
  refine (List.map_congr_left fun amount member => ?_).trans (List.map_id amounts)
  exact bigInt_uint256 (positive amount member)

end Checked

/-! ### Calldata and arguments -/

variable {signature invalid : String} {check : Except Error Unit}

/-- An encoded call is the one of the registered deployment. -/
theorem encode_call {registry : Option Registry} {packed : List UInt8} {call : EncodedCall}
    (encoded : encode registry signature invalid check packed = .ok call) :
    ∃ deployment, expectedDeployment .wizPayPayroll registry = .ok deployment ∧
      validateDeployment .wizPayPayroll "payroll" deployment = .ok () ∧ check = .ok () ∧
      call = deployment.call signature (selector4 signature ++ packed) := by
  obtain ⟨deployment, expected, rest⟩ := bind_ok.mp encoded
  simp only [buildCall, guard_ok, mapError_ok] at rest
  obtain ⟨reviewed, checked, -, built⟩ := rest
  exact ⟨deployment, expected, reviewed, checked, newEncodedCall_callData built⟩

theorem encode_callData {registry : Option Registry} {packed : List UInt8} {call : EncodedCall}
    (encoded : encode registry signature invalid check packed = .ok call) :
    check = .ok () ∧ call.callData = selector4 signature ++ packed := by
  obtain ⟨deployment, -, -, checked, rfl⟩ := encode_call encoded
  exact ⟨checked, rfl⟩

/-- With the default registry only the check of the arguments can fail. -/
theorem encode_default (known : signature ∈ payrollSignatures) (checked : check = .ok ()) (packed : List UInt8) :
    encode none signature invalid check packed = .ok (payrollDeploymentV1.call signature (selector4 signature ++ packed)) := by
  have reviewed : validateDeployment .wizPayPayroll "payroll" payrollDeploymentV1 = .ok () := by
    rw [validateDeployment, rejectIf_ok]
    simp [payrollDeploymentV1, canonicalAddress, addressesEqual_self validAddress_payroll]
  have valid : payrollDeploymentV1.validate = .ok () := validate_canonical validAddress_payroll (by decide) (by
    intro signature member
    simp only [payrollDeploymentV1, List.mem_cons, List.not_mem_nil, or_false] at member
    rcases member with rfl | rfl
    · exact forall_literal rfl (by decide)
    · exact forall_literal rfl (by decide)) (by decide)
  have allowed : payrollDeploymentV1.allowsExecution signature = true := by
    simp only [payrollSignatures, List.mem_cons, List.not_mem_nil, or_false] at known
    rcases known with rfl | rfl <;> decide
  have admitted : ¬ ∀ known ∈ payrollSignatures, selector4 signature ≠ selector4 known := by
    intro distinct
    exact distinct signature known rfl
  apply bind_ok.mpr
  refine ⟨payrollDeploymentV1, expectedDeployment_payroll, ?_⟩
  simp only [buildCall, checks_ok, rejectAdminSelector]
  exact ⟨reviewed, checked, admitted, newEncodedCall_ok valid allowed packed⟩

theorem sameToken_values_read (values : Abi.Tuple sameTokenTypes) : (readSameToken values).input.values = values := by
  obtain ⟨token, recipients, amounts, referenceID, ⟨⟩⟩ := values
  simp [readSameToken, DecodedSameTokenPayroll.input, SameTokenPayrollInput.values, Function.comp_def]

theorem crossToken_values_read (values : Abi.Tuple crossTokenTypes) : (readCrossToken values).input.values = values := by
  obtain ⟨tokenIn, tokenOut, recipients, amounts, gross, minimum, price, deadline, referenceID, ⟨⟩⟩ := values
  simp [readCrossToken, DecodedCrossTokenPayroll.input, CrossTokenPayrollInput.values, Function.comp_def]

/-- The input with its addresses spelled as a decoder spells them. -/
def SameTokenPayrollInput.respelled (input : SameTokenPayrollInput) : SameTokenPayrollInput :=
  { input with token := checksumAddress input.token, recipients := input.recipients.map checksumAddress }

def CrossTokenPayrollInput.respelled (input : CrossTokenPayrollInput) : CrossTokenPayrollInput :=
  { input with
    tokenIn := checksumAddress input.tokenIn, tokenOut := checksumAddress input.tokenOut,
    recipients := input.recipients.map checksumAddress }

theorem read_sameToken_values {input : SameTokenPayrollInput} (checked : validateSameToken input = .ok ()) :
    (readSameToken input.values).input = input.respelled ∧ validateSameToken input.respelled = .ok () := by
  simp only [validateSameToken, checks_ok, Bool.not_eq_false] at checked
  obtain ⟨token, batch⟩ := checked
  obtain ⟨validToken, respelled⟩ := canonicalToken_respelled token
  obtain ⟨-, -, -, -, -, -, valid, positive⟩ := validateBatch_eq_ok.mp batch
  constructor
  · simp only [SameTokenPayrollInput.values, readSameToken, DecodedSameTokenPayroll.input,
      SameTokenPayrollInput.respelled, amounts_read positive, recipients_read fun r member => (valid r member).1,
      checksumAddress_valid validToken]
  · show validateSameToken
      ⟨checksumAddress input.token, input.recipients.map checksumAddress, input.amounts, input.referenceID⟩ = .ok ()
    simp only [validateSameToken, checks_ok, Bool.not_eq_false]
    exact ⟨respelled, validateBatch_respelled batch⟩

theorem read_crossToken_input {input : CrossTokenPayrollInput} (recipients : ∀ r ∈ input.recipients, validAddress r = true)
    (pair : canonicalPair input.tokenIn input.tokenOut = true)
    (positive : ∀ amount ∈ input.outputAmounts, Uint128 amount) (gross : Uint128 input.grossInput)
    (minimum : Uint128 input.minTotalOut) (price : Uint128 input.minHopPriceX36) (deadline : Uint128 input.deadline) :
    (readCrossToken input.values).input = input.respelled := by
  obtain ⟨validIn, validOut, -⟩ := canonicalPair_respelled pair
  have read : (readCrossToken input.values).input =
      ⟨hex (hexToAddress input.tokenIn), hex (hexToAddress input.tokenOut), (input.recipients.map hexToAddress).map hex,
        ((input.outputAmounts.map uint256).map bigInt).map some, some (bigInt (uint256 input.grossInput)),
        some (bigInt (uint256 input.minTotalOut)), some (bigInt (uint256 input.minHopPriceX36)),
        some (bigInt (uint256 input.deadline)), input.referenceID⟩ := rfl
  rw [read, amounts_read positive, recipients_read recipients, bigInt_uint256 gross, bigInt_uint256 minimum,
    bigInt_uint256 price, bigInt_uint256 deadline, ← checksumAddress_valid validIn, ← checksumAddress_valid validOut]
  rfl

theorem read_crossToken_values {input : CrossTokenPayrollInput} (checked : validateCrossToken input = .ok ()) :
    (readCrossToken input.values).input = input.respelled ∧ validateCrossToken input.respelled = .ok () := by
  simp only [validateCrossToken, checks_ok, Bool.not_eq_false, positiveUint128_eq_ok] at checked
  obtain ⟨pair, batch, distinct, gross, minimum, price, deadline, covered⟩ := checked
  obtain ⟨-, -, respelled⟩ := canonicalPair_respelled pair
  obtain ⟨-, -, -, -, -, -, valid, positive⟩ := validateBatch_eq_ok.mp batch
  have recipients : ∀ r ∈ input.recipients, validAddress r = true := fun r member => (valid r member).1
  refine ⟨read_crossToken_input recipients pair positive gross minimum price deadline, ?_⟩
  rw [← validateDistinct_respelled recipients] at distinct
  show validateCrossToken
    ⟨checksumAddress input.tokenIn, checksumAddress input.tokenOut, input.recipients.map checksumAddress,
      input.outputAmounts, input.grossInput, input.minTotalOut, input.minHopPriceX36, input.deadline,
      input.referenceID⟩ = .ok ()
  simp only [validateCrossToken, checks_ok, Bool.not_eq_false, positiveUint128_eq_ok]
  exact ⟨respelled, validateBatch_respelled batch, distinct, gross, minimum, price, deadline, covered⟩

end WizPay.Contracts.Payroll
