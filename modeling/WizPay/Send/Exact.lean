import WizPay.Intents.Digest
import WizPay.Intents.Validated
import WizPay.Send.Verifier

/-!
# What the SEND verifier accepts

The verifier accepts a receipt that shows the intended transfer, and no other, as long as
the base units of the intent are written as `big.Int` prints them: they are compared as
texts, and validation also lets a plus sign through.
-/
namespace WizPay.Send

open Checks GoText Contracts Intents Providers

/-- The receipt shows a transfer of `amount` of `token` from `wallet` to `recipient`. -/
structure Transfers (wallet token recipient : String) (amount : Nat) (receipt : Receipt) : Prop where
  chain : receipt.chainID = chainIDArcMainnet
  success : receipt.status = .success
  evidence : receipt.hasTransaction = true
  sender : addressesEqual receipt.fromAddress wallet = true
  target : addressesEqual receipt.toAddress token = true
  value : nativeValue receipt.value = some 0
  input : receipt.input =
    transferSelector ++ Abi.word (hexToAddress recipient).toNat ++ Abi.word amount
  log : ∃ log ∈ receipt.logs, addressesEqual log.address token = true ∧
    log.topics = [transferEventID, Abi.word (hexToAddress wallet).toNat, Abi.word (hexToAddress recipient).toNat] ∧
    log.data = Abi.word amount

section Calldata

variable {input : List UInt8} {recipient : String} {amount : Nat}

/-- The two words behind the selector. -/
theorem decodeTransfer_eq_ok :
    decodeTransfer input = .ok (recipient, amount) ↔
      input.length = 68 ∧ input.take 4 = transferSelector ∧ CleanTopic ((input.drop 4).take 32) ∧
        recipient = hexOfBytes (((input.drop 4).take 32).drop 12) ∧ addressesEqual recipient addressZero = false ∧
        amount = Abi.number (input.drop 36) ∧ amount ≠ 0 := by
  have high : (input.drop 4).take 12 = ((input.drop 4).take 32).take 12 := by rw [List.take_take]; rfl
  have low : (input.drop 16).take 20 = ((input.drop 4).take 32).drop 12 := by
    rw [List.drop_take, List.drop_drop]
  simp only [decodeTransfer, checks_ok, pure_ok, not_or, not_not, Bool.not_eq_true, Bool.not_eq_false, Prod.mk.injEq,
    high, low]
  constructor
  · rintro ⟨⟨length, selector⟩, clean, ⟨-, nonzero⟩, positive, rfl, rfl⟩
    exact ⟨length, selector, by simpa [CleanTopic] using clean, rfl, nonzero, rfl, positive⟩
  · rintro ⟨length, selector, clean, rfl, nonzero, rfl, positive⟩
    have valid : Contracts.validAddress (hexOfBytes (((input.drop 4).take 32).drop 12)) = true :=
      validAddress_hexOfBytes (by simp [length])
    exact ⟨⟨length, selector⟩, by simpa [CleanTopic] using clean, ⟨valid, nonzero⟩, positive, rfl, rfl⟩

/-- Calldata is decoded to a recipient and an amount exactly when it is their transfer. -/
theorem decodes_iff (valid : Contracts.validAddress recipient = true)
    (nonzero : addressesEqual recipient addressZero = false) :
    (∃ text, decodeTransfer input = .ok (text, amount) ∧ addressesEqual text recipient = true) ↔
      input = transferSelector ++ Abi.word (hexToAddress recipient).toNat ++ Abi.word amount ∧ amount ≠ 0 ∧
        amount < 2 ^ 256 := by
  constructor
  · rintro ⟨text, decoded, same⟩
    obtain ⟨length, selector, clean, rfl, -, rfl, positive⟩ := decodeTransfer_eq_ok.mp decoded
    have address : (input.drop 4).take 32 = Abi.word (hexToAddress recipient).toNat :=
      (topic_eq_word_iff recipient (by simp [length])).mpr ⟨clean, (addressesEqual_iff.mp same).2.2⟩
    have rest : (input.drop 36).length = 32 := by simp [length]
    have small := Abi.number_lt (input.drop 36)
    rw [rest] at small
    refine ⟨?_, positive, by simpa using small⟩
    rw [Abi.word_number rest, ← address, ← selector, List.append_assoc]
    have second : (input.drop 4).drop 32 = input.drop 36 := List.drop_drop
    rw [← second, List.take_append_drop, List.take_append_drop]
  · rintro ⟨rfl, positive, small⟩
    have first : ((transferSelector ++ Abi.word (hexToAddress recipient).toNat ++ Abi.word amount).drop 4).take 32 =
        Abi.word (hexToAddress recipient).toNat := by simp [transferSelector]
    have second : (transferSelector ++ Abi.word (hexToAddress recipient).toNat ++ Abi.word amount).drop 36 =
        Abi.word amount := by simp [transferSelector]
    have spelled := (topic_eq_word_iff recipient (Abi.word_length (hexToAddress recipient).toNat)).mp rfl
    have named : addressesEqual (hexOfBytes ((Abi.word (hexToAddress recipient).toNat).drop 12)) recipient = true :=
      addressesEqual_iff.mpr ⟨validAddress_hexOfBytes (by simp), valid, spelled.2⟩
    refine ⟨_, decodeTransfer_eq_ok.mpr ⟨by simp [transferSelector], by simp [transferSelector], ?_, rfl, ?_, ?_, positive⟩, ?_⟩
    · rw [first]
      exact spelled.1
    · rw [first]
      by_contra zero
      have := addressesEqual_trans (addressesEqual_symm named) (Bool.not_eq_false _ ▸ zero)
      simp [this] at nonzero
    · rw [second, Abi.number_word small]
    · rw [first]
      exact named

end Calldata

/-! ### Logs -/

theorem topicAddressEquals_iff {topic : List UInt8} {address : String} (valid : Contracts.validAddress address = true) :
    topicAddressEquals topic address = true ↔ topic = Abi.word (hexToAddress address).toNat := by
  constructor
  · intro equal
    simp only [topicAddressEquals, Bool.and_eq_true, decide_eq_true_eq, Bool.not_eq_true', List.any_eq_false] at equal
    obtain ⟨⟨length, clean⟩, fold⟩ := equal
    apply (topic_eq_word_iff address length).mpr
    refine ⟨fun b member => by simpa using clean b member, ?_⟩
    exact (equalFold_address (validAddress_hexOfBytes (by simp [length])) valid).mp fold
  · rintro rfl
    obtain ⟨clean, same⟩ := (topic_eq_word_iff address (Abi.word_length _)).mp rfl
    simp only [topicAddressEquals, Bool.and_eq_true, decide_eq_true_eq, Bool.not_eq_true', List.any_eq_false]
    refine ⟨⟨Abi.word_length _, fun b member => by simpa using clean b member⟩, ?_⟩
    exact (equalFold_address (validAddress_hexOfBytes (by simp)) valid).mpr same

theorem isTransferEvent_iff {token sender recipient : String} {amount : Nat} {log : ReceiptLog}
    (small : amount < 2 ^ 256) (validSender : Contracts.validAddress sender = true)
    (validRecipient : Contracts.validAddress recipient = true) :
    isTransferEvent token sender recipient amount log = true ↔
      addressesEqual log.address token = true ∧
        log.topics = [transferEventID, Abi.word (hexToAddress sender).toNat, Abi.word (hexToAddress recipient).toNat] ∧
        log.data = Abi.word amount := by
  have data : (log.data.length = 32 ∧ Abi.number log.data = amount) ↔ log.data = Abi.word amount := by
    constructor
    · rintro ⟨length, rfl⟩
      exact (Abi.word_number length).symm
    · intro same
      rw [same]
      exact ⟨Abi.word_length _, Abi.number_word small⟩
  rw [isTransferEvent, Bool.and_eq_true, ← data]
  refine and_congr_right fun _ => ?_
  split
  next event first second topics =>
    simp only [Bool.and_eq_true, decide_eq_true_eq, topicAddressEquals_iff validSender,
      topicAddressEquals_iff validRecipient, topics, List.cons.injEq, and_true]
    tauto
  next other =>
    simp only [Bool.false_eq_true, false_iff]
    rintro ⟨topics, -⟩
    exact other _ _ _ topics

/-! ### The verifier -/

/-- What a plan takes from its intent. -/
structure Planned (intent : Intent) (p : Plan) (financial : SendParameters) : Prop where
  valid : intent.validate = .ok ()
  kind : intent.params.type = .send
  given : intent.params.financial.send = some financial
  intentID : p.intentID = intent.params.intentID
  digest : p.intentDigest = intent.digest
  token : p.token = financial.token
  recipient : p.recipient = financial.recipient
  amount : p.amount = financial.amount
  wallet : p.wallet = intent.params.ownership.walletAddress
  validToken : Contracts.validAddress p.token.address = true
  validWallet : Contracts.validAddress p.wallet = true

theorem validAddress_of_provider {value : String} (valid : Providers.validAddress value = true) :
    Contracts.validAddress value = true := by
  rw [Providers.validAddress, Bool.and_eq_true] at valid
  rw [Contracts.validAddress, Bool.and_eq_true]
  refine ⟨valid.1, ?_⟩
  have shape := valid.2
  split at shape
  next digits spelled =>
    have same : isAddressDigit = isHexCharacter := by
      funext c
      simp [isAddressDigit, isLowerHex, isHexCharacter]
    rw [spelled]
    simpa [same] using shape
  next => cases shape

theorem planned_of_plan {intent : Intent} {p : Plan} (planned : plan intent = .ok p) :
    ∃ financial, Planned intent p financial := by
  simp only [plan, checks_ok, not_not] at planned
  obtain ⟨valid, kind, -, rest⟩ := planned
  split at rest
  next => cases rest
  next financial given =>
    obtain ⟨canonical, -, rest⟩ := bind_ok.mp rest
    obtain ⟨matches_, rest⟩ := guard_ok.mp rest
    obtain ⟨provider, built, rest⟩ := bind_ok.mp rest
    rw [pure_ok] at rest
    subst rest
    simp only [rejectIf_ok, not_or, Bool.not_eq_false] at matches_
    have token := (addressesEqual_iff.mp matches_.2.2.2.1).1
    rw [mapError_ok] at built
    simp only [newTokenTransferPlan, Plan.validate, checks_ok, Bool.not_eq_false] at built
    have wallet := built.1.2.2.2.2.1
    exact ⟨financial, valid, kind, given, rfl, rfl, rfl, rfl, rfl, rfl, token, validAddress_of_provider wallet⟩

section Verify

variable {intent : Intent} {p : Plan} {financial : SendParameters} {receipt : Receipt} {n : Nat}

theorem verify_eq_ok :
    verify intent p receipt = .ok () ↔
      (intent.validate.isOk = true ∧ intent.params.type = .send) ∧
        (p.intentID = intent.params.intentID ∧ p.intentDigest = intent.digest) ∧
        (receipt.chainID = chainIDArcMainnet ∧ receipt.status = .success) ∧ receipt.hasTransaction = true ∧
        (addressesEqual receipt.fromAddress p.wallet = true ∧ addressesEqual receipt.toAddress p.token.address = true) ∧
        nativeValue receipt.value = some 0 ∧
        ∃ text amount, decodeTransfer receipt.input = .ok (text, amount) ∧
          (addressesEqual text p.recipient = true ∧ toString amount = p.amount.baseUnits) ∧
          hasTransferEvent receipt.logs p.token.address p.wallet p.recipient amount = true := by
  rw [verify]
  simp only [checks_ok, not_or, not_not, Bool.not_eq_false]
  refine and_congr_right fun _ => and_congr_right fun _ => and_congr_right fun _ => and_congr_right fun _ =>
    and_congr_right fun _ => and_congr_right fun _ => ?_
  rw [bind_ok]
  simp only [checks_ok, not_or, not_not, Bool.not_eq_false, Prod.exists]

theorem toString_injective {m : Nat} {text : String} (parsed : parseBig text = some (n : Int)) (same : toString m = text) :
    m = n := by
  rw [← same, parseBig_toString] at parsed
  exact_mod_cast Option.some.inj parsed

/-- The verifier asks for the intended transfer, and for base units in the decimal text of their number. -/
theorem verify_iff_transfers (planned : Planned intent p financial)
    (parsed : parseBig financial.amount.baseUnits = some (n : Int)) (small : n < 2 ^ 256) :
    verify intent p receipt = .ok () ↔
      Transfers intent.params.ownership.walletAddress financial.token.address financial.recipient n receipt ∧
        financial.amount.baseUnits = toString n := by
  obtain ⟨send, given, passed, -⟩ := (Params.valid_of_validate (Intent.params_valid planned.valid)).send planned.kind
  rw [planned.given] at given
  cases given
  obtain ⟨validRecipient, nonzero, positive⟩ := SendParameters.of_validate passed
  have validWallet := planned.validWallet
  rw [planned.wallet] at validWallet
  rw [verify_eq_ok, planned.token, planned.recipient, planned.wallet, planned.amount]
  constructor
  · rintro ⟨-, -, ⟨chain, success⟩, evidence, ⟨sender, target⟩, value, text, amount, decoded, ⟨named, spelled⟩, event⟩
    obtain rfl := toString_injective parsed spelled
    obtain ⟨log, member, found⟩ := List.any_eq_true.mp event
    refine ⟨⟨chain, success, evidence, sender, target, value, ?_, ?_⟩, spelled.symm⟩
    · exact ((decodes_iff validRecipient nonzero).mp ⟨text, decoded, named⟩).1
    · exact ⟨log, member, (isTransferEvent_iff small validWallet validRecipient).mp found⟩
  · rintro ⟨shown, spelled⟩
    have nonzeroAmount : n ≠ 0 := by
      obtain ⟨-, m, value, above⟩ := Amount.isPositive_eq_true.mp positive
      rw [parsed, Option.some.injEq, Nat.cast_inj] at value
      omega
    obtain ⟨text, decoded, named⟩ := (decodes_iff validRecipient nonzero).mpr ⟨shown.input, nonzeroAmount, small⟩
    obtain ⟨log, member, found⟩ := shown.log
    refine ⟨⟨by rw [planned.valid]; rfl, planned.kind⟩, ⟨planned.intentID, planned.digest⟩, ⟨shown.chain, shown.success⟩,
      shown.evidence, ⟨shown.sender, shown.target⟩, shown.value, text, n, decoded, ⟨named, spelled.symm⟩, ?_⟩
    exact List.any_eq_true.mpr ⟨log, member, (isTransferEvent_iff small validWallet validRecipient).mpr found⟩

end Verify

/-- The receipt of a transfer. -/
def transferReceipt (wallet token recipient : String) (amount : Nat) : Receipt :=
  { status := .success, chainID := chainIDArcMainnet, transactionHash := "", blockNumber := 0, blockHash := "",
    confirmations := 0,
    logs :=
      [{ address := token,
         topics := [transferEventID, Abi.word (hexToAddress wallet).toNat, Abi.word (hexToAddress recipient).toNat],
         data := Abi.word amount, index := 0, hasIndex := false, transactionHash := "" }],
    hasTransaction := true, fromAddress := wallet, toAddress := token, value := "0x0",
    input := transferSelector ++ Abi.word (hexToAddress recipient).toNat ++ Abi.word amount }

theorem transferReceipt_transfers {wallet token recipient : String} {amount : Nat}
    (validWallet : Contracts.validAddress wallet = true) (validToken : Contracts.validAddress token = true) :
    Transfers wallet token recipient amount (transferReceipt wallet token recipient amount) where
  chain := rfl
  success := rfl
  evidence := rfl
  sender := addressesEqual_self validWallet
  target := addressesEqual_self validToken
  value := (by decide : nativeValue "0x0" = some 0)
  input := rfl
  log := ⟨_, List.mem_singleton.mpr rfl, addressesEqual_self validToken, rfl, rfl⟩

/-- **The SEND verifier accepts exactly the intended transfers** if and only if the base units
of the intent are the decimal text of their number. -/
theorem verify_exact_iff {intent : Intent} {p : Plan} {financial : SendParameters} {n : Nat}
    (planned : plan intent = .ok p) (given : intent.params.financial.send = some financial)
    (parsed : parseBig financial.amount.baseUnits = some (n : Int)) (small : n < 2 ^ 256) :
    (∀ receipt, verify intent p receipt = .ok () ↔
        Transfers intent.params.ownership.walletAddress financial.token.address financial.recipient n receipt) ↔
      financial.amount.baseUnits = toString n := by
  obtain ⟨send, fields⟩ := planned_of_plan planned
  have same := fields.given
  rw [given, Option.some.injEq] at same
  subst same
  constructor
  · intro exact_
    -- a receipt of the transfer exists, and accepting it means that the texts agree
    have shown : Transfers _ _ financial.recipient n _ :=
      transferReceipt_transfers (fields.wallet ▸ fields.validWallet) (fields.token ▸ fields.validToken)
    exact ((verify_iff_transfers fields parsed small).mp ((exact_ _).mpr shown)).2
  · intro spelled receipt
    rw [verify_iff_transfers fields parsed small]
    exact and_iff_left spelled

/-! ### The sign that validation lets through -/

/-- One USDC to the sample's recipient, with the given text for its base units. -/
def unitsFinancial (baseUnits : String) : SendParameters :=
  { token := ⟨"5042", "ERC20", "0x3600000000000000000000000000000000000000", "USDC", 6⟩,
    recipient := "0x2222222222222222222222222222222222222222", amount := ⟨"1", baseUnits, 6⟩ }

def unitsSend (baseUnits : String) : Params :=
  { sampleSend with financial := { sampleSend.financial with send := some (unitsFinancial baseUnits) } }

def usdc : TokenResource := ⟨"USDC", "5042", "MAINNET", addressUSDCMainnet, 6⟩

section Sample

variable {baseUnits : String}

theorem unitsSend_valid (positive : Amount.isPositive ⟨"1", baseUnits, 6⟩ = true) :
    (unitsSend baseUnits).validate = .ok () := by
  have base := sampleSend_valid
  have sample : (unitsFinancial "1000000").validate = .ok () := by
    obtain ⟨send, given, passed, -⟩ := (Params.valid_of_validate base).send rfl
    rwa [← Option.some.inj given] at passed
  have financial : (unitsFinancial baseUnits).validate = .ok () := by
    obtain ⟨token, rest⟩ := guard_ok.mp sample
    obtain ⟨canonical, known, rest⟩ := bind_ok.mp rest
    simp only [checks_ok] at rest
    refine guard_ok.mpr ⟨token, bind_ok.mpr ⟨canonical, known, ?_⟩⟩
    simp only [checks_ok]
    exact ⟨rest.1, rest.2.1, by simpa [unitsFinancial] using positive, rest.2.2.2⟩
  simp only [Params.validate, guard_ok] at base ⊢
  obtain ⟨texts, version, kind, ownership, -, payload, rest⟩ := base
  refine ⟨texts, version, kind, ownership, ?_, payload, rest⟩
  show FinancialParameters.validate _ .send = .ok ()
  simp only [FinancialParameters.validate, guard_ok, FinancialParameters.member_eq_ok]
  exact ⟨rfl, _, rfl, financial⟩

/-- The provider's checks do not look at the text of the base units. -/
theorem unitsPlan_valid : (transferParams sampleSend.ownership (unitsFinancial baseUnits) usdc).plan.validate = .ok () := by
  have checked : (transferParams sampleSend.ownership (unitsFinancial "") usdc).plan.validate = .ok () := by decide +kernel
  exact checked

theorem plan_unitsSend (positive : Amount.isPositive ⟨"1", baseUnits, 6⟩ = true)
    (units : validateExactBaseUnits "1" baseUnits 6 = .ok ()) :
    plan ((unitsSend baseUnits).frozen .approved 4) =
      .ok (planOf ((unitsSend baseUnits).frozen .approved 4) (unitsFinancial baseUnits)
        (transferParams sampleSend.ownership (unitsFinancial baseUnits) usdc).plan) := by
  have checked : ((unitsSend baseUnits).frozen .approved 4).validate = .ok () :=
    Params.frozen_valid (unitsSend_valid positive) rfl (by decide) (by decide)
  have token : canonicalToken "USDC" = .ok usdc := by decide
  have same : addressesEqual addressUSDCMainnet addressUSDCMainnet = true := addressesEqual_self validAddress_usdc
  have built : newTokenTransferPlan (transferParams sampleSend.ownership (unitsFinancial baseUnits) usdc) =
      .ok (transferParams sampleSend.ownership (unitsFinancial baseUnits) usdc).plan := by
    have given : baseUnits ≠ "" := by
      rintro rfl
      exact absurd units (by decide)
    have valid : Providers.validAddress addressUSDCMainnet = true := by decide +kernel
    refine guard_ok.mpr ⟨unitsPlan_valid, guard_ok.mpr ⟨?_, bind_ok.mpr ⟨usdc, ?_, ?_⟩⟩⟩
    · rw [rejectIf_ok]
      simp [transferParams, TokenTransferParams.plan, unitsFinancial, usdc, valid, given]
    · rw [mapError_ok]
      exact token
    · refine guard_ok.mpr ⟨?_, guard_ok.mpr ⟨units, rfl⟩⟩
      rw [rejectIf_ok]
      simp [transferParams, TokenTransferParams.plan, sampleSend, usdc, same]
  simp only [plan, checks_ok]
  refine ⟨checked, by simp [unitsSend, sampleSend, Params.frozen], by simp [Params.frozen], ?_⟩
  refine bind_ok.mpr ⟨usdc, by rw [mapError_ok]; exact token, guard_ok.mpr ⟨?_, bind_ok.mpr ⟨_, ?_, rfl⟩⟩⟩
  · rw [rejectIf_ok]
    simp [unitsFinancial, unitsSend, sampleSend, Params.frozen, usdc, chainIDArcMainnet, networkArcMainnet]
    exact same
  · rw [mapError_ok]
    exact built

end Sample

/-- The plan of the sample transfer. -/
def unitsPlan (baseUnits : String) : Plan :=
  planOf ((unitsSend baseUnits).frozen .approved 4) (unitsFinancial baseUnits)
    (transferParams sampleSend.ownership (unitsFinancial baseUnits) usdc).plan

theorem verify_exact_canonical :
    verify ((unitsSend "1000000").frozen .approved 4) (unitsPlan "1000000")
      (transferReceipt sampleSend.ownership.walletAddress addressUSDCMainnet "0x2222222222222222222222222222222222222222"
        1000000) = .ok () := by
  apply ((verify_exact_iff (n := 1000000) (plan_unitsSend (by decide) (by decide)) rfl (by decide) (by decide)).mpr (by decide) _).mpr
  exact transferReceipt_transfers (validAddress_literal rfl (by decide)) validAddress_usdc

/-- The exact payment of an intent whose base units are written with a plus sign is refused. -/
theorem signed_units_refused :
    let intent := (unitsSend "+1000000").frozen .approved 4
    let receipt := transferReceipt sampleSend.ownership.walletAddress "0x3600000000000000000000000000000000000000"
      "0x2222222222222222222222222222222222222222" 1000000
    plan intent = .ok (unitsPlan "+1000000") ∧
      Transfers sampleSend.ownership.walletAddress "0x3600000000000000000000000000000000000000"
        "0x2222222222222222222222222222222222222222" 1000000 receipt ∧
      verify intent (unitsPlan "+1000000") receipt ≠ .ok () := by
  intro intent receipt
  have planned : plan intent = .ok (unitsPlan "+1000000") := plan_unitsSend (by decide) (by decide)
  refine ⟨planned, transferReceipt_transfers (validAddress_literal rfl (by decide)) validAddress_usdc, ?_⟩
  intro verified
  obtain ⟨financial, fields⟩ := planned_of_plan planned
  have given := fields.given
  cases given
  have spelled := ((verify_iff_transfers (n := 1000000) fields (by decide) (by decide)).mp verified).2
  exact absurd spelled (by decide)

end WizPay.Send
