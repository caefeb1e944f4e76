import WizPay.Contracts.Codec

/-!
# Event logs

The event decoders of `internal/contracts/payroll` and `internal/contracts/swap`. The
payroll decoders do not look at the bytes before an address topic, the swap decoder not
at those behind the data.
-/
namespace WizPay.Contracts

open GoText Checks

/-- `contracts.Log`. -/
structure Log where
  address : String
  topics : List (List UInt8)
  data : List UInt8
  chainID : String
deriving DecidableEq

/-- The topic of an event's signature. -/
def eventTopic0 (signature : String) : List UInt8 := Keccak.sum256 (bytes signature)

@[simp] theorem eventTopic0_length (signature : String) : (eventTopic0 signature).length = 32 := by simp [eventTopic0]

variable {log : Log} {registry : Option Registry} {value : String}

namespace Payroll

structure PaymentEvent where
  referenceHash : List UInt8
  employer : String
  tokenOut : String
  recipient : String
  paymentIndex : Int
  amountOut : Int
deriving DecidableEq

structure ReferenceConsumedEvent where
  referenceHash : List UInt8
  employer : String
  tokenIn : String
  tokenOut : String
  batchDigest : List UInt8
  totalInput : Int
  totalOutput : Int
  totalFees : Int
  recipientCount : Int
  referenceID : List UInt8
deriving DecidableEq

structure BatchExecutedEvent where
  employer : String
  tokenIn : String
  tokenOut : String
  totalInput : Int
  totalOutput : Int
  totalFees : Int
  recipientCount : Int
  referenceID : List UInt8
deriving DecidableEq

structure SwapExecutedEvent where
  referenceHash : List UInt8
  employer : String
  tokenIn : String
  tokenOut : String
  grossInput : Int
  feeAmount : Int
  netAmountIn : Int
  amountOut : Int
  minTotalOut : Int
deriving DecidableEq

structure SurplusRefundedEvent where
  referenceHash : List UInt8
  employer : String
  tokenOut : String
  amount : Int
deriving DecidableEq

def validateEventLog (registry : Option Registry) (signature : String) (log : Log) : Except Error Unit := do
  let deployment ← expectedDeployment .wizPayPayroll registry
  rejectIf (deployment.allowsEvent signature = false) (.text "payroll event is not allowlisted")
  rejectIf (log.chainID ≠ "" ∧ log.chainID ≠ deployment.chainID)
    (.text "log chain ID does not match payroll deployment")
  rejectIf (addressesEqual log.address deployment.address = false)
    (.text "log address does not match payroll deployment")
  rejectIf (log.topics.head? ≠ some (eventTopic0 signature)) (.text "payroll event topic mismatch")

/-- A log of the reviewed contract is accepted as far as its context goes. -/
theorem validateEventLog_default {signature : String} (listed : signature ∈ canonicalEvents .wizPayPayroll)
    (address : log.address = addressWizPayPayroll) (chain : log.chainID = chainIDArcMainnet)
    (topic : log.topics.head? = some (eventTopic0 signature)) : validateEventLog none signature log = .ok () := by
  apply bind_ok.mpr
  refine ⟨payrollDeploymentV1, expectedDeployment_payroll, ?_⟩
  simp only [checks_ok, not_not, topic, address, chain]
  refine ⟨?_, ?_, ?_, trivial⟩
  · simpa [Deployment.allowsEvent, payrollDeploymentV1] using listed
  · simp [payrollDeploymentV1]
  · simp [payrollDeploymentV1, addressesEqual_self validAddress_payroll]

/-- `topicHash`. -/
def topicHash (topic : List UInt8) : List UInt8 := if topic.length = 32 then topic else List.replicate 32 0

/-- `topicAddress`: the first twelve bytes are not looked at. -/
def topicAddress (topic : List UInt8) : String := if topic.length ≠ 32 then "" else hex (addressOfWord topic)

/-- What the five decoders share: `read` builds the event from the three indexed topics and the data. -/
def decodeEvent {ts : List Abi.Ty} {α : Type} (signature name : String)
    (read : List UInt8 → List UInt8 → List UInt8 → Abi.Tuple ts → α) (registry : Option Registry) (log : Log) :
    Except Error α := do
  validateEventLog registry signature log
  match log.topics with
  | [_, first, second, third] =>
    match Abi.unpack ts log.data with
    | none => .error (.text s!"decode {name}")
    | some values =>
      rejectIf (Abi.pack ts values ≠ log.data) (.text s!"{name} data is not canonical")
      pure (read first second third values)
  | _ => .error (.text s!"{name} requires four topics")

abbrev swapExecutedTypes : List Abi.Ty := [.word 160, .word 256, .word 256, .word 256, .word 256, .word 256]

abbrev surplusRefundedTypes : List Abi.Ty := [.word 256]

abbrev paymentTypes : List Abi.Ty := [.word 160, .word 256, .word 256]

abbrev referenceConsumedTypes : List Abi.Ty := [.word 160, .word 256, .word 256, .word 256, .word 256, .word 256, .text]

abbrev batchExecutedTypes : List Abi.Ty := [.word 256, .word 256, .word 256, .word 256, .text]

def readSwapExecuted (reference employer tokenIn : List UInt8) : Abi.Tuple swapExecutedTypes → SwapExecutedEvent
  | (tokenOut, gross, fee, net, amountOut, minimum, ()) =>
    { referenceHash := topicHash reference, employer := topicAddress employer, tokenIn := topicAddress tokenIn,
      tokenOut := hex tokenOut, grossInput := bigInt gross, feeAmount := bigInt fee, netAmountIn := bigInt net,
      amountOut := bigInt amountOut, minTotalOut := bigInt minimum }

def readSurplusRefunded (reference employer tokenOut : List UInt8) : Abi.Tuple surplusRefundedTypes → SurplusRefundedEvent
  | (amount, ()) =>
    { referenceHash := topicHash reference, employer := topicAddress employer, tokenOut := topicAddress tokenOut,
      amount := bigInt amount }

def readPayment (reference employer tokenOut : List UInt8) : Abi.Tuple paymentTypes → PaymentEvent
  | (recipient, index, amount, ()) =>
    { referenceHash := topicHash reference, employer := topicAddress employer, tokenOut := topicAddress tokenOut,
      recipient := hex recipient, paymentIndex := bigInt index, amountOut := bigInt amount }

def readReferenceConsumed (reference employer tokenIn : List UInt8) :
    Abi.Tuple referenceConsumedTypes → ReferenceConsumedEvent
  | (tokenOut, digest, totalIn, totalOut, fees, count, referenceID, ()) =>
    { referenceHash := topicHash reference, employer := topicAddress employer, tokenIn := topicAddress tokenIn,
      tokenOut := hex tokenOut, batchDigest := Abi.word digest.toNat, totalInput := bigInt totalIn,
      totalOutput := bigInt totalOut, totalFees := bigInt fees, recipientCount := bigInt count, referenceID }

def readBatchExecuted (employer tokenIn tokenOut : List UInt8) : Abi.Tuple batchExecutedTypes → BatchExecutedEvent
  | (totalIn, totalOut, fees, count, referenceID, ()) =>
    { employer := topicAddress employer, tokenIn := topicAddress tokenIn, tokenOut := topicAddress tokenOut,
      totalInput := bigInt totalIn, totalOutput := bigInt totalOut, totalFees := bigInt fees,
      recipientCount := bigInt count, referenceID }

def decodeSwapExecutedEvent : Option Registry → Log → Except Error SwapExecutedEvent :=
  decodeEvent sigPayrollSwapExecuted "PayrollSwapExecuted" readSwapExecuted

def decodeSurplusRefundedEvent : Option Registry → Log → Except Error SurplusRefundedEvent :=
  decodeEvent sigPayrollSurplusRefunded "PayrollSurplusRefunded" readSurplusRefunded

def decodePaymentEvent : Option Registry → Log → Except Error PaymentEvent :=
  decodeEvent sigPayrollPayment "PayrollPayment" readPayment

def decodeReferenceConsumedEvent : Option Registry → Log → Except Error ReferenceConsumedEvent :=
  decodeEvent sigPayrollReferenceConsumed "PayrollReferenceConsumed" readReferenceConsumed

def decodeBatchExecutedEvent : Option Registry → Log → Except Error BatchExecutedEvent :=
  decodeEvent sigPayrollBatchExecuted "PayrollBatchExecuted" readBatchExecuted

theorem decodeEvent_eq_ok {ts : List Abi.Ty} {α : Type} {signature name : String}
    {read : List UInt8 → List UInt8 → List UInt8 → Abi.Tuple ts → α} {event : α} :
    decodeEvent signature name read registry log = .ok event ↔
      validateEventLog registry signature log = .ok () ∧ ∃ first second third values,
        log.topics = [eventTopic0 signature, first, second, third] ∧ log.data = Abi.pack ts values ∧
          Abi.unpack ts (Abi.pack ts values) = some values ∧ read first second third values = event := by
  simp only [decodeEvent, guard_ok]
  refine and_congr_right fun context => ?_
  have head : log.topics.head? = some (eventTopic0 signature) := by
    obtain ⟨deployment, -, rest⟩ := bind_ok.mp context
    simp only [checks_ok, not_not] at rest
    exact rest.2.2.2
  constructor
  · intro decoded
    split at decoded
    next topic first second third topics =>
      rw [topics, List.head?_cons, Option.some.injEq] at head
      split at decoded
      next => cases decoded
      next values unpacked =>
        simp only [checks_ok, not_not, pure_ok] at decoded
        obtain ⟨canonical, result⟩ := decoded
        rw [← canonical] at unpacked
        exact ⟨first, second, third, values, by rw [topics, head], canonical.symm, unpacked, result⟩
    next => cases decoded
  · rintro ⟨first, second, third, values, topics, data, unpacked, rfl⟩
    rw [topics, data]
    simp only [unpacked, checks_ok, pure_ok]
    exact ⟨by simp, trivial⟩

end Payroll

namespace Swap

structure WizPayMainnetSwapExecuted where
  caller : String
  tokenIn : String
  tokenOut : String
  amountIn : Int
  feeAmount : Int
  netAmountIn : Int
  amountOut : Int
  minAmountOut : Int
deriving DecidableEq

abbrev mainnetSwapExecutedTypes : List Abi.Ty := [.word 256, .word 256, .word 256, .word 256, .word 256]

def decodeWizPayMainnetSwapExecuted (registry : Option Registry) (log : Log) :
    Except Error WizPayMainnetSwapExecuted := do
  let deployment ← expectedDeployment .wizPaySwapExecutor registry
  let invalid := validationError "WizPayMainnetSwapExecuted log context is invalid."
  rejectIf (deployment.allowsEvent sigWizPayMainnetSwapExecuted = false ∨
    (log.chainID ≠ "" ∧ log.chainID ≠ deployment.chainID) ∨ addressesEqual log.address deployment.address = false) invalid
  match log.topics with
  | [signature, first, second, third] =>
    rejectIf (signature ≠ eventTopic0 sigWizPayMainnetSwapExecuted) (.text "swap event topic mismatch")
    match addressFromTopic first, addressFromTopic second, addressFromTopic third with
    | none, _, _ => .error (.text "caller topic is malformed")
    | _, none, _ => .error (.text "tokenIn topic is malformed")
    | _, _, none => .error (.text "tokenOut topic is malformed")
    | some caller, some tokenIn, some tokenOut =>
      match Abi.unpack mainnetSwapExecutedTypes log.data with
      | none => .error (.text "swap event data is malformed")
      | some (amountIn, fee, net, amountOut, minimum, ()) =>
        pure { caller, tokenIn, tokenOut, amountIn := bigInt amountIn, feeAmount := bigInt fee, netAmountIn := bigInt net,
               amountOut := bigInt amountOut, minAmountOut := bigInt minimum }
  | _ => .error invalid

theorem decodeSwap_ok {event : WizPayMainnetSwapExecuted}
    (decoded : decodeWizPayMainnetSwapExecuted registry log = .ok event) :
    ∃ first second third amountIn fee net amountOut minimum,
      log.topics = [eventTopic0 sigWizPayMainnetSwapExecuted, first, second, third] ∧
        addressFromTopic first = some event.caller ∧ addressFromTopic second = some event.tokenIn ∧
        addressFromTopic third = some event.tokenOut ∧
        Abi.unpack mainnetSwapExecutedTypes log.data = some (amountIn, fee, net, amountOut, minimum, ()) ∧
        event.amountIn = bigInt amountIn ∧ event.feeAmount = bigInt fee ∧ event.netAmountIn = bigInt net ∧
        event.amountOut = bigInt amountOut ∧ event.minAmountOut = bigInt minimum := by
  obtain ⟨deployment, -, rest⟩ := bind_ok.mp decoded
  simp only [guard_ok] at rest
  obtain ⟨-, rest⟩ := rest
  split at rest
  next signature first second third topics =>
    simp only [checks_ok, not_not] at rest
    obtain ⟨named, rest⟩ := rest
    split at rest
    next => cases rest
    next => cases rest
    next => cases rest
    next caller tokenIn tokenOut isCaller isIn isOut =>
      split at rest
      next => cases rest
      next amountIn fee net amountOut minimum unpacked =>
        rw [pure_ok] at rest
        subst rest
        exact ⟨first, second, third, amountIn, fee, net, amountOut, minimum, by rw [topics, named], isCaller, isIn, isOut,
          unpacked, rfl, rfl, rfl, rfl, rfl⟩
  next => cases rest

end Swap

/-! ### Logs and the events they stand for -/

inductive Event
  | payment (e : Payroll.PaymentEvent)
  | referenceConsumed (e : Payroll.ReferenceConsumedEvent)
  | batchExecuted (e : Payroll.BatchExecutedEvent)
  | swapExecuted (e : Payroll.SwapExecutedEvent)
  | surplusRefunded (e : Payroll.SurplusRefundedEvent)
  | mainnetSwapExecuted (e : Swap.WizPayMainnetSwapExecuted)
deriving DecidableEq

inductive EventKind
  | payment | referenceConsumed | batchExecuted | swapExecuted | surplusRefunded | mainnetSwapExecuted
deriving DecidableEq

/-- The six decoders. -/
def EventKind.decode (registry : Option Registry) (log : Log) : EventKind → Except Error Event
  | .payment => (Payroll.decodePaymentEvent registry log).map .payment
  | .referenceConsumed => (Payroll.decodeReferenceConsumedEvent registry log).map .referenceConsumed
  | .batchExecuted => (Payroll.decodeBatchExecutedEvent registry log).map .batchExecuted
  | .swapExecuted => (Payroll.decodeSwapExecutedEvent registry log).map .swapExecuted
  | .surplusRefunded => (Payroll.decodeSurplusRefundedEvent registry log).map .surplusRefunded
  | .mainnetSwapExecuted => (Swap.decodeWizPayMainnetSwapExecuted registry log).map .mainnetSwapExecuted

/-- The topics of an event: its signature and the indexed fields. -/
def Event.topics : Event → List (List UInt8)
  | .payment e => [eventTopic0 sigPayrollPayment, e.referenceHash, topicAddress e.employer, topicAddress e.tokenOut]
  | .referenceConsumed e =>
    [eventTopic0 sigPayrollReferenceConsumed, e.referenceHash, topicAddress e.employer, topicAddress e.tokenIn]
  | .batchExecuted e =>
    [eventTopic0 sigPayrollBatchExecuted, topicAddress e.employer, topicAddress e.tokenIn, topicAddress e.tokenOut]
  | .swapExecuted e =>
    [eventTopic0 sigPayrollSwapExecuted, e.referenceHash, topicAddress e.employer, topicAddress e.tokenIn]
  | .surplusRefunded e =>
    [eventTopic0 sigPayrollSurplusRefunded, e.referenceHash, topicAddress e.employer, topicAddress e.tokenOut]
  | .mainnetSwapExecuted e =>
    [eventTopic0 sigWizPayMainnetSwapExecuted, topicAddress e.caller, topicAddress e.tokenIn, topicAddress e.tokenOut]

/-- The data of an event: the other fields, packed. -/
def Event.data : Event → List UInt8
  | .payment e =>
    Abi.pack Payroll.paymentTypes (hexToAddress e.recipient, uint256 (some e.paymentIndex), uint256 (some e.amountOut), ())
  | .referenceConsumed e =>
    Abi.pack Payroll.referenceConsumedTypes
      (hexToAddress e.tokenOut, BitVec.ofNat 256 (Abi.number e.batchDigest), uint256 (some e.totalInput),
        uint256 (some e.totalOutput), uint256 (some e.totalFees), uint256 (some e.recipientCount), e.referenceID, ())
  | .batchExecuted e =>
    Abi.pack Payroll.batchExecutedTypes
      (uint256 (some e.totalInput), uint256 (some e.totalOutput), uint256 (some e.totalFees),
        uint256 (some e.recipientCount), e.referenceID, ())
  | .swapExecuted e =>
    Abi.pack Payroll.swapExecutedTypes
      (hexToAddress e.tokenOut, uint256 (some e.grossInput), uint256 (some e.feeAmount), uint256 (some e.netAmountIn),
        uint256 (some e.amountOut), uint256 (some e.minTotalOut), ())
  | .surplusRefunded e => Abi.pack Payroll.surplusRefundedTypes (uint256 (some e.amount), ())
  | .mainnetSwapExecuted e =>
    Abi.pack Swap.mainnetSwapExecutedTypes
      (uint256 (some e.amountIn), uint256 (some e.feeAmount), uint256 (some e.netAmountIn), uint256 (some e.amountOut),
        uint256 (some e.minAmountOut), ())

/-- What the decoder of a kind leaves unchecked: the first bytes of the address topics, or
the length of the data. -/
def EventKind.Clean (log : Log) : EventKind → Prop
  | .mainnetSwapExecuted => log.data.length = 160
  | .batchExecuted => ∀ topic ∈ log.topics.drop 1, CleanTopic topic
  | _ => ∀ topic ∈ log.topics.drop 2, CleanTopic topic

section Canonical

variable {topic : List UInt8}

theorem topicHash_word (length : topic.length = 32) : Payroll.topicHash topic = topic := if_pos length

/-- A payroll address topic is written back exactly when its first bytes are zero. -/
theorem topicAddress_written (length : topic.length = 32) :
    topic = topicAddress (Payroll.topicAddress topic) ↔ CleanTopic topic := by
  rw [Payroll.topicAddress, if_neg (not_not.mpr length), topicAddress, hexToAddress_hex]
  exact topic_canonical_iff length

theorem hex_read (valid : validAddress value = true) :
    addressesEqual (hex (hexToAddress value)) value = true :=
  addressesEqual_iff.mpr ⟨validAddress_hex _, valid, hexToAddress_hex _⟩

theorem topicAddress_read (valid : validAddress value = true) :
    addressesEqual (Payroll.topicAddress (topicAddress value)) value = true := by
  have length : (topicAddress value).length = 32 := Abi.word_length _
  have named := ((topic_eq_word_iff value length).mp rfl).2
  rw [hexToAddress_hexOfBytes] at named
  have address : addressOfWord (topicAddress value) = hexToAddress value := named
  rw [Payroll.topicAddress, if_neg (not_not.mpr length), address]
  exact hex_read valid

/-- An address that was read from a clean topic is written back. -/
theorem addressFromTopic_written (read : addressFromTopic topic = some value) :
    topic = topicAddress value := by
  obtain ⟨length, clean, rfl⟩ := addressFromTopic_eq_some.mp read
  rw [topicAddress, hexToAddress_hex]
  exact (topic_canonical_iff length).mpr clean

end Canonical

theorem cons_eq_iff {head first second third first' second' third' : List UInt8} :
    [head, first, second, third] = [head, first', second', third'] ↔
      first = first' ∧ second = second' ∧ third = third' := by
  simp

/-- The payroll events whose first indexed field is the reference hash. -/
theorem hashed_canonical_iff {ts : List Abi.Ty} {α : Type} {signature name : String}
    {read : List UInt8 → List UInt8 → List UInt8 → Abi.Tuple ts → α}
    {wrap : α → Event} {event : Event}
    (written : ∀ first second third values, (wrap (read first second third values)).topics =
      [eventTopic0 signature, Payroll.topicHash first, topicAddress (Payroll.topicAddress second),
        topicAddress (Payroll.topicAddress third)])
    (packed : ∀ first second third values, (wrap (read first second third values)).data = Abi.pack ts values)
    (words : ∀ topic ∈ log.topics, topic.length = 32)
    (decoded : (Payroll.decodeEvent signature name read registry log).map wrap = .ok event) :
    (log.topics = event.topics ∧ log.data = event.data) ↔ ∀ topic ∈ log.topics.drop 2, CleanTopic topic := by
  obtain ⟨e, accepted, rfl⟩ := map_ok.mp decoded
  obtain ⟨-, first, second, third, values, topics, data, -, rfl⟩ := Payroll.decodeEvent_eq_ok.mp accepted
  rw [topics] at words ⊢
  simp only [List.forall_mem_cons] at words
  obtain ⟨-, length, length', length'', -⟩ := words
  simp only [written, packed, data, cons_eq_iff, topicHash_word length, topicAddress_written length',
    topicAddress_written length'']
  simp

/-- The digest of a batch is one word. -/
theorem ofNat_number_word (digest : BitVec 256) : BitVec.ofNat 256 (Abi.number (Abi.word digest.toNat)) = digest := by
  rw [Abi.number_word digest.isLt, BitVec.ofNat_toNat, BitVec.setWidth_eq]

/-- **Which accepted logs are the encoding of the event they were decoded to**: those whose
unchecked bytes are clean. -/
theorem decode_canonical_iff {kind : EventKind} {registry : Option Registry} {log : Log} {event : Event}
    (words : ∀ topic ∈ log.topics, topic.length = 32) (decoded : kind.decode registry log = .ok event) :
    (log.topics = event.topics ∧ log.data = event.data) ↔ kind.Clean log := by
  cases kind with
  | payment =>
    refine hashed_canonical_iff (fun _ _ _ _ => rfl) ?_ words decoded
    rintro _ _ _ ⟨recipient, index, amount, ⟨⟩⟩
    simp [Event.data, Payroll.readPayment]
  | referenceConsumed =>
    refine hashed_canonical_iff (fun _ _ _ _ => rfl) ?_ words decoded
    rintro _ _ _ ⟨tokenOut, digest, totalIn, totalOut, fees, count, referenceID, ⟨⟩⟩
    simp [Event.data, Payroll.readReferenceConsumed, ofNat_number_word]
  | swapExecuted =>
    refine hashed_canonical_iff (fun _ _ _ _ => rfl) ?_ words decoded
    rintro _ _ _ ⟨tokenOut, gross, fee, net, amountOut, minimum, ⟨⟩⟩
    simp [Event.data, Payroll.readSwapExecuted]
  | surplusRefunded =>
    refine hashed_canonical_iff (fun _ _ _ _ => rfl) ?_ words decoded
    rintro _ _ _ ⟨amount, ⟨⟩⟩
    simp [Event.data, Payroll.readSurplusRefunded]
  | batchExecuted =>
    -- all three indexed fields are addresses here
    obtain ⟨e, accepted, rfl⟩ := map_ok.mp decoded
    obtain ⟨-, first, second, third, ⟨totalIn, totalOut, fees, count, referenceID, ⟨⟩⟩, topics, data, -, rfl⟩ :=
      Payroll.decodeEvent_eq_ok.mp accepted
    rw [topics] at words ⊢
    simp only [List.forall_mem_cons] at words
    obtain ⟨-, length, length', length'', -⟩ := words
    simp only [Event.topics, Event.data, Payroll.readBatchExecuted, EventKind.Clean, topics, data, cons_eq_iff,
      topicAddress_written length, topicAddress_written length', topicAddress_written length'']
    simp
  | mainnetSwapExecuted =>
    obtain ⟨e, accepted, rfl⟩ := map_ok.mp decoded
    obtain ⟨first, second, third, amountIn, fee, net, amountOut, minimum, topics, caller, tokenIn, tokenOut, unpacked,
      facts⟩ := Swap.decodeSwap_ok accepted
    obtain ⟨one, two, three, four, five⟩ := facts
    have written : Event.data (.mainnetSwapExecuted e) = log.data.take 160 := by
      have packed := Abi.pack_unpack_words (by simp) unpacked
      rw [Event.data, one, two, three, four, five]
      simp only [uint256_bigInt]
      exact packed
    have named : log.topics = Event.topics (.mainnetSwapExecuted e) := by
      rw [topics, Event.topics, ← addressFromTopic_written caller, ← addressFromTopic_written tokenIn,
        ← addressFromTopic_written tokenOut]
    have size : (Event.data (.mainnetSwapExecuted e)).length = 160 := (Abi.pack_length _).trans rfl
    rw [written, List.length_take] at size
    simp only [named, written, EventKind.Clean, true_and]
    rw [eq_comm, List.take_eq_self_iff]
    omega

/-! ### Logs that are not the encoding of their event -/

/-- A payment log whose employer topic begins with the byte `first`. -/
def paymentLog (first : UInt8) : Log :=
  { address := addressWizPayPayroll, chainID := chainIDArcMainnet,
    topics := [eventTopic0 sigPayrollPayment, Abi.word 0, first :: List.replicate 31 0, Abi.word 0],
    data := Abi.pack Payroll.paymentTypes (1, 0, 5, ()) }

theorem paymentLog_words (first : UInt8) : ∀ topic ∈ (paymentLog first).topics, topic.length = 32 := by
  simp [paymentLog]

theorem paymentLog_decoded (first : UInt8) :
    EventKind.decode none (paymentLog first) .payment =
      .ok (.payment (Payroll.readPayment (Abi.word 0) (first :: List.replicate 31 0) (Abi.word 0) (1, 0, 5, ()))) := by
  apply map_ok.mpr
  refine ⟨_, Payroll.decodeEvent_eq_ok.mpr ⟨?_, _, _, _, (1, 0, 5, ()), rfl, rfl, ?_, rfl⟩, rfl⟩
  · exact Payroll.validateEventLog_default (by simp [canonicalEvents]) rfl rfl rfl
  · exact Abi.unpack_pack (by simp [Payroll.paymentTypes, Abi.Ty.Fits]) _ (by rw [Abi.pack_length]; decide)

theorem decode_canonical_clean :
    (∀ topic ∈ (paymentLog 0).topics, topic.length = 32) ∧
      ((paymentLog 0).topics = (Event.payment (Payroll.readPayment (Abi.word 0) (0 :: List.replicate 31 0) (Abi.word 0)
          (1, 0, 5, ()))).topics ∧
        (paymentLog 0).data = (Event.payment (Payroll.readPayment (Abi.word 0) (0 :: List.replicate 31 0) (Abi.word 0)
          (1, 0, 5, ()))).data) := by
  refine ⟨paymentLog_words 0, (decode_canonical_iff (paymentLog_words 0) (paymentLog_decoded 0)).mpr ?_⟩
  simp only [EventKind.Clean, paymentLog]
  decide +kernel

/-- A swap log with one more byte than its five amounts. -/
def longSwapLog : Log :=
  { address := addressWizPaySwapExecutor, chainID := chainIDArcMainnet,
    topics := [eventTopic0 sigWizPayMainnetSwapExecuted, Abi.word 0, Abi.word 0, Abi.word 0],
    data := Abi.pack Swap.mainnetSwapExecutedTypes (0, 0, 0, 0, 0, ()) ++ [0] }

theorem longSwapLog_decoded : EventKind.decode none longSwapLog .mainnetSwapExecuted =
    .ok (.mainnetSwapExecuted ⟨hex 0, hex 0, hex 0, 0, 0, 0, 0, 0⟩) := by
  have zero : addressFromTopic (Abi.word 0) = some (hex 0) :=
    addressFromTopic_eq_some.mpr ⟨by simp, by decide +kernel, congrArg hex (by decide +kernel)⟩
  have size : (Abi.pack Swap.mainnetSwapExecutedTypes (0, 0, 0, 0, 0, ())).length = 160 := (Abi.pack_length _).trans rfl
  have unpacked : Abi.unpack Swap.mainnetSwapExecutedTypes (Abi.pack Swap.mainnetSwapExecutedTypes (0, 0, 0, 0, 0, ()) ++ [0]) =
      some (0, 0, 0, 0, 0, ()) :=
    Abi.unpack_append (by simp [Abi.Ty.Fits]) _ [0] (by rw [List.length_append, size]; decide)
  have mine : addressesEqual addressWizPaySwapExecutor swapDeploymentV1.address = true :=
    addressesEqual_self validAddress_swapExecutor
  have decoded : Swap.decodeWizPayMainnetSwapExecuted none longSwapLog = .ok ⟨hex 0, hex 0, hex 0, 0, 0, 0, 0, 0⟩ := by
    rw [Swap.decodeWizPayMainnetSwapExecuted, expectedDeployment_swap]
    apply bind_ok.mpr
    refine ⟨_, rfl, ?_⟩
    simp only [checks_ok, longSwapLog, mine, zero, unpacked]
    exact ⟨by decide, by simp, rfl⟩
  rw [EventKind.decode, decoded]
  rfl

/-- A payroll log with a dirty address topic and a swap log with trailing data are
accepted, and neither is the encoding of its event. -/
theorem unclean_logs_accepted :
    ((∀ topic ∈ (paymentLog 1).topics, topic.length = 32) ∧
        ∃ event, EventKind.decode none (paymentLog 1) .payment = .ok event ∧ (paymentLog 1).topics ≠ event.topics) ∧
      (∀ topic ∈ longSwapLog.topics, topic.length = 32) ∧
        ∃ event, EventKind.decode none longSwapLog .mainnetSwapExecuted = .ok event ∧ longSwapLog.data ≠ event.data := by
  refine ⟨⟨paymentLog_words 1, _, paymentLog_decoded 1, ?_⟩, by simp [longSwapLog], _, longSwapLog_decoded, ?_⟩
  · intro same
    have third := (cons_eq_iff.mp same).2.1
    exact absurd ((topicAddress_written (by simp)).mp third) (by decide)
  · intro same
    have length := congrArg List.length same
    have size : (Event.data (.mainnetSwapExecuted ⟨hex 0, hex 0, hex 0, 0, 0, 0, 0, 0⟩)).length = 160 :=
      (Abi.pack_length _).trans rfl
    have long : longSwapLog.data.length = 161 := by
      rw [longSwapLog, List.length_append]
      exact congrArg (· + 1) ((Abi.pack_length _).trans rfl)
    omega

end WizPay.Contracts
