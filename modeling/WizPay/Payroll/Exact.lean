import WizPay.Payroll.Events
import WizPay.Payroll.Planned

/-!
# What a verified payroll has shown

The two paths of the verifier accept the same relation between the events of a receipt and
the frozen intent, except that a same-token payroll takes the hash of its reference from
the events themselves.
-/
namespace WizPay.Payroll

open Checks GoText GoTime Contracts Contracts.Payroll Intents Providers

/-- A payment pays the obligation at its position, under a reference. -/
structure Paid (wallet token : String) (hash : List UInt8) (due : (String × Int) × Nat) (e : PaymentEvent) : Prop where
  referenceHash : e.referenceHash = hash
  employer : addressesEqual e.employer wallet = true
  tokenOut : addressesEqual e.tokenOut token = true
  recipient : addressesEqual e.recipient due.1.1 = true
  amount : e.amountOut = due.1.2
  index : e.paymentIndex = due.2

/-- The fields that the two aggregate events share. -/
def summary (e : ReferenceConsumedEvent) : BatchExecutedEvent :=
  { employer := e.employer, tokenIn := e.tokenIn, tokenOut := e.tokenOut, totalInput := e.totalInput,
    totalOutput := e.totalOutput, totalFees := e.totalFees, recipientCount := e.recipientCount,
    referenceID := e.referenceID }

/-- An aggregate event agrees with the payments. -/
structure Reports (wallet tokenIn tokenOut : String) (referenceID : List UInt8) (payments : List PaymentEvent)
    (input fees : Int) (e : BatchExecutedEvent) : Prop where
  employer : addressesEqual e.employer wallet = true
  tokenIn : addressesEqual e.tokenIn tokenIn = true
  tokenOut : addressesEqual e.tokenOut tokenOut = true
  referenceID : e.referenceID = referenceID
  totalInput : e.totalInput = input
  totalFees : e.totalFees = fees
  totalOutput : e.totalOutput = (payments.map PaymentEvent.amountOut).sum
  recipientCount : e.recipientCount = payments.length

/-- One payment for each obligation, one reference and one batch. -/
structure Settled (wallet tokenIn tokenOut : String) (referenceID : List UInt8) (obligations : List (String × Int))
    (hash : List UInt8) (input fees : Int) (events : Events) : Prop where
  payments : List.Forall₂ (Paid wallet tokenOut hash) obligations.zipIdx events.payments
  reference : ∃ ref, events.references = [ref] ∧ ref.referenceHash = hash ∧
    Reports wallet tokenIn tokenOut referenceID events.payments input fees (summary ref)
  batch : ∃ batch, events.batches = [batch] ∧
    Reports wallet tokenIn tokenOut referenceID events.payments input fees batch

section Payments

variable {wallet token : String} {hash : List UInt8} {i : Nat} {obligations : List (String × Int)}
  {payments : List PaymentEvent}

theorem paymentMatches_eq_true {line : String × Int} {e : PaymentEvent} :
    e.referenceHash = hash ∧ paymentMatches wallet token i line e = true ↔ Paid wallet token hash (line, i) e := by
  simp only [paymentMatches, Bool.and_eq_true, decide_eq_true_eq]
  constructor
  · rintro ⟨referenceHash, ⟨⟨⟨employer, tokenOut⟩, recipient⟩, amount⟩, index⟩
    exact ⟨referenceHash, employer, tokenOut, recipient, amount, index⟩
  · rintro ⟨referenceHash, employer, tokenOut, recipient, amount, index⟩
    exact ⟨referenceHash, ⟨⟨⟨employer, tokenOut⟩, recipient⟩, amount⟩, index⟩

/-- Both loops over the payments compare them with the obligations, one by one. -/
theorem checkCrossPayments_eq_ok (counted : payments.length = obligations.length) :
    checkCrossPayments wallet token hash i obligations payments = .ok () ↔
      List.Forall₂ (Paid wallet token hash) (obligations.zipIdx i) payments := by
  induction obligations generalizing i payments with
  | nil =>
    obtain rfl := List.length_eq_zero_iff.mp counted
    simp [checkCrossPayments]
  | cons line rest ih =>
    obtain ⟨e, others, rfl⟩ := List.exists_cons_of_length_eq_add_one counted
    rw [List.length_cons, List.length_cons, Nat.add_right_cancel_iff] at counted
    simp only [checkCrossPayments, checks_ok, not_or, not_not, Bool.not_eq_false, ih counted, paymentMatches_eq_true,
      List.zipIdx_cons, List.forall₂_cons]

theorem checkPayments_eq_ok (counted : payments.length = obligations.length) :
    checkPayments wallet token hash i obligations payments = .ok () ↔
      List.Forall₂ (Paid wallet token hash) (obligations.zipIdx i) payments := by
  induction obligations generalizing i payments with
  | nil =>
    obtain rfl := List.length_eq_zero_iff.mp counted
    simp [checkPayments]
  | cons line rest ih =>
    obtain ⟨e, others, rfl⟩ := List.exists_cons_of_length_eq_add_one counted
    rw [List.length_cons, List.length_cons, Nat.add_right_cancel_iff] at counted
    simp only [checkPayments, checks_ok, not_not, Bool.not_eq_false, ih counted, List.zipIdx_cons, List.forall₂_cons,
      ← paymentMatches_eq_true]
    -- the index is compared on its own before it is compared with the other fields
    constructor
    · rintro ⟨-, same, named, rest⟩
      exact ⟨⟨named, same⟩, rest⟩
    · rintro ⟨⟨named, same⟩, rest⟩
      exact ⟨(paymentMatches_eq_true.mp ⟨named, same⟩).index, same, named, rest⟩

theorem length_of_paid (paid : List.Forall₂ (Paid wallet token hash) (obligations.zipIdx i) payments) :
    payments.length = obligations.length := by
  simpa using paid.length_eq.symm

/-- What was paid is what was owed. -/
theorem sum_of_paid (paid : List.Forall₂ (Paid wallet token hash) (obligations.zipIdx i) payments) :
    (payments.map PaymentEvent.amountOut).sum = (obligations.map Prod.snd).sum := by
  induction obligations generalizing i payments with
  | nil =>
    rw [List.zipIdx_nil, List.forall₂_nil_left_iff] at paid
    rw [paid]
    rfl
  | cons line rest ih =>
    rw [List.zipIdx_cons, List.forall₂_cons_left_iff] at paid
    obtain ⟨e, others, first, remaining, rfl⟩ := paid
    rw [List.map_cons, List.sum_cons, List.map_cons, List.sum_cons, ih remaining, first.amount]

end Payments

/-! ### Same-token payrolls -/

def total (obligations : List (String × Int)) : Int := (obligations.map Prod.snd).sum

variable {ref : ReferenceConsumedEvent}

section SameToken

variable {wallet token : String} {referenceID hash : List UInt8} {p : PayrollParameters} {events : Events}

theorem checkAggregates_eq_ok {count : Nat} {due : Int} {batch : BatchExecutedEvent} {payments : List PaymentEvent}
    (paid : (payments.map PaymentEvent.amountOut).sum = due) (counted : payments.length = count) :
    checkAggregates wallet token referenceID count due hash ref batch = .ok () ↔
      ref.referenceHash = hash ∧ ref.totalFees ≤ maximumFee due ∧
        Reports wallet token token referenceID payments (due + ref.totalFees) ref.totalFees (summary ref) ∧
        Reports wallet token token referenceID payments (due + ref.totalFees) ref.totalFees batch := by
  simp only [checkAggregates, checks_ok, not_or, not_not, Bool.not_eq_false, not_lt]
  constructor
  · rintro ⟨⟨named, employer, tokenIn, tokenOut, id⟩, ⟨employer', tokenIn', tokenOut', id'⟩, count₁, count₂, out₁, out₂, input,
      fees, bound, sum⟩
    exact ⟨named, bound, ⟨employer, tokenIn, tokenOut, id, sum, rfl, out₁.trans paid.symm, by rw [counted]; exact count₁⟩,
      ⟨employer', tokenIn', tokenOut', id', input.symm.trans sum, fees.symm, out₂.trans paid.symm, by rw [counted]; exact count₂⟩⟩
  · rintro ⟨named, bound, first, second⟩
    have count₁ := first.recipientCount
    have count₂ := second.recipientCount
    rw [counted] at count₁ count₂
    exact ⟨⟨named, first.employer, first.tokenIn, first.tokenOut, first.referenceID⟩,
      ⟨second.employer, second.tokenIn, second.tokenOut, second.referenceID⟩, count₁, count₂,
      first.totalOutput.trans paid, second.totalOutput.trans paid, first.totalInput.trans second.totalInput.symm,
      second.totalFees.symm, bound, first.totalInput⟩

/-- The events of a same-token payroll are accepted when they are settled, under any hash. -/
theorem checkSameToken_eq_ok (given : p.recipients ≠ []) :
    checkSameToken wallet p events = .ok () ↔
      ∃ hash fees, fees ≤ maximumFee (total (sameTokenObligations p)) ∧
        Settled wallet p.tokenIn.address p.tokenIn.address (bytes p.referenceID) (sameTokenObligations p) hash
          (total (sameTokenObligations p) + fees) fees events := by
  simp only [checkSameToken, checks_ok, not_not]
  constructor
  · rintro ⟨counted, rest⟩
    split at rest
    next ref batch references batches =>
      obtain ⟨paid, aggregates⟩ := guard_ok.mp rest
      rw [checkPayments_eq_ok counted] at paid
      obtain ⟨named, bound, first, second⟩ := (checkAggregates_eq_ok (sum_of_paid paid) counted).mp aggregates
      exact ⟨_, ref.totalFees, bound, paid, ⟨ref, references, named, first⟩, batch, batches, second⟩
    next => cases rest
  · rintro ⟨hash, fees, bound, paid, ⟨ref, references, named, first⟩, batch, batches, second⟩
    have counted := length_of_paid paid
    refine ⟨counted, ?_⟩
    rw [references, batches]
    -- there is a first payment, and it carries the hash
    have head : (events.payments.head?.map PaymentEvent.referenceHash).getD (List.replicate 32 0) = hash := by
      cases obligations : sameTokenObligations p with
      | nil => exact absurd (List.map_eq_nil_iff.mp obligations) given
      | cons line rest =>
        rw [obligations, List.zipIdx_cons, List.forall₂_cons_left_iff] at paid
        obtain ⟨e, others, paidFirst, -, payments⟩ := paid
        rw [payments]
        exact paidFirst.referenceHash
    obtain rfl : ref.totalFees = fees := first.totalFees
    simp only [head, guard_ok]
    exact ⟨(checkPayments_eq_ok counted).mpr paid,
      (checkAggregates_eq_ok (sum_of_paid paid) counted).mpr ⟨named, bound, first, second⟩⟩

end SameToken

/-! ### Cross-token payrolls -/

/-- The swap of a cross-token payroll. -/
structure Swapped (wallet tokenIn tokenOut : String) (hash : List UInt8) (gross minimum obligations : Int)
    (swap : SwapExecutedEvent) : Prop where
  referenceHash : swap.referenceHash = hash
  employer : addressesEqual swap.employer wallet = true
  tokenIn : addressesEqual swap.tokenIn tokenIn = true
  tokenOut : addressesEqual swap.tokenOut tokenOut = true
  grossInput : swap.grossInput = gross
  minTotalOut : swap.minTotalOut = minimum
  net : swap.netAmountIn + swap.feeAmount = gross
  fee : swap.feeAmount * 10000 ≤ gross * contractMaxFeeBPS
  delivers : minimum ≤ swap.amountOut
  covers : obligations ≤ swap.amountOut

/-- The surplus is refunded to the wallet, and nothing else is. -/
def Refunded (wallet tokenOut : String) (hash : List UInt8) (surplus : Int) (refunds : List SurplusRefundedEvent) : Prop :=
  if 0 < surplus then
    ∃ refund, refunds = [refund] ∧ refund.referenceHash = hash ∧ addressesEqual refund.employer wallet = true ∧
      addressesEqual refund.tokenOut tokenOut = true ∧ refund.amount = surplus
  else refunds = []

section CrossToken

variable {wallet tokenIn tokenOut : String} {referenceID hash : List UInt8} {p : PayrollParameters} {events : Events}
  {gross minimum obligations : Int}

theorem checkSwap_eq_ok {swap : SwapExecutedEvent} :
    checkSwap wallet tokenIn tokenOut hash gross minimum obligations swap = .ok () ↔
      Swapped wallet tokenIn tokenOut hash gross minimum obligations swap := by
  simp only [checkSwap, checks_ok, not_or, not_not, Bool.not_eq_false, not_lt]
  constructor
  · rintro ⟨⟨named, employer, tokenIn, tokenOut, gross, minimum⟩, net, fee, delivers, covers⟩
    exact ⟨named, employer, tokenIn, tokenOut, gross, minimum, net, fee, delivers, covers⟩
  · rintro ⟨named, employer, tokenIn, tokenOut, gross, minimum, net, fee, delivers, covers⟩
    exact ⟨⟨named, employer, tokenIn, tokenOut, gross, minimum⟩, net, fee, delivers, covers⟩

theorem checkSurplus_eq_ok {surplus : Int} {refunds : List SurplusRefundedEvent} :
    checkSurplus wallet tokenOut hash surplus refunds = .ok () ↔ Refunded wallet tokenOut hash surplus refunds := by
  unfold checkSurplus Refunded
  split
  · rcases refunds with _ | ⟨refund, _ | ⟨second, more⟩⟩
    all_goals simp
  · simp

theorem checkCrossAggregates_eq_ok {count : Nat} {fee : Int} {batch : BatchExecutedEvent}
    {payments : List PaymentEvent} (paid : (payments.map PaymentEvent.amountOut).sum = obligations)
    (counted : payments.length = count) :
    checkCrossAggregates wallet tokenIn tokenOut referenceID count gross obligations fee hash ref batch = .ok () ↔
      ref.referenceHash = hash ∧ Reports wallet tokenIn tokenOut referenceID payments gross fee (summary ref) ∧
        Reports wallet tokenIn tokenOut referenceID payments gross fee batch := by
  simp only [checkCrossAggregates, checks_ok, not_or, not_not, Bool.not_eq_false]
  subst paid counted
  constructor
  · rintro ⟨⟨named, employer, tokenIn, tokenOut, id, input, output, fees, count⟩, employer', tokenIn', tokenOut', id', input',
      output', fees', count'⟩
    exact ⟨named, ⟨employer, tokenIn, tokenOut, id, input, fees, output, count⟩,
      employer', tokenIn', tokenOut', id', input', fees', output', count'⟩
  · rintro ⟨named, first, second⟩
    exact ⟨⟨named, first.employer, first.tokenIn, first.tokenOut, first.referenceID, first.totalInput, first.totalOutput,
      first.totalFees, first.recipientCount⟩, second.employer, second.tokenIn, second.tokenOut, second.referenceID,
      second.totalInput, second.totalOutput, second.totalFees, second.recipientCount⟩

/-- The events of a cross-token payroll are accepted under the hash of its reference only. -/
theorem checkCrossToken_eq_ok :
    checkCrossToken wallet p gross minimum events = .ok () ↔
      ∃ hash swap, referenceHash wallet (bytes p.referenceID) = .ok hash ∧ events.swaps = [swap] ∧
        Swapped wallet p.tokenIn.address (outputToken p) hash gross minimum (total (crossTokenObligations p)) swap ∧
        Settled wallet p.tokenIn.address (outputToken p) (bytes p.referenceID) (crossTokenObligations p) hash gross
          swap.feeAmount events ∧
        Refunded wallet (outputToken p) hash (swap.amountOut - total (crossTokenObligations p)) events.refunds := by
  simp only [checkCrossToken, checks_ok, not_not]
  constructor
  · rintro ⟨counted, rest⟩
    split at rest
    next swap ref batch swaps references batches =>
      obtain ⟨hash, known, rest⟩ := bind_ok.mp rest
      rw [mapError_ok] at known
      simp only [guard_ok] at rest
      obtain ⟨swapped, paid, aggregates, refunded⟩ := rest
      rw [checkCrossPayments_eq_ok counted] at paid
      obtain ⟨named, first, second⟩ := (checkCrossAggregates_eq_ok (sum_of_paid paid) counted).mp aggregates
      exact ⟨hash, swap, known, swaps, checkSwap_eq_ok.mp swapped,
        ⟨paid, ⟨ref, references, named, first⟩, batch, batches, second⟩, checkSurplus_eq_ok.mp refunded⟩
    next => cases rest
  · rintro ⟨hash, swap, known, swaps, swapped, ⟨paid, ⟨ref, references, named, first⟩, batch, batches, second⟩, refunded⟩
    have counted := length_of_paid paid
    refine ⟨counted, ?_⟩
    rw [swaps, references, batches]
    refine bind_ok.mpr ⟨hash, mapError_ok.mpr known, ?_⟩
    simp only [guard_ok]
    exact ⟨checkSwap_eq_ok.mpr swapped, (checkCrossPayments_eq_ok counted).mpr paid,
      (checkCrossAggregates_eq_ok (sum_of_paid paid) counted).mpr ⟨named, first, second⟩, checkSurplus_eq_ok.mpr refunded⟩

end CrossToken

/-! ### Exact executions -/

/-- The transaction is the planned call of the wallet, with a value of the native coin. -/
structure Transacts (plan : Plan) (receipt : Receipt) (value : Int) : Prop where
  sent : Sent receipt plan.walletAddress addressWizPayPayroll
  call : receipt.input = plan.encodedCall.callData
  value : ∃ n : Nat, decodeBig receipt.value = some n ∧ (n : Int) = value

/-- A same-token payroll was executed under a hash. -/
structure SameTokenExecution (registry : Option Registry) (plan : Plan) (p : PayrollParameters) (receipt : Receipt)
    (events : Events) (hash : List UInt8) : Prop where
  transacts : Transacts plan receipt 0
  collected : Collected registry receipt.chainID receipt.logs events
  settled : ∃ fees, fees ≤ maximumFee (total (sameTokenObligations p)) ∧
    Settled plan.walletAddress p.tokenIn.address p.tokenIn.address (bytes p.referenceID) (sameTokenObligations p) hash
      (total (sameTokenObligations p) + fees) fees events
  noSwap : events.swaps = []
  noRefund : events.refunds = []

/-- A cross-token payroll was executed under a hash. -/
structure CrossTokenExecution (registry : Option Registry) (plan : Plan) (p : PayrollParameters)
    (crossToken : CrossTokenPayrollParameters) (receipt : Receipt) (events : Events) (hash : List UInt8) : Prop where
  transacts : Transacts plan receipt (crossTokenValue p ((baseOf crossToken.grossInput).getD 0))
  collected : Collected registry receipt.chainID receipt.logs events
  swap : ∃ swap, events.swaps = [swap] ∧
    Swapped plan.walletAddress p.tokenIn.address (outputToken p) hash ((baseOf crossToken.grossInput).getD 0)
      ((baseOf crossToken.minTotalOut).getD 0) (total (crossTokenObligations p)) swap ∧
    Settled plan.walletAddress p.tokenIn.address (outputToken p) (bytes p.referenceID) (crossTokenObligations p) hash
      ((baseOf crossToken.grossInput).getD 0) swap.feeAmount events ∧
    Refunded plan.walletAddress (outputToken p) hash (swap.amountOut - total (crossTokenObligations p)) events.refunds

/-- The receipt shows the payroll of the intent and of its reference, and no other. -/
structure Exact (registry : Option Registry) (intent : Intent) (plan : Plan) (receipt : Receipt) : Prop where
  wallet : addressesEqual plan.walletAddress intent.params.ownership.walletAddress = true
  execution : ∃ p events hash, intent.params.financial.payroll = some p ∧
    referenceHash plan.walletAddress (bytes p.referenceID) = .ok hash ∧
    match p.crossToken with
    | none => SameTokenExecution registry plan p receipt events hash
    | some crossToken => CrossTokenExecution registry plan p crossToken receipt events hash

section Verify

variable {registry : Option Registry} {intent : Intent} {plan : Plan} {p : PayrollParameters} {receipt : Receipt}

theorem sameTokenChecks_eq_ok (given : p.recipients ≠ []) :
    sameTokenChecks registry plan p receipt = .ok () ↔
      validTransactionHash (toLower (trimSpace receipt.transactionHash)) = true ∧
        (∃ decoded, decodeSameTokenPayrollCall receipt.input = .ok decoded ∧ bindsSameToken p decoded = true) ∧
        p.sameTokenExecutable = true ∧ validateLogs receipt.logs = .ok () ∧
        ∃ events hash, SameTokenExecution registry plan p receipt events hash := by
  constructor
  · intro passed
    simp only [sameTokenChecks, checks_ok, checkEnvelope_eq_ok, not_not] at passed
    obtain ⟨⟨named, sent⟩, value, call, rest⟩ := passed
    obtain ⟨decoded, read, rest⟩ := bind_ok.mp rest
    simp only [checks_ok, Bool.not_eq_false] at rest read
    obtain ⟨executable, binds, logs, rest⟩ := rest
    obtain ⟨events, looped, settled⟩ := bind_ok.mp rest
    obtain ⟨more, collected, admitted, rfl⟩ := collect_eq_ok.mp looped
    rw [Events.none_append] at settled
    obtain ⟨hash, fees, bound, settled⟩ := (checkSameToken_eq_ok given).mp settled
    exact ⟨named, ⟨decoded, read, binds⟩, executable, logs, more, hash, ⟨sent, call, 0, value, rfl⟩, collected,
      ⟨fees, bound, settled⟩, (admitted rfl).1, (admitted rfl).2⟩
  · rintro ⟨named, ⟨decoded, read, binds⟩, executable, logs, events, hash, execution⟩
    obtain ⟨⟨sent, call, n, value, zero⟩, collected, ⟨fees, bound, settled⟩, noSwap, noRefund⟩ := execution
    obtain rfl : n = 0 := by exact_mod_cast zero
    simp only [sameTokenChecks, checks_ok, checkEnvelope_eq_ok, not_not]
    refine ⟨⟨named, sent⟩, value, call, bind_ok.mpr ⟨decoded, mapError_ok.mpr read, ?_⟩⟩
    simp only [checks_ok, Bool.not_eq_false]
    refine ⟨executable, binds, logs, bind_ok.mpr ⟨events, ?_, (checkSameToken_eq_ok given).mpr ⟨hash, fees, bound, settled⟩⟩⟩
    exact collect_eq_ok.mpr ⟨events, collected, fun _ => ⟨noSwap, noRefund⟩, rfl⟩

theorem execution_of_crossTokenChecks {crossToken : CrossTokenPayrollParameters}
    (passed : crossTokenChecks registry plan p crossToken receipt = .ok ()) :
    ∃ events hash, referenceHash plan.walletAddress (bytes p.referenceID) = .ok hash ∧
      CrossTokenExecution registry plan p crossToken receipt events hash := by
  simp only [crossTokenChecks, checks_ok, checkEnvelope_eq_ok, not_not] at passed
  obtain ⟨⟨-, sent⟩, call, rest⟩ := passed
  obtain ⟨decoded, -, rest⟩ := bind_ok.mp rest
  obtain ⟨-, rest⟩ := guard_ok.mp rest
  split at rest
  next => cases rest
  next n value =>
    simp only [checks_ok, not_not] at rest
    obtain ⟨funding, -, rest⟩ := rest
    obtain ⟨events, looped, settled⟩ := bind_ok.mp rest
    obtain ⟨more, collected, -, rfl⟩ := collect_eq_ok.mp looped
    rw [Events.none_append] at settled
    obtain ⟨hash, swap, known, single, swapped, settled, refunded⟩ := checkCrossToken_eq_ok.mp settled
    exact ⟨more, hash, known, ⟨sent, call, n, value, funding⟩, collected, swap, single, swapped, settled, refunded⟩

/-- A verified receipt has passed the checks of the intent's own shape. -/
theorem checks_of_verified {result : DomainResult} (given : intent.params.financial.payroll = some p)
    (checked : verify registry intent plan receipt = .ok result) (verified : result.status = .verified) :
    addressesEqual plan.walletAddress intent.params.ownership.walletAddress = true ∧
      ((∃ crossToken, p.crossToken = some crossToken ∧ p.crossTokenExecutable = true ∧
          crossTokenChecks registry plan p crossToken receipt = .ok ()) ∨
        p.crossToken = none ∧ p.sameTokenExecutable = true ∧ sameTokenChecks registry plan p receipt = .ok ()) := by
  simp only [verify, guard_ok, mapError_ok, given] at checked
  obtain ⟨-, -, bound, rest⟩ := checked
  simp only [validatePlan, checks_ok, not_or, Bool.not_eq_false] at bound
  obtain ⟨-, -, ⟨-, wallet⟩, -, bound⟩ := bound
  obtain ⟨deployment, -, bound⟩ := bind_ok.mp bound
  refine ⟨wallet, ?_⟩
  split at rest
  next _ _ crossToken cross executable =>
    rw [pure_ok] at rest
    subst rest
    exact .inl ⟨crossToken, cross, executable, conclude_verified verified⟩
  next other =>
    rw [pure_ok] at rest
    subst rest
    -- the plan was bound to the intent as a same-token payroll
    have same : p.sameTokenExecutable = true := by
      simp only [guard_ok, given] at bound
      obtain ⟨-, bound⟩ := bound
      split at bound
      next executable =>
        obtain ⟨crossToken, cross⟩ := crossToken_of_executable executable
        exact absurd executable (other crossToken cross)
      next =>
        obtain ⟨executable, -⟩ := guard_ok.mp bound
        simpa using executable
    exact .inr ⟨(sameToken_of_executable same).1, same, conclude_verified verified⟩

/-- The reference event carries the hash of its log. -/
theorem reference_topic {events : Events} (collected : Collected registry receipt.chainID receipt.logs events)
    (single : events.references = [ref]) (valid : validateLogs receipt.logs = .ok ()) :
    (∃ log ∈ receipt.logs, isEvent sigPayrollReferenceConsumed log = true) ∧
      ∀ log ∈ receipt.logs, isEvent sigPayrollReferenceConsumed log = true → log.topics[1]? = some ref.referenceHash := by
  have decodes := collected.references
  rw [single] at decodes
  constructor
  · obtain ⟨log, only⟩ := List.length_eq_one_iff.mp (by simpa [Decodes] using congrArg List.length decodes)
    have member : log ∈ receipt.logs.filter (isEvent sigPayrollReferenceConsumed) := by rw [only]; exact List.mem_singleton_self _
    exact ⟨log, List.mem_of_mem_filter member, List.of_mem_filter member⟩
  · intro log member named
    have read : decodeReferenceConsumedEvent registry (log.contractLog receipt.chainID) ∈ [Except.ok ref] := by
      have mapped := List.mem_map_of_mem (f := fun log => decodeReferenceConsumedEvent registry (log.contractLog receipt.chainID))
        (List.mem_filter.mpr ⟨member, named⟩)
      rw [decodes] at mapped
      exact mapped
    obtain ⟨-, first, second, third, values, topics, -, -, rfl⟩ := decodeEvent_eq_ok.mp (List.mem_singleton.mp read)
    have word : first.length = 32 := by
      apply words_of_validateLogs valid member
      rw [show log.topics = _ from topics]
      simp
    rw [show log.topics = _ from topics]
    simp [readReferenceConsumed, topicHash, word]

end Verify

/-- **A verified payroll is exact** if and only if it is a cross-token payroll, or the log of its
reference carries the hash of the wallet and the reference ID. -/
theorem verified_exact_iff {registry : Option Registry} {intent : Intent} {plan : Plan} {p : PayrollParameters}
    {receipt : Receipt} {result : DomainResult} (given : intent.params.financial.payroll = some p)
    (checked : verify registry intent plan receipt = .ok result) (verified : result.status = .verified) :
    Exact registry intent plan receipt ↔
      p.crossToken.isSome = true ∨ ∀ log ∈ receipt.logs, isEvent sigPayrollReferenceConsumed log = true →
        log.topics[1]? = (referenceHash plan.walletAddress (bytes p.referenceID)).toOption := by
  obtain ⟨wallet, ⟨crossToken, cross, -, passed⟩ | ⟨same, executable, passed⟩⟩ := checks_of_verified given checked verified
  · obtain ⟨events, hash, known, execution⟩ := execution_of_crossTokenChecks passed
    have exact_ : Exact registry intent plan receipt :=
      ⟨wallet, p, events, hash, given, known, by rw [cross]; exact execution⟩
    exact iff_of_true exact_ (.inl (by rw [cross]; rfl))
  · obtain ⟨-, -, -, logs, events, hash, execution⟩ :=
      (sameTokenChecks_eq_ok (sameToken_of_executable executable).2).mp passed
    simp only [same, Option.isSome_none, Bool.false_eq_true, false_or]
    constructor
    · rintro ⟨-, q, found, expected, given', known, shown⟩
      obtain rfl : p = q := Option.some.inj (given.symm.trans given')
      simp only [same] at shown
      obtain ⟨fees, -, settled⟩ := shown.settled
      obtain ⟨ref, single, named, -⟩ := settled.reference
      intro log member event
      rw [(reference_topic shown.collected single logs).2 log member event, named, known]
      rfl
    · intro topics
      obtain ⟨fees, -, settled⟩ := execution.settled
      obtain ⟨ref, single, named, -⟩ := settled.reference
      obtain ⟨⟨log, member, event⟩, carries⟩ := reference_topic execution.collected single logs
      have known : referenceHash plan.walletAddress (bytes p.referenceID) = .ok hash := by
        have equal := topics log member event
        rw [carries log member event, named] at equal
        cases value : referenceHash plan.walletAddress (bytes p.referenceID) with
        | error _ => simp [value, Except.toOption] at equal
        | ok value' => simpa [value, Except.toOption] using equal.symm
      exact ⟨wallet, p, events, hash, given, known, by rw [same]; exact execution⟩

/-! ### A hash of no reference -/

/-- A log of the payroll contract. -/
def eventLog (ts : List Abi.Ty) (signature : String) (first second third : List UInt8) (values : Abi.Tuple ts) : ReceiptLog :=
  { address := addressWizPayPayroll, topics := [eventTopic0 signature, first, second, third], data := Abi.pack ts values,
    index := 0, hasIndex := false, transactionHash := "" }

section EventLog

variable {ts : List Abi.Ty} {signature : String} {first second third : List UInt8} {values : Abi.Tuple ts}

theorem isEvent_eventLog {other : String} :
    isEvent other (eventLog ts signature first second third values) = decide (eventTopic0 signature = eventTopic0 other) := by
  simp [isEvent, eventLog, addressesEqual_self validAddress_payroll]

theorem decode_eventLog {α : Type} {name : String} {read : List UInt8 → List UInt8 → List UInt8 → Abi.Tuple ts → α}
    (listed : signature ∈ canonicalEvents .wizPayPayroll) (fits : ∀ t ∈ ts, t.Fits)
    (short : (Abi.pack ts values).length < 2 ^ 256) :
    decodeEvent signature name read none ((eventLog ts signature first second third values).contractLog chainIDArcMainnet) =
      .ok (read first second third values) :=
  decodeEvent_eq_ok.mpr ⟨validateEventLog_default listed rfl rfl rfl, first, second, third, values, rfl, rfl,
    Abi.unpack_pack fits values short, rfl⟩

end EventLog

/-- The payment of the sample. -/
def singlePayment : Abi.Tuple paymentTypes := (hexToAddress "0x2222222222222222222222222222222222222222", 0, 1000000, ())

/-- Its reference, without a fee. -/
def singleReference : Abi.Tuple referenceConsumedTypes :=
  (hexToAddress addressUSDCMainnet, 0, 1000000, 1000000, 0, 1, bytes "ref_1", ())

def singleBatch : Abi.Tuple batchExecutedTypes := (1000000, 1000000, 0, 1, bytes "ref_1", ())

/-- The topics of the sample's wallet and token. -/
def walletTopic : List UInt8 := topicAddress sampleSend.ownership.walletAddress

def usdcTopic : List UInt8 := topicAddress addressUSDCMainnet

/-- The receipt of the sample payroll, under any hash. -/
def singleReceipt (hash : List UInt8) : Receipt :=
  { status := .success, chainID := chainIDArcMainnet,
    transactionHash := "0x1111111111111111111111111111111111111111111111111111111111111111", blockNumber := 1,
    blockHash := "", confirmations := 1,
    logs :=
      [eventLog paymentTypes sigPayrollPayment hash walletTopic usdcTopic singlePayment,
       eventLog referenceConsumedTypes sigPayrollReferenceConsumed hash walletTopic usdcTopic singleReference,
       eventLog batchExecutedTypes sigPayrollBatchExecuted walletTopic usdcTopic usdcTopic singleBatch],
    hasTransaction := true, fromAddress := sampleSend.ownership.walletAddress, toAddress := addressWizPayPayroll,
    value := "0x0", input := singlePlan.encodedCall.callData }

/-- The events of that receipt. -/
def singleEvents (hash : List UInt8) : Events :=
  { Events.none with
    payments := [readPayment hash walletTopic usdcTopic singlePayment],
    references := [readReferenceConsumed hash walletTopic usdcTopic singleReference],
    batches := [readBatchExecuted walletTopic usdcTopic usdcTopic singleBatch] }

theorem singleReceipt_collected (hash : List UInt8) :
    Collected none chainIDArcMainnet (singleReceipt hash).logs (singleEvents hash) := by
  have differ := topics_nodup
  simp only [List.map_cons, List.map_nil, List.nodup_cons, List.mem_cons, List.not_mem_nil, not_or, or_false,
    not_false_eq_true, List.nodup_nil, and_true] at differ
  obtain ⟨⟨pr, pb, ps, pf⟩, ⟨rb, rs, rf⟩, ⟨bs, bf⟩, -⟩ := differ
  have payment : decodePaymentEvent none ((eventLog paymentTypes sigPayrollPayment hash walletTopic usdcTopic
      singlePayment).contractLog chainIDArcMainnet) = .ok (readPayment hash walletTopic usdcTopic singlePayment) :=
    decode_eventLog (by simp [canonicalEvents]) (by simp [Abi.Ty.Fits]) (by rw [Abi.pack_length]; decide)
  have reference : decodeReferenceConsumedEvent none ((eventLog referenceConsumedTypes sigPayrollReferenceConsumed hash
      walletTopic usdcTopic singleReference).contractLog chainIDArcMainnet) =
        .ok (readReferenceConsumed hash walletTopic usdcTopic singleReference) :=
    decode_eventLog (by simp [canonicalEvents]) (by simp [Abi.Ty.Fits]) (by rw [Abi.pack_length]; decide +kernel)
  have batch : decodeBatchExecutedEvent none ((eventLog batchExecutedTypes sigPayrollBatchExecuted walletTopic usdcTopic
      usdcTopic singleBatch).contractLog chainIDArcMainnet) =
        .ok (readBatchExecuted walletTopic usdcTopic usdcTopic singleBatch) :=
    decode_eventLog (by simp [canonicalEvents]) (by simp [Abi.Ty.Fits]) (by rw [Abi.pack_length]; decide +kernel)
  constructor
  · simp [Decodes, singleReceipt, singleEvents, isEvent_eventLog, payment, Ne.symm pr, Ne.symm pb]
  · simp [Decodes, singleReceipt, singleEvents, isEvent_eventLog, reference, pr, Ne.symm rb]
  · simp [Decodes, singleReceipt, singleEvents, isEvent_eventLog, batch, pb, rb]
  · simp [Decodes, singleReceipt, singleEvents, isEvent_eventLog, Events.none, ps, rs, bs]
  · simp [Decodes, singleReceipt, singleEvents, isEvent_eventLog, Events.none, pf, rf, bf]

theorem validAddress_sampleWallet : Contracts.validAddress sampleSend.ownership.walletAddress = true :=
  validAddress_literal rfl (by decide)

theorem singleEvents_settled {hash : List UInt8} (word : hash.length = 32) :
    Settled singlePlan.walletAddress singlePayroll.tokenIn.address singlePayroll.tokenIn.address (bytes singlePayroll.referenceID)
      (sameTokenObligations singlePayroll) hash (total (sameTokenObligations singlePayroll) + 0) 0 (singleEvents hash) := by
  have obligations : sameTokenObligations singlePayroll = [("0x2222222222222222222222222222222222222222", 1000000)] := by decide
  have wallet : addressesEqual (Payroll.topicAddress walletTopic) singlePlan.walletAddress = true :=
    topicAddress_read validAddress_sampleWallet
  have token : addressesEqual (Payroll.topicAddress usdcTopic) singlePayroll.tokenIn.address = true :=
    topicAddress_read validAddress_usdc
  have named : addressesEqual (hex (hexToAddress addressUSDCMainnet)) singlePayroll.tokenIn.address = true :=
    hex_read validAddress_usdc
  rw [obligations]
  refine ⟨.cons ⟨topicHash_word word, wallet, token, ?_, rfl, rfl⟩ .nil, ⟨_, rfl, topicHash_word word, ?_⟩, _, rfl, ?_⟩
  · exact hex_read (validAddress_literal rfl (by decide))
  · exact ⟨wallet, token, named, rfl, rfl, rfl, rfl, rfl⟩
  · exact ⟨wallet, token, token, rfl, rfl, rfl, rfl, rfl⟩

theorem singleReceipt_logs {hash : List UInt8} (word : hash.length = 32) :
    validateLogs (singleReceipt hash).logs = .ok () := by
  have address : Providers.validAddress addressWizPayPayroll = true := by decide +kernel
  have wallet : walletTopic.length = 32 := Abi.word_length _
  have token : usdcTopic.length = 32 := Abi.word_length _
  have payment : (Abi.pack paymentTypes singlePayment).length ≤ maxLogDataBytes := by rw [Abi.pack_length]; decide
  have reference : (Abi.pack referenceConsumedTypes singleReference).length ≤ maxLogDataBytes := by
    rw [Abi.pack_length]; decide +kernel
  have batch : (Abi.pack batchExecutedTypes singleBatch).length ≤ maxLogDataBytes := by rw [Abi.pack_length]; decide +kernel
  simp only [validateLogs, checks_ok, validateEachLog_eq_ok, singleReceipt, List.forall_mem_cons,
    ReceiptLog.validate, validateTopics_eq_ok, eventLog]
  simp [address, word, wallet, token, payment, reference, batch, maxReceiptLogs, maxLogTopics]

theorem singleReceipt_executed {hash : List UInt8} (word : hash.length = 32) :
    SameTokenExecution none singlePlan singlePayroll (singleReceipt hash) (singleEvents hash) hash where
  transacts := {
    sent := ⟨rfl, rfl, rfl, addressesEqual_self validAddress_sampleWallet, addressesEqual_self validAddress_payroll⟩
    call := rfl
    value := ⟨0, (by decide : decodeBig "0x0" = some 0), rfl⟩ }
  collected := singleReceipt_collected hash
  settled := ⟨0, by decide +kernel, singleEvents_settled word⟩
  noSwap := rfl
  noRefund := rfl

theorem singleReceipt_verified {hash : List UInt8} (word : hash.length = 32) :
    ∃ result, verify none singleIntent singlePlan (singleReceipt hash) = .ok result ∧ result.status = .verified := by
  have bound := validatePlan_of_plan plan_singleIntent validAddress_sampleWallet
  have binds : ∃ decoded, decodeSameTokenPayrollCall (singleReceipt hash).input = .ok decoded ∧
      bindsSameToken singlePayroll decoded = true := by
    obtain ⟨p, call, given, sealed, -, ⟨-, encoded⟩ | ⟨crossToken, material, -⟩⟩ := plan_cases plan_singleIntent
    · obtain rfl : singlePayroll = p := Option.some.inj given
      have input : (singleReceipt hash).input = call.callData := congrArg (fun plan => plan.encodedCall.callData) sealed
      rw [input]
      exact decode_sameToken encoded
    · obtain rfl : singlePayroll = p := Option.some.inj given
      cases material
  have transaction : validTransactionHash (toLower (trimSpace (singleReceipt hash).transactionHash)) = true := by
    have checked : validTransactionHash (toLower (trimSpace
      "0x1111111111111111111111111111111111111111111111111111111111111111")) = true := by decide +kernel
    exact checked
  have passed : sameTokenChecks none singlePlan singlePayroll (singleReceipt hash) = .ok () :=
    (sameTokenChecks_eq_ok (by simp [singlePayroll])).mpr ⟨transaction, binds, singlePayroll_executable,
      singleReceipt_logs word, _, hash, singleReceipt_executed word⟩
  refine ⟨conclude (singleReceipt hash) "SAME_TOKEN_PAYROLL_VERIFIED" sigPayrollBatchExecuted sameTokenProvable (.ok ()), ?_, rfl⟩
  have given : singleIntent.params.financial.payroll = some singlePayroll := rfl
  have single : singlePayroll.crossToken = none := rfl
  simp only [verify, checks_ok, not_or, not_not, given, single, passed]
  exact ⟨singleIntent_valid, ⟨rfl, digestBytes_ne_empty _, by decide⟩, bound, rfl⟩

/-- The log of the reference carries the hash that the receipt was made with. -/
theorem singleReceipt_topic (hash : List UInt8) :
    ∃ log ∈ (singleReceipt hash).logs, isEvent sigPayrollReferenceConsumed log = true ∧ log.topics[1]? = some hash :=
  ⟨_, List.mem_cons_of_mem _ List.mem_cons_self, by simp [isEvent_eventLog], rfl⟩

theorem hash_of_exact {hash : List UInt8} (word : hash.length = 32)
    (exact_ : Exact none singleIntent singlePlan (singleReceipt hash)) :
    referenceHash singlePlan.walletAddress (bytes singlePayroll.referenceID) = .ok hash := by
  obtain ⟨-, p, events, expected, given, known, execution⟩ := exact_
  obtain rfl : singlePayroll = p := Option.some.inj given
  have shown : SameTokenExecution none singlePlan singlePayroll (singleReceipt hash) events expected := execution
  obtain ⟨fees, -, settled⟩ := shown.settled
  obtain ⟨ref, single, named, -⟩ := settled.reference
  obtain ⟨log, member, event, topic⟩ := singleReceipt_topic hash
  have carried := (reference_topic shown.collected single (singleReceipt_logs word)).2 log member event
  rw [topic, named, Option.some.injEq] at carried
  rw [carried]
  exact known

/-- With the hash of its reference the receipt is exact. -/
theorem verified_exact_reference :
    ∃ hash result, verify none singleIntent singlePlan (singleReceipt hash) = .ok result ∧ result.status = .verified ∧
      Exact none singleIntent singlePlan (singleReceipt hash) := by
  have known : ∃ hash : List UInt8, hash.length = 32 ∧
      referenceHash singlePlan.walletAddress (bytes singlePayroll.referenceID) = .ok hash := by
    refine ⟨_, Keccak.sum256_length _, if_neg ?_⟩
    rintro (invalid | empty)
    · rw [show Contracts.validAddress singlePlan.walletAddress = true from validAddress_sampleWallet] at invalid
      cases invalid
    · exact absurd empty (by decide +kernel)
  obtain ⟨hash, word, known⟩ := known
  obtain ⟨result, checked, verified⟩ := singleReceipt_verified word
  refine ⟨hash, result, checked, verified, (verified_exact_iff rfl checked verified).mpr (.inr ?_)⟩
  intro log member event
  rw [(reference_topic (singleReceipt_collected hash) rfl (singleReceipt_logs word)).2 log member event, known]
  exact congrArg some (topicHash_word word)

/-- A receipt under the hash of zeros is verified, and is not the one of the reference. -/
theorem foreign_hash_verified :
    plan none singleIntent = .ok singlePlan ∧
      (∃ result, verify none singleIntent singlePlan (singleReceipt (List.replicate 32 0)) = .ok result ∧
        result.status = .verified) ∧
      ¬ Exact none singleIntent singlePlan (singleReceipt (List.replicate 32 0)) := by
  have word : (List.replicate 32 (0 : UInt8)).length = 32 := by decide
  refine ⟨plan_singleIntent, singleReceipt_verified word, fun exact_ => ?_⟩
  have other : referenceHash sampleSend.ownership.walletAddress (bytes singlePayroll.referenceID) ≠
      .ok (List.replicate 32 0) := by decide +kernel
  exact other (hash_of_exact word exact_)

end WizPay.Payroll
