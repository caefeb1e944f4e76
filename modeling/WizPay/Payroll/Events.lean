import WizPay.Payroll.Verifier

/-!
# The events of a payroll receipt

The loop of the verifier over the logs, as a relation: the events are the decoded logs of
the payroll contract, kind by kind and in the order of the receipt.
-/
namespace WizPay.Payroll

open Checks GoText GoTime Contracts Contracts.Payroll Intents Providers

/-- A log of the payroll contract with the topic of a signature. -/
def isEvent (signature : String) (log : ReceiptLog) : Bool :=
  addressesEqual log.address addressWizPayPayroll && log.topics.head? = some (eventTopic0 signature)

/-- The logs of a signature are decoded, each of them and in their order. -/
def Decodes {α : Type} (signature : String) (decode : Option Registry → Log → Except Error α) (registry : Option Registry)
    (chainID : String) (logs : List ReceiptLog) (events : List α) : Prop :=
  (logs.filter (isEvent signature)).map (fun log => decode registry (log.contractLog chainID)) = events.map .ok

section Decodes

variable {α : Type} {signature : String} {decode : Option Registry → Log → Except Error α} {registry : Option Registry}
  {chainID : String} {raw : ReceiptLog} {logs : List ReceiptLog} {events : List α}

theorem decodes_nil : Decodes signature decode registry chainID [] events ↔ events = [] := by
  simp only [Decodes, List.filter_nil, List.map_nil]
  rw [eq_comm, List.map_eq_nil_iff]

/-- The events of the first log come before those of the others. -/
theorem decodes_cons :
    Decodes signature decode registry chainID (raw :: logs) events ↔
      ∃ one more, Decodes signature decode registry chainID [raw] one ∧
        Decodes signature decode registry chainID logs more ∧ events = one ++ more := by
  simp only [Decodes]
  rw [← List.singleton_append, List.filter_append, List.map_append]
  constructor
  · intro decoded
    obtain ⟨one, more, rfl, first, rest⟩ := List.append_eq_map_iff.mp decoded
    exact ⟨one, more, first.symm, rest.symm, rfl⟩
  · rintro ⟨one, more, first, rest, rfl⟩
    rw [first, rest, List.map_append]

theorem decodes_one (named : isEvent signature raw = true) :
    Decodes signature decode registry chainID [raw] events ↔
      ∃ e, events = [e] ∧ decode registry (raw.contractLog chainID) = .ok e := by
  match events with
  | [] => simp [Decodes, named]
  | [e] => simp [Decodes, named]
  | _ :: _ :: _ => simp [Decodes, named]

theorem decodes_other (other : isEvent signature raw = false) :
    Decodes signature decode registry chainID [raw] events ↔ events = [] := by
  simp only [Decodes, List.filter_cons, other, List.filter_nil]
  exact eq_comm.trans List.map_eq_nil_iff

end Decodes

/-- The events are those of the logs. -/
structure Collected (registry : Option Registry) (chainID : String) (logs : List ReceiptLog) (events : Events) : Prop where
  payments : Decodes sigPayrollPayment decodePaymentEvent registry chainID logs events.payments
  references : Decodes sigPayrollReferenceConsumed decodeReferenceConsumedEvent registry chainID logs events.references
  batches : Decodes sigPayrollBatchExecuted decodeBatchExecutedEvent registry chainID logs events.batches
  swaps : Decodes sigPayrollSwapExecuted decodeSwapExecutedEvent registry chainID logs events.swaps
  refunds : Decodes sigPayrollSurplusRefunded decodeSurplusRefundedEvent registry chainID logs events.refunds

/-- Events behind events that were seen before. -/
def Events.append (seen more : Events) : Events :=
  ⟨seen.payments ++ more.payments, seen.references ++ more.references, seen.batches ++ more.batches,
    seen.swaps ++ more.swaps, seen.refunds ++ more.refunds⟩

@[simp] theorem Events.none_append (more : Events) : Events.none.append more = more := rfl

@[simp] theorem Events.append_none (seen : Events) : seen.append .none = seen := by simp [Events.append, Events.none]

theorem Events.append_assoc (a b c : Events) : (a.append b).append c = a.append (b.append c) := by
  simp [Events.append, List.append_assoc]

theorem topics_nodup :
    ([sigPayrollPayment, sigPayrollReferenceConsumed, sigPayrollBatchExecuted, sigPayrollSwapExecuted,
      sigPayrollSurplusRefunded].map eventTopic0).Nodup := by decide +kernel

/-- A log has one topic, so that it is an event of one kind at most. -/
theorem isEvent_other {signature other : String} {raw : ReceiptLog}
    (differ : eventTopic0 signature ≠ eventTopic0 other) (named : isEvent signature raw = true) :
    isEvent other raw = false := by
  simp only [isEvent, Bool.and_eq_true, decide_eq_true_eq] at named
  simp [isEvent, named.1, named.2, differ]

section Collect

variable {registry : Option Registry} {crossToken : Bool} {chainID : String}

/-- A swap and a refund are seen only in a cross-token payroll. -/
def Admitted (crossToken : Bool) (events : Events) : Prop := crossToken = false → events.swaps = [] ∧ events.refunds = []

theorem admitted_append {one more : Events} :
    Admitted crossToken (one.append more) ↔ Admitted crossToken one ∧ Admitted crossToken more := by
  simp only [Admitted, Events.append, List.append_eq_nil_iff]
  tauto

theorem collected_iff {logs : List ReceiptLog} {events : Events} :
    Collected registry chainID logs events ↔
      Decodes sigPayrollPayment decodePaymentEvent registry chainID logs events.payments ∧
      Decodes sigPayrollReferenceConsumed decodeReferenceConsumedEvent registry chainID logs events.references ∧
      Decodes sigPayrollBatchExecuted decodeBatchExecutedEvent registry chainID logs events.batches ∧
      Decodes sigPayrollSwapExecuted decodeSwapExecutedEvent registry chainID logs events.swaps ∧
      Decodes sigPayrollSurplusRefunded decodeSurplusRefundedEvent registry chainID logs events.refunds :=
  ⟨fun ⟨payments, references, batches, swaps, refunds⟩ => ⟨payments, references, batches, swaps, refunds⟩,
    fun ⟨payments, references, batches, swaps, refunds⟩ => ⟨payments, references, batches, swaps, refunds⟩⟩

theorem collected_cons {raw : ReceiptLog} {logs : List ReceiptLog} {events : Events} :
    Collected registry chainID (raw :: logs) events ↔
      ∃ one more, Collected registry chainID [raw] one ∧ Collected registry chainID logs more ∧
        events = one.append more := by
  constructor
  · rintro ⟨payments, references, batches, swaps, refunds⟩
    obtain ⟨p, ps, firstP, restP, eqP⟩ := decodes_cons.mp payments
    obtain ⟨r, rs, firstR, restR, eqR⟩ := decodes_cons.mp references
    obtain ⟨b, bs, firstB, restB, eqB⟩ := decodes_cons.mp batches
    obtain ⟨s, ss, firstS, restS, eqS⟩ := decodes_cons.mp swaps
    obtain ⟨f, fs, firstF, restF, eqF⟩ := decodes_cons.mp refunds
    refine ⟨⟨p, r, b, s, f⟩, ⟨ps, rs, bs, ss, fs⟩, ⟨firstP, firstR, firstB, firstS, firstF⟩,
      ⟨restP, restR, restB, restS, restF⟩, ?_⟩
    rw [Events.append, ← eqP, ← eqR, ← eqB, ← eqS, ← eqF]
  · rintro ⟨one, more, first, rest, rfl⟩
    exact ⟨decodes_cons.mpr ⟨_, _, first.payments, rest.payments, rfl⟩,
      decodes_cons.mpr ⟨_, _, first.references, rest.references, rfl⟩,
      decodes_cons.mpr ⟨_, _, first.batches, rest.batches, rfl⟩,
      decodes_cons.mpr ⟨_, _, first.swaps, rest.swaps, rfl⟩,
      decodes_cons.mpr ⟨_, _, first.refunds, rest.refunds, rfl⟩⟩

theorem Events.exists {p : Events → Prop} :
    (∃ one, p one) ↔ ∃ payments references batches swaps refunds, p ⟨payments, references, batches, swaps, refunds⟩ :=
  ⟨fun ⟨⟨_, _, _, _, _⟩, holds⟩ => ⟨_, _, _, _, _, holds⟩, fun ⟨_, _, _, _, _, holds⟩ => ⟨_, holds⟩⟩

/-- A log without an event of the contract leaves the loop as it was. -/
theorem collected_nothing {seen next : Events} :
    (Except.ok seen : Except Stop Events) = .ok next ↔
      ∃ one : Events, (one.payments = [] ∧ one.references = [] ∧ one.batches = [] ∧ one.swaps = [] ∧ one.refunds = []) ∧
        Admitted crossToken one ∧ next = seen.append one := by
  rw [Except.ok.injEq]
  constructor
  · rintro rfl
    exact ⟨.none, ⟨rfl, rfl, rfl, rfl, rfl⟩, fun _ => ⟨rfl, rfl⟩, by simp⟩
  · rintro ⟨⟨_, _, _, _, _⟩, ⟨rfl, rfl, rfl, rfl, rfl⟩, -, rfl⟩
    exact (Events.append_none seen).symm

/-- One turn of the loop adds the events of its log. -/
theorem collectLog_eq_ok {seen next : Events} {raw : ReceiptLog} :
    collectLog registry crossToken chainID seen raw = .ok next ↔
      ∃ one, Collected registry chainID [raw] one ∧ Admitted crossToken one ∧ next = seen.append one := by
  have differ := topics_nodup
  simp only [List.map_cons, List.map_nil, List.nodup_cons, List.mem_cons, List.not_mem_nil, not_or, or_false,
    not_false_eq_true, List.nodup_nil, and_true] at differ
  obtain ⟨⟨pr, pb, ps, pf⟩, ⟨rb, rs, rf⟩, ⟨bs, bf⟩, sf⟩ := differ
  simp only [collected_iff, collectLog]
  split
  next elsewhere =>
    -- another contract: no kind of event
    have none (signature : String) : isEvent signature raw = false := by simp [isEvent, elsewhere]
    simp only [decodes_other (none _)]
    exact collected_nothing
  next address =>
    rw [Bool.not_eq_false] at address
    have kind (signature : String) :
        decide (raw.topics.head? = some (eventTopic0 signature)) = isEvent signature raw := by simp [isEvent, address]
    simp only [kind]
    split_ifs
    -- each branch knows the kind of the log, or that it is of none
    all_goals simp only [decodes_one, decodes_other, isEvent_other pr, isEvent_other pb, isEvent_other ps, isEvent_other pf,
      isEvent_other rb, isEvent_other rs, isEvent_other rf, isEvent_other bs, isEvent_other bf, isEvent_other sf,
      checks_ok, Bool.not_eq_false, *]
    case neg => exact collected_nothing
    all_goals simp only [bind_ok, mapError_ok, pure_ok]
    all_goals simp [Events.exists, Events.append, Admitted, and_assoc, eq_comm, and_left_comm]

/-- The loop collects the events of all logs behind those it has seen. -/
theorem collect_eq_ok {seen events : Events} {logs : List ReceiptLog} :
    collect registry crossToken chainID seen logs = .ok events ↔
      ∃ more, Collected registry chainID logs more ∧ Admitted crossToken more ∧ events = seen.append more := by
  -- the events seen so far are carried along, so the induction is over all of them
  induction logs generalizing seen with
  | nil =>
    simp only [collect, collected_iff, decodes_nil]
    exact collected_nothing
  | cons raw rest ih =>
    simp only [collect, bind_ok, collectLog_eq_ok, ih]
    constructor
    · rintro ⟨_, ⟨one, first, admitted, rfl⟩, more, others, admits, rfl⟩
      exact ⟨one.append more, collected_cons.mpr ⟨one, more, first, others, rfl⟩,
        admitted_append.mpr ⟨admitted, admits⟩, Events.append_assoc seen one more⟩
    · rintro ⟨_, collected, admits, rfl⟩
      obtain ⟨one, more, first, others, rfl⟩ := collected_cons.mp collected
      obtain ⟨admitted, admits⟩ := admitted_append.mp admits
      exact ⟨_, ⟨one, first, admitted, rfl⟩, more, others, admits, (Events.append_assoc seen one more).symm⟩

end Collect

end WizPay.Payroll
