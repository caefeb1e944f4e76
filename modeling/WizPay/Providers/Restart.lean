import WizPay.Providers.Divergence
import WizPay.Providers.Space

/-!
# Restarts between verification passes

A verifier remembers its last observation in the process, and writes it into the
reference that the next pass is given. The text drops the status and every blank field;
the two are still the same baseline.
-/
namespace WizPay.Providers

open Checks GoText

/-- The signal of a pass that compares a receipt, and the reference with what was merged. -/
def ObservationTracker.compared (t : ObservationTracker) (stored : String) (p : VerifyPass) :
    Option (ReorgSignal × Reference) :=
  match (do resolveHash (← parseReference stored) p.resolved : Except Error Reference) with
  | .error _ => none
  | .ok reference =>
    if reference.transactionHash = "" then none
    else
      match p.receipt with
      | .error _ => none
      | .ok receipt =>
        match ensureReceiptMatches reference receipt with
        | .error _ => none
        | .ok () =>
          let (signal, merged, _) := t.evaluate reference.receiptObservation (currentObservation reference receipt)
          some (signal, reference.withReceiptObservation merged)

/-- What one pass says. -/
structure PassReport where
  signal : Option ReorgSignal
  outcome : Except Error VerificationObservation
  /-- the encoding of the reference after the pass -/
  encoded : Except Error String
deriving DecidableEq

namespace Verifier

/-- A pass that compares no receipt leaves the reference as it is, or with what the resolver added. -/
def encodedAfter (v : Verifier) (t : ObservationTracker) (stored : String) (p : VerifyPass) : Except Error String :=
  match t.compared stored p with
  | some (_, reference) => reference.encode
  | none =>
    match (v.verifyObservation t stored p).1 with
    | .ok observation => observation.reference.encode
    | .error _ => .ok stored

def report (v : Verifier) (t : ObservationTracker) (stored : String) (p : VerifyPass) : PassReport :=
  { signal := (t.compared stored p).map Prod.fst
    outcome := (v.verifyObservation t stored p).1
    encoded := v.encodedAfter t stored p }

/-- The reference text that the next pass is given. -/
def storedAfter (v : Verifier) (t : ObservationTracker) (stored : String) (p : VerifyPass) : String :=
  match v.encodedAfter t stored p with
  | .ok text => text
  | .error _ => stored

/-- One tracker for all passes. -/
def longLived (v : Verifier) (t : ObservationTracker) (stored : String) : List VerifyPass → List PassReport
  | [] => []
  | p :: rest =>
    v.report t stored p :: v.longLived (v.verifyObservation t stored p).2 (v.storedAfter t stored p) rest

/-- A new tracker for each pass. -/
def restarted (v : Verifier) (stored : String) : List VerifyPass → List PassReport
  | [] => []
  | p :: rest => v.report .new stored p :: v.restarted (v.storedAfter .new stored p) rest

/-- The reference of every pass encodes. -/
def AllEncode (v : Verifier) (stored : String) (passes : List VerifyPass) : Prop :=
  ∀ report ∈ v.restarted stored passes, ∃ text, report.encoded = .ok text

end Verifier

/-! ### One baseline in two forms -/

/-- Both have no inclusion, or they agree on all that a comparison or a merge reads. -/
structure SameBaseline (memory durable : ReceiptObservation) : Prop where
  inclusion : memory.hasInclusion = durable.hasInclusion
  present : durable.hasInclusion = true → memory.present = durable.present
  blockHash : durable.hasInclusion = true → memory.blockHash = durable.blockHash
  blockNumber : durable.hasInclusion = true → memory.blockNumber = durable.blockNumber
  confirmations : durable.hasInclusion = true → memory.confirmations = durable.confirmations
  logFingerprint : durable.hasInclusion = true → memory.logFingerprint = durable.logFingerprint

namespace SameBaseline

variable {memory durable : ReceiptObservation} (same : SameBaseline memory durable)
include same

theorem compare_eq (current : ReceiptObservation) :
    compareReceiptObservations memory current = compareReceiptObservations durable current := by
  unfold compareReceiptObservations
  rw [same.inclusion]
  cases included : durable.hasInclusion with
  | false => rfl
  | true =>
    rw [same.present included, same.blockHash included, same.blockNumber included, same.confirmations included,
      same.logFingerprint included]

theorem merge_eq (current : ReceiptObservation) : mergeObservation memory current = mergeObservation durable current := by
  unfold mergeObservation
  rw [same.inclusion]
  cases included : durable.hasInclusion with
  | false => rfl
  | true => rw [same.blockHash included, same.blockNumber included, same.logFingerprint included]

end SameBaseline

theorem SameBaseline.refl (o : ReceiptObservation) : SameBaseline o o :=
  ⟨rfl, fun _ => rfl, fun _ => rfl, fun _ => rfl, fun _ => rfl, fun _ => rfl⟩

/-- The texts of the observation are in normal form. -/
structure ReceiptObservation.Normal (o : ReceiptObservation) : Prop where
  blockHash : toLower (trimSpace o.blockHash) = o.blockHash
  logFingerprint : toLower (trimSpace o.logFingerprint) = o.logFingerprint

theorem Reference.receiptObservation_normal (r : Reference) : r.receiptObservation.Normal := by
  unfold Reference.receiptObservation
  dsimp only
  split
  next => exact ⟨normal_idempotent _, normal_idempotent _⟩
  next => exact ⟨by decide, by decide⟩

section Merge

variable {reference : Reference} {receipt : Receipt} {prior : ReceiptObservation}

/-- A receipt that is absent has no block and no logs. -/
theorem currentObservation_absent (reference : Reference) (absent : receiptPresent receipt = false) :
    (currentObservation reference receipt).blockHash = "" ∧ (currentObservation reference receipt).blockNumber = 0 ∧
      (currentObservation reference receipt).logFingerprint = "" ∧
      (currentObservation reference receipt).present = false := by
  have fields := absent
  simp only [receiptPresent, Bool.or_eq_false_iff, decide_eq_false_iff_not, ne_eq, not_not] at fields
  obtain ⟨⟨⟨number, hash⟩, _⟩, _⟩ := fields
  simp [currentObservation, observationFromReceipt, absent, number, hash]

/-- A merge is normal, and records an inclusion or nothing at all. -/
theorem mergeObservation_normal (normal : prior.Normal) :
    (mergeObservation prior (currentObservation reference receipt)).Normal ∧
      (mergeObservation prior (currentObservation reference receipt)).recorded =
        (mergeObservation prior (currentObservation reference receipt)).hasInclusion := by
  cases shown : receiptPresent receipt with
  | true =>
    rw [mergeObservation_present shown]
    exact ⟨⟨normal_idempotent _, normal_idempotent _⟩,
      by simp [ReceiptObservation.recorded, ReceiptObservation.hasInclusion]⟩
  | false =>
    obtain ⟨hash, number, logs, absent⟩ := currentObservation_absent reference shown
    unfold mergeObservation
    rw [absent, if_neg Bool.false_ne_true]
    split
    next =>
      exact ⟨⟨normal.blockHash, normal.logFingerprint⟩,
        by simp [ReceiptObservation.recorded, ReceiptObservation.hasInclusion]⟩
    next =>
      exact ⟨⟨by rw [hash]; decide, by rw [logs]; decide⟩,
        by simp [ReceiptObservation.recorded, ReceiptObservation.hasInclusion, logs]⟩

/-- The baseline that is written into a reference is read out of it. -/
theorem Reference.receiptObservation_withReceiptObservation {o : ReceiptObservation} (mined : reference.transactionHash ≠ "")
    (normal : o.Normal) (recorded : o.recorded = o.hasInclusion) :
    SameBaseline o (reference.withReceiptObservation o).receiptObservation := by
  rw [Reference.withReceiptObservation_eq mined]
  unfold Reference.receiptObservation
  rw [normal.blockHash, normal.logFingerprint]
  cases known : o.recorded with
  | true =>
    simp only [Bool.true_or, if_true, normal.blockHash, normal.logFingerprint]
    refine ⟨?_, fun _ => rfl, fun _ => rfl, fun _ => rfl, fun _ => rfl, fun _ => rfl⟩
    rw [← recorded, known]
    simp [ReceiptObservation.hasInclusion]
  | false =>
    obtain ⟨_, present, noHash, noNumber, noLogs⟩ := ReceiptObservation.blank known
    have zero : ReceiptObservation.zero.hasInclusion = false := by decide
    simp only [present, noHash, noNumber, noLogs, ne_eq, not_true_eq_false, decide_false, Bool.or_false,
      Bool.false_eq_true, if_false]
    refine ⟨by rw [← recorded, known, zero], ?_, ?_, ?_, ?_, ?_⟩ <;>
      exact fun included => absurd included (by decide)

end Merge

section Pass

variable {v : Verifier} {t : ObservationTracker} {stored : String} {p : VerifyPass} {reference : Reference}
  {receipt : Receipt}

/-- The arguments of `Evaluate` in a pass that compares the receipt. -/
def comparison (reference : Reference) (receipt : Receipt) : ObservationPass :=
  ⟨reference.receiptObservation, currentObservation reference receipt⟩

/-- What a pass reads before it compares. -/
structure Reads (stored : String) (p : VerifyPass) (reference : Reference) (receipt : Receipt) : Prop where
  located : (do resolveHash (← parseReference stored) p.resolved : Except Error Reference) = .ok reference
  mined : reference.transactionHash ≠ ""
  read : p.receipt = .ok receipt
  matched : ensureReceiptMatches reference receipt = .ok ()

theorem Reads.compared (reads : Reads stored p reference receipt) (t : ObservationTracker) :
    t.compared stored p = some ((t.evaluate (comparison reference receipt).durablePrior
      (comparison reference receipt).current).1, reference.withReceiptObservation
        (t.evaluate (comparison reference receipt).durablePrior (comparison reference receipt).current).2.1) := by
  unfold ObservationTracker.compared
  rw [reads.located]
  simp only [if_neg reads.mined, reads.read, reads.matched]
  rfl

theorem Reads.verifyObservation (reads : Reads stored p reference receipt) (v : Verifier) (t : ObservationTracker) :
    v.verifyObservation t stored p =
      (v.judge (reference.withReceiptObservation
          (t.evaluate (comparison reference receipt).durablePrior (comparison reference receipt).current).2.1) receipt
        (t.evaluate (comparison reference receipt).durablePrior (comparison reference receipt).current).1 p.now,
      t.next (comparison reference receipt)) := by
  unfold Verifier.verifyObservation
  rw [reads.located]
  simp only [if_neg reads.mined, reads.read, reads.matched]
  rfl

/-- A pass compares a receipt, finds no transaction yet, or fails; only the first touches the memory. -/
theorem pass_cases (v : Verifier) (stored : String) (p : VerifyPass) :
    (∃ reference receipt, Reads stored p reference receipt) ∨
      (∃ reference, (do resolveHash (← parseReference stored) p.resolved : Except Error Reference) = .ok reference ∧
        reference.transactionHash = "" ∧ ∀ t : ObservationTracker, t.compared stored p = none ∧
          v.verifyObservation t stored p =
            ((pending reference p.now).map fun result => ⟨result, reference, none, false⟩, t)) ∨
      ∃ e, ∀ t : ObservationTracker, t.compared stored p = none ∧ v.verifyObservation t stored p = (.error e, t) := by
  unfold ObservationTracker.compared Verifier.verifyObservation
  cases located : (do resolveHash (← parseReference stored) p.resolved : Except Error Reference) with
  | error e => exact .inr (.inr ⟨e, fun t => ⟨rfl, rfl⟩⟩)
  | ok reference =>
    by_cases mined : reference.transactionHash = ""
    · refine .inr (.inl ⟨reference, rfl, mined, fun t => ?_⟩)
      simp only [if_pos mined]
      trivial
    · simp only [if_neg mined]
      cases read : p.receipt with
      | error e => exact .inr (.inr ⟨_, fun t => ⟨rfl, rfl⟩⟩)
      | ok receipt =>
        cases matched : ensureReceiptMatches reference receipt with
        | error e => exact .inr (.inr ⟨_, fun t => by simp only [matched]; trivial⟩)
        | ok _ => exact .inl ⟨reference, receipt, located, mined, read, matched⟩

theorem resolveHash_known {given : Reference} {found : Except Error Reference} (mined : given.transactionHash ≠ "") :
    resolveHash given found = .ok given := if_pos mined

theorem located_valid (located : (do resolveHash (← parseReference stored) p.resolved : Except Error Reference) =
    .ok reference) : reference.Valid := by
  rw [bind_ok] at located
  obtain ⟨given, parsed, resolved⟩ := located
  unfold resolveHash at resolved
  split at resolved
  next =>
    cases resolved
    exact Reference.validate_ok (parseReference_valid parsed)
  next =>
    split at resolved
    next => cases resolved
    next =>
      simp only [bind_ok, pure_ok] at resolved
      obtain ⟨_, _, _, _, _, validated, rfl⟩ := resolved
      exact Reference.validate_ok validated

theorem Reads.isOf (reads : Reads stored p reference receipt) :
    (comparison reference receipt).IsOf reference.chainID reference.transactionHash := by
  have valid := located_valid reads.located
  have chain := (validChainID_written valid.chainID).1
  constructor
  · simp [comparison, ObservationTracker.identify, currentObservation, chain]
  · simp [comparison, ObservationTracker.identify, currentObservation, reads.mined,
      validTransactionHash_normal (valid.transactionHash reads.mined)]

/-- The memory is new, or it holds the baseline that the stored text spells. -/
def Remembers (t : ObservationTracker) (stored : String) : Prop :=
  t = .new ∨ ∃ reference memory, parseReference stored = .ok reference ∧ reference.transactionHash ≠ "" ∧
    t (reference.chainID ++ "|" ++ reference.transactionHash) = some memory ∧
      SameBaseline memory reference.receiptObservation

/-- A pass is compared with the durable baseline, in one form or the other. -/
theorem Remembers.baseline (remembers : Remembers t stored) (reads : Reads stored p reference receipt) :
    SameBaseline (t.comparedWith (comparison reference receipt)) reference.receiptObservation := by
  rcases remembers with rfl | ⟨given, memory, parsed, mined, held, same⟩
  · exact .refl _
  · have located := reads.located
    rw [parsed] at located
    obtain rfl : given = reference := Except.ok.inj ((resolveHash_known mined).symm.trans located)
    rw [ObservationTracker.comparedWith_memory reads.isOf held]
    exact same

/-- The observation of the pass already names its transaction. -/
theorem Reads.identify (reads : Reads stored p reference receipt) :
    ObservationTracker.identify (comparison reference receipt).durablePrior (comparison reference receipt).current =
      currentObservation reference receipt := by
  have chain := (validChainID_written (located_valid reads.located).chainID).1
  simp [comparison, ObservationTracker.identify, currentObservation, chain, reads.mined]

/-- Signal and merged observation are those of a comparison with the durable baseline. -/
theorem Remembers.evaluate (remembers : Remembers t stored) (reads : Reads stored p reference receipt) :
    (t.evaluate (comparison reference receipt).durablePrior (comparison reference receipt).current).1 =
        compareReceiptObservations reference.receiptObservation (currentObservation reference receipt) ∧
      (t.evaluate (comparison reference receipt).durablePrior (comparison reference receipt).current).2.1 =
        mergeObservation reference.receiptObservation (currentObservation reference receipt) := by
  have same := remembers.baseline reads
  have compared := same.compare_eq (currentObservation reference receipt)
  have merged := same.merge_eq (currentObservation reference receipt)
  rw [← reads.identify] at compared merged ⊢
  exact ⟨compared, merged⟩

theorem Remembers.report_eq (remembers : Remembers t stored) (v : Verifier) (p : VerifyPass) :
    v.report t stored p = v.report .new stored p := by
  unfold Verifier.report Verifier.encodedAfter
  rcases pass_cases v stored p with ⟨reference, receipt, reads⟩ | ⟨reference, _, _, unread⟩ | ⟨e, failed⟩
  · have fresh : Remembers .new stored := .inl rfl
    obtain ⟨signal, merged⟩ := remembers.evaluate reads
    obtain ⟨freshSignal, freshMerged⟩ := fresh.evaluate reads
    rw [reads.compared t, reads.compared .new, reads.verifyObservation v t, reads.verifyObservation v .new, signal,
      merged, freshSignal, freshMerged]
  · rw [(unread t).1, (unread t).2, (unread .new).1, (unread .new).2]
  · rw [(failed t).1, (failed t).2, (failed .new).1, (failed .new).2]

/-- What was merged is remembered and, once the reference is stored, read back from it. -/
theorem Remembers.step {text : String} (remembers : Remembers t stored) (encoded : v.encodedAfter t stored p = .ok text) :
    Remembers (v.verifyObservation t stored p).2 text := by
  unfold Verifier.encodedAfter at encoded
  rcases pass_cases v stored p with ⟨reference, receipt, reads⟩ | ⟨reference, located, hashless, unread⟩ | ⟨e, failed⟩
  · have valid := located_valid reads.located
    obtain ⟨-, merged⟩ := remembers.evaluate reads
    have same := remembers.baseline reads
    rw [reads.compared t, merged] at encoded
    have parsed := Reference.parse_encode encoded
    rw [Reference.withReceiptObservation_normal] at parsed
    have kept := ObservationTracker.next_remembers (t := t) (validChainID_written valid.chainID).1 reads.mined reads.isOf
    rw [reads.identify, same.merge_eq] at kept
    have unchanged := Reference.withReceiptObservation_eq (o := mergeObservation reference.receiptObservation
      (currentObservation reference receipt)) reads.mined
    obtain ⟨normal, recorded⟩ := @mergeObservation_normal reference receipt _ reference.receiptObservation_normal
    refine .inr ⟨_, _, parsed, ?_, ?_, Reference.receiptObservation_withReceiptObservation reads.mined
      normal recorded⟩
    · rw [unchanged]
      exact reads.mined
    · rw [unchanged, reads.verifyObservation v t]
      exact kept
  · -- no transaction is known, so nothing has been compared before either
    rcases remembers with rfl | ⟨given, memory, parsed, mined, _, _⟩
    · rw [(unread .new).2]
      exact .inl rfl
    · rw [parsed] at located
      obtain rfl : given = reference := Except.ok.inj ((resolveHash_known mined).symm.trans located)
      exact absurd hashless mined
  · rw [(failed t).2]
    rw [(failed t).1, (failed t).2] at encoded
    obtain rfl : stored = text := Except.ok.inj encoded
    exact remembers

end Pass

/-! ### The whole run -/

theorem longLived_eq_restarted {v : Verifier} {t : ObservationTracker} {stored : String} {passes : List VerifyPass}
    (remembers : Remembers t stored) (encodes : v.AllEncode stored passes) :
    v.longLived t stored passes = v.restarted stored passes := by
  induction passes generalizing t stored with
  | nil => rfl
  | cons p rest ih =>
    have same := remembers.report_eq v p
    obtain ⟨text, encoded⟩ := encodes (v.report .new stored p) (.head _)
    have encodedHere : v.encodedAfter t stored p = .ok text := by
      rw [← encoded, ← same]
      rfl
    have after : v.storedAfter t stored p = text := by rw [Verifier.storedAfter, encodedHere]
    have afterFresh : v.storedAfter .new stored p = text := by
      rw [Verifier.storedAfter, show v.encodedAfter .new stored p = .ok text from encoded]
    rw [Verifier.longLived, Verifier.restarted, same, after, afterFresh]
    congr 1
    apply ih (remembers.step encodedHere)
    intro report member
    apply encodes report
    rw [Verifier.restarted, afterFresh]
    exact .tail _ member

/-- One tracker for all passes and a new tracker for each pass report the same signals, outcomes and references. -/
theorem restart_transparent (v : Verifier) (stored : String) (passes : List VerifyPass)
    (encodes : v.AllEncode stored passes) : v.longLived .new stored passes = v.restarted stored passes :=
  longLived_eq_restarted (.inl rfl) encodes

theorem encodedAfter_sample {v : Verifier} {known seen : String} {confirmations : UInt64} (knownSample : SampleHash known)
    (seenSample : SampleHash seen) (few : confirmations = 1 ∨ confirmations = 2) :
    v.encodedAfter .new (storedText true known 7 1) (readsBlock seen confirmations) =
      .ok (storedText true seen 7 confirmations) := by
  have parsed := storedText_parse knownSample
  have reads : Reads (storedText true known 7 1) (readsBlock seen confirmations) (storedReference true known 7 1)
      (blockReceipt seen confirmations) := by
    have mined : (storedReference true known 7 1).transactionHash ≠ "" := hexHash_ne_empty '1'
    refine ⟨?_, mined, rfl, ?_⟩
    · rw [bind_ok]
      exact ⟨_, parsed, resolveHash_known mined⟩
    · simp [ensureReceiptMatches, storedReference, blockReceipt]
  have observed : (storedReference true known 7 1).withReceiptObservation
      (ObservationTracker.new.evaluate (samplePass known seen confirmations).durablePrior
        (samplePass known seen confirmations).current).2.1 = storedReference true seen 7 confirmations := by
    dsimp only [ObservationTracker.evaluate]
    rw [samplePass_merged seenSample, storedReference_observed seenSample rfl rfl rfl rfl]
  rw [Verifier.encodedAfter, reads.compared, ← storedReference_encode seenSample few, ← observed]
  rfl

/-- The block of the stored baseline is seen again, and then another one in its place. -/
theorem restart_transparent_replaced :
    ((Verifier.mk 2).longLived .new (storedText true (hexHash 'a') 7 1)
        [readsBlock (hexHash 'a') 1, readsBlock (hexHash 'b') 2]).map PassReport.encoded =
      [.ok (storedText true (hexHash 'a') 7 1), .ok (storedText true (hexHash 'b') 7 2)] := by
  have first := encodedAfter_sample (v := ⟨2⟩) hexHash_a hexHash_a (.inl rfl)
  have second := encodedAfter_sample (v := ⟨2⟩) hexHash_a hexHash_b (.inr rfl)
  have stored : (Verifier.mk 2).storedAfter .new (storedText true (hexHash 'a') 7 1) (readsBlock (hexHash 'a') 1) =
      storedText true (hexHash 'a') 7 1 := by rw [Verifier.storedAfter, first]
  have encoded : ((Verifier.mk 2).restarted (storedText true (hexHash 'a') 7 1)
      [readsBlock (hexHash 'a') 1, readsBlock (hexHash 'b') 2]).map PassReport.encoded =
        [.ok (storedText true (hexHash 'a') 7 1), .ok (storedText true (hexHash 'b') 7 2)] := by
    simp only [Verifier.restarted, List.map_cons, List.map_nil, Verifier.report, stored, first, second]
  rw [restart_transparent _ _ _ ?_, encoded]
  intro report member
  have among : report.encoded ∈ [Except.ok (storedText true (hexHash 'a') 7 1), .ok (storedText true (hexHash 'b') 7 2)] := by
    rw [← encoded]
    exact List.mem_map_of_mem member
  simp only [List.mem_cons, List.not_mem_nil, or_false] at among
  rcases among with first | second
  · exact ⟨_, first⟩
  · exact ⟨_, second⟩

end WizPay.Providers
