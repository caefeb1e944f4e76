import WizPay.Providers.Codec
import WizPay.Providers.Verifier

/-!
# Contradictory observations over many passes

What the tracker of `reorg.go` reports over a whole sequence of observations, and what a
verified receipt has in common with the stored baseline when several verifier processes
share one execution.
-/
namespace WizPay.Providers

open Checks GoText

/-- The arguments of one `Evaluate`. -/
structure ObservationPass where
  durablePrior : ReceiptObservation
  current : ReceiptObservation
deriving DecidableEq

namespace ObservationTracker

/-- The tracker after the pass. -/
def next (t : ObservationTracker) (p : ObservationPass) : ObservationTracker :=
  (t.evaluate p.durablePrior p.current).2.2

/-- The observation that the pass is compared with. -/
def comparedWith (t : ObservationTracker) (p : ObservationPass) : ReceiptObservation :=
  t.baseline p.durablePrior (identify p.durablePrior p.current)

/-- The signals of the passes, fed one by one. -/
def signals (t : ObservationTracker) : List ObservationPass → List ReorgSignal
  | [] => []
  | p :: rest => (t.evaluate p.durablePrior p.current).1 :: (t.next p).signals rest

end ObservationTracker

/-- Two present observations contradict each other. A fingerprint that is gone contradicts the one before it. -/
structure Disagree (first second : ReceiptObservation) : Prop where
  firstPresent : first.present = true
  secondPresent : second.present = true
  contradiction :
    first.blockNumber ≠ 0 ∧ second.blockNumber ≠ 0 ∧ first.blockNumber ≠ second.blockNumber ∨
    toLower (trimSpace first.blockHash) ≠ "" ∧ toLower (trimSpace second.blockHash) ≠ "" ∧
      equalFold (toLower (trimSpace first.blockHash)) (toLower (trimSpace second.blockHash)) = false ∨
    toLower (trimSpace first.logFingerprint) ≠ "" ∧
      toLower (trimSpace first.logFingerprint) ≠ toLower (trimSpace second.logFingerprint)

/-- Whenever two passes disagree, a pass after the first and not after the second reports it. -/
def Reported (t : ObservationTracker) (passes : List ObservationPass) : Prop :=
  ∀ (i j : Nat) (first second : ObservationPass), i < j → passes[i]? = some first → passes[j]? = some second →
    Disagree first.current second.current →
    ∃ k signal, i < k ∧ k ≤ j ∧ (t.signals passes)[k]? = some signal ∧ signal.inconsistent = true

/-- The pass is about the transaction. -/
structure ObservationPass.IsOf (chainID hash : String) (p : ObservationPass) : Prop where
  chain : (ObservationTracker.identify p.durablePrior p.current).chainID = chainID
  hash : toLower (trimSpace (ObservationTracker.identify p.durablePrior p.current).transactionHash) = hash

/-- A present observation does not leave out the block hash or the block number that the baseline has. -/
structure KeepsBlock (prior current : ReceiptObservation) : Prop where
  hash : current.present = true → prior.blockHash ≠ "" → current.blockHash ≠ ""
  number : current.present = true → prior.blockNumber ≠ 0 → current.blockNumber ≠ 0

/-- No pass leaves out block fields of what it is compared with. -/
def NeverBlanked (t : ObservationTracker) : List ObservationPass → Prop
  | [] => True
  | p :: rest => KeepsBlock (t.comparedWith p) p.current ∧ NeverBlanked (t.next p) rest

/-- What the memory still knows of a present observation: all that it said. -/
structure Retains (first memory : ReceiptObservation) : Prop where
  present : memory.present = true
  hash : toLower (trimSpace first.blockHash) ≠ "" →
    equalFold (toLower (trimSpace first.blockHash)) memory.blockHash = true
  number : first.blockNumber ≠ 0 → memory.blockNumber = first.blockNumber
  fingerprint : toLower (trimSpace first.logFingerprint) ≠ "" →
    memory.logFingerprint = toLower (trimSpace first.logFingerprint)

/-- What an unreported observation has in common with its baseline. -/
structure Consistent (prior current : ReceiptObservation) : Prop where
  hash : prior.blockHash ≠ "" → current.blockHash ≠ "" → equalFold prior.blockHash current.blockHash = true
  number : prior.blockNumber ≠ 0 → current.blockNumber ≠ 0 → prior.blockNumber = current.blockNumber
  fingerprint : prior.present = true → prior.logFingerprint ≠ "" → prior.logFingerprint = current.logFingerprint

section Compare

variable {prior current first memory : ReceiptObservation}

/-- A receipt that has gone missing is always reported. -/
theorem present_of_quiet (present : prior.present = true)
    (quiet : compareReceiptObservations prior current = .none) : current.present = true := by
  by_contra missing
  have included : prior.hasInclusion = true := by simp [ReceiptObservation.hasInclusion, present]
  rw [Bool.not_eq_true] at missing
  simp [compareReceiptObservations, included, missing, present] at quiet

theorem consistent_of_quiet (included : prior.hasInclusion = true) (shown : current.present = true)
    (quiet : compareReceiptObservations prior current = .none) : Consistent prior current := by
  unfold compareReceiptObservations at quiet
  rw [included, shown, Bool.not_true, if_neg Bool.false_ne_true, if_neg Bool.false_ne_true] at quiet
  split at quiet
  next => cases quiet
  next sameHash =>
    split at quiet
    next => cases quiet
    next sameNumber =>
      split at quiet
      next => cases quiet
      next =>
        split at quiet
        next => cases quiet
        next sameLogs =>
          refine ⟨?_, ?_, ?_⟩
          · intro hasHash carriesHash
            by_contra differs
            exact sameHash ⟨hasHash, carriesHash, by simp [differs]⟩
          · intro hasNumber carriesNumber
            by_contra differs
            exact sameNumber ⟨hasNumber, carriesNumber, differs⟩
          · intro present hasLogs
            by_contra differs
            exact sameLogs ⟨present, rfl, hasLogs, .inr differs⟩

theorem Retains.consistent (retained : Retains first memory)
    (quiet : compareReceiptObservations memory current = .none) :
    current.present = true ∧ Consistent memory current := by
  have shown := present_of_quiet retained.present quiet
  have included : memory.hasInclusion = true := by simp [ReceiptObservation.hasInclusion, retained.present]
  exact ⟨shown, consistent_of_quiet included shown quiet⟩

/-- An observation that repeats its baseline is not reported. -/
theorem compare_repeated (shown : current.present = true) (hash : prior.blockHash = current.blockHash)
    (number : prior.blockNumber = current.blockNumber) (deeper : prior.confirmations ≤ current.confirmations)
    (logs : prior.logFingerprint = current.logFingerprint) : compareReceiptObservations prior current = .none := by
  have notFewer : ¬ current.confirmations < prior.confirmations := UInt64.not_lt.mpr deeper
  simp [compareReceiptObservations, shown, hash, number, logs, notFewer]

theorem ne_empty_of_equalFold {a b : String} (equal : equalFold a b = true) (some : a ≠ "") : b ≠ "" := by
  rintro rfl
  rw [equalFold_iff] at equal
  exact some (String.toList_eq_nil_iff.mp (List.map_eq_nil_iff.mp equal))

theorem mergeObservation_present (shown : current.present = true) :
    mergeObservation prior current =
      { current with
        transactionHash := toLower (trimSpace current.transactionHash)
        known := true
        blockHash := toLower (trimSpace current.blockHash)
        logFingerprint := toLower (trimSpace current.logFingerprint) } := by
  rw [mergeObservation, if_pos shown]

/-- The first merge of a present observation retains it. -/
theorem Retains.merged (present : first.present = true) : Retains first (mergeObservation prior first) := by
  rw [mergeObservation_present present]
  exact ⟨present, fun _ => equalFold_iff.mpr rfl, fun _ => rfl, fun _ => rfl⟩

/-- A quiet pass that keeps the block fields hands the memory on. -/
theorem Retains.step (retained : Retains first memory) (kept : KeepsBlock memory current)
    (quiet : compareReceiptObservations memory current = .none) :
    Retains first (mergeObservation memory current) := by
  obtain ⟨shown, consistent⟩ := retained.consistent quiet
  rw [mergeObservation_present shown]
  constructor
  case present => exact shown
  case hash =>
    intro hasHash
    have held := retained.hash hasHash
    have memoryHas := ne_empty_of_equalFold held hasHash
    have same := consistent.hash memoryHas (kept.hash shown memoryHas)
    exact equalFold_normal (equalFold_trans held same)
  case number =>
    intro hasNumber
    have held := retained.number hasNumber
    have memoryHas : memory.blockNumber ≠ 0 := held ▸ hasNumber
    exact (consistent.number memoryHas (kept.number shown memoryHas)).symm.trans held
  case fingerprint =>
    intro hasLogs
    have held := retained.fingerprint hasLogs
    have same := consistent.fingerprint retained.present (held ▸ hasLogs)
    rw [← same, held, normal_idempotent]

/-- The disagreeing pass does not go unreported while the memory retains the first one. -/
theorem Retains.contradicted (retained : Retains first memory) (disagree : Disagree first current) :
    compareReceiptObservations memory current ≠ .none := by
  intro quiet
  obtain ⟨_, consistent⟩ := retained.consistent quiet
  rcases disagree.contradiction with ⟨hasNumber, carries, differs⟩ | ⟨hasHash, carries, differs⟩ | ⟨hasLogs, differs⟩
  · have held := retained.number hasNumber
    exact differs (held ▸ consistent.number (held ▸ hasNumber) carries)
  · have held := retained.hash hasHash
    have raw : current.blockHash ≠ "" := by
      intro blank
      exact carries (by rw [blank, trimSpace_empty]; rfl)
    have same := consistent.hash (ne_empty_of_equalFold held hasHash) raw
    rw [equalFold_normal (equalFold_trans held same)] at differs
    cases differs
  · have held := retained.fingerprint hasLogs
    have same := consistent.fingerprint retained.present (held ▸ hasLogs)
    exact differs (by rw [← same, held, normal_idempotent])

end Compare

section Run

variable {t : ObservationTracker} {chainID hash : String} {p : ObservationPass}

theorem ObservationTracker.comparedWith_memory {memory : ReceiptObservation} (own : p.IsOf chainID hash)
    (remembered : t (chainID ++ "|" ++ hash) = some memory) : t.comparedWith p = memory := by
  rw [comparedWith, baseline, prior, observationKey, own.chain, own.hash, remembered]
  rfl

theorem mergeObservation_identity (prior current : ReceiptObservation) :
    (mergeObservation prior current).chainID = current.chainID ∧
      (mergeObservation prior current).transactionHash = toLower (trimSpace current.transactionHash) := by
  unfold mergeObservation
  split
  next => exact ⟨rfl, rfl⟩
  next =>
    split
    next => exact ⟨rfl, rfl⟩
    next => exact ⟨rfl, rfl⟩

/-- An observation under its normal identity is stored as it is. -/
theorem ObservationTracker.remember_normal {merged : ReceiptObservation} (hasChain : merged.chainID ≠ "")
    (hasHash : merged.transactionHash ≠ "")
    (normal : toLower (trimSpace merged.transactionHash) = merged.transactionHash) :
    t.remember merged (merged.chainID ++ "|" ++ merged.transactionHash) = some merged := by
  have named : ¬ (merged.chainID = "" ∨ merged.transactionHash = "") := by simp [hasChain, hasHash]
  unfold remember
  rw [if_neg named]
  simp only [observationKey, normal, if_true]

/-- A pass of the transaction is remembered under its key. -/
theorem ObservationTracker.next_remembers (hasChain : chainID ≠ "") (hasHash : hash ≠ "") (own : p.IsOf chainID hash) :
    t.next p (chainID ++ "|" ++ hash) =
      some (mergeObservation (t.comparedWith p) (identify p.durablePrior p.current)) := by
  obtain ⟨chain, named⟩ := mergeObservation_identity (t.comparedWith p) (identify p.durablePrior p.current)
  rw [own.chain] at chain
  rw [own.hash] at named
  have normal : toLower (trimSpace hash) = hash := by rw [← own.hash, normal_idempotent]
  have stored := remember_normal (t := t) (chain ▸ hasChain) (named ▸ hasHash) (by rw [named, normal])
  rw [chain, named] at stored
  exact stored

/-- From a memory that retains the first observation, the disagreement is reported when it arrives at the latest. -/
theorem reported_from_memory {first : ReceiptObservation} (hasChain : chainID ≠ "") (hasHash : hash ≠ "")
    (passes : List ObservationPass) : ∀ (t : ObservationTracker) (memory : ReceiptObservation) (j : Nat)
      (second : ObservationPass), (∀ p ∈ passes, p.IsOf chainID hash) → NeverBlanked t passes →
      t (chainID ++ "|" ++ hash) = some memory → Retains first memory → passes[j]? = some second →
      Disagree first second.current →
      ∃ k signal, k ≤ j ∧ (t.signals passes)[k]? = some signal ∧ signal.inconsistent = true := by
  induction passes with
  | nil =>
    intro t memory j second _ _ _ _ arrives
    simp at arrives
  | cons p rest ih =>
    intro t memory j second own kept remembered retained arrives disagree
    have compared := ObservationTracker.comparedWith_memory (own p (.head _)) remembered
    by_cases quiet : compareReceiptObservations memory p.current = .none
    · -- an unreported pass leaves a memory that still retains the first observation
      cases j with
      | zero =>
        simp only [List.getElem?_cons_zero, Option.some.injEq] at arrives
        subst arrives
        exact absurd quiet (retained.contradicted disagree)
      | succ j =>
        have stored := ObservationTracker.next_remembers (t := t) hasChain hasHash (own p (.head _))
        rw [compared] at stored
        have keeps : KeepsBlock memory (ObservationTracker.identify p.durablePrior p.current) :=
          compared ▸ ⟨kept.1.hash, kept.1.number⟩
        have onward := retained.step keeps quiet
        obtain ⟨k, signal, bound, at_k, inconsistent⟩ := ih (t.next p) _ j second
          (fun q member => own q (List.mem_cons_of_mem p member)) kept.2 stored onward (by simpa using arrives) disagree
        exact ⟨k + 1, signal, by omega, by simpa [ObservationTracker.signals] using at_k, inconsistent⟩
    · refine ⟨0, compareReceiptObservations memory p.current, Nat.zero_le j, ?_, by simp [ReorgSignal.inconsistent, quiet]⟩
      rw [← compared]
      rfl

/-- Divergence is reported in every run that never leaves out the block hash or number of its baseline. -/
theorem divergence_reported (t : ObservationTracker) (chainID hash : String) (passes : List ObservationPass)
    (hasChain : chainID ≠ "") (hasHash : hash ≠ "") (own : ∀ p ∈ passes, p.IsOf chainID hash)
    (kept : NeverBlanked t passes) : Reported t passes := by
  induction passes generalizing t with
  | nil =>
    intro i j first second _ arrives
    simp at arrives
  | cons p rest ih =>
    intro i j first second before atFirst atSecond disagree
    obtain ⟨j, rfl⟩ : ∃ later, j = later + 1 := ⟨j - 1, by omega⟩
    have ownRest : ∀ q ∈ rest, q.IsOf chainID hash := fun q member => own q (.tail _ member)
    rw [List.getElem?_cons_succ] at atSecond
    cases i with
    | zero =>
      simp only [List.getElem?_cons_zero, Option.some.injEq] at atFirst
      subst atFirst
      have stored := ObservationTracker.next_remembers (t := t) hasChain hasHash (own p (.head _))
      have retained : Retains p.current
          (mergeObservation (t.comparedWith p) (ObservationTracker.identify p.durablePrior p.current)) :=
        have identified : Retains (ObservationTracker.identify p.durablePrior p.current) _ :=
          .merged disagree.firstPresent
        ⟨identified.present, identified.hash, identified.number, identified.fingerprint⟩
      obtain ⟨k, signal, bound, at_k, inconsistent⟩ := reported_from_memory hasChain hasHash rest (t.next p) _ j second
        ownRest kept.2 stored retained atSecond disagree
      exact ⟨k + 1, signal, by omega, by omega, by simpa [ObservationTracker.signals] using at_k, inconsistent⟩
    | succ i =>
      rw [List.getElem?_cons_succ] at atFirst
      obtain ⟨k, signal, after, bound, at_k, inconsistent⟩ :=
        ih (t.next p) ownRest kept.2 i j first second (by omega) atFirst atSecond disagree
      exact ⟨k + 1, signal, by omega, by omega, by simpa [ObservationTracker.signals] using at_k, inconsistent⟩

/-- An observation of the sample transaction in block 7. -/
def seenIn (blockHash : String) : ObservationPass :=
  ⟨.zero, ⟨"5042002", "0xa1", .success, 7, blockHash, 3, true, true, ""⟩⟩

theorem seenIn_isOf (blockHash : String) : (seenIn blockHash).IsOf "5042002" "0xa1" :=
  ⟨rfl, by show toLower (trimSpace "0xa1") = "0xa1"; decide +kernel⟩

theorem divergence_reported_two_blocks :
    NeverBlanked .new [seenIn "0xb1", seenIn "0xb2"] ∧ Reported .new [seenIn "0xb1", seenIn "0xb2"] := by
  have kept : NeverBlanked .new [seenIn "0xb1", seenIn "0xb2"] :=
    ⟨⟨fun _ _ => by decide +kernel, fun _ _ => by decide +kernel⟩,
      ⟨fun _ _ => by decide +kernel, fun _ _ => by decide +kernel⟩, trivial⟩
  refine ⟨kept, divergence_reported .new "5042002" "0xa1" _ (by decide) (by decide) ?_ kept⟩
  simp only [List.mem_cons, List.not_mem_nil, or_false]
  rintro p (rfl | rfl)
  · exact seenIn_isOf _
  · exact seenIn_isOf _

/-- A block hash that is blank in between hides a change of block: the blank overwrites the baseline. -/
theorem blank_hash_hides_divergence :
    ¬ Reported .new [seenIn "0xb1", seenIn "", seenIn "0xb2"] := by
  intro reported
  have quiet : ObservationTracker.signals .new [seenIn "0xb1", seenIn "", seenIn "0xb2"] = [.none, .none, .none] := by
    decide +kernel
  have disagree : Disagree (seenIn "0xb1").current (seenIn "0xb2").current :=
    ⟨rfl, rfl, .inr (.inl (by decide +kernel))⟩
  obtain ⟨k, signal, after, bound, at_k, inconsistent⟩ := reported 0 2 _ _ (by omega) rfl rfl disagree
  rw [quiet] at at_k
  obtain rfl | rfl : k = 1 ∨ k = 2 := by omega
  · cases at_k
    cases inconsistent
  · cases at_k
    cases inconsistent

end Run

/-! ### Many processes, one execution -/

/-- A verifier process loses its memory, or verifies a reference. -/
inductive VerifierStep (ι : Type)
  | restart (process : ι)
  | verify (process : ι) (encoded : String) (p : VerifyPass)

variable {ι : Type} [DecidableEq ι]

/-- The trackers of all processes after the step. -/
def VerifierStep.apply (v : ι → Verifier) (memories : ι → ObservationTracker) :
    VerifierStep ι → ι → ObservationTracker
  | .restart i => Function.update memories i .new
  | .verify i encoded p => Function.update memories i ((v i).verifyObservation (memories i) encoded p).2

/-- The receipt says what the baseline says. -/
structure AgreesWith (baseline : ReceiptObservation) (receipt : Receipt) : Prop where
  number : baseline.blockNumber ≠ 0 → receipt.blockNumber = baseline.blockNumber
  hash : baseline.blockHash ≠ "" → equalFold baseline.blockHash (toLower (trimSpace receipt.blockHash)) = true
  fingerprint : baseline.logFingerprint ≠ "" → logFingerprint receipt.logs = baseline.logFingerprint

/-- What a final success must rest on; `given` is the reference that the verifier was given, and `located` the one
that the resolver completed with a hash. -/
structure Grounded (v : Verifier) (p : VerifyPass) (given located : Reference) (receipt : Receipt) : Prop where
  resolved : resolveHash given p.resolved = .ok located
  read : p.receipt = .ok receipt
  succeeded : receipt.status = .success
  chain : receipt.chainID = given.chainID
  transaction : equalFold receipt.transactionHash located.transactionHash = true
  named : given.transactionHash ≠ "" → located = given
  confirmed : v.minConfirmations ≤ receipt.confirmations
  agrees : AgreesWith given.receiptObservation receipt

/-- Every final success of the run is grounded. -/
def SuccessesGrounded (v : ι → Verifier) (memories : ι → ObservationTracker) : List (VerifierStep ι) → Prop
  | [] => True
  | step :: rest =>
    (∀ i encoded p observation, step = .verify i encoded p →
      ((v i).verifyObservation (memories i) encoded p).1 = .ok observation → observation.finalSuccess = true →
      ∃ given located receipt, parseReference encoded = .ok given ∧ Grounded (v i) p given located receipt) ∧
    SuccessesGrounded v (step.apply v memories) rest

/-- The observation that a pass is compared with says what the durable baseline says. -/
structure Upholds (durable prior : ReceiptObservation) : Prop where
  number : durable.blockNumber ≠ 0 → prior.blockNumber = durable.blockNumber
  hash : durable.blockHash ≠ "" → equalFold durable.blockHash prior.blockHash = true
  fingerprint : durable.logFingerprint ≠ "" → prior.logFingerprint = durable.logFingerprint ∧ prior.present = true

/-- The process compares with nothing that differs from the durable baseline, and the receipt leaves out no block field
of it. -/
def ComparesBaseline (t : ObservationTracker) (encoded : String) (p : VerifyPass) : Prop :=
  ∀ reference receipt, parseReference encoded = .ok reference → reference.transactionHash ≠ "" →
    p.receipt = .ok receipt →
    Upholds reference.receiptObservation
        (t.comparedWith ⟨reference.receiptObservation, currentObservation reference receipt⟩) ∧
      KeepsBlock reference.receiptObservation (currentObservation reference receipt)

/-- Every verification of the run does. -/
def AllCompareBaseline (v : ι → Verifier) (memories : ι → ObservationTracker) : List (VerifierStep ι) → Prop
  | [] => True
  | step :: rest =>
    (∀ i encoded p, step = .verify i encoded p → ComparesBaseline (memories i) encoded p) ∧
    AllCompareBaseline v (step.apply v memories) rest

section Verify

variable {v : Verifier} {t : ObservationTracker} {encoded : String} {p : VerifyPass} {reference : Reference}
  {receipt : Receipt} {observation : VerificationObservation}

/-- A reference without a hash has no baseline. -/
theorem parseReference_hashless (parsed : parseReference encoded = .ok reference)
    (hashless : reference.transactionHash = "") : reference.receiptObservation = .zero := by
  have valid := parseReference_valid parsed
  have bare : reference.hasObservationMetadata = false := by
    by_contra carries
    simp only [Reference.validate, bind_ok] at valid
    obtain ⟨_, _, _, _, _, _, _, _, _, _, _, _, _, _, _, _, _, _, metadata⟩ := valid
    simp [Reference.validateObservationMetadata, checkIf, carries, hashless, rejectIf] at metadata
  simp only [Reference.hasObservationMetadata, Bool.or_eq_false_iff] at bare
  obtain ⟨⟨⟨⟨⟨known, present⟩, hash⟩, number⟩, _⟩, logs⟩ := bare
  simp [Reference.receiptObservation, known, present, hash, number, logs]

theorem AgreesWith.zero (receipt : Receipt) : AgreesWith .zero receipt :=
  ⟨fun some => absurd rfl some, fun some => absurd rfl some, fun some => absurd rfl some⟩

/-- A quiet comparison with what upholds the durable baseline makes the receipt agree with it. -/
theorem AgreesWith.of_quiet {durable prior : ReceiptObservation} (succeeded : receipt.status = .success)
    (upholds : Upholds durable prior) (kept : KeepsBlock durable (currentObservation reference receipt))
    (quiet : compareReceiptObservations prior (currentObservation reference receipt) = .none) :
    AgreesWith durable receipt := by
  have shown : receiptPresent receipt = true := by simp [receiptPresent, succeeded]
  have consistent (included : prior.hasInclusion = true) : Consistent prior (currentObservation reference receipt) :=
    consistent_of_quiet included shown quiet
  constructor
  case number =>
    intro hasNumber
    have held := upholds.number hasNumber
    have included : prior.hasInclusion = true := by simp [ReceiptObservation.hasInclusion, held, hasNumber]
    exact ((consistent included).number (held ▸ hasNumber) (kept.number shown hasNumber)).symm.trans held
  case hash =>
    intro hasHash
    have held := upholds.hash hasHash
    have priorHas := ne_empty_of_equalFold held hasHash
    have included : prior.hasInclusion = true := by simp [ReceiptObservation.hasInclusion, priorHas]
    exact equalFold_trans held ((consistent included).hash priorHas (kept.hash shown hasHash))
  case fingerprint =>
    intro hasLogs
    obtain ⟨held, present⟩ := upholds.fingerprint hasLogs
    have included : prior.hasInclusion = true := by simp [ReceiptObservation.hasInclusion, present]
    have same := (consistent included).fingerprint present (held ▸ hasLogs)
    -- a present receipt without logs has the empty fingerprint either way
    have own : (currentObservation reference receipt).logFingerprint = logFingerprint receipt.logs := by
      show (if receiptPresent receipt && !receipt.logs.isEmpty then logFingerprint receipt.logs else "") = _
      cases none : receipt.logs.isEmpty with
      | true => simp [logFingerprint, none]
      | false => simp [shown]
    rw [← own, ← same, held]

theorem resolveHash_ok {given located : Reference} {found : Except Error Reference}
    (resolved : resolveHash given found = .ok located) :
    located.chainID = given.chainID ∧ (given.transactionHash ≠ "" → located = given) := by
  unfold resolveHash at resolved
  split at resolved
  next =>
    cases resolved
    exact ⟨rfl, fun _ => rfl⟩
  next hashless =>
    split at resolved
    next => cases resolved
    next =>
      simp only [bind_ok, pure_ok, rejectIf_ok] at resolved
      obtain ⟨_, same, _, _, _, _, rfl⟩ := resolved
      rw [not_or, not_not, not_not] at same
      exact ⟨same.2, fun named => absurd named hashless⟩

theorem finalSuccess_grounded (compares : ComparesBaseline t encoded p)
    (verified : (v.verifyObservation t encoded p).1 = .ok observation) (final : observation.finalSuccess = true) :
    ∃ given located receipt, parseReference encoded = .ok given ∧ Grounded v p given located receipt := by
  rcases Verifier.verifyObservation_ok verified with ⟨_, unfinished⟩ | ⟨located, receipt, resolved, hash, read, matched,
    judged⟩
  · rw [unfinished] at final
    cases final
  · rcases (Verifier.judge_ok judged).2.2 with ⟨_, unfinished⟩ | ⟨quiet, succeeded, deep, _⟩ | ⟨_, _, unfinished⟩
    · rw [unfinished] at final
      cases final
    · simp only [bind_ok] at resolved
      obtain ⟨given, parsed, resolved⟩ := resolved
      obtain ⟨sameChain, named⟩ := resolveHash_ok resolved
      have matches_ := checkIf_ok.mp matched (by simp [succeeded])
      simp only [bind_ok, rejectIf_ok, ne_eq, not_not, Bool.not_eq_false] at matches_
      obtain ⟨_, chain, transaction⟩ := matches_
      refine ⟨given, located, receipt, parsed, resolved, read, succeeded, chain.trans sameChain, transaction, named,
        deep, ?_⟩
      by_cases hashless : given.transactionHash = ""
      · rw [parseReference_hashless parsed hashless]
        exact .zero receipt
      · obtain rfl := named hashless
        obtain ⟨upholds, kept⟩ := compares located receipt parsed hashless read
        exact .of_quiet succeeded upholds kept quiet
    · rw [unfinished] at final
      cases final

end Verify

/-- Whatever the processes saw before, a final success is grounded when each verification compares with the durable
baseline of its reference. -/
theorem successes_grounded (v : ι → Verifier) (memories : ι → ObservationTracker) (steps : List (VerifierStep ι))
    (compare : AllCompareBaseline v memories steps) : SuccessesGrounded v memories steps := by
  induction steps generalizing memories with
  | nil => trivial
  | cons step rest ih =>
    refine ⟨?_, ih _ compare.2⟩
    intro i encoded p observation isVerify verified final
    exact finalSuccess_grounded (compare.1 i encoded p isVerify) verified final

/-! ### A handoff between two processes -/

/-- The reference of the sample transaction, with what was observed of block 7. -/
def storedReference (present : Bool) (blockHash : String) (blockNumber confirmations : UInt64) : Reference :=
  { provider := .circleUserControlled, chainID := "5042002", walletID := "", challengeID := "",
    providerTransactionID := "", transactionHash := hexHash '1', obsPresent := present, obsKnown := present,
    obsBlockHash := blockHash, obsBlockNumber := blockNumber, obsConfirmations := confirmations,
    obsLogFingerprint := "" }

/-- A stored reference as the encoding writes it. -/
def storedText (present : Bool) (blockHash : String) (blockNumber confirmations : UInt64) : String :=
  ";".intercalate (storedReference present blockHash blockNumber confirmations).segments

variable {blockHash known seen : String} {confirmations : UInt64}

theorem storedReference_valid (sample : SampleHash blockHash) (confirmations : UInt64) :
    (storedReference true blockHash 7 confirmations).Valid := by
  constructor
  case transactionHash => exact fun _ => hexHash_one.valid
  case blockHash => exact fun _ => sample.valid
  case chainID => exact (by decide : validChainID "5042002" = true)
  case identified => exact .inr (.inr (hexHash_ne_empty '1'))
  case metadata => exact fun _ => ⟨hexHash_ne_empty '1', rfl⟩
  case provider => rfl
  all_goals exact fun some => absurd rfl some

theorem storedReference_normal (sample : SampleHash blockHash) (confirmations : UInt64) :
    (storedReference true blockHash 7 confirmations).normalizeObservationMetadata =
      storedReference true blockHash 7 confirmations :=
  Reference.normalize_eq_self sample.normal (by show toLower (trimSpace "") = ""; decide) nofun

theorem storedText_len (sample : SampleHash blockHash) (few : confirmations = 1 ∨ confirmations = 2) :
    len (storedText true blockHash 7 confirmations) ≤ maxReferenceLength := by
  have lowered : toLower blockHash = blockHash := (validTransactionHash_written sample.valid).1
  have some : blockHash ≠ "" := by
    rintro rfl
    exact absurd sample.short (by decide)
  have seven : Reference.numberSegment "bn=" 7 = ["bn=7"] := by decide
  have blank : Reference.segment "lf=" (toLower "") = [] := by decide
  have hash : Reference.segment "hash=" (hexHash '1') = ["hash=" ++ hexHash '1'] := if_neg (hexHash_ne_empty '1')
  have block : Reference.segment "bh=" (toLower blockHash) = ["bh=" ++ blockHash] := by
    rw [lowered]
    exact if_neg some
  have confirmed : Reference.numberSegment "cf=" confirmations = ["cf=1"] ∨
      Reference.numberSegment "cf=" confirmations = ["cf=2"] := by
    rcases few with rfl | rfl
    · exact .inl (by decide)
    · exact .inr (by decide)
  have spelled : (storedReference true blockHash 7 confirmations).segments =
      [referencePrefix, "p=" ++ "CIRCLE_USER_CONTROLLED_WALLET", "chain=" ++ "5042002", "hash=" ++ hexHash '1', "rp=1",
        "rk=1", "bh=" ++ blockHash, "bn=7"] ++ Reference.numberSegment "cf=" confirmations := by
    show _ ++ [] ++ [] ++ [] ++ Reference.segment "hash=" (hexHash '1') ++ (["rp=1"] ++ ["rk=1"] ++
      Reference.segment "bh=" (toLower blockHash) ++ Reference.numberSegment "bn=" 7 ++
      Reference.numberSegment "cf=" confirmations ++ Reference.segment "lf=" (toLower "")) = _
    rw [hash, block, seven, blank]
    simp [ProviderID.text, storedReference]
  rw [storedText, spelled]
  rcases confirmed with one | two
  · rw [one]
    simp only [List.cons_append, List.nil_append, String.intercalate_cons_cons, String.intercalate_singleton, len_append,
      sample.short, hexHash_one.short]
    decide
  · rw [two]
    simp only [List.cons_append, List.nil_append, String.intercalate_cons_cons, String.intercalate_singleton, len_append,
      sample.short, hexHash_one.short]
    decide

/-- A receipt of the sample transaction in block 7. -/
def blockReceipt (blockHash : String) (confirmations : UInt64) : Receipt :=
  { status := .success, chainID := "5042002", transactionHash := hexHash '1', blockNumber := 7, blockHash, confirmations,
    logs := [] }

def readsBlock (blockHash : String) (confirmations : UInt64) : VerifyPass :=
  ⟨.error (.text "unavailable"), .ok (blockReceipt blockHash confirmations), 1000⟩

theorem storedReference_encode (sample : SampleHash blockHash) (few : confirmations = 1 ∨ confirmations = 2) :
    (storedReference true blockHash 7 confirmations).encode = .ok (storedText true blockHash 7 confirmations) :=
  (storedReference_valid sample confirmations).encode (storedReference_normal sample confirmations)
    (storedText_len sample few)

theorem storedText_parse {known : String} (sample : SampleHash known) :
    parseReference (storedText true known 7 1) = .ok (storedReference true known 7 1) := by
  rw [Reference.parse_encode (storedReference_encode sample (.inl rfl)), storedReference_normal sample]

theorem judge_sample : (Verifier.mk 2).judge (storedReference true (hexHash 'a') 7 2) (blockReceipt (hexHash 'a') 2) .none
    1000 = .ok ⟨⟨.verified, storedText true (hexHash 'a') 7 2, "", 1000⟩, storedReference true (hexHash 'a') 7 2,
      some (blockReceipt (hexHash 'a') 2), true⟩ :=
  Verifier.judge_success rfl (by decide) (by decide) (storedReference_encode hexHash_a (.inr rfl))
    (storedReference_valid hexHash_a 2).validate

/-- What a pass over the stored reference compares and merges. -/
def samplePass (known seen : String) (confirmations : UInt64) : ObservationPass :=
  ⟨(storedReference true known 7 1).receiptObservation,
    currentObservation (storedReference true known 7 1) (blockReceipt seen confirmations)⟩

theorem samplePass_isOf (known seen : String) (confirmations : UInt64) :
    (samplePass known seen confirmations).IsOf "5042002" (hexHash '1') :=
  ⟨rfl, hexHash_one.normal⟩

theorem storedReference_observed (sample : SampleHash seen) {o : ReceiptObservation} (present : o.present = true)
    (hash : o.blockHash = seen) (number : o.blockNumber = 7) (logs : o.logFingerprint = "") :
    (storedReference true known 7 1).withReceiptObservation o = storedReference true seen 7 o.confirmations := by
  have updated : (storedReference true known 7 1).withReceiptObservation o =
      (storedReference true seen 7 o.confirmations).normalizeObservationMetadata := by
    unfold Reference.withReceiptObservation
    rw [present, hash, sample.normal, number, logs]
    simp [storedReference, hexHash_ne_empty]
  rw [updated, storedReference_normal sample]

theorem samplePass_current (sample : SampleHash seen) (confirmations : UInt64) :
    (samplePass known seen confirmations).current =
      ⟨"5042002", hexHash '1', .success, 7, seen, confirmations, true, true, ""⟩ := by
  simp [samplePass, currentObservation, observationFromReceipt, blockReceipt, receiptPresent, storedReference,
    sample.normal]

theorem storedReference_observation {known : String} (sample : SampleHash known) :
    (storedReference true known 7 1).receiptObservation =
      ⟨"5042002", hexHash '1', .other "", 7, known, 1, true, true, ""⟩ := by
  simp [Reference.receiptObservation, storedReference, sample.normal]

theorem samplePass_merged (sample : SampleHash seen) (prior : ReceiptObservation) (confirmations : UInt64) :
    mergeObservation prior (ObservationTracker.identify (samplePass known seen confirmations).durablePrior
        (samplePass known seen confirmations).current) =
      ⟨"5042002", hexHash '1', .success, 7, seen, confirmations, true, true, ""⟩ := by
  rw [mergeObservation_present rfl]
  have identified : ObservationTracker.identify (samplePass known seen confirmations).durablePrior
      (samplePass known seen confirmations).current =
        ⟨"5042002", hexHash '1', .success, 7, seen, confirmations, true, true, ""⟩ := by
    rw [samplePass_current sample]
    simp [ObservationTracker.identify, hexHash_ne_empty]
  rw [identified]
  simp only [sample.normal, hexHash_one.normal, trimSpace_empty, toLower_empty]

theorem verifyObservation_sample {v : Verifier} {t : ObservationTracker} (knownSample : SampleHash known)
    (seenSample : SampleHash seen) :
    v.verifyObservation t (storedText true known 7 1) (readsBlock seen confirmations) =
      (v.judge (storedReference true seen 7 confirmations) (blockReceipt seen confirmations)
        (compareReceiptObservations (t.comparedWith (samplePass known seen confirmations))
          (samplePass known seen confirmations).current) 1000,
        t.next (samplePass known seen confirmations)) := by
  have matched : ensureReceiptMatches (storedReference true known 7 1) (blockReceipt seen confirmations) = .ok () := by
    simp [ensureReceiptMatches, storedReference, blockReceipt]
  have observed : (storedReference true known 7 1).withReceiptObservation
      (mergeObservation (t.comparedWith (samplePass known seen confirmations))
        (ObservationTracker.identify (samplePass known seen confirmations).durablePrior
          (samplePass known seen confirmations).current)) = storedReference true seen 7 confirmations := by
    rw [samplePass_merged seenSample, storedReference_observed seenSample rfl rfl rfl rfl]
  rw [Verifier.verifyObservation_located (storedText_parse knownSample) (hexHash_ne_empty '1') rfl matched, ← observed]
  rfl

/-- A process without memory confirms the block that the stored baseline names. -/
theorem successes_grounded_fresh :
    ((Verifier.mk 2).verifyObservation .new (storedText true (hexHash 'a') 7 1) (readsBlock (hexHash 'a') 2)).1.map
        (·.finalSuccess) = .ok true ∧
      SuccessesGrounded (fun _ : Bool => ⟨2⟩) (fun _ => .new)
        [.verify false (storedText true (hexHash 'a') 7 1) (readsBlock (hexHash 'a') 2)] := by
  have durable : ObservationTracker.comparedWith .new (samplePass (hexHash 'a') (hexHash 'a') 2) =
      ⟨"5042002", hexHash '1', .other "", 7, hexHash 'a', 1, true, true, ""⟩ := storedReference_observation hexHash_a
  constructor
  · have repeated : compareReceiptObservations
        (ObservationTracker.comparedWith .new (samplePass (hexHash 'a') (hexHash 'a') 2))
        (samplePass (hexHash 'a') (hexHash 'a') 2).current = .none := by
      rw [durable, samplePass_current hexHash_a]
      exact compare_repeated rfl rfl rfl (by decide) rfl
    rw [verifyObservation_sample hexHash_a hexHash_a, repeated, judge_sample]
    rfl
  · refine successes_grounded _ _ _ ⟨?_, trivial⟩
    intro i encoded p isVerify reference receipt parsed _ read
    cases isVerify
    rw [storedText_parse hexHash_a] at parsed
    cases parsed
    cases read
    have upholds : Upholds (storedReference true (hexHash 'a') 7 1).receiptObservation
        (ObservationTracker.comparedWith .new (samplePass (hexHash 'a') (hexHash 'a') 2)) := by
      rw [durable, storedReference_observation hexHash_a]
      exact ⟨fun _ => rfl, fun _ => equalFold_refl _, fun some => absurd rfl some⟩
    have kept : KeepsBlock (storedReference true (hexHash 'a') 7 1).receiptObservation
        (samplePass (hexHash 'a') (hexHash 'a') 2).current := by
      rw [samplePass_current hexHash_a]
      exact ⟨fun _ _ => hexHash_ne_empty 'a', fun _ _ => by decide⟩
    exact ⟨upholds, kept⟩

/-- The first process sees block a, the second block b, and the first confirms block a over the baseline of the second. -/
def handoffRun : List (VerifierStep Bool) :=
  [.verify false (storedText true (hexHash 'a') 7 1) (readsBlock (hexHash 'a') 1),
    .verify true (storedText true (hexHash 'a') 7 1) (readsBlock (hexHash 'b') 1),
    .verify false (storedText true (hexHash 'b') 7 1) (readsBlock (hexHash 'a') 2)]

theorem hexHash_ne : equalFold (hexHash 'b') (hexHash 'a') = false ∧ equalFold (hexHash 'a') (hexHash 'b') = false := by
  simp only [equalFold, hexHash, String.toList_ofList]
  decide

/-- The second process reports the change and hands on the baseline that the third pass is given. -/
theorem handoffRun_second : ((Verifier.mk 2).verifyObservation .new (storedText true (hexHash 'a') 7 1)
    (readsBlock (hexHash 'b') 1)).1.map (·.result) = .ok ⟨.pending, storedText true (hexHash 'b') 7 1, "", 1000⟩ := by
  have changed : compareReceiptObservations
      (ObservationTracker.comparedWith .new (samplePass (hexHash 'a') (hexHash 'b') 1))
      (samplePass (hexHash 'a') (hexHash 'b') 1).current = .blockHashChanged := by
    have durable : ObservationTracker.comparedWith .new (samplePass (hexHash 'a') (hexHash 'b') 1) =
        ⟨"5042002", hexHash '1', .other "", 7, hexHash 'a', 1, true, true, ""⟩ := storedReference_observation hexHash_a
    rw [durable, samplePass_current hexHash_b]
    simp [compareReceiptObservations, ReceiptObservation.hasInclusion, hexHash_ne_empty, hexHash_ne]
  rw [verifyObservation_sample hexHash_a hexHash_b, changed]
  have held := storedReference_encode hexHash_b (.inl rfl)
  simp only [Verifier.judge, ReorgSignal.inconsistent, pending, held]
  rfl

/-- A process that remembers block a confirms it against a stored baseline that names block b. -/
theorem stale_memory_confirms_other_block :
    ((Verifier.mk 2).verifyObservation .new (storedText true (hexHash 'a') 7 1) (readsBlock (hexHash 'b') 1)).1.map
        (·.result) = .ok ⟨.pending, storedText true (hexHash 'b') 7 1, "", 1000⟩ ∧
      ¬ SuccessesGrounded (fun _ => ⟨2⟩) (fun _ => .new) handoffRun := by
  refine ⟨handoffRun_second, ?_⟩
  rintro ⟨_, _, third, _⟩
  -- the memory of the first process when the third pass starts
  have memory : VerifierStep.apply (fun _ => ⟨2⟩) (VerifierStep.apply (fun _ => ⟨2⟩) (fun _ => .new)
      (.verify false (storedText true (hexHash 'a') 7 1) (readsBlock (hexHash 'a') 1)))
      (.verify true (storedText true (hexHash 'a') 7 1) (readsBlock (hexHash 'b') 1)) false =
        ObservationTracker.next .new (samplePass (hexHash 'a') (hexHash 'a') 1) := by
    rw [VerifierStep.apply, Function.update_of_ne (by decide), VerifierStep.apply, Function.update_self,
      verifyObservation_sample hexHash_a hexHash_a]
  have remembered := ObservationTracker.next_remembers (t := .new) (by decide) (hexHash_ne_empty '1')
    (samplePass_isOf (hexHash 'a') (hexHash 'a') 1)
  rw [samplePass_merged hexHash_a] at remembered
  have repeated : compareReceiptObservations
      (ObservationTracker.comparedWith (ObservationTracker.next .new (samplePass (hexHash 'a') (hexHash 'a') 1))
        (samplePass (hexHash 'b') (hexHash 'a') 2)) (samplePass (hexHash 'b') (hexHash 'a') 2).current = .none := by
    rw [ObservationTracker.comparedWith_memory (samplePass_isOf _ _ _) remembered, samplePass_current hexHash_a]
    exact compare_repeated rfl rfl rfl (by decide) rfl
  obtain ⟨given, located, receipt, parsed, grounded⟩ := third false _ _ _ rfl
    (by rw [memory, verifyObservation_sample hexHash_b hexHash_a, repeated]; exact judge_sample) rfl
  rw [storedText_parse hexHash_b, Except.ok.injEq] at parsed
  have read : blockReceipt (hexHash 'a') 2 = receipt := Except.ok.inj grounded.read
  have agrees := grounded.agrees.hash
  rw [← parsed, storedReference_observation hexHash_b, ← read] at agrees
  have equal := agrees (hexHash_ne_empty 'b')
  rw [blockReceipt, hexHash_a.normal, hexHash_ne.1] at equal
  cases equal

end WizPay.Providers
