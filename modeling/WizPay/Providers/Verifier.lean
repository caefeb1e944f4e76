import WizPay.Providers.Classification

/-!
# On-chain verification

`internal/providers/verifier.go` and the composition of `wiring/verifier.go`, as a
function of the verifier's memory and of a pass: what the resolver, the chain, the typed
domain verifier and the clock answered meanwhile.
-/
namespace WizPay.Providers

open Checks GoText GoTime Exec Storage

/-- What answered the verifier during one `VerifyObservation`. -/
structure VerifyPass where
  /-- the resolver's answer, asked for when no hash is known -/
  resolved : Except Error Reference
  receipt : Except Error Receipt
  now : Int

structure VerificationObservation where
  result : VerificationResult
  reference : Reference
  /-- the receipt that was read; without one `HasReceipt` is false -/
  receipt : Option Receipt
  finalSuccess : Bool
deriving DecidableEq

/-- `resolveHash`: the resolver may add identifiers to the reference and change none. -/
def resolveHash (reference : Reference) (resolved : Except Error Reference) : Except Error Reference :=
  if reference.transactionHash ≠ "" then .ok reference
  else
    match resolved with
    | .error _ => .error (.verification "PROVIDER_RECONCILIATION_UNAVAILABLE")
    | .ok found => do
      rejectIf (found.provider ≠ reference.provider ∨ found.chainID ≠ reference.chainID)
        (.text "resolved provider reference changed provider identity")
      rejectIf (reference.providerTransactionID ≠ "" ∧ found.providerTransactionID ≠ reference.providerTransactionID)
        (.text "resolved provider reference changed the provider transaction")
      found.validate
      pure found

/-- A receipt of unknown status names no transaction and is not compared. -/
def ensureReceiptMatches (reference : Reference) (receipt : Receipt) : Except Error Unit :=
  checkIf (receipt.status ≠ .unknown) do
    rejectIf (receipt.chainID ≠ reference.chainID) (.text "receipt chain does not match the provider reference")
    rejectIf (equalFold receipt.transactionHash reference.transactionHash = false)
      (.text "receipt transaction does not match the provider reference")

def pending (reference : Reference) (now : Int) : Except Error VerificationResult := do
  let encoded ← reference.encode
  pure ⟨.pending, encoded, "", now⟩

/-- The chain returned inclusion metadata or a terminal status. -/
def receiptPresent (receipt : Receipt) : Bool :=
  receipt.blockNumber ≠ 0 || receipt.blockHash ≠ "" || receipt.status = .success || receipt.status = .reverted

/-- The observation of this pass, under the identity of the reference. -/
def currentObservation (reference : Reference) (receipt : Receipt) : ReceiptObservation :=
  { observationFromReceipt receipt (receiptPresent receipt) with
    chainID := reference.chainID, transactionHash := reference.transactionHash }

structure Verifier where
  minConfirmations : UInt64
deriving DecidableEq

/-- The verdict on a receipt, once it has been compared with the baseline. -/
def Verifier.judge (v : Verifier) (reference : Reference) (receipt : Receipt) (signal : ReorgSignal) (now : Int) :
    Except Error VerificationObservation :=
  let hold : Except Error VerificationObservation := do
    let result ← pending reference now
    pure ⟨result, reference, some receipt, false⟩
  let conclude (classification : Classification) (reasonCode : String) : Except Error VerificationObservation := do
    let result ← (Outcome.mk classification reasonCode (some reference) now).verificationResult
    pure ⟨result, reference, some receipt, receipt.status = .success⟩
  if signal.inconsistent = true ∨ receipt.status = .reorgInconsistent then hold
  else
    match receipt.status with
    | .success => if receipt.confirmations < v.minConfirmations then hold else conclude .verifiedSuccess ""
    | .reverted => conclude .confirmedOnchainFailed "ONCHAIN_EXECUTION_REVERTED"
    | _ => hold

/-- `VerifyObservation`. -/
def Verifier.verifyObservation (v : Verifier) (t : ObservationTracker) (encoded : String) (p : VerifyPass) :
    Except Error VerificationObservation × ObservationTracker :=
  match (do resolveHash (← parseReference encoded) p.resolved : Except Error Reference) with
  | .error e => (.error e, t)
  | .ok reference =>
    if reference.transactionHash = "" then
      ((pending reference p.now).map fun result => ⟨result, reference, none, false⟩, t)
    else
      match p.receipt with
      | .error _ => (.error (.verification "CHAIN_VERIFICATION_UNAVAILABLE"), t)
      | .ok receipt =>
        match ensureReceiptMatches reference receipt with
        | .error e => (.error e, t)
        | .ok () =>
          let (signal, merged, memory) :=
            t.evaluate reference.receiptObservation (currentObservation reference receipt)
          -- the merged observation always goes into the reference that is persisted
          (v.judge (reference.withReceiptObservation merged) receipt signal p.now, memory)

/-- `ComposedVerifier.Verify`: only a final success reaches the typed domain verifier, whose verdict
on that receipt is `domain`. -/
def Verifier.verify (v : Verifier) (t : ObservationTracker) (encoded : String) (p : VerifyPass)
    (domain : VerificationObservation → Except Error VerificationResult) :
    Except Error VerificationResult × ObservationTracker :=
  match v.verifyObservation t encoded p with
  | (.error e, memory) => (.error e, memory)
  | (.ok observation, memory) =>
    (if observation.finalSuccess then domain observation else .ok observation.result, memory)

/-! ### What a verdict rests on -/

variable {v : Verifier} {t : ObservationTracker} {encoded : String} {p : VerifyPass} {reference : Reference}
  {receipt : Receipt} {signal : ReorgSignal} {now : Int} {observation : VerificationObservation}

theorem pending_outcome {result : VerificationResult} (held : pending reference now = .ok result) :
    result.outcome = .pending := by
  simp only [pending, bind_ok, pure_ok] at held
  obtain ⟨_, _, rfl⟩ := held
  rfl

/-- A verdict that is not pending names the receipt that was read, on its chain outcome. -/
theorem Verifier.judge_ok (judged : v.judge reference receipt signal now = .ok observation) :
    observation.receipt = some receipt ∧ observation.reference = reference ∧
      (observation.result.outcome = .pending ∧ observation.finalSuccess = false ∨
        signal = .none ∧ receipt.status = .success ∧ v.minConfirmations ≤ receipt.confirmations ∧
          observation.finalSuccess = true ∨
        signal = .none ∧ receipt.status = .reverted ∧ observation.finalSuccess = false) := by
  have consistent (quiet : ¬ (signal.inconsistent = true ∨ receipt.status = .reorgInconsistent)) : signal = .none := by
    by_contra other
    exact quiet (.inl (by simp [ReorgSignal.inconsistent, other]))
  have held (hold : (do
      let result ← pending reference now
      pure ⟨result, reference, some receipt, false⟩ : Except Error VerificationObservation) = .ok observation) :
      observation.receipt = some receipt ∧ observation.reference = reference ∧
        observation.result.outcome = .pending ∧ observation.finalSuccess = false := by
    simp only [bind_ok, pure_ok] at hold
    obtain ⟨result, pended, rfl⟩ := hold
    exact ⟨rfl, rfl, pending_outcome pended, rfl⟩
  unfold Verifier.judge at judged
  dsimp only at judged
  split at judged
  next =>
    obtain ⟨read, same, rest⟩ := held judged
    exact ⟨read, same, .inl rest⟩
  next quiet =>
    split at judged
    next succeeded =>
      split at judged
      next =>
        obtain ⟨read, same, rest⟩ := held judged
        exact ⟨read, same, .inl rest⟩
      next deep =>
        simp only [bind_ok, pure_ok] at judged
        obtain ⟨result, _, rfl⟩ := judged
        exact ⟨rfl, rfl, .inr (.inl ⟨consistent quiet, succeeded, UInt64.not_lt.mp deep, by simp [succeeded]⟩)⟩
    next reverted =>
      simp only [bind_ok, pure_ok] at judged
      obtain ⟨result, _, rfl⟩ := judged
      exact ⟨rfl, rfl, .inr (.inr ⟨consistent quiet, reverted, by simp [reverted]⟩)⟩
    next =>
      obtain ⟨read, same, rest⟩ := held judged
      exact ⟨read, same, .inl rest⟩

/-- An observation without a receipt is pending; any other is a judgement of the receipt that was read. -/
theorem Verifier.verifyObservation_ok (verified : (v.verifyObservation t encoded p).1 = .ok observation) :
    observation.result.outcome = .pending ∧ observation.finalSuccess = false ∨
      ∃ reference receipt, (do resolveHash (← parseReference encoded) p.resolved : Except Error Reference) =
          .ok reference ∧ reference.transactionHash ≠ "" ∧ p.receipt = .ok receipt ∧
        ensureReceiptMatches reference receipt = .ok () ∧
        v.judge (reference.withReceiptObservation
            (t.evaluate reference.receiptObservation (currentObservation reference receipt)).2.1) receipt
          (t.evaluate reference.receiptObservation (currentObservation reference receipt)).1 p.now =
            .ok observation := by
  unfold Verifier.verifyObservation at verified
  split at verified
  next => cases verified
  next reference located =>
    split at verified
    next hashless =>
      cases held : pending reference p.now with
      | error e => simp [held, Except.map] at verified
      | ok result =>
        simp only [held, Except.map, Except.ok.injEq] at verified
        subst verified
        exact .inl ⟨pending_outcome held, rfl⟩
    next hash =>
      split at verified
      next => cases verified
      next receipt read =>
        split at verified
        next => cases verified
        next matched => exact .inr ⟨reference, receipt, located, hash, read, matched, verified⟩

/-- A pass that reads a receipt of the transaction judges it. -/
theorem Verifier.verifyObservation_located (parsed : parseReference encoded = .ok reference)
    (hash : reference.transactionHash ≠ "") (read : p.receipt = .ok receipt)
    (matched : ensureReceiptMatches reference receipt = .ok ()) :
    v.verifyObservation t encoded p =
      (v.judge (reference.withReceiptObservation
          (t.evaluate reference.receiptObservation (currentObservation reference receipt)).2.1) receipt
        (t.evaluate reference.receiptObservation (currentObservation reference receipt)).1 p.now,
      (t.evaluate reference.receiptObservation (currentObservation reference receipt)).2.2) := by
  have located : (do resolveHash (← parseReference encoded) p.resolved : Except Error Reference) = .ok reference := by
    rw [parsed]
    exact if_pos hash
  rw [Verifier.verifyObservation, located]
  simp only [if_neg hash, read, matched]

/-- A confirmed, consistent success is final once its reference encodes. -/
theorem Verifier.judge_success {text : String} (succeeded : receipt.status = .success)
    (deep : v.minConfirmations ≤ receipt.confirmations) (observed : now ≠ 0) (encodes : reference.encode = .ok text)
    (valid : reference.validate = .ok ()) :
    v.judge reference receipt .none now = .ok ⟨⟨.verified, text, "", now⟩, reference, some receipt, true⟩ := by
  have concluded : (Outcome.mk .verifiedSuccess "" (some reference) now).verificationResult =
      .ok ⟨.verified, text, "", now⟩ := by
    have zero : isZero now = false := by simp [isZero, observed]
    simp [Outcome.verificationResult, Outcome.validate, Outcome.validateKind, Outcome.encodedReference, zero, valid,
      encodes]
  have shallow : ¬ receipt.confirmations < v.minConfirmations := UInt64.not_lt.mpr deep
  simp only [Verifier.judge, ReorgSignal.inconsistent, succeeded, concluded, if_neg shallow]
  rfl

/-- The pass has read a receipt of the transaction that the reference names, with its on-chain outcome. -/
def OnChain (encoded : String) (p : VerifyPass) : Prop :=
  ∃ reference receipt, (do resolveHash (← parseReference encoded) p.resolved : Except Error Reference) =
      .ok reference ∧ p.receipt = .ok receipt ∧ ensureReceiptMatches reference receipt = .ok () ∧
    (receipt.status = .success ∨ receipt.status = .reverted)

/-- A failure is reported on an on-chain receipt only, whatever the domain verifiers say. -/
theorem Verifier.verify_failed {domain : VerificationObservation → Except Error VerificationResult}
    {result : VerificationResult} (verified : (v.verify t encoded p domain).1 = .ok result)
    (failed : result.outcome = .failed) : OnChain encoded p := by
  unfold Verifier.verify at verified
  split at verified
  next => cases verified
  next observation memory observed =>
    have generic : (v.verifyObservation t encoded p).1 = .ok observation := by rw [observed]
    rcases Verifier.verifyObservation_ok generic with ⟨held, unfinished⟩ | ⟨reference, receipt, located, _, read,
      matched, judged⟩
    · simp only [unfinished, Bool.false_eq_true, if_false, Except.ok.injEq] at verified
      rw [verified, failed] at held
      cases held
    · refine ⟨reference, receipt, located, read, matched, ?_⟩
      rcases (Verifier.judge_ok judged).2.2 with ⟨held, unfinished⟩ | ⟨_, succeeded, _⟩ | ⟨_, reverted, _⟩
      · simp only [unfinished, Bool.false_eq_true, if_false, Except.ok.injEq] at verified
        rw [verified, failed] at held
        cases held
      · exact .inl succeeded
      · exact .inr reverted

end WizPay.Providers
