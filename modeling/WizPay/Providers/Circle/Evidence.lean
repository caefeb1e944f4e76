import WizPay.Providers.Circle.Adapter
import WizPay.Providers.Codec

/-!
# What the adapter's verdicts rest on

When `getStatus` ends an execution for good, the provider has shown that no transfer can
happen any more, unless a read came back as a refusal or the known hash was lost.
-/
namespace WizPay.Providers.Circle

open Checks GoText GoTime Exec WizPay.Runtime

variable {reference : Reference} {record : Transaction} {executionID : String} {authorization : UserAuthorization}

theorem Reference.validate_hash (valid : reference.validate = .ok ()) :
    reference.transactionHash = "" ∨ validTransactionHash reference.transactionHash = true := by
  simp only [Reference.validate, checks_ok, not_and, Bool.not_eq_false] at valid
  by_cases empty : reference.transactionHash = ""
  · exact .inl empty
  · exact .inr (valid.2.2.2.2.2.2.1 empty)

theorem latestReference_valid {records : Except Error (List Result)}
    (stored : latestReference records = .ok (some reference)) : reference.validate = .ok () := by
  unfold latestReference at stored
  split at stored
  next => cases stored
  next =>
    split at stored
    next => cases stored
    next encoded _ =>
      cases parsed : parseReference encoded with
      | error e => simp [parsed, Except.map] at stored
      | ok found =>
        simp only [parsed, Except.map, Except.ok.injEq, Option.some.injEq] at stored
        exact stored ▸ parseReference_valid parsed

theorem validTransactionHash_ne_empty {value : String} (valid : validTransactionHash value = true) : value ≠ "" := by
  rintro rfl
  exact absurd valid (by decide)

/-- The provider's report leaves a hash in the reference: a usable one, or the one known before. -/
def KeepsHash (reference : Reference) (record : Transaction) : Prop :=
  validTransactionHash (toLower record.txHash) = true ∨ (record.txHash = "" ∧ reference.transactionHash ≠ "")

theorem enriched_hash (valid : reference.validate = .ok ()) (kept : KeepsHash reference record) :
    (enriched reference record).transactionHash ≠ "" := by
  rcases kept with usable | ⟨silent, known⟩
  · have reported : toLower record.txHash ≠ "" := validTransactionHash_ne_empty usable
    simp only [enriched, Reference.withTransaction, reported, ne_eq, not_false_eq_true, if_true, toLower_idempotent,
      usable, Bool.true_eq_false, and_false, if_false]
  · have hash := (Reference.validate_hash valid).resolve_left known
    simp [enriched, Reference.withTransaction, silent, hash, known]

/-! ### Evidence -/

/-- Some observation stored so far carries an on-chain hash. -/
def HashKnown (records : Except Error (List Result)) : Prop :=
  ∃ values, records = .ok values ∧ ∃ result ∈ values, ∃ reference,
    parseReference result.adapterReference = .ok reference ∧ reference.transactionHash ≠ ""

/-- The states in which the provider has given a transaction up. -/
def TransactionState.rejected : TransactionState → Bool
  | .failed | .denied | .cancelled => true
  | _ => false

/-- The pass has shown that no transfer can happen any more. -/
inductive NoTransfer (executionID : String) (p : StatusPass) : Prop
  | transaction (reference : Reference) (authorization : UserAuthorization) (record : Transaction)
      (stored : latestReference p.records = .ok (some reference))
      (found : lookupTransaction executionID authorization reference p.transactions = .ok (some record))
      (rejected : record.state.rejected = true)
      (unknown : ¬ HashKnown p.records) (unreported : validTransactionHash (toLower record.txHash) = false)
  | challenge (reference : Reference) (authorization : UserAuthorization) (record : Challenge)
      (stored : latestReference p.records = .ok (some reference))
      (found : findChallenge authorization reference.challengeID p.challenges = .ok (some record))
      (ended : record.status = .failed ∨ record.status = .expired)

/-- No read of the pass came back as a refusal, and the report on a rejected transaction does not
lose a hash that was known. -/
def Trusted (executionID : String) (p : StatusPass) : Prop :=
  ∀ reference authorization, latestReference p.records = .ok (some reference) →
    p.authorization = .ok (some authorization) →
    ¬ p.transactions.Refused ∧
      (lookupTransaction executionID authorization reference p.transactions = .ok none → ¬ p.challenges.Refused) ∧
      ∀ record, lookupTransaction executionID authorization reference p.transactions = .ok (some record) →
        record.state.rejected = true → HashKnown p.records → KeepsHash reference record

/-! ### The reads -/

variable {exchange : Exchange}

theorem lookupTransaction_ok
    (found : lookupTransaction executionID authorization reference exchange = .ok (some record)) :
    ∃ body, performRequest authorization false exchange = .ok body ∧ (body.transaction = some record ∨
      ∃ records, body.transactions = some records ∧ record ∈ records) := by
  unfold lookupTransaction at found
  split at found
  next =>
    cases answered : getTransaction authorization reference.providerTransactionID exchange with
    | error e => simp [answered, Except.map] at found
    | ok record' =>
      simp only [answered, Except.map, Except.ok.injEq, Option.some.injEq] at found
      subst found
      obtain ⟨body, read, present⟩ := getTransaction_ok answered
      exact ⟨body, read, .inl present⟩
  next =>
    obtain ⟨body, records, read, present, member⟩ := findTransactionByRef_ok found
    exact ⟨body, read, .inr ⟨records, present, member⟩⟩

theorem getTransaction_condemns {transactionID : String} : FailsWith (fun e => e.condemns = true → exchange.Refused)
    (getTransaction authorization transactionID exchange) := by
  unfold getTransaction
  split
  next => exact .error nofun
  next =>
    -- a body that cannot be used is ambiguous
    refine .bind performRequest_condemns fun body _ => ?_
    split
    next => split <;> first | exact .ok | exact .error nofun
    next => exact .error nofun

theorem findTransactionByRef_condemns {walletID refID : String} :
    FailsWith (fun e => e.condemns = true → exchange.Refused)
      (findTransactionByRef authorization walletID refID exchange) := by
  unfold findTransactionByRef
  split
  next => exact .error nofun
  next =>
    refine .bind performRequest_condemns fun body _ => ?_
    split <;> first | exact .ok | exact .error nofun

theorem lookupTransaction_condemns : FailsWith (fun e => e.condemns = true → exchange.Refused)
    (lookupTransaction executionID authorization reference exchange) := by
  unfold lookupTransaction
  split
  next =>
    intro e failed condemned
    cases answered : getTransaction authorization reference.providerTransactionID exchange with
    | error e' =>
      rw [answered] at failed
      cases failed
      exact getTransaction_condemns _ answered condemned
    | ok record =>
      rw [answered] at failed
      cases failed
  next => exact findTransactionByRef_condemns

theorem findChallenge_condemns {challengeID : String} : FailsWith (fun e => e.condemns = true → exchange.Refused)
    (findChallenge authorization challengeID exchange) := by
  unfold findChallenge
  split
  next => exact .error nofun
  next =>
    refine .bind performRequest_condemns fun body _ => ?_
    split <;> first | exact .ok | exact .error nofun

/-! ### The verdicts -/

theorem outcome_condemning {value : Outcome} {now : Int} (condemned : Condemning (outcome executionID value now)) :
    value.classification.terminal = true := by
  unfold outcome at condemned
  have terminal := Outcome.adapterResult_condemning condemned
  exact terminal

theorem classifyResolution_condemns {state : TransactionState}
    (condemned : (classifyResolution reference state).1.terminal = true) :
    state.rejected = true ∧ reference.transactionHash = "" := by
  unfold classifyResolution at condemned
  cases state with
  | failed | denied | cancelled =>
    refine ⟨rfl, ?_⟩
    by_contra known
    simp [classifyTransactionState, known] at condemned
    cases condemned
  | _ => cases condemned

theorem challengeOutcome_condemns {observedAt : Int}
    (condemned : (challengeOutcome authorization reference exchange observedAt).classification.terminal = true) :
    exchange.Refused ∨ ∃ record, findChallenge authorization reference.challengeID exchange = .ok (some record) ∧
      (record.status = .failed ∨ record.status = .expired) := by
  unfold challengeOutcome at condemned
  dsimp only at condemned
  split at condemned
  next => cases condemned
  next =>
    split at condemned
    next e failed => exact .inl (findChallenge_condemns _ failed condemned)
    next => cases condemned
    next record found =>
      refine .inr ⟨record, found, ?_⟩
      cases status : record.status with
      | failed => exact .inl rfl
      | expired => exact .inr rfl
      | _ =>
        rw [status] at condemned
        cases condemned

variable {a : Adapter} {p : StatusPass}

/-- One reconciliation of a known reference. -/
theorem Adapter.reconcile_condemns (stored : latestReference p.records = .ok (some reference))
    (authorized : p.authorization = .ok (some authorization)) (trusted : Trusted executionID p)
    (condemned : (a.reconcile executionID authorization reference p).classification.terminal = true) :
    NoTransfer executionID p := by
  obtain ⟨transactions, challenges, hash⟩ := trusted reference authorization stored authorized
  unfold Adapter.reconcile Adapter.resolveTransaction at condemned
  cases found : lookupTransaction executionID authorization reference p.transactions with
  | error e =>
    rw [found] at condemned
    exact absurd (lookupTransaction_condemns _ found condemned) transactions
  | ok lookup =>
    rw [found] at condemned
    cases lookup with
    | none =>
      rcases challengeOutcome_condemns condemned with refused | ⟨record, listed, ended⟩
      · exact absurd refused (challenges found)
      · exact .challenge reference authorization record stored listed ended
    | some record =>
      -- a transaction on another chain or wallet is only ambiguous
      dsimp only [bind, Except.bind, Adapter.applyTransaction] at condemned
      split_ifs at condemned
      · cases condemned
      · cases condemned
      · obtain ⟨rejected, lost⟩ := classifyResolution_condemns condemned
        have valid := latestReference_valid stored
        have unkept : ¬ KeepsHash reference record := fun kept => enriched_hash valid kept lost
        refine .transaction reference authorization record stored found rejected
          (fun known => unkept (hash record found rejected known)) ?_
        rw [Bool.eq_false_iff]
        exact fun usable => unkept (.inl usable)

/-- A trusted reconciliation ends an execution only on evidence that no transfer can happen. -/
theorem Adapter.getStatus_condemning (trusted : Trusted executionID p)
    (condemned : Condemning (a.getStatus executionID p)) : NoTransfer executionID p := by
  unfold Adapter.getStatus at condemned
  split at condemned
  next => cases outcome_condemning condemned
  next => cases outcome_condemning condemned
  next reference stored =>
    split at condemned
    next authorization authorized => exact reconcile_condemns stored authorized trusted (outcome_condemning condemned)
    next => cases outcome_condemning condemned

theorem providerRequest_sends {plan : Plan} {key : String} {authorization : UserAuthorization} {pass : SubmitPass}
    (condemned : Condemning (submit executionID plan key authorization pass).answer) :
    (submit executionID plan key authorization pass).sent = none := by
  unfold submit at condemned ⊢
  split at condemned
  next => rfl
  next request built =>
    simp only at condemned ⊢
    cases created : createChallenge authorization pass.exchange with
    | error e =>
      rw [created] at condemned
      have kept : pass.exchange.left = false := createChallenge_condemns _ created (outcome_condemning condemned)
      simp [kept]
    | ok challengeID =>
      rw [created] at condemned
      cases outcome_condemning condemned

/-- `Execute` ends an execution only when no provider request has left the process. -/
theorem Adapter.execute_condemning {request : Request} {pass : SubmitPass}
    (condemned : Condemning (a.execute request pass).answer) : (a.execute request pass).sent = none := by
  unfold Adapter.execute at condemned ⊢
  dsimp only at condemned ⊢
  split
  next => rfl
  next plan planned =>
    rw [planned] at condemned
    dsimp only at condemned
    split
    next => rfl
    next validated =>
      rw [validated] at condemned
      dsimp only at condemned
      split
      next => rfl
      next fresh =>
        rw [if_neg fresh] at condemned
        split
        next => rfl
        next key derived =>
          rw [derived] at condemned
          dsimp only at condemned
          split
          next authorization authorized =>
            rw [authorized] at condemned
            exact providerRequest_sends condemned
          next => rfl

end WizPay.Providers.Circle
