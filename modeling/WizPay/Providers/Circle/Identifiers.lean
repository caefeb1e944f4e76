import WizPay.Providers.Circle.Evidence
import WizPay.Providers.Divergence
import WizPay.Providers.Space

/-!
# What reconciliation does to known identifiers

The verifier refuses a resolver that replaces an identifier; `GetStatus` has no such
guard.
-/
namespace WizPay.Providers.Circle

open Checks GoText GoTime Exec

/-- Every identifier that was known is unchanged. -/
structure KeepsIdentifiers (known produced : Reference) : Prop where
  provider : produced.provider = known.provider
  chainID : produced.chainID = known.chainID
  walletID : known.walletID ≠ "" → produced.walletID = known.walletID
  challengeID : known.challengeID ≠ "" → produced.challengeID = known.challengeID
  providerTransactionID : known.providerTransactionID ≠ "" → produced.providerTransactionID = known.providerTransactionID
  transactionHash : known.transactionHash ≠ "" → produced.transactionHash = known.transactionHash

theorem KeepsIdentifiers.refl (r : Reference) : KeepsIdentifiers r r :=
  ⟨rfl, rfl, fun _ => rfl, fun _ => rfl, fun _ => rfl, fun _ => rfl⟩

/-- The record names the known transaction, and no other hash than the known one. -/
structure Agrees (known : Reference) (record : Transaction) : Prop where
  id : known.providerTransactionID ≠ "" → record.id = known.providerTransactionID
  txHash : known.transactionHash ≠ "" → record.txHash = "" ∨ toLower record.txHash = known.transactionHash

variable {a : Adapter} {executionID : String} {authorization : UserAuthorization} {reference : Reference}
  {record : Transaction} {exchange : Exchange} {resolution : Resolution} {p : StatusPass} {result : Result}

/-! ### One record -/

variable {text hash : String}

theorem toLower_eq_empty : toLower text = "" ↔ text = "" := by
  rw [toLower, String.ofList_eq_empty_iff, List.map_eq_nil_iff, String.toList_eq_nil_iff]

/-- A record touches the transaction's identifiers only. -/
theorem enriched_others (reference : Reference) (record : Transaction) :
    (enriched reference record).provider = reference.provider ∧
      (enriched reference record).chainID = reference.chainID ∧
      (enriched reference record).walletID = reference.walletID ∧
      (enriched reference record).challengeID = reference.challengeID ∧
      (enriched reference record).providerTransactionID =
        (if record.id ≠ "" then record.id else reference.providerTransactionID) := by
  unfold enriched
  dsimp only
  split <;> exact ⟨rfl, rfl, rfl, rfl, rfl⟩

/-- The hash that the merge leaves: the reported one, or the known one if none is reported. -/
theorem enriched_transactionHash (reference : Reference) (record : Transaction) :
    (enriched reference record).transactionHash =
      (let hash := if record.txHash ≠ "" then toLower record.txHash else reference.transactionHash
      if hash ≠ "" ∧ validTransactionHash hash = false then "" else hash) := by
  have merged : (reference.withTransaction record.id (toLower record.txHash)).transactionHash =
      if record.txHash ≠ "" then toLower record.txHash else reference.transactionHash := by
    simp only [Reference.withTransaction, ne_eq, toLower_eq_empty, toLower_idempotent]
  rw [← merged]
  unfold enriched
  dsimp only
  split <;> rfl

/-- A record whose transaction has an ID keeps the identifiers exactly if it agrees with them. -/
theorem keeps_enriched_iff (valid : reference.validate = .ok ())
    (named : reference.providerTransactionID ≠ "" → record.id ≠ "") :
    KeepsIdentifiers reference (enriched reference record) ↔ Agrees reference record := by
  obtain ⟨provider, chain, wallet, challenge, transaction⟩ := enriched_others reference record
  have hash := enriched_transactionHash reference record
  constructor
  · intro keeps
    constructor
    · intro known
      have same := keeps.providerTransactionID known
      rw [transaction, if_pos (named known)] at same
      exact same
    · intro known
      by_cases silent : record.txHash = ""
      · exact .inl silent
      · right
        have same := keeps.transactionHash known
        rw [hash] at same
        simp only [ne_eq, silent, not_false_eq_true, if_true] at same
        split at same
        next => exact absurd same.symm known
        next => exact same
  · intro agrees
    refine ⟨provider, chain, fun _ => wallet, fun _ => challenge, fun known => ?_, fun known => ?_⟩
    · rw [transaction, if_pos (named known)]
      exact agrees.id known
    · have usable := (Reference.validate_hash valid).resolve_left known
      have reported : (if record.txHash ≠ "" then toLower record.txHash else reference.transactionHash) =
          reference.transactionHash := by
        rcases agrees.txHash known with silent | same
        · rw [if_neg (not_not.mpr silent)]
        · rw [same, ite_self]
      rw [hash, reported]
      simp [usable]

/-! ### One read -/

/-- A transaction that is asked for by its ID comes back with an ID. -/
theorem lookupTransaction_named (found : lookupTransaction executionID authorization reference exchange = .ok (some record))
    (known : reference.providerTransactionID ≠ "") : record.id ≠ "" := by
  rw [lookupTransaction, if_pos known] at found
  cases answered : getTransaction authorization reference.providerTransactionID exchange with
  | error e => simp [answered, Except.map] at found
  | ok answer =>
    simp only [answered, Except.map, Except.ok.injEq, Option.some.injEq] at found
    subst found
    unfold getTransaction at answered
    rw [if_neg known, bind_ok] at answered
    obtain ⟨body, _, read⟩ := answered
    split at read
    next =>
      split at read
      next => cases read
      next some =>
        cases read
        exact some
    next => cases read

theorem Adapter.applyTransaction_ok (applied : a.applyTransaction reference record = .ok resolution) :
    resolution = ⟨enriched reference record, some record.state⟩ := by
  unfold Adapter.applyTransaction at applied
  split at applied
  next => cases applied
  next =>
    split at applied
    next => cases applied
    next =>
      cases applied
      rfl

/-- The read found a record and the adapter accepted it. -/
def Applies (a : Adapter) (executionID : String) (authorization : UserAuthorization) (reference : Reference)
    (exchange : Exchange) (record : Transaction) : Prop :=
  lookupTransaction executionID authorization reference exchange = .ok (some record) ∧
    a.applyTransaction reference record = .ok ⟨enriched reference record, some record.state⟩

theorem Adapter.resolveTransaction_ok
    (resolved : a.resolveTransaction executionID authorization reference exchange = .ok resolution) :
    resolution.reference = reference ∨ ∃ record, Applies a executionID authorization reference exchange record ∧
      resolution.reference = enriched reference record := by
  unfold Adapter.resolveTransaction at resolved
  rw [bind_ok] at resolved
  obtain ⟨lookup, found, applied⟩ := resolved
  cases lookup with
  | none =>
    cases applied
    exact .inl rfl
  | some record =>
    have merged := Adapter.applyTransaction_ok applied
    refine .inr ⟨record, ⟨found, ?_⟩, by rw [merged]⟩
    rw [← merged]
    exact applied

/-- The verifier takes a resolved reference only if the known identifiers are in it. -/
theorem resolveHash_keeps {answer : Except Error (Option UserAuthorization)} {found produced : Reference}
    (resolved : a.resolveReference executionID answer reference exchange = .ok found)
    (taken : resolveHash reference (.ok found) = .ok produced) : KeepsIdentifiers reference produced := by
  unfold resolveHash at taken
  split at taken
  next =>
    cases taken
    exact .refl _
  next hashless =>
    simp only [bind_ok, rejectIf_ok, pure_ok] at taken
    obtain ⟨_, same, _, unreplaced, _, _, rfl⟩ := taken
    rw [not_or, not_not, not_not] at same
    rw [not_and, not_not] at unreplaced
    rw [ne_eq, not_not] at hashless
    have others : found.walletID = reference.walletID ∧ found.challengeID = reference.challengeID := by
      unfold Adapter.resolveReference at resolved
      split at resolved
      next =>
        rw [map_ok] at resolved
        obtain ⟨resolution, ran, rfl⟩ := resolved
        rcases Adapter.resolveTransaction_ok ran with unchanged | ⟨record, _, merged⟩
        · rw [unchanged]
          exact ⟨rfl, rfl⟩
        · obtain ⟨_, _, wallet, challenge, _⟩ := enriched_others reference record
          rw [merged]
          exact ⟨wallet, challenge⟩
      next => cases resolved
    exact ⟨same.1, same.2, fun _ => others.1, fun _ => others.2, unreplaced, fun known => absurd hashless known⟩

/-! ### One status pass -/

theorem newResult_reference {params : Result} (built : newResult params = .ok result) :
    result.adapterReference = trimSpace params.adapterReference := by
  simp only [newResult, bind_ok, pure_ok] at built
  obtain ⟨_, _, rfl⟩ := built
  rfl

theorem report_reference {o : Outcome} (reported : o.report executionID text = .ok result) :
    result.adapterReference = trimSpace text := by
  unfold Outcome.report at reported
  cases kind : o.classification <;> rw [kind] at reported <;> dsimp only at reported
  case preSubmissionValidationFailure => cases reported
  case permanentProviderRejection => cases reported
  case transientProviderError => cases reported
  all_goals
    have carried := newResult_reference reported
    exact carried

/-- The text in an adapter result is the encoding of the outcome's reference. -/
theorem outcome_reference {value : Outcome} {now : Int} (known : value.reference = some reference)
    (reported : outcome executionID value now = .ok result) : reference.encode = .ok result.adapterReference := by
  unfold outcome Outcome.adapterResult Outcome.encodedReference at reported
  simp only [known, bind_ok] at reported
  obtain ⟨_, _, text, encoded, reported⟩ := reported
  have clean : trimSpace text = text :=
    (validateBoundedText_ok.mp (Reference.validateAdapterReference_encode encoded)).2.1
  rw [report_reference reported, clean, encoded]

theorem outcome_submitted {observedAt now : Int} (valid : reference.validate = .ok ())
    (encoded : reference.encode = .ok text) (observed : observedAt ≠ 0)
    (identifier : trimSpace executionID = executionID)
    (identified : validateExecutionText "result execution ID" executionID = .ok ()) :
    outcome executionID ⟨.submittedPending, "", some reference, observedAt⟩ now =
      .ok ⟨executionID, requestVersion, .submitted, text, "", observedAt⟩ := by
  have accepted := Reference.validateAdapterReference_encode encoded
  obtain ⟨nonempty, clean, _⟩ := validateBoundedText_ok.mp accepted
  have zero : isZero observedAt = false := by simp [isZero, observed]
  have checked : (Result.mk executionID requestVersion .submitted text "" observedAt).Valid :=
    ⟨identified, (by decide : requestVersion ≠ 0), observed, .inl ⟨(rfl : Result.isSuccess .submitted = true), nonempty, rfl⟩,
      fun _ => accepted, fun blank => absurd rfl blank⟩
  have validated : (Outcome.mk .submittedPending "" (some reference) observedAt).validate = .ok () := by
    simp [Outcome.validate, Outcome.validateKind, zero, valid]
  have built : newResult (Result.mk executionID requestVersion .submitted text "" observedAt) =
      .ok (Result.mk executionID requestVersion .submitted text "" observedAt) := by
    simp only [newResult, Result.trimmed, identifier, clean, trimSpace_empty, guard_ok, pure_ok, and_true]
    exact Result.validate_ok.mpr checked
  have reported : (Outcome.mk .submittedPending "" (some reference) observedAt).report executionID text =
      newResult (Result.mk executionID requestVersion .submitted text "" observedAt) := rfl
  simp only [outcome, zero, Bool.false_eq_true, if_false, Outcome.adapterResult, bind_ok]
  exact ⟨(), validated, text, encoded, reported.trans built⟩

/-- What a status pass makes of the reference. -/
def Adapter.reconciled (a : Adapter) (executionID : String) (authorization : UserAuthorization) (reference : Reference)
    (exchange : Exchange) : Reference :=
  match a.resolveTransaction executionID authorization reference exchange with
  | .error _ => reference
  | .ok resolution => resolution.reference

theorem challengeOutcome_reference {observedAt : Int} :
    (challengeOutcome authorization reference exchange observedAt).reference = some reference := by
  unfold challengeOutcome
  dsimp only
  split
  next => rfl
  next =>
    split
    next => rfl
    next => rfl
    next => split <;> rfl

theorem Adapter.reconcile_reference :
    (a.reconcile executionID authorization reference p).reference =
      some (a.reconciled executionID authorization reference p.transactions) := by
  unfold Adapter.reconcile Adapter.reconciled
  cases a.resolveTransaction executionID authorization reference p.transactions with
  | error e => rfl
  | ok resolution =>
    obtain ⟨found, state⟩ := resolution
    cases state with
    | none => exact challengeOutcome_reference
    | some state => rfl

/-- A status pass that answers has written either the stored reference or the reconciled one. -/
theorem Adapter.getStatus_reference (stored : latestReference p.records = .ok (some reference))
    (answered : a.getStatus executionID p = .ok result) :
    (∃ authorization, p.authorization = .ok (some authorization) ∧
      (a.reconciled executionID authorization reference p.transactions).encode = .ok result.adapterReference) ∨
    (∀ authorization, p.authorization ≠ .ok (some authorization)) ∧ reference.encode = .ok result.adapterReference := by
  unfold Adapter.getStatus at answered
  rw [stored] at answered
  dsimp only at answered
  split at answered
  next authorization authorized =>
    exact .inl ⟨authorization, authorized, outcome_reference Adapter.reconcile_reference answered⟩
  next absent => exact .inr ⟨absent, outcome_reference rfl answered⟩

/-- Encoding and reading back does not change an identifier. -/
theorem keeps_parsed_iff {known produced : Reference} (encoded : produced.encode = .ok text) :
    (∃ parsed, parseReference text = .ok parsed ∧ KeepsIdentifiers known parsed) ↔ KeepsIdentifiers known produced := by
  have read := Reference.parse_encode encoded
  constructor
  · rintro ⟨parsed, same, keeps⟩
    rw [read, Except.ok.injEq] at same
    rw [← same] at keeps
    exact ⟨keeps.provider, keeps.chainID, keeps.walletID, keeps.challengeID, keeps.providerTransactionID,
      keeps.transactionHash⟩
  · intro keeps
    exact ⟨_, read, keeps.provider, keeps.chainID, keeps.walletID, keeps.challengeID, keeps.providerTransactionID,
      keeps.transactionHash⟩

theorem keeps_reconciled_iff (valid : reference.validate = .ok ()) :
    KeepsIdentifiers reference (a.reconciled executionID authorization reference exchange) ↔
      ∀ record, Applies a executionID authorization reference exchange record → Agrees reference record := by
  have named (record : Transaction) (applies : Applies a executionID authorization reference exchange record) :
      reference.providerTransactionID ≠ "" → record.id ≠ "" := lookupTransaction_named applies.1
  constructor
  · intro keeps record applies
    have resolved : a.resolveTransaction executionID authorization reference exchange =
        .ok ⟨enriched reference record, some record.state⟩ := by
      rw [Adapter.resolveTransaction, applies.1]
      exact applies.2
    rw [Adapter.reconciled, resolved] at keeps
    exact (keeps_enriched_iff valid (named record applies)).mp keeps
  · intro agrees
    unfold Adapter.reconciled
    cases resolved : a.resolveTransaction executionID authorization reference exchange with
    | error e => exact .refl _
    | ok resolution =>
      dsimp only
      rcases Adapter.resolveTransaction_ok resolved with unchanged | ⟨record, applies, merged⟩
      · exact unchanged ▸ .refl _
      · rw [merged]
        exact (keeps_enriched_iff valid (named record applies)).mpr (agrees record applies)

/-- A verification pass keeps the identifiers whatever the provider answers; a status pass that stores its answer keeps
them exactly if the record it has read agrees with them. -/
theorem reconciliation_keeps_iff (stored : latestReference p.records = .ok (some reference)) :
    (∀ answer exchange found produced, a.resolveReference executionID answer reference exchange = .ok found →
      resolveHash reference (.ok found) = .ok produced → KeepsIdentifiers reference produced) ∧
    ((∀ result, a.getStatus executionID p = .ok result →
        ∃ produced, parseReference result.adapterReference = .ok produced ∧ KeepsIdentifiers reference produced) ↔
      ∀ authorization record result, p.authorization = .ok (some authorization) →
        Applies a executionID authorization reference p.transactions record →
        a.getStatus executionID p = .ok result → Agrees reference record) := by
  refine ⟨fun answer exchange found produced => resolveHash_keeps, ?_⟩
  have valid := latestReference_valid stored
  constructor
  · intro keeps authorization record result authorized applies answered
    rcases Adapter.getStatus_reference stored answered with ⟨user, same, encoded⟩ | ⟨absent, _⟩
    · obtain rfl : user = authorization := by
        rw [authorized] at same
        exact (Option.some.inj (Except.ok.inj same)).symm
      exact (keeps_reconciled_iff valid).mp ((keeps_parsed_iff encoded).mp (keeps result answered)) record applies
    · exact absurd authorized (absent authorization)
  · intro agrees result answered
    rcases Adapter.getStatus_reference stored answered with ⟨authorization, authorized, encoded⟩ | ⟨_, encoded⟩
    · apply (keeps_parsed_iff encoded).mpr
      exact (keeps_reconciled_iff valid).mpr fun record applies => agrees authorization record result authorized applies answered
    · exact (keeps_parsed_iff encoded).mpr (.refl _)

/-- A transfer whose transaction the provider knows, with its hash or without. -/
def knownReference (hash : String) : Reference :=
  { Reference.zero with
    provider := .circleUserControlled, chainID := "5042002", walletID := "w-1", providerTransactionID := "tx-1",
    transactionHash := hash }

def knownText (hash : String) : String := ";".intercalate (knownReference hash).segments

theorem knownReference_valid (usable : hash = "" ∨ validTransactionHash hash = true) :
    (knownReference hash).Valid := by
  constructor
  case provider => rfl
  case chainID => exact (by decide : validChainID "5042002" = true)
  case identified => exact .inr (.inl (by decide : "tx-1" ≠ ""))
  case providerTransactionID => exact fun _ => (by decide : validProviderIdentifier "tx-1" = true)
  case walletID => exact fun _ => (by decide : validProviderIdentifier "w-1" = true)
  case transactionHash => exact usable.resolve_left
  case metadata => nofun
  all_goals exact fun some => absurd rfl some

theorem knownReference_normal (hash : String) :
    (knownReference hash).normalizeObservationMetadata = knownReference hash :=
  Reference.normalize_eq_self (by decide : toLower (trimSpace "") = "") (by decide : toLower (trimSpace "") = "")
    fun _ => ⟨rfl, rfl, rfl, rfl⟩

theorem knownReference_encode (usable : hash = "" ∨ validTransactionHash hash = true) (short : len hash ≤ 66) : (knownReference hash).encode = .ok (knownText hash) := by
  have valid := knownReference_valid usable
  apply valid.encode (knownReference_normal hash)
  have bound : fieldRoom "hash=" hash ≤ 72 := by
    have name : len "hash=" = 5 := rfl
    unfold fieldRoom
    split <;> omega
  have fixed : (knownReference hash).identifierRoom = 64 + fieldRoom "hash=" hash := by
    have provider : fieldRoom "p=" ProviderID.circleUserControlled.text = 32 := by decide
    have chain : fieldRoom "chain=" "5042002" = 14 := by decide
    have wallet : fieldRoom "w=" "w-1" = 6 := by decide
    have transaction : fieldRoom "tx=" "tx-1" = 8 := by decide
    have mark : len referencePrefix = 4 := by decide
    have challenge : fieldRoom "ch=" "" = 0 := by decide
    simp only [Reference.identifierRoom, knownReference, Reference.zero, provider, chain, wallet, challenge, transaction,
      mark]
  have unobserved : Providers.room (knownReference hash).observationSegments = 0 := rfl
  rw [Reference.len_segments valid, fixed, unobserved, maxReferenceLength]
  omega

def sampleAdapter : Adapter := ⟨⟨"ARC-TESTNET", "5042002", "arc-testnet"⟩, []⟩

/-- A pass over the known reference in which the provider returns the record. -/
def reads (record : Transaction) : StatusPass :=
  { records := .ok [⟨"exec_1", 1, .submitted, knownText (hexHash '1'), "", 1000⟩]
    authorization := .ok (some ⟨"token"⟩)
    transactions := .response 200 (some ⟨none, some record, none, none⟩)
    challenges := .unreachable
    observedAt := 2000
    now := 2000 }

theorem reads_stored (record : Transaction) :
    latestReference (reads record).records = .ok (some (knownReference (hexHash '1'))) := by
  have encoded := knownReference_encode (.inr hexHash_one.valid) hexHash_one.short.le
  obtain ⟨some, _⟩ := validateBoundedText_ok.mp (Reference.validateAdapterReference_encode encoded)
  have last : Runtime.lastReference [⟨"exec_1", 1, .submitted, knownText (hexHash '1'), "", 1000⟩] =
      .some (knownText (hexHash '1')) := by
    show (if knownText (hexHash '1') = "" then none else .some (knownText (hexHash '1'))) = _
    rw [if_neg some]
  have parsed : parseReference (knownText (hexHash '1')) = .ok (knownReference (hexHash '1')) := by
    rw [Reference.parse_encode encoded, knownReference_normal]
  rw [reads, latestReference, last]
  simp only [parsed, Except.map]

theorem reads_found {record : Transaction} (named : record.id ≠ "") :
    lookupTransaction "exec_1" ⟨"token"⟩ (knownReference (hexHash '1')) (reads record).transactions = .ok (some record) := by
  have known : (knownReference (hexHash '1')).providerTransactionID ≠ "" := (by decide : ("tx-1" : String) ≠ "")
  have answered : performRequest ⟨"token"⟩ false (reads record).transactions = .ok ⟨none, some record, none, none⟩ := rfl
  rw [lookupTransaction, if_pos known, getTransaction, if_neg known, answered]
  show Except.map some (if record.id = "" then .error responseUnreadable else .ok record) = _
  rw [if_neg named]
  rfl

/-- The pass reports what it has made of the reference. -/
theorem reads_status {record : Transaction} (usable : hash = "" ∨ validTransactionHash hash = true)
    (short : len hash ≤ 66) (named : record.id ≠ "")
    (applied : sampleAdapter.applyTransaction (knownReference (hexHash '1')) record =
      .ok ⟨knownReference hash, some .confirmed⟩) :
    sampleAdapter.getStatus "exec_1" (reads record) =
      .ok ⟨"exec_1", requestVersion, .submitted, knownText hash, "", 2000⟩ := by
  have reconciled : sampleAdapter.reconcile "exec_1" ⟨"token"⟩ (knownReference (hexHash '1')) (reads record) =
      ⟨.submittedPending, "", some (knownReference hash), 2000⟩ := by
    rw [Adapter.reconcile, Adapter.resolveTransaction, reads_found named]
    simp only [bind, Except.bind, applied]
    rfl
  rw [Adapter.getStatus, reads_stored]
  show outcome "exec_1" (sampleAdapter.reconcile "exec_1" ⟨"token"⟩ (knownReference (hexHash '1')) (reads record)) 2000 = _
  rw [reconciled]
  exact outcome_submitted (knownReference_valid usable).validate (knownReference_encode usable short) (by decide)
    (by decide) (by decide)

/-- The provider repeats the hash. -/
def agreeing : Transaction := ⟨"tx-1", .confirmed, hexHash '1', "ARC-TESTNET", "w-1", ""⟩

theorem reconciliation_keeps_agreeing :
    ∃ result produced, sampleAdapter.getStatus "exec_1" (reads agreeing) = .ok result ∧
      parseReference result.adapterReference = .ok produced ∧ KeepsIdentifiers (knownReference (hexHash '1')) produced := by
  have lowered : toLower (hexHash '1') = hexHash '1' := (validTransactionHash_written hexHash_one.valid).1
  have merged : enriched (knownReference (hexHash '1')) agreeing = knownReference (hexHash '1') := by
    have named : ("tx-1" : String) ≠ "" := by decide
    simp [enriched, Reference.withTransaction, agreeing, lowered, hexHash_ne_empty, hexHash_one.valid, knownReference, named]
  have applied : sampleAdapter.applyTransaction (knownReference (hexHash '1')) agreeing =
      .ok ⟨enriched (knownReference (hexHash '1')) agreeing, some .confirmed⟩ := rfl
  rw [merged] at applied
  have answered := reads_status (.inr hexHash_one.valid) hexHash_one.short.le (by decide) applied
  have iff := (@reconciliation_keeps_iff sampleAdapter "exec_1" _ _ (reads_stored agreeing)).2
  have agrees : Agrees (knownReference (hexHash '1')) agreeing := ⟨fun _ => rfl, fun _ => .inr lowered⟩
  obtain ⟨produced, parsed, keeps⟩ := iff.mpr (fun authorization record result authorized applies _ => by
    cases authorized
    cases applies.1
    exact agrees) _ answered
  exact ⟨_, produced, answered, parsed, keeps⟩

/-- The provider reports something that is no hash. -/
def unusable : Transaction := ⟨"tx-1", .confirmed, "pending", "ARC-TESTNET", "w-1", ""⟩

/-- The pass answers, and the reference it stores has lost the hash that was known. -/
theorem unusable_hash_forgotten :
    latestReference (reads unusable).records = .ok (some (knownReference (hexHash '1'))) ∧
      ∃ result produced, sampleAdapter.getStatus "exec_1" (reads unusable) = .ok result ∧
        parseReference result.adapterReference = .ok produced ∧
        ¬ KeepsIdentifiers (knownReference (hexHash '1')) produced := by
  have merged : enriched (knownReference (hexHash '1')) unusable = knownReference "" := by
    have lowered : toLower "pending" = "pending" := by decide
    have malformed : validTransactionHash "pending" = false := by decide
    have named : ("tx-1" : String) ≠ "" := by decide
    have reported : ("pending" : String) ≠ "" := by decide
    simp [enriched, Reference.withTransaction, unusable, lowered, malformed, knownReference, named, reported]
  have applied : sampleAdapter.applyTransaction (knownReference (hexHash '1')) unusable =
      .ok ⟨enriched (knownReference (hexHash '1')) unusable, some .confirmed⟩ := rfl
  rw [merged] at applied
  have answered := reads_status (.inl rfl) (by decide) (by decide) applied
  have encoded : (knownReference "").encode = .ok (knownText "") := knownReference_encode (.inl rfl) (by decide)
  refine ⟨reads_stored unusable, _, _, answered, Reference.parse_encode encoded, fun keeps => ?_⟩
  exact hexHash_ne_empty '1' (keeps.transactionHash (hexHash_ne_empty '1')).symm

end WizPay.Providers.Circle
