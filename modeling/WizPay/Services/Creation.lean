import WizPay.Policies.Evaluator
import WizPay.Services.Approvals

/-!
# The intent that `CreateIntent` freezes

The stored value is the frozen material of the command.
-/
namespace WizPay.Services

open Checks GoText GoTime Threads Threads.Routine Intents Intents.Intent Storage Auth History

theorem truncatePostgresTimestamp_eq (t : Int) : truncatePostgresTimestamp t = truncMicros t := by
  unfold truncatePostgresTimestamp
  split
  next zero =>
    rw [isZero_iff.mp zero]
    rfl
  next => rfl

@[simp] theorem normalizeCreation_createdAt (p : Params) : (normalizeCreation p).createdAt = truncMicros p.createdAt :=
  truncatePostgresTimestamp_eq _

@[simp] theorem normalizeCreation_expiresAt (p : Params) : (normalizeCreation p).expiresAt = truncMicros p.expiresAt :=
  truncatePostgresTimestamp_eq _

variable {p : Params} {i : Intent} {scope : Scope}

theorem params_period (valid : p.validate = .ok ()) : p.createdAt ≠ 0 ∧ p.createdAt < p.expiresAt := by
  simp only [Params.validate, checks_ok, isZero_iff, not_or, not_not] at valid
  obtain ⟨-, -, -, -, -, -, -, created, ⟨-, period⟩, -⟩ := valid
  exact ⟨created, period⟩

/-- An instant before a whole microsecond is also before it when its own microsecond is. -/
theorem lt_truncMicros {s t : Int} (before : truncMicros s < truncMicros t) : s < truncMicros t := by
  simp only [truncMicros, microsecond] at *
  omega

theorem newDraft_ok {params : Params} :
    newDraft params = .ok i ↔
      (normalizeCreation params).validate = .ok () ∧ i = ⟨normalizeCreation params, .draft, "", 1⟩ := by
  simp only [newDraft, guard_ok, mapError_ok, pure_ok]
  exact and_congr_right fun _ => eq_comm

/-- The value that `CreateIntent` stores, when the material is valid at all. -/
theorem frozenIntent_ok :
    frozenIntent p p.createdAt = .ok i ↔
      (normalizeCreation p).validate = .ok () ∧ i = (normalizeCreation p).frozen .created 2 := by
  have computes (valid : (normalizeCreation p).validate = .ok ()) :
      frozenIntent p p.createdAt = .ok ((normalizeCreation p).frozen .created 2) := by
    have draft := newDraft_ok.mpr ⟨valid, rfl⟩
    obtain ⟨set, period⟩ := params_period valid
    rw [normalizeCreation_createdAt] at set
    rw [normalizeCreation_createdAt, normalizeCreation_expiresAt] at period
    have draft_valid : (⟨normalizeCreation p, .draft, "", 1⟩ : Intent).validate = .ok () :=
      (faithful_newDraft draft).validate Nat.one_ne_zero
    have entered : (⟨normalizeCreation p, .draft, "", 1⟩ : Intent).entering .created =
        (normalizeCreation p).frozen .created 2 := rfl
    have nonzero : p.createdAt ≠ 0 := by
      rintro zero
      rw [zero] at set
      exact set rfl
    have started := truncMicros_le p.createdAt
    have timely := lt_truncMicros period
    simp only [frozenIntent, draft, bind_ok]
    refine ⟨_, rfl, ?_⟩
    simp only [transition, guard_ok, draft_valid, true_and, entered]
    rw [if_neg (by decide), if_neg (by decide)]
    simp only [checks_ok, pure_ok, normalizeCreation_createdAt, normalizeCreation_expiresAt, isZero_iff, not_or,
      Int.not_lt, Int.not_le, and_true]
    exact ⟨by decide, ⟨nonzero, started⟩, rfl, timely, Params.frozen_valid valid rfl (by decide) (by decide)⟩
  constructor
  · intro frozen
    have valid : (normalizeCreation p).validate = .ok () := by
      simp only [frozenIntent, bind_ok, newDraft_ok] at frozen
      obtain ⟨_, ⟨valid, -⟩, -⟩ := frozen
      exact valid
    rw [computes valid] at frozen
    exact ⟨valid, (Except.ok.inj frozen).symm⟩
  · rintro ⟨valid, rfl⟩
    exact computes valid

/-! ### The letter case of a wallet address -/

theorem newBinding_ok {params b : Wallet.Binding} :
    Wallet.newBinding params = .ok b ↔ params.normalize.validate = .ok () ∧ b = params.normalize := by
  simp only [Wallet.newBinding, guard_ok, pure_ok]
  exact and_congr_right fun _ => eq_comm

theorem binding_provider_ne {b : Wallet.Binding} (valid : b.validate = .ok ()) : b.provider ≠ "" := by
  simp only [Wallet.Binding.validate, Wallet.Binding.textFields, Wallet.validateFields, Wallet.validateField,
    checks_ok] at valid
  exact valid.1.2.2.1.1

theorem newScope_ok {tenantID actorID requestID traceID : String}
    (built : newScope tenantID actorID requestID traceID = .ok scope) :
    scope = ⟨trimSpace tenantID, trimSpace actorID, trimSpace requestID, trimSpace traceID⟩ := by
  simp only [newScope, guard_ok, pure_ok] at built
  exact built.2.2.2.2.symm

section LetterCase

variable {bindingParams b : Wallet.Binding} {actorID identityProvider : String}

/-- Normalisation changes nothing of an owner but the letter case of the address. -/
theorem ownership_normalizeCreation {command : CreateIntentCommand} {time : Int}
    (bound : Wallet.newBinding bindingParams = .ok b) (actor : trimSpace scope.actorID = scope.actorID)
    (provider : trimSpace identityProvider = identityProvider) :
    (normalizeCreation (intentParams scope identityProvider b command time)).ownership =
      { ownerOf scope.actorID identityProvider b with walletAddress := lowerAddress b.address } := by
  obtain ⟨-, rfl⟩ := newBinding_ok.mp bound
  simp [normalizeCreation, normalizeCreationAddresses, normalizeCreationTimestamps, normalizeParams,
    Ownership.normalize, intentParams, ownerOf, Wallet.Binding.normalize, actor, provider]

/-- What the table, the approval service and the evaluator compare with the binding, for an owner made from it. -/
structure Accepted (t : ApplicationTables) (scope : Scope) (identity : Identity) (b : Wallet.Binding) (i : Intent) :
    Prop where
  related : related t (rowOf scope.tenantID i) = true
  approval : checkBinding scope i b = .ok ()
  policy : Policies.OwnerMatches i.params.ownership identity b

/-- The three comparisons of an owner made from an active binding come down to the letter case of the address. -/
theorem accepted_iff {t : ApplicationTables} {identity : Identity}
    (bound : Wallet.newBinding bindingParams = .ok b) (active : b.status = .active)
    (actor : trimSpace scope.actorID = scope.actorID) (owned : b.userID = scope.actorID)
    (user : identity.userID = scope.actorID) (provider : identity.provider = identityProvider)
    (stored : ⟨scope.tenantID, b⟩ ∈ t.bindingVersions)
    (owner : i.params.ownership =
      { ownerOf scope.actorID identityProvider b with walletAddress := lowerAddress b.address }) :
    Accepted t scope identity b i ↔ lowerAddress b.address = b.address := by
  obtain ⟨checked, normal⟩ := newBinding_ok.mp bound
  have valid : b.validate = .ok () := normal ▸ checked
  have effective : i.params.ownership.effectiveWalletProvider = b.provider := by
    simp [owner, Ownership.effectiveWalletProvider, ownerOf, binding_provider_ne valid]
  constructor
  · intro accepted
    have policy := accepted.policy
    simp only [Policies.OwnerMatches, owner] at policy
    exact policy.2.2.2.2.2.2.2.1.symm
  · intro lower
    have authorized := Wallet.Binding.ensureAuthorizable_ok.mpr ⟨valid, owned.trans actor.symm, active⟩
    have row : relates ⟨scope.tenantID, b⟩ (rowOf scope.tenantID i) = true := by
      simp [relates, rowOf, owner, ownerOf, owned, lower]
    constructor
    · simp only [related, Bool.and_eq_true, List.any_eq_true, providerRelates, decide_eq_true_eq]
      exact ⟨⟨_, stored, row, effective.symm⟩, _, stored, row⟩
    · have unchanged : BindingUnchanged b i.params.ownership := by
        simp only [BindingUnchanged, effective]
        simp [owner, ownerOf, owned, lower]
      simp only [checkBinding, checks_ok, not_not]
      exact ⟨unchanged, authorized⟩
    · simp only [Policies.OwnerMatches, effective]
      simp [owner, ownerOf, user, provider, lower]

/-- An intent that `CreateIntent` makes from an active binding keeps its relationship to it, in the database and in
both comparisons, exactly when the binding was stored with a lower case address. -/
theorem wallet_case_is_identity {principalParams principal : Principal} {identity : Identity}
    {requestID traceID : String} {scope : Scope} {command : CreateIntentCommand} {time : Int} {i : Intent}
    {t : ApplicationTables}
    (bound : Wallet.newBinding bindingParams = .ok b) (active : b.status = .active)
    (evm : Contracts.validAddress b.address = true)
    (authenticated : newAuthenticatedPrincipal principalParams = .ok principal)
    (user : identity.userID = principal.actorID) (provider : identity.provider = principal.identityProvider)
    (placed : newScope principal.tenantID principal.actorID requestID traceID = .ok scope)
    (owned : b.userID = scope.actorID)
    (frozen : frozenIntent (intentParams scope principal.identityProvider b command time) time = .ok i)
    (stored : ⟨scope.tenantID, b⟩ ∈ t.bindingVersions)
    (operations : List Operation) :
    Accepted t scope identity b (run act i operations) ↔ Contracts.normalizeAddress b.address = b.address := by
  have principal_eq := newAuthenticatedPrincipal_ok authenticated
  have scope_eq := newScope_ok placed
  have actor : trimSpace scope.actorID = scope.actorID := by simp [scope_eq]
  have actor_eq : scope.actorID = principal.actorID := by simp [scope_eq, principal_eq, Principal.normalize]
  have named : trimSpace principal.identityProvider = principal.identityProvider := by
    simp [principal_eq, Principal.normalize]
  obtain ⟨-, rfl⟩ := frozenIntent_ok.mp frozen
  have kept := (run_frozen (i := (normalizeCreation
    (intentParams scope principal.identityProvider b command time)).frozen .created 2) (by simp [Params.frozen]) operations).1
  have lowered : lowerAddress b.address = Contracts.normalizeAddress b.address := by simp [lowerAddress, evm]
  rw [← lowered]
  apply accepted_iff bound active actor owned (user.trans actor_eq.symm) provider stored
  rw [kept]
  exact ownership_normalizeCreation bound actor named

end LetterCase

/-! ### A sample user -/

def sampleBinding : Wallet.Binding :=
  { bindingID := "bind_1", version := 2, userID := "user_1", provider := "EXTERNAL_EVM",
    providerUserReference := "ref_1", walletID := "wal_1", address := "0x1111111111111111111111111111111111111111",
    chainID := "5042", network := "MAINNET", status := .active, verificationReference := "ver_1",
    createdAt := 63800000000000000000, verifiedAt := 63800000000000000000, revokedAt := 0 }

/-- The sample binding with an address in capital letters. -/
def capitalBinding : Wallet.Binding := { sampleBinding with address := "0xAAAAAAAAAAAAAAAAAAAAAAAAAAAAAAAAAAAAAAAA" }

/-- The binding whose address is the one that intents for `capitalBinding` hold. -/
def lowerBinding : Wallet.Binding := { sampleBinding with address := "0xaaaaaaaaaaaaaaaaaaaaaaaaaaaaaaaaaaaaaaaa" }

def samplePrincipal (actorID : String) : Principal :=
  { tenantID := "tenant_1", actorID := actorID, identityProvider := "https://connect.wizpay.xyz",
    providerSubject := "sub_1", clientID := "client_1", tokenID := "tok_1", expiresAt := 64000000000000000000,
    permissions := [.createIntent] }

def sampleIdentity (userID : String) : Identity := ⟨userID, "https://connect.wizpay.xyz", "sub_1", .active⟩

def sampleScope (actorID : String) : Scope := ⟨"tenant_1", actorID, "request_1", ""⟩

def sampleCommand (b : Wallet.Binding) : CreateIntentCommand :=
  { clientRequestID := "req_1", nonce := "n_1", walletBindingID := b.bindingID, type := .send,
    financial := sampleSend.financial, route := sampleSend.route, deadline := sampleSend.expiresAt,
    policyReference := "pol_1:1" }

/-- Tables with the given binding of a user. -/
def sampleTables (bindings : List Wallet.Binding) : ApplicationTables :=
  { identities := bindings.map fun b => ⟨"tenant_1", b.userID, "https://connect.wizpay.xyz"⟩,
    bindings := bindings.map (⟨"tenant_1", ·⟩), bindingVersions := bindings.map (⟨"tenant_1", ·⟩),
    intents := [], approvals := [], policies := [], evaluations := [],
    execution := ⟨[], [], [], [], [], [], 0⟩ }

theorem graphic_intentID (tenantID clientRequestID : String) :
    ∀ c ∈ (intentID tenantID clientRequestID).toList, isGraphic c = true := by
  intro c member
  rw [intentID, String.toList_append, List.mem_append] at member
  rcases member with first | rest
  · exact List.all_eq_true.mp (by decide : "int_".toList.all isGraphic = true) c first
  · exact Sha256.isGraphic_hexText _ c rest

theorem length_intentID (tenantID clientRequestID : String) :
    (intentID tenantID clientRequestID).toList.length = 28 := by
  rw [intentID, String.toList_append, List.length_append, Sha256.hexText_length, List.length_take,
    Sha256.sum256_length]
  rfl

theorem intentID_ne_empty (tenantID clientRequestID : String) : intentID tenantID clientRequestID ≠ "" := by
  intro empty
  have sized := length_intentID tenantID clientRequestID
  rw [empty] at sized
  exact absurd sized (by decide)

/-- The derived identifier is a valid one, whatever the client sent. -/
theorem validate_intentID (valid : p.validate = .ok ()) (tenantID clientRequestID : String) :
    { p with intentID := intentID tenantID clientRequestID }.validate = .ok () := by
  have graphic := graphic_intentID tenantID clientRequestID
  have sized : len (intentID tenantID clientRequestID) = 28 := by
    rw [len_graphic graphic, length_intentID]
  have text : Intents.validateText "intent ID" (intentID tenantID clientRequestID) = .ok () := by
    have named := intentID_ne_empty tenantID clientRequestID
    simp [Intents.validateText, rejectIf_ok, trimSpace_graphic graphic, hasControl_graphic graphic,
      named, sized, maxTextLength]
  simp only [Params.validate, Params.textFields, Intents.validateFields, guard_ok] at valid ⊢
  obtain ⟨⟨-, texts⟩, rest⟩ := valid
  exact ⟨⟨text, texts⟩, rest⟩

theorem normalizeCreation_intentID (p : Params) (tenantID clientRequestID : String) :
    normalizeCreation { p with intentID := intentID tenantID clientRequestID } =
      { normalizeCreation p with intentID := intentID tenantID clientRequestID } := by
  have trimmed := trimSpace_graphic (graphic_intentID tenantID clientRequestID)
  simp only [normalizeCreation, normalizeCreationAddresses, normalizeCreationTimestamps, normalizeParams, trimmed]

/-- The sample material for the owner of a binding. -/
def sendOf (b : Wallet.Binding) : Params :=
  { sampleSend with ownership := ownerOf b.userID "https://connect.wizpay.xyz" b }

/-- The intent of the sample command for a binding. -/
def sampleIntent (b : Wallet.Binding) : Intent :=
  { sendOf b with intentID := intentID "tenant_1" "req_1" }.frozen .created 2

theorem frozenIntent_sample {b c : Wallet.Binding} (normal : normalizeCreation (sendOf b) = sendOf c) (valid : (sendOf c).validate = .ok ()) :
    frozenIntent (intentParams (sampleScope b.userID) "https://connect.wizpay.xyz" b (sampleCommand b) sampleSend.createdAt)
        sampleSend.createdAt = .ok (sampleIntent c) := by
  have asked : intentParams (sampleScope b.userID) "https://connect.wizpay.xyz" b (sampleCommand b) sampleSend.createdAt =
      { sendOf b with intentID := intentID "tenant_1" "req_1" } := rfl
  have frozen := frozenIntent_ok (p := { sendOf b with intentID := intentID "tenant_1" "req_1" })
    (i := sampleIntent c)
  rw [normalizeCreation_intentID, normal] at frozen
  rw [asked]
  exact frozen.mpr ⟨validate_intentID valid _ _, rfl⟩

theorem sendOf_sampleBinding : sendOf sampleBinding = sampleSend := rfl

theorem normalizeCreation_sendOf : normalizeCreation (sendOf sampleBinding) = sendOf sampleBinding := by
  rw [sendOf_sampleBinding]
  exact normalizeCreation_sampleSend

theorem sendOf_valid : (sendOf sampleBinding).validate = .ok () := by
  rw [sendOf_sampleBinding]
  exact sampleSend_valid

theorem newBinding_sampleBinding : Wallet.newBinding sampleBinding = .ok sampleBinding := by decide +kernel

theorem newBinding_capitalBinding : Wallet.newBinding capitalBinding = .ok capitalBinding := by decide +kernel

theorem samplePrincipal_authenticated :
    newAuthenticatedPrincipal (samplePrincipal "user_1") = .ok (samplePrincipal "user_1") := by decide +kernel

theorem sampleScope_placed : newScope "tenant_1" "user_1" "request_1" "" = .ok (sampleScope "user_1") := by
  decide +kernel

theorem wallet_case_is_identity_sampleBinding :
    Accepted (sampleTables [sampleBinding]) (sampleScope "user_1") (sampleIdentity "user_1") sampleBinding
      (sampleIntent sampleBinding) := by
  have frozen := frozenIntent_sample (b := sampleBinding) (c := sampleBinding) normalizeCreation_sendOf sendOf_valid
  apply (wallet_case_is_identity newBinding_sampleBinding rfl (by decide +kernel) samplePrincipal_authenticated rfl rfl
    sampleScope_placed rfl frozen (List.mem_singleton.mpr rfl) []).mpr
  decide +kernel

/-- The binding below is active and its address is a valid one, yet no table that holds only this version of it
takes the intent, and both comparisons refuse it. -/
theorem capital_binding_refused :
    let b := capitalBinding
    let i := sampleIntent lowerBinding
    Wallet.newBinding b = .ok b ∧ b.status = .active ∧ Contracts.validAddress b.address = true ∧
      frozenIntent (intentParams (sampleScope "user_1") "https://connect.wizpay.xyz" b (sampleCommand b)
        sampleSend.createdAt) sampleSend.createdAt = .ok i ∧
      related (sampleTables [b]) (rowOf "tenant_1" i) = false ∧
      checkBinding (sampleScope "user_1") i b ≠ .ok () ∧
      ¬ Policies.OwnerMatches i.params.ownership (sampleIdentity "user_1") b := by
  intro b i
  have frozen := frozenIntent_sample (b := capitalBinding) (c := lowerBinding) (by decide +kernel) (by decide +kernel)
  refine ⟨newBinding_capitalBinding, rfl, by decide +kernel, frozen, ?_, ?_, ?_⟩
  · rw [Bool.eq_false_iff]
    intro relation
    simp [related, relates, sampleTables, rowOf, sampleIntent, sendOf, ownerOf, b, i,
      capitalBinding, lowerBinding, sampleBinding, Params.frozen] at relation
  · intro checked
    simp [checkBinding, rejectIf_ok, BindingUnchanged, sampleIntent, sendOf, ownerOf, b, i, capitalBinding,
      lowerBinding, sampleBinding, Params.frozen] at checked
  · intro matched
    simp [Policies.OwnerMatches, sampleIntent, sendOf, ownerOf, b, i, capitalBinding, lowerBinding, sampleBinding,
      Params.frozen] at matched

end WizPay.Services
