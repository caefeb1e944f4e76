import WizPay.Authority.Revocation

/-!
# What browser sessions and codes keep

Unlocked reads of a call are of earlier tables, so besides invariants it takes a
relation between earlier and later tables.
-/
namespace WizPay.Authority

open GoText GoTime RowLocks Txn

variable {digest : String} {k : CodeRow} {b : BrowserRow}

section Written

variable {curve : Siwe.Curve} {now after : Tables} {past : Tables → Prop} {call : Call} {changes : List Change}
  {answer : Answer}

variable (effect : Effect curve now past call changes answer)
include effect

theorem Effect.undeleting (key : Key) : Write.delete key ∉ changes := by
  cases effect <;> simp [consumeChallenge, enrollmentProof]

theorem Effect.unadministered {change : Change}
    (member : change ∈ changes) : change.key.administrative = false := by
  revert change
  cases effect with
  | complete t d code row found browser =>
    rcases found with _ | s <;> rcases browser with _ | ⟨digest, bs⟩ <;>
      simp [grantChanges, Write.key, Key.administrative]
  | rotate digest proof next old found =>
    cases found <;> simp [revokeChanges, insertBrowser, Write.key, Key.administrative]
  | logout digest proof v found => cases found <;> simp [revokeChanges, Write.key, Key.administrative]
  | _ =>
    simp [revokeChanges, insertBrowser, consumeChallenge, enrollmentProof, authenticationChanges, Write.key,
      Key.administrative]

theorem Effect.inserts_code
    (member : Write.insert (Key.code digest) k ∈ changes) :
    ∃ t d code row found browser, call = .complete t d code ∧ Grants now past t d code row found browser ∧
      changes = grantChanges t d code row found browser ∧ digest = code.digest ∧ k = grantCode t code row := by
  cases effect with
  | complete t d code row found browser grants =>
    obtain ⟨rfl, rfl⟩ : digest = code.digest ∧ k = grantCode t code row := by simpa using member
    exact ⟨t, d, code, row, found, browser, rfl, grants, rfl, rfl, rfl⟩
  | _ => simp [consumeChallenge, enrollmentProof] at member

theorem Effect.updates_code
    (member : Write.update (Key.code digest) k ∈ changes) :
    ∃ old instant, now.lookup (Key.code digest) = some old ∧ k = { old with consumedAt := some instant } := by
  cases effect with
  | redeem r old u s i instant redeems =>
    obtain ⟨rfl, rfl⟩ : digest = r.codeDigest ∧ k = { old with consumedAt := some (truncMicros instant) } := by
      simpa using member
    exact ⟨old, truncMicros instant, redeems.code, rfl⟩
  | _ => simp [consumeChallenge, enrollmentProof] at member

/-- Wallet evidence comes with its browser session. -/
theorem Effect.inserts_authentication {reference : String}
    {a : AuthenticationRow} (member : Write.insert (Key.authentication reference) a ∈ changes) :
    ∃ digest, Write.insert (Key.browserReference reference) digest ∈ changes := by
  cases effect with
  | authenticate r id signature next v c i binding b instant =>
    obtain ⟨rfl, _⟩ : reference = next.reference ∧ _ := by simpa [consumeChallenge] using member
    exact ⟨next.digest, by simp [authenticatedSession]⟩
  | _ => simp [consumeChallenge, enrollmentProof] at member

end Written

/-! ### Invariants -/

/-- The code that a granted browser session gave: it is the one of the session's
transaction, for the session's principal. -/
def Granted (tables : Tables) (b : BrowserRow) : Prop :=
  ∃ digest k u, tables.lookup (Key.codeTransaction b.transactionID) = some digest ∧
    tables.lookup (Key.code digest) = some k ∧ k.sessionID = b.reference ∧ k.tenantID = b.tenantID ∧
    k.userID = b.userID ∧ tables.lookup (Key.consent k.tenantID k.userID k.consentID) = some u ∧
    u.identityIssuer = b.identityIssuer ∧ u.subject = b.subject

/-- Browser sessions are found by their references and codes by their transactions,
which are completed, and every granted session has given its code. -/
structure Consistent (tables : Tables) : Prop where
  recorded : Recorded tables
  indexed : ∀ digest b, tables.lookup (Key.browser digest) = some b →
    tables.lookup (Key.browserReference b.reference) = some digest
  completed : ∀ digest k, tables.lookup (Key.code digest) = some k →
    ∃ t, tables.lookup (Key.transaction k.transactionID) = some t ∧ t.completedAt.isSome = true
  issued : ∀ digest k, tables.lookup (Key.code digest) = some k →
    tables.lookup (Key.codeTransaction k.transactionID) = some digest
  granted : ∀ digest b, tables.lookup (Key.browser digest) = some b → b.decision = .granted → Granted tables b

/-- What holds between earlier and later tables. -/
structure Continues (first second : Tables) : Prop where
  browser : ∀ digest b, first.lookup (Key.browser digest) = some b → b.state = .authenticated →
    ∃ b', second.lookup (Key.browser digest) = some b' ∧ b'.state = .authenticated ∧ b'.reference = b.reference
  evidence : ∀ digest b, first.lookup (Key.browser digest) = some b → b.state = .authenticated →
    second.lookup (Key.authentication b.reference) = first.lookup (Key.authentication b.reference)
  code : ∀ digest k, first.lookup (Key.code digest) = some k →
    ∃ k', second.lookup (Key.code digest) = some k' ∧ k'.transactionID = k.transactionID
  granted : ∀ digest k, first.lookup (Key.code digest) = some k → ∀ name b, second.lookup (Key.browser name) = some b →
    b.decision = .granted → b.transactionID = k.transactionID →
    ∃ b', first.lookup (Key.browser name) = some b' ∧ b'.decision = .granted ∧ b'.transactionID = b.transactionID ∧
      b'.reference = b.reference

theorem Continues.refl (tables : Tables) : Continues tables tables where
  browser _ b found authenticated := ⟨b, found, authenticated, rfl⟩
  evidence _ _ _ _ := rfl
  code _ k found := ⟨k, found, rfl⟩
  granted _ _ _ _ b found granted _ := ⟨b, found, granted, rfl, rfl⟩

theorem Continues.trans (first second third : Tables) (early : Continues first second) (late : Continues second third) :
    Continues first third where
  browser digest b found authenticated := by
    obtain ⟨b', found', authenticated', same⟩ := early.browser digest b found authenticated
    obtain ⟨b'', found'', authenticated'', same'⟩ := late.browser digest b' found' authenticated'
    exact ⟨b'', found'', authenticated'', same'.trans same⟩
  evidence digest b found authenticated := by
    obtain ⟨b', found', authenticated', same⟩ := early.browser digest b found authenticated
    rw [← early.evidence digest b found authenticated, ← same]
    exact late.evidence digest b' found' authenticated'
  code digest k found := by
    obtain ⟨k', found', same⟩ := early.code digest k found
    obtain ⟨k'', found'', same'⟩ := late.code digest k' found'
    exact ⟨k'', found'', same'.trans same⟩
  granted digest k found name b present granted same := by
    obtain ⟨k', found', kept⟩ := early.code digest k found
    obtain ⟨b', present', granted', flow, reference⟩ := late.granted digest k' found' name b present granted (same.trans kept.symm)
    obtain ⟨b'', present'', granted'', flow', reference'⟩ :=
      early.granted digest k found name b' present' granted' (flow.trans same)
    exact ⟨b'', present'', granted'', flow'.trans flow, reference'.trans reference⟩

section Lasts

variable {now after : Tables} {changes : List Change}

theorem browser_lasts (undeleted : Write.delete (Key.browser digest) ∉ changes)
    (applied : applyAll lawful now changes = some after) (found : now.lookup (Key.browser digest) = some b) :
    ∃ b', after.lookup (Key.browser digest) = some b' ∧ b'.state = b.state ∧ b'.reference = b.reference := by
  refine lasting_undeleted (P := fun b' : BrowserRow => b'.state = b.state ∧ b'.reference = b.reference)
    undeleted ?_ applied found ⟨rfl, rfl⟩
  intro old new kept same
  simp only [keeps, Bool.and_eq_true, beq_iff_eq] at kept
  obtain ⟨⟨snapshot, _⟩, _⟩ := kept
  rw [← snapshot] at same
  exact same

/-- All of a code stays but the time of its redemption. -/
theorem code_kept (digest : String) (k old new : CodeRow) (kept : keeps (.code digest) old new = true)
    (same : ∃ consumed, old = { k with consumedAt := consumed }) : ∃ consumed, new = { k with consumedAt := consumed } := by
  obtain ⟨consumed, rfl⟩ := same
  simp only [keeps, Bool.and_eq_true, beq_iff_eq] at kept
  refine ⟨new.consumedAt, ?_⟩
  cases k
  cases new
  cases kept.1
  rfl

/-- All of a consent stays but the time of its revocation. -/
theorem consent_kept (tenant user id : String) (u old new : ConsentRow)
    (kept : keeps (.consent tenant user id) old new = true) (same : ∃ revoked, old = { u with revokedAt := revoked }) :
    ∃ revoked, new = { u with revokedAt := revoked } := by
  obtain ⟨revoked, rfl⟩ := same
  simp only [keeps, Bool.and_eq_true, beq_iff_eq] at kept
  refine ⟨new.revokedAt, ?_⟩
  cases u
  cases new
  cases kept.1
  rfl

theorem code_lasts (applied : applyAll lawful now changes = some after)
    (found : now.lookup (Key.code digest) = some k) :
    ∃ consumed, after.lookup (Key.code digest) = some { k with consumedAt := consumed } := by
  obtain ⟨_, found', consumed, rfl⟩ := lasting rfl (code_kept digest k) applied found ⟨k.consumedAt, rfl⟩
  exact ⟨consumed, found'⟩

theorem consent_lasts (applied : applyAll lawful now changes = some after) {tenant user id : String} {u : ConsentRow}
    (found : now.lookup (Key.consent tenant user id) = some u) :
    ∃ revoked, after.lookup (Key.consent tenant user id) = some { u with revokedAt := revoked } := by
  obtain ⟨_, found', revoked, rfl⟩ := lasting rfl (consent_kept tenant user id u) applied found ⟨u.revokedAt, rfl⟩
  exact ⟨revoked, found'⟩

theorem codeTransaction_lasts (applied : applyAll lawful now changes = some after) {transaction digest : String}
    (found : now.lookup (Key.codeTransaction transaction) = some digest) :
    after.lookup (Key.codeTransaction transaction) = some digest :=
  unchanged_lasts (undeleted_of_fixed rfl applied) (fun _ _ => rfl) applied found

theorem Granted.lasts (granted : Granted now b) (applied : applyAll lawful now changes = some after) :
    Granted after b := by
  obtain ⟨digest, k, u, issued, code, session, tenant, user, consent, issuer, subject⟩ := granted
  obtain ⟨_, code'⟩ := code_lasts applied code
  obtain ⟨_, consent'⟩ := consent_lasts applied consent
  exact ⟨digest, _, _, codeTransaction_lasts applied issued, code', session, tenant, user, consent', issuer, subject⟩

theorem completed_kept (id : String) (old new : TransactionRow) (kept : keeps (.transaction id) old new = true)
    (set : old.completedAt.isSome = true) : new.completedAt.isSome = true := by
  simp only [keeps, Bool.and_eq_true] at kept
  exact terminal_isSome kept.2 set

theorem completed_lasts (applied : applyAll lawful now changes = some after) {id : String} {t : TransactionRow}
    (found : now.lookup (Key.transaction id) = some t) (completed : t.completedAt.isSome = true) :
    ∃ t', after.lookup (Key.transaction id) = some t' ∧ t'.completedAt.isSome = true :=
  lasting rfl (completed_kept id) applied found completed

end Lasts

section Preservation

variable {curve : Siwe.Curve} {now after : Tables} {past : Tables → Prop} {call : Call} {changes : List Change}
  {answer : Answer}

/-- A grant makes the code and the consent of the session's principal. -/
theorem Grants.granted {t : Transaction} {d : BrowserDecision} {code : Code} {row : TransactionRow}
    {session : Option SessionRow} (grants : Grants now past t d code row session (some (digest, b)))
    (applied : applyAll lawful now (grantChanges t d code row session (some (digest, b))) = some after) :
    Granted after { b with decision := .granted } := by
  obtain ⟨_, _, _, _, _, flow, reference, tenant, user, issuer, subject⟩ := grants.decision digest b rfl
  have undeleted (key : Key) : Write.delete key ∉ grantChanges t d code row session (some (digest, b)) := by simp
  have issued : after.lookup (Key.codeTransaction t.id) = some code.digest :=
    lookup_of_insert (undeleted _) (fun _ _ => rfl) applied (by simp)
  have coded : Write.insert (Key.code code.digest) (grantCode t code row) ∈
      grantChanges t d code row session (some (digest, b)) := by simp
  have consented : Write.insert (Key.consent code.tenantID code.userID code.consentID)
      (grantConsent d code row (grantSession d session)) ∈ grantChanges t d code row session (some (digest, b)) := by simp
  obtain ⟨_, present, _, rfl⟩ := lasting_of_written (undeleted _) (code_kept code.digest (grantCode t code row)) applied
    (.inl coded) ⟨none, rfl⟩
  obtain ⟨_, consent, _, rfl⟩ := lasting_of_written (undeleted _)
    (consent_kept _ _ _ (grantConsent d code row (grantSession d session))) applied (.inl consented) ⟨none, rfl⟩
  rw [← flow] at issued
  exact ⟨code.digest, _, _, issued, present, reference.symm, tenant.symm, user.symm, consent, issuer.symm, subject.symm⟩

theorem Consistent.commit (consistent : Consistent now) (effect : Effect curve now Recorded call changes answer)
    (applied : applyAll lawful now changes = some after) : Consistent after where
  recorded := consistent.recorded.commit effect applied
  indexed := by
    intro digest b found
    rcases mem_of_lookup applied found with before | inserted | updated
    · exact unchanged_lasts (effect.undeleting _) (fun _ _ => rfl) applied (consistent.indexed digest b before)
    · obtain ⟨v, rfl, rfl, _, whole⟩ := effect.inserts_browser inserted
      exact lookup_of_insert (effect.undeleting _) (fun _ _ => rfl) applied (whole (by simp [BrowserSession.row]))
    · obtain ⟨old, present, _, decides⟩ := effect.updates_browser updated
      have same : b.reference = old.reference := by cases decides <;> rfl
      rw [same]
      exact unchanged_lasts (effect.undeleting _) (fun _ _ => rfl) applied (consistent.indexed digest old present)
  completed := by
    intro digest k found
    rcases mem_of_lookup applied found with before | inserted | updated
    · obtain ⟨t, present, set⟩ := consistent.completed digest k before
      exact completed_lasts applied present set
    · obtain ⟨t, d, code, row, session, browser, _, grants, rfl, rfl, rfl⟩ := effect.inserts_code inserted
      have completes : Write.update (Key.transaction t.id) { row with completedAt := some (truncMicros code.issuedAt) } ∈
          grantChanges t d code row session browser := by simp
      exact lasting_of_written (effect.undeleting _) (completed_kept t.id) applied (.inr completes) rfl
    · obtain ⟨old, instant, present, rfl⟩ := effect.updates_code updated
      obtain ⟨t, transaction, set⟩ := consistent.completed digest old present
      exact completed_lasts applied transaction set
  issued := by
    intro digest k found
    rcases mem_of_lookup applied found with before | inserted | updated
    · exact codeTransaction_lasts applied (consistent.issued digest k before)
    · obtain ⟨t, d, code, row, session, browser, _, grants, rfl, rfl, rfl⟩ := effect.inserts_code inserted
      exact lookup_of_insert (effect.undeleting _) (fun _ _ => rfl) applied (by simp [grantCode])
    · obtain ⟨old, instant, present, rfl⟩ := effect.updates_code updated
      exact codeTransaction_lasts applied (consistent.issued digest old present)
  granted := by
    intro digest b found granted
    rcases mem_of_lookup applied found with before | inserted | updated
    · exact (consistent.granted digest b before granted).lasts applied
    · obtain ⟨v, _, rfl, undecided, _⟩ := effect.inserts_browser inserted
      cases undecided.symm.trans granted
    · obtain ⟨old, present, _, decides⟩ := effect.updates_browser updated
      cases decides with
      | grant t d code row session grants whole => exact grants.granted (whole ▸ applied)
      | deny => cases granted
      | withdraw session instant withdraws whole =>
        exact Granted.lasts (b := old) (consistent.granted digest old present granted) applied

theorem Continues.commit (consistent : Consistent now) (effect : Effect curve now past call changes answer)
    (applied : applyAll lawful now changes = some after) : Continues now after where
  browser := by
    intro digest b found authenticated
    obtain ⟨b', found', state, reference⟩ := browser_lasts (effect.undeleting _) applied found
    exact ⟨b', found', state.trans authenticated, reference⟩
  evidence := by
    intro digest b found authenticated
    cases present : now.lookup (Key.authentication b.reference) with
    | some a => exact unchanged_lasts (undeleted_of_fixed rfl applied) (fun _ _ => rfl) applied present
    | none =>
      cases later : after.lookup (Key.authentication b.reference) with
      | none => rfl
      | some a =>
        -- evidence would come with another session of the same reference
        rcases mem_of_lookup applied later with before | inserted | updated
        · cases present.symm.trans before
        · obtain ⟨other, opened⟩ := effect.inserts_authentication inserted
          have fresh := lookup_none_of_insert (effect.undeleting _) applied opened
          cases fresh.symm.trans (consistent.indexed digest b found)
        · cases not_updated (fun _ _ => rfl) applied updated
  code := by
    intro digest k found
    obtain ⟨_, found'⟩ := code_lasts applied found
    exact ⟨_, found', rfl⟩
  granted := by
    intro digest k found name b present granted same
    rcases mem_of_lookup applied present with before | inserted | updated
    · exact ⟨b, before, granted, rfl, rfl⟩
    · obtain ⟨v, _, rfl, undecided, _⟩ := effect.inserts_browser inserted
      cases undecided.symm.trans granted
    · obtain ⟨old, locked, _, decides⟩ := effect.updates_browser updated
      cases decides with
      | grant t d code row session grants whole =>
        obtain ⟨_, _, _, _, _, flow, _⟩ := grants.decision name old rfl
        obtain ⟨t', transaction, set⟩ := consistent.completed digest k found
        -- the transaction of a code is completed, that of a grant is not
        rw [← same, show ({ old with decision := .granted } : BrowserRow).transactionID = old.transactionID from rfl, flow]
          at transaction
        cases transaction.symm.trans grants.transaction
        rw [grants.uncompleted] at set
        cases set
      | deny => cases granted
      | withdraw session instant withdraws whole => exact ⟨old, locked, granted, rfl, rfl⟩

/-- A pending browser session is deleted with its reference, which no other session has. -/
theorem Consistent.administer (consistent : Consistent now) (administered : Administers now changes)
    (applied : applyAll lawful now changes = some after) : Consistent after where
  recorded := consistent.recorded.administer administered applied
  indexed := by
    intro digest b found
    have indexed := consistent.indexed digest b (administered.lookup_before applied rfl found)
    refine unchanged_lasts ?_ (fun _ _ => rfl) applied indexed
    intro deleted
    obtain ⟨other, row, present, same, rfl⟩ := administered.deletes_reference deleted
    have again := consistent.indexed other row present
    rw [same] at again
    cases again.symm.trans indexed
    simp only [applyAll_cons, applyAll_nil] at applied
    obtain ⟨_, _, rfl⟩ := applied
    rw [lookup_write_of_ne (by simp [Write.key]), lookup_write_delete] at found
    cases found
  completed := by
    intro digest k found
    obtain ⟨t, present, set⟩ := consistent.completed digest k (administered.lookup_before applied rfl found)
    exact completed_lasts applied present set
  issued := by
    intro digest k found
    exact codeTransaction_lasts applied (consistent.issued digest k (administered.lookup_before applied rfl found))
  granted := by
    intro digest b found granted
    exact (consistent.granted digest b (administered.lookup_before applied rfl found) granted).lasts applied

theorem Continues.administer (administered : Administers now changes)
    (applied : applyAll lawful now changes = some after) : Continues now after where
  browser := by
    intro digest b found authenticated
    have undeleted : Write.delete (Key.browser digest) ∉ changes := by
      intro deleted
      obtain ⟨row, present, pending⟩ := administered.deletes_browser deleted
      cases present.symm.trans found
      cases pending.symm.trans authenticated
    obtain ⟨b', found', state, reference⟩ := browser_lasts undeleted applied found
    exact ⟨b', found', state.trans authenticated, reference⟩
  evidence := by
    intro digest b _ _
    cases present : now.lookup (Key.authentication b.reference) with
    | some a => exact unchanged_lasts (undeleted_of_fixed rfl applied) (fun _ _ => rfl) applied present
    | none =>
      cases later : after.lookup (Key.authentication b.reference) with
      | none => rfl
      | some a => cases present.symm.trans (administered.lookup_before applied rfl later)
  code := by
    intro digest k found
    obtain ⟨_, found'⟩ := code_lasts applied found
    exact ⟨_, found', rfl⟩
  granted := by
    intro digest k _ name b present granted _
    exact ⟨b, administered.lookup_before applied rfl present, granted, rfl, rfl⟩

theorem consistent_preserved : Preserved (system curve) Consistent Continues where
  refl := .refl
  trans := .trans
  commit now after call changes answer locked consistent runs applied := by
    have effect := Effect.of_runs runs
    exact ⟨consistent.commit (Effect.of_runs (runs.mono fun _ seen => seen.1.recorded)) applied,
      Continues.commit consistent effect applied⟩
  administer now after changes consistent administered applied :=
    ⟨consistent.administer administered applied, .administer administered applied⟩

theorem consistent_empty : Consistent ∅ where
  recorded := recorded_empty
  indexed := by
    intro digest b found
    cases found
  completed := by
    intro digest k found
    cases found
  issued := by
    intro digest k found
    cases found
  granted := by
    intro digest b found
    cases found

end Preservation

end WizPay.Authority
