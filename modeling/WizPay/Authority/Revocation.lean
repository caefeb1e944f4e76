import WizPay.Authority.Effects

/-!
# Revocation takes effect

Once the client, the identity, the consent, the OAuth session or the browser session
of a token is revoked, no redemption that commits afterwards and no validation that
begins afterwards goes through. Revocation marks are terminal (`lasting`), and a
redemption holds locks on all the rows it rests on. A logout is enforced through the
OAuth session only, which takes the invariant `Recorded`.
-/
namespace WizPay.Authority

open GoText GoTime RowLocks Txn

def revokedRow : (key : Key) → Row key → Bool
  | .client _, r => r.status == .revoked
  | .identity _ _, r => r.status == .revoked
  | .consent _ _ _, r => r.revokedAt.isSome
  | .session _ _ _, r => r.revokedAt.isSome
  | .token _, r => r.revokedAt.isSome
  | .browser _, r => r.revokedAt.isSome
  | _, _ => false

/-- The authority of this key has been revoked. -/
def Revoked (tables : Tables) (key : Key) : Prop := ∃ row, tables.lookup key = some row ∧ revokedRow key row = true

variable {key : Key} {past : Tables → Prop} {changes : List Change} {now after : Tables}

theorem revokedRow_keeps {old new : Row key} (kept : keeps key old new = true) (revoked : revokedRow key old = true) :
    revokedRow key new = true := by
  cases key with
  | client id =>
    simp only [keeps, revokedRow, Bool.and_eq_true, Bool.or_eq_true, beq_iff_eq, bne_iff_ne] at kept revoked ⊢
    exact kept.2.resolve_left (fun differs => differs revoked)
  | identity tenant user =>
    simp only [keeps, revokedRow, Bool.and_eq_true, Bool.or_eq_true, beq_iff_eq, bne_iff_ne] at kept revoked ⊢
    exact kept.1.2.resolve_left (fun differs => differs revoked)
  | consent tenant user id | session tenant user id | token digest | browser digest =>
    simp only [keeps, revokedRow, Bool.and_eq_true] at kept revoked ⊢
    exact terminal_isSome kept.2 revoked
  | _ => cases revoked

theorem Revoked.lasts (fixed : key.deletable = false) (tables after : Tables) (changes : List Change)
    (applied : applyAll lawful tables changes = some after) (revoked : Revoked tables key) : Revoked after key := by
  obtain ⟨row, found, mark⟩ := revoked
  exact lasting (P := fun row => revokedRow key row = true) fixed (fun _ _ kept => revokedRow_keeps kept) applied found mark

/-! ### What a code or token rests on -/

/-- The columns that a code and its token share. -/
structure Lineage where
  tenantID : String
  userID : String
  clientID : String
  consentID : String
  sessionID : String
deriving DecidableEq

def CodeRow.lineage (k : CodeRow) : Lineage := ⟨k.tenantID, k.userID, k.clientID, k.consentID, k.sessionID⟩
def TokenRow.lineage (a : TokenRow) : Lineage := ⟨a.tenantID, a.userID, a.clientID, a.consentID, a.sessionID⟩

/-- What is found under the lineage itself. -/
def Lineage.keys (l : Lineage) : List Key :=
  [.client l.clientID, .identity l.tenantID l.userID, .consent l.tenantID l.userID l.consentID,
    .session l.tenantID l.userID l.sessionID]

/-- Granted from the browser session of this digest. -/
def Lineage.GrantedFrom (l : Lineage) (tables : Tables) (digest : String) : Prop :=
  ∃ b, tables.lookup (Key.browser digest) = some b ∧ b.decision = .granted ∧ b.tenantID = l.tenantID ∧
    b.userID = l.userID ∧ b.reference = l.sessionID

/-- Everything that a code or token of this lineage derives from. -/
def Lineage.DerivesFrom (l : Lineage) (tables : Tables) (key : Key) : Prop :=
  key ∈ l.keys ∨ ∃ digest, key = .browser digest ∧ l.GrantedFrom tables digest

theorem Lineage.keys_fixed {l : Lineage} (member : key ∈ l.keys) : key.deletable = false := by
  simp only [Lineage.keys, List.mem_cons, List.not_mem_nil, or_false] at member
  rcases member with rfl | rfl | rfl | rfl <;> rfl

theorem Redeems.unrevoked {now : Tables} {r : Redemption} {k : CodeRow} {u : ConsentRow} {s : SessionRow}
    {i : IdentityRow} (redeems : Redeems now past r k u s i) (member : key ∈ k.lineage.keys) :
    ¬ Revoked now key := by
  obtain ⟨c, client, active⟩ := redeems.client
  simp only [Lineage.keys, CodeRow.lineage, List.mem_cons, List.not_mem_nil, or_false] at member
  rintro ⟨row, found, mark⟩
  rcases member with rfl | rfl | rfl | rfl
  · cases found.symm.trans client
    simp [revokedRow, active] at mark
  · cases found.symm.trans redeems.identity
    simp [revokedRow, redeems.active] at mark
  · cases found.symm.trans redeems.consent
    simp [revokedRow, redeems.consented] at mark
  · cases found.symm.trans redeems.session
    simp [revokedRow, redeems.live] at mark

theorem validate_unrevoked {tables : Tables} {digest : String} {instant : Int} {a : TokenRow}
    (valid : validateOAuthAccessToken tables digest instant = some a)
    (member : key = .token digest ∨ key ∈ a.lineage.keys) : ¬ Revoked tables key := by
  simp only [validateOAuthAccessToken, Option.bind_eq_bind, Option.bind_eq_some_iff] at valid
  obtain ⟨a', token, c, client, u, consent, s, session, i, identity, valid⟩ := valid
  split at valid
  next fits =>
    cases valid
    simp only [Bool.and_eq_true, beq_iff_eq, Option.isNone_iff_eq_none] at fits
    simp only [Lineage.keys, TokenRow.lineage, List.mem_cons, List.not_mem_nil, or_false] at member
    rintro ⟨row, found, mark⟩
    rcases member with rfl | rfl | rfl | rfl | rfl
    · cases found.symm.trans token
      simp [revokedRow, fits] at mark
    · cases found.symm.trans client
      simp [revokedRow, fits] at mark
    · cases found.symm.trans identity
      simp [revokedRow, fits] at mark
    · cases found.symm.trans consent
      simp [revokedRow, fits] at mark
    · cases found.symm.trans session
      simp [revokedRow, fits] at mark
  next => cases valid

/-! ### Granted browser sessions -/

/-- A granted browser session is authenticated, and has an OAuth session that is revoked when it is. -/
def Recorded (tables : Tables) : Prop :=
  ∀ digest b, tables.lookup (Key.browser digest) = some b → b.decision = .granted → b.state = .authenticated ∧
    ∃ s, tables.lookup (Key.session b.tenantID b.userID b.reference) = some s ∧
      (b.revokedAt.isSome = true → s.revokedAt.isSome = true)

/-- OAuth sessions stay, and their revocation marks. -/
theorem session_lasts {tables after : Tables} (applied : applyAll lawful tables changes = some after)
    {tenant user id : String} {s : SessionRow} (found : tables.lookup (Key.session tenant user id) = some s) :
    ∃ s', after.lookup (Key.session tenant user id) = some s' ∧ (s.revokedAt.isSome = true → s'.revokedAt.isSome = true) := by
  refine lasting (P := fun s' : SessionRow => s.revokedAt.isSome = true → s'.revokedAt.isSome = true) rfl ?_ applied found
    (fun marked => marked)
  intro old new kept marked revoked
  simp only [keeps, Bool.and_eq_true] at kept
  exact terminal_isSome kept.2 (marked revoked)

theorem Recorded.unchanged (recorded : Recorded now) (applied : applyAll lawful now changes = some after)
    {digest : String} {b : BrowserRow} (found : now.lookup (Key.browser digest) = some b)
    (granted : b.decision = .granted) : b.state = .authenticated ∧
    ∃ s, after.lookup (Key.session b.tenantID b.userID b.reference) = some s ∧
      (b.revokedAt.isSome = true → s.revokedAt.isSome = true) := by
  obtain ⟨authenticated, s, present, marked⟩ := recorded digest b found granted
  obtain ⟨s', present', marked'⟩ := session_lasts applied present
  exact ⟨authenticated, s', present', fun revoked => marked' (marked revoked)⟩

/-- The grant makes the record. -/
theorem Grants.recorded {t : Transaction} {d : BrowserDecision} {k : Code} {row : TransactionRow}
    {found : Option SessionRow} {browser : Option (String × BrowserRow)}
    (grants : Grants now past t d k row found browser)
    (applied : applyAll lawful now (grantChanges t d k row found browser) = some after) :
    ∃ s, after.lookup (Key.session k.tenantID k.userID k.sessionID) = some s := by
  cases found with
  | some s =>
    obtain ⟨s', present, _⟩ := session_lasts applied (grants.session s rfl)
    exact ⟨s', present⟩
  | none =>
    simp only [grantChanges, List.cons_append, List.nil_append] at applied
    have inserted := lookup_write_insert now (Key.session k.tenantID k.userID k.sessionID) (grantSession d none)
    obtain ⟨s', present, _⟩ := session_lasts (applyAll_cons.mp applied).2 inserted
    exact ⟨s', present⟩

theorem Recorded.commit {curve : Siwe.Curve} {call : Call} {answer : Answer} (recorded : Recorded now)
    (effect : Effect curve now Recorded call changes answer) (applied : applyAll lawful now changes = some after) : Recorded after := by
  intro digest b found granted
  rcases mem_of_lookup applied found with before | inserted | updated
  · exact recorded.unchanged applied before granted
  · obtain ⟨v, _, rfl, undecided, _⟩ := effect.inserts_browser inserted
    rw [show v.row.decision = v.decision from rfl, undecided] at granted
    cases granted
  · obtain ⟨old, present, live, decides⟩ := effect.updates_browser updated
    cases decides with
    | grant t d k row session' grants whole =>
      obtain ⟨_, _, _, authenticated, _, _, reference, tenant, user, _⟩ := grants.decision digest old rfl
      obtain ⟨s, session⟩ := grants.recorded (whole ▸ applied)
      rw [← reference, ← tenant, ← user] at session
      refine ⟨authenticated, s, session, ?_⟩
      simp [live]
    | deny => cases granted
    | withdraw session' instant withdraws whole =>
      rcases whole with undecided | rfl
      · rw [show ({ old with revokedAt := some (truncMicros instant) } : BrowserRow).decision = old.decision from rfl,
          undecided] at granted
        cases granted
      · obtain ⟨authenticated, _⟩ := recorded digest old present granted
        cases session' with
        | none =>
          -- there was no OAuth session after the row was locked, but a granted session has one
          obtain ⟨seen, earlier, locked, missing⟩ := withdraws.absent rfl authenticated
          obtain ⟨_, s, present, _⟩ := earlier digest old locked granted
          cases missing.symm.trans present
        | some s =>
          simp only [revokeChanges, applyAll_cons, applyAll_nil] at applied
          obtain ⟨_, _, rfl⟩ := applied
          exact ⟨authenticated, _, lookup_write_update .., fun _ => by cases s.revokedAt <;> rfl⟩

theorem Recorded.administer (recorded : Recorded now) (administered : Administers now changes)
    (applied : applyAll lawful now changes = some after) : Recorded after := by
  intro digest b found granted
  exact recorded.unchanged applied (administered.lookup_before applied rfl found) granted

section Runs

variable {ι : Type} [DecidableEq ι] {curve : Siwe.Curve}
  {c d e : Config Row ι Error Call Answer}

theorem recorded_preserved : Preserved (system curve) Recorded (fun _ _ => True) where
  refl _ := trivial
  trans _ _ _ _ _ := trivial
  commit _ _ _ _ _ _ recorded runs applied :=
    ⟨recorded.commit (Effect.of_runs (runs.mono fun _ seen => seen.1)) applied, trivial⟩
  administer _ _ _ recorded administered applied := ⟨recorded.administer administered applied, trivial⟩

theorem recorded_empty : Recorded ∅ := by
  intro digest b found
  cases found

theorem recorded_throughout (reached : Reachable (system curve) (idle ∅) c) : Keeps Recorded (fun _ _ => True) c :=
  recorded_preserved.throughout recorded_empty reached

/-- What a call revokes when it commits. -/
def Call.revokes : Call → List Key
  | .revoke r =>
    match r.kind with
    | .consent => [.consent r.tenantID r.userID r.id]
    | .session => [.session r.tenantID r.userID r.id]
    | .token => [.token r.id]
  | .logout digest _ => [.browser digest]
  | _ => []

theorem Effect.revokes {call : Call} {answer : Answer} (effect : Effect curve now past call changes answer)
    (applied : applyAll lawful now changes = some after) (member : key ∈ call.revokes) : Revoked after key := by
  have written {key : Key} {row : Row key} (applied : applyAll lawful now [.update key row] = some after) :
      after.lookup key = some row := by
    simp only [applyAll_cons, applyAll_nil] at applied
    exact applied.2 ▸ lookup_write_update now key row
  have marked (old : Option Int) (instant : Int) : (old.or (some instant)).isSome = true := by cases old <;> rfl
  cases effect with
  | revokeConsent r u instant kind found | revokeToken r a instant kind found
  | revokeSession r s instant kind found =>
    simp only [Call.revokes, kind, List.mem_singleton] at member
    subst member
    exact ⟨_, written applied, marked _ _⟩
  | logout digest proof v found instant withdraws =>
    simp only [Call.revokes, List.mem_singleton] at member
    subst member
    cases found with
    | none => exact ⟨_, written applied, rfl⟩
    | some s =>
      simp only [revokeChanges, applyAll_cons, applyAll_nil] at applied
      obtain ⟨_, _, rfl⟩ := applied
      exact ⟨_, (lookup_write_of_ne (by simp [Write.key])).trans (lookup_write_update ..), rfl⟩
  | _ => cases member

/-- Whatever a lineage derives from, its revocation shows under the lineage itself. -/
theorem Recorded.revoked {tables : Tables} (recorded : Recorded tables) {l : Lineage}
    (derives : l.DerivesFrom tables key) (revoked : Revoked tables key) : ∃ own ∈ l.keys, Revoked tables own := by
  rcases derives with own | ⟨digest, rfl, b, found, granted, tenant, user, reference⟩
  · exact ⟨key, own, revoked⟩
  · obtain ⟨row, present, mark⟩ := revoked
    cases present.symm.trans found
    obtain ⟨_, s, session, marked⟩ := recorded digest b found granted
    rw [tenant, user, reference] at session
    exact ⟨.session l.tenantID l.userID l.sessionID, by simp [Lineage.keys], s, session, marked mark⟩

/-- **Revocation takes effect.** A revocation that commits marks its authority. From
any moment on at which an authority is marked, no redemption of a code that derives
from it commits, whenever it began, and no validation that begins accepts a token that
is revoked itself or derives from a revoked authority. -/
theorem revocation_takes_effect (reached : Reachable (system curve) (idle ∅) c) :
    (∀ i call changes answer d, Step (system curve) c (.commit i call changes answer) d →
      ∀ key ∈ call.revokes, Revoked d.tables key) ∧
    ∀ key, Revoked c.tables key →
      (∀ d, Reachable (system curve) c d → ∀ i r changes answer e,
        Step (system curve) d (.commit i (.redeem r) changes answer) e →
        ∀ k, d.tables.lookup (Key.code r.codeDigest) = some k → ¬ k.lineage.DerivesFrom c.tables key) ∧
      ∀ m m' d, Reachable (system curve) c m → ∀ i digest instant,
        Step (system curve) m (.start i (.validate digest instant)) m' → Reachable (system curve) m' d →
        ∀ changes token e, Step (system curve) d (.commit i (.validate digest instant) changes (.token (digest, token))) e →
        ¬ (key = .token digest ∨ token.lineage.DerivesFrom c.tables key) := by
  have recorded := (recorded_throughout reached).now
  refine ⟨?_, ?_⟩
  · intro i call changes answer d step key member
    obtain ⟨applied, effect⟩ := effect_of_keeps (recorded_throughout reached) reached step
    exact effect.revokes applied member
  · intro key revoked
    refine ⟨?_, ?_⟩
    · intro d later i r changes answer e step k found derives
      obtain ⟨own, member, marked⟩ := recorded.revoked derives revoked
      have still : Revoked d.tables own := later.lasting (Revoked.lasts (Lineage.keys_fixed member)) marked
      obtain ⟨_, _, _, effect⟩ := effect_of_commit (reached.trans later) step
      cases effect with
      | redeem _ k' u s i instant redeems =>
        cases found.symm.trans redeems.code
        exact redeems.unrevoked member still
    · intro m m' d before i digest instant start later changes token e step derives
      obtain ⟨own, fixed, member, marked⟩ : ∃ own : Key, own.deletable = false ∧
          (own = .token digest ∨ own ∈ token.lineage.keys) ∧ Revoked c.tables own := by
        rcases derives with rfl | derives
        · exact ⟨.token digest, rfl, .inl rfl, revoked⟩
        · obtain ⟨own, member, marked⟩ := recorded.revoked derives revoked
          exact ⟨own, Lineage.keys_fixed member, .inr member, marked⟩
      -- the mark was there when the call began, so both its statements have seen it
      have seen := Reachable.started
        (fun e after => Reachable.lasting (Revoked.lasts fixed) marked (before.trans after)) start later
      have whole : Reachable (system curve) (idle ∅) d := (reached.trans before).trans (.head ⟨_, start⟩ later)
      obtain ⟨_, job, running, effect⟩ := effect_of_commit whole step
      cases effect with
      | validate _ _ first second _ earlier earlier' valid holds =>
        exact validate_unrevoked valid member (seen job running first earlier)

end Runs

/-- A client with a status. -/
def sampleClient (status : ClientStatus) : ClientRow :=
  ⟨"client", "public", "none", status, ["https://client"], [readScope], [resource]⟩

/-- The client is registered and then revoked; after that no code that derives from it is redeemed. -/
theorem revocation_takes_effect_client : ∃ tables : Tables, Revoked tables (.client "client") ∧
    ∀ d : Config Row Unit Error Call Answer, Reachable (system ⟨id, fun _ _ => none⟩) (idle tables) d →
      ∀ i r changes answer e, Step (system ⟨id, fun _ _ => none⟩) d (.commit i (.redeem r) changes answer) e →
        ∀ k, d.tables.lookup (Key.code r.codeDigest) = some k → ¬ k.lineage.DerivesFrom tables (.client "client") := by
  let S := system ⟨id, fun _ _ => none⟩
  let first : Tables := write ∅ (.insert (.client "client") (sampleClient .active))
  have registered : Run S (idle ∅ : Config Row Unit Error Call Answer) _ (idle first) :=
    Run.start.administer (.insert (.client "client") (sampleClient .active) rfl) rfl
  let last : Tables := write first (.update (.client "client") (sampleClient .revoked))
  have revoked : Run S (idle ∅ : Config Row Unit Error Call Answer) _ (idle last) := registered.administer
    (Administers.update (.client "client") (sampleClient .active) (sampleClient .revoked) rfl rfl rfl) rfl
  have marked : Revoked last (.client "client") := ⟨sampleClient .revoked, rfl, rfl⟩
  exact ⟨_, marked, ((revocation_takes_effect revoked.reachable).2 _ marked).1⟩

end WizPay.Authority
