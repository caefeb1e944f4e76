import WizPay.Authority.Repository

/-!
# What a committed call has done

One statement for every call: when it commits, and what it changes. All that follows
argues from these effects only.
-/
namespace WizPay.Authority

open GoText GoTime RowLocks Txn

variable {instant : Int} {v : BrowserRow} {r : Siwe.Request}

section Parts

variable {now : Tables} {past : Tables → Prop} {held locked : List Key}

theorem runs_authenticationTime {denied : Error} :
    Runs now past held (authenticationTime denied) instant locked ↔ isZero instant = false ∧ locked = held := by
  simp only [authenticationTime, runs_bind, runs_now, runs_ensure, runs_pure, Bool.not_eq_true']
  constructor
  · rintro ⟨_, _, rfl, _, _, ⟨set, rfl⟩, rfl, rfl⟩
    exact ⟨set, rfl⟩
  · rintro ⟨set, rfl⟩
    exact ⟨instant, _, rfl, (), _, ⟨set, rfl⟩, rfl, rfl⟩

theorem runs_dbWallTime (runs : Runs now past held dbWallTime instant locked) : locked = held := by
  simp only [dbWallTime, runs_bind, runs_now, runs_pure] at runs
  obtain ⟨_, _, rfl, _, rfl⟩ := runs
  rfl

theorem runs_lockBrowser {digest : String} (runs : Runs now past held (lockBrowser digest) v locked) :
    now.lookup (Key.browser digest) = some v ∧ v.revokedAt = none ∧ locked = .browser digest :: held := by
  simp only [lockBrowser, runs_bind, runs_fetch, runs_now, runs_ensure, runs_pure, Bool.and_eq_true,
    Option.isNone_iff_eq_none] at runs
  obtain ⟨_, _, ⟨found, rfl⟩, _, _, rfl, _, _, ⟨⟨⟨live, _⟩, _⟩, rfl⟩, rfl, rfl⟩ := runs
  exact ⟨found, live, rfl⟩

theorem runs_lockBrowserReference {reference digest : String}
    (runs : Runs now past held (lockBrowserReference reference) (digest, v) locked) :
    now.lookup (Key.browser digest) = some v ∧ v.revokedAt = none ∧ v.reference = reference ∧
      locked = .browser digest :: held := by
  simp only [lockBrowserReference, runs_bind, runs_snapshot] at runs
  obtain ⟨tables, _, ⟨_, _, rfl⟩, runs⟩ := runs
  split at runs
  next => exact absurd runs runs_fail
  next other _ =>
    simp only [runs_bind, runs_ensure, runs_pure, beq_iff_eq, Prod.mk.injEq] at runs
    obtain ⟨_, _, locks, _, _, ⟨same, rfl⟩, ⟨rfl, rfl⟩, rfl⟩ := runs
    obtain ⟨found, live, rfl⟩ := runs_lockBrowser locks
    exact ⟨found, live, same, rfl⟩

theorem runs_lockBrowserTransaction {id : String} {t : TransactionRow}
    (runs : Runs now past held (lockBrowserTransaction id) t locked) :
    now.lookup (Key.transaction id) = some t ∧ t.completedAt = none ∧
      locked = .client t.clientID :: .transaction id :: held := by
  simp only [lockBrowserTransaction, runs_bind, runs_fetch, runs_ensure, runs_pure, Bool.and_eq_true,
    Option.isNone_iff_eq_none] at runs
  obtain ⟨_, _, ⟨found, rfl⟩, _, _, ⟨_, rfl⟩, _, _, ⟨⟨⟨⟨⟨fresh, _⟩, _⟩, _⟩, _⟩, rfl⟩, rfl, rfl⟩ := runs
  exact ⟨found, fresh, rfl⟩

end Parts

/-- The tables at some moment since the call began, when it had locked `held`. -/
def Seen (now : Tables) (past : Tables → Prop) (held : List Key) (seen : Tables) : Prop :=
  past seen ∧ Agree held seen now

/-- The browser session was open, and `found` is its OAuth session: the one of now, or
none, when there was none at some moment after the browser session was locked. -/
structure Withdraws (now : Tables) (past : Tables → Prop) (digest : String) (v : BrowserRow) (found : Option SessionRow) :
    Prop where
  browser : now.lookup (Key.browser digest) = some v
  live : v.revokedAt = none
  present : ∀ s, found = some s → v.state = .authenticated ∧
    now.lookup (Key.session v.tenantID v.userID v.reference) = some s
  absent : found = none → v.state = .authenticated → ∃ seen, past seen ∧ seen.lookup (Key.browser digest) = some v ∧
    seen.lookup (Key.session v.tenantID v.userID v.reference) = none

/-- The wallet evidence of the session holds now, or there was none at some moment
after `held` was locked. -/
def WalletChecked (now : Tables) (past : Tables → Prop) (held : List Key) (reference tenant user : String) : Prop :=
  (∃ seen, Seen now past held seen ∧ seen.lookup (Key.authentication reference) = none) ∨
    ∃ seen a t b, Seen now past held seen ∧ seen.lookup (Key.authentication reference) = some a ∧ a.tenantID = tenant ∧
      a.userID = user ∧ now.lookup (Key.tenant a.tenantID) = some t ∧
      now.lookup (Key.binding a.tenantID a.bindingID) = some b ∧ a.holds t b = true

section Parts

variable {now : Tables} {past : Tables → Prop} {held locked : List Key}

theorem runs_revokeBrowser {digest : String} {changes : List Change} (holds : Key.browser digest ∈ held)
    (browser : now.lookup (Key.browser digest) = some v) (live : v.revokedAt = none)
    (runs : Runs now past held (revokeBrowser digest v instant) changes locked) :
    ∃ found, Withdraws now past digest v found ∧ changes = revokeChanges digest v found instant := by
  unfold revokeBrowser at runs
  split at runs
  next pending =>
    obtain ⟨rfl, _⟩ := runs_pure.mp runs
    refine ⟨none, ⟨browser, live, by rintro _ ⟨⟩, ?_⟩, rfl⟩
    intro _ authenticated
    rw [pending] at authenticated
    cases authenticated
  next authenticated =>
    simp only [runs_bind, runs_seek, runs_pure] at runs
    obtain ⟨found, _, lookup, rfl, _⟩ := runs
    refine ⟨found, ⟨browser, live, ?_, ?_⟩, rfl⟩
    · rintro s rfl
      rcases lookup with ⟨row, present, same, _⟩ | ⟨_, none, _⟩
      · cases same
        exact ⟨authenticated, present⟩
      · cases none
    · rintro rfl _
      rcases lookup with ⟨row, _, same, _⟩ | ⟨⟨seen, earlier, agree, missing⟩, _, _⟩
      · cases same
      · exact ⟨seen, earlier, (agree _ holds).trans browser, missing⟩

theorem runs_checkSIWESession {reference tenant user : String}
    (runs : Runs now past held (checkSIWESession reference tenant user) () locked) :
    WalletChecked now past held reference tenant user ∧ held ⊆ locked := by
  refine ⟨?_, runs.held_subset⟩
  simp only [checkSIWESession, runs_bind, runs_snapshot] at runs
  obtain ⟨seen, _, ⟨earlier, agree, rfl⟩, runs⟩ := runs
  split at runs
  next missing => exact .inl ⟨seen, ⟨earlier, agree⟩, missing⟩
  next =>
    simp only [runs_bind, runs_snapshot] at runs
    obtain ⟨seen, _, ⟨earlier, agree, rfl⟩, runs⟩ := runs
    split at runs
    next => exact absurd runs runs_fail
    next a present =>
      simp only [runs_bind, runs_fetch, runs_ensure, Bool.and_eq_true, beq_iff_eq] at runs
      obtain ⟨_, _, ⟨⟨sameTenant, sameUser⟩, rfl⟩, t, _, ⟨tenant, rfl⟩, b, _, ⟨binding, rfl⟩, holds, _⟩ := runs
      exact .inr ⟨seen, a, t, b, ⟨earlier, agree⟩, present, sameTenant, sameUser, tenant, binding, holds⟩

end Parts

/-! ### Effects -/

/-- `CompleteOAuthAuthorization` grants. -/
structure Grants (now : Tables) (past : Tables → Prop) (t : Transaction) (d : BrowserDecision) (k : Code)
    (row : TransactionRow) (found : Option SessionRow) (browser : Option (String × BrowserRow)) : Prop where
  transaction : now.lookup (Key.transaction t.id) = some row
  uncompleted : row.completedAt = none
  identity : ∃ i, now.lookup (Key.identity k.tenantID k.userID) = some i ∧ i.provider = d.principal.identityProvider ∧
    i.subject = d.principal.providerSubject ∧ i.status = .active
  wallet : ∃ held, (∀ digest bs, browser = some (digest, bs) → Key.browser digest ∈ held) ∧
    WalletChecked now past held k.sessionID k.tenantID k.userID
  session : ∀ s, found = some s → now.lookup (Key.session k.tenantID k.userID k.sessionID) = some s
  live : (grantSession d found).revokedAt = none
  browserless : browser = none ↔ d.browserSessionReference = ""
  decision : ∀ digest bs, browser = some (digest, bs) → now.lookup (Key.browser digest) = some bs ∧
    bs.revokedAt = none ∧ bs.reference = d.browserSessionReference ∧ bs.state = .authenticated ∧
    bs.decision = .undecided ∧ bs.transactionID = t.id ∧ bs.reference = k.sessionID ∧ bs.tenantID = k.tenantID ∧
    bs.userID = k.userID ∧ bs.identityIssuer = d.principal.identityProvider ∧ bs.subject = d.principal.providerSubject

/-- `RedeemOAuthCode` issues a token. -/
structure Redeems (now : Tables) (past : Tables → Prop) (r : Redemption) (k : CodeRow) (u : ConsentRow) (s : SessionRow)
    (i : IdentityRow) : Prop where
  code : now.lookup (Key.code r.codeDigest) = some k
  unconsumed : k.consumedAt = none
  client : ∃ c, now.lookup (Key.client k.clientID) = some c ∧ c.status = .active
  consent : now.lookup (Key.consent k.tenantID k.userID k.consentID) = some u
  consented : u.revokedAt = none
  session : now.lookup (Key.session k.tenantID k.userID k.sessionID) = some s
  live : s.revokedAt = none
  identity : now.lookup (Key.identity k.tenantID k.userID) = some i
  active : i.status = .active
  subject : i.provider = u.identityIssuer ∧ i.subject = u.subject
  asked : k.challenge = r.challenge ∧ k.redirectURI = r.redirectURI ∧ k.clientID = r.clientID ∧ k.resource = r.resource
  wallet : ∃ held, Key.code r.codeDigest ∈ held ∧ WalletChecked now past held k.sessionID k.tenantID k.userID

/-- `FinalizeSIWE` has checked a challenge and its signature. -/
structure Finalizes (curve : Siwe.Curve) (now : Tables) (past : Tables → Prop) (r : Siwe.Request) (id signature : String)
    (v : BrowserRow) (c : ChallengeRow) (i : IdentityRow) (binding : String) (b : BindingRow) (instant : Int) : Prop where
  browser : now.lookup (Key.browser r.sessionDigest) = some v
  live : v.revokedAt = none
  pending : v.state = .pending
  undecided : v.decision = .undecided
  challenge : now.lookup (Key.challenge id) = some c
  unconsumed : c.consumedAt = none
  issuedTo : c.sessionReference = v.reference ∧ c.transactionID = v.transactionID ∧ c.tenantID = r.tenantID
  transaction : ∃ t, now.lookup (Key.transaction v.transactionID) = some t ∧ t.completedAt = none ∧ t.clientID = c.clientID
  identity : now.lookup (Key.identity r.tenantID b.userID) = some i
  tenant : ∃ t, now.lookup (Key.tenant r.tenantID) = some t ∧
    (t.status = .active ∨ c.purpose = .enroll ∧ t.status = .inactive)
  bound : now.lookup (Key.binding r.tenantID binding) = some b
  sole : ∃ seen b', past seen ∧ bindingsOf seen r.tenantID c.address = [(binding, b')]
  eligible : ∃ instant, b.eligible c.purpose instant = true
  timely : Siwe.validTime (c.challenge id) instant = true
  authentic : Siwe.message curve (c.challenge id) = some c.message
  signed : Siwe.verify curve c.message c.address signature = true
  enrolled : c.purpose = .authenticate → r.requireEnrollment = true →
    ∃ seen, past seen ∧ seen.lookup (Key.binding r.tenantID binding) = some b ∧
      hasVerifiedEnrollment seen r.tenantID b.userID binding = true

/-- What each call does when it commits. -/
inductive Effect (curve : Siwe.Curve) (now : Tables) (past : Tables → Prop) : Call → List Change → Answer → Prop
  | createTransaction (t : Transaction) (row : TransactionRow) (fresh : row.completedAt = none) :
      Effect curve now past (.createTransaction t) [.insert (.transaction t.id) row] .done
  | complete (t : Transaction) (d : BrowserDecision) (k : Code) (row : TransactionRow) (found : Option SessionRow)
      (browser : Option (String × BrowserRow)) (grants : Grants now past t d k row found browser) :
      Effect curve now past (.complete t d k) (grantChanges t d k row found browser) .done
  | redeem (r : Redemption) (k : CodeRow) (u : ConsentRow) (s : SessionRow) (i : IdentityRow) (instant : Int)
      (redeems : Redeems now past r k u s i) :
      Effect curve now past (.redeem r)
        [.update (.code r.codeDigest) { k with consumedAt := some (truncMicros instant) },
          .insert (.token r.tokenDigest) (redeemToken k u s i instant)]
        (.token (r.tokenDigest, redeemToken k u s i instant))
  | validate (digest : String) (instant : Int) (first second : Tables) (token : TokenRow) (seen : past first)
      (seen' : past second) (valid : validateOAuthAccessToken first digest (truncMicros instant) = some token)
      (holds : evidenceInvalid second token.sessionID token.tenantID token.userID = false) :
      Effect curve now past (.validate digest instant) [] (.token (digest, token))
  | revokeConsent (r : Revocation) (u : ConsentRow) (instant : Int) (kind : r.kind = .consent)
      (found : now.lookup (Key.consent r.tenantID r.userID r.id) = some u) :
      Effect curve now past (.revoke r)
        [.update (.consent r.tenantID r.userID r.id) { u with revokedAt := u.revokedAt.or (some (truncMicros instant)) }] .done
  | revokeToken (r : Revocation) (a : TokenRow) (instant : Int) (kind : r.kind = .token)
      (found : now.lookup (Key.token r.id) = some a) :
      Effect curve now past (.revoke r)
        [.update (.token r.id) { a with revokedAt := a.revokedAt.or (some (truncMicros instant)) }] .done
  | revokeSession (r : Revocation) (s : SessionRow) (instant : Int) (kind : r.kind = .session)
      (found : now.lookup (Key.session r.tenantID r.userID r.id) = some s) :
      Effect curve now past (.revoke r)
        [.update (.session r.tenantID r.userID r.id) { s with revokedAt := s.revokedAt.or (some (truncMicros instant)) }] .done
  | createBrowser (v : BrowserSession) (pending : v.state = .pending) (undecided : v.decision = .undecided) :
      Effect curve now past (.createBrowser v) (insertBrowser v) .done
  | rotate (digest proof : String) (next : BrowserSession) (old : BrowserRow) (found : Option SessionRow) (instant : Int)
      (withdraws : Withdraws now past digest old found) (undecided : old.decision = .undecided)
      (authenticated : next.state = .authenticated) (undecided' : next.decision = .undecided)
      (transaction : next.transactionID = old.transactionID)
      (principal : old.state = .authenticated → old.tenantID = next.tenantID ∧ old.userID = next.userID ∧
        old.identityIssuer = next.issuer ∧ old.subject = next.subject) :
      Effect curve now past (.rotate digest proof next) (revokeChanges digest old found instant ++ insertBrowser next) .done
  | logout (digest proof : String) (v : BrowserRow) (found : Option SessionRow) (instant : Int)
      (withdraws : Withdraws now past digest v found) :
      Effect curve now past (.logout digest proof) (revokeChanges digest v found instant) .done
  | deny (digest proof : String) (v : BrowserRow) (t : TransactionRow) (instant : Int)
      (browser : now.lookup (Key.browser digest) = some v) (live : v.revokedAt = none) (undecided : v.decision = .undecided)
      (transaction : now.lookup (Key.transaction v.transactionID) = some t) (uncompleted : t.completedAt = none) :
      Effect curve now past (.deny digest proof)
        [.update (.transaction v.transactionID) { t with completedAt := some (truncMicros instant) },
          .update (.browser digest) { v with decision := .denied }] .done
  | issue (r : Siwe.Request) (id nonce : String) (v : BrowserRow) (t : TransactionRow) (c : ChallengeRow)
      (browser : now.lookup (Key.browser r.sessionDigest) = some v) (live : v.revokedAt = none)
      (pending : v.state = .pending) (transaction : now.lookup (Key.transaction v.transactionID) = some t)
      (issuedTo : c.sessionReference = v.reference ∧ c.transactionID = v.transactionID ∧ c.clientID = t.clientID ∧
        c.tenantID = r.tenantID) (unconsumed : c.consumedAt = none) :
      Effect curve now past (.issue r id nonce) [.insert (.challenge id) c, .insert (.nonce nonce) id]
        (.challenge (c.challenge id))
  | enroll (r : Siwe.Request) (id signature : String) (next : Siwe.Rotation) (v : BrowserRow) (c : ChallengeRow)
      (i : IdentityRow) (binding : String) (b : BindingRow) (instant : Int) (purpose : c.purpose = .enroll)
      (finalizes : Finalizes curve now past r id signature v c i binding b instant) :
      Effect curve now past (.finalize r id signature next)
        [consumeChallenge id c instant, enrollmentProof r id c binding b instant] .enrollmentPending
  | authenticate (r : Siwe.Request) (id signature : String) (next : Siwe.Rotation) (v : BrowserRow) (c : ChallengeRow)
      (i : IdentityRow) (binding : String) (b : BindingRow) (instant : Int) (purpose : c.purpose = .authenticate)
      (finalizes : Finalizes curve now past r id signature v c i binding b instant) (named : next.reference ≠ "") :
      Effect curve now past (.finalize r id signature next)
        (consumeChallenge id c instant :: revokeChanges r.sessionDigest v none instant ++
          insertBrowser (authenticatedSession r id v i b next instant) ++ authenticationChanges r id binding b next instant)
        .done

section Texts

variable {curve : Siwe.Curve} {now : Tables} {past : Tables → Prop} {locked : List Key} {changes : List Change}
  {answer : Answer}

theorem runs_lockDecision {held : List Key} {t : Transaction} {d : BrowserDecision} {k : Code}
    {browser : Option (String × BrowserRow)} (runs : Runs now past [] (lockDecision t d k) browser held) :
    (browser = none ↔ d.browserSessionReference = "") ∧ ∀ digest bs, browser = some (digest, bs) →
      Key.browser digest ∈ held ∧ now.lookup (Key.browser digest) = some bs ∧
      bs.revokedAt = none ∧ bs.reference = d.browserSessionReference ∧ bs.state = .authenticated ∧
      bs.decision = .undecided ∧ bs.transactionID = t.id ∧ bs.reference = k.sessionID ∧ bs.tenantID = k.tenantID ∧
      bs.userID = k.userID ∧ bs.identityIssuer = d.principal.identityProvider ∧ bs.subject = d.principal.providerSubject := by
  unfold lockDecision at runs
  split at runs
  next empty =>
    obtain ⟨rfl, _⟩ := runs_pure.mp runs
    exact ⟨by simp [empty], by rintro _ _ ⟨⟩⟩
  next named =>
    simp only [runs_bind, runs_ensure, runs_pure, Bool.and_eq_true, beq_iff_eq] at runs
    obtain ⟨⟨digest, bs⟩, _, locks, _, _, ⟨⟨⟨⟨⟨⟨⟨⟨state, decision⟩, transaction⟩, reference⟩, tenant⟩, user⟩, issuer⟩, subject⟩, rfl⟩, rfl, rfl⟩ := runs
    obtain ⟨found, live, named', rfl⟩ := runs_lockBrowserReference locks
    refine ⟨by simp [named], ?_⟩
    rintro _ _ ⟨⟩
    exact ⟨.head _, found, live, named', state, decision, transaction, reference, tenant, user, issuer, subject⟩

theorem Effect.of_complete {t : Transaction} {d : BrowserDecision} {k : Code}
    (runs : Runs now past [] (completeOAuthAuthorization t d k) (changes, answer) locked) :
    Effect curve now past (.complete t d k) changes answer := by
  simp only [completeOAuthAuthorization, runs_bind, runs_fetch, runs_ensure, runs_seek, runs_pure, Bool.and_eq_true,
    beq_iff_eq, Option.isNone_iff_eq_none, Prod.mk.injEq] at runs
  obtain ⟨browser, held, decision, row, _, ⟨transaction, rfl⟩, c, _, ⟨client, rfl⟩, _, _, ⟨⟨⟨uncompleted, _⟩, _⟩, rfl⟩, _, _,
    ⟨_, rfl⟩, i, _, ⟨identity, rfl⟩, _, _, ⟨⟨⟨provider, subject⟩, active⟩, rfl⟩, _, checked, wallet, found, _, lookup, _, _,
    ⟨⟨live, _⟩, rfl⟩, _, _, timed, ⟨rfl, rfl⟩, _⟩ := runs
  obtain ⟨browserless, decided⟩ := runs_lockDecision decision
  refine .complete t d k row found browser ⟨transaction, uncompleted, ⟨i, identity, provider, subject, active⟩, ?_, ?_, live,
    browserless, fun digest bs named => (decided digest bs named).2⟩
  · refine ⟨_, ?_, (runs_checkSIWESession wallet).1⟩
    intro digest bs named
    simp [(decided digest bs named).1]
  · rintro s rfl
    rcases lookup with ⟨row, present, same, _⟩ | ⟨_, none, _⟩
    · cases same
      exact present
    · cases none

theorem Effect.of_redeem {r : Redemption} (runs : Runs now past [] (redeemOAuthCode r) (changes, answer) locked) :
    Effect curve now past (.redeem r) changes answer := by
  simp only [redeemOAuthCode, runs_bind, runs_fetch, runs_snapshot, runs_ensure, runs_pure, runs_authenticationTime,
    Bool.and_eq_true, beq_iff_eq, Option.isNone_iff_eq_none, Prod.mk.injEq] at runs
  obtain ⟨k, _, ⟨code, rfl⟩, c, _, ⟨client, rfl⟩, u, _, ⟨consent, rfl⟩, s, _, ⟨session, rfl⟩, i, _, ⟨identity, rfl⟩, tables, _,
    ⟨_, _, rfl⟩, _, _, ⟨⟨⟨⟨⟨⟨⟨⟨⟨⟨⟨⟨unconsumed, serves⟩, _⟩, _⟩, _⟩, _⟩, consented⟩, _⟩, live⟩, provider⟩, subject⟩, active⟩, rfl⟩, _, _,
    ⟨⟨⟨⟨⟨challenge, redirect⟩, sameClient⟩, sameResource⟩, _⟩, rfl⟩, _, checked, wallet, instant, _, ⟨_, rfl⟩, _, _, ⟨_, rfl⟩,
    ⟨rfl, rfl⟩, _⟩ := runs
  have status : c.status = .active := by
    simp only [ClientRow.serves, Bool.and_eq_true, beq_iff_eq] at serves
    exact serves.1.1.1.1.1
  exact .redeem r k u s i instant ⟨code, unconsumed, ⟨c, client, status⟩, consent, consented, session, live, identity, active,
    ⟨provider, subject⟩, ⟨challenge, redirect, sameClient, sameResource⟩, _, by simp, (runs_checkSIWESession wallet).1⟩

theorem Effect.of_validate {digest : String}
    (runs : Runs now past [] (validateOAuthToken digest instant) (changes, answer) locked) :
    Effect curve now past (.validate digest instant) changes answer := by
  simp only [validateOAuthToken, runs_bind, runs_snapshot] at runs
  obtain ⟨first, _, ⟨earlier, _, rfl⟩, runs⟩ := runs
  split at runs
  next => exact absurd runs runs_fail
  next token valid =>
    simp only [runs_bind, runs_snapshot, runs_ensure, runs_pure, Bool.not_eq_true', Prod.mk.injEq] at runs
    obtain ⟨second, _, ⟨earlier', _, rfl⟩, _, _, ⟨holds, rfl⟩, ⟨rfl, rfl⟩, _⟩ := runs
    exact .validate digest instant first second token earlier earlier' valid holds

theorem Effect.of_revoke {r : Revocation} (runs : Runs now past [] (revokeOAuthAuthority r) (changes, answer) locked) :
    Effect curve now past (.revoke r) changes answer := by
  simp only [revokeOAuthAuthority, runs_bind, runs_ensure, runs_authenticationTime] at runs
  obtain ⟨_, _, ⟨_, rfl⟩, instant, _, ⟨_, rfl⟩, runs⟩ := runs
  split at runs
  next kind =>
    simp only [runs_bind, runs_fetch, runs_pure, Prod.mk.injEq] at runs
    obtain ⟨u, _, ⟨found, rfl⟩, ⟨rfl, rfl⟩, _⟩ := runs
    exact .revokeConsent r u instant kind found
  next kind =>
    simp only [runs_bind, runs_fetch, runs_ensure, runs_pure, Prod.mk.injEq] at runs
    obtain ⟨a, _, ⟨found, rfl⟩, _, _, ⟨_, rfl⟩, ⟨rfl, rfl⟩, _⟩ := runs
    exact .revokeToken r a instant kind found
  next kind =>
    simp only [runs_bind, runs_fetch, runs_pure, Prod.mk.injEq] at runs
    obtain ⟨s, _, ⟨found, rfl⟩, ⟨rfl, rfl⟩, _⟩ := runs
    exact .revokeSession r s instant kind found

theorem Effect.of_createBrowser {v : BrowserSession}
    (runs : Runs now past [] (createBrowserSession v) (changes, answer) locked) :
    Effect curve now past (.createBrowser v) changes answer := by
  simp only [createBrowserSession, runs_bind, runs_ensure, runs_authenticationTime, runs_pure, Bool.and_eq_true, beq_iff_eq,
    Prod.mk.injEq] at runs
  obtain ⟨_, _, ⟨⟨⟨⟨pending, _⟩, _⟩, undecided⟩, rfl⟩, t, _, locks, _, _, ⟨_, rfl⟩, _, _, ⟨_, rfl⟩, ⟨rfl, rfl⟩, _⟩ := runs
  exact .createBrowser v pending undecided

theorem Effect.of_rotate {digest proof : String} {next : BrowserSession}
    (runs : Runs now past [] (rotateBrowserSession digest proof next) (changes, answer) locked) :
    Effect curve now past (.rotate digest proof next) changes answer := by
  simp only [rotateBrowserSession, runs_bind, runs_ensure, runs_fetch, runs_authenticationTime, runs_pure, Bool.and_eq_true,
    beq_iff_eq, Prod.mk.injEq] at runs
  obtain ⟨old, _, locks, _, _, ⟨⟨⟨⟨⟨⟨⟨_, undecided⟩, transaction⟩, authenticated⟩, undecided'⟩, _⟩, _⟩, rfl⟩, _, _, ⟨principal, rfl⟩, t, _,
    flow, i, _, ⟨_, rfl⟩, _, _, ⟨_, rfl⟩, instant, _, ⟨_, rfl⟩, _, _, ⟨_, rfl⟩, revoked, _, revokes, ⟨rfl, rfl⟩, _⟩ := runs
  obtain ⟨browser, live, rfl⟩ := runs_lockBrowser locks
  obtain ⟨_, _, rfl⟩ := runs_lockBrowserTransaction flow
  obtain ⟨found, withdraws, rfl⟩ := runs_revokeBrowser (by simp) browser live revokes
  refine .rotate digest proof next old found instant withdraws undecided authenticated undecided' transaction ?_
  intro state
  simpa [state, and_assoc] using principal

theorem Effect.of_logout {digest proof : String}
    (runs : Runs now past [] (revokeBrowserSession digest proof) (changes, answer) locked) :
    Effect curve now past (.logout digest proof) changes answer := by
  simp only [revokeBrowserSession, runs_bind, runs_ensure, runs_authenticationTime, runs_pure, Prod.mk.injEq] at runs
  obtain ⟨v, _, locks, _, _, ⟨_, rfl⟩, instant, _, ⟨_, rfl⟩, revoked, _, revokes, ⟨rfl, rfl⟩, _⟩ := runs
  obtain ⟨browser, live, rfl⟩ := runs_lockBrowser locks
  obtain ⟨found, withdraws, rfl⟩ := runs_revokeBrowser (by simp) browser live revokes
  exact .logout digest proof v found instant withdraws

theorem Effect.of_deny {digest proof : String}
    (runs : Runs now past [] (denyBrowserConsent digest proof) (changes, answer) locked) :
    Effect curve now past (.deny digest proof) changes answer := by
  simp only [denyBrowserConsent, runs_bind, runs_ensure, runs_authenticationTime, runs_pure, Bool.and_eq_true, beq_iff_eq,
    Prod.mk.injEq] at runs
  obtain ⟨v, _, locks, _, _, ⟨⟨_, undecided⟩, rfl⟩, t, _, flow, instant, _, ⟨_, rfl⟩, _, _, ⟨_, rfl⟩, ⟨rfl, rfl⟩, _⟩ := runs
  obtain ⟨browser, live, rfl⟩ := runs_lockBrowser locks
  obtain ⟨transaction, uncompleted, rfl⟩ := runs_lockBrowserTransaction flow
  exact .deny digest proof v t instant browser live undecided transaction uncompleted

theorem Effect.of_issue {id nonce : String}
    (runs : Runs now past [] (issueSIWE curve r id nonce) (changes, answer) locked) :
    Effect curve now past (.issue r id nonce) changes answer := by
  simp only [issueSIWE, runs_bind, runs_ensure, runs_fetch, runs_snapshot] at runs
  obtain ⟨v, _, locks, _, _, ⟨pending, rfl⟩, t, _, flow, tenant, _, ⟨_, rfl⟩, _, _, ⟨_, rfl⟩, tables, _, ⟨_, _, rfl⟩, runs⟩ := runs
  obtain ⟨browser, live, rfl⟩ := runs_lockBrowser locks
  obtain ⟨transaction, uncompleted, rfl⟩ := runs_lockBrowserTransaction flow
  simp only [siwePending, Bool.and_eq_true, beq_iff_eq] at pending
  split at runs
  next => exact absurd runs runs_fail
  next binding b i owned =>
    split at runs
    next => exact absurd runs runs_fail
    next =>
      simp only [runs_bind, runs_ensure, runs_snapshot] at runs
      obtain ⟨_, _, ⟨_, _, rfl⟩, _, _, ⟨_, rfl⟩, _, _, ⟨_, _, rfl⟩, _, _, ⟨_, rfl⟩, instant, _, clock, _, _, ⟨_, rfl⟩, runs⟩ := runs
      split at runs
      next => exact absurd runs runs_fail
      next message written =>
        simp only [runs_pure, Prod.mk.injEq] at runs
        obtain ⟨⟨rfl, rfl⟩, _⟩ := runs
        exact .issue r id nonce v t _ browser live pending.1.1.1 transaction ⟨rfl, rfl, rfl, rfl⟩ rfl

theorem runs_lockOwner {held : List Key} {c : ChallengeRow} {i : IdentityRow} {binding : String} {b : BindingRow}
    (runs : Runs now past held (lockOwner r c) (i, binding, b) locked) :
    now.lookup (Key.identity r.tenantID b.userID) = some i ∧
      (∃ t, now.lookup (Key.tenant r.tenantID) = some t ∧
        (t.status = .active ∨ c.purpose = .enroll ∧ t.status = .inactive)) ∧
      now.lookup (Key.binding r.tenantID binding) = some b ∧
      (∃ seen b', past seen ∧ bindingsOf seen r.tenantID c.address = [(binding, b')]) ∧
      (∃ instant, b.eligible c.purpose instant = true) ∧ Key.binding r.tenantID binding ∈ locked := by
  simp only [lockOwner, runs_bind, runs_snapshot] at runs
  obtain ⟨tables, _, ⟨_, _, rfl⟩, runs⟩ := runs
  split at runs
  next resolved _ =>
    simp only [runs_bind, runs_fetch, runs_ensure, runs_snapshot] at runs
    obtain ⟨i, _, ⟨identity, rfl⟩, _, _, ⟨_, rfl⟩, t, _, ⟨tenant, rfl⟩, _, _, ⟨serving, rfl⟩, seen, _,
      ⟨earlier, _, rfl⟩, runs⟩ := runs
    split at runs
    next binding b' sole =>
      simp only [runs_bind, runs_fetch, runs_ensure, runs_pure, Bool.and_eq_true, beq_iff_eq, Prod.mk.injEq] at runs
      obtain ⟨b, _, ⟨bound, rfl⟩, instant, _, clock, _, _, ⟨⟨eligible, owner⟩, rfl⟩, ⟨rfl, rfl, rfl⟩, rfl⟩ := runs
      cases runs_dbWallTime clock
      rw [← owner] at identity
      simp only [Bool.or_eq_true, Bool.and_eq_true, beq_iff_eq] at serving
      exact ⟨identity, ⟨t, tenant, serving⟩, bound, ⟨seen, b', earlier, sole⟩, ⟨instant, eligible⟩, .head _⟩
    next => exact absurd runs runs_fail
  next => exact absurd runs runs_fail

theorem Effect.of_finalize {id signature : String} {next : Siwe.Rotation}
    (runs : Runs now past [] (finalizeSIWE curve r id signature next) (changes, answer) locked) :
    Effect curve now past (.finalize r id signature next) changes answer := by
  simp only [finalizeSIWE, runs_bind, runs_ensure, runs_fetch, runs_snapshot, Bool.and_eq_true, beq_iff_eq,
    Option.isNone_iff_eq_none] at runs
  obtain ⟨v, _, locks, _, _, ⟨waiting, rfl⟩, c, _, ⟨challenge, rfl⟩, _, _, ⟨⟨⟨⟨unconsumed, session⟩, flowID⟩, tenantID⟩, rfl⟩, t, _, flow, _, _,
    ⟨client, rfl⟩, ⟨i, binding, b⟩, _, owner, _, _, clock, _, _, ⟨_, rfl⟩, _, _, ⟨authentic, rfl⟩, seen, _, ⟨earlier, agree, rfl⟩, _, _,
    ⟨enrolled, rfl⟩, _, _, ⟨signed, rfl⟩, instant, _, clock', _, _, ⟨⟨⟨timely, _⟩, _⟩, rfl⟩, _, _,
    ⟨⟨_, named⟩, rfl⟩, runs⟩ := runs
  obtain ⟨browser, live, rfl⟩ := runs_lockBrowser locks
  obtain ⟨transaction, uncompleted, rfl⟩ := runs_lockBrowserTransaction flow
  obtain ⟨identity, tenant, bound, sole, eligible, held⟩ := runs_lockOwner owner
  cases runs_dbWallTime clock
  cases runs_dbWallTime clock'
  simp only [siwePending, Bool.and_eq_true, beq_iff_eq] at waiting
  have finalizes : Finalizes curve now past r id signature v c i binding b instant :=
    { browser, live, pending := waiting.1.1.1, undecided := waiting.1.1.2, challenge, unconsumed,
      issuedTo := ⟨session, flowID, tenantID⟩, transaction := ⟨t, transaction, uncompleted, client⟩, identity, tenant, bound,
      sole, eligible, timely, authentic, signed
      enrolled := by
        intro purpose required
        refine ⟨seen, earlier, (agree _ held).trans bound, ?_⟩
        simpa [purpose, required] using enrolled }
  split at runs
  next purpose =>
    simp only [runs_pure, Prod.mk.injEq] at runs
    obtain ⟨⟨rfl, rfl⟩, _⟩ := runs
    exact .enroll r id signature next v c i binding b instant purpose finalizes
  next purpose =>
    -- a pending session has no OAuth session of its own
    simp only [revokeBrowser, finalizes.pending, runs_bind, runs_pure, Prod.mk.injEq] at runs
    obtain ⟨_, _, ⟨rfl, rfl⟩, ⟨rfl, rfl⟩, _⟩ := runs
    exact .authenticate r id signature next v c i binding b instant purpose finalizes (by simpa using named)

theorem Effect.of_runs {call : Call} (runs : Runs now past [] (text curve call) (changes, answer) locked) :
    Effect curve now past call changes answer := by
  cases call with
  | createTransaction t =>
    simp only [text, createOAuthTransaction, runs_pure, Prod.mk.injEq] at runs
    obtain ⟨⟨rfl, rfl⟩, _⟩ := runs
    exact .createTransaction t _ rfl
  | complete t d k => exact .of_complete runs
  | redeem r => exact .of_redeem runs
  | validate digest instant => exact .of_validate runs
  | revoke r => exact .of_revoke runs
  | createBrowser v => exact .of_createBrowser runs
  | rotate digest proof next => exact .of_rotate runs
  | logout digest proof => exact .of_logout runs
  | deny digest proof => exact .of_deny runs
  | issue r id nonce => exact .of_issue runs
  | finalize r id signature next => exact .of_finalize runs

end Texts

section Written

variable {curve : Siwe.Curve} {now after : Tables} {past : Tables → Prop} {call : Call} {changes : List Change}
  {answer : Answer} {digest : String} {b : BrowserRow}

/-- A browser session begins undecided, with an entry in the index of references. -/
theorem Effect.inserts_browser (effect : Effect curve now past call changes answer)
    (member : Write.insert (Key.browser digest) b ∈ changes) :
    ∃ v : BrowserSession, v.digest = digest ∧ v.row = b ∧ v.decision = .undecided ∧ insertBrowser v ⊆ changes := by
  cases effect with
  | createBrowser v pending undecided =>
    obtain ⟨rfl, rfl⟩ : digest = v.digest ∧ b = v.row := by simpa using member
    exact ⟨v, rfl, rfl, undecided, List.Subset.refl _⟩
  | rotate _ proof next old found instant withdraws undecided authenticated undecided' =>
    obtain ⟨rfl, rfl⟩ : digest = next.digest ∧ b = next.row := by simpa using member
    exact ⟨next, rfl, rfl, undecided', List.subset_append_right _ _⟩
  | authenticate r id signature next v c i binding b' instant purpose finalizes =>
    obtain ⟨rfl, rfl⟩ : digest = next.digest ∧ b = (authenticatedSession r id v i b' next instant).row := by
      simpa [consumeChallenge, authenticatedSession] using member
    refine ⟨authenticatedSession r id v i b' next instant, rfl, rfl, rfl, ?_⟩
    intro change listed
    rw [List.mem_append, List.mem_append]
    exact .inl (.inr listed)
  | _ => simp [consumeChallenge, enrollmentProof] at member

/-- An open browser session is granted, denied or withdrawn. -/
inductive Decides (now : Tables) (past : Tables → Prop) (changes : List Change) (digest : String) (old : BrowserRow) :
    BrowserRow → Prop
  | grant (t : Transaction) (d : BrowserDecision) (k : Code) (row : TransactionRow) (found : Option SessionRow)
      (grants : Grants now past t d k row found (some (digest, old)))
      (whole : changes = grantChanges t d k row found (some (digest, old))) :
      Decides now past changes digest old { old with decision := .granted }
  | deny (t : TransactionRow) (undecided : old.decision = .undecided)
      (transaction : now.lookup (Key.transaction old.transactionID) = some t) (uncompleted : t.completedAt = none) :
      Decides now past changes digest old { old with decision := .denied }
  | withdraw (found : Option SessionRow) (instant : Int) (withdraws : Withdraws now past digest old found)
      (whole : old.decision = .undecided ∨ changes = revokeChanges digest old found instant) :
      Decides now past changes digest old { old with revokedAt := some (truncMicros instant) }

theorem Effect.updates_browser (effect : Effect curve now past call changes answer)
    (member : Write.update (Key.browser digest) b ∈ changes) :
    ∃ old, now.lookup (Key.browser digest) = some old ∧ old.revokedAt = none ∧ Decides now past changes digest old b := by
  cases effect with
  | complete t d k row found browser grants =>
    obtain ⟨name, bs, rfl, rfl, rfl⟩ : ∃ name bs, browser = some (name, bs) ∧ digest = name ∧
        b = { bs with decision := .granted } := by simpa using member
    obtain ⟨present, live, _⟩ := grants.decision digest bs rfl
    exact ⟨bs, present, live, .grant t d k row found grants rfl⟩
  | rotate name proof next old found instant withdraws undecided authenticated undecided' =>
    obtain ⟨rfl, rfl⟩ : digest = name ∧ b = { old with revokedAt := some (truncMicros instant) } := by simpa using member
    exact ⟨old, withdraws.browser, withdraws.live, .withdraw found instant withdraws (.inl undecided)⟩
  | logout name proof v found instant withdraws =>
    obtain ⟨rfl, rfl⟩ : digest = name ∧ b = { v with revokedAt := some (truncMicros instant) } := by simpa using member
    exact ⟨v, withdraws.browser, withdraws.live, .withdraw found instant withdraws (.inr rfl)⟩
  | deny name proof v t instant browser live undecided transaction uncompleted =>
    obtain ⟨rfl, rfl⟩ : digest = name ∧ b = { v with decision := .denied } := by simpa using member
    exact ⟨v, browser, live, .deny t undecided transaction uncompleted⟩
  | authenticate r id signature next v c i binding b' instant purpose finalizes =>
    obtain ⟨rfl, rfl⟩ : digest = r.sessionDigest ∧ b = { v with revokedAt := some (truncMicros instant) } := by
      simpa [consumeChallenge] using member
    refine ⟨v, finalizes.browser, finalizes.live, .withdraw none instant ⟨finalizes.browser, finalizes.live, ?_, ?_⟩
      (.inl finalizes.undecided)⟩
    · intro s impossible
      cases impossible
    · intro _ authenticated
      rw [finalizes.pending] at authenticated
      cases authenticated
  | _ => simp [consumeChallenge, enrollmentProof] at member

end Written

section Commits

variable {ι : Type} [DecidableEq ι] {curve : Siwe.Curve} {c d : Config Row ι Error Call Answer} {i : ι} {call : Call}
  {changes : List Change} {answer : Answer}

/-- Every commit is an effect at the tables that it changes; `job` is what has committed. -/
theorem effect_of_commit {tables : Tables} (reached : Reachable (system curve) (idle tables) c)
    (step : Step (system curve) c (.commit i call changes answer) d) :
    applyAll lawful c.tables changes = some d.tables ∧
      ∃ job, c.job i = some job ∧ Effect curve c.tables (· ∈ job.since) call changes answer := by
  obtain ⟨applied, job, locked, running, runs⟩ := reached.commit step
  exact ⟨applied, job, running, .of_runs runs⟩

/-- The same with what an invariant says of all that the call has seen. -/
theorem effect_of_keeps {tables : Tables} {I : Tables → Prop} {R : Tables → Tables → Prop} (keeps : Keeps I R c)
    (reached : Reachable (system curve) (idle tables) c) (step : Step (system curve) c (.commit i call changes answer) d) :
    applyAll lawful c.tables changes = some d.tables ∧
      Effect curve c.tables (fun seen => I seen ∧ R seen c.tables) call changes answer := by
  obtain ⟨applied, locked, runs⟩ := keeps.commit reached step
  exact ⟨applied, .of_runs runs⟩

end Commits

section Administration

variable {now after : Tables} {changes : List Change}

/-- Administration writes only rows of its own tables: every other row was there. -/
theorem Administers.lookup_before (administered : Administers now changes)
    (applied : applyAll lawful now changes = some after) {key : Key} (own : key.administrative = false) {row : Row key}
    (found : after.lookup key = some row) : now.lookup key = some row := by
  rcases mem_of_lookup applied found with before | inserted | updated
  · exact before
  all_goals
    cases administered with
    | insert k r owned => simp_all [Key.administrative]
    | update k old r owned => simp_all [Key.administrative]
    | cleanup => simp_all

/-- It deletes pending browser sessions, each with the reference by which it is found. -/
theorem Administers.deletes_browser (administered : Administers now changes) {digest : String}
    (member : Write.delete (Key.browser digest) ∈ changes) :
    ∃ row, now.lookup (Key.browser digest) = some row ∧ row.state = .pending := by
  cases administered with
  | cleanup d row found pending =>
    obtain rfl : digest = d := by simpa using member
    exact ⟨row, found, pending⟩
  | _ => simp at member

theorem Administers.deletes_reference (administered : Administers now changes) {reference : String}
    (member : Write.delete (Key.browserReference reference) ∈ changes) :
    ∃ digest row, now.lookup (Key.browser digest) = some row ∧ row.reference = reference ∧
      changes = [.delete (.browser digest), .delete (.browserReference reference)] := by
  cases administered with
  | cleanup d row found pending =>
    obtain rfl : reference = row.reference := by simpa using member
    exact ⟨d, row, found, rfl, rfl⟩
  | _ => simp at member

end Administration

end WizPay.Authority
