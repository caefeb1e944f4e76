import WizPay.Authority.History

/-!
# Wallet authority and the rotation of sessions

A session that `FinalizeSIWE` authenticated carries evidence, against which grants,
redemptions and validations check the wallet binding and the tenant as they are. A
session without evidence passes, and `RotateBrowserSession` copies no evidence.
-/
namespace WizPay.Authority

open GoText GoTime RowLocks Txn

/-- The tenant is not active, or the binding is revoked or has another version than
the one that the evidence names. -/
def Withdrawn (tables : Tables) (a : AuthenticationRow) : Prop :=
  (∃ t, tables.lookup (Key.tenant a.tenantID) = some t ∧ t.status ≠ .active) ∨
    ∃ b, tables.lookup (Key.binding a.tenantID a.bindingID) = some b ∧
      (b.status = .revoked ∨ b.version ≠ a.bindingVersion)

theorem Withdrawn.not_holds {tables : Tables} {a : AuthenticationRow} (withdrawn : Withdrawn tables a) {t : TenantRow}
    {b : BindingRow} (tenant : tables.lookup (Key.tenant a.tenantID) = some t)
    (binding : tables.lookup (Key.binding a.tenantID a.bindingID) = some b) : a.holds t b = false := by
  rcases withdrawn with ⟨t', found, inactive⟩ | ⟨b', found, changed⟩
  · cases found.symm.trans tenant
    simp [AuthenticationRow.holds, inactive]
  · cases found.symm.trans binding
    rcases changed with revoked | version
    · simp [AuthenticationRow.holds, revoked]
    · simp [AuthenticationRow.holds, version]

theorem Withdrawn.invalid {tables : Tables} {session : String} {a : AuthenticationRow} (withdrawn : Withdrawn tables a)
    (evidence : tables.lookup (Key.authentication session) = some a) (tenant user : String) :
    evidenceInvalid tables session tenant user = true := by
  unfold evidenceInvalid
  rw [evidence]
  rcases withdrawn with ⟨t, found, inactive⟩ | ⟨b, found, changed⟩
  · simp [found, inactive]
  · rcases changed with revoked | version
    · simp [found, revoked]
    · simp [found, version]

/-- Where evidence comes from: its tenant has been active, and its binding has had
the version. -/
structure Rooted (tables : Tables) (session : String) (a : AuthenticationRow) : Prop where
  named : session ≠ ""
  tenant : ∃ t, tables.lookup (Key.tenant a.tenantID) = some t ∧ t.status ≠ .inactive
  binding : ∃ b, tables.lookup (Key.binding a.tenantID a.bindingID) = some b ∧ a.bindingVersion ≤ b.version

def AllRooted (tables : Tables) : Prop :=
  ∀ session a, tables.lookup (Key.authentication session) = some a → Rooted tables session a

/-- Evidence stays, and once withdrawn it stays withdrawn. -/
def Endures (first second : Tables) : Prop :=
  ∀ session a, first.lookup (Key.authentication session) = some a →
    second.lookup (Key.authentication session) = some a ∧ (Withdrawn first a → Withdrawn second a)

/-- What becomes of a row in a step: the triggers pass its update, and it moves onward. -/
def Moved (key : Key) (old new : Row key) : Prop := new = old ∨ keeps key old new = true ∧ onward key old new = true

section Preservation

variable {curve : Siwe.Curve} {now after : Tables} {past : Tables → Prop} {call : Call} {changes : List Change}
  {answer : Answer} {session : String} {a : AuthenticationRow}

theorem Administers.moved (administered : Administers now changes) (applied : applyAll lawful now changes = some after)
    {key : Key} (fixed : key.deletable = false) {old : Row key} (found : now.lookup key = some old) :
    ∃ new, after.lookup key = some new ∧ Moved key old new := by
  cases administered with
  | insert k row owned =>
    simp only [applyAll_cons, applyAll_nil] at applied
    obtain ⟨allowed, rfl⟩ := applied
    have other : key ≠ k := by
      rintro rfl
      cases found.symm.trans (lawful_insert allowed).1
    exact ⟨old, (lookup_write_of_ne other).trans found, .inl rfl⟩
  | update k before row owned present onwards =>
    simp only [applyAll_cons, applyAll_nil] at applied
    obtain ⟨allowed, rfl⟩ := applied
    by_cases same : key = k
    · subst same
      obtain ⟨checked, present', kept, _⟩ := lawful_update allowed
      cases present.symm.trans present'
      cases present.symm.trans found
      exact ⟨row, lookup_write_update _ _ _, .inr ⟨kept, onwards⟩⟩
    · exact ⟨old, (lookup_write_of_ne same).trans found, .inl rfl⟩
  | cleanup digest row =>
    refine ⟨old, (lookup_applyAll applied ?_).trans found, .inl rfl⟩
    intro change member same
    simp only [List.mem_cons, List.not_mem_nil, or_false] at member
    rcases member with rfl | rfl <;> cases same <;> cases fixed

theorem Effect.moved (effect : Effect curve now past call changes answer) (applied : applyAll lawful now changes = some after)
    {key : Key} (owned : key.administrative = true) {old : Row key} (found : now.lookup key = some old) :
    ∃ new, after.lookup key = some new ∧ Moved key old new := by
  refine ⟨old, (lookup_applyAll applied ?_).trans found, .inl rfl⟩
  rintro change member rfl
  cases owned.symm.trans (effect.unadministered member)

/-- A tenant that left INACTIVE does not return to it, and stays REVOKED. -/
theorem tenant_moved {id : String} {old new : TenantRow} (moved : Moved (.tenant id) old new) (begun : old.status ≠ .inactive) :
    new.status ≠ .inactive ∧ (old.status ≠ .active → new.status ≠ .active) := by
  rcases moved with rfl | ⟨kept, onwards⟩
  · exact ⟨begun, fun stopped => stopped⟩
  · simp only [keeps, onward, Bool.or_eq_true, bne_iff_ne, beq_iff_eq] at kept onwards
    refine ⟨onwards.resolve_right begun, ?_⟩
    intro stopped
    have revoked : old.status = .revoked := by
      cases status : old.status with
      | inactive => exact absurd status begun
      | active => exact absurd status stopped
      | revoked => rfl
    rw [kept.resolve_left (fun other => other revoked)]
    rintro ⟨⟩

/-- A binding gets a new version with every update, and stays REVOKED. -/
theorem binding_moved {tenant id : String} {old new : BindingRow} (moved : Moved (.binding tenant id) old new) :
    old.version ≤ new.version ∧ (old.status = .revoked → new.status = .revoked) := by
  rcases moved with rfl | ⟨kept, _⟩
  · exact ⟨le_refl _, fun revoked => revoked⟩
  · simp only [keeps, Bool.and_eq_true, Bool.or_eq_true, bne_iff_ne, beq_iff_eq] at kept
    refine ⟨by omega, ?_⟩
    intro revoked
    exact (kept.2.resolve_left (fun other => other revoked)).1

variable (moved : ∀ key : Key, key.administrative = true → key.deletable = false → ∀ old, now.lookup key = some old →
  ∃ new, after.lookup key = some new ∧ Moved key old new)

include moved

theorem Rooted.lasts (rooted : Rooted now session a) : Rooted after session a := by
  obtain ⟨t, tenant, begun⟩ := rooted.tenant
  obtain ⟨b, binding, version⟩ := rooted.binding
  obtain ⟨t', tenant', onwards⟩ := moved _ rfl rfl t tenant
  obtain ⟨b', binding', onwards'⟩ := moved _ rfl rfl b binding
  exact ⟨rooted.named, ⟨t', tenant', (tenant_moved onwards begun).1⟩,
    b', binding', version.trans (binding_moved onwards').1⟩

theorem Withdrawn.lasts (rooted : Rooted now session a) (withdrawn : Withdrawn now a) : Withdrawn after a := by
  rcases withdrawn with ⟨t, tenant, stopped⟩ | ⟨b, binding, changed⟩
  · obtain ⟨t', tenant', onwards⟩ := moved _ rfl rfl t tenant
    obtain ⟨t'', present, begun⟩ := rooted.tenant
    cases present.symm.trans tenant
    exact .inl ⟨t', tenant', (tenant_moved onwards begun).2 stopped⟩
  · obtain ⟨b', binding', onwards⟩ := moved _ rfl rfl b binding
    obtain ⟨b'', present, version⟩ := rooted.binding
    cases present.symm.trans binding
    obtain ⟨grows, final⟩ := binding_moved onwards
    refine .inr ⟨b', binding', changed.imp final ?_⟩
    -- the version has passed that of the evidence
    omega

omit moved

/-- New evidence names the binding and the tenant that the finalization has locked. -/
theorem Effect.roots (effect : Effect curve now past call changes answer)
    (member : Write.insert (Key.authentication session) a ∈ changes) : Rooted now session a := by
  cases effect with
  | authenticate r id signature next v c i binding b instant purpose finalizes named =>
    obtain ⟨rfl, rfl⟩ : session = next.reference ∧ a = _ := by simpa [consumeChallenge] using member
    obtain ⟨t, tenant, active⟩ := finalizes.tenant
    refine ⟨named, ⟨t, tenant, ?_⟩, b, finalizes.bound, le_refl _⟩
    simp only [purpose, reduceCtorEq, false_and, or_false] at active
    rw [active]
    rintro ⟨⟩
  | _ => simp [consumeChallenge, enrollmentProof] at member

theorem rooted_preserved : Preserved (system curve) AllRooted Endures where
  refl tables session a evidence := ⟨evidence, fun withdrawn => withdrawn⟩
  trans first second third early late session a evidence := by
    obtain ⟨kept, lasts⟩ := early session a evidence
    obtain ⟨kept', lasts'⟩ := late session a kept
    exact ⟨kept', fun withdrawn => lasts' (lasts withdrawn)⟩
  commit now after call changes answer locked rooted runs applied := by
    have effect := Effect.of_runs runs
    have moved (key : Key) (owned : key.administrative = true) (_ : key.deletable = false) (old : Row key)
        (found : now.lookup key = some old) := effect.moved applied owned found
    refine ⟨?_, ?_⟩
    · intro session a evidence
      rcases mem_of_lookup applied evidence with before | inserted | updated
      · exact (rooted session a before).lasts moved
      · exact (effect.roots inserted).lasts moved
      · cases not_updated (fun _ _ => rfl) applied updated
    · intro session a evidence
      exact ⟨unchanged_lasts (undeleted_of_fixed rfl applied) (fun _ _ => rfl) applied evidence,
        Withdrawn.lasts moved (rooted session a evidence)⟩
  administer now after changes rooted administered applied := by
    have moved (key : Key) (_ : key.administrative = true) (fixed : key.deletable = false) (old : Row key)
        (found : now.lookup key = some old) := administered.moved applied fixed found
    refine ⟨?_, ?_⟩
    · intro session a evidence
      exact (rooted session a (administered.lookup_before applied rfl evidence)).lasts moved
    · intro session a evidence
      exact ⟨unchanged_lasts (undeleted_of_fixed rfl applied) (fun _ _ => rfl) applied evidence,
        Withdrawn.lasts moved (rooted session a evidence)⟩

end Preservation

/-! ### Rotation -/

abbrev Event (ι : Type) := Move Row ι Error Call Answer

/-- The step rotated the authenticated browser session `old` into `new`. -/
def Event.Rotates {ι : Type} (move : Event ι) (old new : String) : Prop :=
  ∃ i digest proof next changes answer row, move.label = .commit i (.rotate digest proof next) changes answer ∧
    move.before.tables.lookup (Key.browser digest) = some row ∧ row.state = .authenticated ∧ row.reference = old ∧
    next.reference = new

/-- The sessions that come from one another by any number of rotations in a run. -/
def Descends {ι : Type} (moves : List (Event ι)) : String → String → Prop :=
  Relation.ReflTransGen fun old new => ∃ move ∈ moves, move.Rotates old new

/-- The step does not rotate a session that carries evidence. -/
def Event.Spares {ι : Type} (move : Event ι) : Prop :=
  ∀ old new, move.Rotates old new → move.before.tables.lookup (Key.authentication old) = none

section Runs

variable {curve : Siwe.Curve} {ι : Type} [DecidableEq ι] {c d e : Config Row ι Error Call Answer} {session : String}
  {a : AuthenticationRow}

/-- All that holds of reachable tables, and between those that a call sees. -/
abbrev History (tables : Tables) : Prop := Consistent tables ∧ AllRooted tables
abbrev Onward (first second : Tables) : Prop := Continues first second ∧ Endures first second

theorem rooted_empty : AllRooted ∅ := by
  intro session a found
  cases found

theorem WalletChecked.not_withdrawn {now : Tables} {held : List Key} {tenant user : String}
    (checked : WalletChecked now (fun seen => History seen ∧ Onward seen now) held session tenant user)
    (evidence : now.lookup (Key.authentication session) = some a)
    (early : ∀ seen, Seen now (fun seen => History seen ∧ Onward seen now) held seen →
      seen.lookup (Key.authentication session) = now.lookup (Key.authentication session)) : ¬ Withdrawn now a := by
  intro withdrawn
  rcases checked with ⟨seen, earlier, missing⟩ | ⟨seen, a', t, b, earlier, present, _, _, tenant, binding, holds⟩
  · cases missing.symm.trans ((early seen earlier).trans evidence)
  · cases present.symm.trans ((early seen earlier).trans evidence)
    rw [withdrawn.not_holds tenant binding] at holds
    cases holds

/-- A grant finds the evidence of its browser session, which it has locked. -/
theorem Grants.not_withdrawn {now : Tables} {t : Transaction} {d : BrowserDecision} {k : Code} {row : TransactionRow}
    {found : Option SessionRow} {browser : Option (String × BrowserRow)}
    (grants : Grants now (fun seen => History seen ∧ Onward seen now) t d k row found browser) (rooted : AllRooted now)
    (evidence : now.lookup (Key.authentication d.browserSessionReference) = some a) : ¬ Withdrawn now a := by
  cases browser with
  | none => exact absurd (grants.browserless.mp rfl) (rooted _ a evidence).named
  | some locked =>
    obtain ⟨digest, bs⟩ := locked
    obtain ⟨present, _, made, authenticated, _, _, reference, _⟩ := grants.decision digest bs rfl
    obtain ⟨held, lock, checked⟩ := grants.wallet
    rw [← made, reference] at evidence
    refine checked.not_withdrawn evidence ?_
    rintro seen ⟨⟨_, continues, _⟩, agree⟩
    have earlier : seen.lookup (Key.browser digest) = some bs := (agree _ (lock digest bs rfl)).trans present
    rw [← reference]
    exact (continues.evidence digest bs earlier authenticated).symm

/-- The code of a granted browser session is of that session. -/
theorem Consistent.sessionID {now : Tables} (consistent : Consistent now) {digest name : String} {k : CodeRow}
    {b : BrowserRow} (code : now.lookup (Key.code digest) = some k) (browser : now.lookup (Key.browser name) = some b)
    (granted : b.decision = .granted) (flow : b.transactionID = k.transactionID) : k.sessionID = b.reference := by
  obtain ⟨digest', k', u, issued, present, reference, _⟩ := consistent.granted name b browser granted
  rw [flow] at issued
  cases issued.symm.trans (consistent.issued digest k code)
  cases present.symm.trans code
  exact reference

/-- A redemption finds the evidence of the browser session that its code was granted in:
that session was granted, and had its evidence, before the code could be locked. -/
theorem Redeems.not_withdrawn {now : Tables} {r : Redemption} {k : CodeRow} {u : ConsentRow} {s : SessionRow}
    {i : IdentityRow} (redeems : Redeems now (fun seen => History seen ∧ Onward seen now) r k u s i)
    (consistent : Consistent now) {digest : String} {b : BrowserRow} (browser : now.lookup (Key.browser digest) = some b)
    (granted : b.decision = .granted) (flow : b.transactionID = k.transactionID)
    (evidence : now.lookup (Key.authentication b.reference) = some a) : ¬ Withdrawn now a := by
  obtain ⟨held, lock, checked⟩ := redeems.wallet
  have same := consistent.sessionID redeems.code browser granted flow
  rw [← same] at evidence
  refine checked.not_withdrawn evidence ?_
  rintro seen ⟨⟨⟨before, _⟩, continues, _⟩, agree⟩
  have code : seen.lookup (Key.code r.codeDigest) = some k := (agree _ lock).trans redeems.code
  obtain ⟨b', earlier, granted', _, reference⟩ := continues.granted _ k code digest b browser granted flow
  rw [same, ← reference]
  exact (continues.evidence digest b' earlier (before.recorded digest b' earlier granted').1).symm

/-- While no session with evidence is rotated, nothing stems from one. -/
theorem Descends.eq {moves more : List (Event ι)} (run : Run (system curve) (idle ∅) moves c)
    (further : Run (system curve) c more d) (spared : ∀ move ∈ more ++ moves, move.Spares)
    (evidence : c.tables.lookup (Key.authentication session) = some a) {stem : String}
    (descends : Descends (more ++ moves) session stem) : stem = session := by
  rcases Relation.ReflTransGen.cases_head descends with rfl | ⟨next, ⟨move, member, rotates⟩, _⟩
  · rfl
  · have missing := spared move member session next rotates
    obtain ⟨_, _, _, _, _, _, row, _, present, authenticated, rfl, _⟩ := rotates
    rcases List.mem_append.mp member with later | earlier
    · -- evidence stays until the rotation
      obtain ⟨before, _, _⟩ := further.between later
      have endures := rooted_preserved.related rooted_empty run.reachable before
      cases missing.symm.trans (endures _ a evidence).1
    · -- and none comes after it
      obtain ⟨before, step, after⟩ := run.between earlier
      have continues := consistent_preserved.related consistent_empty before (.head ⟨_, step⟩ after)
      cases missing.symm.trans ((continues.evidence _ row present authenticated).symm.trans evidence)

end Runs

/-- A client is registered. -/
theorem registered : ∃ moves : List (Event Unit), moves ≠ [] ∧ Run (system ⟨id, fun _ _ => none⟩) (idle ∅) moves
    (idle (write ∅ (.insert (.client "client") (sampleClient .active)))) :=
  ⟨_, List.cons_ne_nil _ _, Run.start.administer (.insert (.client "client") (sampleClient .active) rfl) rfl⟩

end WizPay.Authority
