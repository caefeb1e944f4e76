import WizPay.Services.Outcome

/-!
# Repeating `CreateIntent`

The service freezes a new intent with the new instant in its material, so a repetition is
answered with the stored intent only within the same microsecond and as long as the stored
intent has not moved.
-/
namespace WizPay.Services

open Checks GoText GoTime Threads Threads.Routine Intents Intents.Intent History Storage Auth

section Repeat

variable {ctx again : Context} {command : CreateIntentCommand} {scope rescope : Scope} {i j : Intent}

/-- Two requests of one user, each with its own request ID and trace. -/
structure SameUser (ctx again : Context) (scope rescope : Scope) : Prop where
  granted : ctx.scope .createIntent = .ok scope
  regranted : again.scope .createIntent = .ok rescope
  tenant : rescope.tenantID = scope.tenantID
  actor : rescope.actorID = scope.actorID
  provider : ∀ request rerequest, ctx.trustedRequest = .ok request → again.trustedRequest = .ok rerequest →
    rerequest.principal.identityProvider = request.principal.identityProvider

theorem trustedRequest_of_scope {permission : Permission} (granted : ctx.scope permission = .ok scope) :
    ∃ request, ctx.trustedRequest = .ok request := by
  rw [Context.scope, bind_ok] at granted
  obtain ⟨request, trusted, -⟩ := granted
  exact ⟨request, trusted⟩

theorem storageScope_of_scope {permission : Permission} (granted : ctx.scope permission = .ok scope) :
    ctx.storageScope = .ok scope := by
  simp only [Context.scope, bind_ok] at granted
  obtain ⟨_, _, _, _, placed⟩ := granted
  exact placed

theorem normalizeCreation_createdAt_eq {p q : Params} {time : Int} (same : q = { p with createdAt := time })
    (micros : truncMicros time = truncMicros p.createdAt) : normalizeCreation q = normalizeCreation p := by
  subst same
  have equal : truncatePostgresTimestamp time = truncatePostgresTimestamp p.createdAt := by
    rw [truncatePostgresTimestamp_eq, truncatePostgresTimestamp_eq, micros]
  simp only [normalizeCreation, normalizeCreationAddresses, normalizeCreationTimestamps, normalizeParams, equal]

/-- What is asked for at two instants of one microsecond is the same intent. -/
theorem Asked.repeated {bindings : List BindingRow} {time retime : Int} (user : SameUser ctx again scope rescope)
    (asked : Asked ctx command bindings time scope i) (micros : truncMicros retime = truncMicros time) :
    Asked again command bindings retime rescope i := by
  obtain ⟨request, row, b, trusts, found, restored, authorized, frozen⟩ := asked.frozen
  obtain ⟨rerequest, retrusts⟩ := trustedRequest_of_scope user.regranted
  refine ⟨user.regranted, rerequest, row, b, retrusts, ?_, restored, ?_, ?_⟩
  · rw [user.tenant, user.actor]
    exact found
  · rw [user.actor]
    exact authorized
  · have asks : intentParams rescope rerequest.principal.identityProvider b command retime =
        { intentParams scope request.principal.identityProvider b command time with createdAt := retime } := by
      simp only [intentParams, user.tenant, user.actor, user.provider _ _ trusts retrusts]
    have same := normalizeCreation_createdAt_eq asks micros
    have first := (frozenIntent_ok (p := intentParams scope _ b command time)).mp frozen
    apply (frozenIntent_ok (p := intentParams rescope _ b command retime)).mpr
    rw [same]
    exact first

/-- An intent that was asked for has the microsecond of its instant, and nothing has happened to it. -/
theorem Asked.made {bindings : List BindingRow} {time : Int} (asked : Asked ctx command bindings time scope i) :
    i = i.params.frozen .created 2 ∧ i.params.createdAt = truncMicros time := by
  obtain ⟨request, row, b, -, -, -, -, frozen⟩ := asked.frozen
  obtain ⟨-, rfl⟩ := (frozenIntent_ok (p := intentParams _ _ _ _ _)).mp frozen
  exact ⟨rfl, normalizeCreation_createdAt _⟩

/-- Whatever is returned was frozen from this very call. -/
theorem createIntent_asked {w : World} (returned : (exec machine (createIntent ctx command) w).1 = .ok i) :
    ∃ scope, Asked ctx command w.tables.bindings (w.clock w.reads) scope i := by
  obtain ⟨scope, asked, -, -⟩ := createIntent_ok.mp (Prod.ext returned rfl)
  exact ⟨scope, asked⟩

/-- A repeated command returns the stored intent exactly when it comes in the microsecond of the first one and the
stored intent has not been moved since. -/
theorem createIntent_repeats {w after later : World} (user : SameUser ctx again scope rescope)
    (first : exec machine (createIntent ctx command) w = (.ok i, after)) (operations : List Operation)
    (found : findIntentByClientRequestID scope.tenantID i.params.clientRequestID scope.actorID later.tables =
      .ok (rowOf scope.tenantID (run act i operations)))
    (bindings : later.tables.bindings = w.tables.bindings)
    (versions : later.tables.bindingVersions = w.tables.bindingVersions) :
    (exec machine (createIntent again command) later).1 = .ok (run act i operations) ↔
      run act i operations = i ∧ truncMicros (later.clock later.reads) = truncMicros (w.clock w.reads) := by
  obtain ⟨first_scope, asked, storable, outcome⟩ := createIntent_ok.mp first
  obtain rfl : first_scope = scope := Except.ok.inj (asked.authority.symm.trans user.granted)
  obtain ⟨made, createdAt⟩ := asked.made
  have kept := (run_frozen (i := i) (by rw [made]; simp [Params.frozen]) operations).1
  constructor
  · intro returned
    obtain ⟨_, reasked⟩ := createIntent_asked returned
    obtain ⟨remade, recreatedAt⟩ := reasked.made
    refine ⟨?_, ?_⟩
    · rw [remade, kept, ← made]
    · rw [← recreatedAt, kept, createdAt]
  · rintro ⟨unmoved, micros⟩
    rw [unmoved] at found ⊢
    obtain ⟨provider, checks⟩ : w.tables.bindingVersions.any (providerRelates · (rowOf first_scope.tenantID i)) = true ∧
        (rowOf first_scope.tenantID i).satisfiesChecks = true := by
      rcases outcome with ⟨inserted, -, -⟩ | ⟨repeated, -⟩
      · exact ⟨inserted.admitted.provider, inserted.admitted.checks⟩
      · exact ⟨repeated.taken.provider, repeated.taken.checks⟩
    have collides : later.tables.intents.any ((rowOf first_scope.tenantID i).collides ·) = true :=
      List.any_eq_true.mpr ⟨_, List.mem_of_find?_eq_some (oneRow_ok.mp found), by simp [IntentRow.collides]⟩
    have reasked : Asked again command later.tables.bindings (later.clock later.reads) rescope i := by
      rw [bindings]
      exact asked.repeated user micros
    have repeated : Repeated later.tables rescope i := by
      constructor
      · rw [user.tenant]
        exact ⟨by rw [versions]; exact provider, checks, collides⟩
      · rw [user.tenant, user.actor]
        exact ⟨_, found, intentFromRow_rowOf asked.faithful.1 storable.lifecycleRevision.1 _⟩
    exact congrArg Prod.fst (createIntent_ok.mpr ⟨rescope, reasked, storable, .inr ⟨repeated, rfl⟩⟩)

end Repeat

theorem sample_granted : (sampleContext "user_1").scope .createIntent = .ok (sampleScope "user_1") := sampleUser.granted

theorem sample_created : exec machine (createIntent (sampleContext "user_1") (sampleCommand sampleBinding))
    (sampleWorld [sampleBinding] sampleSend.createdAt) =
      (.ok (sampleIntent sampleBinding), storedWorld [sampleBinding] sampleBinding sampleSend.createdAt) :=
  sampleUser.created (w := sampleWorld [sampleBinding] sampleSend.createdAt) rfl (by decide)
    (List.mem_singleton.mpr rfl) (List.mem_singleton.mpr rfl) rfl rfl

theorem sample_stored (time : Int) :
    findIntentByClientRequestID "tenant_1" "req_1" "user_1" (storedWorld [sampleBinding] sampleBinding time).tables =
      .ok (rowOf "tenant_1" (sampleIntent sampleBinding)) := rfl

theorem createIntent_repeats_at_once :
    (exec machine (createIntent (sampleContext "user_1") (sampleCommand sampleBinding))
      (storedWorld [sampleBinding] sampleBinding sampleSend.createdAt)).1 = .ok (sampleIntent sampleBinding) := by
  have user : SameUser (sampleContext "user_1") (sampleContext "user_1") (sampleScope "user_1") (sampleScope "user_1") :=
    ⟨sample_granted, sample_granted, rfl, rfl,
      fun _ _ trusted retrusted => by rw [Except.ok.inj (trusted.symm.trans retrusted)]⟩
  exact (createIntent_repeats user sample_created [] (sample_stored _) rfl rfl).mpr ⟨rfl, rfl⟩

/-- A microsecond later the same command of the same user is refused, long before its deadline. -/
theorem repeated_a_microsecond_later :
    let later := storedWorld [sampleBinding] sampleBinding (sampleSend.createdAt + 1000)
    let again := exec machine (createIntent (sampleContext "user_1") (sampleCommand sampleBinding))
    again (sampleWorld [sampleBinding] sampleSend.createdAt) =
        (.ok (sampleIntent sampleBinding), storedWorld [sampleBinding] sampleBinding sampleSend.createdAt) ∧
      sampleSend.createdAt + 1000 < (sampleCommand sampleBinding).deadline ∧
      (again later).1 ≠ .ok (sampleIntent sampleBinding) := by
  refine ⟨sample_created, by decide, ?_⟩
  intro returned
  obtain ⟨_, asked⟩ := createIntent_asked returned
  have createdAt : sampleSend.createdAt = truncMicros (sampleSend.createdAt + 1000) := asked.made.2
  exact absurd createdAt (by decide)

end WizPay.Services
