import WizPay.Providers.Circle.Adapter
import WizPay.Storage.EvidenceHistory

/-!
# Which reference is the latest

`latestReference` of the runtime and `LatestReference` of the evidence reference store
take the last row with a reference, in the order of the observation times that the
writing workers supplied.
-/
namespace WizPay.Storage

open Checks GoText GoTime Exec

instance : Std.Total EvidenceRow.before where
  total a b := by
    unfold EvidenceRow.before
    omega

instance : IsTrans EvidenceRow EvidenceRow.before where
  trans a b c := by
    unfold EvidenceRow.before
    omega

theorem EvidenceRow.before_refl (row : EvidenceRow) : row.before row := .inr ⟨rfl, le_rfl⟩

/-- The time that a write's row carries. -/
def Written.observedAt (w : Written) : Int := truncMicros w.result.observedAt

/-- The write stores a reference of the execution. -/
def Written.Carries (w : Written) (k : Key) : Prop := w.key = k ∧ w.result.adapterReference ≠ ""

/-- No reference of the execution was appended later; `ws` is newest first. -/
def AppendedLast (ws : List Written) (k : Key) (w : Written) : Prop :=
  ∃ n : Nat, ws.reverse[n]? = some w ∧ w.Carries k ∧
    ∀ (m : Nat) other, ws.reverse[m]? = some other → other.Carries k → m ≤ n

/-- No reference of the execution was observed later, or at the same time and appended later. -/
def ObservedLast (ws : List Written) (k : Key) (w : Written) : Prop :=
  ∃ n : Nat, ws.reverse[n]? = some w ∧ w.Carries k ∧ ∀ (m : Nat) other, ws.reverse[m]? = some other → other.Carries k →
    other.observedAt < w.observedAt ∨ other.observedAt = w.observedAt ∧ m ≤ n

variable {first t : ExecutionTables} {ws : List Written} {k : Key} {rows : List EvidenceRow} {values : List Result}

/-- The table holds the rows of the writes, in the order of the writes. -/
theorem history_rows (history : History first ws t) (fresh : first.evidence = []) :
    t.evidence = ws.reverse.mapIdx fun n w => w.row (n + 1) := by
  induction history with
  | start => simp [fresh]
  | write ws t after w _ accepted ih =>
    obtain ⟨_, rows, _⟩ := accepted_ok accepted
    rw [rows, List.reverse_cons, List.mapIdx_append, ← ih]
    simp [ih]
  | other ws t after _ evidence _ ih => rw [evidence, ih]

theorem mem_history_rows (history : History first ws t) (fresh : first.evidence = []) {row : EvidenceRow} :
    row ∈ t.evidence ↔ ∃ (n : Nat) (w : Written), ws.reverse[n]? = some w ∧ row = w.row (n + 1) := by
  rw [history_rows history fresh, List.mem_mapIdx]
  constructor
  · rintro ⟨n, bound, rfl⟩
    exact ⟨n, _, List.getElem?_eq_getElem bound, rfl⟩
  · rintro ⟨n, w, found, rfl⟩
    obtain ⟨bound, same⟩ := List.getElem?_eq_some_iff.mp found
    exact ⟨n, bound, by rw [same]⟩

/-! ### The last reference of a read -/

theorem evidenceFromRow_reference {row : EvidenceRow} {value : Result} (restored : evidenceFromRow row = .ok value) :
    value.adapterReference = trimSpace row.adapterReference := by
  simp only [evidenceFromRow, newResult, bind_ok, pure_ok] at restored
  obtain ⟨_, _, _, _, rfl⟩ := restored
  rfl

/-- In sorted rows the last reference stands in a row that no row with a reference comes after. -/
theorem lastReference_read (read : evidenceFromRows rows = .ok values) (sorted : rows.Pairwise EvidenceRow.before)
    (clean : ∀ row ∈ rows, trimSpace row.adapterReference = row.adapterReference) :
    match Runtime.lastReference values with
    | none => ∀ row ∈ rows, row.adapterReference = ""
    | some reference => ∃ row ∈ rows, row.adapterReference = reference ∧ reference ≠ "" ∧
        ∀ other ∈ rows, other.adapterReference ≠ "" → other.before row := by
  induction rows generalizing values with
  | nil =>
    cases read
    exact nofun
  | cons head rest ih =>
    simp only [evidenceFromRows, bind_ok, pure_ok] at read
    obtain ⟨value, restored, others, readOthers, rfl⟩ := read
    rw [List.pairwise_cons] at sorted
    have headReference := evidenceFromRow_reference restored
    rw [clean head List.mem_cons_self] at headReference
    have later := ih readOthers sorted.2 fun row member => clean row (.tail _ member)
    rw [Runtime.lastReference]
    cases last : Runtime.lastReference others with
    | some reference =>
      rw [last] at later
      obtain ⟨row, member, carries, some, latest⟩ := later
      refine ⟨row, .tail _ member, carries, some, ?_⟩
      intro other among filled
      rcases List.mem_cons.mp among with rfl | inRest
      · exact sorted.1 row member
      · exact latest other inRest filled
    | none =>
      rw [last] at later
      by_cases blank : value.adapterReference = ""
      · simp only [blank, if_true]
        intro row member
        rcases List.mem_cons.mp member with rfl | inRest
        · exact headReference ▸ blank
        · exact later row inRest
      · simp only [blank, if_false]
        refine ⟨head, .head _, headReference.symm, blank, ?_⟩
        intro other among filled
        rcases List.mem_cons.mp among with rfl | inRest
        · exact other.before_refl
        · exact absurd (later other inRest) filled

/-- What a reader takes for the latest reference is the one observed last. -/
theorem lastReference_observed (fresh : first.evidence = []) (history : History first ws t) {actorID : String}
    (readable : Readable t k actorID) (read : evidenceFromRows (findVerificationEvidence k actorID t) = .ok values) :
    match Runtime.lastReference values with
    | none => ∀ (n : Nat) w, ws.reverse[n]? = some w → ¬ w.Carries k
    | some reference => ∃ w, ObservedLast ws k w ∧ w.result.adapterReference = reference := by
  have recorded := history_recorded history fresh
  have member {row : EvidenceRow} : row ∈ findVerificationEvidence k actorID t ↔
      ∃ (n : Nat) (w : Written), ws.reverse[n]? = some w ∧ row = w.row (n + 1) ∧ w.key = k := by
    rw [mem_findVerificationEvidence readable, mem_history_rows history fresh]
    constructor
    · rintro ⟨⟨n, w, found, rfl⟩, key⟩
      exact ⟨n, w, found, rfl, key⟩
    · rintro ⟨n, w, found, rfl, key⟩
      exact ⟨⟨n, w, found, rfl⟩, key⟩
  have clean : ∀ row ∈ findVerificationEvidence k actorID t, trimSpace row.adapterReference = row.adapterReference := by
    intro row listed
    obtain ⟨n, w, found, rfl, _⟩ := member.mp listed
    have valid := recorded.valid w (List.mem_reverse.mp (List.mem_of_getElem? found))
    by_cases blank : w.result.adapterReference = ""
    · simp [Written.row, blank]
    · exact (validateBoundedText_ok.mp (valid.adapterReference blank)).2.1
  have sorted : (findVerificationEvidence k actorID t).Pairwise EvidenceRow.before := by
    obtain ⟨record, found⟩ := readable
    rw [findVerificationEvidence, found]
    exact List.pairwise_insertionSort _ _
  have latest := lastReference_read read sorted clean
  split at latest
  next =>
    intro n w found carries
    exact carries.2 (latest _ (member.mpr ⟨n, w, found, rfl, carries.1⟩))
  next reference _ =>
    obtain ⟨row, listed, same, some, after⟩ := latest
    obtain ⟨n, w, found, rfl, key⟩ := member.mp listed
    refine ⟨w, ⟨n, found, ⟨key, ?_⟩, fun m other at_ carries => ?_⟩, same⟩
    · exact fun blank => some (same.symm.trans blank)
    · have ordered := after _ (member.mpr ⟨m, other, at_, rfl, carries.1⟩) carries.2
      simp only [EvidenceRow.before, Written.row] at ordered
      simp only [Written.observedAt]
      omega

theorem ObservedLast.unique {a b : Written} (first : ObservedLast ws k a) (second : ObservedLast ws k b) : a = b := by
  obtain ⟨n, atN, carriesA, latestA⟩ := first
  obtain ⟨m, atM, carriesB, latestB⟩ := second
  have bound := latestA m b atM carriesB
  have bound' := latestB n a atN carriesA
  obtain rfl : n = m := by omega
  exact Option.some.inj (atN.symm.trans atM)

/-- The reference appended last is the one read, by the runtime and by the adapter's store, exactly if the reference
observed last is the same. -/
theorem latest_reference_iff (fresh : first.evidence = []) (history : History first ws t) {actorID : String}
    (readable : Readable t k actorID) (read : evidenceFromRows (findVerificationEvidence k actorID t) = .ok values) :
    ((∀ w, AppendedLast ws k w → Runtime.lastReference values = some w.result.adapterReference ∧
        Providers.Circle.latestReference (.ok values) = (Providers.parseReference w.result.adapterReference).map some) ↔
      ∀ w other, AppendedLast ws k w → ObservedLast ws k other →
        other.result.adapterReference = w.result.adapterReference) := by
  have observed := lastReference_observed fresh history readable read
  constructor
  · intro latest w other appended last
    rw [(latest w appended).1] at observed
    obtain ⟨found, foundLast, same⟩ := observed
    rw [last.unique foundLast, same]
  · intro same w appended
    have taken : Runtime.lastReference values = some w.result.adapterReference := by
      cases last : Runtime.lastReference values with
      | none =>
        rw [last] at observed
        obtain ⟨n, at_, carries, _⟩ := appended
        exact absurd carries (observed n w at_)
      | some reference =>
        rw [last] at observed
        obtain ⟨other, otherLast, carried⟩ := observed
        rw [← carried, same w other appended otherLast]
    refine ⟨taken, ?_⟩
    rw [Providers.Circle.latestReference, taken]

/-! ### Two workers -/

/-- A worker appends a pending reference to the CONFIRMING execution, `late` nanoseconds after the first observation. -/
def appendedAt (reference : String) (late : Int) : Written :=
  ⟨.append, sampleScope, ⟨sampleRequest.executionID, 5, .confirming, reference, "", sampleRequest.createdAt + late⟩⟩

/-- The second worker's observation is `late` nanoseconds after the first one's. -/
def twoAppended (late : Int) : List Written := [appendedAt "ref_2" late, appendedAt "ref_1" 0]

def twoRows (late : Int) : ExecutionTables :=
  sampleTables .confirming [(appendedAt "ref_1" 0).row 1, (appendedAt "ref_2" late).row 2]

variable {late : Int}

theorem history_twoAppended (ahead : late = 1000000000 ∨ late = -1000000000) :
    History (sampleTables .confirming []) (twoAppended late) (twoRows late) := by
  have built : appendVerificationEvidenceParams sampleScope (appendedAt "ref_1" 0).result =
      .ok (evidenceParams sampleScope (appendedAt "ref_1" 0).result 5 "") := by decide +kernel
  have first : appendVerificationEvidence (evidenceParams sampleScope (appendedAt "ref_1" 0).result 5 "")
      (sampleTables .confirming []) = .ok (1, sampleTables .confirming [(appendedAt "ref_1" 0).row 1]) := by
    decide +kernel
  have builtSecond : appendVerificationEvidenceParams sampleScope (appendedAt "ref_2" late).result =
      .ok (evidenceParams sampleScope (appendedAt "ref_2" late).result 5 "") := by
    rcases ahead with rfl | rfl <;> decide +kernel
  have second : appendVerificationEvidence (evidenceParams sampleScope (appendedAt "ref_2" late).result 5 "")
      (sampleTables .confirming [(appendedAt "ref_1" 0).row 1]) = .ok (1, twoRows late) := by
    rcases ahead with rfl | rfl <;> decide +kernel
  exact .write _ _ _ _ (.write [] _ _ _ .start (.append _ _ _ _ built first)) (.append _ _ _ _ builtSecond second)

theorem twoRows_read (ahead : late = 1000000000 ∨ late = -1000000000) :
    Readable (twoRows late) sampleKey "user_1" ∧
      ∃ values, evidenceFromRows (findVerificationEvidence sampleKey "user_1" (twoRows late)) = .ok values := by
  have recorded := history_recorded (history_twoAppended ahead) rfl
  have readable : Readable (twoRows late) sampleKey "user_1" :=
    recorded.readers (appendedAt "ref_1" 0) (.tail _ (.head _))
  have kept : ∀ w ∈ twoAppended late, w.key = sampleKey → w.Kept := by
    intro w member _
    simp only [twoAppended, List.mem_cons, List.not_mem_nil, or_false] at member
    rcases member with rfl | rfl
    · rcases ahead with rfl | rfl <;> exact ⟨nofun, by decide⟩
    · exact ⟨nofun, by decide⟩
  obtain ⟨values, read, _⟩ := roundTrip_of_kept recorded kept "user_1" readable
  exact ⟨readable, values, read⟩

theorem second_appendedLast (late : Int) : AppendedLast (twoAppended late) sampleKey (appendedAt "ref_2" late) := by
  refine ⟨1, rfl, ⟨rfl, (by decide : ("ref_2" : String) ≠ "")⟩, fun m other at_ _ => ?_⟩
  have bound := (List.getElem?_eq_some_iff.mp at_).1
  simp only [twoAppended, List.reverse_cons, List.reverse_nil, List.nil_append, List.length_append, List.length_cons,
    List.length_nil] at bound
  omega

theorem twoAppended_cases {n : Nat} {w : Written} (at_ : (twoAppended late).reverse[n]? = some w) :
    n = 0 ∧ w = appendedAt "ref_1" 0 ∨ n = 1 ∧ w = appendedAt "ref_2" late := by
  match n, at_ with
  | 0, at_ => exact .inl ⟨rfl, (Option.some.inj at_).symm⟩
  | 1, at_ => exact .inr ⟨rfl, (Option.some.inj at_).symm⟩

/-- The second worker's clock is right. -/
theorem latest_reference_on_time :
    ∃ values, evidenceFromRows (findVerificationEvidence sampleKey "user_1" (twoRows 1000000000)) = .ok values ∧
      Runtime.lastReference values = some "ref_2" := by
  obtain ⟨readable, values, read⟩ := twoRows_read (.inl rfl)
  have iff := latest_reference_iff rfl (history_twoAppended (.inl rfl)) readable read
  refine ⟨values, read, (iff.mpr (fun w other appended last => ?_) _ (second_appendedLast _)).1⟩
  have carries : (appendedAt "ref_2" 1000000000).Carries sampleKey := ⟨rfl, by decide⟩
  obtain ⟨n, atN, _, newest⟩ := appended
  obtain ⟨m, atM, _, latest⟩ := last
  have bound := newest 1 _ rfl carries
  have ordered := latest 1 _ rfl carries
  have later : (appendedAt "ref_1" 0).observedAt < (appendedAt "ref_2" 1000000000).observedAt := by decide
  rcases twoAppended_cases atN with ⟨rfl, rfl⟩ | ⟨rfl, rfl⟩
  · omega
  · rcases twoAppended_cases atM with ⟨rfl, rfl⟩ | ⟨rfl, rfl⟩
    · omega
    · rfl

/-- The second worker's clock is one second behind the first one's: its reference was appended last, and the first
one's is read. -/
theorem slow_clock_hides_reference :
    ∃ values, History (sampleTables .confirming []) (twoAppended (-1000000000)) (twoRows (-1000000000)) ∧
      evidenceFromRows (findVerificationEvidence sampleKey "user_1" (twoRows (-1000000000))) = .ok values ∧
      AppendedLast (twoAppended (-1000000000)) sampleKey (appendedAt "ref_2" (-1000000000)) ∧
      Runtime.lastReference values = some "ref_1" := by
  have history := history_twoAppended (.inr rfl)
  obtain ⟨readable, values, read⟩ := twoRows_read (.inr rfl)
  have carries : (appendedAt "ref_1" 0).Carries sampleKey := ⟨rfl, by decide⟩
  refine ⟨values, history, read, second_appendedLast _, ?_⟩
  have observed := lastReference_observed rfl history readable read
  split at observed
  next => exact absurd carries (observed 0 _ rfl)
  next reference last =>
    obtain ⟨w, ⟨n, at_, _, latest⟩, same⟩ := observed
    have ordered := latest 0 _ rfl carries
    have earlier : (appendedAt "ref_2" (-1000000000)).observedAt < (appendedAt "ref_1" 0).observedAt := by decide
    rcases twoAppended_cases at_ with ⟨rfl, rfl⟩ | ⟨rfl, rfl⟩
    · rw [last, ← same]
      rfl
    · omega

end WizPay.Storage
