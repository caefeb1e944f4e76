import WizPay.Storage.RuntimeRepository

/-!
# Evidence read back

Three paths append a row of evidence: `PersistClaimedObservation`,
`PersistClaimedEvidence` and `AppendVerificationEvidence`. `FindVerificationEvidence`
validates every row of an execution again and gives up at the first bad one.
-/
namespace WizPay.Storage

open Checks GoText GoTime Exec

inductive EvidencePath
  | claimedObservation | claimedEvidence | append
deriving DecidableEq

/-- One observation handed to a durable path. -/
structure Written where
  path : EvidencePath
  scope : Scope
  result : Result
deriving DecidableEq

def Written.key (w : Written) : Key := (w.scope.tenantID, w.result.executionID)

/-- The error code that reaches the row. -/
def Written.storedCode (w : Written) : String :=
  match w.path with
  | .claimedObservation => ""
  | .claimedEvidence => w.result.errorCode
  | .append => w.result.errorCode

/-- The path accepts the observation and commits. -/
inductive Accepted (t : ExecutionTables) : Written → ExecutionTables → Prop
  | claimedObservation (claim : ExecutionClaim) (evidence : Result) (value : Execution) (expected : Nat)
      (record : Audit.Record) (now : Int) (f : Fence) (u : ExecutionUpdate) (p : EvidenceParams) (a : AuditRow)
      (after : ExecutionTables)
      (built : persistClaimedObservationParams claim evidence value expected record now = .ok (f, u, p, a))
      (committed : persistClaimed f u p a t = .ok after) :
      Accepted t ⟨.claimedObservation, claim.scope, evidence⟩ after
  | claimedEvidence (claim : ExecutionClaim) (evidence : Result) (value : Execution) (expected : Nat)
      (record : Audit.Record) (now : Int) (f : Fence) (u : ExecutionUpdate) (p : EvidenceParams) (a : AuditRow)
      (after : ExecutionTables)
      (built : persistClaimedEvidenceParams claim evidence value expected record now = .ok (f, u, p, a))
      (committed : persistClaimed f u p a t = .ok after) :
      Accepted t ⟨.claimedEvidence, claim.scope, evidence⟩ after
  | append (scope : Scope) (evidence : Result) (p : EvidenceParams) (after : ExecutionTables)
      (built : appendVerificationEvidenceParams scope evidence = .ok p)
      (committed : appendVerificationEvidence p t = .ok (1, after)) : Accepted t ⟨.append, scope, evidence⟩ after

/-- The actor may read the execution. -/
def Readable (t : ExecutionTables) (k : Key) (actorID : String) : Prop :=
  ∃ record, findExecutionByID k actorID t = .ok record

/-- Accepted writes, newest first, among changes that keep the evidence and its readers. -/
inductive History (first : ExecutionTables) : List Written → ExecutionTables → Prop
  | start : History first [] first
  | write (ws : List Written) (t after : ExecutionTables) (w : Written) (history : History first ws t)
      (accepted : Accepted t w after) : History first (w :: ws) after
  | other (ws : List Written) (t after : ExecutionTables) (history : History first ws t)
      (evidence : after.evidence = t.evidence)
      (readers : ∀ k actorID, Readable t k actorID → Readable after k actorID) : History first ws after

/-- Every reader of execution `k` gets all its evidence, and in it every observation with a
microsecond time unchanged. -/
def RoundTrip (ws : List Written) (t : ExecutionTables) (k : Key) : Prop :=
  ∀ actorID, Readable t k actorID → ∃ values,
    evidenceFromRows (findVerificationEvidence k actorID t) = .ok values ∧
      ∀ w ∈ ws, w.key = k → WholeMicros w.result.observedAt → w.result ∈ values

/-- The write keeps its error code, and its time does not become the zero instant. -/
def Written.Kept (w : Written) : Prop :=
  (w.path = .claimedObservation → w.result.errorCode = "") ∧ truncMicros w.result.observedAt ≠ 0

/-! ### One accepted write -/

variable {t after first : ExecutionTables} {w : Written} {ws : List Written} {k : Key}

def Written.row (w : Written) (evidenceID : Nat) : EvidenceRow :=
  { tenantID := w.scope.tenantID, evidenceID := evidenceID, executionID := w.result.executionID,
    executionVersion := w.result.executionVersion, status := w.result.status,
    adapterReference := w.result.adapterReference, errorCode := w.storedCode,
    observedAt := truncMicros w.result.observedAt }

variable {actorID : String}

theorem readable_of_tables (readable : Readable t k actorID) (executions : after.executions = t.executions)
    (requests : after.requests = t.requests) :
    Readable after k actorID := by
  obtain ⟨record, found⟩ := readable
  refine ⟨record, ?_⟩
  simpa only [findExecutionByID, ExecutionTables.executionOf, ExecutionTables.requestOf, executions, requests]
    using found

/-- A reader stays a reader when the execution moves on: its row keeps its key and its request. -/
theorem readable_updateExecution {u : ExecutionUpdate} (readable : Readable t k actorID)
    (updated : updateExecution u t = .ok after) : Readable after k actorID := by
  obtain ⟨_, _, _, _, _, rfl⟩ := updateExecution_ok updated
  obtain ⟨⟨e, r⟩, found⟩ := readable
  obtain ⟨located, owned⟩ := findExecutionByID_ok.mp found
  refine ⟨⟨if k = u.key then u.apply e else e, r⟩, findExecutionByID_ok.mpr ⟨?_, ?_⟩⟩
  · have stored : Table.lookup ExecutionRow.key k t.executions = some e := located
    simp only [ExecutionTables.executionOf, Table.lookup_modify u.apply_key, stored, Option.map_some]
  · dsimp only
    split
    all_goals exact owned

/-- An append that inserts puts its row at the end, and its actor may read the execution. -/
theorem append_inserted {p : EvidenceParams} (appended : appendVerificationEvidence p t = .ok (1, after)) :
    after = { t with evidence := t.evidence ++ [p.row (t.evidence.length + 1)] } ∧
      Readable after p.key p.actorID := by
  rcases appendVerificationEvidence_ok appended with ⟨none_inserted, _⟩ | ⟨_, selected, _, rfl⟩
  · cases none_inserted
  · refine ⟨rfl, ?_⟩
    unfold EvidenceParams.selects at selected
    split at selected
    next e located =>
      simp only [Bool.and_eq_true] at selected
      obtain ⟨r, owned⟩ := Option.isSome_iff_exists.mp selected.2
      have readable : Readable t p.key p.actorID := ⟨⟨e, r⟩, findExecutionByID_ok.mpr ⟨located, owned⟩⟩
      exact readable_of_tables readable rfl rfl
    next => cases selected

theorem persistClaimed_inserted {f : Fence} {u : ExecutionUpdate} {p : EvidenceParams} {a : AuditRow}
    (committed : persistClaimed f u p a t = .ok after) :
    after.evidence = t.evidence ++ [p.row (t.evidence.length + 1)] ∧ Readable after p.key p.actorID ∧
      ∀ k actorID, Readable t k actorID → Readable after k actorID := by
  obtain ⟨_, mid, last, updated, appended, recorded⟩ := persistClaimed_ok committed
  obtain ⟨rfl, readable⟩ := append_inserted appended
  have kept : mid.evidence = t.evidence := by
    obtain ⟨_, _, _, _, _, rfl⟩ := updateExecution_ok updated
    rfl
  rw [appendAudit_ok recorded]
  refine ⟨by simp only [kept], readable_of_tables readable rfl rfl, fun k actorID before => ?_⟩
  exact readable_of_tables (readable_updateExecution before updated) rfl rfl

theorem accepted_ok (accepted : Accepted t w after) :
    w.result.Valid ∧ after.evidence = t.evidence ++ [w.row (t.evidence.length + 1)] ∧
      Readable after w.key w.scope.actorID ∧
      ∀ k actorID, Readable t k actorID → Readable after k actorID := by
  cases accepted with
  | claimedObservation claim evidence value expected record now f u p a _ built committed =>
    simp only [persistClaimedObservationParams, bind_ok, dbVersion_ok, pure_ok, Prod.mk.injEq] at built
    obtain ⟨_, _, _, valid, _, _, _, _, _, ⟨_, _, rfl⟩, _, _, _, _, rfl, rfl, rfl, rfl⟩ := built
    obtain ⟨rows, readable, readers⟩ := persistClaimed_inserted committed
    exact ⟨Result.validate_ok.mp valid, rows, readable, readers⟩
  | claimedEvidence claim evidence value expected record now f u p a _ built committed =>
    simp only [persistClaimedEvidenceParams, bind_ok, dbVersion_ok, pure_ok, Prod.mk.injEq] at built
    obtain ⟨_, _, _, valid, _, _, _, _, _, ⟨_, _, rfl⟩, _, _, _, _, rfl, rfl, rfl, rfl⟩ := built
    obtain ⟨rows, readable, readers⟩ := persistClaimed_inserted committed
    exact ⟨Result.validate_ok.mp valid, rows, readable, readers⟩
  | append scope evidence p _ built committed =>
    simp only [appendVerificationEvidenceParams, bind_ok, dbVersion_ok, pure_ok] at built
    obtain ⟨_, _, _, valid, _, ⟨_, _, rfl⟩, rfl⟩ := built
    obtain ⟨rfl, readable⟩ := append_inserted committed
    exact ⟨Result.validate_ok.mp valid, rfl, readable, fun k actorID before =>
      readable_of_tables before rfl rfl⟩

/-! ### Reading -/

theorem Written.storedCode_eq (kept : w.path = .claimedObservation → w.result.errorCode = "") :
    w.storedCode = w.result.errorCode := by
  unfold Written.storedCode
  split
  next path => exact (kept path).symm
  next => rfl
  next => rfl

/-- A row reads back exactly when its write was kept, and then as the observation with its stored time. -/
theorem evidenceFromRow_row {id : Nat} {value : Result} (valid : w.result.Valid) :
    evidenceFromRow (w.row id) = .ok value ↔
      w.Kept ∧ value = { w.result with observedAt := truncMicros w.result.observedAt } := by
  obtain ⟨idText, referenceText, codeText⟩ := valid.trimmed_texts
  simp only [evidenceFromRow, bind_ok, domainVersion_ok, newResult_ok]
  constructor
  · rintro ⟨version, ⟨_, rfl⟩, readable, rfl⟩
    have kept : w.path = .claimedObservation → w.result.errorCode = "" := by
      intro path
      rcases valid.kind with ⟨_, _, code⟩ | ⟨failure, _⟩
      · exact code
      · -- a stored failure without its code is not a valid observation
        rcases readable.kind with ⟨success, _, _⟩ | ⟨_, code⟩
        · exact absurd success (Bool.eq_false_iff.mp (Result.isSuccess_of_isFailure failure))
        · have stored : trimSpace w.storedCode = "" := by simp [Written.storedCode, path]
          exact absurd stored code
    refine ⟨⟨kept, readable.observedAt⟩, ?_⟩
    simp only [Result.trimmed, Written.row, idText, referenceText, Written.storedCode_eq kept, codeText]
  · rintro ⟨⟨kept, time⟩, rfl⟩
    refine ⟨_, ⟨valid.executionVersion, rfl⟩, ?_, ?_⟩
    · simp only [Result.trimmed, Written.row, idText, referenceText, Written.storedCode_eq kept, codeText]
      exact ⟨valid.executionID, valid.executionVersion, time, valid.kind, valid.adapterReference, valid.errorCode⟩
    · simp only [Result.trimmed, Written.row, idText, referenceText, Written.storedCode_eq kept, codeText]

theorem evidenceFromRows_ok {rows : List EvidenceRow} :
    (∃ values, evidenceFromRows rows = .ok values) ↔ ∀ row ∈ rows, ∃ value, evidenceFromRow row = .ok value := by
  induction rows with
  | nil => simp [evidenceFromRows]
  | cons row rest ih =>
    simp only [evidenceFromRows, bind_ok, pure_ok, List.forall_mem_cons, ← ih]
    constructor
    · rintro ⟨_, value, first, values, others, _⟩
      exact ⟨⟨value, first⟩, ⟨values, others⟩⟩
    · rintro ⟨⟨value, first⟩, ⟨values, others⟩⟩
      exact ⟨_, value, first, values, others, rfl⟩

theorem mem_evidenceFromRows {rows : List EvidenceRow} {values : List Result} {row : EvidenceRow} {value : Result}
    (read : evidenceFromRows rows = .ok values) (member : row ∈ rows) (restored : evidenceFromRow row = .ok value) :
    value ∈ values := by
  induction rows generalizing values with
  | nil => cases member
  | cons first rest ih =>
    simp only [evidenceFromRows, bind_ok, pure_ok] at read
    obtain ⟨head, headRead, tail, tailRead, rfl⟩ := read
    rcases List.mem_cons.mp member with rfl | later
    · rw [headRead] at restored
      cases restored
      exact .head _
    · exact .tail _ (ih tailRead later)

theorem mem_findVerificationEvidence {row : EvidenceRow} (readable : Readable t k actorID) :
    row ∈ findVerificationEvidence k actorID t ↔ row ∈ t.evidence ∧ row.key = k := by
  obtain ⟨record, found⟩ := readable
  simp only [findVerificationEvidence, found, List.mem_insertionSort, List.mem_filter, Bool.and_eq_true,
    beq_iff_eq, EvidenceRow.key, Prod.ext_iff]

/-! ### Histories -/

/-- The evidence after a history is what its writes stored, and the writers may read it. -/
structure Recorded (ws : List Written) (t : ExecutionTables) : Prop where
  valid : ∀ w ∈ ws, w.result.Valid
  stored : ∀ w ∈ ws, ∃ id, w.row id ∈ t.evidence
  sources : ∀ row ∈ t.evidence, ∃ w ∈ ws, ∃ id, row = w.row id
  readers : ∀ w ∈ ws, Readable t w.key w.scope.actorID

theorem history_recorded (history : History first ws t) (fresh : first.evidence = []) : Recorded ws t := by
  induction history with
  | start =>
    refine ⟨nofun, nofun, fun row member => ?_, nofun⟩
    rw [fresh] at member
    cases member
  | write ws t after w _ accepted ih =>
    obtain ⟨valid, rows, readable, readers⟩ := accepted_ok accepted
    refine ⟨?_, ?_, ?_, ?_⟩
    · exact List.forall_mem_cons.mpr ⟨valid, ih.valid⟩
    · refine List.forall_mem_cons.mpr ⟨⟨_, by rw [rows]; exact List.mem_append_right _ List.mem_cons_self⟩, fun earlier member => ?_⟩
      obtain ⟨id, stored⟩ := ih.stored earlier member
      exact ⟨id, by simp [rows, stored]⟩
    · intro row member
      rw [rows] at member
      rcases List.mem_append.mp member with before | last
      · obtain ⟨source, listed, id, rfl⟩ := ih.sources row before
        exact ⟨source, .tail _ listed, id, rfl⟩
      · exact ⟨w, .head _, _, List.mem_singleton.mp last⟩
    · exact List.forall_mem_cons.mpr ⟨readable, fun earlier member => readers _ _ (ih.readers earlier member)⟩
  | other ws t after _ evidence readers ih =>
    refine ⟨ih.valid, ?_, ?_, fun w member => readers _ _ (ih.readers w member)⟩
    · rw [evidence]
      exact ih.stored
    · rw [evidence]
      exact ih.sources

/-- A read that succeeds has met no row that lost its error code. -/
theorem kept_of_roundTrip (recorded : Recorded ws t) (roundTrip : RoundTrip ws t k) :
    ∀ w ∈ ws, w.key = k → w.Kept := by
  rintro w member rfl
  have readable := recorded.readers w member
  obtain ⟨values, read, _⟩ := roundTrip _ readable
  obtain ⟨id, stored⟩ := recorded.stored w member
  have listed := (mem_findVerificationEvidence readable).mpr ⟨stored, rfl⟩
  obtain ⟨value, restored⟩ := evidenceFromRows_ok.mp ⟨values, read⟩ _ listed
  exact ((evidenceFromRow_row (recorded.valid w member)).mp restored).1

theorem roundTrip_of_kept (recorded : Recorded ws t) (kept : ∀ w ∈ ws, w.key = k → w.Kept) :
    RoundTrip ws t k := by
  intro actorID readable
  have rows : ∀ row ∈ findVerificationEvidence k actorID t, ∃ value, evidenceFromRow row = .ok value := by
    intro row member
    obtain ⟨stored, key⟩ := (mem_findVerificationEvidence readable).mp member
    obtain ⟨w, listed, id, rfl⟩ := recorded.sources row stored
    exact ⟨_, (evidenceFromRow_row (recorded.valid w listed)).mpr ⟨kept w listed key, rfl⟩⟩
  obtain ⟨values, read⟩ := evidenceFromRows_ok.mpr rows
  refine ⟨values, read, fun w listed key micros => ?_⟩
  obtain ⟨id, stored⟩ := recorded.stored w listed
  refine mem_evidenceFromRows read ((mem_findVerificationEvidence readable).mpr ⟨stored, key⟩) ?_
  refine (evidenceFromRow_row (recorded.valid w listed)).mpr ⟨kept w listed key, ?_⟩
  rw [micros.trunc]

/-- Whatever the three paths have accepted for an execution is read back unchanged, to the
microsecond, exactly when none of those writes lost its error code or its time. -/
theorem roundTrip_iff (fresh : first.evidence = []) (history : History first ws t) (k : Key) :
    RoundTrip ws t k ↔ ∀ w ∈ ws, w.key = k → w.Kept :=
  ⟨kept_of_roundTrip (history_recorded history fresh), roundTrip_of_kept (history_recorded history fresh)⟩

/-- An observation appended to a CONFIRMING execution. -/
def sampleAppended : Written :=
  ⟨.append, sampleScope, ⟨sampleRequest.executionID, 5, .confirming, "ref_1", "", sampleRequest.createdAt⟩⟩

theorem roundTrip_appended : ∃ t, History (sampleTables .confirming []) [sampleAppended] t ∧
    ∃ values, evidenceFromRows (findVerificationEvidence sampleKey "user_1" t) = .ok values ∧
      sampleAppended.result ∈ values := by
  have built : appendVerificationEvidenceParams sampleScope sampleAppended.result =
      .ok (evidenceParams sampleScope sampleAppended.result 5 "") := by decide +kernel
  have committed : appendVerificationEvidence (evidenceParams sampleScope sampleAppended.result 5 "")
      (sampleTables .confirming []) = .ok (1, sampleTables .confirming [sampleAppended.row 1]) := by decide +kernel
  have history : History (sampleTables .confirming []) [sampleAppended]
      (sampleTables .confirming [sampleAppended.row 1]) :=
    .write [] _ _ _ .start (.append _ _ _ _ built committed)
  have readable : Readable (sampleTables .confirming [sampleAppended.row 1]) sampleKey "user_1" :=
    ⟨sampleRecord .confirming, by decide +kernel⟩
  have kept : ∀ w ∈ [sampleAppended], w.key = sampleKey → w.Kept := by
    intro w member _
    rw [List.mem_singleton.mp member]
    exact ⟨nofun, by decide⟩
  obtain ⟨values, read, contains⟩ := (roundTrip_iff rfl history sampleKey).mpr kept "user_1" readable
  exact ⟨_, history, values, read, contains _ (.head _) rfl (by decide)⟩

/-! ### A failure that cannot be read -/

/-- The observation of a provider failure, as the runtime persists it. -/
def sampleFailure : Written :=
  ⟨.claimedObservation, sampleScope,
    ⟨sampleRequest.executionID, 6, .failed, "", "PROVIDER_REJECTED", sampleRequest.createdAt⟩⟩

def sampleFailed : Execution :=
  { (sampleRecord .executing).value with
    status := .failed, revision := 6, failure := ⟨"PROVIDER_REJECTED", some .terminal, none⟩,
    failedFrom := some .executing }

def sampleFailureRecord : Audit.Record :=
  { event :=
      { eventID := "event_1", type := .executionFailed, occurredAt := sampleRequest.createdAt,
        executionID := sampleRequest.executionID, executionRevision := 6, executionStatus := "FAILED",
        userID := "user_1" }
    actorType := "system", actorID := "worker_a", requestID := "req_1", resourceType := "execution",
    resourceID := sampleRequest.executionID, previousState := "EXECUTING", newState := "FAILED",
    safeReasonCode := "PROVIDER_REJECTED", sourceComponent := "execution_runtime" }

/-- The tables while worker `a` holds the claim. -/
def sampleClaimedTables : ExecutionTables :=
  { sampleTables .executing [] with
    work := [sampleWork.lease "worker_a" 60000000 sampleRequest.createdAt] }

def sampleExecutingClaim : ExecutionClaim :=
  ⟨sampleScope, (sampleRecord .executing).value, "worker_a", 1, none, true⟩

def sampleFailureUpdate : ExecutionUpdate :=
  ⟨"tenant_1", "user_1", sampleRequest.executionID, .failed, 6, sampleRequest.createdAt,
    ⟨"PROVIDER_REJECTED", some .terminal, none⟩, some .executing, .zero, 5⟩

/-- After `PersistClaimedObservation` has stored a failure, no evidence of the execution can be read. -/
theorem failed_observation_unreadable : ∃ t, History sampleClaimedTables [sampleFailure] t ∧
    ¬ RoundTrip [sampleFailure] t sampleKey := by
  have built : persistClaimedObservationParams sampleExecutingClaim sampleFailure.result sampleFailed 5
      sampleFailureRecord sampleRequest.createdAt = .ok (sampleExecutingClaim.fence 1, sampleFailureUpdate,
        evidenceParams sampleScope sampleFailure.result 6 "", ⟨"tenant_1", sampleFailureRecord⟩) := by
    decide +kernel
  obtain ⟨t, committed⟩ : ∃ t, persistClaimed (sampleExecutingClaim.fence 1) sampleFailureUpdate
      (evidenceParams sampleScope sampleFailure.result 6 "") ⟨"tenant_1", sampleFailureRecord⟩
      sampleClaimedTables = .ok t := exists_ok_of_isOk (by decide +kernel)
  have history : History sampleClaimedTables [sampleFailure] t :=
    .write [] _ _ _ .start (.claimedObservation _ _ _ _ _ _ _ _ _ _ _ built committed)
  refine ⟨t, history, fun roundTrip => ?_⟩
  have kept := kept_of_roundTrip (history_recorded history rfl) roundTrip sampleFailure (.head _) rfl
  exact absurd (kept.1 rfl) (by decide)

end WizPay.Storage
