import WizPay.Intents.History
import WizPay.Storage.ExecutionTables

/-!
# Rows of the intents table

`encoding/json` writes an instant of the payload as RFC 3339 text with nanoseconds and
refuses a year outside 0 to 9999. The other instants are `timestamptz` columns:
microseconds from 4713 BC to 294276 AD. `Restore` computes the digest again.
-/
namespace WizPay.Storage

open Checks GoText GoTime Intents Intents.Intent History

structure IntentRow where
  tenantID : String
  params : Params
  status : Intents.Status
  intentDigest : Option String
  operationKey : Option String
  operationVersion : Option Nat
  lifecycleVersion : Nat
deriving DecidableEq

/-! ### The payload column -/

/-- The instants inside a payload. -/
def instants (f : FinancialParameters) : List Int :=
  (f.payroll.bind PayrollParameters.crossToken).toList.map CrossTokenPayrollParameters.deadline ++
    f.swap.toList.flatMap fun swap => swap.deadline :: swap.quote.toList.map SwapQuote.expiresAt

/-- `Time.MarshalJSON` accepts the instant. -/
def jsonYear (t : Int) : Bool :=
  let year := (civil (t / second / 86400)).1
  decide (0 ≤ year) && decide (year ≤ 9999)

/-- `json.Marshal(value.Financial())`. -/
def marshalFinancial (f : FinancialParameters) : Except Error FinancialParameters := do
  rejectIf ((instants f).all jsonYear = false)
    (.text "json: error calling MarshalJSON for type time.Time: Time.MarshalJSON: year outside of range [0,9999]")
  pure f

theorem marshalFinancial_ok {f written : FinancialParameters} :
    marshalFinancial f = .ok written ↔ (instants f).all jsonYear = true ∧ f = written := by
  simp only [marshalFinancial, checks_ok, pure_ok, Bool.not_eq_false]

/-! ### Writing -/

/-- The operation columns: a draft has none. -/
def operationColumns (value : Intent) : Except Error (Option String × Option Nat) :=
  if value.status = .draft then .ok (none, none)
  else do
    let operation ← newOperationIdentity value
    let version ← dbVersion operation.version
    pure (dbOptionalString operation.operationKey, some version)

/-- `intentCreateParams`: the columns before they are sent. -/
def intentCreateParams (tenantID : String) (value : Intent) : Except Error IntentRow := do
  let version ← dbVersion value.params.version
  let bindingVersion ← dbVersion value.params.ownership.walletBindingVersion
  let routeVersion ← dbVersion value.params.route.version
  let financial ← marshalFinancial value.params.financial
  let lifecycleRevision ← dbVersion value.lifecycleRevision
  let operation ← operationColumns value
  pure
    { tenantID := tenantID,
      params := { value.params with
        version := version, financial := financial,
        ownership := { value.params.ownership with walletBindingVersion := bindingVersion },
        route := { value.params.route with version := routeVersion } },
      status := value.status, intentDigest := dbOptionalString value.digest, operationKey := operation.1,
      operationVersion := operation.2, lifecycleVersion := lifecycleRevision }

/-- The instants that a `timestamptz` column holds. -/
def timestamptzRange (t : Int) : Bool :=
  decide (-148731206400000000000 ≤ t) && decide (t < 9286453612800000000000)

/-- A row as the table keeps it. -/
def storeInstants (row : IntentRow) : Except Error IntentRow := do
  let p := row.params
  rejectIf ([p.createdAt, p.expiresAt, p.constraints.deadline].all timestamptzRange = false) (.database .other)
  pure { row with params := { p with
    createdAt := truncMicros p.createdAt, expiresAt := truncMicros p.expiresAt,
    constraints := { p.constraints with deadline := truncMicros p.constraints.deadline } } }

/-! ### Reading -/

def intentFromRow (row : IntentRow) : Except Error Intent := do
  let version ← domainVersion row.params.version
  let bindingVersion ← domainVersion row.params.ownership.walletBindingVersion
  let routeVersion ← domainVersion row.params.route.version
  let lifecycleRevision ← domainVersion row.lifecycleVersion
  restore
    { row.params with
      version := version,
      ownership := { row.params.ownership with walletBindingVersion := bindingVersion },
      route := { row.params.route with version := routeVersion } }
    row.status (row.intentDigest.getD "") lifecycleRevision

/-- Material that normalisation and the columns leave alone. -/
structure Settled (p : Params) : Prop where
  normal : normalizeParams p = p
  createdAt : WholeMicros p.createdAt
  expiresAt : WholeMicros p.expiresAt
  deadline : WholeMicros p.constraints.deadline

theorem trimSpace_lowerAddress {text : String} (trimmed : trimSpace text = text) :
    trimSpace (lowerAddress text) = lowerAddress text := by
  unfold lowerAddress
  split
  next => simp [Contracts.normalizeAddress, trimmed]; split <;> simp [trimSpace_toLower, trimmed]
  next => exact trimmed

theorem wholeMicros_truncate (t : Int) : WholeMicros (truncatePostgresTimestamp t) := by
  unfold truncatePostgresTimestamp
  split
  next zero =>
    rw [isZero_iff.mp zero]
    decide
  next => exact wholeMicros_truncMicros t

theorem settled_normalizeCreation (p : Params) : Settled (normalizeCreation p) where
  normal := by
    simp [normalizeCreation, normalizeCreationAddresses, normalizeCreationTimestamps, normalizeParams,
      Ownership.normalize, trimSpace_lowerAddress]
  createdAt := wholeMicros_truncate _
  expiresAt := wholeMicros_truncate _
  deadline := wholeMicros_truncate _

/-- What every value of a history from `NewDraft` keeps, whatever its revision. -/
structure Faithful (i : Intent) : Prop where
  params : i.params.validate = .ok ()
  settled : Settled i.params
  status : i.status.valid = true
  digest : i.digest = if i.status = .draft then "" else digestBytes (canonicalMaterial i.params)

variable {i : Intent}

theorem faithful_of_validate (valid : i.validate = .ok ()) (settled : Settled i.params) : Faithful i := by
  simp only [Intent.validate, checks_ok, Bool.not_eq_false] at valid
  obtain ⟨params, status, -, digest⟩ := valid
  refine ⟨params, settled, status, ?_⟩
  split at digest
  next draft =>
    rw [if_pos draft]
    simpa using digest
  next frozen =>
    rw [if_neg frozen]
    simp only [rejectIf_ok, not_or, ne_eq, not_not] at digest
    exact digest.2.symm

/-- `Validate` asks for a revision on top. -/
theorem Faithful.validate (faithful : Faithful i) (counted : i.lifecycleRevision ≠ 0) : i.validate = .ok () := by
  simp only [Intent.validate, checks_ok, faithful.params, faithful.status, counted, not_false_iff, true_and,
    Bool.true_eq_false]
  have digest := faithful.digest
  split
  next draft => simpa [draft] using digest
  next frozen =>
    rw [if_neg frozen] at digest
    simp [digest]

theorem faithful_newDraft {params : Params} (created : newDraft params = .ok i) : Faithful i := by
  simp only [newDraft, guard_ok, mapError_ok, pure_ok] at created
  obtain ⟨valid, rfl⟩ := created
  exact ⟨valid, settled_normalizeCreation params, rfl, rfl⟩

/-- The versions fit a `bigint`, the payload's instants have a year of four digits and the columns hold the rest. -/
structure Storable (i : Intent) : Prop where
  version : i.params.version ≤ 2 ^ 63 - 1
  walletBindingVersion : i.params.ownership.walletBindingVersion ≤ 2 ^ 63 - 1
  routeVersion : i.params.route.version ≤ 2 ^ 63 - 1
  lifecycleRevision : i.lifecycleRevision ≠ 0 ∧ i.lifecycleRevision ≤ 2 ^ 63 - 1
  payload : (instants i.params.financial).all jsonYear = true
  columns : [i.params.createdAt, i.params.expiresAt, i.params.constraints.deadline].all timestamptzRange = true

/-- The row of a value that can be stored. -/
def rowOf (tenantID : String) (i : Intent) : IntentRow :=
  { tenantID := tenantID, params := i.params, status := i.status, intentDigest := dbOptionalString i.digest,
    operationKey := if i.status = .draft then none else
      dbOptionalString (operationKeyOf i.params.intentID i.params.version i.digest),
    operationVersion := if i.status = .draft then none else some operationIdentityVersion,
    lifecycleVersion := i.lifecycleRevision }

theorem operationColumns_ok (faithful : Faithful i) (counted : i.lifecycleRevision ≠ 0) :
    operationColumns i = .ok ((rowOf "" i).operationKey, (rowOf "" i).operationVersion) := by
  unfold operationColumns
  split
  next draft => simp [rowOf, draft]
  next frozen =>
    have digest : i.digest ≠ "" := by
      rw [faithful.digest, if_neg frozen]
      exact digestBytes_ne_empty _
    have fresh : ¬ (i.status = .draft ∨ i.digest = "") := by simp [frozen, digest]
    have identity : newOperationIdentity i = .ok
        { intentID := i.params.intentID, intentVersion := i.params.version, intentDigest := i.digest,
          operationKey := operationKeyOf i.params.intentID i.params.version i.digest,
          version := operationIdentityVersion } := by
      simp only [newOperationIdentity, checks_ok, faithful.validate counted, fresh, true_and, not_false_iff, pure_ok]
    rw [identity]
    simp only [rowOf, frozen, if_false]
    rfl

theorem params_versions (valid : i.params.validate = .ok ()) :
    i.params.version ≠ 0 ∧ i.params.ownership.walletBindingVersion ≠ 0 ∧ i.params.route.version ≠ 0 := by
  simp only [Params.validate, Ownership.validate, Route.validate, checks_ok] at valid
  obtain ⟨-, version, -, ⟨-, -, binding, -⟩, -, -, ⟨-, -, route⟩, -⟩ := valid
  exact ⟨version, binding, route⟩

theorem intentCreateParams_ok (faithful : Faithful i) (tenantID : String) {row : IntentRow} :
    intentCreateParams tenantID i = .ok row ↔
      row = rowOf tenantID i ∧ i.params.version ≤ 2 ^ 63 - 1 ∧
        i.params.ownership.walletBindingVersion ≤ 2 ^ 63 - 1 ∧ i.params.route.version ≤ 2 ^ 63 - 1 ∧
        (i.lifecycleRevision ≠ 0 ∧ i.lifecycleRevision ≤ 2 ^ 63 - 1) ∧
        (instants i.params.financial).all jsonYear = true := by
  obtain ⟨version, binding, route⟩ := params_versions faithful.params
  simp only [intentCreateParams, bind_ok, dbVersion_ok, marshalFinancial_ok, pure_ok]
  constructor
  · rintro ⟨_, ⟨-, versionFits, rfl⟩, _, ⟨-, bindingFits, rfl⟩, _, ⟨-, routeFits, rfl⟩, _, ⟨payload, rfl⟩, _,
      ⟨counted, revisionFits, rfl⟩, columns, written, rfl⟩
    rw [operationColumns_ok faithful counted] at written
    cases written
    exact ⟨rfl, versionFits, bindingFits, routeFits, ⟨counted, revisionFits⟩, payload⟩
  · rintro ⟨rfl, versionFits, bindingFits, routeFits, ⟨counted, revisionFits⟩, payload⟩
    exact ⟨_, ⟨version, versionFits, rfl⟩, _, ⟨binding, bindingFits, rfl⟩, _, ⟨route, routeFits, rfl⟩, _, ⟨payload, rfl⟩,
      _, ⟨counted, revisionFits, rfl⟩, _, operationColumns_ok faithful counted, rfl⟩

theorem storeInstants_ok {row stored : IntentRow} :
    storeInstants row = .ok stored ↔
      [row.params.createdAt, row.params.expiresAt, row.params.constraints.deadline].all timestamptzRange = true ∧
        { row with params := { row.params with
          createdAt := truncMicros row.params.createdAt, expiresAt := truncMicros row.params.expiresAt,
          constraints := { row.params.constraints with deadline := truncMicros row.params.constraints.deadline } } } =
            stored := by
  simp only [storeInstants, checks_ok, pure_ok, Bool.not_eq_false]

theorem storeInstants_rowOf (settled : Settled i.params) {tenantID : String} {stored : IntentRow} :
    storeInstants (rowOf tenantID i) = .ok stored ↔
      stored = rowOf tenantID i ∧
        [i.params.createdAt, i.params.expiresAt, i.params.constraints.deadline].all timestamptzRange = true := by
  rw [storeInstants_ok]
  simp only [rowOf, settled.createdAt.trunc, settled.expiresAt.trunc, settled.deadline.trunc]
  constructor
  · rintro ⟨columns, rfl⟩
    exact ⟨rfl, columns⟩
  · rintro ⟨rfl, columns⟩
    exact ⟨columns, rfl⟩

theorem restore_faithful (faithful : Faithful i) (counted : i.lifecycleRevision ≠ 0) :
    restore i.params i.status i.digest i.lifecycleRevision = .ok i := by
  have valid : (⟨i.params, i.status, i.digest, i.lifecycleRevision⟩ : Intent).validate = .ok () :=
    faithful.validate counted
  have same : ¬ (i.status ≠ .draft ∧ i.digest ≠ digestBytes (canonicalMaterial i.params)) := by
    rintro ⟨frozen, differs⟩
    rw [faithful.digest, if_neg frozen] at differs
    exact differs rfl
  simp only [restore, checks_ok, pure_ok, faithful.settled.normal, faithful.params, valid, same, faithful.status]
  simp

theorem intentFromRow_rowOf (faithful : Faithful i) (counted : i.lifecycleRevision ≠ 0) (tenantID : String) :
    intentFromRow (rowOf tenantID i) = .ok i := by
  obtain ⟨version, binding, route⟩ := params_versions faithful.params
  have digest : (dbOptionalString i.digest).getD "" = i.digest := by
    unfold dbOptionalString
    split
    next empty => simp [empty]
    next => rfl
  simp only [intentFromRow, rowOf, bind_ok, domainVersion_ok, digest]
  exact ⟨_, ⟨version, rfl⟩, _, ⟨binding, rfl⟩, _, ⟨route, rfl⟩, _, ⟨counted, rfl⟩, restore_faithful faithful counted⟩

end WizPay.Storage
