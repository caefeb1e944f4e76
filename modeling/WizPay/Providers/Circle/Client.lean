import WizPay.Providers.Classification

/-!
# The Circle HTTP boundary

`internal/providers/circle/status.go` and `client.go`. What comes back from one HTTP
request is an `Exchange`; a body is given by what `encoding/json` makes of it.
-/
namespace WizPay.Providers.Circle

open Checks

/-- The documented transaction states; `other` is any other text. -/
inductive TransactionState
  | initiated | cleared | queued | sent | stuck | confirmed | complete | failed | denied | cancelled
  | other (text : String)
deriving DecidableEq

def classifyTransactionState : TransactionState → Classification × String
  | .initiated | .cleared | .queued | .sent | .confirmed | .complete => (.submittedPending, "")
  | .stuck => (.submittedPending, "")
  | .failed => (.permanentProviderRejection, "PROVIDER_TRANSACTION_FAILED")
  | .denied => (.permanentProviderRejection, "PROVIDER_TRANSACTION_DENIED")
  | .cancelled => (.permanentProviderRejection, "PROVIDER_TRANSACTION_CANCELLED")
  | .other _ => (.ambiguousSubmission, "PROVIDER_STATE_UNRECOGNIZED")

/-- The documented challenge statuses; `other` is any other text. -/
inductive ChallengeStatus
  | pending | inProgress | complete | failed | expired
  | other (text : String)
deriving DecidableEq

def classifyChallengeStatus : ChallengeStatus → Classification × String
  | .pending | .inProgress => (.userAuthorizationRequired, "USER_AUTHORIZATION_REQUIRED")
  | .complete => (.submittedPending, "")
  | .failed => (.permanentProviderRejection, "USER_AUTHORIZATION_FAILED")
  | .expired => (.permanentProviderRejection, "USER_AUTHORIZATION_EXPIRED")
  | .other _ => (.ambiguousSubmission, "PROVIDER_CHALLENGE_STATE_UNRECOGNIZED")

/-- `classifyHTTPStatus`: after a submission no status means that nothing happened, but on a read
some of them do. -/
def classifyHTTPStatus (statusCode : Int) (submitted : Bool) : Classification × String :=
  if statusCode = 401 ∨ statusCode = 403 then
    (if submitted then .ambiguousSubmission else .permanentProviderRejection, "PROVIDER_AUTHORIZATION_REJECTED")
  else if statusCode = 400 ∨ statusCode = 404 ∨ statusCode = 422 then
    (if submitted then .ambiguousSubmission else .permanentProviderRejection, "PROVIDER_REQUEST_REJECTED")
  else if statusCode = 409 then (.ambiguousSubmission, "PROVIDER_REQUEST_CONFLICT")
  else if statusCode = 429 then
    (if submitted then .ambiguousSubmission else .transientProviderError, "PROVIDER_RATE_LIMITED")
  else if statusCode ≥ 500 then
    (if submitted then .ambiguousSubmission else .transientProviderError, "PROVIDER_UNAVAILABLE")
  else (if submitted then .ambiguousSubmission else .transientProviderError, "PROVIDER_RESPONSE_UNEXPECTED")

/-! ### Responses -/

structure Transaction where
  id : String
  state : TransactionState
  txHash : String
  blockchain : String
  walletID : String
  refID : String
deriving DecidableEq

structure Challenge where
  id : String
  status : ChallengeStatus
deriving DecidableEq

/-- What each `json.Unmarshal` of the client finds in a body; `none` is a decoding error. -/
structure Body where
  challengeID : Option String
  transaction : Option Transaction
  transactions : Option (List Transaction)
  challenges : Option (List Challenge)
deriving DecidableEq

/-- What becomes of one HTTP request. -/
inductive Exchange
  | circuitOpen                                        -- the breaker does not admit it
  | unbuildable                                        -- `http.NewRequest` fails
  | unreachable                                        -- no response came back
  | response (statusCode : Int) (body : Option Body)   -- `none`: reading the body failed
deriving DecidableEq

/-- Whether the request may have left the process. -/
def Exchange.left : Exchange → Bool
  | .circuitOpen | .unbuildable => false
  | .unreachable | .response .. => true

/-- The token that the user has attached to the request. -/
structure UserAuthorization where
  token : String
deriving DecidableEq

def UserAuthorization.present (a : UserAuthorization) : Bool := a.token ≠ ""

/-- A classified transport failure, or a plain error of the adapter. -/
inductive ReadError
  | transport (classification : Classification) (reasonCode : String)
  | text (message : String)
deriving DecidableEq

def classifyTransportError : ReadError → Classification × String
  | .transport classification reasonCode => (classification, reasonCode)
  | .text _ => (.ambiguousSubmission, "PROVIDER_OUTCOME_UNKNOWN")

variable (authorization : UserAuthorization)

/-- The client's `do`. -/
def performRequest (submitting : Bool) (exchange : Exchange) :
    Except ReadError Body :=
  if authorization.present = false then
    .error (.transport .userAuthorizationRequired "USER_AUTHORIZATION_REQUIRED")
  else
    match exchange with
    | .circuitOpen => .error (.transport .transientProviderError "PROVIDER_CIRCUIT_OPEN")
    | .unbuildable => .error (.transport .preSubmissionValidationFailure "PROVIDER_REQUEST_INVALID")
    | .unreachable =>
      if submitting then .error (.transport .ambiguousSubmission "PROVIDER_SUBMISSION_UNCONFIRMED")
      else .error (.transport .transientProviderError "PROVIDER_UNREACHABLE")
    | .response statusCode body =>
      if statusCode < 200 ∨ statusCode > 299 then
        let (classification, reasonCode) := classifyHTTPStatus statusCode submitting
        .error (.transport classification reasonCode)
      else
        match body with
        | some payload => .ok payload
        | none =>
          .error (.transport (if submitting then .ambiguousSubmission else .transientProviderError)
            "PROVIDER_RESPONSE_UNREADABLE")

def responseUnreadable : ReadError := .transport .ambiguousSubmission "PROVIDER_RESPONSE_UNREADABLE"

def referenceMissing : ReadError := .transport .ambiguousSubmission "PROVIDER_REFERENCE_MISSING"

/-! ### Reads -/

def getTransaction (transactionID : String) (exchange : Exchange) :
    Except ReadError Transaction :=
  if transactionID = "" then .error referenceMissing
  else do
    let body ← performRequest authorization false exchange
    match body.transaction with
    | some record => if record.id = "" then .error responseUnreadable else .ok record
    | none => .error responseUnreadable

/-- `findTransactionByRef`: the first listed transaction with the reference and the wallet. -/
def findTransactionByRef (walletID refID : String) (exchange : Exchange) :
    Except ReadError (Option Transaction) :=
  if walletID = "" ∨ refID = "" then .error referenceMissing
  else do
    let body ← performRequest authorization false exchange
    match body.transactions with
    | some records => .ok (records.find? fun candidate => candidate.refID = refID ∧ candidate.walletID = walletID)
    | none => .error responseUnreadable

def findChallenge (challengeID : String) (exchange : Exchange) :
    Except ReadError (Option Challenge) :=
  if challengeID = "" then .error referenceMissing
  else do
    let body ← performRequest authorization false exchange
    match body.challenges with
    | some records => .ok (records.find? fun candidate => candidate.id = challengeID)
    | none => .error responseUnreadable

/-! ### Submissions -/

/-- The bodies of the two submitting requests. -/
inductive ProviderRequest
  | transfer (idempotencyKey destinationAddress amount walletID tokenID refID : String)
  | contractExecution (idempotencyKey contractAddress callData walletID refID feeLevel : String)
deriving DecidableEq

/-- The part that both `create…Challenge` methods share: any readable answer carries a challenge ID. -/
def createChallenge (exchange : Exchange) : Except ReadError String := do
  let body ← performRequest authorization true exchange
  match body.challengeID with
  | some challengeID => if challengeID = "" then .error responseUnreadable else .ok challengeID
  | none => .error responseUnreadable

/-! ### What a failed request says -/

/-- The error stands for a definite refusal, which ends the execution. -/
def ReadError.condemns (e : ReadError) : Bool := (classifyTransportError e).1.terminal

/-- The statuses that a read takes for a refusal of the whole operation. -/
def Refusing (statusCode : Int) : Prop :=
  statusCode = 400 ∨ statusCode = 401 ∨ statusCode = 403 ∨ statusCode = 404 ∨ statusCode = 422

instance (statusCode : Int) : Decidable (Refusing statusCode) :=
  inferInstanceAs (Decidable (_ ∨ _ ∨ _ ∨ _ ∨ _))

/-- A read that comes back as a refusal although it says nothing about the transfer. -/
def Exchange.Refused : Exchange → Prop
  | .unbuildable => True
  | .response statusCode _ => Refusing statusCode
  | _ => False

theorem classifyHTTPStatus_read {statusCode : Int} :
    (classifyHTTPStatus statusCode false).1.terminal = true ↔ Refusing statusCode := by
  unfold classifyHTTPStatus Refusing
  split
  next auth => exact ⟨fun _ => by omega, fun _ => rfl⟩
  next =>
    split
    next request => exact ⟨fun _ => by omega, fun _ => rfl⟩
    next =>
      -- every other status is ambiguous or transient
      refine ⟨fun terminal => absurd terminal ?_, fun refused => by omega⟩
      split_ifs <;> decide

/-- No status of a submission condemns it. -/
theorem classifyHTTPStatus_submission (statusCode : Int) :
    (classifyHTTPStatus statusCode true).1 = .ambiguousSubmission := by
  simp only [classifyHTTPStatus, reduceIte]
  split_ifs <;> rfl

variable {authorization : UserAuthorization} {exchange : Exchange}

/-- What the exchange was when its error condemns: a refused read, or a submission that has not left the process. -/
def Exchange.Condemned (exchange : Exchange) : Bool → Prop
  | true => exchange.left = false
  | false => exchange.Refused

theorem performRequest_condemns {submitting : Bool} : FailsWith (fun e => e.condemns = true → exchange.Condemned submitting)
    (performRequest authorization submitting exchange) := by
  unfold performRequest
  split
  next => exact .error nofun
  next =>
    cases exchange with
    | circuitOpen => exact .error nofun
    | unbuildable => cases submitting <;> exact .error fun _ => (by trivial)
    | unreachable => cases submitting <;> exact .error nofun
    | response statusCode body =>
      dsimp only
      split
      next =>
        refine .error fun condemned => ?_
        cases submitting with
        | true =>
          have terminal : (classifyHTTPStatus statusCode true).1.terminal = true := condemned
          rw [classifyHTTPStatus_submission] at terminal
          cases terminal
        | false => exact classifyHTTPStatus_read.mp condemned
      next =>
        cases body with
        | some payload => exact .ok
        | none => cases submitting <;> exact .error nofun

/-- A request succeeds on a readable response with a status of success. -/
theorem performRequest_ok {submitting : Bool} {body : Body}
    (answered : performRequest authorization submitting exchange = .ok body) :
    ∃ statusCode, exchange = .response statusCode (some body) ∧ 200 ≤ statusCode ∧ statusCode ≤ 299 := by
  unfold performRequest at answered
  split at answered
  next => cases answered
  next =>
    split at answered
    next => cases answered
    next => cases answered
    next => split at answered <;> cases answered
    next statusCode payload =>
      split at answered
      next => cases answered
      next inside =>
        split at answered
        next read =>
          cases answered
          exact ⟨statusCode, rfl, by omega, by omega⟩
        next => cases answered

theorem getTransaction_ok {transactionID : String} {record : Transaction}
    (found : getTransaction authorization transactionID exchange = .ok record) :
    ∃ body, performRequest authorization false exchange = .ok body ∧ body.transaction = some record := by
  unfold getTransaction at found
  split at found
  next => cases found
  next =>
    obtain ⟨body, answered, rest⟩ := bind_ok.mp found
    split at rest
    next record' present =>
      split at rest
      next => cases rest
      next =>
        cases rest
        exact ⟨body, answered, present⟩
    next => cases rest

theorem findTransactionByRef_ok {walletID refID : String} {record : Transaction}
    (found : findTransactionByRef authorization walletID refID exchange = .ok (some record)) :
    ∃ body records, performRequest authorization false exchange = .ok body ∧ body.transactions = some records ∧
      record ∈ records := by
  unfold findTransactionByRef at found
  split at found
  next => cases found
  next =>
    obtain ⟨body, answered, rest⟩ := bind_ok.mp found
    split at rest
    next records present =>
      exact ⟨body, records, answered, present, List.mem_of_find?_eq_some (Except.ok.inj rest)⟩
    next => cases rest

theorem findChallenge_ok {challengeID : String} {record : Challenge}
    (found : findChallenge authorization challengeID exchange = .ok (some record)) :
    ∃ body records, performRequest authorization false exchange = .ok body ∧ body.challenges = some records ∧
      record ∈ records := by
  unfold findChallenge at found
  split at found
  next => cases found
  next =>
    obtain ⟨body, answered, rest⟩ := bind_ok.mp found
    split at rest
    next records present =>
      exact ⟨body, records, answered, present, List.mem_of_find?_eq_some (Except.ok.inj rest)⟩
    next => cases rest

theorem createChallenge_condemns : FailsWith (fun e => e.condemns = true → exchange.left = false)
    (createChallenge authorization exchange) := by
  refine .bind performRequest_condemns fun body _ => ?_
  split
  next => split <;> first | exact .ok | exact .error nofun
  next => exact .error nofun

end WizPay.Providers.Circle
