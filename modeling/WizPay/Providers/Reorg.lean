import WizPay.Providers.Receipt

/-!
# Observation integrity

`internal/providers/reorg.go`.
-/
namespace WizPay.Providers

open GoText

structure ReceiptObservation where
  chainID : String
  transactionHash : String
  status : ReceiptStatus
  blockNumber : UInt64
  blockHash : String
  confirmations : UInt64
  /-- a receipt body was observed on this pass -/
  present : Bool
  /-- the observation carries inclusion history -/
  known : Bool
  logFingerprint : String
deriving DecidableEq

/-- The zero observation of a reference without observation fields. -/
def ReceiptObservation.zero : ReceiptObservation := ⟨"", "", .other "", 0, "", 0, false, false, ""⟩

def ReceiptObservation.hasInclusion (o : ReceiptObservation) : Bool :=
  o.known || o.present || o.blockHash ≠ "" || o.blockNumber ≠ 0

inductive ReorgSignal
  | none | receiptMissing | blockHashChanged | blockNumberChanged | confirmationsDecreased | logsChanged
deriving DecidableEq

def ReorgSignal.inconsistent (s : ReorgSignal) : Bool := s ≠ .none

def compareReceiptObservations (prior current : ReceiptObservation) : ReorgSignal :=
  if !prior.hasInclusion then .none
  else if !current.present then
    -- staying missing is not a new inconsistency
    if prior.present then .receiptMissing else .none
  else if prior.blockHash ≠ "" ∧ current.blockHash ≠ "" ∧ !equalFold prior.blockHash current.blockHash then
    .blockHashChanged
  else if prior.blockNumber ≠ 0 ∧ current.blockNumber ≠ 0 ∧ prior.blockNumber ≠ current.blockNumber then
    .blockNumberChanged
  else if prior.present ∧ prior.confirmations > 0 ∧ current.confirmations < prior.confirmations then
    .confirmationsDecreased
  else if prior.present ∧ current.present ∧ prior.logFingerprint ≠ "" ∧
      (current.logFingerprint = "" ∨ prior.logFingerprint ≠ current.logFingerprint) then
    .logsChanged
  else .none

def mergeObservation (prior current : ReceiptObservation) : ReceiptObservation :=
  let out := { current with transactionHash := toLower (trimSpace current.transactionHash) }
  if current.present then
    { out with
      known := true
      blockHash := toLower (trimSpace current.blockHash)
      logFingerprint := toLower (trimSpace current.logFingerprint) }
  else if prior.hasInclusion then
    -- missing now: the last inclusion is kept, its confirmations are not
    { out with
      known := true
      blockHash := prior.blockHash
      blockNumber := prior.blockNumber
      confirmations := 0
      status := .unknown
      logFingerprint := prior.logFingerprint }
  else { out with known := false }

/-! ### The tracker of one process -/

def observationKey (chainID transactionHash : String) : String :=
  chainID ++ "|" ++ toLower (trimSpace transactionHash)

/-- The map from transactions to their latest observation. -/
abbrev ObservationTracker : Type := String → Option ReceiptObservation

namespace ObservationTracker

/-- `NewObservationTracker`. -/
def new : ObservationTracker := fun _ => none

variable (t : ObservationTracker)

def prior (chainID transactionHash : String) : Option ReceiptObservation :=
  t (observationKey chainID transactionHash)

def remember (observation : ReceiptObservation) : ObservationTracker :=
  if observation.chainID = "" ∨ observation.transactionHash = "" then t
  else
    let normal := { observation with transactionHash := toLower (trimSpace observation.transactionHash) }
    fun key => if key = observationKey normal.chainID normal.transactionHash then some normal else t key

/-- An observation without chain or hash takes them from the durable baseline. -/
def identify (durablePrior current : ReceiptObservation) : ReceiptObservation :=
  { current with
    chainID := if current.chainID = "" then durablePrior.chainID else current.chainID
    transactionHash :=
      if current.transactionHash = "" then durablePrior.transactionHash else current.transactionHash }

/-- The process memory is preferred to the durable baseline. -/
def baseline (durablePrior current : ReceiptObservation) : ReceiptObservation :=
  (t.prior current.chainID current.transactionHash).getD durablePrior

def evaluate (durablePrior current : ReceiptObservation) :
    ReorgSignal × ReceiptObservation × ObservationTracker :=
  let current := identify durablePrior current
  let prior := t.baseline durablePrior current
  let signal := compareReceiptObservations prior current
  -- `MergeObservation` keeps the identity of the current observation, normalised
  let merged := mergeObservation prior current
  (signal, merged, t.remember merged)

end ObservationTracker

/-- `ObservationFromReceipt`. -/
def observationFromReceipt (receipt : Receipt) (present : Bool) : ReceiptObservation :=
  { chainID := receipt.chainID, transactionHash := receipt.transactionHash, status := receipt.status,
    blockNumber := receipt.blockNumber, blockHash := toLower (trimSpace receipt.blockHash),
    confirmations := receipt.confirmations, present := present, known := present,
    logFingerprint := if present && !receipt.logs.isEmpty then logFingerprint receipt.logs else "" }

end WizPay.Providers
