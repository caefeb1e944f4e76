import WizPay.Contracts.Events
import WizPay.Providers.Reference

/-!
# Evidence of a transaction

Bounded logs (`internal/providers/receipt.go`), quantities (`hexutil.DecodeBig`) and the
event of a token transfer.
-/
namespace WizPay.Providers

open Checks GoText Contracts

def maxReceiptLogs : Nat := 64

def maxLogTopics : Nat := 4

def maxLogDataBytes : Nat := 8192

def validateTopics : Nat → List (List UInt8) → Except Error Unit
  | _, [] => .ok ()
  | i, topic :: rest => do
    rejectIf (topic.length ≠ 32) (.text s!"receipt log topic {i} is malformed")
    validateTopics (i + 1) rest

def ReceiptLog.validate (l : ReceiptLog) : Except Error Unit := do
  rejectIf (Providers.validAddress l.address = false) (.text "receipt log address is invalid")
  rejectIf (maxLogTopics < l.topics.length) (.text "receipt log exceeds max topics")
  validateTopics 0 l.topics
  rejectIf (maxLogDataBytes < l.data.length) (.text "receipt log data exceeds max size")
  rejectIf (l.transactionHash ≠ "" ∧ validTransactionHash l.transactionHash = false)
    (.text "receipt log transaction hash is invalid")

/-- The loop of `ValidateLogs`. -/
def validateEachLog : Nat → List ReceiptLog → Except Error Unit
  | _, [] => .ok ()
  | i, log :: rest => do
    log.validate.mapError (Error.under s!"receipt log {i}")
    validateEachLog (i + 1) rest

def validateLogs (logs : List ReceiptLog) : Except Error Unit := do
  rejectIf (maxReceiptLogs < logs.length) (.text s!"receipt exceeds max logs ({maxReceiptLogs})")
  validateEachLog 0 logs

/-- `ContractLog`. -/
def ReceiptLog.contractLog (l : ReceiptLog) (chainID : String) : Contracts.Log :=
  { address := l.address, topics := l.topics, data := l.data, chainID }

/-- `hexutil.DecodeBig`: a quantity without leading zeros of at most 256 bits. -/
def decodeBig (input : String) : Option Nat :=
  match input.toList with
  | '0' :: x :: digits =>
    if (x = 'x' ∨ x = 'X') ∧ digits ≠ [] ∧ ¬ (1 < digits.length ∧ digits.head? = some '0') ∧ digits.length ≤ 64 ∧
        digits.all isHexCharacter = true
    then some (hexNumber (digits.map digitValue))
    else none
  | _ => none

def sigTransfer : String := "Transfer(address,address,uint256)"

def transferEventID : List UInt8 := eventTopic0 sigTransfer

theorem validateTopics_eq_ok {i : Nat} {topics : List (List UInt8)} :
    validateTopics i topics = .ok () ↔ ∀ topic ∈ topics, topic.length = 32 := by
  induction topics generalizing i with
  | nil => simp [validateTopics]
  | cons topic rest ih => simp [validateTopics, ih]

theorem validateEachLog_eq_ok {i : Nat} {logs : List ReceiptLog} :
    validateEachLog i logs = .ok () ↔ ∀ log ∈ logs, log.validate = .ok () := by
  induction logs generalizing i with
  | nil => simp [validateEachLog]
  | cons log rest ih => simp only [validateEachLog, guard_ok, mapError_ok, ih, List.forall_mem_cons]

theorem words_of_validateLogs {logs : List ReceiptLog} (valid : validateLogs logs = .ok ()) {log : ReceiptLog}
    (member : log ∈ logs) : ∀ topic ∈ log.topics, topic.length = 32 := by
  simp only [validateLogs, guard_ok, validateEachLog_eq_ok] at valid
  have checked := valid.2 log member
  simp only [ReceiptLog.validate, guard_ok, validateTopics_eq_ok] at checked
  exact checked.2.2.1

end WizPay.Providers
