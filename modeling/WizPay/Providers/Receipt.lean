import WizPay.Lib.Sha256

/-!
# Transaction receipts

`internal/providers/receipt.go` and the receipt type of `verifier.go`.
-/
namespace WizPay.Providers

open GoText

/-- The on-chain outcome of a transaction; `other` is a text that is none of the constants. -/
inductive ReceiptStatus
  | unknown | success | reverted | reorgInconsistent
  | other (text : String)
deriving DecidableEq

structure ReceiptLog where
  address : String
  topics : List (List UInt8)
  data : List UInt8
  index : UInt64
  hasIndex : Bool
  transactionHash : String
deriving DecidableEq

structure Receipt where
  status : ReceiptStatus
  chainID : String
  transactionHash : String
  blockNumber : UInt64
  blockHash : String
  confirmations : UInt64
  logs : List ReceiptLog
  /-- whether the fields below were read from the transaction itself -/
  hasTransaction : Bool := false
  fromAddress : String := ""
  toAddress : String := ""
  value : String := ""
  input : List UInt8 := []
deriving DecidableEq

/-- The bytes that one log adds to the fingerprint. -/
def ReceiptLog.preimage (log : ReceiptLog) : List UInt8 :=
  bytes s!"a={toLower (trimSpace log.address)}\n" ++
  bytes s!"t={log.topics.length}\n" ++
  log.topics.flatMap (fun topic => bytes "topic:" ++ topic ++ [10]) ++
  bytes s!"d={log.data.length}\n" ++ log.data ++ [10] ++
  (if log.hasIndex then bytes s!"i={log.index.toNat}\n" else []) ++
  (if log.transactionHash ≠ "" then bytes s!"h={toLower log.transactionHash}\n" else [])

/-- `LogFingerprint`: no logs have the empty fingerprint. -/
def logFingerprint (logs : List ReceiptLog) : String :=
  if logs.isEmpty then ""
  else
    Sha256.hexText (Sha256.sum256
      (bytes s!"wzp-receipt-logs-v1\n{logs.length}\n" ++ logs.flatMap ReceiptLog.preimage))

end WizPay.Providers
