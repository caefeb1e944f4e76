import WizPay.Providers.ReceiptLogs

/-!
# Domain verdicts

The result of the payroll and the swap verifier, and the checks both make on the
transaction around a sealed call.
-/
namespace WizPay.Providers

open Checks GoText Contracts

/-- `DomainStatus`. -/
inductive DomainStatus
  | verified | unverified | failed
deriving DecidableEq

structure DomainResult where
  status : DomainStatus
  reasonCode : String
  eventSignature : String
  provable : List String
  transactionHash : String
  definitiveFailure : Bool
deriving DecidableEq

/-- `DefinitiveFailure`. -/
def DomainResult.isDefinitiveFailure (r : DomainResult) : Bool := r.status = .failed && r.definitiveFailure

/-- `FinancialComplete`. -/
def DomainResult.financialComplete (r : DomainResult) : Bool := r.status = .verified

/-- How a verification ends before its last check. -/
inductive Stop
  | unverified
  | failed (code : String)
deriving DecidableEq

/-- The result of the checks: still open, failed by the closure `fail`, or verified. -/
def conclude (receipt : Receipt) (reasonCode eventSignature : String) (provable : List String) (checks : Except Stop Unit) :
    DomainResult :=
  let transactionHash := toLower (trimSpace receipt.transactionHash)
  match checks with
  | .ok () => ⟨.verified, reasonCode, eventSignature, provable, transactionHash, false⟩
  | .error .unverified => ⟨.unverified, "RECEIPT_NOT_SUCCESS", "", [], transactionHash, false⟩
  | .error (.failed code) => ⟨.failed, code, "", [], transactionHash, true⟩

/-- The checks on the receipt and on the sender and the target of its transaction. -/
def checkEnvelope (receipt : Receipt) (wallet target : String) : Except Stop Unit := do
  rejectIf (receipt.status = .reverted) (.failed "ONCHAIN_EXECUTION_REVERTED")
  rejectIf (receipt.status ≠ .success) .unverified
  rejectIf (receipt.chainID ≠ chainIDArcMainnet) (.failed "RECEIPT_CHAIN_MISMATCH")
  rejectIf (validTransactionHash (toLower (trimSpace receipt.transactionHash)) = false) (.failed "RECEIPT_HASH_INVALID")
  rejectIf (receipt.hasTransaction = false) .unverified
  rejectIf (addressesEqual receipt.fromAddress wallet = false) (.failed "TRANSACTION_SENDER_MISMATCH")
  rejectIf (addressesEqual receipt.toAddress target = false) (.failed "TRANSACTION_TARGET_MISMATCH")

/-- A successful transaction of a wallet to a target. -/
structure Sent (receipt : Receipt) (wallet target : String) : Prop where
  success : receipt.status = .success
  chain : receipt.chainID = chainIDArcMainnet
  evidence : receipt.hasTransaction = true
  sender : addressesEqual receipt.fromAddress wallet = true
  target : addressesEqual receipt.toAddress target = true

theorem checkEnvelope_eq_ok {receipt : Receipt} {wallet target : String} :
    checkEnvelope receipt wallet target = .ok () ↔
      validTransactionHash (toLower (trimSpace receipt.transactionHash)) = true ∧ Sent receipt wallet target := by
  simp only [checkEnvelope, checks_ok, not_not, Bool.not_eq_false]
  constructor
  · rintro ⟨-, success, chain, hash, evidence, sender, target⟩
    exact ⟨hash, success, chain, evidence, sender, target⟩
  · rintro ⟨hash, sent⟩
    exact ⟨by simp [sent.success], sent.success, sent.chain, hash, sent.evidence, sent.sender, sent.target⟩

/-- A verdict is positive only when every check has passed. -/
theorem conclude_verified {receipt : Receipt} {reasonCode eventSignature : String} {provable : List String}
    {checks : Except Stop Unit} (verified : (conclude receipt reasonCode eventSignature provable checks).status = .verified) :
    checks = .ok () := by
  unfold conclude at verified
  split at verified
  next => rfl
  next => cases verified
  next => cases verified

end WizPay.Providers
