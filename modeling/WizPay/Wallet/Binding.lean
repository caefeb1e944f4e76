import WizPay.Intents.Types

/-!
# Wallet bindings

`internal/wallet/binding.go`. The address is an opaque text here: it is trimmed, and
compared exactly.
-/
namespace WizPay.Wallet

open Checks GoText

def maxBindingFieldLength : Nat := 256

inductive BindingStatus
  | pending | active | revoked
deriving DecidableEq

structure Binding where
  bindingID : String
  version : Nat
  userID : String
  provider : String
  providerUserReference : String
  walletID : String
  address : String
  chainID : String
  network : String
  status : BindingStatus
  verificationReference : String
  createdAt : Int
  verifiedAt : Int
  revokedAt : Int
deriving DecidableEq

def validateField (name value : String) : Except Error Unit := do
  rejectIf (value = "") (.text s!"{name} is required")
  rejectIf (len value > maxBindingFieldLength) (.text s!"{name} exceeds {maxBindingFieldLength} characters")
  rejectIf (hasControl value = true) (.text s!"{name} contains control characters")

def validateFields : List (String × String) → Except Error Unit
  | [] => .ok ()
  | (name, value) :: rest => do
    validateField name value
    validateFields rest

namespace Binding

def textFields (b : Binding) : List (String × String) :=
  [("binding ID", b.bindingID), ("user ID", b.userID), ("wallet provider", b.provider),
    ("provider user reference", b.providerUserReference), ("wallet ID", b.walletID), ("wallet address", b.address),
    ("network", b.network)]

def validateStatus (b : Binding) : Except Error Unit :=
  match b.status with
  | .pending =>
    rejectIf (b.verifiedAt ≠ 0 ∨ b.revokedAt ≠ 0 ∨ b.verificationReference ≠ "")
      (.text "pending binding cannot contain verification or revocation metadata")
  | .active => do
    rejectIf (b.verifiedAt = 0 ∨ b.verificationReference = "")
      (.text "active binding requires verification time and reference")
    rejectIf (b.revokedAt ≠ 0) (.text "active binding cannot contain revocation time")
  | .revoked => rejectIf (b.revokedAt = 0) (.text "revoked binding requires revocation time")

def validate (b : Binding) : Except Error Unit := do
  validateFields b.textFields
  rejectIf (b.version = 0) (.text "binding version must be at least 1")
  Intents.validateChainID b.chainID
  rejectIf (b.createdAt = 0) (.text "binding creation time is required")
  b.validateStatus
  rejectIf (b.verifiedAt ≠ 0 ∧ b.verifiedAt < b.createdAt) (.text "verification time cannot precede creation time")
  rejectIf (b.revokedAt ≠ 0 ∧ b.revokedAt < b.createdAt) (.text "revocation time cannot precede creation time")
  rejectIf (b.revokedAt ≠ 0 ∧ b.verifiedAt ≠ 0 ∧ b.revokedAt < b.verifiedAt)
    (.text "revocation time cannot precede verification time")
  rejectIf (len b.verificationReference > maxBindingFieldLength)
    (.text s!"verification reference exceeds {maxBindingFieldLength} characters")

def normalize (b : Binding) : Binding :=
  { b with
    bindingID := trimSpace b.bindingID, userID := trimSpace b.userID, provider := trimSpace b.provider,
    providerUserReference := trimSpace b.providerUserReference, walletID := trimSpace b.walletID,
    address := trimSpace b.address, chainID := trimSpace b.chainID, network := trimSpace b.network,
    verificationReference := trimSpace b.verificationReference }

end Binding

/-- `NewBinding`: the parameters are the fields themselves. -/
def newBinding (params : Binding) : Except Error Binding := do
  params.normalize.validate
  pure params.normalize

namespace Binding

def ensureAuthorizable (b : Binding) (userID : String) : Except Error Unit := do
  b.validate.mapError (.wrap .validationError "Wallet binding is invalid." false true true)
  rejectIf (b.userID ≠ trimSpace userID)
    (.app .walletMismatch "Wallet binding does not match the identity." false true true)
  match b.status with
  | .active => .ok ()
  | .pending => .error (.app .walletNotBound "Wallet binding is not active." false true false)
  | .revoked => .error (.app .walletRevoked "Wallet binding is revoked." false true true)

theorem ensureAuthorizable_ok {b : Binding} {userID : String} :
    b.ensureAuthorizable userID = .ok () ↔ b.validate = .ok () ∧ b.userID = trimSpace userID ∧ b.status = .active := by
  simp only [ensureAuthorizable, checks_ok, ne_eq, not_not]
  cases b.status <;> simp

end Binding

end WizPay.Wallet
