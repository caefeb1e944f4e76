import WizPay.Errors
import WizPay.Lib.GoText

/-!
# Persistence scopes

`internal/storage/scope.go`. Go checks the three required fields in map order, here they
are checked in the order of the fields.
-/
namespace WizPay.Storage

open Checks GoText

structure Scope where
  tenantID : String
  actorID : String
  requestID : String
  traceID : String
deriving DecidableEq

def validateScopeField (name value : String) (required : Bool) : Except Error Unit := do
  rejectIf (required = true ∧ value = "") (.text s!"{name} is required")
  checkIf (value ≠ "")
    (rejectIf (len value > 256 ∨ hasControl value = true) (.text s!"{name} is invalid"))

def newScope (tenantID actorID requestID traceID : String) : Except Error Scope := do
  let scope : Scope :=
    ⟨trimSpace tenantID, trimSpace actorID, trimSpace requestID, trimSpace traceID⟩
  validateScopeField "tenant ID" scope.tenantID true
  validateScopeField "actor ID" scope.actorID true
  validateScopeField "request ID" scope.requestID true
  validateScopeField "trace ID" scope.traceID false
  pure scope

def Scope.validate (s : Scope) : Except Error Unit := do
  let _ ← newScope s.tenantID s.actorID s.requestID s.traceID
  pure ()

end WizPay.Storage
