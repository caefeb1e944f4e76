import WizPay.Lib.Checks

/-!
# Application errors

An error of the application's taxonomy (`internal/errors`), a plain text, or a typed
error that `errors.As` and `errors.Is` look for.
-/
namespace WizPay

/-- The stable public error categories. -/
inductive Code
  | validationError | authenticationRequired | authorizationRequired | approvalRequired
  | identityNotFound | identitySuspended | identityRevoked
  | walletNotBound | walletMismatch | walletRevoked
  | intentNotFound | intentExpired | intentMutated
  | approvalNotFound | approvalExpired | approvalRejected | approvalAlreadyConsumed
  | policyNotFound | policyInvalid | policyDenied | policyExpired | policyDisabled | reviewRequired
  | capabilityNotFound | capabilityUnavailable | capabilityConflict
  | providerNotFound | providerUnavailable | providerConflict
  | contractNotFound | contractUnavailable | contractConflict
  | executionNotFound | executionInvalid | executionNotAuthorized | executionConflict
  | executionFailed | executionRecoverable | internalError
deriving DecidableEq

/-- The SQLSTATE classes that `mapDatabaseError` tells apart. -/
inductive SqlState
  | uniqueViolation        -- 23505
  | serializationFailure   -- 40001, 40P01
  | constraintViolation    -- 23502, 23503, 23514, 22000, 22P02, 55000
  | other
deriving DecidableEq

/-- `runtime.AdapterFailureKind`. -/
inductive AdapterFailureKind
  | transient | permanent
deriving DecidableEq

inductive Error
  | app (code : Code) (safeMessage : String) (retryable userActionRequired terminal : Bool)
  | wrap (code : Code) (safeMessage : String) (retryable userActionRequired terminal : Bool) (cause : Error)
  | text (message : String)
  | interrupted                                -- context cancelled or deadline exceeded
  | noRows                                     -- pgx.ErrNoRows
  | database (state : SqlState)
  | adapter (kind : AdapterFailureKind) (reasonCode : String)
  | verification (reasonCode : String)
deriving DecidableEq

namespace Error

/-- `errors.Is(err, pgx.ErrNoRows)`. -/
def isNoRows : Error → Bool
  | .noRows => true
  | .wrap _ _ _ _ _ cause => cause.isNoRows
  | _ => false

/-- `errors.As(err, &appErr)`: the code of the outermost application error. -/
def appCode : Error → Option Code
  | .app code .. => some code
  | .wrap code .. => some code
  | _ => none

/-- `adapterFailure(err)`. -/
def adapterFailure : Error → Option (AdapterFailureKind × String)
  | .adapter kind reasonCode => some (kind, reasonCode)
  | .wrap _ _ _ _ _ cause => cause.adapterFailure
  | _ => none

/-- `verificationFailure(err)`. -/
def verificationFailure : Error → Option String
  | .verification reasonCode => some reasonCode
  | .wrap _ _ _ _ _ cause => cause.verificationFailure
  | _ => none

/-- `fmt.Errorf("context: %w", err)` around a plain text. -/
def under (context : String) : Error → Error
  | .text message => .text s!"{context}: {message}"
  | other => other

end Error

/-- `mapDatabaseError`. -/
def mapDatabaseError : Error → Error
  | .interrupted =>
    .wrap .internalError "Database operation was interrupted." true false false .interrupted
  | .noRows => .noRows
  | .database .uniqueViolation =>
    .wrap .executionConflict "A concurrent persistence conflict occurred." true false false
      (.database .uniqueViolation)
  | .database .serializationFailure =>
    .wrap .executionConflict "A concurrent persistence conflict occurred." true false false
      (.database .serializationFailure)
  | .database .constraintViolation =>
    .wrap .validationError "Persistence constraints rejected the operation." false true true
      (.database .constraintViolation)
  | cause => .wrap .internalError "A persistence error occurred." true false false cause

/-- `notFound(code, message)`. -/
def notFound (code : Code) (message : String) : Error := .app code message false true true

end WizPay
