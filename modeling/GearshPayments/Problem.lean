import Mathlib.Data.Nat.Notation

/-!
# Errors

The canonical error codes of `common/problem/error-codes.ts`, the exception that
carries one, and the other ways in which a service call can end: a known request
error of the database client, an inbound payload that fails validation, or an
action the database did not carry out.
-/

namespace GearshPayments

inductive ErrorCode where
  | validationFailed | invalidJson | unauthenticated | tokenExpired | sessionRevoked | forbidden
  | adminRequired | notFound | conflict | illegalTransition | idempotencyKeyMismatch
  | resourceGone | businessRuleViolation | rateLimited | internalError | upstreamFailure
  | serviceUnavailable | upstreamTimeout | cartEmpty | payfastSignatureInvalid
  | payfastValidationFailed | payfastIpNotWhitelisted | paymentIntentExistsForBooking
  | escrowIllegalTransition | escrowFrozen | ledgerImbalance | refundExceedsCapture
  | currencyUnsupported | fxRateUnavailable | payfastUpstreamFailure
deriving DecidableEq, Repr

/-- A domain exception: a canonical code and an optional detail. -/
structure AppException where
  code : ErrorCode
  detail : Option String
deriving DecidableEq

/-- The known request errors of the database client that the model raises. -/
inductive PrismaErrorCode where
  /-- A unique constraint failed. -/
  | p2002
  /-- A foreign key constraint failed. -/
  | p2003
  /-- A value is not one that its column takes. -/
  | p2023
  /-- The row to update does not exist. -/
  | p2025
deriving DecidableEq

/-- What a service call may throw. -/
inductive Failure where
  /-- An `AppException`. -/
  | app (e : AppException)
  /-- An `EventPayloadValidationError`. -/
  | payload (message : String)
  /-- A `PrismaClientKnownRequestError`. -/
  | prisma (code : PrismaErrorCode)
  /-- An action the database did not carry out. -/
  | database (message : String)
deriving DecidableEq

namespace Failure

/-- `new AppException(code)`. -/
def ofCode (code : ErrorCode) : Failure := .app ⟨code, none⟩

/-- `new AppException(code, { detail })`. -/
def withDetail (code : ErrorCode) (detail : String) : Failure := .app ⟨code, some detail⟩

/-- The canonical code of the failure, if it is an `AppException`. -/
def code? : Failure → Option ErrorCode
  | .app e => some e.code
  | _ => none

@[simp] theorem code?_ofCode (c : ErrorCode) : (ofCode c).code? = some c := rfl

@[simp] theorem code?_withDetail (c : ErrorCode) (d : String) : (withDetail c d).code? = some c :=
  rfl

@[simp] theorem code?_prisma (c : PrismaErrorCode) : (prisma c).code? = none := rfl

end Failure

end GearshPayments
