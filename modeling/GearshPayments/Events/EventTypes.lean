import Mathlib.Data.Nat.Notation

/-!
# Published event types

The event types of `events/event-types.ts`, and the schema address the envelope
of an event carries.
-/

namespace GearshPayments

inductive PaymentsEventType where
  | paymentsIntentCreated | paymentsSucceeded | paymentsFailed | paymentsRefundSucceeded
  | paymentsRefundFailed | escrowHeld | escrowReleased | escrowRefunded
  | escrowPartiallyRefunded | escrowFrozen | escrowPayoutQueued | escrowPayoutSucceeded
  | escrowPayoutFailed
deriving DecidableEq, Repr

namespace PaymentsEventType

/-- The string the enumeration member stands for. -/
def value : PaymentsEventType → String
  | paymentsIntentCreated => "payments.intent.created"
  | paymentsSucceeded => "payments.succeeded"
  | paymentsFailed => "payments.failed"
  | paymentsRefundSucceeded => "payments.refund.succeeded"
  | paymentsRefundFailed => "payments.refund.failed"
  | escrowHeld => "escrow.held"
  | escrowReleased => "escrow.released"
  | escrowRefunded => "escrow.refunded"
  | escrowPartiallyRefunded => "escrow.partially_refunded"
  | escrowFrozen => "escrow.frozen"
  | escrowPayoutQueued => "escrow.payout.queued"
  | escrowPayoutSucceeded => "escrow.payout.succeeded"
  | escrowPayoutFailed => "escrow.payout.failed"

end PaymentsEventType

/-- Schema version per event type. -/
def eventSchemaVersion : String := "1.0.0"

def dataSchemaUri (type : PaymentsEventType) : String :=
  "https://contracts.thegearsh.app/events/" ++ type.value ++ "/" ++ eventSchemaVersion

end GearshPayments
