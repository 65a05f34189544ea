import GearshPayments.Fx.Service
import GearshPayments.Payments.Webhook

/-!
# Payment intents

`payment-intents.service.ts`: the lock.  A client who is about to pay has the amount
and the fee of the intent converted to rand; the intent keeps both, with the rate, and
PayFast is asked for the locked amount.
-/

namespace GearshPayments

/-- `config`, as far as the lock reads it. -/
structure LockConfig where
  fxIntentLockTtlMinutes : ℕ

/-- What the checkout form is built from, besides the configuration. -/
structure CheckoutFormInput where
  mPaymentId : String
  amountMajorUnits : String
  itemName : String
  itemDescription : String
deriving DecidableEq

structure LockPaymentIntentResponse where
  id : ℕ
  state : IntentState
  checkout : CheckoutFormInput
  mPaymentId : String
  lockExpiresAt : ℕ
deriving DecidableEq

namespace PaymentIntentsService

/-- The update of a locked intent. -/
def lockedRow (config : LockConfig) (locked lockedFee : ConvertedAmount) (mPaymentId : String)
    (now : ℕ) (i : PaymentIntent) : PaymentIntent :=
  { i with
    state := .locked
    zarAmountCentsLocked := some locked.amountCents
    zarServiceFeeCentsLocked := some lockedFee.amountCents
    zarRateLocked := some locked.rate
    zarLockedAt := some now
    lockExpiresAt := some (now + config.fxIntentLockTtlMinutes * 60000)
    mPaymentId := some mPaymentId }

/-- The checkout of a locked intent. -/
def checkout (intent : PaymentIntent) (locked : ConvertedAmount) (mPaymentId : String) :
    CheckoutFormInput where
  mPaymentId := mPaymentId
  amountMajorUnits := centsToMajorString locked.amountCents
  itemName := s!"Gearsh booking {intent.bookingId}"
  itemDescription := s!"Payment intent {intent.id}"

/-- What remains once the intent has passed the checks. -/
def lockIntent (config : LockConfig) (intent : PaymentIntent) :
    Service LockPaymentIntentResponse := do
  let locked ← FxService.convertCurrency intent.totalCents intent.currency .zar
  let lockedFee ← FxService.convertCurrency intent.serviceFeeCents intent.currency .zar
  let now ← Resumption.read Store.clock
  let mPaymentId := intent.mPaymentId.getD (toString intent.id)
  let updated ← Resumption.transaction
    (Tx.updatePaymentIntent intent.id (lockedRow config locked lockedFee mPaymentId now))
  return { id := updated.id, state := updated.state, checkout := checkout intent locked mPaymentId,
           mPaymentId, lockExpiresAt := now + config.fxIntentLockTtlMinutes * 60000 }

/-- Lock an intent for its owner or an admin. -/
def lock (config : LockConfig) (intentId callerUserId : ℕ) (callerRoles : List String) :
    Service LockPaymentIntentResponse := do
  match ← Resumption.read fun s ↦ s.paymentIntent? intentId with
  | none => throw (Failure.ofCode .notFound)
  | some intent =>
    if intent.userId ≠ callerUserId ∧ "ADMIN" ∉ callerRoles then
      throw (Failure.ofCode .notFound)
    if intent.state ≠ .created ∧ intent.state ≠ .locked then
      throw (Failure.withDetail .illegalTransition
        s!"Intent in state {intent.state.name} cannot be locked.")
    lockIntent config intent

end PaymentIntentsService

end GearshPayments
