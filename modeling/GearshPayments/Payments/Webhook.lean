import GearshPayments.Escrow.Service
import GearshPayments.Fx.Rounding
import GearshPayments.PayFast.Client

/-!
# The PayFast webhook

`payfast-webhook.service.ts`: what an ITN does once it has passed the checks on
its source, its signature and its validity and has been normalised, and the
development-only completion that runs the same commit.  `commitComplete` captures
a payment into escrow; `commitFailed` records every other status.
-/

namespace GearshPayments

structure NormalisedItn where
  pfPaymentId : String
  /-- The id of the intent. -/
  mPaymentId : ℕ
  paymentStatus : PayFastPaymentStatus
  amountGross : String
  merchantId : String
deriving DecidableEq

/-- The arguments that the two commits share. -/
structure CommitArgs where
  intentId : ℕ
  bookingId : ℕ
  clientId : ℕ
  artistId : ℕ
  zarAmount : ℤ
  mPaymentId : EventValue
  pfPaymentId : String
  paymentStatus : PayFastPaymentStatus
  traceparent : Option String
  tracestate : Option String

def PayFastPaymentStatus.name : PayFastPaymentStatus → String
  | .complete => "COMPLETE"
  | .failed => "FAILED"
  | .pending => "PENDING"
  | .cancelled => "CANCELLED"

/-- The name of a state in messages. -/
def IntentState.name : IntentState → String
  | .created => "CREATED"
  | .locked => "LOCKED"
  | .awaitingPayment => "AWAITING_PAYMENT"
  | .succeeded => "SUCCEEDED"
  | .failed => "FAILED"
  | .expired => "EXPIRED"
  | .cancelled => "CANCELLED"

namespace CommitArgs

/-- The filter of the dedup query. -/
def isDuplicate (args : CommitArgs) (t : Transaction) : Bool :=
  t.paymentIntentId = args.intentId ∧ t.gatewayTxnId = some args.pfPaymentId ∧
    t.pfPaymentStatus = some args.paymentStatus

/-- The row of the charge, in the given state. -/
def charge (args : CommitArgs) (state : TransactionState) (id : ℕ) (createdAt : ℕ) :
    Transaction where
  id := id
  paymentIntentId := args.intentId
  type := .charge
  amountCents := args.zarAmount
  currency := .zar
  gatewayTxnId := some args.pfPaymentId
  pfPaymentStatus := some args.paymentStatus
  state := state
  createdAt := createdAt

/-- The update of the intent. -/
def settle (args : CommitArgs) (state : IntentState) (i : PaymentIntent) : PaymentIntent :=
  { i with state, pfPaymentId := some args.pfPaymentId }

/-- The row of the hold. -/
def hold (args : CommitArgs) (zarFee : ℤ) (id : ℕ) (createdAt : ℕ) : EscrowHold where
  id := id
  bookingId := args.bookingId
  paymentIntentId := args.intentId
  clientId := args.clientId
  artistId := args.artistId
  amountCents := args.zarAmount - zarFee
  platformFeeCents := zarFee
  currency := .zar
  state := .held
  partiallyRefundedAmountCents := 0
  heldAt := createdAt
  releasedAt := none
  refundedAt := none
  disputedAt := none
  createdAt := createdAt

/-- The ledger entries of a capture. -/
def entries (args : CommitArgs) (zarFee : ℤ) : List LedgerEntryInput :=
  [⟨.payfastSettlement, .debit, args.zarAmount⟩,
    ⟨.escrowLiability, .credit, args.zarAmount - zarFee⟩, ⟨.platformRevenue, .credit, zarFee⟩]

/-- An event about the intent. -/
def intentNotice (args : CommitArgs) (type : PaymentsEventType) (data : EventData) :
    EnqueueInput where
  aggregateType := "PaymentIntent"
  aggregateId := args.intentId
  type := type
  subject := s!"payment-intents/{args.intentId}"
  data := data
  traceparent := args.traceparent
  tracestate := args.tracestate

/-- `payments.succeeded`. -/
def succeededNotice (args : CommitArgs) (zarFee : ℤ) (txn : Transaction) (now : ℕ) :
    EnqueueInput :=
  args.intentNotice .paymentsSucceeded
    [("paymentIntentId", .uuid args.intentId), ("transactionId", .uuid txn.id),
      ("bookingId", .uuid args.bookingId), ("clientId", .uuid args.clientId),
      ("artistId", .uuid args.artistId), ("amountCents", .cents args.zarAmount),
      ("serviceFeeCents", .cents zarFee), ("currency", .currency .zar), ("gateway", .str "PAYFAST"),
      ("gatewayTransactionId", .str args.pfPaymentId), ("mPaymentId", args.mPaymentId),
      ("succeededAt", .date now)]

/-- `escrow.held`. -/
def heldNotice (args : CommitArgs) (hold : EscrowHold) : EnqueueInput where
  aggregateType := "EscrowHold"
  aggregateId := hold.id
  type := .escrowHeld
  subject := s!"escrow-holds/{hold.id}"
  data := [("holdId", .uuid hold.id), ("bookingId", .uuid hold.bookingId),
    ("paymentIntentId", .uuid hold.paymentIntentId), ("clientId", .uuid hold.clientId),
    ("artistId", .uuid hold.artistId), ("amountCents", .cents hold.amountCents),
    ("platformFeeCents", .cents hold.platformFeeCents), ("currency", .currency .zar),
    ("heldAt", .date hold.heldAt)]
  traceparent := args.traceparent
  tracestate := args.tracestate

/-- `payments.failed`. -/
def failedNotice (args : CommitArgs) (txn : Transaction) (now : ℕ) : EnqueueInput :=
  args.intentNotice .paymentsFailed
    [("paymentIntentId", .uuid args.intentId), ("transactionId", .uuid txn.id),
      ("bookingId", .uuid args.bookingId), ("clientId", .uuid args.clientId),
      ("artistId", .uuid args.artistId), ("amountCents", .cents args.zarAmount),
      ("currency", .currency .zar), ("gateway", .str "PAYFAST"),
      ("gatewayTransactionId", .str args.pfPaymentId), ("mPaymentId", args.mPaymentId),
      ("reason", .str args.paymentStatus.name), ("failedAt", .date now)]

end CommitArgs

namespace PayFastWebhookService

/-- The writes of a capture: the charge, the intent `SUCCEEDED`, the hold with its
event and ledger entries, and two announcements. -/
def writeCapture (args : CommitArgs) (zarFee : ℤ) : Tx Unit := do
  let txn ← Tx.createTransaction (args.charge .succeeded)
  discard <| Tx.updatePaymentIntent args.intentId (args.settle .succeeded)
  let heldAt ← Tx.now
  let hold ← Tx.createEscrowHold (args.hold zarFee)
  let event ← Tx.createEscrowEvent
    (EscrowService.escrowEvent hold .held hold.amountCents none (some "PayFast ITN") none)
  Tx.createLedgerEntries fun now ↦
    (args.entries zarFee).map (EscrowService.ledgerEntry hold event now)
  discard <| OutboxService.enqueue (args.succeededNotice zarFee txn heldAt)
  discard <| OutboxService.enqueue (args.heldNotice hold)

/-- Capture a payment, once for each ITN.  The checks on the amounts come before
the transaction is opened. -/
def commitComplete (args : CommitArgs) (zarFee : ℤ) : Tx Unit := do
  if args.zarAmount - zarFee < 0 then
    throw (Failure.withDetail .ledgerImbalance
      "Locked ZAR fee exceeds locked ZAR amount — refusing to create a negative hold.")
  liftM (LedgerService.assertBalanced (args.entries zarFee))
  match ← Tx.findTransaction args.isDuplicate with
  | some _ => return
  | none => writeCapture args zarFee

/-- The writes for a payment that was not completed: the charge, the intent
`FAILED`, and one announcement. -/
def writeFailure (args : CommitArgs) : Tx Unit := do
  let txn ← Tx.createTransaction (args.charge .failed)
  discard <| Tx.updatePaymentIntent args.intentId (args.settle .failed)
  discard <| OutboxService.enqueue (args.failedNotice txn (← Tx.now))

/-- Record a payment that was not completed, once for each ITN. -/
def commitFailed (args : CommitArgs) : Tx Unit := do
  match ← Tx.findTransaction args.isDuplicate with
  | some _ => return
  | none => writeFailure args

/-- The fee of an intent that was locked without one. -/
def deriveZarFee (intent : PaymentIntent) : Except Failure ℤ :=
  match intent.zarRateLocked with
  | none => .error (.withDetail .payfastValidationFailed
      "Intent has no locked ZAR rate — cannot derive platform fee.")
  | some rate => .ok (roundHalfToEven (Decimal.mul intent.serviceFeeCents rate))

/-- `zarServiceFeeCentsLocked ?? deriveZarFee`. -/
def zarFee (intent : PaymentIntent) : Except Failure ℤ :=
  match intent.zarServiceFeeCentsLocked with
  | some fee => .ok fee
  | none => deriveZarFee intent

/-- The match of an ITN with its intent: the locked amount and the fee. -/
def matchIntent (itn : NormalisedItn) :
    Option PaymentIntent → Except Failure (PaymentIntent × ℤ × ℤ)
  | none =>
    .error (.withDetail .notFound s!"No payment intent matches m_payment_id={itn.mPaymentId}.")
  | some intent =>
    match intent.zarAmountCentsLocked with
    | none => .error (.withDetail .payfastValidationFailed
        "Intent has no locked ZAR amount — was it locked before checkout?")
    | some zarAmount =>
      let expectedMajor := centsToMajorString zarAmount
      if itn.amountGross ≠ expectedMajor then
        .error (.withDetail .payfastValidationFailed
          s!"ITN amount_gross={itn.amountGross} does not match locked amount {expectedMajor}.")
      else do
        let fee ← zarFee intent
        return (intent, zarAmount, fee)

/-- The arguments of the commit for an intent. -/
def commitArgs (intent : PaymentIntent) (zarAmount : ℤ) (mPaymentId : EventValue)
    (pfPaymentId : String) (paymentStatus : PayFastPaymentStatus)
    (traceparent tracestate : Option String) : CommitArgs :=
  { intentId := intent.id, bookingId := intent.bookingId, clientId := intent.userId,
    artistId := intent.artistId, zarAmount, mPaymentId, pfPaymentId, paymentStatus, traceparent,
    tracestate }

/-- Steps 4 and 5 of the pipeline. -/
def handle (config : PayFastConfig) (itn : NormalisedItn) (traceparent tracestate : Option String) :
    Service Unit := do
  if itn.merchantId ≠ config.merchantId.getD "" then
    throw (Failure.withDetail .payfastValidationFailed
      "ITN merchant_id does not match the configured PAYFAST_MERCHANT_ID.")
  let found ← Resumption.read fun s ↦ s.paymentIntent? itn.mPaymentId
  let (intent, zarAmount, fee) ← Resumption.ofExcept (matchIntent itn found)
  let args := commitArgs intent zarAmount (.uuid itn.mPaymentId) itn.pfPaymentId itn.paymentStatus
    traceparent tracestate
  if itn.paymentStatus = .complete then
    Resumption.transaction (commitComplete args fee)
  else
    Resumption.transaction (commitFailed args)

/-- The development-only completion of a locked intent by its owner. -/
def devComplete (production : Bool) (intentId callerUserId : ℕ) (callerRoles : List String) :
    Service Unit := do
  if production then
    throw (Failure.ofCode .notFound)
  let (found, now) ← Resumption.read fun s ↦ (s.paymentIntent? intentId, s.clock)
  match found with
  | none => throw (Failure.ofCode .notFound)
  | some intent =>
    if intent.userId ≠ callerUserId ∧ "ADMIN" ∉ callerRoles then
      throw (Failure.ofCode .notFound)
    if intent.state = .succeeded then return
    match intent.state, intent.zarAmountCentsLocked with
    | .locked, some zarAmount =>
      let fee ← Resumption.ofExcept (zarFee intent)
      let mPaymentId := match intent.mPaymentId with
        | some m => EventValue.str m
        | none => .uuid intent.id
      Resumption.transaction
        (commitComplete (commitArgs intent zarAmount mPaymentId s!"dev-{now}" .complete none none)
          fee)
    | state, _ => throw (Failure.withDetail .illegalTransition
        s!"Intent must be LOCKED to dev-complete (current: {state.name}) — run checkout first.")

end PayFastWebhookService

end GearshPayments
