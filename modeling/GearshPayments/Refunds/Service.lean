import GearshPayments.Escrow.Service
import GearshPayments.PayFast.Client
import Mathlib.Data.List.MinMax

/-!
# The refunds service

`refunds.service.ts`: `issueRefund` finds the hold and its charge, checks the
amount, inserts the refund's row, asks the gateway for the money with up to three
attempts, and then either records the failure or finalises the row and has
`EscrowService` move the hold.

The gateway cannot be part of a transaction, and the service's own statements are
separate awaits, so `issueRefund` is a `Service` program and each database access
of it is one action.  `handleGatewaySuccess` opens an interactive transaction and
calls `EscrowService` inside it, whose `$transaction` is one of its own: the
statements of the outer transaction change nothing before its commit, which is
the last action and applies all of them.
-/

namespace GearshPayments

/-- The fault attribution of a refund; `NONE` is admin discretion. -/
inductive RefundFault where
  | client | artist | none
deriving DecidableEq, Repr

def RefundFault.name : RefundFault → String
  | .client => "CLIENT"
  | .artist => "ARTIST"
  | .none => "NONE"

structure IssueRefundInput where
  holdId : Option ℕ := none
  transactionId : Option ℕ := none
  refundCents : Option ℤ := none
  full : Option Bool := none
  reason : String
  faultParty : RefundFault
  actorId : ℕ
  traceparent : Option String := none
  tracestate : Option String := none
deriving DecidableEq

namespace Store

/-- The most recent `CHARGE` transaction of an intent. -/
def latestCharge (s : Store) (paymentIntentId : ℕ) : Option Transaction :=
  (s.transactions.filter fun t ↦ t.paymentIntentId = paymentIntentId ∧ t.type = .charge).argmax
    Transaction.createdAt

/-- The first hold of an intent. -/
def holdOfIntent (s : Store) (paymentIntentId : ℕ) : Option EscrowHold :=
  s.escrowHolds.find? fun h ↦ h.paymentIntentId = paymentIntentId

end Store

/-- What the checks of `issueRefund` decide. -/
structure RefundPlan where
  refundCents : ℤ
  refundIsFull : Bool
  pfPaymentId : String
deriving DecidableEq

namespace RefundsService

/-- The hold must exist, and so must a charge of its intent. -/
def resolveByHold (holdId : ℕ) : Service (EscrowHold × Transaction) := do
  match ← Resumption.read fun s ↦ s.escrowHold? holdId with
  | none => throw (Failure.withDetail .notFound s!"No escrow hold {holdId}.")
  | some hold =>
    match ← Resumption.read fun s ↦ s.latestCharge hold.paymentIntentId with
    | none => throw (Failure.withDetail .notFound
        s!"No CHARGE transaction for intent {hold.paymentIntentId}.")
    | some charge => return (hold, charge)

/-- The transaction must be a charge, and its intent must have a hold. -/
def resolveByTransaction (transactionId : ℕ) : Service (EscrowHold × Transaction) := do
  match (← Resumption.read fun s ↦ s.transaction? transactionId).filter (·.type = .charge) with
  | none => throw (Failure.withDetail .notFound s!"No CHARGE transaction {transactionId}.")
  | some charge =>
    match ← Resumption.read fun s ↦ s.holdOfIntent charge.paymentIntentId with
    | none => throw (Failure.withDetail .notFound
        "No escrow hold found for the target transaction.")
    | some hold => return (hold, charge)

/-- Resolve the target hold and its charge; a hold id takes precedence. -/
def resolveHoldAndCharge (input : IssueRefundInput) : Service (EscrowHold × Transaction) :=
  match input.holdId, input.transactionId with
  | some holdId, _ => resolveByHold holdId
  | none, some transactionId => resolveByTransaction transactionId
  | none, none => throw (Failure.withDetail .validationFailed
      "One of holdId or transactionId is required.")

/-- Step 2: cap the refund and decide whether it is full. -/
def planRefund (input : IssueRefundInput) (hold : EscrowHold) (chargeTxn : Transaction) :
    Except Failure RefundPlan :=
  let remaining := hold.amountCents - hold.partiallyRefundedAmountCents
  if remaining ≤ 0 then
    .error (.withDetail .illegalTransition "Hold has no refundable balance remaining.")
  else if hold.state = .released ∨ hold.state = .refunded then
    .error (.withDetail .illegalTransition
      s!"Hold {hold.id} is in terminal state {hold.state.name}.")
  else
    let isFull := input.full = some true ∨ input.refundCents = none
    let refundCents := if isFull then remaining else input.refundCents.getD 0
    if refundCents ≤ 0 then
      .error (.withDetail .validationFailed
        "refundCents must be a positive integer (or set full=true).")
    else if refundCents > remaining then
      .error (.withDetail .refundExceedsCapture
        s!"Refund amount {refundCents} exceeds refundable balance {remaining}.")
    else
      let refundIsFull := refundCents = remaining
      match chargeTxn.gatewayTxnId.filter (· ≠ "") with
      | none => .error (.withDetail .payfastUpstreamFailure
          s!"Charge transaction {chargeTxn.id} has no pf_payment_id — cannot call Refund API.")
      | some pfPaymentId => .ok ⟨refundCents, refundIsFull, pfPaymentId⟩

/-- The row of a refund whose gateway call is about to be made. -/
def processingRow (input : IssueRefundInput) (chargeTxn : Transaction) (refundCents : ℤ) (id : ℕ)
    (createdAt : ℕ) : Refund where
  id := id
  transactionId := chargeTxn.id
  amountCents := refundCents
  reason := input.reason
  initiatedBy := input.actorId
  state := .processing
  gatewayRefundId := none
  failureReason := none
  completedAt := none
  createdAt := createdAt

/-! ## The gateway call -/

def payfastRetryDelaysMs : List ℕ := [250, 500, 1000]

def payfastMaxAttempts : ℕ := payfastRetryDelaysMs.length

/-- The loop of `callPayFastWithRetry`, with the attempts that are left and the last
retriable failure.  The pauses between attempts are left out. -/
def attemptRefund (config : PayFastConfig) (input : PayFastRefundInput) :
    ℕ → Option PayFastRefundResult → Service PayFastRefundResult
  | 0, lastFailure => return lastFailure.getD (.failed true none "PayFast refund retries exhausted.")
  | attempts + 1, _ => do
    match ← PayFastClient.refund config input with
    | .ok refundId => return .ok refundId
    | .failed retriable status reason =>
      if retriable then attemptRefund config input attempts (some (.failed retriable status reason))
      else return .failed retriable status reason

/-- 4xx is terminal; 5xx, network errors and timeouts are tried again. -/
def callPayFastWithRetry (config : PayFastConfig) (input : PayFastRefundInput) :
    Service PayFastRefundResult :=
  attemptRefund config input payfastMaxAttempts none

/-! ## After the gateway call -/

/-- The first characters of a string, up to `max` UTF-16 code units; one that would
be cut in two is left out. -/
def takeUtf16 : ℕ → List Char → List Char
  | _, [] => []
  | max, c :: cs =>
    let units := if c.toNat < 0x10000 then 1 else 2
    if units ≤ max then c :: takeUtf16 (max - units) cs else []

def truncate (value : String) (max : ℕ) : String :=
  if utf16Length value > max then String.ofList (takeUtf16 max value.toList) else value

/-- An event about a refund. -/
def refundNotice (refund : Refund) (type : PaymentsEventType) (data : EventData)
    (input : IssueRefundInput) : EnqueueInput where
  aggregateType := "Refund"
  aggregateId := refund.id
  type := type
  subject := s!"refunds/{refund.id}"
  data := data
  traceparent := input.traceparent
  tracestate := input.tracestate

/-- `payments.refund.failed`. -/
def failedNotice (refund : Refund) (hold : EscrowHold) (refundCents : ℤ) (reason : String)
    (input : IssueRefundInput) (now : ℕ) : EnqueueInput :=
  refundNotice refund .paymentsRefundFailed
    [("refundId", .uuid refund.id), ("transactionId", .uuid refund.transactionId),
      ("paymentIntentId", .uuid hold.paymentIntentId), ("bookingId", .uuid hold.bookingId),
      ("amountCents", .cents refundCents), ("currency", .currency hold.currency),
      ("failureReason", .str reason), ("failedAt", .date now)] input

/-- `payments.refund.succeeded`. -/
def succeededNotice (refund : Refund) (hold : EscrowHold) (chargeTxn : Transaction)
    (refundCents : ℤ) (gatewayRefundId : String) (input : IssueRefundInput) (completedAt : ℕ) :
    EnqueueInput :=
  refundNotice refund .paymentsRefundSucceeded
    [("refundId", .uuid refund.id), ("transactionId", .uuid chargeTxn.id),
      ("paymentIntentId", .uuid hold.paymentIntentId), ("bookingId", .uuid hold.bookingId),
      ("amountCents", .cents refundCents), ("currency", .currency hold.currency),
      ("gatewayRefundId", .str gatewayRefundId), ("succeededAt", .date completedAt),
      ("faultParty", .str input.faultParty.name)] input

/-- The update of the row after a failure. -/
def failRow (reason : String) (r : Refund) : Refund :=
  { r with state := .failed, failureReason := some (truncate reason 1000) }

/-- The update of the row after a success. -/
def succeedRow (gatewayRefundId : String) (completedAt : ℕ) (r : Refund) : Refund :=
  { r with
    state := .succeeded
    gatewayRefundId := some gatewayRefundId
    completedAt := some completedAt }

/-- Record the failure; the hold is not touched. -/
def handleGatewayFailure (refund : Refund) (hold : EscrowHold) (refundCents : ℤ)
    (reason : String) (input : IssueRefundInput) : Service Refund :=
  Resumption.transaction do
    let failed ← Tx.updateRefund refund.id (failRow reason)
    discard <| OutboxService.enqueue
      (failedNotice refund hold refundCents reason input (← Tx.now))
    return failed

/-- Only an artist at fault is one for the ledger. -/
def ledgerFault : RefundFault → FaultParty
  | .artist => .artist
  | _ => .client

/-- The call of `EscrowService` that a successful refund makes. -/
def moveHold (business : BusinessConfig) (refund : Refund) (hold : EscrowHold) (refundCents : ℤ)
    (refundIsFull : Bool) (input : IssueRefundInput) : Tx EscrowHold :=
  if refundIsFull then
    EscrowService.refund business hold.id
      { faultParty := ledgerFault input.faultParty
        reason := some input.reason
        actorId := some input.actorId
        note := some input.reason
        traceparent := input.traceparent
        tracestate := input.tracestate
        refundId := some refund.id }
  else
    EscrowService.partialRefund business hold.id refundCents
      { faultParty := ledgerFault input.faultParty
        reason := some input.reason
        actorId := some input.actorId
        traceparent := input.traceparent
        tracestate := input.tracestate
        refundId := some refund.id }

/-- The commit of the outer transaction: the row and its announcement. -/
def finaliseRefund (refund : Refund) (hold : EscrowHold) (chargeTxn : Transaction)
    (refundCents : ℤ) (gatewayRefundId : String) (input : IssueRefundInput) (completedAt : ℕ) :
    Tx Refund := do
  let succeeded ← Tx.updateRefund refund.id (succeedRow gatewayRefundId completedAt)
  discard <| OutboxService.enqueue
    (succeededNotice refund hold chargeTxn refundCents gatewayRefundId input completedAt)
  return succeeded

/-- Finalise the row, move the hold and announce the refund. -/
def handleGatewaySuccess (business : BusinessConfig) (refund : Refund) (hold : EscrowHold)
    (chargeTxn : Transaction) (refundCents : ℤ) (refundIsFull : Bool) (gatewayRefundId : String)
    (input : IssueRefundInput) : Service Refund := do
  -- (1) the update of the row, which waits for the commit
  let (found, completedAt) ← Resumption.read fun s ↦ (s.refund? refund.id, s.clock)
  if found.isNone then
    throw (Failure.prisma .p2025)
  -- (2) the escrow operation, which commits here
  discard <| Resumption.transaction
    (moveHold business refund hold refundCents refundIsFull input)
  -- (3) the outbox row, which waits for the commit
  Resumption.statement
  Resumption.transaction
    (finaliseRefund refund hold chargeTxn refundCents gatewayRefundId input completedAt)

/-- Steps 4 and 5, once the row is there: ask the gateway and act on its answer. -/
def executeRefund (config : PayFastConfig) (business : BusinessConfig) (input : IssueRefundInput)
    (hold : EscrowHold) (chargeTxn : Transaction) (plan : RefundPlan) (refund : Refund) :
    Service Refund := do
  match ← callPayFastWithRetry config ⟨plan.pfPaymentId, plan.refundCents, input.reason⟩ with
  | .failed _ _ reason =>
    let failed ← handleGatewayFailure refund hold plan.refundCents reason input
    throw (Failure.withDetail .payfastUpstreamFailure
      s!"PayFast refund failed for refundId={failed.id}: {reason}")
  | .ok gatewayRefundId =>
    handleGatewaySuccess business refund hold chargeTxn plan.refundCents plan.refundIsFull
      gatewayRefundId input

/-- Issue a refund, full or partial. -/
def issueRefund (config : PayFastConfig) (business : BusinessConfig) (input : IssueRefundInput) :
    Service Refund := do
  let (hold, chargeTxn) ← resolveHoldAndCharge input
  let plan ← Resumption.ofExcept (planRefund input hold chargeTxn)
  let refund ← Resumption.transaction
    (Tx.createRefund (processingRow input chargeTxn plan.refundCents))
  executeRefund config business input hold chargeTxn plan refund

end RefundsService

end GearshPayments
