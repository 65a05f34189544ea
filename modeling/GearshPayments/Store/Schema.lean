import Mathlib.Data.Rat.Defs
import GearshPayments.Calendar
import GearshPayments.DoubleEntry
import GearshPayments.Events.EventTypes
import GearshPayments.Table

/-!
# The database schema

The tables of `prisma/schema.prisma` that the payment, escrow, refund and
subscriber services read or write, each as the list of its rows in insertion
order.  Identifiers are numbers, handed out by a counter in place of
`uuid_generate_v7()`; amounts are integers (`bigint` cents); instants are
milliseconds.  Columns nothing reads (raw gateway payloads, `updated_at`) are
left out, as are the row ids of ledger entries.
-/

namespace GearshPayments

/-! ## Enumerations -/

inductive Currency where
  | zar | usd | gbp | ngn | kes | ghs | aud | cad
deriving DecidableEq, Repr

inductive IntentState where
  | created | locked | awaitingPayment | succeeded | failed | expired | cancelled
deriving DecidableEq, Repr

inductive TransactionType where
  | charge | refund
deriving DecidableEq, Repr

inductive TransactionState where
  | pending | succeeded | failed
deriving DecidableEq, Repr

inductive PayFastPaymentStatus where
  | complete | failed | pending | cancelled
deriving DecidableEq, Repr

inductive RefundState where
  | pending | processing | succeeded | failed
deriving DecidableEq, Repr

inductive EscrowState where
  | held | released | partiallyRefunded | refunded | disputed
deriving DecidableEq, Repr

inductive EscrowEventType where
  | held | released | refunded | partiallyRefunded | frozen | resolvedRelease | resolvedRefund
deriving DecidableEq, Repr

inductive PayoutState where
  | queued | processing | succeeded | failed | cancelled
deriving DecidableEq, Repr

inductive BankAccountType where
  | cheque | savings | transmission
deriving DecidableEq, Repr

inductive FindingSeverity where
  | info | low | high
deriving DecidableEq, Repr

inductive ReconciliationRunState where
  | running | completed | failed
deriving DecidableEq, Repr

inductive LedgerAccount where
  | clientFunds | escrowLiability | platformRevenue | artistPayable | payfastSettlement
  | refundsIssued
deriving DecidableEq, Repr

/-! ## Rows -/

structure PaymentIntent where
  id : ℕ
  bookingId : ℕ
  userId : ℕ
  artistId : ℕ
  subtotalCents : ℤ
  serviceFeeCents : ℤ
  totalCents : ℤ
  currency : Currency
  pfPaymentId : Option String
  mPaymentId : Option String
  state : IntentState
  zarAmountCentsLocked : Option ℤ
  zarServiceFeeCentsLocked : Option ℤ
  zarRateLocked : Option ℚ
  createdAt : ℕ
  zarLockedAt : Option ℕ := none
  lockExpiresAt : Option ℕ := none
  clientCurrency : Currency := currency
  quotedZarAmountCents : Option ℤ := none
  idempotencyKey : Option String := none
deriving DecidableEq

structure Transaction where
  id : ℕ
  paymentIntentId : ℕ
  type : TransactionType
  amountCents : ℤ
  currency : Currency
  gatewayTxnId : Option String
  pfPaymentStatus : Option PayFastPaymentStatus
  state : TransactionState
  createdAt : ℕ
deriving DecidableEq

structure Refund where
  id : ℕ
  transactionId : ℕ
  amountCents : ℤ
  reason : String
  initiatedBy : ℕ
  state : RefundState
  gatewayRefundId : Option String
  failureReason : Option String
  completedAt : Option ℕ
  createdAt : ℕ
deriving DecidableEq

structure EscrowHold where
  id : ℕ
  bookingId : ℕ
  paymentIntentId : ℕ
  clientId : ℕ
  artistId : ℕ
  amountCents : ℤ
  platformFeeCents : ℤ
  currency : Currency
  state : EscrowState
  partiallyRefundedAmountCents : ℤ
  heldAt : ℕ
  releasedAt : Option ℕ
  refundedAt : Option ℕ
  disputedAt : Option ℕ
  createdAt : ℕ
deriving DecidableEq

structure EscrowEvent where
  id : ℕ
  holdId : ℕ
  type : EscrowEventType
  amountCents : ℤ
  actorId : Option ℕ
  note : Option String
  refundId : Option ℕ
  createdAt : ℕ
deriving DecidableEq

/-- A ledger entry is a posting to a `LedgerAccount`, made for one hold by one
escrow event. -/
structure LedgerEntry extends DoubleEntry.Posting LedgerAccount where
  holdId : ℕ
  eventId : ℕ
  currency : Currency
  createdAt : ℕ
deriving DecidableEq

structure Payout where
  id : ℕ
  artistId : ℕ
  holdId : ℕ
  amountCents : ℤ
  currency : Currency
  state : PayoutState
  dispatchAfter : ℕ
  gatewayPayoutId : Option String
  attemptedAt : Option ℕ
  completedAt : Option ℕ
  cancelledAt : Option ℕ
  cancellationReason : Option String
  failureReason : Option String
  attempts : ℕ
  failedAt : Option ℕ
  createdAt : ℕ
deriving DecidableEq

/-- The bank details of an artist, of which there is at most one row for an artist. -/
structure ArtistPayoutMethod where
  id : ℕ
  artistUserId : ℕ
  bankName : String
  accountHolderName : String
  accountNumberEncrypted : String
  branchCode : String
  accountType : BankAccountType
  isVerified : Bool
  verifiedAt : Option ℕ
  verifiedBy : Option ℕ
  lastUsedAt : Option ℕ
  createdAt : ℕ
deriving DecidableEq

/-- The row of a currency pair at an instant; no two rows agree in all three. -/
structure ExchangeRate where
  fromCurrency : Currency
  toCurrency : Currency
  rate : ℚ
  asOf : ℕ
deriving DecidableEq

/-- A rate pinned by an admin; at most one for a currency pair. -/
structure FxRateOverride where
  fromCurrency : Currency
  toCurrency : Currency
  rate : ℚ
  updatedAt : ℕ
deriving DecidableEq

/-- A value in the data of an event.  UUIDs and timestamps travel as strings;
they keep their own constructors here, so that what is read back is what was
written. -/
inductive EventValue where
  | null
  | num (n : ℚ)
  | str (s : String)
  | uuid (id : ℕ)
  | date (t : ℕ)
deriving DecidableEq

/-- The data of an event: a record from field names to values. -/
abbrev EventData := List (String × EventValue)

/-- `data[field]`, with `none` for `undefined`. -/
def EventData.get (data : EventData) (field : String) : Option EventValue := data.lookup field

structure OutboxEvent where
  id : ℕ
  aggregateType : String
  aggregateId : ℕ
  eventType : PaymentsEventType
  subject : String
  dataschema : String
  data : EventData
  traceparent : String
  tracestate : String
  createdAt : ℕ
  publishedAt : Option ℕ
  attempts : ℕ
  lastError : Option String
deriving DecidableEq

/-- A finding of reconciliation; `context` is empty where the finding has none. -/
structure ReconciliationFinding where
  code : String
  severity : FindingSeverity
  detail : String
  context : List (String × String)
deriving DecidableEq

/-- A run of reconciliation.  The column `as_of_date` is a date of the calendar, without a time. -/
structure ReconciliationRun where
  id : ℕ
  asOfDate : CivilDate
  startedAt : ℕ
  completedAt : Option ℕ
  state : ReconciliationRunState
  findingsCount : ℕ
  findings : List ReconciliationFinding
  alertSent : Bool
  createdAt : ℕ
deriving DecidableEq

/-! ## The store -/

/-- The database, with the clock its clients read and the counter that hands out
identifiers. -/
structure Store where
  clock : ℕ
  nextId : ℕ
  paymentIntents : List PaymentIntent
  transactions : List Transaction
  refunds : List Refund
  escrowHolds : List EscrowHold
  escrowEvents : List EscrowEvent
  ledgerEntries : List LedgerEntry
  payouts : List Payout
  outboxEvents : List OutboxEvent
  exchangeRates : List ExchangeRate := []
  fxRateOverrides : List FxRateOverride := []
  artistPayoutMethods : List ArtistPayoutMethod := []
  reconciliationRuns : List ReconciliationRun := []
deriving DecidableEq

namespace Store

/-- A store in which nothing has been captured yet: it holds payment intents only. -/
def empty (clock : ℕ) (nextId : ℕ) (intents : List PaymentIntent) : Store :=
  { clock, nextId, paymentIntents := intents, transactions := [], refunds := [],
    escrowHolds := [], escrowEvents := [], ledgerEntries := [], payouts := [],
    outboxEvents := [] }

def paymentIntent? (s : Store) (id : ℕ) : Option PaymentIntent :=
  Table.find PaymentIntent.id id s.paymentIntents

def transaction? (s : Store) (id : ℕ) : Option Transaction :=
  Table.find Transaction.id id s.transactions

def refund? (s : Store) (id : ℕ) : Option Refund := Table.find Refund.id id s.refunds

def escrowHold? (s : Store) (id : ℕ) : Option EscrowHold :=
  Table.find EscrowHold.id id s.escrowHolds

def payout? (s : Store) (id : ℕ) : Option Payout := Table.find Payout.id id s.payouts

/-- The payout method of an artist. -/
def methodOf? (s : Store) (artistUserId : ℕ) : Option ArtistPayoutMethod :=
  Table.find ArtistPayoutMethod.artistUserId artistUserId s.artistPayoutMethods

def reconciliationRun? (s : Store) (id : ℕ) : Option ReconciliationRun :=
  Table.find ReconciliationRun.id id s.reconciliationRuns

/-- A lookup sees the table and nothing else. -/
theorem escrowHold?_congr {s s' : Store} (h : s'.escrowHolds = s.escrowHolds) (id : ℕ) :
    s'.escrowHold? id = s.escrowHold? id := by
  rw [escrowHold?, escrowHold?, h]

end Store

end GearshPayments
