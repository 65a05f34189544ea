import GearshPayments.Events.Outbox
import GearshPayments.Payouts.Service
import GearshPayments.Refunds.Service

/-!
# The payout dispatcher

`payout-dispatcher.job.ts`: a tick picks the queued payouts that are due and whose hold
has no refund in progress, and takes them one after the other: look up the artist's
verified bank details, claim the payout with a guarded update, ask the gateway with up
to three attempts, and record how it ended.
-/

namespace GearshPayments

namespace Store

/-- A refund of the hold is in progress. -/
def refundInProgress (s : Store) (holdId : ℕ) : Bool :=
  s.refunds.any fun r ↦ r.state = .processing ∧ s.transactions.any fun t ↦
    t.id = r.transactionId ∧ s.escrowHolds.any fun h ↦
      h.paymentIntentId = t.paymentIntentId ∧ h.id = holdId

end Store

inductive DispatchOutcome where
  | succeeded | failed | skipped
deriving DecidableEq

structure DispatchTickResult where
  picked : ℕ
  succeeded : ℕ
  failed : ℕ
  skipped : ℕ
deriving DecidableEq

namespace PayoutDispatcherJob

/-- By the time they are due, then by id. -/
def dueBefore (p q : Payout) : Prop :=
  p.dispatchAfter < q.dispatchAfter ∨ (p.dispatchAfter = q.dispatchAfter ∧ p.id ≤ q.id)

instance : DecidableRel dueBefore := fun p q ↦ by
  unfold dueBefore
  infer_instance

/-- A payout that the next tick may pick. -/
def due (s : Store) (p : Payout) : Bool :=
  p.state = .queued ∧ p.dispatchAfter ≤ s.clock ∧ s.refundInProgress p.holdId = false

/-- The next batch of payouts. -/
def pickCandidates (limit : ℕ) (s : Store) : List Payout :=
  ((s.payouts.filter (due s)).insertionSort dueBefore).take limit

/-- An event about a payout. -/
def payoutNotice (payout : Payout) (type : PaymentsEventType) (data : EventData) :
    EnqueueInput where
  aggregateType := "Payout"
  aggregateId := payout.id
  type := type
  subject := s!"payouts/{payout.id}"
  data := [("payoutId", .uuid payout.id), ("holdId", .uuid payout.holdId),
    ("artistUserId", .uuid payout.artistId), ("amountCents", .cents payout.amountCents),
    ("currency", .currency payout.currency)] ++ data
  traceparent := none
  tracestate := none

/-- `escrow.payout.succeeded`. -/
def succeededNotice (payout : Payout) (gatewayPayoutId : String) (completedAt : ℕ) :
    EnqueueInput :=
  payoutNotice payout .escrowPayoutSucceeded
    [("gatewayPayoutId", .str gatewayPayoutId), ("succeededAt", .date completedAt)]

/-- `escrow.payout.failed`. -/
def failedNotice (payout : Payout) (reason : String) (failedAt : ℕ) : EnqueueInput :=
  payoutNotice payout .escrowPayoutFailed
    [("failureReason", .str reason), ("failedAt", .date failedAt)]

/-- The update of the row after a success. -/
def succeedRow (gatewayPayoutId : String) (completedAt : ℕ) (p : Payout) : Payout :=
  { p with
    state := .succeeded
    completedAt := some completedAt
    gatewayPayoutId := some gatewayPayoutId }

/-- The update of the row after a failure. -/
def failRow (reason : String) (failedAt : ℕ) (p : Payout) : Payout :=
  { p with
    state := .failed
    failedAt := some failedAt
    failureReason := some (RefundsService.truncate reason 1000) }

/-- The row, the bank details' last use and the announcement, in one transaction. -/
def writeSuccess (payout : Payout) (gatewayPayoutId : String) (methodId : ℕ) (completedAt : ℕ) :
    Tx Unit := do
  discard <| Tx.updatePayout payout.id (succeedRow gatewayPayoutId completedAt)
  discard <| Tx.updateArtistPayoutMethod methodId fun m ↦ { m with lastUsedAt := some completedAt }
  discard <| OutboxService.enqueue (succeededNotice payout gatewayPayoutId completedAt)

/-- The row, if it is queued or in progress, and the announcement. -/
def writeFailure (payout : Payout) (reason : String) (failedAt : ℕ) : Tx Unit := do
  discard <| Tx.updateManyPayouts
    (fun p ↦ p.id = payout.id ∧ (p.state = .queued ∨ p.state = .processing))
    (failRow reason failedAt)
  discard <| OutboxService.enqueue (failedNotice payout reason failedAt)

def persistSuccess (payout : Payout) (gatewayPayoutId : String) (methodId : ℕ) : Engine Unit := do
  let completedAt ← Resumption.read Store.clock
  Resumption.transaction (writeSuccess payout gatewayPayoutId methodId completedAt)

def persistFailure (payout : Payout) (reason : String) : Engine Unit := do
  let failedAt ← Resumption.read Store.clock
  Resumption.transaction (writeFailure payout reason failedAt)

/-- The transition to `PROCESSING`, with the number of rows that made it. -/
def claim (payout : Payout) : Tx ℕ := do
  let now ← Tx.now
  Tx.updateManyPayouts (fun p ↦ p.id = payout.id ∧ p.state = .queued) fun p ↦
    { p with
      state := .processing
      attemptedAt := some now }

def payfastMaxAttempts : ℕ := 3

/-- The loop of `callPayFastWithRetry`, with the attempts that are left and the last
retriable failure.  The pauses between attempts are left out. -/
def attemptPayment (config : AdhocConfig) (input : PayFastAdhocPaymentInput) :
    ℕ → Option PayFastAdhocPaymentResult → Engine PayFastAdhocPaymentResult
  | 0, lastFailure => return lastFailure.getD (.failed true none "PayFast adhoc retries exhausted.")
  | attempts + 1, _ => do
    match ← PayFastClient.adhocPayment config input with
    | .ok payoutId => return .ok payoutId
    | .failed retriable status reason =>
      if retriable then
        attemptPayment config input attempts (some (.failed retriable status reason))
      else return .failed retriable status reason

def callPayFastWithRetry (config : AdhocConfig) (input : PayFastAdhocPaymentInput) :
    Engine PayFastAdhocPaymentResult :=
  attemptPayment config input payfastMaxAttempts none

/-- What the gateway is asked to pay. -/
def paymentInput (payout : Payout) (method : ArtistPayoutMethod) (accountNumber : String) :
    PayFastAdhocPaymentInput where
  accountHolder := method.accountHolderName
  bankName := method.bankName
  branchCode := method.branchCode
  accountNumber := accountNumber
  accountType := method.accountType
  amountCents := payout.amountCents
  reference := s!"payout-{payout.id}"
  description := s!"Gearsh payout for hold {payout.holdId}"

/-- Steps (c) to (f), for a payout that was claimed. -/
def payClaimed (config : PayoutsConfig) (payout : Payout) (method : ArtistPayoutMethod) :
    Engine DispatchOutcome := do
  -- the account number is decrypted by a query
  let decrypted ← Resumption.read fun _ ↦ config.decrypt method.accountNumberEncrypted
  let accountNumber ← Resumption.ofExcept decrypted
  match ← callPayFastWithRetry config.payfast (paymentInput payout method accountNumber) with
  | .failed _ _ reason =>
    persistFailure payout reason
    return .failed
  | .ok payoutId =>
    persistSuccess payout payoutId method.id
    return .succeeded

/-- Dispatch one payout. -/
def dispatchOne (config : PayoutsConfig) (payout : Payout) : Engine DispatchOutcome := do
  match ← Resumption.read fun s ↦ s.methodOf? payout.artistId with
  | none =>
    persistFailure payout "NO_PAYOUT_METHOD"
    return .failed
  | some method =>
    if method.isVerified = false then
      persistFailure payout "PAYOUT_METHOD_NOT_VERIFIED"
      return .failed
    let claimed ← Resumption.transaction (claim payout)
    if claimed = 0 then return .skipped
    payClaimed config payout method

/-- The tick's counters after one more payout; `none` is one that threw. -/
def DispatchTickResult.count (r : DispatchTickResult) : Option DispatchOutcome → DispatchTickResult
  | some .succeeded => { r with succeeded := r.succeeded + 1 }
  | some .skipped => { r with skipped := r.skipped + 1 }
  | some .failed | none => { r with failed := r.failed + 1 }

/-- The loop over the batch.  A payout whose dispatch throws does not stop it. -/
def dispatchAll (config : PayoutsConfig) : List Payout → DispatchTickResult →
    Engine DispatchTickResult
  | [], result => return result
  | candidate :: candidates, result => do
    let outcome ← tryCatchThe Failure (some <$> dispatchOne config candidate) fun _ ↦ return none
    dispatchAll config candidates (DispatchTickResult.count result outcome)

/-- One tick. -/
def runOnce (config : PayoutsConfig) : Engine DispatchTickResult := do
  let candidates ← Resumption.read (pickCandidates config.dispatchBatchSize)
  dispatchAll config candidates ⟨candidates.length, 0, 0, 0⟩

/-- The hourly tick; it is skipped while the gateway is not configured. -/
def cron (config : PayoutsConfig) : Engine DispatchTickResult :=
  if config.dispatchEnabled = false then return ⟨0, 0, 0, 0⟩
  else if config.payfast.enabled = false then return ⟨0, 0, 0, 0⟩
  else runOnce config

/-! ## What the two outcomes write -/

/-- The store after a success. -/
def paidStore (payout : Payout) (gatewayPayoutId : String) (methodId completedAt : ℕ) (s : Store) :
    Store :=
  { s with
    nextId := s.nextId + 1
    payouts := Table.update Payout.id payout.id (succeedRow gatewayPayoutId completedAt) s.payouts
    artistPayoutMethods := Table.update ArtistPayoutMethod.id methodId
      (fun m ↦ { m with lastUsedAt := some completedAt }) s.artistPayoutMethods
    outboxEvents := s.outboxEvents ++
      [OutboxService.row (succeededNotice payout gatewayPayoutId completedAt) s.nextId s.clock] }

theorem writeSuccess_apply {payout : Payout} {methodId : ℕ} {s : Store} {row : Payout}
    {method : ArtistPayoutMethod} (hrow : s.payout? payout.id = some row)
    (hmethod : Table.find ArtistPayoutMethod.id methodId s.artistPayoutMethods = some method)
    (gatewayPayoutId : String) (completedAt : ℕ) :
    writeSuccess payout gatewayPayoutId methodId completedAt s =
      .ok ((), paidStore payout gatewayPayoutId methodId completedAt s) := by
  simp only [writeSuccess, Tx.bind_apply, Tx.discard_apply, Tx.updatePayout_apply hrow,
    Tx.updateArtistPayoutMethod, hmethod, OutboxService.enqueue_apply, Except.map]
  rfl

/-- A success is recorded only where the payout and the bank details are there. -/
theorem of_writeSuccess_ok {payout : Payout} {gatewayPayoutId : String}
    {methodId completedAt : ℕ} {s s' : Store} {u : Unit}
    (h : writeSuccess payout gatewayPayoutId methodId completedAt s = .ok (u, s')) :
    ∃ row method, s.payout? payout.id = some row ∧
      Table.find ArtistPayoutMethod.id methodId s.artistPayoutMethods = some method ∧
      s' = paidStore payout gatewayPayoutId methodId completedAt s := by
  cases hrow : s.payout? payout.id with
  | none => simp [writeSuccess, Tx.bind_apply, Tx.updatePayout, hrow, Except.map] at h
  | some row =>
      cases hmethod : Table.find ArtistPayoutMethod.id methodId s.artistPayoutMethods with
      | none =>
          simp [writeSuccess, Tx.bind_apply, Tx.updatePayout, hrow, Tx.updateArtistPayoutMethod,
            hmethod, Except.map] at h
      | some method =>
          rw [writeSuccess_apply hrow hmethod] at h
          cases h
          exact ⟨row, method, rfl, rfl, rfl⟩

end PayoutDispatcherJob

end GearshPayments
