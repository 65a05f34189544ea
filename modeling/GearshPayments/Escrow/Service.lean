import GearshPayments.Escrow.Ledger
import GearshPayments.Escrow.StateMachine
import GearshPayments.Events.Outbox

/-!
# The escrow service

`escrow.service.ts`: the seven operations on a hold.  Each is one serializable
transaction with the hold's row locked, so each is one `Tx`; the argument check
that `partialRefund` and `resolveSplit` make before they open theirs is its first
line.

The operations differ in what they write, not in how they write it: update the
hold's row, create an event, write its ledger entries, queue or cancel payouts,
enqueue the announcement.  The work of an operation is therefore a function from
the locked hold to the values it writes (`Writes`), and `applyTransition` does the
writing (`write`).  An operation that skips one of the writes leaves that field
empty.
-/

namespace GearshPayments

/-- `config.business`, as far as escrow reads it. -/
structure BusinessConfig where
  disputeWindowDays : ℕ

structure MutationContext where
  actorId : Option ℕ := none
  note : Option String := none
  traceparent : Option String := none
  tracestate : Option String := none
deriving DecidableEq

structure RefundOptions extends MutationContext where
  faultParty : FaultParty
  reason : Option String := none
  refundId : Option ℕ := none
deriving DecidableEq

structure FreezeOptions extends MutationContext where
  reason : String
deriving DecidableEq

structure ResolveOptions extends MutationContext where
  resolutionNotes : Option String := none
deriving DecidableEq

namespace EscrowService

/-! ## Internals -/

/-- The row of one ledger entry of an event. -/
def ledgerEntry (hold : EscrowHold) (event : EscrowEvent) (createdAt : ℕ)
    (e : LedgerEntryInput) : LedgerEntry :=
  { e with holdId := hold.id, eventId := event.id, currency := hold.currency, createdAt }

/-- Check the entries of an event and write them. -/
def writeLedger (hold : EscrowHold) (event : EscrowEvent) (entries : List LedgerEntryInput) :
    Tx Unit := do
  liftM (LedgerService.assertBalanced entries)
  if entries.length = 0 then return
  Tx.createLedgerEntries fun now ↦ entries.map (ledgerEntry hold event now)

/-- The row of a payout queued for an artist. -/
def queuedPayout (hold : EscrowHold) (amountCents : ℤ) (dispatchAfter : ℕ) (id : ℕ)
    (createdAt : ℕ) : Payout where
  id := id
  artistId := hold.artistId
  holdId := hold.id
  amountCents := amountCents
  currency := hold.currency
  state := .queued
  dispatchAfter := dispatchAfter
  gatewayPayoutId := none
  attemptedAt := none
  completedAt := none
  cancelledAt := none
  cancellationReason := none
  failureReason := none
  attempts := 0
  failedAt := none
  createdAt := createdAt

/-- The event that announces a queued payout. -/
def payoutQueued (payout : Payout) : EnqueueInput where
  aggregateType := "Payout"
  aggregateId := payout.id
  type := .escrowPayoutQueued
  subject := s!"payouts/{payout.id}"
  data := [("payoutId", .uuid payout.id), ("holdId", .uuid payout.holdId),
    ("artistUserId", .uuid payout.artistId), ("amountCents", .cents payout.amountCents),
    ("currency", .currency payout.currency), ("dispatchAfter", .date payout.dispatchAfter),
    ("queuedAt", .date payout.createdAt)]
  traceparent := none
  tracestate := none

/-- The end of the dispute window that starts now. -/
def dispatchAfter (config : BusinessConfig) (releasedAt : ℕ) : ℕ :=
  releasedAt + config.disputeWindowDays * 24 * 60 * 60 * 1000

/-- Queue the payout of a positive amount, dispatched after the dispute window. -/
def queuePayout (config : BusinessConfig) (hold : EscrowHold) (amountCents : ℤ)
    (releasedAt : ℕ) : Tx Unit := do
  if amountCents ≤ 0 then return
  let payout ← Tx.createPayout (queuedPayout hold amountCents (dispatchAfter config releasedAt))
  discard <| OutboxService.enqueue (payoutQueued payout)

/-- The row of an event of a hold. -/
def escrowEvent (hold : EscrowHold) (type : EscrowEventType) (amountCents : ℤ)
    (actorId : Option ℕ) (note : Option String) (refundId : Option ℕ) (id : ℕ)
    (createdAt : ℕ) : EscrowEvent :=
  { id, holdId := hold.id, type, amountCents, actorId, note, refundId, createdAt }

/-- What an operation writes for the hold it has locked. -/
structure Writes where
  /-- The update of the hold's row. -/
  update : EscrowHold → EscrowHold
  /-- The event: its type, amount, actor, note and refund. -/
  type : EscrowEventType
  amountCents : ℤ
  actorId : Option ℕ
  note : Option String
  refundId : Option ℕ := none
  /-- The ledger entries, whose builder may throw. -/
  entries : Except Failure (List LedgerEntryInput)
  /-- Whether queued payouts are cancelled. -/
  cancels : Bool := false
  /-- The amount paid out to the artist. -/
  payout : ℤ := 0
  /-- The announcement. -/
  notice : EnqueueInput

/-- The work of an operation, given the locked hold, the target state and the time. -/
abbrev Work := EscrowHold → EscrowState → ℕ → Except Failure Writes

/-- Write it, in the order of the source. -/
def write (config : BusinessConfig) (hold : EscrowHold) (w : Writes) : Tx Unit := do
  let now ← Tx.now
  let updated ← Tx.updateEscrowHold hold.id w.update
  let event ← Tx.createEscrowEvent
    (escrowEvent hold w.type w.amountCents w.actorId w.note w.refundId)
  let entries ← liftM w.entries
  writeLedger updated event entries
  if w.cancels then
    Tx.updatePayouts (fun p ↦ p.holdId = hold.id ∧ p.state = .queued) fun p ↦
      { p with
        state := .cancelled
        cancelledAt := some now
        cancellationReason := some "ESCROW_FROZEN" }
  queuePayout config updated w.payout now
  discard <| OutboxService.enqueue w.notice

/-- The common course of every operation: lock the hold's row, check the
transition, do the operation's work, and return the row. -/
def applyTransition (config : BusinessConfig) (holdId : ℕ) (action : EscrowAction)
    (work : Work) : Tx EscrowHold := do
  match ← Tx.findEscrowHold holdId with
  | none => throw (Failure.ofCode .notFound)
  | some _ =>
    let hold ← Tx.findEscrowHoldOrThrow holdId
    if ¬canTransition hold.state action then
      discard <| liftM (nextState hold.state action)
    let target ← liftM (nextState hold.state action)
    let writes ← liftM (work hold target (← Tx.now))
    write config hold writes
    Tx.findEscrowHoldOrThrow holdId

/-! ## The data of the announcements -/

/-- An event about a hold. -/
def holdNotice (hold : EscrowHold) (type : PaymentsEventType) (data : EventData)
    (opts : MutationContext) : EnqueueInput where
  aggregateType := "EscrowHold"
  aggregateId := hold.id
  type := type
  subject := s!"escrow-holds/{hold.id}"
  data := data
  traceparent := opts.traceparent
  tracestate := opts.tracestate

/-- The data of `escrow.released`. -/
def releasedData (hold : EscrowHold) (amountCents : ℤ) (releasedAt : ℕ) : EventData :=
  [("holdId", .uuid hold.id), ("bookingId", .uuid hold.bookingId),
    ("artistId", .uuid hold.artistId), ("amountCents", .cents amountCents),
    ("currency", .currency hold.currency), ("releasedAt", .date releasedAt)]

/-- The data of `escrow.refunded` after a refund that is not a split. -/
def refundedData (hold : EscrowHold) (refundCents : ℤ) (refundedAt : ℕ)
    (faultParty : FaultParty) : EventData :=
  [("holdId", .uuid hold.id), ("bookingId", .uuid hold.bookingId),
    ("clientId", .uuid hold.clientId), ("refundCents", .cents refundCents),
    ("currency", .currency hold.currency), ("refundedAt", .date refundedAt),
    ("faultParty", .str faultParty.name)]

/-- The data of `escrow.refunded` after a split. -/
def splitData (hold : EscrowHold) (artistCents clientCents : ℤ) (resolvedAt : ℕ) :
    EventData :=
  [("holdId", .uuid hold.id), ("bookingId", .uuid hold.bookingId),
    ("clientId", .uuid hold.clientId), ("artistId", .uuid hold.artistId),
    ("refundCents", .cents clientCents), ("splitArtistCents", .cents artistCents),
    ("splitClientCents", .cents clientCents), ("currency", .currency hold.currency),
    ("refundedAt", .date resolvedAt), ("faultParty", .str FaultParty.split.name)]

/-- The data of `escrow.partially_refunded`. -/
def partiallyRefundedData (hold : EscrowHold) (refundCents running : ℤ)
    (refundedAt : ℕ) : EventData :=
  [("holdId", .uuid hold.id), ("bookingId", .uuid hold.bookingId),
    ("clientId", .uuid hold.clientId), ("refundCents", .cents refundCents),
    ("runningRefundedCents", .cents running), ("currency", .currency hold.currency),
    ("refundedAt", .date refundedAt)]

/-- The data of `escrow.frozen`. -/
def frozenData (hold : EscrowHold) (reason : String) (frozenAt : ℕ) : EventData :=
  [("holdId", .uuid hold.id), ("bookingId", .uuid hold.bookingId), ("reason", .str reason),
    ("frozenAt", .date frozenAt)]

/-! ## Operations -/

/-- What remains of the hold goes to the artist. -/
def releaseWork (opts : MutationContext) : Work := fun hold target releasedAt ↦
  let remainder := hold.amountCents - hold.partiallyRefundedAmountCents
  if remainder < 0 then
    .error (.withDetail .ledgerImbalance
      "Partially refunded amount exceeds held amount — refusing to release.")
  else .ok {
    update := fun h ↦ { h with state := target, releasedAt := some releasedAt }
    type := .released
    amountCents := remainder
    actorId := opts.actorId
    note := opts.note
    entries := .ok (LedgerService.buildReleaseEntriesForAmount remainder)
    payout := remainder
    notice := holdNotice hold .escrowReleased (releasedData hold remainder releasedAt) opts }

def release (config : BusinessConfig) (holdId : ℕ) (opts : MutationContext) : Tx EscrowHold :=
  applyTransition config holdId .release (releaseWork opts)

/-- The whole held amount goes back to the client. -/
def refundWork (opts : RefundOptions) : Work := fun hold target refundedAt ↦
  let refundCents := hold.amountCents
  .ok {
    update := fun h ↦ { h with state := target, refundedAt := some refundedAt }
    type := .refunded
    amountCents := refundCents
    actorId := opts.actorId
    note := opts.note <|> opts.reason
    refundId := opts.refundId
    entries := LedgerService.buildRefundEntries hold.snapshot refundCents opts.faultParty true
    notice := holdNotice hold .escrowRefunded
      (refundedData hold refundCents refundedAt opts.faultParty) opts.toMutationContext }

def refund (config : BusinessConfig) (holdId : ℕ) (opts : RefundOptions) : Tx EscrowHold :=
  applyTransition config holdId .refund (refundWork opts)

/-- A part goes back to the client, and is added to the running total of the hold. -/
def partialRefundWork (refundCents : ℤ) (opts : RefundOptions) : Work :=
  fun hold target refundedAt ↦
  let running := hold.partiallyRefundedAmountCents + refundCents
  if running > hold.amountCents then
    .error (.withDetail .refundExceedsCapture
      s!"Cumulative refund {running} would exceed held amount {hold.amountCents}.")
  else .ok {
    update := fun h ↦
      { h with
        state := target
        partiallyRefundedAmountCents := running
        -- later partial refunds keep the time of the first
        refundedAt := some (hold.refundedAt.getD refundedAt) }
    type := .partiallyRefunded
    amountCents := refundCents
    actorId := opts.actorId
    note := opts.note <|> opts.reason
    refundId := opts.refundId
    entries := LedgerService.buildRefundEntries hold.snapshot refundCents opts.faultParty false
    notice := holdNotice hold .escrowPartiallyRefunded
      (partiallyRefundedData hold refundCents running refundedAt) opts.toMutationContext }

def partialRefund (config : BusinessConfig) (holdId : ℕ) (refundCents : ℤ)
    (opts : RefundOptions) : Tx EscrowHold := do
  if refundCents ≤ 0 then
    throw (Failure.withDetail .validationFailed "Partial refund amount must be positive.")
  applyTransition config holdId .partialRefund (partialRefundWork refundCents opts)

/-- The hold is frozen for a dispute; no money moves. -/
def freezeWork (opts : FreezeOptions) : Work := fun hold target frozenAt ↦
  .ok {
    update := fun h ↦ { h with state := target, disputedAt := some frozenAt }
    type := .frozen
    amountCents := hold.amountCents - hold.partiallyRefundedAmountCents
    actorId := opts.actorId
    note := some opts.reason
    entries := .ok []
    cancels := true
    notice := holdNotice hold .escrowFrozen (frozenData hold opts.reason frozenAt)
      opts.toMutationContext }

def freeze (config : BusinessConfig) (holdId : ℕ) (opts : FreezeOptions) : Tx EscrowHold :=
  applyTransition config holdId .freeze (freezeWork opts)

/-- A dispute ends for the artist. -/
def resolveReleaseWork (opts : ResolveOptions) : Work := fun hold target releasedAt ↦
  let amount := hold.amountCents - hold.partiallyRefundedAmountCents
  .ok {
    update := fun h ↦ { h with state := target, releasedAt := some releasedAt }
    type := .resolvedRelease
    amountCents := amount
    actorId := opts.actorId
    note := opts.resolutionNotes <|> opts.note
    entries := .ok (LedgerService.buildReleaseEntriesForAmount amount)
    payout := amount
    notice := holdNotice hold .escrowReleased (releasedData hold amount releasedAt)
      opts.toMutationContext }

def resolveRelease (config : BusinessConfig) (holdId : ℕ) (opts : ResolveOptions) :
    Tx EscrowHold :=
  applyTransition config holdId .resolveRelease (resolveReleaseWork opts)

/-- A dispute ends for the client: the rest is refunded with the artist at fault. -/
def resolveRefundWork (opts : ResolveOptions) : Work := fun hold target refundedAt ↦
  let refundCents := hold.amountCents - hold.partiallyRefundedAmountCents
  .ok {
    update := fun h ↦ { h with state := target, refundedAt := some refundedAt }
    type := .resolvedRefund
    amountCents := refundCents
    actorId := opts.actorId
    note := opts.resolutionNotes <|> opts.note
    entries := LedgerService.buildRefundEntries hold.snapshot refundCents .artist true
    notice := holdNotice hold .escrowRefunded (refundedData hold refundCents refundedAt .artist)
      opts.toMutationContext }

def resolveRefund (config : BusinessConfig) (holdId : ℕ) (opts : ResolveOptions) :
    Tx EscrowHold :=
  applyTransition config holdId .resolveRefund (resolveRefundWork opts)

/-- A dispute ends with a split of what is held. -/
def resolveSplitWork (artistCents clientCents : ℤ) (opts : ResolveOptions) : Work :=
  fun hold target resolvedAt ↦
  let heldAmount := hold.amountCents - hold.partiallyRefundedAmountCents
  let sum := artistCents + clientCents
  if sum ≠ heldAmount then
    .error (.withDetail .businessRuleViolation
      s!"artistCents + clientCents ({sum}) must equal the held amount {heldAmount}.")
  else .ok {
    update := fun h ↦
      { h with
        state := target
        refundedAt := some resolvedAt
        releasedAt := if artistCents > 0 then some resolvedAt else none }
    type := .resolvedRefund
    amountCents := clientCents
    actorId := opts.actorId
    note := opts.resolutionNotes <|> opts.note
    entries := LedgerService.buildSplitEntries ⟨heldAmount, hold.platformFeeCents⟩ artistCents
      clientCents
    -- the source tests `artistCents > 0` here and again in `queuePayout`
    payout := artistCents
    notice := holdNotice hold .escrowRefunded (splitData hold artistCents clientCents resolvedAt)
      opts.toMutationContext }

def resolveSplit (config : BusinessConfig) (holdId : ℕ) (artistCents clientCents : ℤ)
    (opts : ResolveOptions) : Tx EscrowHold := do
  if artistCents < 0 ∨ clientCents < 0 then
    throw (Failure.withDetail .validationFailed "Split amounts must be non-negative.")
  applyTransition config holdId .resolveSplit (resolveSplitWork artistCents clientCents opts)

end EscrowService

end GearshPayments
