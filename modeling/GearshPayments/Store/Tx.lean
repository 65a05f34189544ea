import GearshPayments.Problem
import GearshPayments.Store.Schema

/-!
# Transactions

The client of one open transaction: a computation that reads and rewrites the
store and may throw, in which case none of its writes remain.  Each operation
below is one call of the database client; the constraints of the schema that a
call can run into are part of it.  A foreign key to a row that the same
transaction has read, updated or created is not checked again, since no code
deletes rows of these tables.

Every operation has one equation, `…_apply`, which says what it does in a store
that has the row it is for; proofs about transactions rewrite with these
equations and never unfold the operations.
-/

namespace GearshPayments

/-- A computation inside an open transaction. -/
abbrev Tx := StateT Store (Except Failure)

namespace Tx

/-- `new Date()`. -/
def now : Tx ℕ := fun s ↦ .ok (s.clock, s)

def findEscrowHold (id : ℕ) : Tx (Option EscrowHold) := fun s ↦ .ok (s.escrowHold? id, s)

/-- `findUniqueOrThrow` on the hold's id. -/
def findEscrowHoldOrThrow (id : ℕ) : Tx EscrowHold := fun s ↦
  match s.escrowHold? id with
  | none => .error (.prisma .p2025)
  | some h => .ok (h, s)

def updateEscrowHold (id : ℕ) (f : EscrowHold → EscrowHold) : Tx EscrowHold := fun s ↦
  match s.escrowHold? id with
  | none => .error (.prisma .p2025)
  | some h => .ok (f h, { s with escrowHolds := Table.update EscrowHold.id id f s.escrowHolds })

/-- Booking ids are unique among holds. -/
def createEscrowHold (row : ℕ → ℕ → EscrowHold) : Tx EscrowHold := fun s ↦
  let hold := row s.nextId s.clock
  if s.escrowHolds.any fun h ↦ h.bookingId = hold.bookingId then .error (.prisma .p2002)
  else .ok (hold, { s with nextId := s.nextId + 1, escrowHolds := s.escrowHolds ++ [hold] })

/-- The refund an event refers to, if any, must exist. -/
def createEscrowEvent (row : ℕ → ℕ → EscrowEvent) : Tx EscrowEvent := fun s ↦
  let event := row s.nextId s.clock
  if event.refundId.all fun id ↦ (s.refund? id).isSome then
    .ok (event, { s with nextId := s.nextId + 1, escrowEvents := s.escrowEvents ++ [event] })
  else .error (.prisma .p2003)

def createLedgerEntries (rows : ℕ → List LedgerEntry) : Tx Unit := fun s ↦
  .ok ((), { s with ledgerEntries := s.ledgerEntries ++ rows s.clock })

def createPayout (row : ℕ → ℕ → Payout) : Tx Payout := fun s ↦
  let payout := row s.nextId s.clock
  .ok (payout, { s with nextId := s.nextId + 1, payouts := s.payouts ++ [payout] })

/-- `updateMany`: rewrite the payouts that satisfy the filter. -/
def updatePayouts (p : Payout → Bool) (f : Payout → Payout) : Tx Unit := fun s ↦
  .ok ((), { s with payouts := s.payouts.map fun r ↦ if p r then f r else r })

/-- `updateMany`, with the number of rows rewritten. -/
def updateManyPayouts (p : Payout → Bool) (f : Payout → Payout) : Tx ℕ := fun s ↦
  .ok ((s.payouts.filter p).length,
    { s with payouts := s.payouts.map fun r ↦ if p r then f r else r })

def updatePayout (id : ℕ) (f : Payout → Payout) : Tx Payout := fun s ↦
  match s.payout? id with
  | none => .error (.prisma .p2025)
  | some r => .ok (f r, { s with payouts := Table.update Payout.id id f s.payouts })

def updateArtistPayoutMethod (id : ℕ) (f : ArtistPayoutMethod → ArtistPayoutMethod) :
    Tx ArtistPayoutMethod := fun s ↦
  match Table.find ArtistPayoutMethod.id id s.artistPayoutMethods with
  | none => .error (.prisma .p2025)
  | some m => .ok (f m,
      { s with
        artistPayoutMethods := Table.update ArtistPayoutMethod.id id f s.artistPayoutMethods })

/-- `update` of the bank details of an artist. -/
def updateMethodOf (artistUserId : ℕ) (f : ArtistPayoutMethod → ArtistPayoutMethod) :
    Tx ArtistPayoutMethod := fun s ↦
  match s.methodOf? artistUserId with
  | none => .error (.prisma .p2025)
  | some m => .ok (f m,
      { s with
        artistPayoutMethods :=
          Table.update ArtistPayoutMethod.artistUserId artistUserId f s.artistPayoutMethods })

/-- An artist has one row of bank details at most. -/
def createArtistPayoutMethod (row : ℕ → ℕ → ArtistPayoutMethod) : Tx ArtistPayoutMethod := fun s ↦
  let method := row s.nextId s.clock
  if (s.methodOf? method.artistUserId).isSome then .error (.prisma .p2002)
  else .ok (method,
    { s with
      nextId := s.nextId + 1
      artistPayoutMethods := s.artistPayoutMethods ++ [method] })

def createOutboxEvent (row : ℕ → ℕ → OutboxEvent) : Tx ℕ := fun s ↦
  .ok (s.nextId,
    { s with
      nextId := s.nextId + 1
      outboxEvents := s.outboxEvents ++ [row s.nextId s.clock] })

/-- Booking ids are unique among intents, and so are idempotency keys. -/
def createPaymentIntent (row : ℕ → ℕ → PaymentIntent) : Tx PaymentIntent := fun s ↦
  let intent := row s.nextId s.clock
  if s.paymentIntents.any fun i ↦ i.bookingId = intent.bookingId ∨
      (i.idempotencyKey ≠ none ∧ i.idempotencyKey = intent.idempotencyKey) then
    .error (.prisma .p2002)
  else .ok (intent,
    { s with nextId := s.nextId + 1, paymentIntents := s.paymentIntents ++ [intent] })

def updatePaymentIntent (id : ℕ) (f : PaymentIntent → PaymentIntent) : Tx PaymentIntent :=
  fun s ↦ match s.paymentIntent? id with
  | none => .error (.prisma .p2025)
  | some i => .ok (f i,
      { s with paymentIntents := Table.update PaymentIntent.id id f s.paymentIntents })

/-- The first transaction that satisfies the filter. -/
def findTransaction (p : Transaction → Bool) : Tx (Option Transaction) := fun s ↦
  .ok (s.transactions.find? p, s)

/-- The intent must exist, and the tuple of intent, gateway transaction id and
PayFast status is unique unless one of its parts is `NULL`. -/
def createTransaction (row : ℕ → ℕ → Transaction) : Tx Transaction := fun s ↦
  let txn := row s.nextId s.clock
  if (s.paymentIntent? txn.paymentIntentId).isNone then .error (.prisma .p2003)
  else if txn.gatewayTxnId.isSome ∧ txn.pfPaymentStatus.isSome ∧ s.transactions.any fun t ↦
      t.paymentIntentId = txn.paymentIntentId ∧ t.gatewayTxnId = txn.gatewayTxnId ∧
        t.pfPaymentStatus = txn.pfPaymentStatus then .error (.prisma .p2002)
  else .ok (txn, { s with nextId := s.nextId + 1, transactions := s.transactions ++ [txn] })

def createRefund (row : ℕ → ℕ → Refund) : Tx Refund := fun s ↦
  let refund := row s.nextId s.clock
  .ok (refund, { s with nextId := s.nextId + 1, refunds := s.refunds ++ [refund] })

def updateRefund (id : ℕ) (f : Refund → Refund) : Tx Refund := fun s ↦
  match s.refund? id with
  | none => .error (.prisma .p2025)
  | some r => .ok (f r, { s with refunds := Table.update Refund.id id f s.refunds })

def createReconciliationRun (row : ℕ → ℕ → ReconciliationRun) : Tx ReconciliationRun := fun s ↦
  let run := row s.nextId s.clock
  .ok (run, { s with nextId := s.nextId + 1, reconciliationRuns := s.reconciliationRuns ++ [run] })

def updateReconciliationRun (id : ℕ) (f : ReconciliationRun → ReconciliationRun) :
    Tx ReconciliationRun := fun s ↦
  match s.reconciliationRun? id with
  | none => .error (.prisma .p2025)
  | some r => .ok (f r,
      { s with
        reconciliationRuns := Table.update ReconciliationRun.id id f s.reconciliationRuns })

/-! ## Equations -/

variable {α β : Type}

theorem bind_apply (x : Tx α) (f : α → Tx β) (s : Store) :
    (x >>= f) s = match x s with
      | .ok (a, s') => f a s'
      | .error e => .error e := by
  change Except.bind (x s) (fun p ↦ f p.1 p.2) = _
  cases x s <;> rfl

@[simp] theorem pure_apply (a : α) (s : Store) : (pure a : Tx α) s = .ok (a, s) := rfl

@[simp] theorem throw_apply (e : Failure) (s : Store) : (throw e : Tx α) s = .error e := rfl

@[simp] theorem liftM_apply (r : Except Failure α) (s : Store) :
    (liftM r : Tx α) s = r.map fun a ↦ (a, s) := by
  cases r <;> rfl

@[simp] theorem discard_apply (x : Tx α) (s : Store) :
    (discard x : Tx PUnit) s = (x s).map fun p ↦ ((), p.2) := by
  change (x >>= fun _ ↦ pure ()) s = _
  rw [bind_apply]
  cases x s <;> rfl

/-- What follows a step that returns runs on from where it ended. -/
theorem bind_ok {x : Tx α} {f : α → Tx β} {s s' : Store} {a : α} (h : x s = .ok (a, s')) :
    (x >>= f) s = f a s' := by
  rw [bind_apply, h]

/-- A sequence that returned consists of two steps that did. -/
theorem of_bind_ok {x : Tx α} {f : α → Tx β} {s s'' : Store} {b : β}
    (h : (x >>= f) s = .ok (b, s'')) : ∃ a s', x s = .ok (a, s') ∧ f a s' = .ok (b, s'') := by
  rw [bind_apply] at h
  cases hx : x s with
  | error e => simp [hx] at h
  | ok r =>
      rw [hx] at h
      exact ⟨r.1, r.2, rfl, h⟩

@[simp] theorem now_apply (s : Store) : now s = .ok (s.clock, s) := rfl

@[simp] theorem findEscrowHold_apply (id : ℕ) (s : Store) :
    findEscrowHold id s = .ok (s.escrowHold? id, s) := rfl

theorem findEscrowHoldOrThrow_apply {id : ℕ} {s : Store} {hold : EscrowHold}
    (h : s.escrowHold? id = some hold) : findEscrowHoldOrThrow id s = .ok (hold, s) := by
  simp only [findEscrowHoldOrThrow, h]

theorem updateEscrowHold_apply {id : ℕ} {f : EscrowHold → EscrowHold} {s : Store}
    {hold : EscrowHold} (h : s.escrowHold? id = some hold) :
    updateEscrowHold id f s =
      .ok (f hold, { s with escrowHolds := Table.update EscrowHold.id id f s.escrowHolds }) := by
  simp only [updateEscrowHold, h]

theorem createEscrowHold_apply {row : ℕ → ℕ → EscrowHold} {s : Store}
    (h : ∀ x ∈ s.escrowHolds, x.bookingId ≠ (row s.nextId s.clock).bookingId) :
    createEscrowHold row s = .ok (row s.nextId s.clock,
      { s with
        nextId := s.nextId + 1
        escrowHolds := s.escrowHolds ++ [row s.nextId s.clock] }) := by
  have ha : (s.escrowHolds.any fun x ↦ x.bookingId = (row s.nextId s.clock).bookingId) = false := by
    simpa using h
  simp [createEscrowHold, ha]

theorem createEscrowHold_error {row : ℕ → ℕ → EscrowHold} {s : Store} {x : EscrowHold}
    (hx : x ∈ s.escrowHolds) (h : x.bookingId = (row s.nextId s.clock).bookingId) :
    createEscrowHold row s = .error (.prisma .p2002) := by
  have ha : (s.escrowHolds.any fun x ↦ x.bookingId = (row s.nextId s.clock).bookingId) = true := by
    rw [List.any_eq_true]
    exact ⟨x, hx, decide_eq_true h⟩
  simp only [createEscrowHold, ha, if_true]

theorem createEscrowEvent_apply (row : ℕ → ℕ → EscrowEvent) (s : Store) :
    createEscrowEvent row s =
      if (row s.nextId s.clock).refundId.all fun id ↦ (s.refund? id).isSome then
        .ok (row s.nextId s.clock,
          { s with
            nextId := s.nextId + 1
            escrowEvents := s.escrowEvents ++ [row s.nextId s.clock] })
      else .error (.prisma .p2003) := rfl

@[simp] theorem createLedgerEntries_apply (rows : ℕ → List LedgerEntry) (s : Store) :
    createLedgerEntries rows s =
      .ok ((), { s with ledgerEntries := s.ledgerEntries ++ rows s.clock }) := rfl

@[simp] theorem createPayout_apply (row : ℕ → ℕ → Payout) (s : Store) :
    createPayout row s = .ok (row s.nextId s.clock,
      { s with
        nextId := s.nextId + 1
        payouts := s.payouts ++ [row s.nextId s.clock] }) := rfl

@[simp] theorem updatePayouts_apply (p : Payout → Bool) (f : Payout → Payout) (s : Store) :
    updatePayouts p f s =
      .ok ((), { s with payouts := s.payouts.map fun r ↦ if p r then f r else r }) := rfl

@[simp] theorem updateManyPayouts_apply (p : Payout → Bool) (f : Payout → Payout) (s : Store) :
    updateManyPayouts p f s = .ok ((s.payouts.filter p).length,
      { s with payouts := s.payouts.map fun r ↦ if p r then f r else r }) := rfl

theorem updatePayout_apply {id : ℕ} {f : Payout → Payout} {s : Store} {r : Payout}
    (h : s.payout? id = some r) : updatePayout id f s =
      .ok (f r, { s with payouts := Table.update Payout.id id f s.payouts }) := by
  simp only [updatePayout, h]

theorem updateArtistPayoutMethod_apply {id : ℕ} {f : ArtistPayoutMethod → ArtistPayoutMethod}
    {s : Store} {m : ArtistPayoutMethod}
    (h : Table.find ArtistPayoutMethod.id id s.artistPayoutMethods = some m) :
    updateArtistPayoutMethod id f s = .ok (f m,
      { s with
        artistPayoutMethods :=
          Table.update ArtistPayoutMethod.id id f s.artistPayoutMethods }) := by
  simp only [updateArtistPayoutMethod, h]

@[simp] theorem createOutboxEvent_apply (row : ℕ → ℕ → OutboxEvent) (s : Store) :
    createOutboxEvent row s = .ok (s.nextId,
      { s with
        nextId := s.nextId + 1
        outboxEvents := s.outboxEvents ++ [row s.nextId s.clock] }) := rfl

/-- An intent is created only for a booking that has none. -/
theorem of_createPaymentIntent_ok {row : ℕ → ℕ → PaymentIntent} {s s' : Store}
    {intent : PaymentIntent}
    (h : createPaymentIntent row s = .ok (intent, s')) :
    intent = row s.nextId s.clock ∧ (∀ i ∈ s.paymentIntents, i.bookingId ≠ intent.bookingId) ∧
      s' = { s with
        nextId := s.nextId + 1
        paymentIntents := s.paymentIntents ++ [intent] } := by
  unfold createPaymentIntent at h
  dsimp only at h
  split at h
  · cases h
  · next hnew =>
      cases h
      refine ⟨rfl, fun i hi hbooking ↦ hnew (List.any_eq_true.mpr ⟨i, hi, ?_⟩), rfl⟩
      exact decide_eq_true (.inl hbooking)

theorem updatePaymentIntent_apply {id : ℕ} {f : PaymentIntent → PaymentIntent} {s : Store}
    {intent : PaymentIntent} (h : s.paymentIntent? id = some intent) :
    updatePaymentIntent id f s = .ok (f intent,
      { s with paymentIntents := Table.update PaymentIntent.id id f s.paymentIntents }) := by
  simp only [updatePaymentIntent, h]

theorem updateReconciliationRun_apply {id : ℕ} {f : ReconciliationRun → ReconciliationRun}
    {s : Store} {run : ReconciliationRun} (h : s.reconciliationRun? id = some run) :
    updateReconciliationRun id f s = .ok (f run,
      { s with
        reconciliationRuns := Table.update ReconciliationRun.id id f s.reconciliationRuns }) := by
  simp only [updateReconciliationRun, h]

@[simp] theorem findTransaction_apply (p : Transaction → Bool) (s : Store) :
    findTransaction p s = .ok (s.transactions.find? p, s) := rfl

theorem createTransaction_apply {row : ℕ → ℕ → Transaction} {s : Store}
    (hi : (s.paymentIntent? (row s.nextId s.clock).paymentIntentId).isSome = true)
    (hu : ∀ t ∈ s.transactions,
      ¬(t.paymentIntentId = (row s.nextId s.clock).paymentIntentId ∧
        t.gatewayTxnId = (row s.nextId s.clock).gatewayTxnId ∧
        t.pfPaymentStatus = (row s.nextId s.clock).pfPaymentStatus)) :
    createTransaction row s = .ok (row s.nextId s.clock,
      { s with
        nextId := s.nextId + 1
        transactions := s.transactions ++ [row s.nextId s.clock] }) := by
  have hi' : ¬(s.paymentIntent? (row s.nextId s.clock).paymentIntentId).isNone = true := by
    rw [Option.isNone_iff_eq_none]
    intro hn
    rw [hn] at hi
    cases hi
  rw [createTransaction, if_neg hi', if_neg]
  rintro ⟨-, -, ha⟩
  obtain ⟨t, ht, hd⟩ := List.any_eq_true.mp ha
  exact hu t ht (of_decide_eq_true hd)

@[simp] theorem createRefund_apply (row : ℕ → ℕ → Refund) (s : Store) :
    createRefund row s = .ok (row s.nextId s.clock,
      { s with
        nextId := s.nextId + 1
        refunds := s.refunds ++ [row s.nextId s.clock] }) := rfl

theorem updateRefund_apply {id : ℕ} {f : Refund → Refund} {s : Store} {refund : Refund}
    (h : s.refund? id = some refund) :
    updateRefund id f s =
      .ok (f refund, { s with refunds := Table.update Refund.id id f s.refunds }) := by
  simp only [updateRefund, h]

theorem updateMethodOf_apply {artistUserId : ℕ} {f : ArtistPayoutMethod → ArtistPayoutMethod}
    {s : Store} {m : ArtistPayoutMethod} (h : s.methodOf? artistUserId = some m) :
    updateMethodOf artistUserId f s = .ok (f m,
      { s with
        artistPayoutMethods :=
          Table.update ArtistPayoutMethod.artistUserId artistUserId f s.artistPayoutMethods }) := by
  simp only [updateMethodOf, h]

theorem createArtistPayoutMethod_apply {row : ℕ → ℕ → ArtistPayoutMethod} {s : Store}
    (h : s.methodOf? (row s.nextId s.clock).artistUserId = none) :
    createArtistPayoutMethod row s = .ok (row s.nextId s.clock,
      { s with
        nextId := s.nextId + 1
        artistPayoutMethods := s.artistPayoutMethods ++ [row s.nextId s.clock] }) := by
  simp only [createArtistPayoutMethod, h]
  rfl

/-! ## Transactions as steps of the store -/

/-- The store after the transaction: it commits all its writes or none. -/
def transact (t : Tx α) (s : Store) : Store :=
  match t s with
  | .ok (_, s') => s'
  | .error _ => s

theorem transact_ok {t : Tx α} {s s' : Store} {a : α} (h : t s = .ok (a, s')) :
    t.transact s = s' := by
  rw [transact, h]

theorem transact_error {t : Tx α} {s : Store} {e : Failure} (h : t s = .error e) :
    t.transact s = s := by
  rw [transact, h]

/-- What every commit keeps, the step keeps. -/
theorem transact_invariant {t : Tx α} {I : Store → Prop} {s : Store}
    (h : ∀ a s', t s = .ok (a, s') → I s') (hs : I s) : I (t.transact s) := by
  cases ht : t s with
  | error e => rwa [transact_error ht]
  | ok r => rw [transact_ok ht]; exact h r.1 r.2 ht

end Tx

end GearshPayments
