import GearshPayments.Escrow.Service

/-!
# What an escrow operation commits

One inversion for all seven operations (`EscrowOp.commits_of_exec_eq`): an operation
that returns has found its hold, passed its checks and written what its work
says, and the store it leaves is `Writes.commit`.  What holds of every committed
operation is read off there, and the transactions are not opened again.
-/

namespace GearshPayments

open EscrowService DoubleEntry

/-- A guard that did not throw. -/
theorem of_guard_ok {p : Prop} [Decidable p] {ε α : Type} {e : ε} {x w : α}
    (h : (if p then .error e else .ok x : Except ε α) = .ok w) : ¬p ∧ x = w := by
  split at h
  · cases h
  · cases h
    exact ⟨‹_›, rfl⟩

/-! ## The parts of a commit -/

namespace EscrowService

/-- The payouts queued for an amount: one, if there is anything to pay. -/
def queuedPayouts (config : BusinessConfig) (hold : EscrowHold) (amountCents : ℤ) (id : ℕ)
    (now : ℕ) : List Payout :=
  if amountCents ≤ 0 then []
  else [queuedPayout hold amountCents (dispatchAfter config now) id now]

/-- Cancel a payout of the hold that is still queued. -/
def cancelQueued (hold : EscrowHold) (now : ℕ) (p : Payout) : Payout :=
  if p.holdId = hold.id ∧ p.state = .queued then
    { p with
      state := .cancelled
      cancelledAt := some now
      cancellationReason := some "ESCROW_FROZEN" }
  else p

theorem queuePayout_apply (config : BusinessConfig) (hold : EscrowHold) (amountCents : ℤ)
    (now : ℕ) (s : Store) (h : s.clock = now) :
    queuePayout config hold amountCents now s = .ok ((),
      let ps := queuedPayouts config hold amountCents s.nextId now
      { s with
        nextId := s.nextId + 2 * ps.length
        payouts := s.payouts ++ ps
        outboxEvents := s.outboxEvents ++
          ps.map fun p ↦ OutboxService.row (payoutQueued p) (s.nextId + 1) now }) := by
  subst h
  unfold queuePayout queuedPayouts
  split
  · simp
  · simp [Tx.bind_apply, Except.map]

/-- Sound entries are written; others are refused with the error of the check. -/
theorem writeLedger_apply (hold : EscrowHold) (event : EscrowEvent)
    (entries : List LedgerEntryInput) (s : Store) :
    writeLedger hold event entries s = (LedgerService.assertBalanced entries).map fun _ ↦ ((),
      { s with
        ledgerEntries := s.ledgerEntries ++ entries.map (ledgerEntry hold event s.clock) }) := by
  unfold writeLedger
  rw [Tx.bind_apply, Tx.liftM_apply]
  cases LedgerService.assertBalanced entries with
  | error e => rfl
  | ok u =>
      by_cases h : entries.length = 0
      · rw [List.length_eq_zero_iff] at h
        subst h
        simp [Except.map]
      · simp [Except.map, h]

end EscrowService

namespace EscrowService.Writes

/-- The row of the event. -/
def event (w : Writes) (hold : EscrowHold) (s : Store) : EscrowEvent :=
  escrowEvent hold w.type w.amountCents w.actorId w.note w.refundId s.nextId s.clock

/-- The payouts queued. -/
def queued (w : Writes) (config : BusinessConfig) (hold : EscrowHold) (s : Store) : List Payout :=
  queuedPayouts config (w.update hold) w.payout (s.nextId + 1) s.clock

/-- The store after the writes for a hold, with the given ledger entries. -/
def commit (w : Writes) (config : BusinessConfig) (hold : EscrowHold)
    (entries : List LedgerEntryInput) (s : Store) : Store :=
  { s with
    nextId := s.nextId + 1 + 2 * (w.queued config hold s).length + 1
    escrowHolds := Table.update EscrowHold.id hold.id w.update s.escrowHolds
    escrowEvents := s.escrowEvents ++ [w.event hold s]
    ledgerEntries := s.ledgerEntries ++
      entries.map (ledgerEntry (w.update hold) (w.event hold s) s.clock)
    payouts := (if w.cancels then s.payouts.map (cancelQueued hold s.clock) else s.payouts) ++
      w.queued config hold s
    outboxEvents := s.outboxEvents ++
      (w.queued config hold s).map (fun p ↦
        OutboxService.row (payoutQueued p) (s.nextId + 2) s.clock)
      ++ [OutboxService.row w.notice (s.nextId + 1 + 2 * (w.queued config hold s).length) s.clock] }

end EscrowService.Writes

namespace EscrowService

/-- The writes are refused when the refund does not exist or the entries cannot be
built or do not balance, and are otherwise a commit. -/
theorem write_apply {config : BusinessConfig} {hold : EscrowHold} {w : Writes} {s : Store}
    (hh : s.escrowHold? hold.id = some hold) :
    write config hold w s =
      if w.refundId.all fun id ↦ (s.refund? id).isSome then
        match w.entries with
        | .error e => .error e
        | .ok entries => (LedgerService.assertBalanced entries).map fun _ ↦
            ((), w.commit config hold entries s)
      else .error (.prisma .p2003) := by
  by_cases hr : (w.refundId.all fun id ↦ (s.refund? id).isSome) = true
  · rw [if_pos hr]
    simp only [Store.refund?] at hr
    unfold write
    simp only [Tx.bind_apply, Tx.now_apply, Tx.updateEscrowHold_apply hh,
      Tx.createEscrowEvent_apply, escrowEvent, Store.refund?, hr, if_true, Tx.liftM_apply,
      writeLedger_apply]
    cases w.entries with
    | error e => rfl
    | ok entries =>
        cases hb : LedgerService.assertBalanced entries with
        | error e => simp [Except.map, hb]
        | ok u =>
            simp only [Except.map, hb]
            cases hc : w.cancels with
            | false =>
                simp only [Bool.false_eq_true, if_false, Tx.bind_apply]
                rw [queuePayout_apply]
                · simp [Writes.commit, Writes.queued, Writes.event, escrowEvent, hc, Except.map]
                · rfl
            | true =>
                simp only [if_true, Tx.bind_apply, Tx.updatePayouts_apply]
                rw [queuePayout_apply]
                · simp [Writes.commit, Writes.queued, Writes.event, escrowEvent, hc, Except.map,
                    cancelQueued]
                · rfl
  · rw [if_neg hr]
    simp only [Store.refund?] at hr
    unfold write
    simp only [Tx.bind_apply, Tx.now_apply, Tx.updateEscrowHold_apply hh,
      Tx.createEscrowEvent_apply, escrowEvent, Store.refund?, hr]
    rfl

/-- An operation on a hold that is not there. -/
theorem applyTransition_not_found {config : BusinessConfig} {holdId : ℕ}
    {action : EscrowAction} {work : Work} {s : Store} (h : s.escrowHold? holdId = none) :
    applyTransition config holdId action work s = .error (.ofCode .notFound) := by
  rw [applyTransition, Tx.bind_apply, Tx.findEscrowHold_apply, h]
  rfl

/-- An operation that the state machine refuses throws its error. -/
theorem applyTransition_refused {config : BusinessConfig} {holdId : ℕ} {action : EscrowAction}
    {work : Work} {s : Store} {hold : EscrowHold} {e : Failure}
    (hh : s.escrowHold? holdId = some hold) (he : nextState hold.state action = .error e) :
    applyTransition config holdId action work s = .error e := by
  have hc : canTransition hold.state action = false := by
    cases ht : transitions hold.state action with
    | none => rw [canTransition, ht]; rfl
    | some target => rw [nextState_eq_ok_iff.mpr ht] at he; cases he
  rw [applyTransition, Tx.bind_apply, Tx.findEscrowHold_apply, hh]
  dsimp only
  rw [Tx.bind_ok (Tx.findEscrowHoldOrThrow_apply hh)]
  simp [hc, he, Tx.bind_apply, Except.map]

/-- An operation that the state machine allows does its work on the hold and
returns the row it wrote. -/
theorem applyTransition_apply {config : BusinessConfig} {holdId : ℕ} {action : EscrowAction}
    {work : Work} {s : Store} {hold : EscrowHold} {target : EscrowState}
    (hh : s.escrowHold? holdId = some hold)
    (ht : transitions hold.state action = some target) :
    applyTransition config holdId action work s = match work hold target s.clock with
      | .error e => .error e
      | .ok w => (write config hold w >>= fun _ ↦ Tx.findEscrowHoldOrThrow holdId) s := by
  have hc : canTransition hold.state action = true := by rw [canTransition, ht]; rfl
  have hn := nextState_eq_ok_iff.mpr ht
  rw [applyTransition, Tx.bind_apply, Tx.findEscrowHold_apply, hh]
  dsimp only
  rw [Tx.bind_ok (Tx.findEscrowHoldOrThrow_apply hh)]
  simp only [hc, not_true_eq_false, if_false, Tx.bind_apply, hn, Tx.liftM_apply, Except.map,
    Tx.now_apply]
  cases work hold target s.clock <;> rfl

end EscrowService

/-! ## The seven operations -/

/-- A call of one of the seven operations. -/
inductive EscrowOp where
  | release (holdId : ℕ) (opts : MutationContext)
  | refund (holdId : ℕ) (opts : RefundOptions)
  | partialRefund (holdId : ℕ) (refundCents : ℤ) (opts : RefundOptions)
  | freeze (holdId : ℕ) (opts : FreezeOptions)
  | resolveRelease (holdId : ℕ) (opts : ResolveOptions)
  | resolveRefund (holdId : ℕ) (opts : ResolveOptions)
  | resolveSplit (holdId : ℕ) (artistCents clientCents : ℤ) (opts : ResolveOptions)
deriving DecidableEq

namespace EscrowOp

def holdId : EscrowOp → ℕ
  | release id _ | refund id _ | partialRefund id _ _ | freeze id _ | resolveRelease id _
  | resolveRefund id _ | resolveSplit id _ _ _ => id

def action : EscrowOp → EscrowAction
  | release .. => .release
  | refund .. => .refund
  | partialRefund .. => .partialRefund
  | freeze .. => .freeze
  | resolveRelease .. => .resolveRelease
  | resolveRefund .. => .resolveRefund
  | resolveSplit .. => .resolveSplit

def work : EscrowOp → Work
  | release _ opts => releaseWork opts
  | refund _ opts => refundWork opts
  | partialRefund _ refundCents opts => partialRefundWork refundCents opts
  | freeze _ opts => freezeWork opts
  | resolveRelease _ opts => resolveReleaseWork opts
  | resolveRefund _ opts => resolveRefundWork opts
  | resolveSplit _ artistCents clientCents opts => resolveSplitWork artistCents clientCents opts

/-- The arguments pass the check made before the transaction. -/
def Valid : EscrowOp → Prop
  | partialRefund _ refundCents _ => 0 < refundCents
  | resolveSplit _ artistCents clientCents _ => 0 ≤ artistCents ∧ 0 ≤ clientCents
  | _ => True

/-- Run the operation. -/
def exec (config : BusinessConfig) : EscrowOp → Tx EscrowHold
  | release id opts => EscrowService.release config id opts
  | refund id opts => EscrowService.refund config id opts
  | partialRefund id amount opts => EscrowService.partialRefund config id amount opts
  | freeze id opts => EscrowService.freeze config id opts
  | resolveRelease id opts => EscrowService.resolveRelease config id opts
  | resolveRefund id opts => EscrowService.resolveRefund config id opts
  | resolveSplit id artist client opts => EscrowService.resolveSplit config id artist client opts

/-- With valid arguments every operation is a transition with the operation's
action and work. -/
theorem exec_of_valid (config : BusinessConfig) {op : EscrowOp} (h : op.Valid) :
    op.exec config = applyTransition config op.holdId op.action op.work := by
  cases op with
  | partialRefund id amount opts =>
      have : ¬amount ≤ 0 := not_le.mpr h
      simp [exec, EscrowService.partialRefund, this, holdId, action, work]
  | resolveSplit id artist client opts =>
      have : ¬(artist < 0 ∨ client < 0) := not_or.mpr ⟨not_lt.mpr h.1, not_lt.mpr h.2⟩
      simp [exec, EscrowService.resolveSplit, this, holdId, action, work]
  | _ => rfl

/-- Invalid arguments are refused in every store. -/
theorem exec_of_not_valid (config : BusinessConfig) {op : EscrowOp} (h : ¬op.Valid) (s : Store) :
    ∃ detail, op.exec config s = .error (.withDetail .validationFailed detail) := by
  cases op with
  | partialRefund id amount opts =>
      have : amount ≤ 0 := not_lt.mp h
      exact ⟨_, by simp [exec, EscrowService.partialRefund, this, Tx.bind_apply]; rfl⟩
  | resolveSplit id artist client opts =>
      have : artist < 0 ∨ client < 0 := by
        rcases not_and_or.mp h with h | h
        · exact .inl (not_le.mp h)
        · exact .inr (not_le.mp h)
      exact ⟨_, by simp [exec, EscrowService.resolveSplit, this, Tx.bind_apply]; rfl⟩
  | _ => exact absurd trivial h

/-- The checks that an operation which returns has passed: it found `hold`, moves
it to `target`, and writes `w` with the ledger entries `entries`. -/
structure Commits (op : EscrowOp) (s : Store) (hold : EscrowHold) (target : EscrowState)
    (w : Writes) (entries : List LedgerEntryInput) : Prop where
  valid : op.Valid
  found : s.escrowHold? op.holdId = some hold
  legal : transitions hold.state op.action = some target
  work : op.work hold target s.clock = .ok w
  refund : w.refundId.all (fun id ↦ (s.refund? id).isSome) = true
  built : w.entries = .ok entries
  sound : Sound entries

/-- The columns of a hold that no operation writes. -/
structure SameTerms (h h' : EscrowHold) : Prop where
  id : h'.id = h.id
  bookingId : h'.bookingId = h.bookingId
  paymentIntentId : h'.paymentIntentId = h.paymentIntentId
  clientId : h'.clientId = h.clientId
  artistId : h'.artistId = h.artistId
  amountCents : h'.amountCents = h.amountCents
  platformFeeCents : h'.platformFeeCents = h.platformFeeCents
  currency : h'.currency = h.currency
  heldAt : h'.heldAt = h.heldAt
  createdAt : h'.createdAt = h.createdAt

/-- Every work moves the hold to the target and keeps its terms. -/
theorem update_of_work {op : EscrowOp} {hold : EscrowHold} {target : EscrowState} {now : ℕ}
    {w : Writes} (hw : op.work hold target now = .ok w) (h : EscrowHold) :
    (w.update h).state = target ∧ SameTerms h (w.update h) := by
  cases op <;> simp only [EscrowOp.work, releaseWork, refundWork, partialRefundWork, freezeWork,
    resolveReleaseWork, resolveRefundWork, resolveSplitWork] at hw
  all_goals
    try split at hw
    all_goals
      cases hw
      try exact ⟨rfl, ⟨rfl, rfl, rfl, rfl, rfl, rfl, rfl, rfl, rfl, rfl⟩⟩

/-- Every work records its own kind of event, which is no capture, and announces it by an event of
the hold. -/
theorem types_of_work {op : EscrowOp} {hold : EscrowHold} {target : EscrowState} {now : ℕ}
    {w : Writes} (hw : op.work hold target now = .ok w) :
    w.type ≠ .held ∧ w.notice.type ∈ [PaymentsEventType.escrowReleased, .escrowRefunded,
      .escrowPartiallyRefunded, .escrowFrozen] := by
  cases op <;> simp only [EscrowOp.work, releaseWork, refundWork, partialRefundWork, freezeWork,
    resolveReleaseWork, resolveRefundWork, resolveSplitWork] at hw
  all_goals
    try split at hw
    all_goals
      cases hw
      try simp [holdNotice]

theorem Commits.id_eq {op : EscrowOp} {s : Store} {hold : EscrowHold} {target : EscrowState}
    {w : Writes} {entries : List LedgerEntryInput} (h : op.Commits s hold target w entries) :
    hold.id = op.holdId :=
  (Table.find_some h.found).2

/-- The row of the hold after a commit. -/
theorem Commits.found_after {op : EscrowOp} {s : Store} {hold : EscrowHold}
    {target : EscrowState} {w : Writes} {entries : List LedgerEntryInput}
    (h : op.Commits s hold target w entries) (config : BusinessConfig) :
    (w.commit config hold entries s).escrowHold? op.holdId = some (w.update hold) := by
  have hf : s.escrowHold? hold.id = some hold := h.id_eq ▸ h.found
  rw [← h.id_eq]
  exact Table.find_update_self (fun r ↦ (update_of_work h.work r).2.id) hf

/-- An operation that passes its checks commits its writes and returns the new row. -/
theorem Commits.exec_eq {config : BusinessConfig} {op : EscrowOp} {s : Store} {hold : EscrowHold}
    {target : EscrowState} {w : Writes} {entries : List LedgerEntryInput}
    (h : op.Commits s hold target w entries) :
    op.exec config s = .ok (w.update hold, w.commit config hold entries s) := by
  have hid := h.id_eq
  have hf : s.escrowHold? hold.id = some hold := hid ▸ h.found
  have hw : write config hold w s = .ok ((), w.commit config hold entries s) := by
    rw [write_apply hf, if_pos h.refund, h.built]
    dsimp only
    rw [LedgerService.assertBalanced_eq_ok_iff.mpr h.sound]
    rfl
  have hu := h.found_after config
  rw [exec_of_valid config h.valid, applyTransition_apply h.found h.legal, h.work]
  dsimp only
  rw [Tx.bind_ok hw, Tx.findEscrowHoldOrThrow_apply hu]

/-- An operation that returns has passed its checks. -/
theorem commits_of_exec_eq {config : BusinessConfig} {op : EscrowOp} {s s' : Store}
    {hold' : EscrowHold} (h : op.exec config s = .ok (hold', s')) :
    ∃ hold target w entries, op.Commits s hold target w entries ∧
      hold' = w.update hold ∧ s' = w.commit config hold entries s := by
  have hv : op.Valid := by
    by_contra hv
    obtain ⟨detail, he⟩ := exec_of_not_valid config hv s
    rw [he] at h
    cases h
  have hx := h
  rw [exec_of_valid config hv] at h
  cases hf : s.escrowHold? op.holdId with
  | none => rw [applyTransition_not_found hf] at h; cases h
  | some hold =>
      have hid : hold.id = op.holdId := (Table.find_some hf).2
      cases hn : nextState hold.state op.action with
      | error e => rw [applyTransition_refused hf hn] at h; cases h
      | ok target =>
          have ht := nextState_eq_ok_iff.mp hn
          rw [applyTransition_apply hf ht] at h
          cases hw : op.work hold target s.clock with
          | error e => rw [hw] at h; cases h
          | ok w =>
              rw [hw] at h
              obtain ⟨u, s₁, h₁, -⟩ := Tx.of_bind_ok h
              rw [write_apply (hid ▸ hf)] at h₁
              split at h₁
              · rename_i hr
                cases he : w.entries with
                | error e => rw [he] at h₁; cases h₁
                | ok entries =>
                    rw [he] at h₁
                    dsimp only at h₁
                    cases hb : LedgerService.assertBalanced entries with
                    | error e => rw [hb] at h₁; cases h₁
                    | ok u' =>
                        have hc : op.Commits s hold target w entries :=
                          ⟨hv, hf, ht, hw, hr, he, LedgerService.assertBalanced_eq_ok_iff.mp hb⟩
                        rw [hc.exec_eq] at hx
                        cases hx
                        exact ⟨hold, target, w, entries, hc, rfl, rfl⟩
              · cases h₁

end EscrowOp

/-! ## Freezing -/

/-- The hold is disputed, with the amounts it had. -/
def Frozen (hold : EscrowHold) (s : Store) : Prop :=
  ∃ h, s.escrowHold? hold.id = some h ∧ h.state = .disputed ∧
    h.amountCents = hold.amountCents ∧
    h.partiallyRefundedAmountCents = hold.partiallyRefundedAmountCents

/-- A hold that is open can be frozen. -/
theorem exists_freeze (config : BusinessConfig) {s : Store} {hold : EscrowHold}
    (hh : s.escrowHold? hold.id = some hold)
    (hopen : hold.state = .held ∨ hold.state = .partiallyRefunded) (opts : FreezeOptions) :
    ∃ hold' s', (EscrowOp.freeze hold.id opts).exec config s = .ok (hold', s') ∧
      Frozen hold s' := by
  have hlegal : transitions hold.state .freeze = some .disputed := by
    rcases hopen with h | h <;> rw [h] <;> rfl
  have hcommits : (EscrowOp.freeze hold.id opts).Commits s hold .disputed _ [] :=
    ⟨trivial, hh, hlegal, rfl, rfl, rfl, ⟨nofun, rfl⟩⟩
  exact ⟨_, _, hcommits.exec_eq, _, hcommits.found_after config, rfl, rfl, rfl⟩

end GearshPayments
