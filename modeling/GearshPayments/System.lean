import GearshPayments.Escrow.Conservation
import GearshPayments.Refunds.Service
import GearshPayments.Resumption.Guarantee

/-!
# The services over one store

The calls that write the store, and the stores that any number of them reach
together, whatever the order of their actions, the faults of the database and the
answers of the gateway (`Reachable`).  Everything a reachable store is known to
satisfy is in `Store.Consistent`; that each call keeps it is one lemma per call
(`ServiceCall.keeps`).
-/

namespace GearshPayments

open EscrowService

/-- The configuration of the services. -/
structure SystemConfig where
  systemUserId : ℕ
  payfast : PayFastConfig
  business : BusinessConfig

/-- A call that writes the store. -/
inductive ServiceCall where
  /-- A completed payment. -/
  | capture (args : CommitArgs) (zarFee : ℤ)
  /-- A payment that was not completed. -/
  | failure (args : CommitArgs)
  | escrow (op : EscrowOp)
  | refund (input : IssueRefundInput)
  /-- Time passes. -/
  | tick (clock : ℕ)

/-- The program of a call. -/
def ServiceCall.program (config : SystemConfig) : ServiceCall → Service Unit
  | .capture args zarFee =>
    Resumption.transaction (PayFastWebhookService.commitComplete args zarFee)
  | .failure args => Resumption.transaction (PayFastWebhookService.commitFailed args)
  | .escrow op => discard <| Resumption.transaction (op.exec config.business)
  | .refund input => discard <| RefundsService.issueRefund config.payfast config.business input
  | .tick clock => .atomic (fun s ↦ { s with clock }) fun _ ↦ .ret ()

/-- A store that calls of the services, interleaved in any way, reach from one that
holds nothing but payment intents. -/
def Reachable (config : SystemConfig) (s : Store) : Prop :=
  ∃ (clock nextId : ℕ) (intents : List PaymentIntent) (calls : List ServiceCall)
    (schedule : List (Resumption.Turn HttpOutcome Failure)),
    (Resumption.Pool.run Resumption.next
      ⟨Store.empty clock nextId intents, calls.map (·.program config), []⟩ schedule).store = s

/-! ## Consistent stores -/

/-- Holds and ledger agree, a booking has one hold, refunds are of positive amounts, and
every row and every reference to a row carries an identifier that was handed out
before. -/
structure Store.Consistent (s : Store) : Prop where
  conserved : s.Conserved
  bookings : (s.escrowHolds.map EscrowHold.bookingId).Nodup
  refunds : ∀ r ∈ s.refunds, r.id < s.nextId ∧ 0 < r.amountCents
  distinct : (s.refunds.map Refund.id).Nodup
  events : ∀ e ∈ s.escrowEvents, e.id < s.nextId ∧ ∀ id ∈ e.refundId, id < s.nextId
  entries : ∀ e ∈ s.ledgerEntries, e.eventId < s.nextId
  announced : ∀ o ∈ s.outboxEvents, o.eventType = .paymentsRefundSucceeded →
    o.aggregateId < s.nextId

namespace Store.Consistent

variable {s s' : Store}

theorem empty (clock nextId : ℕ) (intents : List PaymentIntent) :
    (Store.empty clock nextId intents).Consistent where
  conserved := .empty clock nextId intents
  bookings := List.nodup_nil
  refunds := fun _ hm ↦ absurd hm List.not_mem_nil
  distinct := List.nodup_nil
  events := fun _ hm ↦ absurd hm List.not_mem_nil
  entries := fun _ hm ↦ absurd hm List.not_mem_nil
  announced := fun _ hm ↦ absurd hm List.not_mem_nil

/-- It is enough to look at what is new. -/
theorem extend (hs : s.Consistent) (hc : s'.Conserved)
    (hb : (s'.escrowHolds.map EscrowHold.bookingId).Nodup) (hn : s.nextId ≤ s'.nextId)
    (hr : ∀ r ∈ s'.refunds, (∃ x ∈ s.refunds, x.id = r.id ∧ x.amountCents = r.amountCents) ∨
      (r.id < s'.nextId ∧ 0 < r.amountCents))
    (hd : (s'.refunds.map Refund.id).Nodup)
    (hev : ∀ e ∈ s'.escrowEvents, e ∈ s.escrowEvents ∨
      (e.id < s'.nextId ∧ ∀ id ∈ e.refundId, id < s'.nextId))
    (hen : ∀ e ∈ s'.ledgerEntries, e ∈ s.ledgerEntries ∨ e.eventId < s'.nextId)
    (ho : ∀ o ∈ s'.outboxEvents, o ∈ s.outboxEvents ∨
      (o.eventType = .paymentsRefundSucceeded → o.aggregateId < s'.nextId)) : s'.Consistent where
  conserved := hc
  bookings := hb
  refunds := by
    intro r hm
    rcases hr r hm with ⟨x, hx, hid, hcents⟩ | h
    · obtain ⟨h₁, h₂⟩ := hs.refunds x hx
      rw [← hid, ← hcents]
      exact ⟨h₁.trans_le hn, h₂⟩
    · exact h
  distinct := hd
  events := by
    intro e hm
    rcases hev e hm with h | h
    · obtain ⟨h₁, h₂⟩ := hs.events e h
      exact ⟨h₁.trans_le hn, fun id hid ↦ (h₂ id hid).trans_le hn⟩
    · exact h
  entries := by
    intro e hm
    rcases hen e hm with h | h
    · exact (hs.entries e h).trans_le hn
    · exact h
  announced := by
    intro o hm ht
    rcases ho o hm with h | h
    · exact (hs.announced o h ht).trans_le hn
    · exact h ht

/-- The id of a refund that was found was handed out. -/
theorem refund_lt (hs : s.Consistent) {id : ℕ} {r : Refund} (h : s.refund? id = some r) :
    id < s.nextId := by
  obtain ⟨hm, rfl⟩ := Table.find_some h
  exact (hs.refunds r hm).1

theorem tick (hs : s.Consistent) (clock : ℕ) : Store.Consistent { s with clock } :=
  hs.extend (hs.conserved.frame rfl rfl le_rfl) hs.bookings le_rfl
    (fun r hm ↦ .inl ⟨r, hm, rfl, rfl⟩) hs.distinct (fun _ hm ↦ .inl hm) (fun _ hm ↦ .inl hm)
    (fun _ hm ↦ .inl hm)

end Store.Consistent

/-! ## Every call keeps them -/

namespace Store

/-- The store with a new refund. -/
def withRefund (s : Store) (r : Refund) : Store :=
  { s with
    nextId := s.nextId + 1
    refunds := s.refunds ++ [r] }

/-- The store after an update of a refund's row and its announcement. -/
def announced (s : Store) (id : ℕ) (f : Refund → Refund) (notice : EnqueueInput) : Store :=
  { s with
    refunds := Table.update Refund.id id f s.refunds
    nextId := s.nextId + 1
    outboxEvents := s.outboxEvents ++ [OutboxService.row notice s.nextId s.clock] }

end Store

namespace EscrowOp.Commits

variable {config : BusinessConfig} {op : EscrowOp} {s : Store} {hold : EscrowHold}
  {target : EscrowState} {w : Writes} {entries : List LedgerEntryInput}

theorem consistent (hc : op.Commits s hold target w entries) (hs : s.Consistent) :
    (w.commit config hold entries s).Consistent := by
  have hn : s.nextId < (w.commit config hold entries s).nextId := by
    simp only [Writes.commit]
    omega
  have hb : (Table.update EscrowHold.id hold.id w.update s.escrowHolds).map EscrowHold.bookingId =
      s.escrowHolds.map EscrowHold.bookingId :=
    Table.map_update _ (fun h ↦ (EscrowOp.update_of_work hc.work h).2.bookingId) _
  refine hs.extend (hc.conserved hs.conserved) (hb.symm ▸ hs.bookings) hn.le
    (fun r hm ↦ .inl ⟨r, hm, rfl, rfl⟩)
    hs.distinct ?_ ?_ ?_
  · intro e hm
    rcases List.mem_append.mp hm with hm | hm
    · exact .inl hm
    · rw [List.mem_singleton.mp hm]
      refine .inr ⟨hn, fun id hid ↦ ?_⟩
      have hr := hc.refund
      change id ∈ w.refundId at hid
      rw [Option.mem_def.mp hid, Option.all_some] at hr
      obtain ⟨r, hf⟩ := Option.isSome_iff_exists.mp hr
      exact (hs.refund_lt hf).trans hn
  · intro e hm
    rcases List.mem_append.mp hm with hm | hm
    · exact .inl hm
    · obtain ⟨x, -, rfl⟩ := List.mem_map.mp hm
      exact .inr hn
  · intro o hm
    rcases List.mem_append.mp hm with hm | hm
    · rcases List.mem_append.mp hm with hm | hm
      · exact .inl hm
      · obtain ⟨p, -, rfl⟩ := List.mem_map.mp hm
        exact .inr fun h ↦ by cases h
    · rw [List.mem_singleton.mp hm]
      exact .inr fun h ↦ absurd h (ne_of_mem_of_not_mem (types_of_work hc.work).2 (by decide))

end EscrowOp.Commits

namespace Store.Consistent

variable {s s' : Store}

theorem exec (hs : s.Consistent) {config : BusinessConfig} {op : EscrowOp} {hold' : EscrowHold}
    (h : op.exec config s = .ok (hold', s')) : s'.Consistent := by
  obtain ⟨hold, target, w, entries, hc, -, rfl⟩ := EscrowOp.commits_of_exec_eq h
  exact hc.consistent hs

theorem commitComplete (hs : s.Consistent) {args : CommitArgs} {zarFee : ℤ} {u : Unit}
    (h : PayFastWebhookService.commitComplete args zarFee s = .ok (u, s')) : s'.Consistent := by
  rcases PayFastWebhookService.of_commitComplete_ok h with ⟨-, rfl⟩ | ⟨hc, rfl⟩
  · exact hs
  · have hn : (args.captured zarFee s).nextId = s.nextId + 5 := rfl
    have hb : ((args.captured zarFee s).escrowHolds.map EscrowHold.bookingId).Nodup := by
      rw [CommitArgs.captured, List.map_append]
      refine List.nodup_append.mpr ⟨hs.bookings, List.nodup_singleton _, fun x hx y hy ↦ ?_⟩
      obtain ⟨h, hm, rfl⟩ := List.mem_map.mp hx
      rw [List.mem_singleton.mp hy]
      exact hc.free h hm
    refine hs.extend (hc.conserved hs.conserved) hb (by omega)
      (fun r hm ↦ .inl ⟨r, hm, rfl, rfl⟩) hs.distinct ?_ ?_ ?_
    · intro e hm
      rcases List.mem_append.mp hm with hm | hm
      · exact .inl hm
      · rw [List.mem_singleton.mp hm]
        refine .inr ⟨?_, fun id hid ↦ by cases hid⟩
        rw [hn, escrowEvent]
        dsimp only
        omega
    · intro e hm
      rcases List.mem_append.mp hm with hm | hm
      · exact .inl hm
      · obtain ⟨x, -, rfl⟩ := List.mem_map.mp hm
        refine .inr ?_
        rw [hn, ledgerEntry, escrowEvent]
        dsimp only
        omega
    · intro o hm
      rcases List.mem_append.mp hm with hm | hm
      · exact .inl hm
      · rcases List.mem_pair.mp hm with rfl | rfl
        · exact .inr fun h ↦ by cases h
        · exact .inr fun h ↦ by cases h

theorem commitFailed (hs : s.Consistent) {args : CommitArgs} {u : Unit}
    (h : PayFastWebhookService.commitFailed args s = .ok (u, s')) : s'.Consistent := by
  rcases PayFastWebhookService.of_commitFailed_ok h with ⟨-, rfl⟩ | ⟨-, -, rfl⟩
  · exact hs
  · have hn : s.nextId ≤ (args.recorded s).nextId := Nat.le_add_right _ 2
    refine hs.extend (hs.conserved.frame rfl rfl hn) hs.bookings hn
      (fun r hm ↦ .inl ⟨r, hm, rfl, rfl⟩) hs.distinct (fun _ hm ↦ .inl hm) (fun _ hm ↦ .inl hm)
      fun o hm ↦ ?_
    rcases List.mem_append.mp hm with hm | hm
    · exact .inl hm
    · rw [List.mem_singleton.mp hm]
      exact .inr fun h ↦ by cases h

/-- A refund that has just been inserted. -/
theorem createRefund (hs : s.Consistent) {row : ℕ → ℕ → Refund} {r : Refund}
    (hid : ∀ id now, (row id now).id = id) (hpos : ∀ id now, 0 < (row id now).amountCents)
    (h : Tx.createRefund row s = .ok (r, s')) : s'.Consistent := by
  cases h
  refine hs.extend (hs.conserved.frame rfl rfl (Nat.le_succ _)) hs.bookings (Nat.le_succ _)
    (fun r hm ↦ ?_)
    ?_ (fun _ hm ↦ .inl hm) (fun _ hm ↦ .inl hm) (fun _ hm ↦ .inl hm)
  · rcases List.mem_append.mp hm with hm | hm
    · exact .inl ⟨r, hm, rfl, rfl⟩
    · rw [List.mem_singleton.mp hm, hid]
      exact .inr ⟨Nat.lt_succ_self _, hpos _ _⟩
  · simp only [List.map_append, List.map_cons, List.map_nil, hid]
    refine List.nodup_append.mpr ⟨hs.distinct, List.nodup_singleton _, fun x hx y hy ↦ ?_⟩
    obtain ⟨z, hz, rfl⟩ := List.mem_map.mp hx
    rw [List.mem_singleton.mp hy]
    exact (hs.refunds z hz).1.ne

/-- An update of a refund's row that is announced. -/
theorem announceRefund (hs : s.Consistent) {id : ℕ} {f : Refund → Refund} {r : Refund}
    (hf : ∀ r, (f r).id = r.id) (ha : ∀ r, (f r).amountCents = r.amountCents)
    (hr : s.refund? id = some r) {notice : EnqueueInput} (hn : notice.aggregateId = id) :
    (s.announced id f notice).Consistent := by
  have hids : (Table.update Refund.id id f s.refunds).map Refund.id = s.refunds.map Refund.id :=
    Table.map_update _ hf _
  refine hs.extend (hs.conserved.frame rfl rfl (Nat.le_succ _)) hs.bookings (Nat.le_succ _)
    (fun r hm ↦ ?_)
    (hids.symm ▸ hs.distinct) (fun _ hm ↦ .inl hm) (fun _ hm ↦ .inl hm)
    fun o hm ↦ ?_
  · obtain ⟨x, hx, rfl⟩ := Table.mem_update.mp hm
    refine .inl ⟨x, hx, ?_⟩
    by_cases hk : x.id = id
    · rw [if_pos hk]
      exact ⟨(hf x).symm, (ha x).symm⟩
    · rw [if_neg hk]
      exact ⟨rfl, rfl⟩
  · rcases List.mem_append.mp hm with hm | hm
    · exact .inl hm
    · rw [List.mem_singleton.mp hm]
      refine .inr fun _ ↦ ?_
      change notice.aggregateId < s.nextId + 1
      rw [hn]
      exact (hs.refund_lt hr).trans (Nat.lt_succ_self _)

end Store.Consistent

namespace RefundsService

open Resumption

/-- What a plan says. -/
theorem planRefund_spec {input : IssueRefundInput} {hold : EscrowHold} {chargeTxn : Transaction}
    {plan : RefundPlan} (h : planRefund input hold chargeTxn = .ok plan) :
    0 < plan.refundCents ∧ plan.refundCents ≤ hold.remaining ∧
      (plan.refundIsFull = true ↔ plan.refundCents = hold.remaining) ∧
      plan.refundCents =
        (if input.full = some true ∨ input.refundCents = none then hold.remaining
          else input.refundCents.getD 0) ∧
      hold.state ≠ .released ∧ hold.state ≠ .refunded := by
  simp only [planRefund] at h
  by_cases hrem : hold.amountCents - hold.partiallyRefundedAmountCents ≤ 0
  · rw [if_pos hrem] at h
    cases h
  · rw [if_neg hrem] at h
    by_cases hst : hold.state = .released ∨ hold.state = .refunded
    · rw [if_pos hst] at h
      cases h
    · rw [if_neg hst] at h
      change _ ∧ _ ∧ _ ∧ _ =
        (if _ then hold.amountCents - hold.partiallyRefundedAmountCents else _) ∧ _
      generalize (if input.full = some true ∨ input.refundCents = none then
        hold.amountCents - hold.partiallyRefundedAmountCents else input.refundCents.getD 0) =
          cents at h ⊢
      by_cases hpos : cents ≤ 0
      · rw [if_pos hpos] at h
        cases h
      · rw [if_neg hpos] at h
        by_cases hmax : cents > hold.amountCents - hold.partiallyRefundedAmountCents
        · rw [if_pos hmax] at h
          cases h
        · rw [if_neg hmax] at h
          obtain ⟨h₁, h₂⟩ := not_or.mp hst
          split at h
          · cases h
          · cases h
            exact ⟨not_le.mp hpos, not_lt.mp hmax, decide_eq_true_iff, rfl, h₁, h₂⟩

/-- A transaction that updates a refund's row and announces it commits only for a row
that is there. -/
theorem of_announce_ok {id : ℕ} {f : Refund → Refund} (notice : ℕ → EnqueueInput)
    {s s' : Store} {a : Refund}
    (h : (do
      let r ← Tx.updateRefund id f
      discard <| OutboxService.enqueue (notice (← Tx.now))
      return r : Tx Refund) s = .ok (a, s')) :
    ∃ r, s.refund? id = some r ∧ s' = s.announced id f (notice s.clock) := by
  cases hr : s.refund? id with
  | none =>
      obtain ⟨r, s₁, h₁, -⟩ := Tx.of_bind_ok h
      simp [Tx.updateRefund, hr] at h₁
  | some r =>
      rw [Tx.bind_ok (Tx.updateRefund_apply hr)] at h
      simp only [Tx.bind_apply, Tx.now_apply, Tx.discard_apply, OutboxService.enqueue_apply,
        Except.map, Tx.pure_apply] at h
      cases h
      exact ⟨r, rfl, rfl⟩

/-- An announcement of a refund. -/
structure Announces (notice : EnqueueInput) (id : ℕ) : Prop where
  aggregateType : notice.aggregateType = "Refund"
  aggregateId : notice.aggregateId = id
  type : notice.type = .paymentsRefundSucceeded ∨ notice.type = .paymentsRefundFailed

/-- What the three kinds of writes of a refund guarantee. -/
structure WriteRules (business : BusinessConfig) (I : Store → Prop) (G : Store → Store → Prop) :
    Prop where
  refl : ∀ s, I s → G s s
  insert : ∀ {s s' : Store} {row : ℕ → ℕ → Refund} {r : Refund}, I s →
    (∀ id now, (row id now).id = id) → (∀ id now, 0 < (row id now).amountCents) →
      Tx.createRefund row s = .ok (r, s') → G s s'
  move : ∀ {s s' : Store} {op : EscrowOp} {hold : EscrowHold}, I s →
    op.exec business s = .ok (hold, s') → G s s'
  announce : ∀ {s : Store} {id : ℕ} {f : Refund → Refund} {r : Refund} {notice : EnqueueInput},
    I s →
    (∀ r, (f r).id = r.id) → (∀ r, (f r).amountCents = r.amountCents) → s.refund? id = some r →
      Announces notice id → G s (s.announced id f notice)

section Guarantees

variable {business : BusinessConfig} {I : Store → Prop} {G : Store → Store → Prop}

theorem guarantees_resolveHoldAndCharge (hG : ∀ s, I s → G s s) (input : IssueRefundInput) :
    Guarantees I G (resolveHoldAndCharge input) := by
  unfold resolveHoldAndCharge
  split
  · refine (guarantees_read hG _).bind fun hold ↦ ?_
    split
    · exact guarantees_throw _
    · refine (guarantees_read hG _).bind fun charge ↦ ?_
      split <;> trivial
  · refine (guarantees_read hG _).bind fun charge ↦ ?_
    split
    · exact guarantees_throw _
    · refine (guarantees_read hG _).bind fun hold ↦ ?_
      split <;> trivial
  · exact guarantees_throw _

theorem keeps_resolveHoldAndCharge (input : IssueRefundInput) :
    Keeps I (resolveHoldAndCharge input) :=
  (guarantees_resolveHoldAndCharge (fun _ hs ↦ hs) input).keeps

theorem guarantees_refund (config : PayFastConfig) (input : PayFastRefundInput) :
    Guarantees I G (PayFastClient.refund config input) := by
  unfold PayFastClient.refund
  split
  · trivial
  · split
    · trivial
    · exact (guarantees_query input).bind fun _ ↦ trivial

theorem guarantees_attemptRefund (config : PayFastConfig) (input : PayFastRefundInput)
    (attempts : ℕ) (lastFailure : Option PayFastRefundResult) :
    Guarantees I G (attemptRefund config input attempts lastFailure) := by
  induction attempts generalizing lastFailure with
  | zero => trivial
  | succ attempts ih =>
      refine (guarantees_refund config input).bind fun result ↦ ?_
      split
      · trivial
      · split
        · exact ih _
        · trivial

/-- The escrow operation of a successful refund. -/
def refundOp (refund : Refund) (hold : EscrowHold) (refundCents : ℤ) (refundIsFull : Bool)
    (input : IssueRefundInput) : EscrowOp :=
  let opts : RefundOptions :=
    { faultParty := ledgerFault input.faultParty
      reason := some input.reason
      actorId := some input.actorId
      traceparent := input.traceparent
      tracestate := input.tracestate
      refundId := some refund.id }
  if refundIsFull then .refund hold.id { opts with note := some input.reason }
  else .partialRefund hold.id refundCents opts

theorem moveHold_eq_exec (business : BusinessConfig) (refund : Refund) (hold : EscrowHold)
    (refundCents : ℤ) (refundIsFull : Bool) (input : IssueRefundInput) :
    moveHold business refund hold refundCents refundIsFull input =
      (refundOp refund hold refundCents refundIsFull input).exec business := by
  cases refundIsFull with
  | true => rfl
  | false => rfl

namespace WriteRules

theorem exec (hw : WriteRules business I G) (op : EscrowOp) :
    Guarantees I G (transaction (op.exec business) : Service EscrowHold) :=
  guarantees_transaction hw.refl fun _ _ _ hs h ↦ hw.move hs h

theorem update (hw : WriteRules business I G) {id : ℕ} {f : Refund → Refund}
    (notice : ℕ → EnqueueInput)
    (hf : ∀ r, (f r).id = r.id) (ha : ∀ r, (f r).amountCents = r.amountCents)
    (hn : ∀ now, Announces (notice now) id) :
    Guarantees I G (transaction (do
      let r ← Tx.updateRefund id f
      discard <| OutboxService.enqueue (notice (← Tx.now))
      return r) : Service Refund) := by
  refine guarantees_transaction hw.refl fun s a s' hs h ↦ ?_
  obtain ⟨r, hr, rfl⟩ := of_announce_ok notice h
  exact hw.announce hs hf ha hr (hn s.clock)

theorem handleGatewayFailure (hw : WriteRules business I G) (refund : Refund) (hold : EscrowHold)
    (refundCents : ℤ) (reason : String) (input : IssueRefundInput) :
    Guarantees I G (handleGatewayFailure refund hold refundCents reason input) :=
  hw.update (failedNotice refund hold refundCents reason input) (fun _ ↦ rfl) (fun _ ↦ rfl)
    fun _ ↦ ⟨rfl, rfl, .inr rfl⟩

theorem handleGatewaySuccess (hw : WriteRules business I G) (refund : Refund) (hold : EscrowHold)
    (chargeTxn : Transaction) (refundCents : ℤ) (refundIsFull : Bool) (gatewayRefundId : String)
    (input : IssueRefundInput) :
    Guarantees I G (handleGatewaySuccess business refund hold chargeTxn refundCents
      refundIsFull gatewayRefundId input) := by
  refine (guarantees_read hw.refl _).bind fun r ↦ ?_
  obtain ⟨found, completedAt⟩ := r
  dsimp only
  split
  · trivial
  · rw [moveHold_eq_exec]
    refine (hw.exec _).discard.bind fun _ ↦ ?_
    refine (guarantees_statement hw.refl).bind fun _ ↦ ?_
    exact hw.update (fun _ ↦
      succeededNotice refund hold chargeTxn refundCents gatewayRefundId input completedAt)
      (fun _ ↦ rfl) (fun _ ↦ rfl) fun _ ↦ ⟨rfl, rfl, .inl rfl⟩

theorem executeRefund (hw : WriteRules business I G) (config : PayFastConfig)
    (input : IssueRefundInput)
    (hold : EscrowHold) (chargeTxn : Transaction) (plan : RefundPlan) (refund : Refund) :
    Guarantees I G (executeRefund config business input hold chargeTxn plan refund) := by
  refine (guarantees_attemptRefund _ _ _ _).bind fun result ↦ ?_
  split
  · exact (hw.handleGatewayFailure _ _ _ _ _).bind fun _ ↦ guarantees_throw _
  · exact hw.handleGatewaySuccess _ _ _ _ _ _ _

/-- A refund makes no other changes to the store. -/
theorem issueRefund (hw : WriteRules business I G) (config : PayFastConfig)
    (input : IssueRefundInput) :
    Guarantees I G (issueRefund config business input) := by
  refine (guarantees_resolveHoldAndCharge hw.refl input).bind fun r ↦ ?_
  obtain ⟨hold, chargeTxn⟩ := r
  dsimp only
  cases hp : planRefund input hold chargeTxn with
  | error e => exact guarantees_throw e
  | ok plan =>
      have hpos : 0 < plan.refundCents := (planRefund_spec hp).1
      have hinsert : Guarantees I G (transaction (Tx.createRefund
          (processingRow input chargeTxn plan.refundCents)) : Service Refund) :=
        guarantees_transaction hw.refl fun _ _ _ hs h ↦
          hw.insert hs (fun _ _ ↦ rfl) (fun _ _ ↦ hpos) h
      exact hinsert.bind fun refund ↦ hw.executeRefund _ _ _ _ _ _

end WriteRules

end Guarantees

/-- A refund keeps a store consistent. -/
theorem writes_consistent (business : BusinessConfig) :
    WriteRules business Store.Consistent fun _ s' ↦ s'.Consistent where
  refl := fun _ hs ↦ hs
  insert := fun hs hid hpos h ↦ hs.createRefund hid hpos h
  move := fun hs h ↦ hs.exec h
  announce := fun hs hf ha hr hn ↦ hs.announceRefund hf ha hr hn.aggregateId

end RefundsService

/-- Every call keeps a store consistent, at every point of it. -/
theorem ServiceCall.keeps (config : SystemConfig) (c : ServiceCall) :
    Resumption.Keeps Store.Consistent (c.program config) := by
  cases c with
  | capture args zarFee => exact Resumption.keeps_transaction fun _ _ _ hs h ↦ hs.commitComplete h
  | failure args => exact Resumption.keeps_transaction fun _ _ _ hs h ↦ hs.commitFailed h
  | escrow op => exact ((RefundsService.writes_consistent config.business).exec op).keeps.discard
  | refund input =>
      exact ((RefundsService.writes_consistent config.business).issueRefund config.payfast
        input).keeps.discard
  | tick clock => exact ⟨fun s hs ↦ ⟨hs.tick clock, trivial⟩, fun _ ↦ trivial⟩

theorem Reachable.consistent {config : SystemConfig} {s : Store} (h : Reachable config s) :
    s.Consistent := by
  obtain ⟨clock, nextId, intents, calls, schedule, rfl⟩ := h
  refine Resumption.Pool.keeps_run (fun p hp ↦ ?_) (.empty clock nextId intents) schedule
  obtain ⟨c, -, rfl⟩ := List.mem_map.mp hp
  exact c.keeps config

/-! ## A paid booking -/

namespace Sample

/-- Both services configured. -/
def config : SystemConfig where
  systemUserId := 8
  payfast := ⟨true, some "https://api.payfast.co.za/refunds/{pf_payment_id}", some "10000100"⟩
  business := ⟨7⟩

/-- A locked intent for ten rand, one of which is the fee. -/
def intent : PaymentIntent where
  id := 1
  bookingId := 2
  userId := 3
  artistId := 4
  subtotalCents := 900
  serviceFeeCents := 100
  totalCents := 1000
  currency := .zar
  pfPaymentId := none
  mPaymentId := some "1"
  state := .locked
  zarAmountCentsLocked := some 1000
  zarServiceFeeCentsLocked := some 100
  zarRateLocked := none
  createdAt := 0

/-- Its completed payment. -/
def payment : CommitArgs :=
  PayFastWebhookService.commitArgs intent 1000 (.uuid 1) "pf-1" .complete none none

/-- A refund of three rand of it. -/
def input : IssueRefundInput where
  holdId := some 11
  refundCents := some 300
  reason := "admin"
  faultParty := .client
  actorId := 9

/-- The store that calls reach under a schedule. -/
def run (calls : List ServiceCall) (schedule : List (Resumption.Turn HttpOutcome Failure)) :
    Store :=
  (Resumption.Pool.run Resumption.next
    ⟨Store.empty 0 10 [intent], calls.map (·.program config), []⟩ schedule).store

theorem reachable (calls : List ServiceCall)
    (schedule : List (Resumption.Turn HttpOutcome Failure)) :
    Reachable config (run calls schedule) :=
  ⟨0, 10, [intent], calls, schedule, rfl⟩

/-- The payment is captured: transaction 10, hold 11. -/
def paid : Store := run [.capture payment 100] [⟨0, .act⟩]

theorem paid_reachable : Reachable config paid := reachable _ _

/-- The hold is frozen for a dispute. -/
def disputed : Store :=
  run [.capture payment 100, .escrow (.freeze 11 { reason := "bookings.disputed" })]
    [⟨0, .act⟩, ⟨1, .act⟩]

theorem disputed_reachable : Reachable config disputed := reachable _ _

/-- The refund has found the hold and its charge and has inserted its row. -/
def refunding : Store :=
  run [.capture payment 100, .refund input] [⟨0, .act⟩, ⟨1, .act⟩, ⟨1, .act⟩, ⟨1, .act⟩]

theorem refunding_reachable : Reachable config refunding := reachable _ _

/-- That row. -/
def refund : Refund :=
  RefundsService.processingRow input (payment.charge .succeeded 10 0) 300 15 0

/-- The gateway pays whatever it is asked for. -/
def pays : ℕ → HttpOutcome := fun _ ↦ .resolved 200 (some "rf-1")

end Sample

end GearshPayments
