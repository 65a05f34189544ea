import GearshPayments.Payouts.Writes
import GearshPayments.System

/-!
# What the services write of payouts

The escrow operations queue payouts and cancel queued ones; they never write bank
details.  This is all that the services' calls do to the tables that the jobs of
`Payouts/Dispatcher.lean` read (`QueueWrite`), and the ids of new payouts are new.
-/

namespace GearshPayments

open Resumption EscrowService

/-- Payouts are told apart by their ids, and ids are not handed out twice. -/
structure Store.PayoutKeys (s : Store) : Prop where
  distinct : (s.payouts.map Payout.id).Nodup
  fresh : ∀ p ∈ s.payouts, p.id < s.nextId

/-- The payout stays in its state, or it was queued and is cancelled. -/
structure Payout.KeptOrCancelled (p p' : Payout) : Prop extends p.SameTerms p' where
  state : p'.state = p.state ∨ (p.state = .queued ∧ p'.state = .cancelled)

theorem Payout.KeptOrCancelled.refl (p : Payout) : p.KeptOrCancelled p := ⟨.refl p, .inl rfl⟩

/-- The services may take the store from the first to the second. -/
structure QueueWrite (s s' : Store) : Prop where
  payouts : ∃ (f : Payout → Payout) (ps : List Payout), (∀ p : Payout, p.KeptOrCancelled (f p)) ∧
    s'.payouts = s.payouts.map f ++ ps ∧ ps.length ≤ 1 ∧
      ∀ p ∈ ps, s.nextId ≤ p.id ∧ p.id < s'.nextId
  methods : s'.artistPayoutMethods = s.artistPayoutMethods
  nextId : s.nextId ≤ s'.nextId

namespace QueueWrite

variable {s s' : Store}

/-- A write that does not concern payouts. -/
theorem of_same (hp : s'.payouts = s.payouts) (hm : s'.artistPayoutMethods = s.artistPayoutMethods)
    (hn : s.nextId ≤ s'.nextId) : QueueWrite s s' where
  payouts := by
    refine ⟨id, [], Payout.KeptOrCancelled.refl, ?_, Nat.zero_le _,
      fun _ h ↦ absurd h List.not_mem_nil⟩
    rw [hp, List.map_id, List.append_nil]
  methods := hm
  nextId := hn

theorem refl (s : Store) : QueueWrite s s := of_same rfl rfl le_rfl

/-- A payout that is there is still there. -/
theorem payout? (h : QueueWrite s s') {id : ℕ} {p : Payout} (hp : s.payout? id = some p) :
    ∃ p', s'.payout? id = some p' ∧ p.KeptOrCancelled p' := by
  obtain ⟨f, ps, hf, hpayouts, -⟩ := h.payouts
  refine ⟨f p, ?_, hf p⟩
  rw [Store.payout?, hpayouts, Table.find_append, Table.find_map (fun p ↦ (hf p).id)]
  change Option.or (Option.map f (s.payout? id)) _ = _
  rw [hp]
  rfl

theorem payoutKeys (h : QueueWrite s s') (hs : s.PayoutKeys) : s'.PayoutKeys := by
  obtain ⟨f, ps, hf, hpayouts, hlen, hnew⟩ := h.payouts
  have hids : (s.payouts.map f).map Payout.id = s.payouts.map Payout.id := by
    rw [List.map_map]
    exact List.map_congr_left fun p _ ↦ (hf p).id
  constructor
  · rw [hpayouts, List.map_append, hids]
    refine List.nodup_append.mpr ⟨hs.distinct, ?_, fun x hx y hy ↦ ?_⟩
    · have hlen' : (ps.map Payout.id).length ≤ 1 := by rwa [List.length_map]
      exact List.nodup_iff_getElem?_ne_getElem?.mpr fun i j hij hj ↦ by omega
    · obtain ⟨p, hp, rfl⟩ := List.mem_map.mp hx
      obtain ⟨q, hq, rfl⟩ := List.mem_map.mp hy
      have hlt := hs.fresh p hp
      have hle := (hnew q hq).1
      omega
  · rw [hpayouts]
    intro p hp
    rcases List.mem_append.mp hp with hp | hp
    · obtain ⟨x, hx, rfl⟩ := List.mem_map.mp hp
      rw [(hf x).id]
      exact (hs.fresh x hx).trans_le h.nextId
    · exact (hnew p hp).2

end QueueWrite

theorem PayoutWrite.payoutKeys {s s' : Store} (h : PayoutWrite s s') (hs : s.PayoutKeys) :
    s'.PayoutKeys := by
  obtain ⟨f, hf, hpayouts⟩ := h.payouts
  constructor
  · have hids : s'.payouts.map Payout.id = s.payouts.map Payout.id := by
      rw [hpayouts, List.map_map]
      exact List.map_congr_left fun p _ ↦ (hf p).id
    rw [hids]
    exact hs.distinct
  · rw [hpayouts]
    intro p hp
    obtain ⟨x, hx, rfl⟩ := List.mem_map.mp hp
    rw [(hf x).id]
    exact (hs.fresh x hx).trans_le h.nextId

/-! ## The calls write nothing else -/

theorem keptOrCancelled_cancelQueued (hold : EscrowHold) (now : ℕ) (p : Payout) :
    p.KeptOrCancelled (cancelQueued hold now p) := by
  unfold cancelQueued
  split
  case isTrue hqueued => exact ⟨⟨rfl, rfl, rfl, rfl, rfl, rfl, rfl⟩, .inr ⟨hqueued.2, rfl⟩⟩
  case isFalse => exact .refl p

theorem mem_queuedPayouts {config : BusinessConfig} {hold : EscrowHold} {amountCents : ℤ}
    {id now : ℕ} {p : Payout} (hp : p ∈ queuedPayouts config hold amountCents id now) :
    p = queuedPayout hold amountCents (dispatchAfter config now) id now := by
  unfold queuedPayouts at hp
  split at hp
  · cases hp
  · exact List.mem_singleton.mp hp

theorem length_queuedPayouts (config : BusinessConfig) (hold : EscrowHold) (amountCents : ℤ)
    (id now : ℕ) : (queuedPayouts config hold amountCents id now).length ≤ 1 := by
  unfold queuedPayouts
  split
  · exact Nat.zero_le 1
  · exact le_refl 1

theorem queueWrite_commit (w : Writes) (config : BusinessConfig) (hold : EscrowHold)
    (entries : List LedgerEntryInput) (s : Store) :
    QueueWrite s (w.commit config hold entries s) where
  payouts := by
    refine ⟨if w.cancels then cancelQueued hold s.clock else id, w.queued config hold s, ?_, ?_,
      length_queuedPayouts _ _ _ _ _, ?_⟩
    · intro p
      split
      · exact keptOrCancelled_cancelQueued hold s.clock p
      · exact .refl p
    · rw [Writes.commit]
      split
      · rfl
      · rw [List.map_id]
    · intro p hp
      have hpos := List.length_pos_of_mem hp
      rw [mem_queuedPayouts hp, queuedPayout, Writes.commit]
      dsimp only
      omega
  methods := rfl
  nextId := by
    rw [Writes.commit]
    dsimp only
    omega

theorem queueWrite_exec {config : BusinessConfig} {op : EscrowOp} {s s' : Store} {hold : EscrowHold}
    (h : op.exec config s = .ok (hold, s')) : QueueWrite s s' := by
  obtain ⟨hold, target, w, entries, -, -, rfl⟩ := EscrowOp.commits_of_exec_eq h
  exact queueWrite_commit w config hold entries s

theorem writes_queue (business : BusinessConfig) (I : Store → Prop) :
    RefundsService.WriteRules business I QueueWrite where
  refl := fun s _ ↦ .refl s
  insert := by
    intro s s' row r _ _ _ h
    cases h
    exact .of_same rfl rfl (Nat.le_succ _)
  move := fun _ h ↦ queueWrite_exec h
  announce := fun _ _ _ _ _ ↦ .of_same rfl rfl (Nat.le_succ _)

theorem ServiceCall.guarantees_queue {I : Store → Prop} (config : SystemConfig) (c : ServiceCall) :
    Guarantees I QueueWrite (c.program config) := by
  cases c with
  | capture args zarFee =>
      refine guarantees_transaction (fun s _ ↦ .refl s) fun s u s' _ h ↦ ?_
      rcases PayFastWebhookService.of_commitComplete_ok h with ⟨-, rfl⟩ | ⟨-, rfl⟩
      · exact .refl _
      · exact .of_same rfl rfl (Nat.le_add_right _ 5)
  | failure args =>
      refine guarantees_transaction (fun s _ ↦ .refl s) fun s u s' _ h ↦ ?_
      rcases PayFastWebhookService.of_commitFailed_ok h with ⟨-, rfl⟩ | ⟨-, -, rfl⟩
      · exact .refl _
      · exact .of_same rfl rfl (Nat.le_add_right _ 2)
  | escrow op => exact ((writes_queue config.business I).exec op).discard
  | refund input =>
    exact ((writes_queue config.business I).issueRefund config.payfast input).discard
  | tick clock => exact ⟨fun s _ ↦ ⟨.of_same rfl rfl le_rfl, trivial⟩, fun _ ↦ trivial⟩

end GearshPayments
