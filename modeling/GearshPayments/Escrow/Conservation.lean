import GearshPayments.Escrow.Commit
import GearshPayments.Payments.Capture
import GearshPayments.Pot
import GearshPayments.Reconciliation.Balances
import GearshPayments.Resumption.Run
import GearshPayments.Transition

/-!
# Escrow is conserved

A hold is a pot: what its `ESCROW_LIABILITY` entries sum to is what the pot owes,
and each committed operation is a step of the pot whose debit is booked
(`EscrowOp.Commits.pot_step`).  A store all of whose holds are pots is
`Conserved`; captures and operations keep it so, and then the ledger and the
holds agree, hold by hold and in total (`escrow_conservation`).
-/

namespace GearshPayments

open DoubleEntry EscrowService

/-! ## Holds are pots -/

/-- What may still happen to a hold. -/
def EscrowState.phase : EscrowState → Pot.Phase
  | .held => .whole
  | .partiallyRefunded => .part
  | .disputed => .frozen
  | .released | .refunded => .closed

/-- The pot that a hold's row shows. -/
structure EscrowHold.Shows (h : EscrowHold) (p : Pot ℤ) : Prop where
  captured : p.captured = h.amountCents
  returned : p.returned = h.partiallyRefundedAmountCents
  phase : p.phase = h.state.phase

namespace EscrowHold.Shows

variable {h : EscrowHold} {p : Pot ℤ}

/-- What the pot owes, read off the row. -/
theorem owed_eq (hp : h.Shows p) :
    p.owed = if h.state.holdsMoney then h.remaining else 0 := by
  rw [Pot.owed, hp.phase, hp.captured, hp.returned, remaining]
  cases h.state <;> simp [EscrowState.phase, EscrowState.holdsMoney]

theorem bounds (hp : h.Shows p) :
    0 ≤ h.partiallyRefundedAmountCents ∧ h.partiallyRefundedAmountCents ≤ h.amountCents := by
  rw [← hp.returned, ← hp.captured]
  exact ⟨p.nonneg, p.le⟩

/-- A hold that is merely held has refunded nothing. -/
theorem of_held (hp : h.Shows p) (hs : h.state = .held) : h.partiallyRefundedAmountCents = 0 := by
  rw [← hp.returned]
  exact p.whole (by rw [hp.phase, hs]; rfl)

/-- Money may still be refunded in part. -/
theorem open_of (hp : h.Shows p) (hs : h.state = .held ∨ h.state = .partiallyRefunded) :
    p.Open := by
  rw [Pot.Open, hp.phase]
  rcases hs with hs | hs <;> rw [hs]
  · exact .inl rfl
  · exact .inr rfl

end EscrowHold.Shows

/-- The postings made for a hold. -/
def Store.entriesOf (s : Store) (holdId : ℕ) : List LedgerEntryInput :=
  (s.ledgerEntries.filter fun e ↦ e.holdId = holdId).map LedgerEntry.toPosting

/-! ## Operations are steps -/

namespace EscrowOp.Commits

variable {op : EscrowOp} {s : Store} {hold : EscrowHold} {target : EscrowState} {w : Writes}
  {entries : List LedgerEntryInput}

/-- An operation that ends a hold and debits what remains closes its pot. -/
theorem close_step (hc : op.Commits s hold target w entries) {p : Pot ℤ} (hp : hold.Shows p)
    (ho : hold.state.holdsMoney = true) (ht : target.phase = .closed)
    (hr : (w.update hold).partiallyRefundedAmountCents = hold.partiallyRefundedAmountCents)
    (hn : net .escrowLiability entries = -hold.remaining) :
    ∃ p' a, Pot.Step p a p' ∧ (w.update hold).Shows p' ∧ net .escrowLiability entries = -a := by
  obtain ⟨hs, hterms⟩ := update_of_work hc.work hold
  have hne : p.phase ≠ .closed := by
    rw [hp.phase]
    intro e
    cases h : hold.state <;> simp [h, EscrowState.phase, EscrowState.holdsMoney] at e ho
  refine ⟨p.close, p.owed, .close p hne, ⟨?_, hp.returned.trans hr.symm, ?_⟩, ?_⟩
  · exact hp.captured.trans hterms.amountCents.symm
  · rw [hs, ht]
    rfl
  · rw [hn, hp.owed_eq, if_pos ho]

/-- A committed operation is a step of the hold's pot, and what leaves the pot is
what it debits to `ESCROW_LIABILITY`. -/
theorem pot_step (hc : op.Commits s hold target w entries) {p : Pot ℤ} (hp : hold.Shows p) :
    ∃ p' a, Pot.Step p a p' ∧ (w.update hold).Shows p' ∧ net .escrowLiability entries = -a := by
  have hsrc := source_of_legal hc.legal
  obtain rfl := target_of_legal hc.legal
  have hwork := hc.work
  have hbuilt := hc.built
  cases op with
  | release id opts =>
      obtain ⟨-, rfl⟩ := of_guard_ok hwork
      cases hbuilt
      refine hc.close_step hp ?_ rfl rfl (LedgerService.net_buildReleaseEntriesForAmount _)
      rcases hsrc with h | h <;> rw [h] <;> rfl
  | refund id opts =>
      cases hwork
      have hs : hold.state = .held := hsrc
      refine hc.close_step hp (by rw [hs]; rfl) rfl rfl ?_
      rw [LedgerService.net_buildRefundEntries hbuilt, EscrowHold.remaining,
        hp.of_held hs, sub_zero]
  | partialRefund id amount opts =>
      obtain ⟨hle, rfl⟩ := of_guard_ok hwork
      have hle' : p.returned + amount ≤ p.captured := by
        rw [hp.returned, hp.captured]
        exact not_lt.mp hle
      refine ⟨p.giveBack amount hc.valid hle', amount,
        .giveBack p amount hc.valid hle' (hp.open_of hsrc), ⟨hp.captured, ?_, rfl⟩,
        LedgerService.net_buildRefundEntries hbuilt⟩
      exact congrArg (· + amount) hp.returned
  | freeze id opts =>
      cases hwork
      cases hbuilt
      exact ⟨p.freeze, 0, .freeze p (hp.open_of hsrc), ⟨hp.captured, hp.returned, rfl⟩, by simp⟩
  | resolveRelease id opts =>
      cases hwork
      cases hbuilt
      have hs : hold.state = .disputed := hsrc
      exact hc.close_step hp (by rw [hs]; rfl) rfl rfl
        (LedgerService.net_buildReleaseEntriesForAmount _)
  | resolveRefund id opts =>
      cases hwork
      have hs : hold.state = .disputed := hsrc
      exact hc.close_step hp (by rw [hs]; rfl) rfl rfl (LedgerService.net_buildRefundEntries hbuilt)
  | resolveSplit id artist client opts =>
      obtain ⟨-, rfl⟩ := of_guard_ok hwork
      have hs : hold.state = .disputed := hsrc
      exact hc.close_step hp (by rw [hs]; rfl) rfl rfl (LedgerService.net_buildSplitEntries hbuilt)

end EscrowOp.Commits

/-! ## Conserved stores -/

/-- Every hold has an id of its own that was handed out before, every ledger entry
belongs to a hold, and every hold is a pot that owes what its entries sum to. -/
structure Store.Conserved (s : Store) : Prop where
  distinct : (s.escrowHolds.map EscrowHold.id).Nodup
  fresh : ∀ h ∈ s.escrowHolds, h.id < s.nextId
  owned : ∀ e ∈ s.ledgerEntries, e.holdId ∈ s.escrowHolds.map EscrowHold.id
  pots : ∀ h ∈ s.escrowHolds, ∃ p : Pot ℤ,
    h.Shows p ∧ net .escrowLiability (s.entriesOf h.id) = p.owed

namespace Store.Conserved

variable {s : Store}

theorem empty (clock nextId : ℕ) (intents : List PaymentIntent) :
    (Store.empty clock nextId intents).Conserved where
  distinct := List.nodup_nil
  fresh := fun _ hm ↦ absurd hm List.not_mem_nil
  owned := fun _ hm ↦ absurd hm List.not_mem_nil
  pots := fun _ hm ↦ absurd hm List.not_mem_nil

/-- What does not write holds or ledger entries keeps a store conserved. -/
theorem frame {s' : Store} (hs : s.Conserved) (hh : s'.escrowHolds = s.escrowHolds)
    (hl : s'.ledgerEntries = s.ledgerEntries) (hn : s.nextId ≤ s'.nextId) : s'.Conserved where
  distinct := hh ▸ hs.distinct
  fresh := by
    rw [hh]
    exact fun h hm ↦ (hs.fresh h hm).trans_le hn
  owned := by
    rw [hh, hl]
    exact hs.owned
  pots := by
    rw [hh]
    intro h hm
    obtain ⟨p, hp, hnet⟩ := hs.pots h hm
    refine ⟨p, hp, ?_⟩
    rw [← hnet, Store.entriesOf, Store.entriesOf, hl]

/-- A hold that was found shows a pot, and the store owes what the pot owes. -/
theorem pot_of_find (hs : s.Conserved) {id : ℕ} {hold : EscrowHold}
    (hf : s.escrowHold? id = some hold) :
    ∃ p : Pot ℤ, hold.Shows p ∧ net .escrowLiability (s.entriesOf hold.id) = p.owed :=
  hs.pots hold (Table.find_some hf).1

end Store.Conserved

/-- The postings among an event's entries that belong to a hold. -/
theorem entries_of_event (hold : EscrowHold) (event : EscrowEvent) (now : ℕ)
    (entries : List LedgerEntryInput) (id : ℕ) :
    ((entries.map (ledgerEntry hold event now)).filter fun e ↦ e.holdId = id).map
      LedgerEntry.toPosting = if hold.id = id then entries else [] := by
  have hid : ∀ e ∈ entries.map (ledgerEntry hold event now), e.holdId = hold.id := by
    intro e he
    obtain ⟨x, -, rfl⟩ := List.mem_map.mp he
    rfl
  by_cases h : hold.id = id
  · rw [if_pos h, List.filter_eq_self.mpr fun e he ↦ decide_eq_true ((hid e he).trans h),
      List.map_map]
    exact List.map_id _
  · rw [if_neg h, List.filter_eq_nil_iff.mpr fun e he hd ↦
      h ((hid e he).symm.trans (of_decide_eq_true hd)), List.map_nil]

namespace EscrowOp.Commits

variable {config : BusinessConfig} {op : EscrowOp} {s : Store} {hold : EscrowHold}
  {target : EscrowState} {w : Writes} {entries : List LedgerEntryInput}

theorem entriesOf_commit (hc : op.Commits s hold target w entries) (id : ℕ) :
    (w.commit config hold entries s).entriesOf id =
      s.entriesOf id ++ if hold.id = id then entries else [] := by
  have hid : (w.update hold).id = hold.id := (update_of_work hc.work hold).2.id
  rw [Store.entriesOf, Writes.commit, List.filter_append, List.map_append, entries_of_event, hid]
  rfl

/-- The hold an operation is for is the row the operation rewrites. -/
theorem mem (hc : op.Commits s hold target w entries) : hold ∈ s.escrowHolds :=
  (Table.find_some hc.found).1

/-- A committed operation keeps a store conserved. -/
theorem conserved (hc : op.Commits s hold target w entries) (hs : s.Conserved) :
    (w.commit config hold entries s).Conserved := by
  have hkey : ∀ h, (w.update h).id = h.id := fun h ↦ (update_of_work hc.work h).2.id
  have hids : (w.commit config hold entries s).escrowHolds.map EscrowHold.id =
      s.escrowHolds.map EscrowHold.id := Table.map_update _ hkey _
  refine ⟨hids ▸ hs.distinct, ?_, ?_, ?_⟩
  · intro h hm
    obtain ⟨x, hx, rfl⟩ := Table.mem_update.mp hm
    have hlt := hs.fresh x hx
    have hn : s.nextId ≤ (w.commit config hold entries s).nextId := by
      simp only [Writes.commit]
      omega
    split
    · rw [hkey]
      exact hlt.trans_le hn
    · exact hlt.trans_le hn
  · intro e he
    rw [hids]
    rcases List.mem_append.mp he with he | he
    · exact hs.owned e he
    · obtain ⟨x, -, rfl⟩ := List.mem_map.mp he
      have : (w.update hold).id = hold.id := hkey hold
      exact List.mem_map.mpr ⟨hold, hc.mem, this.symm⟩
  · intro h hm
    obtain ⟨x, hx, rfl⟩ := Table.mem_update.mp hm
    rw [hc.entriesOf_commit]
    obtain ⟨p, hp, hnet⟩ := hs.pots x hx
    by_cases hk : x.id = hold.id
    · obtain rfl : x = hold := List.inj_on_of_nodup_map hs.distinct hx hc.mem hk
      obtain ⟨p', a, hstep, hp', hdebit⟩ := hc.pot_step hp
      refine ⟨p', by rw [if_pos rfl]; exact hp', ?_⟩
      rw [if_pos rfl, hkey, if_pos rfl, net_append, hnet, hdebit, ← hstep.owed_add]
      ring
    · refine ⟨p, by rw [if_neg hk]; exact hp, ?_⟩
      rw [if_neg hk, if_neg (Ne.symm hk), List.append_nil, hnet]

end EscrowOp.Commits

namespace CommitArgs

/-- A capture adds a pot with everything in it. -/
theorem Captures.conserved {args : CommitArgs} {zarFee : ℤ} {s : Store}
    (hc : args.Captures zarFee s) (hs : s.Conserved) : (args.captured zarFee s).Conserved := by
  have hnew : ∀ h ∈ s.escrowHolds, h.id ≠ s.nextId + 1 := by
    intro h hm
    have := hs.fresh h hm
    omega
  have hids : (args.captured zarFee s).escrowHolds.map EscrowHold.id =
      s.escrowHolds.map EscrowHold.id ++ [s.nextId + 1] := List.map_append
  have hentries : ∀ id, (args.captured zarFee s).entriesOf id =
      s.entriesOf id ++ if s.nextId + 1 = id then args.entries zarFee else [] := by
    intro id
    rw [Store.entriesOf, captured, List.filter_append, List.map_append, entries_of_event]
    rfl
  refine ⟨?_, ?_, ?_, ?_⟩
  · rw [hids]
    refine List.nodup_append.mpr ⟨hs.distinct, by simp, ?_⟩
    intro a ha b hb
    obtain ⟨h, hm, rfl⟩ := List.mem_map.mp ha
    rw [List.mem_singleton.mp hb]
    exact hnew h hm
  · intro h hm
    change h.id < s.nextId + 5
    rcases List.mem_append.mp hm with hm | hm
    · have := hs.fresh h hm
      omega
    · rw [List.mem_singleton.mp hm, hold]
      dsimp only
      omega
  · intro e he
    rw [hids]
    rcases List.mem_append.mp he with he | he
    · exact List.mem_append_left _ (hs.owned e he)
    · obtain ⟨x, -, rfl⟩ := List.mem_map.mp he
      exact List.mem_append_right _ (List.mem_singleton.mpr rfl)
  · intro h hm
    rw [hentries]
    rcases List.mem_append.mp hm with hm | hm
    · obtain ⟨p, hp, hnet⟩ := hs.pots h hm
      refine ⟨p, hp, ?_⟩
      rw [if_neg (Ne.symm (hnew h hm)), List.append_nil, hnet]
    · rw [List.mem_singleton.mp hm]
      have hnn : 0 ≤ args.zarAmount - zarFee := sub_nonneg.mpr (sound_entries_iff.mp hc.sound).2
      refine ⟨.ofCaptured (args.zarAmount - zarFee) hnn, ⟨rfl, rfl, rfl⟩, ?_⟩
      have hnone : s.entriesOf (s.nextId + 1) = [] := by
        rw [Store.entriesOf, List.filter_eq_nil_iff.mpr, List.map_nil]
        intro e he hd
        obtain ⟨x, hx, hk⟩ := List.mem_map.mp (hs.owned e he)
        exact hnew x hx (hk.trans (of_decide_eq_true hd))
      have hid : (args.hold zarFee (s.nextId + 1) s.clock).id = s.nextId + 1 := rfl
      rw [hid, if_pos rfl, hnone, Pot.owed_ofCaptured]
      simp [entries, Posting.effect]

end CommitArgs

/-! ## The entries of an event -/

def Store.entriesOfEvent (s : Store) (eventId : ℕ) : List LedgerEntry :=
  s.ledgerEntries.filter fun e ↦ e.eventId = eventId

/-- The entries of one event join its entries and no others. -/
theorem Store.entriesOfEvent_append {s s' : Store} {hold : EscrowHold} {event : EscrowEvent}
    {now : ℕ} {entries : List LedgerEntryInput}
    (h : s'.ledgerEntries = s.ledgerEntries ++ entries.map (ledgerEntry hold event now)) (id : ℕ) :
    s'.entriesOfEvent id = s.entriesOfEvent id ++
      if event.id = id then entries.map (ledgerEntry hold event now) else [] := by
  have hnew : (entries.map (ledgerEntry hold event now)).filter (fun e ↦ e.eventId = id) =
      if event.id = id then entries.map (ledgerEntry hold event now) else [] := by
    refine Table.filter_of_forall fun e he ↦ ?_
    obtain ⟨x, -, rfl⟩ := List.mem_map.mp he
    exact decide_eq_true_iff
  rw [entriesOfEvent, h, List.filter_append, hnew]
  rfl

/-! ## The ledger agrees with the holds -/

namespace Store.Conserved

variable {s : Store}

/-- The balance of a hold, by its state. -/
theorem net_of_mem (hs : s.Conserved) {h : EscrowHold} (hm : h ∈ s.escrowHolds) :
    net .escrowLiability (s.entriesOf h.id) = if h.state.holdsMoney then h.remaining else 0 := by
  obtain ⟨p, hp, hnet⟩ := hs.pots h hm
  rw [hnet, hp.owed_eq]

theorem bounds (hs : s.Conserved) {h : EscrowHold} (hm : h ∈ s.escrowHolds) :
    0 ≤ h.partiallyRefundedAmountCents ∧ h.partiallyRefundedAmountCents ≤ h.amountCents := by
  obtain ⟨p, hp, -⟩ := hs.pots h hm
  exact hp.bounds

/-- The balance of an account is the sum of its balances over the entries of each hold. -/
theorem net_postings_eq_sum (hs : s.Conserved) (account : LedgerAccount) :
    net account s.postings = (s.escrowHolds.map fun h ↦ net account (s.entriesOf h.id)).sum := by
  have hsplit := Table.sum_references LedgerEntry.holdId
    (fun e ↦ e.toPosting.effect account) hs.distinct hs.owned
  rw [List.map_map] at hsplit
  rw [net_eq_sum, Store.postings, List.map_map]
  refine hsplit.symm.trans (congrArg List.sum (List.map_congr_left fun h _ ↦ ?_))
  rw [net_eq_sum, Store.entriesOf, List.map_map]
  rfl

/-- The balance of the whole account is what the open holds still owe. -/
theorem net_postings (hs : s.Conserved) :
    net .escrowLiability s.postings =
      ((ReconciliationService.openHolds s).map EscrowHold.remaining).sum := by
  have hrows : s.escrowHolds.map (fun h ↦ net .escrowLiability (s.entriesOf h.id)) =
      s.escrowHolds.map fun h ↦ if h.state.holdsMoney then h.remaining else 0 :=
    List.map_congr_left fun h hm ↦ hs.net_of_mem hm
  rw [hs.net_postings_eq_sum, hrows, ReconciliationService.openHolds]
  induction s.escrowHolds with
  | nil => rfl
  | cons h hs ih =>
      rw [List.map_cons, List.sum_cons, ih, List.filter_cons]
      split <;> simp

/-- In a conserved store invariant B has nothing to report. -/
theorem checkInvariantB (hs : s.Conserved) (alertThresholdCents : ℤ)
    (answers : ℕ → HttpOutcome) :
    ((ReconciliationService.checkInvariantB alertThresholdCents).run (.healthy answers) s).result =
      .ok [] := by
  have hb : ReconciliationService.compareB alertThresholdCents
      (ReconciliationService.computeAccountBalanceCents .escrowLiability s)
      (ReconciliationService.openHolds s) = [] := by
    rw [ReconciliationService.compareB_eq_nil_iff, ReconciliationService.escrowLiability_balance]
    exact hs.net_postings
  simp [ReconciliationService.checkInvariantB, Resumption.run_bind, Resumption.Run.andThen, hb]

end Store.Conserved

/-! ## Runs -/

/-- What may happen to a store of holds: a capture, an operation, and time. -/
inductive EscrowCall where
  | capture (args : CommitArgs) (zarFee : ℤ)
  | escrow (op : EscrowOp)
  | tick (clock : ℕ)

/-- One call; a call that throws leaves the store as it was. -/
def EscrowCall.step (config : BusinessConfig) (s : Store) : EscrowCall → Store
  | .capture args zarFee => (PayFastWebhookService.commitComplete args zarFee).transact s
  | .escrow op => (op.exec config).transact s
  | .tick clock => { s with clock }

theorem Store.Conserved.exec {s : Store} (hs : s.Conserved) (config : BusinessConfig)
    (op : EscrowOp) : ((op.exec config).transact s).Conserved := by
  refine Tx.transact_invariant (fun hold' s' h ↦ ?_) hs
  obtain ⟨hold, target, w, entries, hc, -, rfl⟩ := EscrowOp.commits_of_exec_eq h
  exact hc.conserved hs

theorem Store.Conserved.commitComplete {s : Store} (hs : s.Conserved) (args : CommitArgs)
    (zarFee : ℤ) : ((PayFastWebhookService.commitComplete args zarFee).transact s).Conserved := by
  refine Tx.transact_invariant (fun _ s' h ↦ ?_) hs
  rcases PayFastWebhookService.of_commitComplete_ok h with ⟨-, rfl⟩ | ⟨hc, rfl⟩
  · exact hs
  · exact hc.conserved hs

/-- Every call keeps a store conserved. -/
theorem EscrowCall.conserved (config : BusinessConfig) (s : Store) (c : EscrowCall)
    (hs : s.Conserved) : (c.step config s).Conserved := by
  cases c with
  | capture args zarFee => exact hs.commitComplete args zarFee
  | escrow op => exact hs.exec config op
  | tick clock => exact hs.frame rfl rfl le_rfl

/-! ## Conservation -/

/-- Over every run of captures and operations, the `ESCROW_LIABILITY` entries of each
hold sum to what the hold has not refunded while it is open and to nothing once it
is released or refunded, no hold has refunded more than it captured, and invariant
B finds nothing. -/
theorem escrow_conservation (config : BusinessConfig) (clock nextId : ℕ)
    (intents : List PaymentIntent) (calls : List EscrowCall) :
    let s := Transition.run (EscrowCall.step config) (Store.empty clock nextId intents) calls
    (∀ h ∈ s.escrowHolds,
      net .escrowLiability (s.entriesOf h.id) = (match h.state with
        | .held | .partiallyRefunded | .disputed => h.amountCents - h.partiallyRefundedAmountCents
        | .released | .refunded => 0) ∧
      0 ≤ h.partiallyRefundedAmountCents ∧ h.partiallyRefundedAmountCents ≤ h.amountCents) ∧
    ∀ (alertThresholdCents : ℤ) (answers : ℕ → HttpOutcome),
      ((ReconciliationService.checkInvariantB alertThresholdCents).run
        (.healthy answers) s).result =
        .ok [] := by
  intro s
  have hs : s.Conserved := Transition.run_invariant _ (EscrowCall.conserved config)
    (.empty clock nextId intents) calls
  refine ⟨fun h hm ↦ ⟨?_, hs.bounds hm⟩, hs.checkInvariantB⟩
  rw [hs.net_of_mem hm]
  cases h.state <;> rfl

end GearshPayments
