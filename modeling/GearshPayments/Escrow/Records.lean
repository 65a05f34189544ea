import GearshPayments.Escrow.Conservation

/-!
# The records of a hold

Besides its row a hold has rows in four tables: its events, its ledger entries, its
payouts and the outbox rows that announce it (`Store.recordsOf`).  A capture starts
these records and a committed operation extends the records of its own hold
(`Writes.extend`) and of no other.  A relation between a hold and its records that
holds of what captures start and survives what operations do (`HoldInvariant`)
therefore holds of every hold in every store that calls reach
(`HoldInvariant.of_run`).
-/

namespace GearshPayments

open DoubleEntry EscrowService

namespace Store

def eventsOf (s : Store) (holdId : ℕ) : List EscrowEvent :=
  s.escrowEvents.filter fun e ↦ e.holdId = holdId

def payoutsOf (s : Store) (holdId : ℕ) : List Payout :=
  s.payouts.filter fun p ↦ p.holdId = holdId

/-- The outbox rows about the hold itself. -/
def noticesOf (s : Store) (holdId : ℕ) : List OutboxEvent :=
  s.outboxEvents.filter fun o ↦ o.aggregateType = "EscrowHold" ∧ o.aggregateId = holdId

end Store

/-- What the tables other than its own say of a hold. -/
structure HoldRecords where
  events : List EscrowEvent
  entries : List LedgerEntryInput
  payouts : List Payout
  notices : List OutboxEvent

def Store.recordsOf (s : Store) (holdId : ℕ) : HoldRecords where
  events := s.eventsOf holdId
  entries := s.entriesOf holdId
  payouts := s.payoutsOf holdId
  notices := s.noticesOf holdId

/-- The records a capture starts. -/
def CommitArgs.records (args : CommitArgs) (zarFee : ℤ) (s : Store) : HoldRecords :=
  let hold := args.hold zarFee (s.nextId + 1) s.clock
  { events := [escrowEvent hold .held hold.amountCents none (some "PayFast ITN") none (s.nextId + 2)
      s.clock]
    entries := args.entries zarFee
    payouts := []
    notices := [OutboxService.row (args.heldNotice hold) (s.nextId + 4) s.clock] }

/-- The records after an operation on their hold. -/
def EscrowService.Writes.extend (w : Writes) (config : BusinessConfig) (hold : EscrowHold)
    (entries : List LedgerEntryInput) (s : Store) (r : HoldRecords) : HoldRecords where
  events := r.events ++ [w.event hold s]
  entries := r.entries ++ entries
  payouts := (if w.cancels then r.payouts.map (cancelQueued hold s.clock) else r.payouts) ++
    w.queued config hold s
  notices := r.notices ++
    [OutboxService.row w.notice (s.nextId + 1 + 2 * (w.queued config hold s).length) s.clock]

/-! ## The records after a step -/

/-- The announcement of an operation is about its hold. -/
theorem EscrowOp.notice_of_work {op : EscrowOp} {hold : EscrowHold} {target : EscrowState}
    {now : ℕ} {w : Writes} (hw : op.work hold target now = .ok w) :
    w.notice.aggregateType = "EscrowHold" ∧ w.notice.aggregateId = hold.id := by
  cases op <;> simp only [EscrowOp.work, releaseWork, refundWork, partialRefundWork, freezeWork,
    resolveReleaseWork, resolveRefundWork, resolveSplitWork] at hw
  all_goals
    try split at hw
    all_goals
      cases hw
      try exact ⟨rfl, rfl⟩

namespace EscrowService

theorem holdId_cancelQueued (hold : EscrowHold) (now : ℕ) (p : Payout) :
    (cancelQueued hold now p).holdId = p.holdId := by
  unfold cancelQueued
  split <;> rfl

theorem id_cancelQueued (hold : EscrowHold) (now : ℕ) (p : Payout) :
    (cancelQueued hold now p).id = p.id := by
  unfold cancelQueued
  split <;> rfl

/-- The payouts of other holds are not cancelled. -/
theorem cancelQueued_of_ne {hold : EscrowHold} {p : Payout} (h : p.holdId ≠ hold.id) (now : ℕ) :
    cancelQueued hold now p = p := if_neg fun hc ↦ h hc.1

theorem holdId_of_mem_queuedPayouts {config : BusinessConfig} {hold : EscrowHold}
    {amountCents : ℤ} {id now : ℕ} {p : Payout}
    (h : p ∈ queuedPayouts config hold amountCents id now) : p.holdId = hold.id := by
  unfold queuedPayouts at h
  split at h
  · cases h
  · rw [List.mem_singleton.mp h]
    rfl

end EscrowService

namespace EscrowOp.Commits

variable {config : BusinessConfig} {op : EscrowOp} {s : Store} {hold : EscrowHold}
  {target : EscrowState} {w : Writes} {entries : List LedgerEntryInput}

theorem eventsOf_commit (id : ℕ) : (w.commit config hold entries s).eventsOf id =
    s.eventsOf id ++ if hold.id = id then [w.event hold s] else [] := by
  have hnew : [w.event hold s].filter (fun e ↦ e.holdId = id) =
      if hold.id = id then [w.event hold s] else [] := by
    refine Table.filter_of_forall fun e he ↦ ?_
    rw [List.mem_singleton.mp he, decide_eq_true_iff]
    rfl
  rw [Store.eventsOf, Writes.commit, List.filter_append, hnew]
  rfl

theorem payoutsOf_commit (hc : op.Commits s hold target w entries) (id : ℕ) :
    (w.commit config hold entries s).payoutsOf id =
      if hold.id = id then
        (if w.cancels then (s.payoutsOf id).map (cancelQueued hold s.clock) else s.payoutsOf id) ++
          w.queued config hold s
      else s.payoutsOf id := by
  have hqueued : (w.queued config hold s).filter (fun p ↦ p.holdId = id) =
      if hold.id = id then w.queued config hold s else [] := by
    refine Table.filter_of_forall fun p hp ↦ ?_
    have hid : p.holdId = (w.update hold).id := holdId_of_mem_queuedPayouts hp
    rw [decide_eq_true_iff, hid, (update_of_work hc.work hold).2.id]
  have hold' : (if w.cancels then s.payouts.map (cancelQueued hold s.clock) else s.payouts).filter
      (fun p ↦ p.holdId = id) =
        if w.cancels then (s.payoutsOf id).map (cancelQueued hold s.clock) else s.payoutsOf id := by
    split
    · rw [List.filter_map]
      refine congrArg (List.map _) (List.filter_congr fun p _ ↦ ?_)
      rw [Function.comp_apply, holdId_cancelQueued]
    · rfl
  rw [Store.payoutsOf, Writes.commit, List.filter_append, hqueued, hold']
  by_cases h : hold.id = id
  · rw [if_pos h, if_pos h]
  · rw [if_neg h, if_neg h, List.append_nil]
    split
    · refine (List.map_congr_left fun p hp ↦ ?_).trans (List.map_id _)
      have hid : p.holdId = id := of_decide_eq_true (List.mem_filter.mp hp).2
      exact cancelQueued_of_ne (fun e ↦ h (e.symm.trans hid)) _
    · rfl

theorem noticesOf_commit (hc : op.Commits s hold target w entries) (id : ℕ) :
    (w.commit config hold entries s).noticesOf id = s.noticesOf id ++ if hold.id = id then
      [OutboxService.row w.notice (s.nextId + 1 + 2 * (w.queued config hold s).length) s.clock]
    else [] := by
  obtain ⟨htype, hid⟩ := notice_of_work hc.work
  have hpayouts : ((w.queued config hold s).map fun p ↦
      OutboxService.row (payoutQueued p) (s.nextId + 2) s.clock).filter
        (fun o ↦ o.aggregateType = "EscrowHold" ∧ o.aggregateId = id) = [] := by
    refine List.filter_eq_nil_iff.mpr fun o ho hd ↦ ?_
    obtain ⟨p, -, rfl⟩ := List.mem_map.mp ho
    have htype : "Payout" = "EscrowHold" := (of_decide_eq_true hd).1
    simp at htype
  have hnew (i : ℕ) : [OutboxService.row w.notice i s.clock].filter
      (fun o ↦ o.aggregateType = "EscrowHold" ∧ o.aggregateId = id) =
        if hold.id = id then [OutboxService.row w.notice i s.clock] else [] := by
    refine Table.filter_of_forall fun o ho ↦ ?_
    rw [List.mem_singleton.mp ho, decide_eq_true_iff]
    change w.notice.aggregateType = "EscrowHold" ∧ w.notice.aggregateId = id ↔ _
    rw [htype, hid]
    exact and_iff_right rfl
  rw [Store.noticesOf, Writes.commit, List.filter_append, List.filter_append, hpayouts,
    List.append_nil, hnew]
  rfl

/-- An operation extends the records of its own hold and leaves the others alone. -/
theorem recordsOf_commit (hc : op.Commits s hold target w entries) (id : ℕ) :
    (w.commit config hold entries s).recordsOf id =
      if hold.id = id then w.extend config hold entries s (s.recordsOf id) else s.recordsOf id := by
  rw [Store.recordsOf, eventsOf_commit, hc.entriesOf_commit, hc.payoutsOf_commit,
    hc.noticesOf_commit]
  split
  · rfl
  · simp only [List.append_nil]
    rfl

end EscrowOp.Commits

/-- A capture starts the records of its hold and leaves the others alone. -/
theorem CommitArgs.recordsOf_captured (args : CommitArgs) (zarFee : ℤ) (s : Store) (id : ℕ) :
    (args.captured zarFee s).recordsOf id =
      let r := s.recordsOf id
      if s.nextId + 1 = id then
        ⟨r.events ++ (args.records zarFee s).events, r.entries ++ (args.records zarFee s).entries,
          r.payouts, r.notices ++ (args.records zarFee s).notices⟩
      else r := by
  have hevents : (args.captured zarFee s).eventsOf id =
      s.eventsOf id ++ if s.nextId + 1 = id then (args.records zarFee s).events else [] := by
    have hnew : (args.records zarFee s).events.filter (fun e ↦ e.holdId = id) =
        if s.nextId + 1 = id then (args.records zarFee s).events else [] := by
      refine Table.filter_of_forall fun e he ↦ ?_
      rw [List.mem_singleton.mp he, decide_eq_true_iff]
      rfl
    rw [Store.eventsOf, captured, List.filter_append]
    exact congrArg _ hnew
  have hentries : (args.captured zarFee s).entriesOf id =
      s.entriesOf id ++ if s.nextId + 1 = id then args.entries zarFee else [] := by
    rw [Store.entriesOf, captured, List.filter_append, List.map_append, entries_of_event]
    rfl
  have hnotices : (args.captured zarFee s).noticesOf id =
      s.noticesOf id ++ if s.nextId + 1 = id then (args.records zarFee s).notices else [] := by
    have hintent (i : ℕ) (txn : Transaction) :
        [OutboxService.row (args.succeededNotice zarFee txn s.clock) i s.clock].filter
          (fun o ↦ o.aggregateType = "EscrowHold" ∧ o.aggregateId = id) = [] := by
      refine List.filter_eq_nil_iff.mpr fun o ho hd ↦ ?_
      rw [List.mem_singleton.mp ho] at hd
      have htype : "PaymentIntent" = "EscrowHold" := (of_decide_eq_true hd).1
      simp at htype
    have hnew : (args.records zarFee s).notices.filter
        (fun o ↦ o.aggregateType = "EscrowHold" ∧ o.aggregateId = id) =
          if s.nextId + 1 = id then (args.records zarFee s).notices else [] := by
      refine Table.filter_of_forall fun o ho ↦ ?_
      rw [List.mem_singleton.mp ho, decide_eq_true_iff]
      exact and_iff_right rfl
    rw [Store.noticesOf, captured, List.filter_append]
    refine congrArg _ ?_
    rw [← List.singleton_append, List.filter_append, hintent, List.nil_append]
    exact hnew
  rw [Store.recordsOf, hevents, hentries, hnotices]
  split
  · rfl
  · simp only [List.append_nil]
    rfl

/-! ## Invariants of a hold and its records -/

/-- Captures establish the relation and operations preserve it. -/
structure HoldInvariant (config : BusinessConfig) (R : EscrowHold → HoldRecords → Prop) : Prop where
  captured : ∀ {args : CommitArgs} {zarFee : ℤ} {s : Store}, args.Captures zarFee s →
    R (args.hold zarFee (s.nextId + 1) s.clock) (args.records zarFee s)
  committed : ∀ {op : EscrowOp} {s : Store} {hold : EscrowHold} {target : EscrowState} {w : Writes}
    {entries : List LedgerEntryInput} {p : Pot ℤ} {r : HoldRecords},
    op.Commits s hold target w entries → hold.Shows p → R hold r →
      R (w.update hold) (w.extend config hold entries s r)

/-- Every record belongs to a hold, and every hold is in the relation to its records. -/
structure Store.OnRecord (R : EscrowHold → HoldRecords → Prop) (s : Store) : Prop where
  conserved : s.Conserved
  events : ∀ e ∈ s.escrowEvents, e.holdId ∈ s.escrowHolds.map EscrowHold.id
  payouts : ∀ p ∈ s.payouts, p.holdId ∈ s.escrowHolds.map EscrowHold.id
  notices : ∀ o ∈ s.outboxEvents, o.aggregateType = "EscrowHold" →
    o.aggregateId ∈ s.escrowHolds.map EscrowHold.id
  holds : ∀ h ∈ s.escrowHolds, R h (s.recordsOf h.id)

namespace Store.OnRecord

variable {config : BusinessConfig} {R : EscrowHold → HoldRecords → Prop} {s : Store}

theorem empty (clock nextId : ℕ) (intents : List PaymentIntent) :
    (Store.empty clock nextId intents).OnRecord R where
  conserved := .empty clock nextId intents
  events := fun _ hm ↦ absurd hm List.not_mem_nil
  payouts := fun _ hm ↦ absurd hm List.not_mem_nil
  notices := fun _ hm ↦ absurd hm List.not_mem_nil
  holds := fun _ hm ↦ absurd hm List.not_mem_nil

/-- An id that no hold has has no records. -/
theorem recordsOf_of_not_mem (hs : s.OnRecord R) {id : ℕ}
    (h : id ∉ s.escrowHolds.map EscrowHold.id) : s.recordsOf id = ⟨[], [], [], []⟩ := by
  have hevents : s.eventsOf id = [] := by
    refine List.filter_eq_nil_iff.mpr fun e he hd ↦ h ?_
    exact of_decide_eq_true hd ▸ hs.events e he
  have hentries : s.entriesOf id = [] := by
    rw [Store.entriesOf, List.filter_eq_nil_iff.mpr, List.map_nil]
    intro e he hd
    exact h (of_decide_eq_true hd ▸ hs.conserved.owned e he)
  have hpayouts : s.payoutsOf id = [] := by
    refine List.filter_eq_nil_iff.mpr fun p hp hd ↦ h ?_
    exact of_decide_eq_true hd ▸ hs.payouts p hp
  have hnotices : s.noticesOf id = [] := by
    refine List.filter_eq_nil_iff.mpr fun o ho hd ↦ h ?_
    obtain ⟨htype, hid⟩ := of_decide_eq_true hd
    exact hid ▸ hs.notices o ho htype
  rw [Store.recordsOf, hevents, hentries, hpayouts, hnotices]

theorem commit (hs : s.OnRecord R) (hR : HoldInvariant config R) {op : EscrowOp}
    {hold : EscrowHold} {target : EscrowState} {w : Writes} {entries : List LedgerEntryInput}
    (hc : op.Commits s hold target w entries) : (w.commit config hold entries s).OnRecord R := by
  have hkey : ∀ h, (w.update h).id = h.id := fun h ↦ (EscrowOp.update_of_work hc.work h).2.id
  have hids : (w.commit config hold entries s).escrowHolds.map EscrowHold.id =
      s.escrowHolds.map EscrowHold.id := Table.map_update _ hkey _
  have hself : hold.id ∈ s.escrowHolds.map EscrowHold.id := List.mem_map_of_mem hc.mem
  obtain ⟨htype, hnotice⟩ := EscrowOp.notice_of_work hc.work
  refine ⟨hc.conserved hs.conserved, ?_, ?_, ?_, ?_⟩
  · rw [hids]
    intro e he
    rcases List.mem_append.mp he with he | he
    · exact hs.events e he
    · rw [List.mem_singleton.mp he]
      exact hself
  · rw [hids]
    intro p hp
    rcases List.mem_append.mp hp with hp | hp
    · split at hp
      · obtain ⟨x, hx, rfl⟩ := List.mem_map.mp hp
        rw [holdId_cancelQueued]
        exact hs.payouts x hx
      · exact hs.payouts p hp
    · rw [holdId_of_mem_queuedPayouts hp, hkey]
      exact hself
  · rw [hids]
    intro o ho ht
    rcases List.mem_append.mp ho with ho | ho
    · rcases List.mem_append.mp ho with ho | ho
      · exact hs.notices o ho ht
      · obtain ⟨p, -, rfl⟩ := List.mem_map.mp ho
        have ht : "Payout" = "EscrowHold" := ht
        simp at ht
    · rw [List.mem_singleton.mp ho]
      change w.notice.aggregateId ∈ _
      rw [hnotice]
      exact hself
  · intro h hm
    obtain ⟨x, hx, rfl⟩ := Table.mem_update.mp hm
    rw [hc.recordsOf_commit]
    by_cases hk : x.id = hold.id
    · obtain rfl : x = hold := List.inj_on_of_nodup_map hs.conserved.distinct hx hc.mem hk
      obtain ⟨p, hp, -⟩ := hs.conserved.pots x hx
      rw [if_pos rfl, hkey, if_pos rfl]
      exact hR.committed hc hp (hs.holds x hx)
    · rw [if_neg hk, if_neg (Ne.symm hk)]
      exact hs.holds x hx

theorem capture (hs : s.OnRecord R) (hR : HoldInvariant config R) {args : CommitArgs} {zarFee : ℤ}
    (hc : args.Captures zarFee s) : (args.captured zarFee s).OnRecord R := by
  have hids : (args.captured zarFee s).escrowHolds.map EscrowHold.id =
      s.escrowHolds.map EscrowHold.id ++ [s.nextId + 1] := List.map_append
  have hself : s.nextId + 1 ∈ (args.captured zarFee s).escrowHolds.map EscrowHold.id := by
    rw [hids]
    exact List.mem_append_right _ (List.mem_singleton.mpr rfl)
  have hkeep : ∀ id ∈ s.escrowHolds.map EscrowHold.id,
      id ∈ (args.captured zarFee s).escrowHolds.map EscrowHold.id := by
    rw [hids]
    exact fun id hid ↦ List.mem_append_left _ hid
  have hnew : s.nextId + 1 ∉ s.escrowHolds.map EscrowHold.id := by
    intro h
    obtain ⟨x, hx, hid⟩ := List.mem_map.mp h
    have := hs.conserved.fresh x hx
    omega
  refine ⟨hc.conserved hs.conserved, ?_, fun p hp ↦ hkeep _ (hs.payouts p hp), ?_, ?_⟩
  · intro e he
    rcases List.mem_append.mp he with he | he
    · exact hkeep _ (hs.events e he)
    · rw [List.mem_singleton.mp he]
      exact hself
  · intro o ho ht
    rcases List.mem_append.mp ho with ho | ho
    · exact hkeep _ (hs.notices o ho ht)
    · rcases List.mem_pair.mp ho with rfl | rfl
      · have ht : "PaymentIntent" = "EscrowHold" := ht
        simp at ht
      · exact hself
  · intro h hm
    rw [args.recordsOf_captured]
    rcases List.mem_append.mp hm with hm | hm
    · have hne : s.nextId + 1 ≠ h.id := fun e ↦ hnew (e ▸ List.mem_map_of_mem hm)
      dsimp only
      rw [if_neg hne]
      exact hs.holds h hm
    · rw [List.mem_singleton.mp hm]
      have hid : (args.hold zarFee (s.nextId + 1) s.clock).id = s.nextId + 1 := rfl
      rw [hid]
      dsimp only
      rw [if_pos rfl, hs.recordsOf_of_not_mem hnew]
      exact hR.captured hc

/-- What does not write the tables of holds and their records keeps the relation. -/
theorem frame {s' : Store} (hs : s.OnRecord R) (hn : s.nextId ≤ s'.nextId)
    (hh : s'.escrowHolds = s.escrowHolds) (he : s'.escrowEvents = s.escrowEvents)
    (hl : s'.ledgerEntries = s.ledgerEntries) (hp : s'.payouts = s.payouts)
    (ho : ∀ id, s'.noticesOf id = s.noticesOf id) : s'.OnRecord R where
  conserved := hs.conserved.frame hh hl hn
  events := by
    rw [he, hh]
    exact hs.events
  payouts := by
    rw [hp, hh]
    exact hs.payouts
  notices := by
    rw [hh]
    intro o hm ht
    have hmem : o ∈ s'.noticesOf o.aggregateId :=
      List.mem_filter.mpr ⟨hm, decide_eq_true ⟨ht, rfl⟩⟩
    rw [ho] at hmem
    exact hs.notices o (List.mem_filter.mp hmem).1 ht
  holds := by
    rw [hh]
    intro h hm
    have hrec : s'.recordsOf h.id = s.recordsOf h.id := by
      rw [Store.recordsOf, ho, Store.eventsOf, Store.entriesOf, Store.payoutsOf, he, hl, hp]
      rfl
    rw [hrec]
    exact hs.holds h hm

end Store.OnRecord

/-- Every call keeps the relation. -/
theorem HoldInvariant.step {config : BusinessConfig} {R : EscrowHold → HoldRecords → Prop}
    (hR : HoldInvariant config R) (s : Store) (c : EscrowCall) (hs : s.OnRecord R) :
    (c.step config s).OnRecord R := by
  cases c with
  | capture args zarFee =>
      refine Tx.transact_invariant (fun _ s' h ↦ ?_) hs
      rcases PayFastWebhookService.of_commitComplete_ok h with ⟨-, rfl⟩ | ⟨hc, rfl⟩
      · exact hs
      · exact hs.capture hR hc
  | escrow op =>
      refine Tx.transact_invariant (fun _ s' h ↦ ?_) hs
      obtain ⟨hold, target, w, entries, hc, -, rfl⟩ := EscrowOp.commits_of_exec_eq h
      exact hs.commit hR hc
  | tick clock =>
      exact hs.frame le_rfl rfl rfl rfl rfl fun _ ↦ rfl

/-- It holds in every store that calls reach. -/
theorem HoldInvariant.of_run {config : BusinessConfig} {R : EscrowHold → HoldRecords → Prop}
    (hR : HoldInvariant config R) (clock nextId : ℕ) (intents : List PaymentIntent)
    (calls : List EscrowCall) :
    (Transition.run (EscrowCall.step config) (Store.empty clock nextId intents) calls).OnRecord R :=
  Transition.run_invariant _ hR.step (.empty clock nextId intents) calls

end GearshPayments
