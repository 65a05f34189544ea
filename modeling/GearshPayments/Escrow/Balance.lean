import GearshPayments.Escrow.Conservation

/-!
# Every event balances

The amounts an operation books are made up in different places: what remains of the hold,
the platform fee, the two shares of a split.  That they always balance is owed to the pot
the hold shows (`EscrowOp.sound_of_built`): the checks of the ledger never fail, and an
operation that throws throws something else (`EscrowOp.code_of_error`).  Each event is
written with all its entries at once, so every event has sound entries for ever
(`Store.EventsBalanced`), and invariant A has nothing to report.
-/

namespace GearshPayments

open DoubleEntry EscrowService

/-! ## The checks of the ledger never fail -/

namespace LedgerService

/-- A refund of what is not negative is not refused as an imbalance. -/
theorem code_of_buildRefundEntries {hold : HoldSnapshot} {refundCents : ℤ} {faultParty : FaultParty}
    {refundIsFull : Bool} {e : Failure} (h0 : 0 ≤ refundCents)
    (h : buildRefundEntries hold refundCents faultParty refundIsFull = .error e) :
    e.code? ≠ some .ledgerImbalance := by
  rw [buildRefundEntries, if_neg (not_lt.mpr h0)] at h
  split at h
  · cases h
    simp
  · dsimp only at h
    split at h
    · cases h
    · cases h

theorem code_of_buildSplitEntries {hold : HoldSnapshot} {artistCents clientCents : ℤ} {e : Failure}
    (ha : 0 ≤ artistCents) (hc : 0 ≤ clientCents)
    (h : buildSplitEntries hold artistCents clientCents = .error e) :
    e.code? ≠ some .ledgerImbalance := by
  have hneg : ¬(artistCents < 0 ∨ clientCents < 0) := not_or.mpr ⟨not_lt.mpr ha, not_lt.mpr hc⟩
  rw [buildSplitEntries, if_neg hneg] at h
  split at h
  · cases h
    simp
  · cases h

end LedgerService

namespace EscrowOp

variable {op : EscrowOp} {hold : EscrowHold} {target : EscrowState} {now : ℕ} {w : Writes}
  {p : Pot ℤ}

/-- The guard of `release` against a negative remainder never fires. -/
theorem code_of_work {e : Failure} (hp : hold.Shows p) (h : op.work hold target now = .error e) :
    e.code? ≠ some .ledgerImbalance := by
  obtain ⟨-, hle⟩ := hp.bounds
  cases op with
  | release id opts =>
      simp only [work, releaseWork] at h
      split at h
      · omega
      · cases h
  | partialRefund id amount opts =>
      simp only [work, partialRefundWork] at h
      split at h
      · cases h
        simp
      · cases h
  | resolveSplit id artist client opts =>
      simp only [work, resolveSplitWork] at h
      split at h
      · cases h
        simp
      · cases h
  | refund id opts => cases h
  | freeze id opts => cases h
  | resolveRelease id opts => cases h
  | resolveRefund id opts => cases h

theorem code_of_entries {e : Failure} (hp : hold.Shows p) (hv : op.Valid)
    (hw : op.work hold target now = .ok w) (h : w.entries = .error e) :
    e.code? ≠ some .ledgerImbalance := by
  obtain ⟨h0, hle⟩ := hp.bounds
  cases op with
  | release id opts =>
      obtain ⟨-, rfl⟩ := of_guard_ok hw
      cases h
  | refund id opts =>
      cases hw
      exact LedgerService.code_of_buildRefundEntries (h0.trans hle) h
  | partialRefund id amount opts =>
      obtain ⟨-, rfl⟩ := of_guard_ok hw
      exact LedgerService.code_of_buildRefundEntries (le_of_lt hv) h
  | freeze id opts =>
      cases hw
      cases h
  | resolveRelease id opts =>
      cases hw
      cases h
  | resolveRefund id opts =>
      cases hw
      exact LedgerService.code_of_buildRefundEntries (sub_nonneg.mpr hle) h
  | resolveSplit id artist client opts =>
      obtain ⟨-, rfl⟩ := of_guard_ok hw
      exact LedgerService.code_of_buildSplitEntries hv.1 hv.2 h

/-- What an operation builds balances. -/
theorem sound_of_built {entries : List LedgerEntryInput} (hp : hold.Shows p)
    (hw : op.work hold target now = .ok w) (h : w.entries = .ok entries) : Sound entries := by
  obtain ⟨-, hle⟩ := hp.bounds
  have hrem : 0 ≤ hold.amountCents - hold.partiallyRefundedAmountCents := sub_nonneg.mpr hle
  cases op with
  | release id opts =>
      obtain ⟨-, rfl⟩ := of_guard_ok hw
      cases h
      exact LedgerService.sound_buildReleaseEntriesForAmount hrem
  | refund id opts =>
      cases hw
      exact LedgerService.sound_buildRefundEntries h
  | partialRefund id amount opts =>
      obtain ⟨-, rfl⟩ := of_guard_ok hw
      exact LedgerService.sound_buildRefundEntries h
  | freeze id opts =>
      cases hw
      cases h
      exact ⟨fun _ hx ↦ absurd hx List.not_mem_nil, rfl⟩
  | resolveRelease id opts =>
      cases hw
      cases h
      exact LedgerService.sound_buildReleaseEntriesForAmount hrem
  | resolveRefund id opts =>
      cases hw
      exact LedgerService.sound_buildRefundEntries h
  | resolveSplit id artist client opts =>
      obtain ⟨-, rfl⟩ := of_guard_ok hw
      exact LedgerService.sound_buildSplitEntries h

/-- An operation that throws does not throw for the ledger. -/
theorem code_of_error {config : BusinessConfig} {s : Store} (hs : s.Conserved) {e : Failure}
    (h : op.exec config s = .error e) : e.code? ≠ some .ledgerImbalance := by
  by_cases hv : op.Valid
  · have hx := h
    rw [exec_of_valid config hv] at h
    cases hf : s.escrowHold? op.holdId with
    | none =>
        rw [applyTransition_not_found hf] at h
        cases h
        simp
    | some hold =>
        obtain ⟨p, hp, -⟩ := hs.pot_of_find hf
        cases hn : nextState hold.state op.action with
        | error e' =>
            rw [applyTransition_refused hf hn] at h
            cases h
            rw [nextState_code hn]
            split
            · simp
            · simp
        | ok target =>
            have ht := nextState_eq_ok_iff.mp hn
            have hid : hold.id = op.holdId := (Table.find_some hf).2
            rw [applyTransition_apply hf ht] at h
            cases hw : op.work hold target s.clock with
            | error e' =>
                rw [hw] at h
                cases h
                exact code_of_work hp hw
            | ok w =>
                rw [hw] at h
                dsimp only at h
                rw [Tx.bind_apply, write_apply (hid ▸ hf)] at h
                by_cases hr : (w.refundId.all fun id ↦ (s.refund? id).isSome) = true
                · rw [if_pos hr] at h
                  cases he : w.entries with
                  | error e' =>
                      rw [he] at h
                      cases h
                      exact code_of_entries hp hv hw he
                  | ok entries =>
                      -- past the entries nothing is refused any more
                      have hsound := sound_of_built hp hw he
                      have hc : op.Commits s hold target w entries :=
                        ⟨hv, hf, ht, hw, hr, he, hsound⟩
                      cases hc.exec_eq.symm.trans hx
                · rw [if_neg hr] at h
                  cases h
                  simp
  · obtain ⟨detail, he⟩ := exec_of_not_valid config hv s
    cases he.symm.trans h
    simp

end EscrowOp

/-! ## Every event has sound entries -/

/-- The entries of an event were made together, for its hold and in one currency, and
balance. -/
structure EscrowEvent.Balanced (e : EscrowEvent) (entries : List LedgerEntry) : Prop where
  hold : ∀ x ∈ entries, x.holdId = e.holdId
  currency : ∃ currency, ∀ x ∈ entries, x.currency = currency
  together : ∀ x ∈ entries, x.createdAt = e.createdAt
  sound : Sound (entries.map LedgerEntry.toPosting)

/-- Every event has an id of its own, every entry belongs to an event, and the entries of
every event balance. -/
structure Store.EventsBalanced (s : Store) : Prop where
  conserved : s.Conserved
  distinct : (s.escrowEvents.map EscrowEvent.id).Nodup
  fresh : ∀ e ∈ s.escrowEvents, e.id < s.nextId
  owned : ∀ x ∈ s.ledgerEntries, x.eventId ∈ s.escrowEvents.map EscrowEvent.id
  balanced : ∀ e ∈ s.escrowEvents, e.Balanced (s.entriesOfEvent e.id)

theorem balanced_ledgerEntry {hold : EscrowHold} {event : EscrowEvent} {now : ℕ}
    {entries : List LedgerEntryInput} (hhold : event.holdId = hold.id)
    (hnow : event.createdAt = now) (hsound : Sound entries) :
    event.Balanced (entries.map (ledgerEntry hold event now)) := by
  have hall : ∀ x ∈ entries.map (ledgerEntry hold event now),
      x.holdId = hold.id ∧ x.currency = hold.currency ∧ x.createdAt = now := by
    intro x hx
    obtain ⟨e, -, rfl⟩ := List.mem_map.mp hx
    exact ⟨rfl, rfl, rfl⟩
  refine ⟨fun x hx ↦ ?_, ⟨hold.currency, fun x hx ↦ (hall x hx).2.1⟩, fun x hx ↦ ?_, ?_⟩
  · rw [(hall x hx).1, hhold]
  · rw [(hall x hx).2.2, hnow]
  · rw [List.map_map]
    exact (List.map_id entries).symm ▸ hsound

namespace Store.EventsBalanced

variable {s : Store}

theorem empty (clock nextId : ℕ) (intents : List PaymentIntent) :
    (Store.empty clock nextId intents).EventsBalanced where
  conserved := .empty clock nextId intents
  distinct := List.nodup_nil
  fresh := fun _ hm ↦ absurd hm List.not_mem_nil
  owned := fun _ hm ↦ absurd hm List.not_mem_nil
  balanced := fun _ hm ↦ absurd hm List.not_mem_nil

/-- An event is added together with its entries. -/
theorem append {s' : Store} (hs : s.EventsBalanced) (hc : s'.Conserved) {hold : EscrowHold}
    {event : EscrowEvent} {entries : List LedgerEntryInput} {now : ℕ}
    (hevents : s'.escrowEvents = s.escrowEvents ++ [event])
    (hentries : s'.ledgerEntries = s.ledgerEntries ++ entries.map (ledgerEntry hold event now))
    (hnew : s.nextId ≤ event.id) (hnext : event.id < s'.nextId) (hhold : event.holdId = hold.id)
    (hnow : event.createdAt = now) (hsound : Sound entries) : s'.EventsBalanced := by
  have hmine : ∀ x ∈ entries.map (ledgerEntry hold event now), x.eventId = event.id := by
    intro x hx
    obtain ⟨e, -, rfl⟩ := List.mem_map.mp hx
    rfl
  have hlt : ∀ e ∈ s.escrowEvents, e.id < event.id := fun e he ↦ (hs.fresh e he).trans_le hnew
  refine ⟨hc, ?_, ?_, ?_, ?_⟩
  · rw [hevents, List.map_append]
    refine List.nodup_append.mpr ⟨hs.distinct, List.nodup_singleton _, fun i hi j hj ↦ ?_⟩
    obtain ⟨e, he, rfl⟩ := List.mem_map.mp hi
    rw [List.mem_singleton.mp hj]
    exact (hlt e he).ne
  · rw [hevents]
    intro e he
    rcases List.mem_append.mp he with he | he
    · exact (hlt e he).trans hnext
    · rw [List.mem_singleton.mp he]
      exact hnext
  · rw [hevents, hentries, List.map_append]
    intro x hx
    rcases List.mem_append.mp hx with hx | hx
    · exact List.mem_append_left _ (hs.owned x hx)
    · rw [hmine x hx]
      exact List.mem_append_right _ (List.mem_singleton.mpr rfl)
  · have hsplit := Store.entriesOfEvent_append hentries
    rw [hevents]
    intro e he
    rcases List.mem_append.mp he with he | he
    · rw [hsplit, if_neg (hlt e he).ne', List.append_nil]
      exact hs.balanced e he
    · have hnone : s.entriesOfEvent event.id = [] := by
        refine List.filter_eq_nil_iff.mpr fun x hx hid ↦ ?_
        obtain ⟨e', he', hid'⟩ := List.mem_map.mp (hs.owned x hx)
        exact (hlt e' he').ne (hid'.trans (of_decide_eq_true hid))
      rw [List.mem_singleton.mp he, hsplit, hnone, if_pos rfl, List.nil_append]
      exact balanced_ledgerEntry hhold hnow hsound

theorem capture (hs : s.EventsBalanced) {args : CommitArgs} {zarFee : ℤ}
    (hc : args.Captures zarFee s) : (args.captured zarFee s).EventsBalanced := by
  refine hs.append (hc.conserved hs.conserved) rfl rfl ?_ ?_ rfl rfl hc.sound
  · show s.nextId ≤ s.nextId + 2
    omega
  · show s.nextId + 2 < s.nextId + 5
    omega

theorem commit (hs : s.EventsBalanced) {config : BusinessConfig} {op : EscrowOp}
    {hold : EscrowHold} {target : EscrowState} {w : Writes} {entries : List LedgerEntryInput}
    (hc : op.Commits s hold target w entries) :
    (w.commit config hold entries s).EventsBalanced := by
  have hid : hold.id = (w.update hold).id := (EscrowOp.update_of_work hc.work hold).2.id.symm
  refine hs.append (hc.conserved hs.conserved) rfl rfl le_rfl ?_ hid rfl hc.sound
  show s.nextId < s.nextId + 1 + 2 * (w.queued config hold s).length + 1
  omega

/-- What does not write the events or the ledger keeps the events balanced. -/
theorem frame {s' : Store} (hs : s.EventsBalanced) (hn : s.nextId ≤ s'.nextId)
    (hh : s'.escrowHolds = s.escrowHolds) (he : s'.escrowEvents = s.escrowEvents)
    (hl : s'.ledgerEntries = s.ledgerEntries) : s'.EventsBalanced where
  conserved := hs.conserved.frame hh hl hn
  distinct := he ▸ hs.distinct
  fresh := by
    rw [he]
    exact fun e hm ↦ (hs.fresh e hm).trans_le hn
  owned := by
    rw [he, hl]
    exact hs.owned
  balanced := by
    rw [he]
    intro e hm
    rw [Store.entriesOfEvent, hl]
    exact hs.balanced e hm

/-- Every call keeps the events balanced. -/
theorem step (config : BusinessConfig) (s : Store) (c : EscrowCall) (hs : s.EventsBalanced) :
    (c.step config s).EventsBalanced := by
  cases c with
  | capture args zarFee =>
      refine Tx.transact_invariant (fun _ s' h ↦ ?_) hs
      rcases PayFastWebhookService.of_commitComplete_ok h with ⟨-, rfl⟩ | ⟨hc, rfl⟩
      · exact hs
      · exact hs.capture hc
  | escrow op =>
      refine Tx.transact_invariant (fun _ s' h ↦ ?_) hs
      obtain ⟨hold, target, w, entries, hc, -, rfl⟩ := EscrowOp.commits_of_exec_eq h
      exact hs.commit hc
  | tick clock => exact hs.frame le_rfl rfl rfl rfl

/-- An event has all of its entries in the window or none, so that no row is out of balance. -/
theorem findingsA (hs : s.EventsBalanced) (windowStart windowEnd : ℕ) :
    (ReconciliationService.eventTotals windowStart windowEnd s).filterMap
      ReconciliationService.findingA = [] := by
  refine List.filterMap_eq_nil_iff.mpr fun r hr ↦ ?_
  obtain ⟨eventId, hid, rfl⟩ := List.mem_map.mp hr
  obtain ⟨x, hx, rfl⟩ := List.mem_map.mp (List.mem_dedup.mp hid)
  obtain ⟨hx, hwindow⟩ := List.mem_filter.mp hx
  obtain ⟨e, he, heq⟩ := List.mem_map.mp (hs.owned x hx)
  have hbalanced := hs.balanced e he
  rw [heq] at hbalanced
  have hall : (ReconciliationService.entriesInWindow windowStart windowEnd s).filter
      (fun y ↦ y.eventId = x.eventId) = s.entriesOfEvent x.eventId := by
    rw [ReconciliationService.entriesInWindow, List.filter_comm]
    refine List.filter_eq_self.mpr fun y hy ↦ ?_
    have hxe : x ∈ s.entriesOfEvent x.eventId :=
      List.mem_filter.mpr ⟨hx, decide_eq_true rfl⟩
    rw [hbalanced.together y hy, ← hbalanced.together x hxe]
    exact hwindow
  dsimp only
  rw [hall, ReconciliationService.findingA, hbalanced.sound.balanced]
  exact if_neg fun h ↦ h rfl

/-- Invariant A reports nothing. -/
theorem checkInvariantA (hs : s.EventsBalanced) (windowStart windowEnd : ℕ)
    (answers : ℕ → HttpOutcome) :
    ((ReconciliationService.checkInvariantAForWindow windowStart windowEnd).run (.healthy answers)
      s).result = .ok [] := by
  simp [ReconciliationService.checkInvariantAForWindow, Resumption.run_bind,
    Resumption.Run.andThen, hs.findingsA]

end Store.EventsBalanced

/-! ## The theorem -/

/-- In every store that captures and operations reach, no operation throws for the ledger, no hold
has refunded more than it holds, every event has sound entries of one hold and one currency, and
invariant A finds nothing in any window. -/
theorem ledger_balanced (config : BusinessConfig) (clock nextId : ℕ) (intents : List PaymentIntent)
    (calls : List EscrowCall) :
    let s := Transition.run (EscrowCall.step config) (Store.empty clock nextId intents) calls
    (∀ (op : EscrowOp) e, op.exec config s = .error e → e.code? ≠ some .ledgerImbalance) ∧
    (∀ h ∈ s.escrowHolds, ¬h.amountCents - h.partiallyRefundedAmountCents < 0) ∧
    (∀ e ∈ s.escrowEvents,
      (∀ x ∈ s.entriesOfEvent e.id, 0 ≤ x.amount ∧ x.holdId = e.holdId) ∧
      (∃ currency, ∀ x ∈ s.entriesOfEvent e.id, x.currency = currency) ∧
      side .debit ((s.entriesOfEvent e.id).map LedgerEntry.toPosting) =
        side .credit ((s.entriesOfEvent e.id).map LedgerEntry.toPosting)) ∧
    ∀ (windowStart windowEnd : ℕ) (answers : ℕ → HttpOutcome),
      ((ReconciliationService.checkInvariantAForWindow windowStart windowEnd).run (.healthy answers)
        s).result = .ok [] := by
  intro s
  have hs : s.EventsBalanced :=
    Transition.run_invariant _ (Store.EventsBalanced.step config) (.empty clock nextId intents)
      calls
  refine ⟨fun op e h ↦ EscrowOp.code_of_error hs.conserved h, fun h hm ↦ ?_, fun e he ↦ ?_,
    hs.checkInvariantA⟩
  · exact not_lt.mpr (sub_nonneg.mpr (hs.conserved.bounds hm).2)
  · obtain ⟨hhold, hcurrency, -, hsound⟩ := hs.balanced e he
    refine ⟨fun x hx ↦ ⟨?_, hhold x hx⟩, hcurrency, hsound.balanced⟩
    exact hsound.nonneg _ (List.mem_map_of_mem hx)

end GearshPayments
