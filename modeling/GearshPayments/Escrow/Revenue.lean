import GearshPayments.Escrow.Conservation
import Mathlib.Algebra.Order.BigOperators.Group.List

/-!
# Platform revenue

A capture credits the platform fee, and two operations pay it back: a full refund with
the artist at fault, and a dispute resolved as a refund.  Both end their hold, so no
fee is paid back twice; what is left of `PLATFORM_REVENUE` is the fees of the other
holds.
-/

namespace GearshPayments

open DoubleEntry EscrowService

/-- The operation ends a hold in such a way that its fee is paid back. -/
def EscrowOp.PaysFeeBack : EscrowOp → Prop
  | .refund _ opts => opts.faultParty = .artist
  | .resolveRefund .. => True
  | _ => False

instance (op : EscrowOp) : Decidable op.PaysFeeBack := by
  cases op <;> unfold EscrowOp.PaysFeeBack <;> infer_instance

/-- The hold, if any, whose fee a call pays back when it returns. -/
def EscrowCall.paidBack (config : BusinessConfig) (s : Store) : EscrowCall → List ℕ
  | .escrow op => if op.PaysFeeBack ∧ (op.exec config s).isOk = true then [op.holdId] else []
  | .capture .. | .tick _ => []

/-- The holds whose fees the calls of a run pay back, in their order. -/
def EscrowCall.paidBackAlong (config : BusinessConfig) : Store → List EscrowCall → List ℕ
  | _, [] => []
  | s, c :: cs => c.paidBack config s ++ paidBackAlong config (c.step config s) cs

/-- The entries that pay a fee back. -/
def feeReversals (entries : List LedgerEntryInput) : List LedgerEntryInput :=
  entries.filter fun e ↦ e.account = .platformRevenue ∧ e.direction = .debit

@[simp] theorem feeReversals_append (es es' : List LedgerEntryInput) :
    feeReversals (es ++ es') = feeReversals es ++ feeReversals es' := List.filter_append ..

/-- The reversal of a fee, which is booked if there is a fee. -/
def feeReversal (platformFeeCents : ℤ) : List LedgerEntryInput :=
  if 0 < platformFeeCents then [⟨.platformRevenue, .debit, platformFeeCents⟩] else []

/-! ## What an operation does to revenue -/

theorem revenue_refundEntries {hold : HoldSnapshot} {refundCents : ℤ} {faultParty : FaultParty}
    {refundIsFull : Bool} {entries : List LedgerEntryInput}
    (h : LedgerService.buildRefundEntries hold refundCents faultParty refundIsFull = .ok entries) :
    total .platformRevenue .credit entries = 0 ∧ feeReversals entries =
      if faultParty = .artist ∧ refundIsFull = true then feeReversal hold.platformFeeCents
      else [] := by
  obtain ⟨-, -, rfl⟩ := LedgerService.buildRefundEntries_eq_ok_iff.mp h
  by_cases hfee : faultParty = .artist ∧ refundIsFull = true
  · by_cases hpos : 0 < hold.platformFeeCents
    · simp [hfee, hpos, feeReversals, feeReversal]
    · simp [hfee, hpos, feeReversals, feeReversal]
  · have hno : ¬(faultParty = .artist ∧ refundIsFull = true ∧ hold.platformFeeCents > 0) :=
      fun h ↦ hfee ⟨h.1, h.2.1⟩
    simp [hfee, hno, feeReversals]

namespace EscrowOp.Commits

variable {op : EscrowOp} {s : Store} {hold : EscrowHold} {target : EscrowState} {w : Writes}
  {entries : List LedgerEntryInput}

/-- No operation earns a fee, and those that pay it back do so in one entry. -/
theorem revenue (hc : op.Commits s hold target w entries) :
    total .platformRevenue .credit entries = 0 ∧
      feeReversals entries = if op.PaysFeeBack then feeReversal hold.platformFeeCents else [] := by
  have hwork := hc.work
  have hbuilt := hc.built
  cases op with
  | release id opts =>
      obtain ⟨-, rfl⟩ := of_guard_ok hwork
      cases hbuilt
      simp [LedgerService.buildReleaseEntriesForAmount, feeReversals, PaysFeeBack]
  | refund id opts =>
      cases hwork
      obtain ⟨hcredit, hdebit⟩ := revenue_refundEntries hbuilt
      refine ⟨hcredit, hdebit.trans ?_⟩
      simp only [and_true]
      rfl
  | partialRefund id amount opts =>
      obtain ⟨-, rfl⟩ := of_guard_ok hwork
      obtain ⟨hcredit, hdebit⟩ := revenue_refundEntries hbuilt
      refine ⟨hcredit, hdebit.trans ?_⟩
      rw [if_neg fun h ↦ Bool.false_ne_true h.2]
      rfl
  | freeze id opts =>
      cases hwork
      cases hbuilt
      exact ⟨rfl, rfl⟩
  | resolveRelease id opts =>
      cases hwork
      cases hbuilt
      simp [LedgerService.buildReleaseEntriesForAmount, feeReversals, PaysFeeBack]
  | resolveRefund id opts =>
      cases hwork
      exact revenue_refundEntries hbuilt
  | resolveSplit id artist client opts =>
      obtain ⟨-, rfl⟩ := of_guard_ok hwork
      obtain ⟨-, -, -, rfl⟩ := LedgerService.buildSplitEntries_eq_ok_iff.mp hbuilt
      simp [feeReversals, PaysFeeBack]

/-- An operation that pays the fee back ends its hold as refunded. -/
theorem target_of_paysFeeBack (hc : op.Commits s hold target w entries) (h : op.PaysFeeBack) :
    target = .refunded := by
  obtain rfl := target_of_legal hc.legal
  cases op with
  | refund id opts => rfl
  | resolveRefund id opts => rfl
  | _ => cases h

/-- A refunded hold is not operated on. -/
theorem ne_refunded (hc : op.Commits s hold target w entries) : hold.state ≠ .refunded := by
  intro h
  have := hc.legal
  rw [h, transitions_of_isTerminal rfl] at this
  cases this

end EscrowOp.Commits

/-! ## The books of the fees -/

/-- The fee of every hold is credited once, and reversed for the holds in the list and
for no other; these are refunded. -/
structure Store.FeesBooked (s : Store) (paidBack : List ℕ) : Prop where
  conserved : s.Conserved
  distinct : paidBack.Nodup
  ended : ∀ id ∈ paidBack, ∃ h ∈ s.escrowHolds, h.id = id ∧ h.state = .refunded
  nonneg : ∀ h ∈ s.escrowHolds, 0 ≤ h.platformFeeCents
  credited : ∀ h ∈ s.escrowHolds,
    total .platformRevenue .credit (s.entriesOf h.id) = h.platformFeeCents
  reversed : ∀ h ∈ s.escrowHolds, feeReversals (s.entriesOf h.id) =
    if h.id ∈ paidBack then feeReversal h.platformFeeCents else []

namespace Store.FeesBooked

variable {config : BusinessConfig} {s : Store} {paidBack : List ℕ}

theorem empty (clock nextId : ℕ) (intents : List PaymentIntent) :
    (Store.empty clock nextId intents).FeesBooked [] where
  conserved := .empty clock nextId intents
  distinct := List.nodup_nil
  ended := fun _ hm ↦ absurd hm List.not_mem_nil
  nonneg := fun _ hm ↦ absurd hm List.not_mem_nil
  credited := fun _ hm ↦ absurd hm List.not_mem_nil
  reversed := fun _ hm ↦ absurd hm List.not_mem_nil

theorem commit (hs : s.FeesBooked paidBack) {op : EscrowOp} {hold : EscrowHold}
    {target : EscrowState} {w : Writes} {entries : List LedgerEntryInput}
    (hc : op.Commits s hold target w entries) :
    (w.commit config hold entries s).FeesBooked
      (paidBack ++ if op.PaysFeeBack then [op.holdId] else []) := by
  obtain ⟨hcredit, hdebit⟩ := hc.revenue
  have hkey : ∀ h, (w.update h).id = h.id := fun h ↦ (EscrowOp.update_of_work hc.work h).2.id
  have hfee : ∀ h, (w.update h).platformFeeCents = h.platformFeeCents :=
    fun h ↦ (EscrowOp.update_of_work hc.work h).2.platformFeeCents
  have hnew : hold.id ∉ paidBack := by
    intro h
    obtain ⟨x, hx, hid, hst⟩ := hs.ended _ h
    obtain rfl : x = hold := List.inj_on_of_nodup_map hs.conserved.distinct hx hc.mem hid
    exact hc.ne_refunded hst
  have hself : w.update hold ∈ (w.commit config hold entries s).escrowHolds :=
    Table.mem_update.mpr ⟨hold, hc.mem, (if_pos rfl).symm⟩
  -- what is said of a hold is said of the row before the operation
  have hrows {P : EscrowHold → Prop} (hthis : P (w.update hold))
      (hother : ∀ x ∈ s.escrowHolds, x.id ≠ hold.id → P x) :
      ∀ h ∈ (w.commit config hold entries s).escrowHolds, P h := by
    intro h hm
    obtain ⟨x, hx, rfl⟩ := Table.mem_update.mp hm
    by_cases hk : x.id = hold.id
    · obtain rfl : x = hold := List.inj_on_of_nodup_map hs.conserved.distinct hx hc.mem hk
      rw [if_pos rfl]
      exact hthis
    · rw [if_neg hk]
      exact hother x hx hk
  refine ⟨hc.conserved hs.conserved, ?_, ?_, ?_, ?_, ?_⟩
  · refine List.nodup_append.mpr ⟨hs.distinct, ?_, ?_⟩
    · split
      · exact List.nodup_singleton _
      · exact List.nodup_nil
    · intro x hx y hy
      split at hy
      · rw [List.mem_singleton.mp hy, ← hc.id_eq]
        exact fun e ↦ hnew (e ▸ hx)
      · cases hy
  · intro id hid
    rcases List.mem_append.mp hid with hid | hid
    · obtain ⟨x, hx, rfl, hst⟩ := hs.ended id hid
      have hne : x.id ≠ hold.id := fun e ↦ hnew (e ▸ hid)
      exact ⟨x, Table.mem_update.mpr ⟨x, hx, (if_neg hne).symm⟩, rfl, hst⟩
    · split at hid
      · rename_i hpays
        rw [List.mem_singleton.mp hid, ← hc.id_eq]
        refine ⟨w.update hold, hself, hkey hold, ?_⟩
        rw [(EscrowOp.update_of_work hc.work hold).1]
        exact hc.target_of_paysFeeBack hpays
      · cases hid
  · refine hrows ?_ fun x hx _ ↦ hs.nonneg x hx
    rw [hfee]
    exact hs.nonneg hold hc.mem
  · refine hrows ?_ fun x hx hk ↦ ?_
    · rw [hkey, hfee, hc.entriesOf_commit, if_pos rfl, total_append, hcredit, add_zero]
      exact hs.credited hold hc.mem
    · rw [hc.entriesOf_commit, if_neg (Ne.symm hk), List.append_nil]
      exact hs.credited x hx
  · refine hrows ?_ fun x hx hk ↦ ?_
    · rw [hkey, hfee, hc.entriesOf_commit, if_pos rfl, feeReversals_append, hs.reversed hold hc.mem,
        if_neg hnew, hdebit, List.nil_append]
      refine if_congr ?_ rfl rfl
      rw [List.mem_append, or_iff_right hnew, ← hc.id_eq]
      split <;> simp [*]
    · rw [hc.entriesOf_commit, if_neg (Ne.symm hk), List.append_nil, hs.reversed x hx]
      refine if_congr ?_ rfl rfl
      rw [List.mem_append, ← hc.id_eq, iff_comm, or_iff_left]
      split <;> simp [hk]

theorem capture (hs : s.FeesBooked paidBack) {args : CommitArgs} {zarFee : ℤ}
    (hc : args.Captures zarFee s) : (args.captured zarFee s).FeesBooked paidBack := by
  have hnew : s.nextId + 1 ∉ s.escrowHolds.map EscrowHold.id := by
    intro h
    obtain ⟨x, hx, hid⟩ := List.mem_map.mp h
    have := hs.conserved.fresh x hx
    omega
  have hentries (id : ℕ) : (args.captured zarFee s).entriesOf id =
      s.entriesOf id ++ if s.nextId + 1 = id then args.entries zarFee else [] := by
    rw [Store.entriesOf, CommitArgs.captured, List.filter_append, List.map_append, entries_of_event]
    rfl
  have hnone : s.entriesOf (s.nextId + 1) = [] := by
    rw [Store.entriesOf, List.filter_eq_nil_iff.mpr, List.map_nil]
    intro e he hd
    exact hnew (of_decide_eq_true hd ▸ hs.conserved.owned e he)
  have hpaid : s.nextId + 1 ∉ paidBack := by
    intro h
    obtain ⟨x, hx, hid, -⟩ := hs.ended _ h
    exact hnew (hid ▸ List.mem_map_of_mem hx)
  have hrows {P : EscrowHold → Prop} (hthis : P (args.hold zarFee (s.nextId + 1) s.clock))
      (hother : ∀ x ∈ s.escrowHolds, s.nextId + 1 ≠ x.id → P x) :
      ∀ h ∈ (args.captured zarFee s).escrowHolds, P h := by
    intro h hm
    rcases List.mem_append.mp hm with hm | hm
    · exact hother h hm fun e ↦ hnew (e ▸ List.mem_map_of_mem hm)
    · rw [List.mem_singleton.mp hm]
      exact hthis
  have hid : (args.hold zarFee (s.nextId + 1) s.clock).id = s.nextId + 1 := rfl
  refine ⟨hc.conserved hs.conserved, hs.distinct, ?_, ?_, ?_, ?_⟩
  · intro id h
    obtain ⟨x, hx, hx'⟩ := hs.ended id h
    exact ⟨x, List.mem_append_left _ hx, hx'⟩
  · refine hrows ?_ fun x hx _ ↦ hs.nonneg x hx
    exact hc.sound.nonneg ⟨.platformRevenue, .credit, zarFee⟩ (by simp [CommitArgs.entries])
  · refine hrows ?_ fun x hx hne ↦ ?_
    · rw [hid, hentries, if_pos rfl, hnone]
      simp [CommitArgs.entries, CommitArgs.hold]
    · rw [hentries, if_neg hne, List.append_nil]
      exact hs.credited x hx
  · refine hrows ?_ fun x hx hne ↦ ?_
    · rw [hid, hentries, if_pos rfl, hnone, if_neg hpaid]
      simp [CommitArgs.entries, feeReversals]
    · rw [hentries, if_neg hne, List.append_nil]
      exact hs.reversed x hx

theorem step (hs : s.FeesBooked paidBack) (c : EscrowCall) :
    (c.step config s).FeesBooked (paidBack ++ c.paidBack config s) := by
  cases c with
  | capture args zarFee =>
      rw [EscrowCall.paidBack, List.append_nil]
      refine Tx.transact_invariant (I := (Store.FeesBooked · paidBack)) (fun _ s' h ↦ ?_) hs
      rcases PayFastWebhookService.of_commitComplete_ok h with ⟨-, rfl⟩ | ⟨hc, rfl⟩
      · exact hs
      · exact hs.capture hc
  | escrow op =>
      cases hx : op.exec config s with
      | error e =>
          rw [EscrowCall.step, Tx.transact_error hx, EscrowCall.paidBack, hx,
            if_neg fun h ↦ (by cases h.2), List.append_nil]
          exact hs
      | ok r =>
          obtain ⟨hold', s'⟩ := r
          obtain ⟨hold, target, w, entries, hc, -, rfl⟩ := EscrowOp.commits_of_exec_eq hx
          rw [EscrowCall.step, Tx.transact_ok hx, EscrowCall.paidBack, hx]
          have hok : op.PaysFeeBack ∧ (Except.ok (hold', w.commit config hold entries s) :
              Except Failure _).isOk = true ↔ op.PaysFeeBack := and_iff_left rfl
          simp only [hok]
          exact hs.commit hc
  | tick clock =>
      rw [EscrowCall.paidBack, List.append_nil]
      exact ⟨hs.conserved.frame rfl rfl le_rfl, hs.distinct, hs.ended, hs.nonneg, hs.credited,
        hs.reversed⟩

theorem run (hs : s.FeesBooked paidBack) (calls : List EscrowCall) :
    (Transition.run (EscrowCall.step config) s calls).FeesBooked
      (paidBack ++ EscrowCall.paidBackAlong config s calls) := by
  induction calls generalizing s paidBack with
  | nil =>
      rw [EscrowCall.paidBackAlong, List.append_nil]
      exact hs
  | cons c cs ih =>
      rw [EscrowCall.paidBackAlong, ← List.append_assoc]
      exact ih (hs.step c)

/-- What is left of the fee of one hold. -/
theorem net_entriesOf (hs : s.FeesBooked paidBack) {h : EscrowHold} (hm : h ∈ s.escrowHolds) :
    net .platformRevenue (s.entriesOf h.id) =
      h.platformFeeCents - if h.id ∈ paidBack then h.platformFeeCents else 0 := by
  have hdebit : total .platformRevenue .debit (s.entriesOf h.id) =
      ((feeReversals (s.entriesOf h.id)).map Posting.amount).sum := rfl
  rw [net, hs.credited h hm, hdebit, hs.reversed h hm]
  by_cases hid : h.id ∈ paidBack
  · rw [if_pos hid, if_pos hid]
    by_cases hpos : 0 < h.platformFeeCents
    · simp [feeReversal, hpos]
    · have hzero : h.platformFeeCents = 0 := le_antisymm (not_lt.mp hpos) (hs.nonneg h hm)
      simp [feeReversal, hzero]
  · rw [if_neg hid, if_neg hid]
    rfl

/-- The revenue is the fees of the holds less those that were paid back. -/
theorem net_postings (hs : s.FeesBooked paidBack) :
    net .platformRevenue s.postings = (s.escrowHolds.map EscrowHold.platformFeeCents).sum -
      ((s.escrowHolds.filter fun h ↦ h.id ∈ paidBack).map EscrowHold.platformFeeCents).sum := by
  rw [hs.conserved.net_postings_eq_sum, List.map_congr_left fun h hm ↦ hs.net_entriesOf hm]
  induction s.escrowHolds with
  | nil => rfl
  | cons h hs ih =>
      rw [List.map_cons, List.sum_cons, ih, List.map_cons, List.sum_cons, List.filter_cons]
      by_cases hid : h.id ∈ paidBack
      · simp only [hid, if_true, decide_true, List.map_cons, List.sum_cons]
        ring
      · simp only [hid, if_false, decide_false, Bool.false_eq_true]
        ring

theorem revenue_nonneg (hs : s.FeesBooked paidBack) : 0 ≤ net .platformRevenue s.postings := by
  rw [hs.conserved.net_postings_eq_sum]
  refine List.sum_nonneg fun x hx ↦ ?_
  obtain ⟨h, hm, rfl⟩ := List.mem_map.mp hx
  rw [hs.net_entriesOf hm]
  have := hs.nonneg h hm
  split <;> omega

end Store.FeesBooked

/-- In every store that captures and operations reach, `PLATFORM_REVENUE` is the fees of
all holds less the fees of those ended by a full refund with the artist at fault or by a
dispute resolved as a refund; each of these fees is reversed in one entry, and invariant
C finds nothing. -/
theorem platform_revenue (config : BusinessConfig) (clock nextId : ℕ)
    (intents : List PaymentIntent) (calls : List EscrowCall) :
    let s := Transition.run (EscrowCall.step config) (Store.empty clock nextId intents) calls
    let paidBack := EscrowCall.paidBackAlong config (Store.empty clock nextId intents) calls
    (total .platformRevenue .credit s.postings - total .platformRevenue .debit s.postings =
      (s.escrowHolds.map EscrowHold.platformFeeCents).sum -
        ((s.escrowHolds.filter fun h ↦ h.id ∈ paidBack).map EscrowHold.platformFeeCents).sum) ∧
    paidBack.Nodup ∧
    (∀ h ∈ s.escrowHolds, feeReversals (s.entriesOf h.id) =
      if h.id ∈ paidBack ∧ 0 < h.platformFeeCents then
        [⟨.platformRevenue, .debit, h.platformFeeCents⟩]
      else []) ∧
    0 ≤ ReconciliationService.computeAccountBalanceCents .platformRevenue s ∧
    ∀ answers : ℕ → HttpOutcome,
      (ReconciliationService.checkInvariantC.run (.healthy answers) s).result = .ok [] := by
  intro s paidBack
  have hs : s.FeesBooked paidBack := (Store.FeesBooked.empty clock nextId intents).run calls
  have hnonneg : 0 ≤ ReconciliationService.computeAccountBalanceCents .platformRevenue s := by
    rw [ReconciliationService.platformRevenue_balance]
    exact hs.revenue_nonneg
  refine ⟨hs.net_postings, hs.distinct, ?_, hnonneg, ?_⟩
  · intro h hm
    rw [hs.reversed h hm, feeReversal]
    by_cases hid : h.id ∈ paidBack <;> simp [hid]
  · intro answers
    have hnone : ReconciliationService.findingsC
        (ReconciliationService.computeAccountBalanceCents .platformRevenue s) = [] :=
      if_neg (not_lt.mpr hnonneg)
    simp [ReconciliationService.checkInvariantC, Resumption.run_bind, Resumption.Run.andThen, hnone]

end GearshPayments
