import GearshPayments.Escrow.Conservation
import GearshPayments.System

/-!
# A hold that has been refunded in full

`partialRefund` admits the amount that remains of a hold, and the transition table, which
knows nothing of amounts, leaves the hold `PARTIALLY_REFUNDED` all the same: it can still be
frozen, or released with nothing to pay.  No other operation adds to what a hold has
refunded (`EscrowOp.returned_of_work`), so a hold that has refunded all it held is `REFUNDED`
along a run exactly when no partial refund of the run takes all that remains
(`exhausted_refunded_iff`).
-/

namespace GearshPayments

open EscrowService

/-- The hold held something and has refunded all of it. -/
def EscrowHold.Exhausted (h : EscrowHold) : Prop :=
  0 < h.amountCents ∧ h.partiallyRefundedAmountCents = h.amountCents

/-- Every hold that has refunded all it held is `REFUNDED`. -/
def Store.ExhaustedRefunded (s : Store) : Prop :=
  ∀ h ∈ s.escrowHolds, h.Exhausted → h.state = .refunded

/-! ## What an operation adds to the running total -/

namespace EscrowOp

/-- What the operation adds to what its hold has refunded. -/
def partialCents : EscrowOp → ℤ
  | partialRefund _ refundCents _ => refundCents
  | _ => 0

/-- The operation is a partial refund that goes through and leaves nothing of its hold. -/
def TakesRest (s : Store) : EscrowOp → Prop
  | partialRefund id refundCents opts =>
      opts.refundId.all (fun id ↦ (s.refund? id).isSome) = true ∧
      ∃ hold, s.escrowHold? id = some hold ∧
        (hold.state = .held ∨ hold.state = .partiallyRefunded) ∧
        0 < refundCents ∧ refundCents = hold.remaining
  | _ => False

theorem partialCents_nonneg {op : EscrowOp} (h : op.Valid) : 0 ≤ op.partialCents := by
  cases op with
  | partialRefund id refundCents opts =>
      have : 0 < refundCents := h
      exact this.le
  | _ => exact le_rfl

/-- The running total of a hold grows by the partial refund, if the operation is one. -/
theorem returned_of_work {op : EscrowOp} {hold : EscrowHold} {target : EscrowState} {now : ℕ}
    {w : Writes} (hw : op.work hold target now = .ok w) :
    (w.update hold).partiallyRefundedAmountCents =
      hold.partiallyRefundedAmountCents + op.partialCents := by
  cases op with
  | release id opts =>
      obtain ⟨-, rfl⟩ := of_guard_ok hw
      exact (add_zero _).symm
  | partialRefund id refundCents opts =>
      obtain ⟨-, rfl⟩ := of_guard_ok hw
      rfl
  | resolveSplit id artist client opts =>
      obtain ⟨-, rfl⟩ := of_guard_ok hw
      exact (add_zero _).symm
  | _ =>
      cases hw
      exact (add_zero _).symm

namespace Commits

variable {op : EscrowOp} {s : Store} {hold : EscrowHold} {target : EscrowState} {w : Writes}
  {entries : List LedgerEntryInput}

/-- An operation leaves a hold exhausted that was not exactly when it is a partial refund of all
that remains. -/
theorem exhausted_iff (hc : op.Commits s hold target w entries) (hs : s.Conserved)
    (hne : ¬hold.Exhausted) :
    (w.update hold).Exhausted ↔ 0 < op.partialCents ∧ op.partialCents = hold.remaining := by
  have hcents := partialCents_nonneg hc.valid
  obtain ⟨h0, -⟩ := hs.bounds hc.mem
  rw [EscrowHold.Exhausted, returned_of_work hc.work, (update_of_work hc.work hold).2.amountCents,
    EscrowHold.remaining]
  rw [EscrowHold.Exhausted] at hne
  omega

/-- An operation that commits is a partial refund of all that remains exactly when it adds
that much to the running total. -/
theorem takesRest_iff (hc : op.Commits s hold target w entries) :
    op.TakesRest s ↔ 0 < op.partialCents ∧ op.partialCents = hold.remaining := by
  have hfound := hc.found
  cases op with
  | partialRefund id refundCents opts =>
      obtain ⟨-, rfl⟩ := of_guard_ok hc.work
      constructor
      · rintro ⟨-, h, hh, -, hcents⟩
        cases hh.symm.trans hfound
        exact hcents
      · intro hcents
        exact ⟨hc.refund, hold, hfound, source_of_legal hc.legal, hcents⟩
  | _ => exact ⟨False.elim, fun h ↦ absurd h.1 (lt_irrefl _)⟩

/-- No operation is legal on a hold that is `REFUNDED`. -/
theorem source_ne_refunded (hc : op.Commits s hold target w entries) :
    hold.state ≠ .refunded := by
  intro h
  have hlegal := hc.legal
  rw [h, transitions_of_isTerminal (isTerminal_iff.mpr (.inr rfl))] at hlegal
  cases hlegal

/-- A partial refund leaves its hold `PARTIALLY_REFUNDED`, whatever it leaves of it. -/
theorem target_of_partialCents (hc : op.Commits s hold target w entries)
    (h : 0 < op.partialCents) : (w.update hold).state = .partiallyRefunded := by
  rw [(update_of_work hc.work hold).1]
  cases op with
  | partialRefund id refundCents opts => exact target_of_legal hc.legal
  | _ => exact absurd h (lt_irrefl _)

/-- A commit keeps the exhausted holds `REFUNDED` exactly when it takes no rest. -/
theorem exhaustedRefunded_iff (config : BusinessConfig) (hc : op.Commits s hold target w entries)
    (hs : s.Conserved) (h : s.ExhaustedRefunded) :
    (w.commit config hold entries s).ExhaustedRefunded ↔ ¬op.TakesRest s := by
  have hne : ¬hold.Exhausted := fun he ↦ hc.source_ne_refunded (h hold hc.mem he)
  have hrow : w.update hold ∈ (w.commit config hold entries s).escrowHolds :=
    Table.mem_update.mpr ⟨hold, hc.mem, (if_pos rfl).symm⟩
  rw [hc.takesRest_iff, ← hc.exhausted_iff hs hne]
  constructor
  · intro h' he
    have htakes := (hc.exhausted_iff hs hne).mp he
    cases (hc.target_of_partialCents htakes.1).symm.trans (h' _ hrow he)
  · intro hno x hx he
    obtain ⟨y, hy, rfl⟩ := Table.mem_update.mp hx
    by_cases hk : y.id = hold.id
    · obtain rfl : y = hold := List.inj_on_of_nodup_map hs.distinct hy hc.mem hk
      rw [if_pos rfl] at he
      exact absurd he hno
    · rw [if_neg hk] at he ⊢
      exact h y hy he

end Commits

/-- A partial refund of all that remains commits. -/
theorem TakesRest.commits {op : EscrowOp} {s : Store} (h : op.TakesRest s) (hs : s.Conserved) :
    ∃ hold target w entries, op.Commits s hold target w entries := by
  cases op with
  | partialRefund id refundCents opts =>
      obtain ⟨hrefund, hold, hfound, hopen, hpos, hrest⟩ := h
      obtain ⟨h0, -⟩ := hs.bounds (Table.find_some hfound).1
      rw [EscrowHold.remaining] at hrest
      have hlegal : transitions hold.state .partialRefund = some .partiallyRefunded := by
        rcases hopen with ho | ho <;> rw [ho] <;> rfl
      have hwork : (partialRefund id refundCents opts).work hold .partiallyRefunded s.clock =
          .ok _ := if_neg (by omega)
      have hbuilt : LedgerService.buildRefundEntries hold.snapshot refundCents opts.faultParty
          false = .ok _ := LedgerService.buildRefundEntries_eq_ok_iff.mpr
        ⟨hpos.le, show refundCents ≤ hold.amountCents by omega, rfl⟩
      exact ⟨hold, _, _, _, hpos, hfound, hlegal, hwork, hrefund, hbuilt,
        LedgerService.sound_buildRefundEntries hbuilt⟩
  | _ => exact h.elim

end EscrowOp

/-! ## One call -/

/-- The call is a partial refund that goes through and leaves nothing of its hold. -/
def EscrowCall.TakesRest (s : Store) : EscrowCall → Prop
  | .escrow op => op.TakesRest s
  | _ => False

/-- A hold that has just been captured has refunded nothing. -/
theorem CommitArgs.exhaustedRefunded_captured {args : CommitArgs} {zarFee : ℤ} {s : Store}
    (h : s.ExhaustedRefunded) : (args.captured zarFee s).ExhaustedRefunded := by
  intro x hx he
  rcases List.mem_append.mp hx with hx | hx
  · exact h x hx he
  · obtain ⟨hpos, hall⟩ := he
    rw [List.mem_singleton.mp hx] at hpos hall
    exact absurd hall hpos.ne

/-- A call keeps the exhausted holds `REFUNDED` exactly when it takes no rest. -/
theorem EscrowCall.exhaustedRefunded_iff (config : BusinessConfig) {s : Store} (hs : s.Conserved)
    (h : s.ExhaustedRefunded) (c : EscrowCall) :
    (c.step config s).ExhaustedRefunded ↔ ¬c.TakesRest s := by
  cases c with
  | capture args zarFee =>
      refine iff_of_true ?_ id
      refine Tx.transact_invariant (I := Store.ExhaustedRefunded) (fun _ s' hx ↦ ?_) h
      rcases PayFastWebhookService.of_commitComplete_ok hx with ⟨-, rfl⟩ | ⟨-, rfl⟩
      · exact h
      · exact CommitArgs.exhaustedRefunded_captured h
  | escrow op =>
      cases hx : op.exec config s with
      | error e =>
          rw [EscrowCall.step, Tx.transact_error hx]
          refine iff_of_true h fun ht ↦ ?_
          obtain ⟨hold, target, w, entries, hc⟩ := EscrowOp.TakesRest.commits ht hs
          rw [hc.exec_eq] at hx
          cases hx
      | ok r =>
          obtain ⟨hold', s'⟩ := r
          obtain ⟨hold, target, w, entries, hc, -, rfl⟩ := EscrowOp.commits_of_exec_eq hx
          rw [EscrowCall.step, Tx.transact_ok hx]
          exact hc.exhaustedRefunded_iff config hs h
  | tick clock => exact iff_of_true h id

/-! ## Runs -/

/-- Along a run of captures and operations every hold that has refunded all it held is
`REFUNDED`, exactly when no partial refund of the run takes all that remains of its hold. -/
theorem exhausted_refunded_iff (config : BusinessConfig) (clock nextId : ℕ)
    (intents : List PaymentIntent) (calls : List EscrowCall) :
    (∀ calls', calls' <+: calls →
      let s := Transition.run (EscrowCall.step config) (Store.empty clock nextId intents) calls'
      ∀ h ∈ s.escrowHolds, 0 < h.amountCents → h.partiallyRefundedAmountCents = h.amountCents →
        h.state = .refunded) ↔
    Transition.Along (EscrowCall.step config) (fun s c ↦ ¬c.TakesRest s)
      (Store.empty clock nextId intents) calls := by
  have hempty : (Store.empty clock nextId intents).ExhaustedRefunded :=
    fun _ hm ↦ absurd hm List.not_mem_nil
  have hrun := Transition.Along.iff_invariant_of (T := fun _ _ ↦ True) (J := Store.Conserved)
    (fun s c _ ↦ EscrowCall.conserved config s c)
    (fun s c _ hs h ↦ EscrowCall.exhaustedRefunded_iff config hs h c)
    (.empty clock nextId intents) hempty (.of_forall (fun _ _ ↦ trivial) _ calls)
  rw [hrun]
  constructor
  · intro h calls' hp x hx he
    exact h calls' hp x hx he.1 he.2
  · intro h calls' hp s x hx hpos hall
    exact h calls' hp x hx ⟨hpos, hall⟩

/-- Two partial refunds give back the whole hold between them, and it is released with nothing
to pay. -/
theorem exhausted_released :
    ¬∀ (config : BusinessConfig) (clock nextId : ℕ) (intents : List PaymentIntent)
      (calls : List EscrowCall),
      let s := Transition.run (EscrowCall.step config) (Store.empty clock nextId intents) calls
      ∀ h ∈ s.escrowHolds, 0 < h.amountCents → h.partiallyRefundedAmountCents = h.amountCents →
        h.state = .refunded := by
  intro h
  have hreleased := h Sample.config.business 0 10 [Sample.intent]
    [.capture Sample.payment 100, .escrow (.partialRefund 11 400 { faultParty := .client }),
      .escrow (.partialRefund 11 500 { faultParty := .client }), .escrow (.release 11 {})]
    { Sample.payment.hold 100 11 0 with
      state := .released
      partiallyRefundedAmountCents := 900
      releasedAt := some 0
      refundedAt := some 0 } (.head _) (by decide) rfl
  cases hreleased

end GearshPayments
