import GearshPayments.Escrow.Records

/-!
# Every captured cent is owed to one party

What was captured for a hold is at every time divided between the client, to whom
`REFUNDS_ISSUED` entries owe it, the artist, to whom a payout owes it, and the hold
itself.  An operation moves an amount out of the hold, and its work decides how much
of that goes to whom (`EscrowOp.Commits.parts`); since only an open hold can be
operated on and an open hold has no payout yet, there is never a second one.
-/

namespace GearshPayments

open DoubleEntry EscrowService

/-- What entries owe the client, not counting a platform fee that is paid back. -/
def toClient (entries : List LedgerEntryInput) : ℤ :=
  total .refundsIssued .credit entries - total .platformRevenue .debit entries

/-- What entries owe the artist. -/
def toArtist (entries : List LedgerEntryInput) : ℤ := total .artistPayable .credit entries

@[simp] theorem toClient_append (es es' : List LedgerEntryInput) :
    toClient (es ++ es') = toClient es + toClient es' := by
  simp only [toClient, total_append]
  ring

@[simp] theorem toArtist_append (es es' : List LedgerEntryInput) :
    toArtist (es ++ es') = toArtist es + toArtist es' := total_append ..

/-- What is still in the hold. -/
def EscrowHold.openCents (h : EscrowHold) : ℤ := if h.state.holdsMoney then h.remaining else 0

/-- The payouts of a hold, in cents. -/
def HoldRecords.payoutCents (r : HoldRecords) : ℤ := (r.payouts.map Payout.amountCents).sum

/-! ## Where an operation sends its amount -/

theorem toClient_refundEntries {hold : HoldSnapshot} {refundCents : ℤ} {faultParty : FaultParty}
    {refundIsFull : Bool} {entries : List LedgerEntryInput}
    (h : LedgerService.buildRefundEntries hold refundCents faultParty refundIsFull = .ok entries) :
    toClient entries = refundCents ∧ toArtist entries = 0 := by
  obtain ⟨-, -, rfl⟩ := LedgerService.buildRefundEntries_eq_ok_iff.mp h
  split <;> simp [toClient, toArtist]

theorem toClient_releaseEntries (amountCents : ℤ) :
    toClient (LedgerService.buildReleaseEntriesForAmount amountCents) = 0 ∧
      toArtist (LedgerService.buildReleaseEntriesForAmount amountCents) = amountCents := by
  simp [toClient, toArtist, LedgerService.buildReleaseEntriesForAmount]

theorem toClient_splitEntries {hold : HoldSnapshot} {artistCents clientCents : ℤ}
    {entries : List LedgerEntryInput}
    (h : LedgerService.buildSplitEntries hold artistCents clientCents = .ok entries) :
    toClient entries = clientCents ∧ toArtist entries = artistCents := by
  obtain ⟨-, -, -, rfl⟩ := LedgerService.buildSplitEntries_eq_ok_iff.mp h
  simp [toClient, toArtist]

/-- The payout queued for an amount is for that amount. -/
theorem sum_queuedPayouts {amountCents : ℤ} (h : 0 ≤ amountCents) (config : BusinessConfig)
    (hold : EscrowHold) (id now : ℕ) :
    ((queuedPayouts config hold amountCents id now).map Payout.amountCents).sum = amountCents := by
  unfold queuedPayouts
  split
  · rename_i hle
    rw [List.map_nil, List.sum_nil]
    exact le_antisymm h hle
  · rw [List.map_cons, List.map_nil, List.sum_cons, List.sum_nil, add_zero]
    rfl

theorem length_queuedPayouts_le (config : BusinessConfig) (hold : EscrowHold) (amountCents : ℤ)
    (id now : ℕ) : (queuedPayouts config hold amountCents id now).length ≤ 1 := by
  unfold queuedPayouts
  split
  · exact Nat.zero_le 1
  · exact le_refl 1

/-- How an operation divides what it takes out of the hold. -/
structure Parts (hold : EscrowHold) (w : Writes) (entries : List LedgerEntryInput) : Prop where
  /-- Only an open hold is operated on. -/
  wasOpen : hold.state.holdsMoney = true
  nonneg : 0 ≤ w.payout
  /-- The artist is owed what is paid out. -/
  artist : toArtist entries = w.payout
  /-- Nothing is paid out of a hold that stays open. -/
  stays : (w.update hold).state.holdsMoney = true → w.payout = 0
  /-- Client, artist and hold share what the hold had. -/
  whole : toClient entries + w.payout + (w.update hold).openCents = hold.openCents

namespace EscrowOp.Commits

variable {config : BusinessConfig} {op : EscrowOp} {s : Store} {hold : EscrowHold}
  {target : EscrowState} {w : Writes} {entries : List LedgerEntryInput}

/-- An operation that ends a hold divides what remains between client and artist. -/
theorem parts_of_closed (hc : op.Commits s hold target w entries)
    (ho : hold.state.holdsMoney = true) (ht : target.holdsMoney = false) (h0 : 0 ≤ w.payout)
    (hartist : toArtist entries = w.payout)
    (hwhole : toClient entries + w.payout = hold.remaining) : Parts hold w entries := by
  have hstate := (update_of_work hc.work hold).1
  refine ⟨ho, h0, hartist, ?_, ?_⟩
  · intro h
    rw [hstate, ht] at h
    cases h
  · rw [EscrowHold.openCents, EscrowHold.openCents, hstate, ht, if_pos ho, hwhole]
    exact add_zero _

/-- Every committed operation divides its amount. -/
theorem parts (hc : op.Commits s hold target w entries) {p : Pot ℤ} (hp : hold.Shows p) :
    Parts hold w entries := by
  have hrem : 0 ≤ hold.remaining := sub_nonneg.mpr hp.bounds.2
  have hsrc := source_of_legal hc.legal
  obtain rfl := target_of_legal hc.legal
  have hwork := hc.work
  have hbuilt := hc.built
  cases op with
  | release id opts =>
      obtain ⟨-, rfl⟩ := of_guard_ok hwork
      cases hbuilt
      obtain ⟨hclient, hartist⟩ := toClient_releaseEntries hold.remaining
      refine hc.parts_of_closed ?_ rfl hrem hartist ?_
      · rcases hsrc with h | h <;> rw [h] <;> rfl
      · change toClient (LedgerService.buildReleaseEntriesForAmount hold.remaining) +
          hold.remaining = _
        rw [hclient, zero_add]
  | refund id opts =>
      cases hwork
      have hs : hold.state = .held := hsrc
      obtain ⟨hclient, hartist⟩ := toClient_refundEntries hbuilt
      refine hc.parts_of_closed (by rw [hs]; rfl) rfl le_rfl hartist ?_
      rw [hclient, EscrowHold.remaining, hp.of_held hs, sub_zero]
      exact add_zero _
  | partialRefund id amount opts =>
      obtain ⟨-, rfl⟩ := of_guard_ok hwork
      obtain ⟨hclient, hartist⟩ := toClient_refundEntries hbuilt
      have ho : hold.state.holdsMoney = true := by rcases hsrc with h | h <;> rw [h] <;> rfl
      refine ⟨ho, le_rfl, hartist, fun _ ↦ rfl, ?_⟩
      rw [hclient, EscrowHold.openCents, EscrowHold.openCents, if_pos ho]
      change amount + 0 + (hold.amountCents - (hold.partiallyRefundedAmountCents + amount)) =
        hold.amountCents - hold.partiallyRefundedAmountCents
      ring
  | freeze id opts =>
      cases hwork
      cases hbuilt
      have ho : hold.state.holdsMoney = true := by rcases hsrc with h | h <;> rw [h] <;> rfl
      refine ⟨ho, le_rfl, rfl, fun _ ↦ rfl, ?_⟩
      rw [EscrowHold.openCents, EscrowHold.openCents, if_pos ho]
      exact (zero_add _).trans rfl
  | resolveRelease id opts =>
      cases hwork
      cases hbuilt
      have hs : hold.state = .disputed := hsrc
      obtain ⟨hclient, hartist⟩ := toClient_releaseEntries hold.remaining
      refine hc.parts_of_closed (by rw [hs]; rfl) rfl hrem hartist ?_
      change toClient (LedgerService.buildReleaseEntriesForAmount hold.remaining) +
        hold.remaining = _
      rw [hclient, zero_add]
  | resolveRefund id opts =>
      cases hwork
      have hs : hold.state = .disputed := hsrc
      obtain ⟨hclient, hartist⟩ := toClient_refundEntries hbuilt
      refine hc.parts_of_closed (by rw [hs]; rfl) rfl le_rfl hartist ?_
      rw [hclient]
      exact add_zero _
  | resolveSplit id artist client opts =>
      obtain ⟨hsum, rfl⟩ := of_guard_ok hwork
      have hs : hold.state = .disputed := hsrc
      obtain ⟨hclient, hartist⟩ := toClient_splitEntries hbuilt
      refine hc.parts_of_closed (by rw [hs]; rfl) rfl hc.valid.1 hartist ?_
      rw [hclient, add_comm]
      exact not_not.mp hsum

end EscrowOp.Commits

/-! ## The invariant -/

/-- A hold whose cents are all accounted for. -/
structure EscrowHold.Accounted (h : EscrowHold) (r : HoldRecords) : Prop where
  single : r.payouts.length ≤ 1
  unpaid : h.state.holdsMoney = true → r.payouts = []
  payable : toArtist r.entries = r.payoutCents
  whole : toClient r.entries + r.payoutCents + h.openCents = h.amountCents

/-- Captures and operations account for every cent. -/
theorem accounted (config : BusinessConfig) : HoldInvariant config EscrowHold.Accounted where
  captured := by
    intro args zarFee s hc
    refine ⟨Nat.zero_le 1, fun _ ↦ rfl, ?_, ?_⟩
    · simp [CommitArgs.records, CommitArgs.entries, toArtist, HoldRecords.payoutCents]
    · have hopen : (args.hold zarFee (s.nextId + 1) s.clock).openCents = args.zarAmount - zarFee :=
        sub_zero _
      rw [hopen]
      simp [CommitArgs.records, CommitArgs.entries, toClient, HoldRecords.payoutCents,
        CommitArgs.hold]
  committed := by
    intro op s hold target w entries p r hc hp hr
    have hparts := hc.parts hp
    have hnone := hr.unpaid hparts.wasOpen
    have hcents : r.payoutCents = 0 := by
      rw [HoldRecords.payoutCents, hnone]
      rfl
    have hpayouts : (w.extend config hold entries s r).payouts = w.queued config hold s := by
      rw [Writes.extend, hnone, List.map_nil, ite_self, List.nil_append]
    have hqueued : (w.extend config hold entries s r).payoutCents = w.payout := by
      rw [HoldRecords.payoutCents, hpayouts]
      exact sum_queuedPayouts hparts.nonneg ..
    refine ⟨?_, ?_, ?_, ?_⟩
    · rw [hpayouts]
      exact length_queuedPayouts_le ..
    · intro ho
      rw [hpayouts, Writes.queued, hparts.stays ho]
      rfl
    · change toArtist (r.entries ++ entries) = _
      rw [toArtist_append, hr.payable, hcents, hparts.artist, hqueued, zero_add]
    · change toClient (r.entries ++ entries) + _ + _ = _
      rw [toClient_append, hqueued, (EscrowOp.update_of_work hc.work hold).2.amountCents,
        ← hr.whole,
        hcents, ← hparts.whole]
      ring

/-- In every store that captures and operations reach, a hold has at most one payout,
the ledger owes the artist what is paid out, and client, artist and hold share what was
captured. -/
theorem cents_owed_once (config : BusinessConfig) (clock nextId : ℕ) (intents : List PaymentIntent)
    (calls : List EscrowCall) :
    let s := Transition.run (EscrowCall.step config) (Store.empty clock nextId intents) calls
    ∀ h ∈ s.escrowHolds,
      (s.payoutsOf h.id).length ≤ 1 ∧
      total .artistPayable .credit (s.entriesOf h.id) =
        ((s.payoutsOf h.id).map Payout.amountCents).sum ∧
      (total .refundsIssued .credit (s.entriesOf h.id) -
          total .platformRevenue .debit (s.entriesOf h.id)) +
        ((s.payoutsOf h.id).map Payout.amountCents).sum +
        (match h.state with
          | .held | .partiallyRefunded | .disputed => h.amountCents - h.partiallyRefundedAmountCents
          | .released | .refunded => 0) = h.amountCents := by
  intro s h hm
  have hacc := ((accounted config).of_run clock nextId intents calls).holds h hm
  refine ⟨hacc.single, hacc.payable, Eq.trans ?_ hacc.whole⟩
  refine congrArg _ ?_
  rw [EscrowHold.openCents]
  cases h.state <;> rfl

end GearshPayments
