import GearshPayments.Escrow.Owed

/-!
# The accounts of a hold

A capture books what was paid as settled by the gateway, owed and earned; an operation books from
`ESCROW_LIABILITY` and from the fee to the artist and to the client.  So some sides of the accounts
are never booked on (`bookedSides`), the settlement of a hold is what was paid for it, and all its
entries balance together (`EscrowHold.InBooks`).
-/

namespace GearshPayments

open DoubleEntry EscrowService

/-- The sides of the accounts that operations book on. -/
def operationSides : List (LedgerAccount × Side) :=
  [(.escrowLiability, .debit), (.artistPayable, .credit), (.refundsIssued, .credit),
    (.platformRevenue, .debit)]

/-- All sides of accounts that are booked on. -/
def bookedSides : List (LedgerAccount × Side) :=
  [(.payfastSettlement, .debit), (.escrowLiability, .credit), (.platformRevenue, .credit)] ++
    operationSides

section Sides

variable {ps : List LedgerEntryInput} {sides : List (LedgerAccount × Side)}

/-- Nothing is summed on a side that is not booked on. -/
theorem total_of_sides (h : ∀ e ∈ ps, (e.account, e.direction) ∈ sides) {a : LedgerAccount}
    {d : Side} (hside : (a, d) ∉ sides) : total a d ps = 0 := by
  refine total_eq_zero fun e he ↦ ?_
  rintro ⟨rfl, rfl⟩
  exact hside (h e he)

theorem sides_refundEntries {hold : HoldSnapshot} {refundCents : ℤ} {faultParty : FaultParty}
    {refundIsFull : Bool}
    (h : LedgerService.buildRefundEntries hold refundCents faultParty refundIsFull = .ok ps) :
    ∀ e ∈ ps, (e.account, e.direction) ∈ operationSides := by
  obtain ⟨-, -, rfl⟩ := LedgerService.buildRefundEntries_eq_ok_iff.mp h
  split <;> simp [operationSides]

theorem sides_releaseEntries (amountCents : ℤ) :
    ∀ e ∈ LedgerService.buildReleaseEntriesForAmount amountCents,
      (e.account, e.direction) ∈ operationSides := by
  simp [LedgerService.buildReleaseEntriesForAmount, operationSides]

theorem sides_splitEntries {hold : HoldSnapshot} {artistCents clientCents : ℤ}
    (h : LedgerService.buildSplitEntries hold artistCents clientCents = .ok ps) :
    ∀ e ∈ ps, (e.account, e.direction) ∈ operationSides := by
  obtain ⟨-, -, -, rfl⟩ := LedgerService.buildSplitEntries_eq_ok_iff.mp h
  simp [operationSides]

end Sides

/-- An operation books on no other sides. -/
theorem EscrowOp.Commits.sides {op : EscrowOp} {s : Store} {hold : EscrowHold}
    {target : EscrowState} {w : Writes} {entries : List LedgerEntryInput}
    (hc : op.Commits s hold target w entries) :
    ∀ e ∈ entries, (e.account, e.direction) ∈ operationSides := by
  have hwork := hc.work
  have hbuilt := hc.built
  cases op with
  | release id opts =>
      obtain ⟨-, rfl⟩ := of_guard_ok hwork
      cases hbuilt
      exact sides_releaseEntries _
  | refund id opts =>
      cases hwork
      exact sides_refundEntries hbuilt
  | partialRefund id amount opts =>
      obtain ⟨-, rfl⟩ := of_guard_ok hwork
      exact sides_refundEntries hbuilt
  | freeze id opts =>
      cases hwork
      cases hbuilt
      exact fun e he ↦ absurd he List.not_mem_nil
  | resolveRelease id opts =>
      cases hwork
      cases hbuilt
      exact sides_releaseEntries _
  | resolveRefund id opts =>
      cases hwork
      exact sides_refundEntries hbuilt
  | resolveSplit id artist client opts =>
      obtain ⟨-, rfl⟩ := of_guard_ok hwork
      exact sides_splitEntries hbuilt

/-- A hold whose cents are all accounted for, with entries that balance. -/
structure EscrowHold.InBooks (h : EscrowHold) (r : HoldRecords) : Prop extends h.Accounted r where
  sound : Sound r.entries
  sides : ∀ e ∈ r.entries, (e.account, e.direction) ∈ bookedSides
  settled : total .payfastSettlement .debit r.entries = h.amountCents + h.platformFeeCents

/-- Captures put a hold in the books and operations keep it there. -/
theorem inBooks (config : BusinessConfig) : HoldInvariant config EscrowHold.InBooks where
  captured := by
    intro args zarFee s hc
    refine ⟨(accounted config).captured hc, hc.sound, ?_, ?_⟩
    · simp [CommitArgs.records, CommitArgs.entries, bookedSides]
    · simp [CommitArgs.records, CommitArgs.entries, CommitArgs.hold]
  committed := by
    intro op s hold target w entries p r hc hp hr
    have hterms := (EscrowOp.update_of_work hc.work hold).2
    refine ⟨(accounted config).committed hc hp hr.toAccounted, hr.sound.append hc.sound, ?_, ?_⟩
    · refine List.forall_mem_append.mpr ⟨hr.sides, fun e he ↦ ?_⟩
      exact List.mem_append_right _ (hc.sides e he)
    · have hnone : total .payfastSettlement .debit entries = 0 :=
        total_of_sides hc.sides (by decide)
      change total .payfastSettlement .debit (r.entries ++ entries) = _
      rw [total_append, hr.settled, hnone, add_zero, hterms.amountCents, hterms.platformFeeCents]

end GearshPayments
