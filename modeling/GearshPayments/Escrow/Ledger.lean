import GearshPayments.Problem
import GearshPayments.Store.Schema

/-!
# Ledger entries

`ledger.service.ts`: the entries each kind of money movement is booked with, and
the balance check every list of entries passes before it is written.  The loop
of `assertBalanced` accepts exactly the sound lists of postings
(`assertBalanced_eq_ok_iff`), and every builder that returns at all returns one,
provided its amounts are not negative.
-/

namespace GearshPayments

open DoubleEntry

/-- The `account`, `direction` and `amountCents` of an entry. -/
abbrev LedgerEntryInput := Posting LedgerAccount

inductive FaultParty where
  | client | artist | split
deriving DecidableEq, Repr

/-- The fault party, as the data of an event spells it. -/
def FaultParty.name : FaultParty → String
  | .client => "CLIENT"
  | .artist => "ARTIST"
  | .split => "SPLIT"

/-- The fields of a hold that the builders need. -/
structure HoldSnapshot where
  amountCents : ℤ
  platformFeeCents : ℤ

def EscrowHold.snapshot (hold : EscrowHold) : HoldSnapshot :=
  ⟨hold.amountCents, hold.platformFeeCents⟩

namespace LedgerService

/-- Release a given amount to the artist. -/
def buildReleaseEntriesForAmount (amountCents : ℤ) : List LedgerEntryInput :=
  [⟨.escrowLiability, .debit, amountCents⟩, ⟨.artistPayable, .credit, amountCents⟩]

/-- Refund an amount to the client; a full refund with the artist at fault also
reverses the platform fee. -/
def buildRefundEntries (hold : HoldSnapshot) (refundCents : ℤ) (faultParty : FaultParty)
    (refundIsFull : Bool) : Except Failure (List LedgerEntryInput) :=
  if refundCents < 0 then
    .error (.withDetail .ledgerImbalance "Refund amount must be non-negative.")
  else if refundCents > hold.amountCents then
    .error (.withDetail .refundExceedsCapture
      s!"Refund amount {refundCents} exceeds held amount {hold.amountCents}.")
  else
    let entries := [⟨.escrowLiability, .debit, refundCents⟩, ⟨.refundsIssued, .credit, refundCents⟩]
    if faultParty = .artist ∧ refundIsFull ∧ hold.platformFeeCents > 0 then
      .ok (entries ++ [⟨.platformRevenue, .debit, hold.platformFeeCents⟩,
        ⟨.refundsIssued, .credit, hold.platformFeeCents⟩])
    else .ok entries

/-- Split the held amount between artist and client. -/
def buildSplitEntries (hold : HoldSnapshot) (artistCents clientCents : ℤ) :
    Except Failure (List LedgerEntryInput) :=
  if artistCents < 0 ∨ clientCents < 0 then
    .error (.withDetail .ledgerImbalance "Split amounts must be non-negative.")
  else if artistCents + clientCents ≠ hold.amountCents then
    .error (.withDetail .businessRuleViolation
      s!"Split components (artistCents={artistCents} + clientCents={clientCents}) must equal hold.amountCents ({hold.amountCents}).")
  else .ok [⟨.escrowLiability, .debit, hold.amountCents⟩, ⟨.artistPayable, .credit, artistCents⟩,
    ⟨.refundsIssued, .credit, clientCents⟩]

/-- The loop of `assertBalanced`, with the sums so far. -/
def assertBalancedFrom (debits credits : ℤ) : List LedgerEntryInput → Except Failure Unit
  | [] =>
    if debits ≠ credits then
      .error (.withDetail .ledgerImbalance s!"Σ DEBITS ({debits}) != Σ CREDITS ({credits}).")
    else .ok ()
  | e :: es =>
    if e.amount < 0 then
      .error (.withDetail .ledgerImbalance "Ledger entries must have non-negative amountCents.")
    else if e.direction = .debit then assertBalancedFrom (debits + e.amount) credits es
    else assertBalancedFrom debits (credits + e.amount) es

def assertBalanced (entries : List LedgerEntryInput) : Except Failure Unit :=
  assertBalancedFrom 0 0 entries

/-! ## The balance check accepts the sound lists -/

theorem assertBalancedFrom_eq_ok_iff {debits credits : ℤ} {entries : List LedgerEntryInput} :
    assertBalancedFrom debits credits entries = .ok () ↔
      (∀ e ∈ entries, 0 ≤ e.amount) ∧ debits + side .debit entries = credits + side .credit entries
    := by
  induction entries generalizing debits credits with
  | nil =>
      rw [assertBalancedFrom]
      split <;> simp_all
  | cons e es ih =>
      obtain ⟨account, direction, amount⟩ := e
      rw [assertBalancedFrom]
      by_cases hneg : amount < 0
      · simp [hneg]
      · have hnn : 0 ≤ amount := not_lt.mp hneg
        cases direction with
        | debit => simp [hneg, ih, hnn, add_assoc]
        | credit => simp [hneg, ih, hnn, add_assoc]

/-- The check passes exactly the sound lists of entries. -/
theorem assertBalanced_eq_ok_iff {entries : List LedgerEntryInput} :
    assertBalanced entries = .ok () ↔ Sound entries := by
  rw [assertBalanced, assertBalancedFrom_eq_ok_iff, zero_add, zero_add]
  exact ⟨fun h ↦ ⟨h.1, h.2⟩, fun h ↦ ⟨h.nonneg, h.balanced⟩⟩

/-! ## The builders -/

theorem net_buildReleaseEntriesForAmount (amountCents : ℤ) :
    net .escrowLiability (buildReleaseEntriesForAmount amountCents) = -amountCents := by
  simp [buildReleaseEntriesForAmount, Posting.effect]

theorem sound_buildReleaseEntriesForAmount {amountCents : ℤ} (h : 0 ≤ amountCents) :
    Sound (buildReleaseEntriesForAmount amountCents) := by
  refine ⟨?_, ?_⟩
  · simpa [buildReleaseEntriesForAmount] using h
  · simp [buildReleaseEntriesForAmount]

/-- What a refund is booked with, in full. -/
theorem buildRefundEntries_eq_ok_iff {hold : HoldSnapshot} {refundCents : ℤ}
    {faultParty : FaultParty} {refundIsFull : Bool} {entries : List LedgerEntryInput} :
    buildRefundEntries hold refundCents faultParty refundIsFull = .ok entries ↔
      0 ≤ refundCents ∧ refundCents ≤ hold.amountCents ∧
      entries = [⟨.escrowLiability, .debit, refundCents⟩, ⟨.refundsIssued, .credit, refundCents⟩] ++
        if faultParty = .artist ∧ refundIsFull ∧ hold.platformFeeCents > 0 then
          [⟨.platformRevenue, .debit, hold.platformFeeCents⟩,
            ⟨.refundsIssued, .credit, hold.platformFeeCents⟩]
        else [] := by
  unfold buildRefundEntries
  by_cases hneg : refundCents < 0
  · simp [hneg, not_le.mpr hneg]
  · by_cases hmax : refundCents > hold.amountCents
    · simp [hneg, hmax, not_le.mpr hmax]
    · have h0 := not_lt.mp hneg
      have h1 := not_lt.mp hmax
      rw [if_neg hneg, if_neg hmax]
      split <;> simp [h0, h1, eq_comm]

/-- A refund takes its amount out of escrow, whatever it does to the fee. -/
theorem net_buildRefundEntries {hold : HoldSnapshot} {refundCents : ℤ}
    {faultParty : FaultParty} {refundIsFull : Bool} {entries : List LedgerEntryInput}
    (h : buildRefundEntries hold refundCents faultParty refundIsFull = .ok entries) :
    net .escrowLiability entries = -refundCents := by
  obtain ⟨-, -, rfl⟩ := buildRefundEntries_eq_ok_iff.mp h
  split <;> simp [Posting.effect]

theorem sound_buildRefundEntries {hold : HoldSnapshot} {refundCents : ℤ}
    {faultParty : FaultParty} {refundIsFull : Bool} {entries : List LedgerEntryInput}
    (h : buildRefundEntries hold refundCents faultParty refundIsFull = .ok entries) :
    Sound entries := by
  obtain ⟨h0, -, rfl⟩ := buildRefundEntries_eq_ok_iff.mp h
  split
  · rename_i hfee
    have := hfee.2.2.le
    refine ⟨?_, ?_⟩ <;> simp [h0, this]
  · refine ⟨?_, ?_⟩ <;> simp [h0]

theorem buildSplitEntries_eq_ok_iff {hold : HoldSnapshot} {artistCents clientCents : ℤ}
    {entries : List LedgerEntryInput} :
    buildSplitEntries hold artistCents clientCents = .ok entries ↔
      0 ≤ artistCents ∧ 0 ≤ clientCents ∧ artistCents + clientCents = hold.amountCents ∧
      entries = [⟨.escrowLiability, .debit, hold.amountCents⟩,
        ⟨.artistPayable, .credit, artistCents⟩,
        ⟨.refundsIssued, .credit, clientCents⟩] := by
  unfold buildSplitEntries
  by_cases hneg : artistCents < 0 ∨ clientCents < 0
  · rw [if_pos hneg]
    constructor
    · intro h
      cases h
    · rintro ⟨ha, hc, -⟩
      rcases hneg with h | h
      · exact absurd ha (not_le.mpr h)
      · exact absurd hc (not_le.mpr h)
  · have hnn := not_or.mp hneg
    rw [if_neg hneg]
    by_cases hsum : artistCents + clientCents = hold.amountCents
    · simp [hsum, not_lt.mp hnn.1, not_lt.mp hnn.2, eq_comm]
    · simp [hsum]

theorem net_buildSplitEntries {hold : HoldSnapshot} {artistCents clientCents : ℤ}
    {entries : List LedgerEntryInput}
    (h : buildSplitEntries hold artistCents clientCents = .ok entries) :
    net .escrowLiability entries = -hold.amountCents := by
  obtain ⟨-, -, -, rfl⟩ := buildSplitEntries_eq_ok_iff.mp h
  simp [Posting.effect]

theorem sound_buildSplitEntries {hold : HoldSnapshot} {artistCents clientCents : ℤ}
    {entries : List LedgerEntryInput}
    (h : buildSplitEntries hold artistCents clientCents = .ok entries) : Sound entries := by
  obtain ⟨ha, hc, hsum, rfl⟩ := buildSplitEntries_eq_ok_iff.mp h
  refine ⟨?_, ?_⟩
  · have : 0 ≤ hold.amountCents := hsum ▸ add_nonneg ha hc
    simp [ha, hc, this]
  · simp [hsum]

end LedgerService

end GearshPayments
