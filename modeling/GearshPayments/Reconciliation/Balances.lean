import GearshPayments.PayFast.Client
import Mathlib.Data.List.Dedup

/-!
# Reconciliation of balances

`reconciliation.service.ts`: invariant A, by which the entries of every event balance, the
balance of an account, invariant B, which compares the balance of `ESCROW_LIABILITY` with
what the open holds still owe, and invariant C, by which `PLATFORM_REVENUE` is never
negative.
-/

namespace GearshPayments

open DoubleEntry

/-- The hold still owes what was captured and not refunded in part. -/
def EscrowState.holdsMoney : EscrowState → Bool
  | .held | .partiallyRefunded | .disputed => true
  | _ => false

def EscrowHold.remaining (h : EscrowHold) : ℤ := h.amountCents - h.partiallyRefundedAmountCents

/-- The postings of all ledger entries. -/
def Store.postings (s : Store) : List (Posting LedgerAccount) :=
  s.ledgerEntries.map LedgerEntry.toPosting

namespace ReconciliationService

/-- A row of invariant A's query: an event that has entries in the window, with their sums. -/
structure EventTotals where
  eventId : ℕ
  debitTotal : ℤ
  creditTotal : ℤ

/-- The entries made from the start of the window on and before its end. -/
def entriesInWindow (windowStart windowEnd : ℕ) (s : Store) : List LedgerEntry :=
  s.ledgerEntries.filter fun e ↦ windowStart ≤ e.createdAt ∧ e.createdAt < windowEnd

/-- The entries in the window, grouped by event. -/
def eventTotals (windowStart windowEnd : ℕ) (s : Store) : List EventTotals :=
  let entries := entriesInWindow windowStart windowEnd s
  (entries.map LedgerEntry.eventId).dedup.map fun eventId ↦
    let postings := (entries.filter fun e ↦ e.eventId = eventId).map LedgerEntry.toPosting
    ⟨eventId, side .debit postings, side .credit postings⟩

/-- What invariant A finds in a row. -/
def findingA (r : EventTotals) : Option ReconciliationFinding :=
  if r.debitTotal ≠ r.creditTotal then
    some
      { code := "INVARIANT_A_EVENT_IMBALANCE"
        severity := .high
        detail := s!"Event {r.eventId} has Σ DEBIT {r.debitTotal} != Σ CREDIT {r.creditTotal}."
        context := [("eventId", toString r.eventId), ("debitCents", toString r.debitTotal),
          ("creditCents", toString r.creditTotal)] }
  else none

def checkInvariantAForWindow (windowStart windowEnd : ℕ) :
    Service (List ReconciliationFinding) := do
  let rows ← Resumption.read (eventTotals windowStart windowEnd)
  return rows.filterMap findingA

/-- The balance of an account, on the side the account is kept on. -/
def computeAccountBalanceCents (account : LedgerAccount) (s : Store) : ℤ :=
  let debit := total account .debit s.postings
  let credit := total account .credit s.postings
  if account = .payfastSettlement ∨ account = .clientFunds then debit - credit
  else credit - debit

/-- The holds that invariant B reads. -/
def openHolds (s : Store) : List EscrowHold := s.escrowHolds.filter fun h ↦ h.state.holdsMoney

/-- The comparison of invariant B, from what its two queries returned. -/
def compareB (alertThresholdCents : ℤ) (ledger : ℤ) (holds : List EscrowHold) :
    List ReconciliationFinding :=
  let heldRemaining := holds.foldl (fun sum h ↦ sum + h.remaining) 0
  let drift := ledger - heldRemaining
  let absDrift := if drift < 0 then -drift else drift
  if absDrift > 0 then
    [{ code := "INVARIANT_B_ESCROW_LIABILITY_DRIFT"
       severity := if absDrift > alertThresholdCents then .high else .low
       detail := s!"ESCROW_LIABILITY ledger balance {ledger} differs from held funds {heldRemaining} by {drift}."
       context := [("ledgerBalanceCents", toString ledger), ("heldFundsCents", toString heldRemaining),
        ("driftCents", toString drift), ("thresholdCents", toString alertThresholdCents)] }]
  else []

def checkInvariantB (alertThresholdCents : ℤ) : Service (List ReconciliationFinding) := do
  let ledger ← Resumption.read (computeAccountBalanceCents .escrowLiability)
  let holds ← Resumption.read openHolds
  return compareB alertThresholdCents ledger holds

/-- What invariant C finds, from the balance. -/
def findingsC (revenue : ℤ) : List ReconciliationFinding :=
  if revenue < 0 then
    [{ code := "INVARIANT_C_PLATFORM_REVENUE_NEGATIVE"
       severity := .high
       detail := s!"Net PLATFORM_REVENUE ledger balance is negative: {revenue}."
       context := [("netRevenueCents", toString revenue)] }]
  else []

def checkInvariantC : Service (List ReconciliationFinding) := do
  let revenue ← Resumption.read (computeAccountBalanceCents .platformRevenue)
  return findingsC revenue

/-- `ESCROW_LIABILITY` is kept on its credit side. -/
theorem escrowLiability_balance (s : Store) :
    computeAccountBalanceCents .escrowLiability s = net .escrowLiability s.postings := by
  rw [computeAccountBalanceCents, if_neg (by decide), net]

/-- So is `PLATFORM_REVENUE`. -/
theorem platformRevenue_balance (s : Store) :
    computeAccountBalanceCents .platformRevenue s = net .platformRevenue s.postings := by
  rw [computeAccountBalanceCents, if_neg (by decide), net]

theorem foldl_remaining (holds : List EscrowHold) (c : ℤ) :
    holds.foldl (fun sum h ↦ sum + h.remaining) c = c + (holds.map EscrowHold.remaining).sum := by
  induction holds generalizing c with
  | nil => simp
  | cons h holds ih => rw [List.foldl_cons, ih, List.map_cons, List.sum_cons, add_assoc]

/-- The comparison reports nothing exactly when the two sums agree. -/
theorem compareB_eq_nil_iff {alertThresholdCents ledger : ℤ} {holds : List EscrowHold} :
    compareB alertThresholdCents ledger holds = [] ↔
      ledger = (holds.map EscrowHold.remaining).sum := by
  unfold compareB
  simp only [foldl_remaining, zero_add]
  generalize (holds.map EscrowHold.remaining).sum = sum
  by_cases hl : ledger = sum
  · simp [hl]
  · have hd : (if ledger - sum < 0 then -(ledger - sum) else ledger - sum) > 0 := by
      split <;> omega
    rw [if_pos hd]
    simp [hl]

end ReconciliationService

end GearshPayments
