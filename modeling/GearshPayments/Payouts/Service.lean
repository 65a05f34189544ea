import GearshPayments.PayFast.Adhoc
import GearshPayments.Store.Tx
import Mathlib.Data.List.Sort

/-!
# Payouts: the admin's actions and the retry job

`payouts.service.ts`: an admin requeues a failed payout or cancels a queued one.  Both
read the row, check its state and then update it by id alone.

`payout-retry.job.ts`: every four hours the failed payouts whose backoff has elapsed are
requeued, one guarded update after the other.
-/

namespace GearshPayments

/-- The name of a state in messages. -/
def PayoutState.name : PayoutState → String
  | .queued => "QUEUED"
  | .processing => "PROCESSING"
  | .succeeded => "SUCCEEDED"
  | .failed => "FAILED"
  | .cancelled => "CANCELLED"

/-- `config.payouts` and `config.payfast`, and the decryption of account numbers by the
database. -/
structure PayoutsConfig where
  dispatchEnabled : Bool
  retryEnabled : Bool
  maxAttempts : ℕ
  dispatchBatchSize : ℕ
  payfast : AdhocConfig
  decrypt : String → Except Failure String

/-- The update that requeues a failed payout. -/
def Payout.requeue (p : Payout) : Payout :=
  { p with
    state := .queued
    attempts := p.attempts + 1
    failureReason := none
    failedAt := none }

/-- The update that cancels a queued payout. -/
def Payout.cancel (reason : Option String) (now : ℕ) (p : Payout) : Payout :=
  { p with
    state := .cancelled
    cancelledAt := some now
    cancellationReason := some (reason.getD "ADMIN") }

namespace PayoutsService

/-- Requeue a failed payout; a queued one is returned as it is. -/
def retry (id : ℕ) : Engine Payout := do
  match ← Resumption.read fun s ↦ s.payout? id with
  | none => throw (Failure.ofCode .notFound)
  | some row =>
    if row.state = .queued then return row
    if row.state ≠ .failed then
      throw (Failure.withDetail .illegalTransition
        s!"Payout {id} is in {row.state.name} — only FAILED payouts can be retried.")
    Resumption.transaction (Tx.updatePayout id Payout.requeue)

/-- Cancel a queued payout; a cancelled one is returned as it is. -/
def cancel (id : ℕ) (reason : Option String) : Engine Payout := do
  match ← Resumption.read fun s ↦ s.payout? id with
  | none => throw (Failure.ofCode .notFound)
  | some row =>
    if row.state = .cancelled then return row
    if row.state ≠ .queued then
      throw (Failure.withDetail .illegalTransition
        s!"Payout {id} is in {row.state.name} — only QUEUED payouts can be cancelled.")
    Resumption.transaction do
      Tx.updatePayout id (Payout.cancel reason (← Tx.now))

end PayoutsService

/-- `min(24, 2 ** attempts)`. -/
def backoffHoursFor (attempts : ℕ) : ℕ := min 24 (2 ^ attempts)

namespace PayoutRetryJob

/-- Failed payouts first come first; one without a time of failure comes last. -/
def failedBefore (p q : Payout) : Prop :=
  match p.failedAt, q.failedAt with
  | some s, some t => s ≤ t
  | none, some _ => False
  | _, none => True

instance : DecidableRel failedBefore := fun p q ↦ by
  unfold failedBefore
  split <;> infer_instance

/-- The failed payouts that have retries left. -/
def candidates (maxAttempts : ℕ) (s : Store) : List Payout :=
  (s.payouts.filter fun p ↦ p.state = .failed ∧ p.attempts < maxAttempts).insertionSort failedBefore

/-- The requeueing of one candidate. -/
def requeue (row : Payout) : Tx ℕ :=
  Tx.updateManyPayouts (fun p ↦ p.id = row.id ∧ p.state = .failed) Payout.requeue

/-- The loop over the candidates, with the number requeued so far. -/
def requeueAll (now : ℕ) : List Payout → ℕ → Engine ℕ
  | [], requeued => return requeued
  | row :: rows, requeued =>
    match row.failedAt with
    | none => requeueAll now rows requeued
    | some failedAt =>
      if failedAt + backoffHoursFor row.attempts * 60 * 60 * 1000 > now then
        requeueAll now rows requeued
      else do
        let count ← Resumption.transaction (requeue row)
        requeueAll now rows (if count > 0 then requeued + 1 else requeued)

/-- One tick. -/
def runOnce (config : PayoutsConfig) : Engine ℕ := do
  let rows ← Resumption.read (candidates config.maxAttempts)
  let now ← Resumption.read Store.clock
  requeueAll now rows 0

def cron (config : PayoutsConfig) : Engine ℕ :=
  if config.retryEnabled = false then return 0 else runOnce config

end PayoutRetryJob

end GearshPayments
