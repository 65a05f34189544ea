import GearshPayments.Common.Pagination
import GearshPayments.Newest
import GearshPayments.Refunds.Service

/-!
# Stuck refunds

`stuckRefunds` of `admin.service.ts`: the refunds that failed while their holds are still held.
The query takes as many failed refunds as are to be shown, and only then is each of them looked at;
so a refund is hidden by newer ones whose holds have moved on (`stuckRefunds_newest_iff`).
-/

namespace GearshPayments

structure StuckRefund where
  refundId : ℕ
  holdId : ℕ
  amountCents : String
  failureReason : Option String
  failedAt : ℕ
deriving DecidableEq

namespace AdminService

-- `order` is the order of the database, `updatedAt` a column that the store leaves out
variable (order : Newest.Order Refund.createdAt) (updatedAt : Refund → ℕ)

def failedRefunds (s : Store) : List Refund := s.refunds.filter fun r ↦ r.state = .failed

/-- The refunds found, each with its transaction, which it refers to by a foreign key. -/
def findFailed (cap : ℕ) (s : Store) : List (Refund × Transaction) :=
  (order.newest cap (failedRefunds s)).filterMap fun refund ↦
    (s.transaction? refund.transactionId).map fun transaction ↦ (refund, transaction)

def stuckRow (refund : Refund) (hold : EscrowHold) : StuckRefund where
  refundId := refund.id
  holdId := hold.id
  amountCents := toString refund.amountCents
  failureReason := refund.failureReason
  failedAt := updatedAt refund

/-- The loop over the refunds found. -/
def stuckAmong : List (Refund × Transaction) → Service (List StuckRefund)
  | [] => return []
  | (refund, transaction) :: failed => do
    let hold ← Resumption.read fun s ↦ s.holdOfIntent transaction.paymentIntentId
    let stuck := (hold.filter fun hold ↦ hold.state = .held).map (stuckRow updatedAt refund)
    return stuck.toList ++ (← stuckAmong failed)

def stuckRefunds (limit : Option ℤ) : Service (List StuckRefund) := do
  let cap := clampLimit limit
  let failed ← Resumption.read (findFailed order cap)
  stuckAmong updatedAt failed

/-! ## What is stuck -/

/-- The hold of a refund, if it is still held. -/
def heldHold (s : Store) (refund : Refund) : Option EscrowHold :=
  (s.transaction? refund.transactionId).bind fun transaction ↦
    (s.holdOfIntent transaction.paymentIntentId).filter fun hold ↦ hold.state = .held

/-- The hold of the refund is still held. -/
def awaits (s : Store) (refund : Refund) : Bool := (heldHold s refund).isSome

/-- What is shown of refunds. -/
def shown (s : Store) (refunds : List Refund) : List StuckRefund :=
  refunds.filterMap fun refund ↦ (heldHold s refund).map (stuckRow updatedAt refund)

/-- The rows are the newest of the stuck refunds, and there are some if any refund is stuck. -/
structure ShowsNewest (limit : Option ℤ) (s : Store) (data : List StuckRefund) : Prop where
  newest : ∃ chosen, Newest.Chosen Refund.createdAt (clampLimit limit)
    ((failedRefunds s).filter (awaits s)) chosen ∧ data = shown updatedAt s chosen
  nonempty : (∃ r ∈ s.refunds, r.state = .failed ∧ awaits s r = true) → data ≠ []

variable {order updatedAt} {limit : Option ℤ} {s : Store}

theorem run_stuckAmong (answers : ℕ → HttpOutcome) (found : List (Refund × Transaction)) :
    (stuckAmong updatedAt found).run (.healthy answers) s =
      ⟨.ok (found.filterMap fun x ↦
        ((s.holdOfIntent x.2.paymentIntentId).filter fun hold ↦ hold.state = .held).map
          (stuckRow updatedAt x.1)), s, .healthy answers, []⟩ := by
  induction found with
  | nil => rfl
  | cons x found ih =>
      rw [stuckAmong, Resumption.run_bind_ok_nil (Resumption.run_read_healthy _ _ _),
        Resumption.run_bind_ok_nil ih, List.filterMap_cons]
      cases (s.holdOfIntent x.2.paymentIntentId).filter fun hold ↦ hold.state = .held with
      | none => rfl
      | some hold => rfl

/-- What `stuckRefunds` shows are the stuck ones among the newest failed refunds. -/
theorem run_stuckRefunds (answers : ℕ → HttpOutcome) :
    (stuckRefunds order updatedAt limit).run (.healthy answers) s =
      ⟨.ok (shown updatedAt s (order.newest (clampLimit limit) (failedRefunds s))), s,
        .healthy answers, []⟩ := by
  rw [stuckRefunds, Resumption.run_bind_ok_nil (Resumption.run_read_healthy _ _ _), run_stuckAmong,
    findFailed, List.filterMap_filterMap, shown]
  refine congrArg (fun data ↦ Resumption.Run.mk (.ok data) s _ []) ?_
  refine List.filterMap_congr fun refund _ ↦ ?_
  unfold heldHold
  cases s.transaction? refund.transactionId with
  | none => rfl
  | some transaction => rfl

/-- A refund that is not stuck is not shown. -/
theorem shown_filter (refunds : List Refund) :
    shown updatedAt s (refunds.filter (awaits s)) = shown updatedAt s refunds := by
  rw [shown, shown, List.filterMap_filter]
  refine List.filterMap_congr fun refund _ ↦ ?_
  unfold awaits
  cases heldHold s refund with
  | none => rfl
  | some hold => rfl

theorem length_shown (updatedAt : Refund → ℕ) (refunds : List Refund) :
    (shown updatedAt s refunds).length = (refunds.filter (awaits s)).length := by
  induction refunds with
  | nil => rfl
  | cons refund refunds ih =>
      rw [shown, List.filterMap_cons, List.filter_cons, awaits]
      cases heldHold s refund with
      | none => exact ih
      | some hold => exact congrArg Nat.succ ih

/-- Every stuck refund that is chosen is shown. -/
theorem length_shown_chosen {chosen : List Refund}
    (h : Newest.Chosen Refund.createdAt (clampLimit limit) ((failedRefunds s).filter (awaits s))
      chosen) :
    (shown updatedAt s chosen).length =
      min (clampLimit limit) ((failedRefunds s).filter (awaits s)).length := by
  obtain ⟨left, hperm, -⟩ := h.left
  have hall : chosen.filter (awaits s) = chosen := by
    refine List.filter_eq_self.mpr fun r hr ↦ ?_
    exact (List.mem_filter.mp (hperm.subset (List.mem_append_left _ hr))).2
  rw [length_shown, hall, h.length]

/-- For every store, limit and order of the database: the newest of the stuck refunds are shown if
and only if each of the newest failed refunds is stuck, or no older one is. -/
theorem stuckRefunds_newest_iff (order : Newest.Order Refund.createdAt) (updatedAt : Refund → ℕ)
    (limit : Option ℤ) (s : Store) (answers : ℕ → HttpOutcome) :
    (∃ data, ((stuckRefunds order updatedAt limit).run (.healthy answers) s).result = .ok data ∧
      ShowsNewest updatedAt limit s data) ↔
    (∀ r ∈ order.newest (clampLimit limit) (failedRefunds s), awaits s r = true) ∨
      ∀ r ∈ order.older (clampLimit limit) (failedRefunds s), awaits s r = false := by
  rw [run_stuckRefunds, ← order.length_filter_newest_iff]
  constructor
  · rintro ⟨data, hdata, hshows⟩
    cases hdata
    obtain ⟨chosen, hchosen, heq⟩ := hshows.newest
    rw [← length_shown updatedAt, heq, length_shown_chosen hchosen]
  · intro hlength
    have hchosen := order.chosen_filter_of_length hlength
    refine ⟨_, rfl, ⟨_, hchosen, (shown_filter _).symm⟩, ?_⟩
    rintro ⟨r, hr, hfailed, hawaits⟩ hnil
    have hstuck : r ∈ (failedRefunds s).filter (awaits s) :=
      List.mem_filter.mpr ⟨List.mem_filter.mpr ⟨hr, decide_eq_true hfailed⟩, hawaits⟩
    refine hchosen.ne_nil (clampLimit_pos limit) (List.ne_nil_of_mem hstuck) ?_
    rw [← List.length_eq_zero_iff, ← length_shown updatedAt, hnil, List.length_nil]

end AdminService

namespace Sample

/-- A refund that failed, of the payment with this number. -/
def failedRefund (payment createdAt : ℕ) : Refund where
  id := 300 + payment
  transactionId := 100 + payment
  amountCents := 500
  reason := "cancelled"
  initiatedBy := 9
  state := .failed
  gatewayRefundId := none
  failureReason := some "timeout"
  completedAt := none
  createdAt := createdAt

def chargeOf (payment : ℕ) : Transaction where
  id := 100 + payment
  paymentIntentId := payment
  type := .charge
  amountCents := 500
  currency := .zar
  gatewayTxnId := some "pf"
  pfPaymentStatus := some .complete
  state := .succeeded
  createdAt := 0

def holdOf (payment : ℕ) (state : EscrowState) : EscrowHold where
  id := 200 + payment
  bookingId := payment
  paymentIntentId := payment
  clientId := 7
  artistId := 8
  amountCents := 500
  platformFeeCents := 50
  currency := .zar
  state := state
  partiallyRefundedAmountCents := 0
  heldAt := 0
  releasedAt := none
  refundedAt := none
  disputedAt := none
  createdAt := 0

/-- A refund of the first payment failed, and later one of the second payment, which has been
refunded since. -/
def overtakenStore : Store :=
  { Store.empty 30 1000 [] with
    transactions := [chargeOf 1, chargeOf 2]
    escrowHolds := [holdOf 1 .held, holdOf 2 .refunded]
    refunds := [failedRefund 1 10, failedRefund 2 20] }

end Sample

/-- With a limit of one, the later refund hides the one that is stuck. -/
theorem AdminService.stuckRefund_hidden :
    (∃ r ∈ Sample.overtakenStore.refunds,
      r.state = .failed ∧ awaits Sample.overtakenStore r = true) ∧
    ((stuckRefunds (.stable Refund.createdAt) Refund.createdAt (some 1)).run
      (.healthy fun _ ↦ .resolved 200 none) Sample.overtakenStore).result = .ok [] ∧
    ¬ShowsNewest Refund.createdAt (some 1) Sample.overtakenStore [] := by
  have hstuck : ∃ r ∈ Sample.overtakenStore.refunds,
      r.state = .failed ∧ awaits Sample.overtakenStore r = true :=
    ⟨Sample.failedRefund 1 10, List.mem_cons_self, rfl, rfl⟩
  exact ⟨hstuck, rfl, fun h ↦ h.nonempty hstuck rfl⟩

end GearshPayments
