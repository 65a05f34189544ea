import GearshPayments.Refunds.Run
import GearshPayments.Resumption.Monitor
import Mathlib.Algebra.Order.BigOperators.Group.List

/-!
# Refunds of one hold, interleaved

Any number of refunds of one hold and of operations on it run together, in any order
of their actions.  What the gateway pays for the hold then stays within its amount
along every run in which each refund row is inserted into what the hold's other
refunds have left of it (`paid_le_amount`).  The service does not see to that: it
compares the amount with the balance it has read, which the refunds that have not yet
moved the hold do not lower (`overpaid`).

The argument follows each call by the row it has inserted: the amounts of these rows,
while they are not `FAILED`, bound what the calls have been paid.
-/

namespace GearshPayments

open Resumption

/-- What the gateway has paid in an exchange. -/
def paidCents (x : PayFastRefundInput × HttpOutcome) : ℤ :=
  match PayFastClient.classify x.2 with
  | .ok _ => x.1.amountCents
  | .failed .. => 0

namespace Store

/-- The row is a transaction of the intent that the hold is for. -/
def IsChargeOf (s : Store) (hold : EscrowHold) (transactionId : ℕ) : Prop :=
  ∃ t ∈ s.transactions, t.id = transactionId ∧ t.paymentIntentId = hold.paymentIntentId

instance (s : Store) (hold : EscrowHold) (transactionId : ℕ) :
    Decidable (s.IsChargeOf hold transactionId) :=
  inferInstanceAs (Decidable (∃ t ∈ s.transactions, _))

/-- What a refund takes of the hold: its amount, unless it has failed. -/
def claimedCents (s : Store) (hold : EscrowHold) (r : Refund) : ℤ :=
  if r.state ≠ .failed ∧ s.IsChargeOf hold r.transactionId then r.amountCents else 0

/-- What all refunds take of the hold. -/
def committedCents (s : Store) (hold : EscrowHold) : ℤ :=
  (s.refunds.map (s.claimedCents hold)).sum

/-- Every refund that a step inserts fits into what the others leave of the hold. -/
def FitsBalance (hold : EscrowHold) (s s' : Store) : Prop :=
  ∀ r ∈ s'.refunds.drop s.refunds.length, r.amountCents + s.committedCents hold ≤ hold.amountCents

instance (hold : EscrowHold) (s s' : Store) : Decidable (FitsBalance hold s s') :=
  inferInstanceAs (Decidable (∀ r ∈ s'.refunds.drop s.refunds.length, _))

theorem claimedCents_congr {s s' : Store} (h : s'.transactions = s.transactions)
    (hold : EscrowHold) : s'.claimedCents hold = s.claimedCents hold := by
  funext r
  unfold claimedCents
  refine if_congr (and_congr_right fun _ ↦ ?_) rfl rfl
  rw [IsChargeOf, IsChargeOf, h]

end Store

/-- The refund is for the hold: by its id, or by a transaction whose intent it is
for. -/
def IssueRefundInput.Targets (s : Store) (hold : EscrowHold) (input : IssueRefundInput) : Prop :=
  match input.holdId, input.transactionId with
  | some holdId, _ => holdId = hold.id
  | none, some transactionId => ∃ charge, s.transaction? transactionId = some charge ∧
      s.holdOfIntent charge.paymentIntentId = some hold
  | none, none => False

/-- The call is a refund of the hold or an operation on it; time may pass, too. -/
def ServiceCall.On (s : Store) (hold : EscrowHold) : ServiceCall → Prop
  | .refund input => input.Targets s hold
  | .escrow op => op.holdId = hold.id
  | .tick _ => True
  | .capture .. | .failure .. => False

namespace RefundsService

/-! ## The monitor -/

/-- What a call is doing: nothing that concerns the balance, or a refund whose row it
has inserted, with the amount, before and after the gateway has paid. -/
inductive RefundThread where
  | idle
  | pending (refundId : ℕ) (cents : ℤ)
  | paid (refundId : ℕ) (cents : ℤ)

namespace RefundThread

/-- The row that the call is responsible for, and its amount. -/
def row? : RefundThread → Option (ℕ × ℤ)
  | idle => none
  | pending refundId cents | paid refundId cents => some (refundId, cents)

/-- What the call takes of the hold. -/
def claimed : RefundThread → ℤ
  | idle => 0
  | pending _ cents | paid _ cents => cents

/-- What the call has been paid. -/
def received : RefundThread → ℤ
  | paid _ cents => cents
  | _ => 0

end RefundThread

/-- What no call on a hold changes of the store `s₀` that they all start from. -/
structure Steady (s₀ s : Store) : Prop where
  consistent : s.Consistent
  transactions : s.transactions = s₀.transactions
  intents : (s.escrowHolds.map fun h ↦ (h.id, h.paymentIntentId)) =
    s₀.escrowHolds.map fun h ↦ (h.id, h.paymentIntentId)

/-- The row that a call is responsible for takes its amount of the hold. -/
def Owns (hold : EscrowHold) (v : RefundThread) (s : Store) : Prop :=
  ∀ refundId cents, v.row? = some (refundId, cents) →
    0 < cents ∧ ∃ r, s.refund? refundId = some r ∧ s.claimedCents hold r = cents

/-- What a step of a call does to the refunds. -/
inductive Change (hold : EscrowHold) : RefundThread → Store → Store → RefundThread → Prop
  | skip {v : RefundThread} {s s' : Store} (hr : s'.refunds = s.refunds) : Change hold v s s' v
  | insert {s s' : Store} (r : Refund) (hid : r.id = s.nextId) (hpos : 0 < r.amountCents)
    (hclaim : s.claimedCents hold r = r.amountCents) (hr : s'.refunds = s.refunds ++ [r]) :
    Change hold .idle s s' (.pending r.id r.amountCents)
  | fail {refundId : ℕ} {cents : ℤ} {s s' : Store} (f : Refund → Refund)
    (hid : ∀ r, (f r).id = r.id) (hst : ∀ r, (f r).state = .failed)
    (hr : s'.refunds = Table.update Refund.id refundId f s.refunds) :
    Change hold (.pending refundId cents) s s' .idle
  | succeed {refundId : ℕ} {cents : ℤ} {s s' : Store} (f : Refund → Refund)
    (hid : ∀ r, (f r).id = r.id) (hst : ∀ r, (f r).state = .succeeded)
    (hsame : ∀ r, (f r).amountCents = r.amountCents ∧ (f r).transactionId = r.transactionId)
    (hr : s'.refunds = Table.update Refund.id refundId f s.refunds) :
    Change hold (.paid refundId cents) s s' (.paid refundId cents)

/-- What an answer makes of a call that asks for its amount. -/
inductive Answered : RefundThread → PayFastRefundInput → HttpOutcome → RefundThread → Prop
  | unpaid {refundId : ℕ} {cents : ℤ} {q : PayFastRefundInput} {a : HttpOutcome}
    (h : paidCents (q, a) = 0) : Answered (.pending refundId cents) q a (.pending refundId cents)
  | paid {refundId : ℕ} {cents : ℤ} {q : PayFastRefundInput} {a : HttpOutcome}
    (h : paidCents (q, a) = cents) : Answered (.pending refundId cents) q a (.paid refundId cents)

/-- The monitor of the calls on a hold. -/
def refundMonitor (s₀ : Store) (hold : EscrowHold) :
    Monitor Store PayFastRefundInput HttpOutcome RefundThread where
  Knows v s := Steady s₀ s ∧ Owns hold v s
  Writes v s s' v' := (Steady s₀ s → Steady s₀ s') ∧ Change hold v s s' v'
  Asks := Answered

/-! ## The calls conform to it -/

section Conforming

variable {s₀ s s' : Store} {hold : EscrowHold} {v : RefundThread}

/-- A step that leaves the refunds alone. -/
theorem writes_skip (hs : Steady s₀ s → Steady s₀ s') (hr : s'.refunds = s.refunds) :
    (refundMonitor s₀ hold).Writes v s s' v := ⟨hs, .skip hr⟩

theorem writes_refl (s : Store) : (refundMonitor s₀ hold).Writes v s s v := writes_skip id rfl

/-- Operations on holds change neither the refunds nor what the calls rely on. -/
theorem writes_exec {config : BusinessConfig} {op : EscrowOp} {hold' : EscrowHold}
    (h : op.exec config s = .ok (hold', s')) : (refundMonitor s₀ hold).Writes v s s' v := by
  have hcons : s.Consistent → s'.Consistent := fun hs ↦ hs.exec h
  obtain ⟨current, target, w, entries, hc, -, rfl⟩ := EscrowOp.commits_of_exec_eq h
  refine writes_skip (fun hs ↦ ⟨hcons hs.consistent, hs.transactions, ?_⟩) rfl
  have hkeys : (Table.update EscrowHold.id current.id w.update s.escrowHolds).map
      (fun h ↦ (h.id, h.paymentIntentId)) =
      s.escrowHolds.map fun h ↦ (h.id, h.paymentIntentId) := by
    refine Table.map_update _ (fun h ↦ ?_) _
    have hsame := (EscrowOp.update_of_work hc.work h).2
    rw [hsame.id, hsame.paymentIntentId]
  exact hkeys.trans hs.intents

theorem conforms_exec (config : BusinessConfig) (op : EscrowOp)
    {post : RefundThread → Except Failure EscrowHold → Prop} (h : ∀ r, post v r) :
    Conforms (refundMonitor s₀ hold) (transaction (op.exec config) : Service EscrowHold) v post :=
  .transaction writes_refl (fun _ _ _ _ he ↦ ⟨v, writes_exec he, h _⟩) fun _ ↦ h _

/-- The hold is found with its intent, whatever has happened to it. -/
theorem Steady.intent_eq (hs : Steady s₀ s) (h₀ : s₀.Consistent)
    (hh : s₀.escrowHold? hold.id = some hold) {current : EscrowHold}
    (hf : s.escrowHold? hold.id = some current) :
    current.paymentIntentId = hold.paymentIntentId := by
  obtain ⟨hm, hid⟩ := Table.find_some hf
  have hkey := List.mem_map_of_mem (f := fun h : EscrowHold ↦ (h.id, h.paymentIntentId)) hm
  rw [hs.intents] at hkey
  obtain ⟨x, hx, he⟩ := List.mem_map.mp hkey
  obtain ⟨hxid, hxpi⟩ := Prod.mk.inj he
  have hxf := (Table.find_eq_some_iff h₀.conserved.distinct).mpr hx
  rw [hxid, hid] at hxf
  cases hh.symm.trans hxf
  exact hxpi.symm

theorem conforms_resolveByHold (h₀ : s₀.Consistent) (hh : s₀.escrowHold? hold.id = some hold) :
    Conforms (refundMonitor s₀ hold) (resolveByHold hold.id) v
      (Returns v fun x ↦ s₀.IsChargeOf hold x.2.id) := by
  have hfound : Conforms (refundMonitor s₀ hold)
      (read fun s ↦ s.escrowHold? hold.id : Service (Option EscrowHold)) v
      (Returns v fun o ↦ ∀ h' ∈ o, h'.paymentIntentId = hold.paymentIntentId) :=
    .read_returns writes_refl fun s hs h' hf ↦ hs.1.intent_eq h₀ hh hf
  unfold resolveByHold
  refine hfound.bind_returns (fun found hfound ↦ ?_) .error
  cases found with
  | none => exact .throw_returns
  | some current =>
      have hpi := hfound current rfl
      have hcharge : Conforms (refundMonitor s₀ hold)
          (read fun s ↦ s.latestCharge current.paymentIntentId : Service (Option Transaction)) v
          (Returns v fun o ↦ ∀ charge ∈ o, s₀.IsChargeOf hold charge.id) := by
        refine .read_returns writes_refl fun s hs charge hf ↦ ?_
        obtain ⟨hm, hc⟩ := List.mem_filter.mp (List.argmax_mem hf)
        rw [hs.1.transactions] at hm
        exact ⟨charge, hm, rfl, (of_decide_eq_true hc).1.trans hpi⟩
      refine hcharge.bind_returns (fun charge hcharge ↦ ?_) .error
      cases charge with
      | none => exact .throw_returns
      | some charge => exact .ret_returns (hcharge charge rfl)

theorem conforms_resolveByTransaction {transactionId : ℕ} {charge : Transaction}
    (hf : s₀.transaction? transactionId = some charge)
    (hof : s₀.holdOfIntent charge.paymentIntentId = some hold) :
    Conforms (refundMonitor s₀ hold) (resolveByTransaction transactionId) v
      (Returns v fun x ↦ s₀.IsChargeOf hold x.2.id) := by
  have hpi : hold.paymentIntentId = charge.paymentIntentId := by
    simpa only [decide_eq_true_eq] using List.find?_some hof
  have hcharge : s₀.IsChargeOf hold charge.id := ⟨charge, (Table.find_some hf).1, rfl, hpi.symm⟩
  have hfound : Conforms (refundMonitor s₀ hold)
      (read fun s ↦ s.transaction? transactionId : Service (Option Transaction)) v
      (Returns v fun o ↦ o = some charge) := by
    refine .read_returns writes_refl fun s hs ↦ ?_
    rw [Store.transaction?, hs.1.transactions]
    exact hf
  unfold resolveByTransaction
  refine hfound.bind_returns (fun found hfound ↦ ?_) .error
  subst hfound
  split
  · exact .throw_returns
  · rename_i c hc
    obtain rfl : charge = c := Option.some.inj (Option.filter_eq_some_iff.mp hc).1
    have hread : Conforms (refundMonitor s₀ hold)
        (read fun s ↦ s.holdOfIntent charge.paymentIntentId : Service (Option EscrowHold)) v
        (Returns v fun _ ↦ True) := .read_returns writes_refl fun _ _ ↦ trivial
    refine hread.bind_returns (fun current _ ↦ ?_) .error
    cases current with
    | none => exact .throw_returns
    | some current => exact .ret_returns hcharge

/-- Resolution comes to a charge of the hold. -/
theorem conforms_resolveHoldAndCharge (h₀ : s₀.Consistent)
    (hh : s₀.escrowHold? hold.id = some hold) {input : IssueRefundInput}
    (hin : input.Targets s₀ hold) :
    Conforms (refundMonitor s₀ hold) (resolveHoldAndCharge input) v
      (Returns v fun x ↦ s₀.IsChargeOf hold x.2.id) := by
  unfold IssueRefundInput.Targets at hin
  unfold resolveHoldAndCharge
  split
  · rename_i holdId _ hid
    simp only [hid] at hin
    rw [hin]
    exact conforms_resolveByHold h₀ hh
  · rename_i transactionId hid htxn
    simp only [hid, htxn] at hin
    obtain ⟨charge, hf, hof⟩ := hin
    exact conforms_resolveByTransaction hf hof
  · rename_i hid htxn
    simp only [hid, htxn] at hin

/-- What the gateway call makes of a call whose row is inserted. -/
def Asked (refundId : ℕ) (cents : ℤ) : RefundThread → Except Failure PayFastRefundResult → Prop
  | v, .ok (.ok _) => v = .paid refundId cents
  | v, .ok (.failed ..) => v = .pending refundId cents
  | _, .error _ => True

theorem conforms_refund (config : PayFastConfig) (q : PayFastRefundInput) (refundId : ℕ) :
    Conforms (refundMonitor s₀ hold) (PayFastClient.refund config q)
      (.pending refundId q.amountCents) (Asked refundId q.amountCents) := by
  by_cases h : config.Ready
  · rw [refund_of_ready h]
    intro o
    cases hc : PayFastClient.classify o with
    | ok gatewayRefundId =>
        refine ⟨_, .paid ?_, ?_⟩
        · rw [paidCents, hc]
        · dsimp only
          rw [hc]
          exact Conforms.ret rfl
    | failed retriable status reason =>
        refine ⟨_, .unpaid ?_, ?_⟩
        · rw [paidCents, hc]
        · dsimp only
          rw [hc]
          exact Conforms.ret rfl
  · obtain ⟨reason, hr⟩ := refund_of_not_ready h q
    rw [hr]
    exact Conforms.ret rfl

theorem conforms_attemptRefund (config : PayFastConfig) (q : PayFastRefundInput) (refundId : ℕ)
    (attempts : ℕ) {lastFailure : Option PayFastRefundResult}
    (hlast : ∀ gatewayRefundId, lastFailure ≠ some (.ok gatewayRefundId)) :
    Conforms (refundMonitor s₀ hold) (attemptRefund config q attempts lastFailure)
      (.pending refundId q.amountCents) (Asked refundId q.amountCents) := by
  induction attempts generalizing lastFailure with
  | zero =>
      cases lastFailure with
      | none => exact Conforms.ret rfl
      | some r => cases r with
        | ok gatewayRefundId => exact absurd rfl (hlast gatewayRefundId)
        | failed retriable status reason => exact Conforms.ret rfl
  | succ attempts ih =>
      unfold attemptRefund
      refine (conforms_refund config q refundId).bind (fun v r hv ↦ ?_) fun _ _ _ ↦ trivial
      cases r with
      | ok gatewayRefundId => exact Conforms.ret hv
      | failed retriable status reason =>
          obtain rfl : v = .pending refundId q.amountCents := hv
          dsimp only
          split
          · exact ih fun gatewayRefundId h ↦ by cases h
          · exact Conforms.ret rfl

/-- What a transaction that updates a refund's row and announces it leaves steady. -/
theorem Steady.announced (hs : Steady s₀ s) {id : ℕ} {r : Refund} (hr : s.refund? id = some r)
    (f : Refund → Refund) (notice : EnqueueInput) (hf : ∀ r, (f r).id = r.id)
    (ha : ∀ r, (f r).amountCents = r.amountCents) (hn : notice.aggregateId = id) :
    Steady s₀ (s.announced id f notice) :=
  ⟨hs.consistent.announceRefund hf ha hr hn, hs.transactions, hs.intents⟩

theorem conforms_handleGatewayFailure (refund : Refund) (hold' : EscrowHold) (refundCents cents : ℤ)
    (reason : String) (input : IssueRefundInput) :
    Conforms (refundMonitor s₀ hold) (handleGatewayFailure refund hold' refundCents reason input)
      (.pending refund.id cents) fun _ _ ↦ True := by
  refine .transaction writes_refl (fun s r s' _ h ↦ ?_) fun _ ↦ trivial
  obtain ⟨row, hr, rfl⟩ := of_announce_ok _ h
  refine ⟨.idle, ⟨fun hs ↦ hs.announced hr _ _ (fun _ ↦ rfl) (fun _ ↦ rfl) rfl, ?_⟩, trivial⟩
  exact .fail (failRow reason) (fun _ ↦ rfl) (fun _ ↦ rfl) rfl

theorem conforms_handleGatewaySuccess (business : BusinessConfig) (refund : Refund)
    (hold' : EscrowHold) (chargeTxn : Transaction) (refundCents cents : ℤ) (refundIsFull : Bool)
    (gatewayRefundId : String) (input : IssueRefundInput) :
    Conforms (refundMonitor s₀ hold) (handleGatewaySuccess business refund hold' chargeTxn
      refundCents refundIsFull gatewayRefundId input) (.paid refund.id cents) fun _ _ ↦ True := by
  have hread : Conforms (refundMonitor s₀ hold)
      (read fun s ↦ (s.refund? refund.id, s.clock) : Service (Option Refund × ℕ))
      (.paid refund.id cents) (Returns (.paid refund.id cents) fun _ ↦ True) :=
    .read_returns writes_refl fun _ _ ↦ trivial
  unfold handleGatewaySuccess
  refine hread.bind_returns (fun x _ ↦ ?_) fun _ ↦ trivial
  obtain ⟨found, completedAt⟩ := x
  dsimp only
  split
  · exact Conforms.throw trivial
  · have hmove : Conforms (refundMonitor s₀ hold) (discard (transaction
        (moveHold business refund hold' refundCents refundIsFull input) : Service EscrowHold))
        (.paid refund.id cents) (Returns (.paid refund.id cents) fun _ ↦ True) := by
      rw [moveHold_eq_exec]
      exact .discard (conforms_exec business _ fun r ↦ ⟨rfl, fun _ _ ↦ trivial⟩)
    have hstatement : Conforms (refundMonitor s₀ hold) (statement : Service Unit)
        (.paid refund.id cents) (Returns (.paid refund.id cents) fun _ ↦ True) :=
      .read_returns writes_refl fun _ _ ↦ trivial
    refine hmove.bind_returns (fun _ _ ↦ ?_) fun _ ↦ trivial
    refine hstatement.bind_returns (fun _ _ ↦ ?_) fun _ ↦ trivial
    refine .transaction writes_refl (fun s r s' _ h ↦ ?_) fun _ ↦ trivial
    obtain ⟨row, hr, rfl⟩ := of_announce_ok (fun _ ↦
      succeededNotice refund hold' chargeTxn refundCents gatewayRefundId input completedAt) h
    refine ⟨.paid refund.id cents,
      ⟨fun hs ↦ hs.announced hr _ _ (fun _ ↦ rfl) (fun _ ↦ rfl) rfl, ?_⟩, trivial⟩
    exact .succeed (succeedRow gatewayRefundId completedAt) (fun _ ↦ rfl) (fun _ ↦ rfl)
      (fun _ ↦ ⟨rfl, rfl⟩) rfl

/-- A refund of the hold, from the first read to its end. -/
theorem conforms_issueRefund (h₀ : s₀.Consistent) (hh : s₀.escrowHold? hold.id = some hold)
    (config : SystemConfig) {input : IssueRefundInput} (hin : input.Targets s₀ hold) :
    Conforms (refundMonitor s₀ hold) (issueRefund config.payfast config.business input) .idle
      fun _ _ ↦ True := by
  unfold issueRefund
  refine (conforms_resolveHoldAndCharge h₀ hh hin).bind_returns (fun x hx ↦ ?_) fun _ ↦ trivial
  obtain ⟨hold', chargeTxn⟩ := x
  dsimp only at hx ⊢
  cases hp : planRefund input hold' chargeTxn with
  | error e => exact Conforms.throw trivial
  | ok plan =>
      have hpos : 0 < plan.refundCents := (planRefund_spec hp).1
      have hinsert : Conforms (refundMonitor s₀ hold)
          (transaction (Tx.createRefund (processingRow input chargeTxn plan.refundCents)) :
            Service Refund) .idle
          fun v r ↦ ∀ refund, r = .ok refund → v = .pending refund.id plan.refundCents := by
        refine .transaction writes_refl (fun s r s' hs h ↦ ?_) fun _ _ h ↦ by cases h
        have hcons : s.Consistent → s'.Consistent := fun hs ↦
          hs.createRefund (fun _ _ ↦ rfl) (fun _ _ ↦ hpos) h
        cases h
        refine ⟨.pending s.nextId plan.refundCents,
          ⟨fun hs ↦ ⟨hcons hs.consistent, hs.transactions, hs.intents⟩, ?_⟩, ?_⟩
        · refine .insert (processingRow input chargeTxn plan.refundCents s.nextId s.clock) rfl hpos
            ?_ rfl
          rw [Store.claimedCents_congr hs.1.transactions, Store.claimedCents]
          exact if_pos ⟨nofun, hx⟩
        · rintro refund h
          cases h
          rfl
      rw [ofExcept_ok, ret_bind]
      refine Conforms.bind hinsert (fun v refund hv ↦ ?_) fun _ _ _ ↦ trivial
      obtain rfl := hv refund rfl
      unfold executeRefund
      refine (conforms_attemptRefund config.payfast
        ⟨plan.pfPaymentId, plan.refundCents, input.reason⟩ refund.id payfastMaxAttempts
        fun _ h ↦ by cases h).bind (fun v result hv ↦ ?_) fun _ _ _ ↦ trivial
      cases result with
      | ok gatewayRefundId =>
          obtain rfl : v = .paid refund.id plan.refundCents := hv
          exact conforms_handleGatewaySuccess _ _ _ _ _ _ _ _ _
      | failed retriable status reason =>
          obtain rfl : v = .pending refund.id plan.refundCents := hv
          exact (conforms_handleGatewayFailure _ _ _ _ _ _).bind
            (fun _ _ _ ↦ Conforms.throw trivial) fun _ _ _ ↦ trivial

theorem conforms_program (h₀ : s₀.Consistent) (hh : s₀.escrowHold? hold.id = some hold)
    (config : SystemConfig) {c : ServiceCall} (hc : c.On s₀ hold) :
    Conforms (refundMonitor s₀ hold) (c.program config) .idle fun _ _ ↦ True := by
  cases c with
  | capture args zarFee => exact hc.elim
  | failure args => exact hc.elim
  | escrow op => exact .discard (conforms_exec config.business op fun _ ↦ trivial)
  | refund input => exact .discard (conforms_issueRefund h₀ hh config hc)
  | tick clock =>
      refine ⟨fun s _ ↦ ⟨.idle, writes_skip (fun hs ↦ ?_) rfl, trivial⟩, fun _ ↦ trivial⟩
      exact ⟨hs.consistent.tick clock, hs.transactions, hs.intents⟩

end Conforming

/-! ## The invariant -/

/-- What holds of the store, the calls and the log at every point of a run. -/
structure Balanced (s₀ : Store) (hold : EscrowHold) (s : Store) (vs : List RefundThread)
    (log : List (ℕ × PayFastRefundInput × HttpOutcome)) : Prop where
  steady : Steady s₀ s
  owns : ∀ (i : ℕ) v, vs[i]? = some v → Owns hold v s
  /-- No two calls are responsible for one row. -/
  apart : ∀ (i j : ℕ) v w refundId cents cents', vs[i]? = some v → vs[j]? = some w →
    v.row? = some (refundId, cents) → w.row? = some (refundId, cents') → i = j
  received : (log.map fun x ↦ paidCents x.2).sum = (vs.map RefundThread.received).sum
  committed : (vs.map RefundThread.claimed).sum ≤ s.committedCents hold
  fits : (vs.map RefundThread.claimed).sum ≤ hold.amountCents

section Balanced

variable {s₀ s s' : Store} {hold : EscrowHold} {vs : List RefundThread}
  {log : List (ℕ × PayFastRefundInput × HttpOutcome)} {i : ℕ} {v v' : RefundThread}

theorem received_le_claimed (hs : Owns hold v s) : v.received ≤ v.claimed := by
  cases v with
  | idle => exact le_refl _
  | pending refundId cents => exact (hs refundId cents rfl).1.le
  | paid refundId cents => exact le_refl _

/-- What the calls have been paid is within the amount of the hold. -/
theorem Balanced.paid_le (h : Balanced s₀ hold s vs log) :
    (log.map fun x ↦ paidCents x.2).sum ≤ hold.amountCents := by
  calc (log.map fun x ↦ paidCents x.2).sum
      = (vs.map RefundThread.received).sum := h.received
    _ ≤ (vs.map RefundThread.claimed).sum := by
        refine List.sum_le_sum fun v hv ↦ ?_
        obtain ⟨i, hi⟩ := List.getElem?_of_mem hv
        exact received_le_claimed (h.owns i v hi)
    _ ≤ hold.amountCents := h.fits

/-- A step of one call: it is enough to look at that call, and at what the step does
to the rows of the others. -/
theorem Balanced.replace (h : Balanced s₀ hold s vs log) (hv : vs[i]? = some v)
    {log' : List (ℕ × PayFastRefundInput × HttpOutcome)} (hsteady : Steady s₀ s')
    (howns : Owns hold v' s')
    (hothers : ∀ (j : ℕ) w, j ≠ i → vs[j]? = some w → Owns hold w s')
    (hapart : ∀ (j : ℕ) w refundId cents cents', j ≠ i → vs[j]? = some w →
      w.row? = some (refundId, cents) → v'.row? ≠ some (refundId, cents'))
    (hreceived : (log'.map fun x ↦ paidCents x.2).sum =
      (log.map fun x ↦ paidCents x.2).sum + (v'.received - v.received))
    (hcommitted : s.committedCents hold + (v'.claimed - v.claimed) ≤ s'.committedCents hold)
    (hfits : (vs.map RefundThread.claimed).sum + (v'.claimed - v.claimed) ≤ hold.amountCents) :
    Balanced s₀ hold s' (vs.set i v') log' := by
  have hself : (vs.set i v')[i]? = some v' :=
    List.getElem?_set_self (List.getElem?_eq_some_iff.mp hv).1
  have hother : ∀ {j : ℕ}, j ≠ i → (vs.set i v')[j]? = vs[j]? :=
    fun hj ↦ List.getElem?_set_ne hj.symm
  refine ⟨hsteady, fun j w hw ↦ ?_, fun j k w x refundId cents cents' hw hx hrw hrx ↦ ?_, ?_, ?_,
    ?_⟩
  · by_cases hj : j = i
    · subst hj
      cases hself.symm.trans hw
      exact howns
    · rw [hother hj] at hw
      exact hothers j w hj hw
  · by_cases hj : j = i
    · by_cases hk : k = i
      · rw [hj, hk]
      · subst hj
        cases hself.symm.trans hw
        rw [hother hk] at hx
        exact absurd hrw (hapart k x refundId cents' cents hk hx hrx)
    · rw [hother hj] at hw
      by_cases hk : k = i
      · subst hk
        cases hself.symm.trans hx
        exact absurd hrx (hapart j w refundId cents cents' hj hw hrw)
      · rw [hother hk] at hx
        exact h.apart j k w x refundId cents cents' hw hx hrw hrx
  · rw [hreceived, Pool.sum_map_set _ hv, h.received]
  · rw [Pool.sum_map_set _ hv]
    have := h.committed
    omega
  · rw [Pool.sum_map_set _ hv]
    exact hfits

/-- A call that keeps its row, or gives it up, does not get at the rows of others. -/
theorem Balanced.apart_of_row (h : Balanced s₀ hold s vs log) (hv : vs[i]? = some v)
    (hrow : v'.row? = v.row? ∨ v'.row? = none) (j : ℕ) (w : RefundThread) (refundId : ℕ)
    (cents cents' : ℤ) (hj : j ≠ i) (hw : vs[j]? = some w)
    (hrw : w.row? = some (refundId, cents)) : v'.row? ≠ some (refundId, cents') := by
  intro hr
  rcases hrow with hrow | hrow
  · exact hj (h.apart j i w v refundId cents cents' hw hv hrw (hrow.symm.trans hr))
  · cases hrow.symm.trans hr

/-- An answer moves a call from pending to paid, and the log by as much. -/
theorem Balanced.answered (h : Balanced s₀ hold s vs log) (hv : vs[i]? = some v)
    {q : PayFastRefundInput} {a : HttpOutcome} (ha : Answered v q a v') :
    Balanced s₀ hold s (vs.set i v') (log ++ [(i, q, a)]) := by
  have hrow : v'.row? = v.row? := by cases ha <;> rfl
  have hclaimed : v'.claimed = v.claimed := by cases ha <;> rfl
  have hreceived : v'.received = v.received + paidCents (q, a) := by
    cases ha with
    | unpaid h => rw [h]; rfl
    | paid h => rw [h]; exact (zero_add _).symm
  refine h.replace hv h.steady ?_ (fun j w _ hw ↦ h.owns j w hw) (h.apart_of_row hv (.inl hrow))
    ?_ ?_ ?_
  · rw [Owns, hrow]
    exact h.owns i v hv
  · rw [List.map_append, List.sum_append, hreceived, add_sub_cancel_left, List.map_singleton,
      List.sum_singleton]
  · rw [hclaimed, sub_self, add_zero]
  · rw [hclaimed, sub_self, add_zero]
    exact h.fits

/-- The update of a row changes what its refund takes of the hold, and nothing else. -/
theorem committedCents_update (hs : Steady s₀ s) (ht : s'.transactions = s.transactions)
    {refundId : ℕ} {f : Refund → Refund}
    (hr : s'.refunds = Table.update Refund.id refundId f s.refunds) {r : Refund}
    (hf : s.refund? refundId = some r) :
    s'.committedCents hold =
      s.committedCents hold + (s.claimedCents hold (f r) - s.claimedCents hold r) := by
  rw [Store.committedCents, hr, Store.claimedCents_congr ht]
  exact Table.sum_update _ hs.consistent.distinct hf

/-- Whoever owns another row still does after the update. -/
theorem Owns.update {w : RefundThread} (hw : Owns hold w s) (ht : s'.transactions = s.transactions)
    {refundId : ℕ} {f : Refund → Refund} (hid : ∀ r, (f r).id = r.id)
    (hr : s'.refunds = Table.update Refund.id refundId f s.refunds)
    (hne : ∀ cents, w.row? ≠ some (refundId, cents)) : Owns hold w s' := by
  intro id cents hrow
  obtain ⟨hpos, r, hf, hc⟩ := hw id cents hrow
  have hne' : id ≠ refundId := fun he ↦ hne cents (he ▸ hrow)
  refine ⟨hpos, r, ?_, (Store.claimedCents_congr ht hold) ▸ hc⟩
  rw [Store.refund?, hr, Table.find_update_of_ne hid hne']
  exact hf

/-- A step that the monitor allows, whose insertions fit, keeps the balance. -/
theorem Balanced.written (h : Balanced s₀ hold s vs log) (hv : vs[i]? = some v)
    (hw : (refundMonitor s₀ hold).Writes v s s' v') (hfits : Store.FitsBalance hold s s') :
    Balanced s₀ hold s' (vs.set i v') log := by
  obtain ⟨hsteady, hchange⟩ := hw
  have hs' := hsteady h.steady
  have ht : s'.transactions = s.transactions := hs'.transactions.trans h.steady.transactions.symm
  cases hchange with
  | skip hr =>
      have howns : ∀ {w}, Owns hold w s → Owns hold w s' := by
        intro w hw refundId cents hrow
        obtain ⟨hpos, r, hf, hc⟩ := hw refundId cents hrow
        refine ⟨hpos, r, ?_, (Store.claimedCents_congr ht hold) ▸ hc⟩
        rw [Store.refund?, hr]
        exact hf
      refine h.replace hv hs' (howns (h.owns i v hv)) (fun j w _ hw ↦ howns (h.owns j w hw))
        (h.apart_of_row hv (.inl rfl)) ?_ ?_ ?_
      · rw [sub_self, add_zero]
      · rw [sub_self, add_zero, Store.committedCents, Store.committedCents, hr,
          Store.claimedCents_congr ht]
      · rw [sub_self, add_zero]
        exact h.fits
  | insert r hid hpos hclaim hr =>
      have hadd : r ∈ s'.refunds.drop s.refunds.length := by
        rw [hr, List.drop_left]
        exact List.mem_singleton_self r
      have hnew : s'.committedCents hold = s.committedCents hold + r.amountCents := by
        rw [Store.committedCents, hr, Store.claimedCents_congr ht, List.map_append,
          List.sum_append, List.map_singleton, List.sum_singleton, hclaim]
        rfl
      have hlt : ∀ {refundId : ℕ} {x : Refund}, s.refund? refundId = some x → refundId < r.id :=
        fun hf ↦ hid ▸ h.steady.consistent.refund_lt hf
      refine h.replace hv hs' ?_ (fun j w _ hw ↦ ?_) ?_ ?_ ?_ ?_
      · rintro refundId cents hrow
        cases hrow
        refine ⟨hpos, r, ?_, (congrFun (Store.claimedCents_congr ht hold) r).trans hclaim⟩
        rw [Store.refund?, hr]
        refine Table.find_append_new fun x hx ↦ ?_
        have := (h.steady.consistent.refunds x hx).1
        omega
      · intro refundId cents hrow
        obtain ⟨hpos, x, hf, hc⟩ := h.owns j w hw refundId cents hrow
        refine ⟨hpos, x, ?_, (Store.claimedCents_congr ht hold) ▸ hc⟩
        rw [Store.refund?, hr, Table.find_append_of_ne (hlt hf).ne']
        exact hf
      · rintro j w refundId cents cents' _ hw hrow hnewrow
        obtain ⟨-, x, hf, -⟩ := h.owns j w hw refundId cents hrow
        cases hnewrow
        exact Nat.lt_irrefl _ (hlt hf)
      · exact (add_zero _).symm
      · rw [hnew]
        exact le_of_eq (congrArg _ (sub_zero _))
      · have := hfits r hadd
        have := h.committed
        simp only [RefundThread.claimed]
        omega
  | @fail refundId cents _ _ f hid hst hr =>
      obtain ⟨hpos, r, hf, hc⟩ := h.owns i _ hv refundId cents rfl
      refine h.replace hv hs' (fun _ _ hno ↦ (by cases hno)) (fun j w hj hw ↦ ?_)
        (h.apart_of_row hv (.inr rfl)) ?_ ?_ ?_
      · exact (h.owns j w hw).update ht hid hr fun cents' hrow ↦
          hj (h.apart j i w _ refundId cents' cents hw hv hrow rfl)
      · exact (add_zero _).symm
      · have hgone : s.claimedCents hold (f r) = 0 := if_neg fun h ↦ h.1 (hst r)
        rw [committedCents_update h.steady ht hr hf, hgone, hc]
        exact le_refl _
      · have := h.fits
        simp only [RefundThread.claimed]
        omega
  | @succeed refundId cents _ _ f hid hst hsame hr =>
      obtain ⟨hpos, r, hf, hc⟩ := h.owns i _ hv refundId cents rfl
      have hkept : s.claimedCents hold (f r) = cents := by
        have hclaims : r.state ≠ .failed ∧ s.IsChargeOf hold r.transactionId := by
          by_contra hno
          rw [Store.claimedCents, if_neg hno] at hc
          omega
        rw [Store.claimedCents, if_pos hclaims] at hc
        rw [Store.claimedCents, (hsame r).1, (hsame r).2, hst r, hc]
        exact if_pos ⟨by decide, hclaims.2⟩
      refine h.replace hv hs' ?_ (fun j w hj hw ↦ ?_) (h.apart_of_row hv (.inl rfl)) ?_ ?_ ?_
      · intro id cents' hrow
        cases hrow
        refine ⟨hpos, f r, ?_, (congrFun (Store.claimedCents_congr ht hold) (f r)).trans hkept⟩
        rw [Store.refund?, hr]
        exact Table.find_update_self hid hf
      · exact (h.owns j w hw).update ht hid hr fun cents' hrow ↦
          hj (h.apart j i w _ refundId cents' cents hw hv hrow rfl)
      · rw [sub_self, add_zero]
      · rw [committedCents_update h.steady ht hr hf, hkept, hc]
        simp only [sub_self, add_zero, le_refl]
      · rw [sub_self, add_zero]
        exact h.fits

end Balanced

/-- At the start no call has a row, and there is nothing in the log. -/
theorem balanced_start {s : Store} (hs : s.Consistent) {hold : EscrowHold}
    (hh : s.escrowHold? hold.id = some hold) (n : ℕ) :
    Balanced s hold s (List.replicate n .idle) [] := by
  have hidle : ∀ (i : ℕ) v, (List.replicate n RefundThread.idle)[i]? = some v → v = .idle :=
    fun i v hv ↦ List.eq_of_mem_replicate (List.mem_of_getElem? hv)
  have hclaimed : ((List.replicate n RefundThread.idle).map RefundThread.claimed).sum = 0 := by
    simp [RefundThread.claimed]
  refine ⟨⟨hs, rfl, rfl⟩, fun i v hv ↦ ?_, fun i j v w _ _ _ hv _ hrow _ ↦ ?_, ?_, ?_, ?_⟩
  · obtain rfl := hidle i v hv
    exact nofun
  · obtain rfl := hidle i v hv
    cases hrow
  · simp [RefundThread.received]
  · rw [hclaimed]
    refine List.sum_nonneg fun x hx ↦ ?_
    obtain ⟨r, hr, rfl⟩ := List.mem_map.mp hx
    rw [Store.claimedCents]
    split
    · exact (hs.refunds r hr).2.le
    · exact le_refl _
  · obtain ⟨h₁, h₂⟩ := hs.conserved.bounds (Table.find_some hh).1
    rw [hclaimed]
    exact h₁.trans h₂

/-- Calls on one hold, interleaved in any way: when every refund is inserted into what
the hold's other refunds leave of it, the gateway never pays more than the amount of
the hold. -/
theorem paid_le_amount {config : SystemConfig} {s : Store} (hs : Reachable config s)
    {hold : EscrowHold} (hh : s.escrowHold? hold.id = some hold) {calls : List ServiceCall}
    (hcalls : ∀ c ∈ calls, c.On s hold) {schedule : List (Turn HttpOutcome Failure)}
    (hfits : Transition.Along (Pool.step next)
      (fun P t ↦ Store.FitsBalance hold P.store (Pool.step next P t).store)
      ⟨s, calls.map (·.program config), []⟩ schedule) :
    ((Pool.run next ⟨s, calls.map (·.program config), []⟩ schedule).log.map
      fun x ↦ paidCents x.2).sum ≤ hold.amountCents := by
  have hconforming : Pool.Conforming (refundMonitor s hold) (fun _ _ ↦ True)
      (calls.map (·.program config)) (List.replicate calls.length .idle) := by
    intro i p hp
    rw [List.getElem?_map] at hp
    obtain ⟨c, hc, rfl⟩ := Option.map_eq_some_iff.mp hp
    have hlt := (List.getElem?_eq_some_iff.mp hc).1
    refine ⟨.idle, ?_, conforms_program hs.consistent hh config
      (hcalls c (List.mem_of_getElem? hc))⟩
    rw [List.getElem?_replicate, if_pos hlt]
  obtain ⟨vs, hbalanced⟩ := Pool.conforms_run (M := refundMonitor s hold)
    (D := fun _ ↦ Store.FitsBalance hold) (J := Balanced s hold)
    (fun h hv ↦ ⟨h.steady, h.owns _ _ hv⟩) (fun h hv hw hD ↦ h.written hv hw hD)
    (fun h hv ha ↦ h.answered hv ha) hconforming (balanced_start hs.consistent hh _) hfits
  exact hbalanced.paid_le

/-- One refund of the paid booking, as far as the gateway's answer. -/
theorem paid_le_amount_sample :
    ((Pool.run next ⟨Sample.paid, [ServiceCall.refund Sample.input].map
        (·.program Sample.config), []⟩
      [⟨0, .act⟩, ⟨0, .act⟩, ⟨0, .act⟩, ⟨0, .answer (Sample.pays 0)⟩]).log.map
        fun x ↦ paidCents x.2).sum ≤ (Sample.payment.hold 100 11 0).amountCents := by
  refine paid_le_amount Sample.paid_reachable rfl ?_ ?_
  · intro c hc
    rw [List.mem_singleton.mp hc]
    rfl
  · exact ⟨by decide, by decide, by decide, by decide, trivial⟩

/-- Two refunds of everything, both checked before either has moved the hold. -/
theorem overpaid :
    ¬∀ (config : SystemConfig) (s : Store) (hold : EscrowHold) (calls : List ServiceCall)
      (schedule : List (Turn HttpOutcome Failure)), Reachable config s →
      s.escrowHold? hold.id = some hold → (∀ c ∈ calls, c.On s hold) →
      ((Pool.run next ⟨s, calls.map (·.program config), []⟩ schedule).log.map
        fun x ↦ paidCents x.2).sum ≤ hold.amountCents := by
  intro h
  let full : ServiceCall := .refund { Sample.input with refundCents := none, full := some true }
  let schedule : List (Turn HttpOutcome Failure) :=
    [⟨0, .act⟩, ⟨0, .act⟩, ⟨1, .act⟩, ⟨1, .act⟩, ⟨0, .act⟩, ⟨1, .act⟩,
      ⟨0, .answer (Sample.pays 0)⟩, ⟨1, .answer (Sample.pays 0)⟩]
  have hcalls : ∀ c ∈ [full, full], c.On Sample.paid (Sample.payment.hold 100 11 0) := by
    intro c hc
    rcases List.mem_pair.mp hc with rfl | rfl <;> rfl
  have hpaid : ((Pool.run next ⟨Sample.paid, [full, full].map (·.program Sample.config), []⟩
      schedule).log.map fun x ↦ paidCents x.2).sum = 1800 := by
    decide
  have hle := h Sample.config Sample.paid (Sample.payment.hold 100 11 0) [full, full] schedule
    Sample.paid_reachable rfl hcalls
  rw [hpaid] at hle
  exact absurd hle (by decide)

end RefundsService

end GearshPayments
