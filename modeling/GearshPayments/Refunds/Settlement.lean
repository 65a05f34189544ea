import GearshPayments.Refunds.Run

/-!
# What a paid refund leaves behind

Once the gateway has paid, three things are to follow: the refund's row says so, the
hold is moved by an event that carries the refund, and the refund is announced.
`EscrowService` commits the second on its own, and refuses it for some holds that
`issueRefund` let pass; the two theorems of this module say exactly when the three
come together, over the failures of the outer transaction
(`handleGatewaySuccess_atomic_iff`) and over the holds (`paid_settles_iff`).
-/

namespace GearshPayments

open EscrowService DoubleEntry

namespace Store

/-- The refund's row says that the gateway has paid. -/
def Recorded (s : Store) (refundId : ℕ) (gatewayRefundId : String) : Prop :=
  ∃ r, s.refund? refundId = some r ∧ r.state = .succeeded ∧ r.gatewayRefundId = some gatewayRefundId

/-- Between two stores the hold has taken a transition, by one event that carries the
refund, and with the event's ledger entries. -/
def Transitioned (s s' : Store) (holdId refundId : ℕ) : Prop :=
  ∃ h h' action event, ∃ entries : List LedgerEntry,
    s.escrowHold? holdId = some h ∧ s'.escrowHold? holdId = some h' ∧
    transitions h.state action = some h'.state ∧
    s'.escrowEvents = s.escrowEvents ++ [event] ∧ event.holdId = holdId ∧
    event.refundId = some refundId ∧
    s'.ledgerEntries = s.ledgerEntries ++ entries ∧ entries ≠ [] ∧
    (∀ e ∈ entries, e.eventId = event.id) ∧ Sound (entries.map LedgerEntry.toPosting)

/-- The success of the refund is in the outbox. -/
def Announced (s : Store) (refundId : ℕ) : Prop :=
  ∃ o ∈ s.outboxEvents, o.eventType = .paymentsRefundSucceeded ∧ o.aggregateId = refundId

theorem not_transitioned_self (s : Store) (holdId refundId : ℕ) :
    ¬Transitioned s s holdId refundId := by
  rintro ⟨h, h', action, event, entries, -, -, -, hev, -⟩
  exact List.cons_ne_nil event [] (List.self_eq_append_right.mp hev)

end Store

namespace RefundsService

section

variable {business : BusinessConfig} {input : IssueRefundInput} {refund : Refund}
  {hold hold' : EscrowHold} {refundCents : ℤ} {refundIsFull : Bool} {s s₂ : Store}

/-- The hold's id is the one the operation of a refund is for. -/
theorem holdId_refundOp :
    (refundOp refund hold refundCents refundIsFull input).holdId = hold.id := by
  cases refundIsFull <;> rfl

/-- An escrow operation that returned has moved the hold for the refund. -/
theorem transitioned_of_moveHold
    (hm : moveHold business refund hold refundCents refundIsFull input s = .ok (hold', s₂)) :
    s.Transitioned s₂ hold.id refund.id := by
  rw [moveHold_eq_exec] at hm
  obtain ⟨current, target, w, entries, hc, rfl, rfl⟩ := EscrowOp.commits_of_exec_eq hm
  obtain ⟨hid, hentries⟩ := work_refundOp hc.work
  have hcur : current.id = hold.id := hc.id_eq.trans holdId_refundOp
  have hfound : s.escrowHold? current.id = some current := by
    rw [hc.id_eq]
    exact hc.found
  have hupd := EscrowOp.update_of_work hc.work
  refine ⟨current, w.update current, (refundOp refund hold refundCents refundIsFull input).action,
    w.event current s, entries.map (ledgerEntry (w.update current) (w.event current s) s.clock),
    hcur ▸ hfound, ?_, ?_, rfl, hcur, hid, rfl, ?_, ?_, ?_⟩
  · rw [← hcur]
    exact Table.find_update_self (fun r ↦ (hupd r).2.id) hfound
  · rw [(hupd current).1]
    exact hc.legal
  · obtain ⟨-, -, rfl⟩ := LedgerService.buildRefundEntries_eq_ok_iff.mp (hentries ▸ hc.built)
    exact List.cons_ne_nil _ _
  · intro e he
    obtain ⟨x, -, rfl⟩ := List.mem_map.mp he
    rfl
  · rw [List.map_map]
    change Sound (entries.map id)
    rw [List.map_id]
    exact hc.sound

end

/-! ## All or nothing -/

section

variable {business : BusinessConfig} {input : IssueRefundInput} {refund : Refund}
  {hold hold' : EscrowHold} {chargeTxn : Transaction} {refundCents : ℤ} {refundIsFull : Bool}
  {faults : ℕ → Option Failure} {s s' : Store} {gatewayRefundId : String}
  {result : Except Failure Refund}

/-- A refund as `handleGatewaySuccess` receives it: its row is `PROCESSING`, and its
success has not been announced. -/
structure Pending (s : Store) (refund : Refund) : Prop where
  found : s.refund? refund.id = some refund
  processing : refund.state = .processing
  quiet : ¬s.Announced refund.id

/-- A row that has just been inserted is pending. -/
theorem pending_withRefund (hs : s.Consistent) (input : IssueRefundInput)
    (chargeTxn : Transaction) (refundCents : ℤ) :
    Pending (s.withRefund (processingRow input chargeTxn refundCents s.nextId s.clock))
      (processingRow input chargeTxn refundCents s.nextId s.clock) where
  found := hs.refund?_withRefund rfl
  processing := rfl
  quiet := by
    rintro ⟨o, ho, ht, hid⟩
    have hlt := hs.announced o ho ht
    rw [hid] at hlt
    exact Nat.lt_irrefl _ hlt

/-- The row is `SUCCEEDED` with the gateway's id, the hold has moved for the refund and
the refund is announced. -/
def Settled (s s' : Store) (holdId refundId : ℕ) (gatewayRefundId : String) : Prop :=
  s'.Recorded refundId gatewayRefundId ∧ s.Transitioned s' holdId refundId ∧ s'.Announced refundId

/-- None of the three. -/
def Untouched (s s' : Store) (holdId refundId : ℕ) (gatewayRefundId : String) : Prop :=
  ¬s'.Recorded refundId gatewayRefundId ∧ ¬s.Transitioned s' holdId refundId ∧
    ¬s'.Announced refundId

theorem Pending.not_recorded (hp : Pending s refund) (hr : s'.refunds = s.refunds) :
    ¬s'.Recorded refund.id gatewayRefundId := by
  rintro ⟨r, hf, hst, -⟩
  rw [Store.refund?, hr] at hf
  cases hp.found.symm.trans hf
  rw [hp.processing] at hst
  cases hst

/-- The commit of the outer transaction records the refund. -/
theorem Pending.recorded (hp : Pending s refund) {s₂ : Store} {notice : EnqueueInput}
    {completedAt : ℕ}
    (hm : moveHold business refund hold refundCents refundIsFull input s = .ok (hold', s₂)) :
    (s₂.announced refund.id (succeedRow gatewayRefundId completedAt) notice).Recorded refund.id
      gatewayRefundId := by
  have hfound : s₂.refund? refund.id = some refund := by
    rw [Store.refund?, refunds_of_moveHold business input refund hold refundCents refundIsFull hm]
    exact hp.found
  exact ⟨succeedRow gatewayRefundId completedAt refund,
    Store.refund?_announced (f := succeedRow gatewayRefundId completedAt)
      (fun _ ↦ rfl) hfound notice,
    rfl, rfl⟩

/-- What each end of a paid refund leaves. -/
theorem settled_or_untouched_iff (hp : Pending s refund)
    (h : Ends business input refund hold chargeTxn refundCents refundIsFull faults s
      (.ok gatewayRefundId) result s') :
    (Settled s s' hold.id refund.id gatewayRefundId ∨
        Untouched s s' hold.id refund.id gatewayRefundId) ↔
      ¬(faults 0 = none ∧ faults 1 = none ∧ (faults 2 ≠ none ∨ faults 3 ≠ none) ∧
        ∃ r, moveHold business refund hold refundCents refundIsFull input s = .ok r) := by
  cases h with
  | stopped _ e hstop =>
      constructor
      · rintro - ⟨h0, h1, -, r, hm⟩
        rcases hstop with h | h | ⟨e, h⟩
        · exact h h0
        · exact h h1
        · rw [hm] at h
          cases h
      · intro _
        exact .inr ⟨hp.not_recorded rfl, s.not_transitioned_self _ _, hp.quiet⟩
  | lost _ e hbefore hmove hafter =>
      have hrefunds := refunds_of_moveHold business input refund hold refundCents refundIsFull hmove
      have hmoved := transitioned_of_moveHold hmove
      constructor
      · rintro (⟨hrec, -⟩ | ⟨-, hnot, -⟩) -
        · exact hp.not_recorded hrefunds hrec
        · exact hnot hmoved
      · intro hno
        exact absurd ⟨hbefore.1, hbefore.2, hafter, _, hmove⟩ hno
  | @done _ hold' s₂ hmove hafter =>
      constructor
      · rintro - ⟨-, -, h | h, -⟩
        · exact h hafter.1
        · exact h hafter.2
      · intro _
        refine .inl ⟨hp.recorded hmove, ?_, ?_⟩
        · show s.Transitioned s₂ hold.id refund.id
          exact transitioned_of_moveHold hmove
        · exact ⟨_, List.mem_append_right _ (List.mem_singleton.mpr rfl), rfl, rfl⟩

/-- The escrow operation returns exactly when the hold is there and accepts it. -/
theorem moveHold_ok_iff (hs : s.Consistent) (hp : Pending s refund) :
    (∃ r, moveHold business refund hold refundCents refundIsFull input s = .ok r) ↔
      ∃ current, s.escrowHold? hold.id = some current ∧
      Accepts current refundCents refundIsFull := by
  rw [moveHold_eq_exec]
  constructor
  · rintro ⟨r, hm⟩
    obtain ⟨current, target, w, entries, hc, -, -⟩ := EscrowOp.commits_of_exec_eq hm
    have hfound : s.escrowHold? hold.id = some current := by
      rw [← hc.found, holdId_refundOp]
    exact ⟨current, hfound, (commits_iff_accepts hs hfound hp.found).mp ⟨_, _, _, hc⟩⟩
  · rintro ⟨current, hfound, hacc⟩
    obtain ⟨target, w, entries, hc⟩ := (commits_iff_accepts hs hfound hp.found).mpr hacc
    exact ⟨_, hc.exec_eq⟩

end

/-- The success of a refund is recorded in full or not at all, unless the escrow
operation goes through and then the outbox row or the commit fails. -/
theorem handleGatewaySuccess_atomic_iff {config : SystemConfig} {s : Store}
    (hs : Reachable config s) {refund : Refund} (hp : Pending s refund) (hold : EscrowHold)
    (chargeTxn : Transaction) (refundCents : ℤ) (refundIsFull : Bool) (gatewayRefundId : String)
    (input : IssueRefundInput) (env : Resumption.Env HttpOutcome Failure) :
    (Settled s ((handleGatewaySuccess config.business refund hold chargeTxn refundCents
        refundIsFull gatewayRefundId input).run env s).store hold.id refund.id gatewayRefundId ∨
      Untouched s ((handleGatewaySuccess config.business refund hold chargeTxn refundCents
        refundIsFull gatewayRefundId input).run env s).store hold.id refund.id gatewayRefundId) ↔
    ¬(env.faults 0 = none ∧ env.faults 1 = none ∧ (env.faults 2 ≠ none ∨ env.faults 3 ≠ none) ∧
      ∃ current, s.escrowHold? hold.id = some current ∧
        Accepts current refundCents refundIsFull) := by
  obtain ⟨result, s', env', hrun, hends⟩ := handleGatewaySuccess_spec config.business input refund
    hold chargeTxn refundCents refundIsFull env gatewayRefundId hp.found
  rw [hrun, ← moveHold_ok_iff hs.consistent hp]
  exact settled_or_untouched_iff hp hends

theorem sample_pending : Pending Sample.refunding Sample.refund where
  found := rfl
  processing := rfl
  quiet := by
    rintro ⟨o, ho, ht, -⟩
    have hall : ∀ o ∈ Sample.refunding.outboxEvents, o.eventType ≠ .paymentsRefundSucceeded := by
      decide
    exact hall o ho ht

/-- Without failures the refund is recorded in full. -/
theorem handleGatewaySuccess_atomic_iff_sample :
    (Settled Sample.refunding ((handleGatewaySuccess Sample.config.business Sample.refund
        (Sample.payment.hold 100 11 0) (Sample.payment.charge .succeeded 10 0) 300 false "rf-1"
        Sample.input).run (.healthy Sample.pays) Sample.refunding).store 11 15 "rf-1" ∨
      Untouched Sample.refunding ((handleGatewaySuccess Sample.config.business Sample.refund
        (Sample.payment.hold 100 11 0) (Sample.payment.charge .succeeded 10 0) 300 false "rf-1"
        Sample.input).run (.healthy Sample.pays) Sample.refunding).store 11 15 "rf-1") ↔
    ¬((none : Option Failure) = none ∧ (none : Option Failure) = none ∧
      ((none : Option Failure) ≠ none ∨ (none : Option Failure) ≠ none) ∧
      ∃ current, Sample.refunding.escrowHold? 11 = some current ∧ Accepts current 300 false) :=
  handleGatewaySuccess_atomic_iff Sample.refunding_reachable sample_pending
    (Sample.payment.hold 100 11 0) (Sample.payment.charge .succeeded 10 0) 300 false "rf-1"
    Sample.input (.healthy Sample.pays)

/-- The outbox row of the sample refund fails: its row stays `PROCESSING`, but the hold
has moved. -/
theorem handleGatewaySuccess_not_atomic :
    ¬∀ (config : SystemConfig) (s : Store) (refund : Refund) (hold : EscrowHold)
      (chargeTxn : Transaction) (refundCents : ℤ) (refundIsFull : Bool) (gatewayRefundId : String)
      (input : IssueRefundInput) (env : Resumption.Env HttpOutcome Failure),
      Reachable config s → Pending s refund →
      Settled s ((handleGatewaySuccess config.business refund hold chargeTxn refundCents
          refundIsFull gatewayRefundId input).run env s).store hold.id refund.id gatewayRefundId ∨
        Untouched s ((handleGatewaySuccess config.business refund hold chargeTxn refundCents
          refundIsFull gatewayRefundId input).run env s).store hold.id refund.id
          gatewayRefundId := by
  intro h
  rcases h Sample.config Sample.refunding Sample.refund (Sample.payment.hold 100 11 0)
      (Sample.payment.charge .succeeded 10 0) 300 false "rf-1" Sample.input
      ⟨Sample.pays, fun n ↦ if n = 2 then some (.database "outbox insert failed") else none⟩
      Sample.refunding_reachable sample_pending with ⟨⟨r, hr, hst, -⟩, -⟩ | ⟨-, hnot, -⟩
  · cases (rfl : _ = some Sample.refund).symm.trans hr
    cases hst
  · have hmove : moveHold Sample.config.business Sample.refund (Sample.payment.hold 100 11 0) 300
        false Sample.input Sample.refunding = .ok (_, _) := rfl
    exact hnot (transitioned_of_moveHold hmove)

/-! ## Which holds a paid refund can move -/

/-- The input asks for less than what remains of the hold. -/
def AsksPart (input : IssueRefundInput) (hold : EscrowHold) : Prop :=
  input.full ≠ some true ∧ ∃ cents, input.refundCents = some cents ∧ cents ≠ hold.remaining

theorem asksPart_iff {input : IssueRefundInput} {hold : EscrowHold} {chargeTxn : Transaction}
    {plan : RefundPlan} (h : planRefund input hold chargeTxn = .ok plan) :
    AsksPart input hold ↔ plan.refundIsFull = false := by
  obtain ⟨-, -, hfull, hcents, -⟩ := planRefund_spec h
  rw [← Bool.not_eq_true, hfull, hcents]
  constructor
  · rintro ⟨hf, cents, hc, hne⟩ heq
    rw [if_neg (by simp [hf, hc]), hc] at heq
    exact hne heq
  · intro hne
    by_cases hcond : input.full = some true ∨ input.refundCents = none
    · exact absurd (if_pos hcond) hne
    · rw [if_neg hcond] at hne
      obtain ⟨hf, hn⟩ := not_or.mp hcond
      obtain ⟨cents, hc⟩ := Option.ne_none_iff_exists'.mp hn
      exact ⟨hf, cents, hc, by simpa [hc] using hne⟩

/-- Of the holds that the checks let pass, those that are merely held accept the
refund, and those refunded in part accept another part. -/
theorem accepts_iff {input : IssueRefundInput} {hold : EscrowHold} {chargeTxn : Transaction}
    {plan : RefundPlan} (h : planRefund input hold chargeTxn = .ok plan) :
    Accepts hold plan.refundCents plan.refundIsFull ↔
      hold.state = .held ∨ (hold.state = .partiallyRefunded ∧ AsksPart input hold) := by
  obtain ⟨hpos, hle, -⟩ := planRefund_spec h
  rw [asksPart_iff h, Accepts]
  cases plan.refundIsFull with
  | true => simp
  | false => simp [hpos, hle]

/-- When the gateway has paid and nothing interferes, the escrow operation goes through
and everything is recorded exactly when the hold is held, or refunded in part and
another part is asked for. -/
theorem paid_settles_iff {config : SystemConfig} {s : Store} (hs : Reachable config s)
    (input : IssueRefundInput) (answers : ℕ → HttpOutcome) {hold : EscrowHold}
    {chargeTxn : Transaction}
    (hres : ((resolveHoldAndCharge input).run (.healthy answers) s).result = .ok (hold, chargeTxn))
    (hpaid : ∃ x ∈ ((issueRefund config.payfast config.business input).run (.healthy answers)
      s).exchanges, x.2.Paid) :
    ((∃ refund, ((issueRefund config.payfast config.business input).run (.healthy answers)
        s).result = .ok refund) ∧
      (∃ gatewayRefundId, Store.Recorded ((issueRefund config.payfast config.business input).run
        (.healthy answers) s).store s.nextId gatewayRefundId) ∧
      s.Transitioned ((issueRefund config.payfast config.business input).run (.healthy answers)
        s).store hold.id s.nextId) ↔
    hold.state = .held ∨ (hold.state = .partiallyRefunded ∧ AsksPart input hold) := by
  have hcons := hs.consistent
  rcases issueRefund_cases input (.healthy answers) config hcons with
    ⟨e, env', hrun⟩ | ⟨hold₀, charge₀, plan, gatewayResult, requests, result, s', env',
      hres₀, hfound,
      hplan, hrun, hcalls, hends⟩
  · rw [hrun] at hpaid
    obtain ⟨x, hx, -⟩ := hpaid
    exact absurd hx List.not_mem_nil
  · cases hres.symm.trans hres₀
    rw [hrun] at hpaid ⊢
    -- somebody has paid, so the gateway call has succeeded
    obtain ⟨gatewayRefundId, rfl⟩ : ∃ gatewayRefundId, gatewayResult = .ok gatewayRefundId := by
      cases gatewayResult with
      | ok gatewayRefundId => exact ⟨gatewayRefundId, rfl⟩
      | failed retriable status reason =>
          obtain ⟨x, hx, hp⟩ := hpaid
          obtain ⟨i, hi, rfl⟩ := List.mem_map.mp hx
          exact absurd hp (hcalls.failed _ _ _ rfl i (List.mem_range.mp hi))
    have hpend := pending_withRefund hcons input chargeTxn plan.refundCents
    have hmove : (∃ r, moveHold config.business
          (processingRow input chargeTxn plan.refundCents s.nextId s.clock) hold plan.refundCents
          plan.refundIsFull input _ = .ok r) ↔ _ :=
      moveHold_ok_iff (consistent_withRefund hcons input chargeTxn (planRefund_spec hplan).1) hpend
    rw [← accepts_iff hplan]
    cases hends with
    | stopped _ e hstop =>
        constructor
        · rintro ⟨⟨refund, hr⟩, -⟩
          cases hr
        · intro hacc
          obtain ⟨r, hm⟩ := hmove.mpr ⟨hold, hfound, hacc⟩
          rcases hstop with h | h | ⟨e, h⟩
          · exact absurd rfl h
          · exact absurd rfl h
          · cases hm.symm.trans h
    | lost _ e _ _ hafter =>
        rcases hafter with h | h
        · exact absurd rfl h
        · exact absurd rfl h
    | @done _ hold' s₂ hm _ =>
        constructor
        · intro _
          obtain ⟨current, hc, hacc⟩ := hmove.mp ⟨_, hm⟩
          cases hfound.symm.trans hc
          exact hacc
        · intro _
          have hmoved := transitioned_of_moveHold hm
          exact ⟨⟨_, rfl⟩, ⟨gatewayRefundId, hpend.recorded hm⟩, hmoved⟩

/-- A part of the paid booking is refunded. -/
theorem paid_settles_iff_sample :
    ((∃ refund, ((issueRefund Sample.config.payfast Sample.config.business Sample.input).run
        (.healthy Sample.pays) Sample.paid).result = .ok refund) ∧
      (∃ gatewayRefundId, Store.Recorded ((issueRefund Sample.config.payfast Sample.config.business
        Sample.input).run (.healthy Sample.pays) Sample.paid).store Sample.paid.nextId
          gatewayRefundId) ∧
      Sample.paid.Transitioned ((issueRefund Sample.config.payfast Sample.config.business
        Sample.input).run (.healthy Sample.pays) Sample.paid).store 11 Sample.paid.nextId) ↔
    (Sample.payment.hold 100 11 0).state = .held ∨
      ((Sample.payment.hold 100 11 0).state = .partiallyRefunded ∧
        AsksPart Sample.input (Sample.payment.hold 100 11 0)) := by
  have hres : ((resolveHoldAndCharge Sample.input).run (.healthy Sample.pays) Sample.paid).result =
      .ok (Sample.payment.hold 100 11 0, Sample.payment.charge .succeeded 10 0) := rfl
  exact paid_settles_iff Sample.paid_reachable Sample.input Sample.pays hres
    ⟨(⟨"pf-1", 300, "admin"⟩, Sample.pays 0), by decide, "rf-1", rfl⟩

/-- The hold is frozen: the gateway pays and the escrow operation throws. -/
theorem paid_not_settled :
    ¬∀ (config : SystemConfig) (s : Store) (input : IssueRefundInput)
      (answers : ℕ → HttpOutcome) (hold : EscrowHold) (chargeTxn : Transaction),
      Reachable config s →
      ((resolveHoldAndCharge input).run (.healthy answers) s).result = .ok (hold, chargeTxn) →
      (∃ x ∈ ((issueRefund config.payfast config.business input).run (.healthy answers)
        s).exchanges, x.2.Paid) →
      (∃ refund, ((issueRefund config.payfast config.business input).run (.healthy answers)
          s).result = .ok refund) ∧
        (∃ gatewayRefundId, Store.Recorded ((issueRefund config.payfast config.business input).run
          (.healthy answers) s).store s.nextId gatewayRefundId) ∧
        s.Transitioned ((issueRefund config.payfast config.business input).run (.healthy answers)
          s).store hold.id s.nextId := by
  intro h
  obtain ⟨⟨refund, hr⟩, -⟩ := h Sample.config Sample.disputed Sample.input Sample.pays _ _
    Sample.disputed_reachable rfl ⟨(⟨"pf-1", 300, "admin"⟩, Sample.pays 0), by decide, "rf-1", rfl⟩
  have hthrows : ((issueRefund Sample.config.payfast Sample.config.business Sample.input).run
      (.healthy Sample.pays) Sample.disputed).result = .error _ := rfl
  cases hthrows.symm.trans hr

end RefundsService

end GearshPayments
