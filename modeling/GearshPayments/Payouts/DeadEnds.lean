import GearshPayments.Engine
import GearshPayments.Payouts.Once
import GearshPayments.Payouts.Ticks
import GearshPayments.Refunds.Run

/-!
# Dead ends

Whether the operations that the engine exposes can still bring the money of a hold to
somebody.  Money that is held can always be refunded.  Money that was put into a payout
can only be paid out, for the hold is closed: a payout that is queued or has failed can
be paid as soon as nothing but time is missing (`Store.Payable`), and every other payout
that has not succeeded is stuck (`settleable_iff`).
-/

namespace GearshPayments

open Resumption EscrowService

/-- The gateway refunds and pays whatever it is asked for. -/
def Cooperative (answers : ℕ → GatewayReply) : Prop :=
  PaysArtists answers ∧ ∀ n, (answers n).toRefund.Paid

/-- The calls that are exposed once a payment is captured: the escrow operations, refunds, the
admin's retry and cancel, and the jobs.  Time may pass too. -/
def EngineCall.Exposed : EngineCall → Prop
  | .service (.capture ..) | .service (.failure ..) | .method _ => False
  | .service (.escrow _) | .service (.refund _) | .service (.tick _) | .payout _ => True

/-- One of the exposed operations takes the first store to the second, with a gateway that
cooperates. -/
def Operates (config : EngineConfig) (s s' : Store) : Prop :=
  ∃ (c : EngineCall) (answers : ℕ → GatewayReply), c.Exposed ∧ Cooperative answers ∧
    s' = ((c.program config).run (.healthy answers) s).store

/-- Some money of the hold has neither been refunded nor paid out: it is still held, or it is in
a payout that has not succeeded. -/
def Store.Outstanding (s : Store) (holdId : ℕ) : Prop :=
  (∃ h ∈ s.escrowHolds, h.id = holdId ∧ h.state.holdsMoney = true ∧ 0 < h.remaining) ∨
    ∃ p ∈ s.payouts, p.holdId = holdId ∧ p.state ≠ .succeeded

/-- Exposed operations, one after the other, leave nothing outstanding. -/
def Settleable (config : EngineConfig) (s : Store) (holdId : ℕ) : Prop :=
  ∃ s', Relation.ReflTransGen (Operates config) s s' ∧ ¬s'.Outstanding holdId

/-- Nothing but time is missing for the payout to be paid. -/
structure Store.Payable (config : PayoutsConfig) (s : Store) (p : Payout) : Prop where
  /-- A failed payout can be requeued. -/
  state : p.state = .queued ∨ p.state = .failed
  enabled : config.Pays
  noRefund : s.refundInProgress p.holdId = false
  /-- The bank details of the artist are verified, and the account number can be read. -/
  details : ∃ m, s.methodOf? p.artistId = some m ∧ m.isVerified = true ∧
    (config.decrypt m.accountNumberEncrypted).isOk = true

/-- What the operations do to payouts and to what decides about them, when they run alone. -/
structure LoneWrite (config : PayoutsConfig) (s s' : Store) : Prop where
  payout : ∀ {id p}, s.payout? id = some p → ∃ p', s'.payout? id = some p' ∧ p.SameTerms p' ∧
    (p'.state = p.state ∨ ((p.state = .queued ∨ p.state = .failed) ∧ p'.state ≠ .succeeded) ∨
      s.Payable config p)
  outcome : ∀ artistId, config.outcome s' artistId = config.outcome s artistId
  refunds : ∀ holdId, s.refundInProgress holdId = true → s'.refundInProgress holdId = true

namespace LoneWrite

variable {config : PayoutsConfig} {s s' s'' : Store}

theorem refl (s : Store) : LoneWrite config s s where
  payout := fun {_ p} hp ↦ ⟨p, hp, .refl p, .inl rfl⟩
  outcome := fun _ ↦ rfl
  refunds := fun _ h ↦ h

/-- What is missing for a payout is still missing afterwards. -/
theorem payable (h : LoneWrite config s s') {p p' : Payout} (hp : p.SameTerms p')
    (hstate : p.state = .queued ∨ p.state = .failed) (h' : s'.Payable config p') :
    s.Payable config p where
  state := hstate
  enabled := h'.enabled
  noRefund := by
    rw [Bool.eq_false_iff]
    intro hrefund
    have hfalse := h'.noRefund
    rw [hp.holdId, h.refunds _ hrefund] at hfalse
    cases hfalse
  details := by
    have hout := PayoutsConfig.outcome_eq_succeeded_iff.mpr ⟨h'.enabled.2.1, h'.details⟩
    rw [hp.artistId, h.outcome] at hout
    exact (PayoutsConfig.outcome_eq_succeeded_iff.mp hout).2

theorem trans (h : LoneWrite config s s') (h' : LoneWrite config s' s'') :
    LoneWrite config s s'' where
  payout := by
    intro id p hp
    obtain ⟨p', hp', hterms, hstate⟩ := h.payout hp
    obtain ⟨p'', hp'', hterms', hstate'⟩ := h'.payout hp'
    refine ⟨p'', hp'', hterms.trans hterms', ?_⟩
    rcases hstate with hsame | ⟨hopen, hne⟩ | hpayable
    · rcases hstate' with hsame' | ⟨hopen', hne'⟩ | hpayable'
      · exact .inl (hsame'.trans hsame)
      · exact .inr (.inl ⟨hsame ▸ hopen', hne'⟩)
      · exact .inr (.inr (h.payable hterms (hsame ▸ hpayable'.state) hpayable'))
    · rcases hstate' with hsame' | ⟨-, hne'⟩ | hpayable'
      · exact .inr (.inl ⟨hopen, hsame' ▸ hne⟩)
      · exact .inr (.inl ⟨hopen, hne'⟩)
      · exact .inr (.inr (h.payable hterms hopen hpayable'))
    · exact .inr (.inr hpayable)
  outcome := fun artistId ↦ (h'.outcome artistId).trans (h.outcome artistId)
  refunds := fun holdId hr ↦ h'.refunds holdId (h.refunds holdId hr)

/-- An update of one payout that is queued or has failed, which does not make it succeed. -/
theorem of_update {id : ℕ} {f : Payout → Payout} (hw : PayoutWrite s s')
    (hp : s'.payouts = Table.update Payout.id id f s.payouts) (hf : ∀ p : Payout, p.SameTerms (f p))
    (hst : ∀ p, s.payout? id = some p → (f p).state = p.state ∨
      ((p.state = .queued ∨ p.state = .failed) ∧ (f p).state ≠ .succeeded)) :
    LoneWrite config s s' where
  payout := by
    intro k p hk
    have hfind : s'.payout? k = if k = id then (s.payout? k).map f else s.payout? k := by
      rw [Store.payout?, hp]
      exact Table.find_update (fun p ↦ (hf p).id) s.payouts
    rw [hfind, hk]
    by_cases hid : k = id
    · subst hid
      rw [if_pos rfl]
      refine ⟨f p, rfl, hf p, ?_⟩
      rcases hst p hk with h | h
      · exact .inl h
      · exact .inr (.inl h)
    · rw [if_neg hid]
      exact ⟨p, rfl, .refl p, .inl rfl⟩
  outcome := hw.outcome config
  refunds := fun holdId h ↦ (hw.refundInProgress holdId).trans h

end LoneWrite

/-! ## The payouts' own calls -/

section PayoutCalls

variable (config : PayoutsConfig) (answers : ℕ → GatewayReply) (s : Store) (id : ℕ)

/-- The admin's retry requeues a payout that has failed, and does nothing else. -/
theorem retry_store :
    (((PayoutCall.retry id).program config).run (.healthy answers) s).store =
      if s.payoutState id = some .failed then
        { s with payouts := Table.update Payout.id id Payout.requeue s.payouts }
      else s := by
  unfold PayoutCall.program PayoutsService.retry Store.payoutState
  dsimp only
  rw [store_discard, run_bind_ok_nil (run_read_healthy _ answers s)]
  cases hrow : s.payout? id with
  | none => rfl
  | some row =>
      dsimp only [Option.map_some]
      by_cases hfailed : row.state = .failed
      · rw [if_neg (by rw [hfailed]; exact fun h ↦ by cases h), if_neg (not_not.mpr hfailed),
          if_pos (congrArg some hfailed)]
        rw [run_transaction rfl (Tx.updatePayout_apply hrow)]
      · rw [if_pos hfailed, if_neg fun h ↦ hfailed (Option.some.inj h)]
        split <;> rfl

/-- The admin's cancel cancels a payout that is queued, and does nothing else. -/
theorem cancel_store (reason : Option String) :
    (((PayoutCall.cancel id reason).program config).run (.healthy answers) s).store =
      if s.payoutState id = some .queued then
        { s with payouts := Table.update Payout.id id (Payout.cancel reason s.clock) s.payouts }
      else s := by
  unfold PayoutCall.program PayoutsService.cancel Store.payoutState
  dsimp only
  rw [store_discard, run_bind_ok_nil (run_read_healthy _ answers s)]
  cases hrow : s.payout? id with
  | none => rfl
  | some row =>
      dsimp only [Option.map_some]
      by_cases hqueued : row.state = .queued
      · have htx : (Tx.now >>= fun now ↦ Tx.updatePayout id (Payout.cancel reason now)) s = _ :=
          (Tx.bind_ok (Tx.now_apply s)).trans (Tx.updatePayout_apply hrow)
        rw [if_neg (by rw [hqueued]; exact fun h ↦ by cases h), if_neg (not_not.mpr hqueued),
          if_pos (congrArg some hqueued)]
        change ((transaction (Tx.now >>= fun now ↦ Tx.updatePayout id (Payout.cancel reason now)) :
          Engine Payout).run _ s).store = _
        rw [run_transaction rfl htx]
      · rw [if_pos hqueued, if_neg fun h ↦ hqueued (Option.some.inj h)]
        split <;> rfl

variable {config answers s}

theorem loneWrite_requeue {row : Payout} {s' : Store} {count : ℕ}
    (h : PayoutRetryJob.requeue row s = .ok (count, s')) : LoneWrite config s s' := by
  have hw := payoutWrite_requeue h
  cases h
  have hpayouts := Tx.updateMany_eq_update row.id (fun p ↦ p.state = .failed)
    Payout.requeue s.payouts
  refine .of_update hw hpayouts (fun p ↦ ?_) fun p _ ↦ ?_
  · split
    · exact p.sameTerms_requeue
    · exact .refl p
  · split
    case isTrue hfailed => exact .inr ⟨.inr hfailed, fun h ↦ by cases h⟩
    case isFalse => exact .inl rfl

/-- A tick of the dispatcher pays the payable payouts of its batch. -/
theorem loneWrite_dispatch (hpays : PaysArtists answers) (hs : (s.payouts.map Payout.id).Nodup) :
    LoneWrite config s ((PayoutCall.dispatch.program config).run (.healthy answers) s).store := by
  by_cases henabled : config.dispatchEnabled = true ∧ config.payfast.enabled = true
  · let s' := ((PayoutCall.dispatch.program config).run (.healthy answers) s).store
    have hdone := PayoutDispatcherJob.dispatch_run henabled hpays hs
    refine ⟨fun {id p} hp ↦ ?_, hdone.write.outcome config, fun holdId h ↦ ?_⟩
    · obtain ⟨f, hf, hpayouts⟩ := hdone.write.payouts
      have hfind : s'.payout? id = some (f p) := by
        rw [Store.payout?, hpayouts, Table.find_map fun p ↦ (hf p).id]
        exact congrArg (Option.map f) hp
      have hstate : s'.payoutState id = some (f p).state := congrArg (Option.map Payout.state) hfind
      obtain ⟨hmem, rfl⟩ := Table.find_some hp
      refine ⟨f p, hfind, hf p, ?_⟩
      by_cases hin : p ∈ PayoutDispatcherJob.pickCandidates config.dispatchBatchSize s
      · obtain ⟨hqueued, -, hrefund⟩ := of_decide_eq_true (mem_of_mem_pickCandidates hin).2
        have heq : (f p).state = config.outcome s p.artistId :=
          Option.some.inj (hstate.symm.trans (hdone.done p hin))
        by_cases hout : config.outcome s p.artistId = .succeeded
        · obtain ⟨hready, hdetails⟩ := PayoutsConfig.outcome_eq_succeeded_iff.mp hout
          have hsize : 0 < config.dispatchBatchSize :=
            (List.length_pos_of_mem hin).trans_le (List.length_take_le _ _)
          exact .inr (.inr ⟨.inl hqueued, ⟨henabled.1, hready, hsize⟩, hrefund, hdetails⟩)
        · exact .inr (.inl ⟨.inl hqueued, heq ▸ hout⟩)
      · exact .inl (Option.some.inj (hstate.symm.trans (hdone.state_of_notMem hs hmem hin)))
    · exact (hdone.write.refundInProgress holdId).trans h
  · have hoff : (PayoutCall.dispatch.program config) = .ret () := by
      unfold PayoutCall.program PayoutDispatcherJob.cron
      dsimp only
      by_cases hdispatch : config.dispatchEnabled = false
      · rw [if_pos hdispatch]
        rfl
      · rw [if_neg hdispatch, if_pos]
        · rfl
        · exact Bool.eq_false_iff.mpr fun h ↦ henabled ⟨Bool.of_not_eq_false hdispatch, h⟩
    rw [hoff]
    exact .refl s

theorem PayoutCall.loneWrite (c : PayoutCall) (hpays : PaysArtists answers)
    (hs : (s.payouts.map Payout.id).Nodup) :
    LoneWrite config s ((c.program config).run (.healthy answers) s).store := by
  have hwrite : PayoutWrite s ((c.program config).run (.healthy answers) s).store := by
    have hg : Guarantees (fun _ ↦ True) PayoutWrite (c.program config) := c.guarantees config
    exact hg.run PayoutWrite.refl PayoutWrite.trans _ s
  cases c with
  | dispatch => exact loneWrite_dispatch hpays hs
  | retryFailed =>
      have hg : Guarantees (fun _ ↦ True) (LoneWrite config)
          (PayoutCall.retryFailed.program config) :=
        (guarantees_retryFailed config (fun s _ ↦ .refl s) fun _ _ _ _ _ h ↦
          loneWrite_requeue h).discard
      exact hg.run LoneWrite.refl LoneWrite.trans _ s
  | retry id =>
      rw [retry_store] at hwrite ⊢
      split
      case isFalse => exact .refl s
      case isTrue hfailed =>
        rw [if_pos hfailed] at hwrite
        refine .of_update hwrite rfl Payout.sameTerms_requeue fun p hp ↦
          .inr ⟨.inr ?_, fun h ↦ by cases h⟩
        rw [Store.payoutState, hp] at hfailed
        exact Option.some.inj hfailed
  | cancel id reason =>
      rw [cancel_store] at hwrite ⊢
      split
      case isFalse => exact .refl s
      case isTrue hqueued =>
        rw [if_pos hqueued] at hwrite
        refine .of_update hwrite rfl (Payout.sameTerms_cancel reason s.clock) fun p hp ↦
          .inr ⟨.inl ?_, fun h ↦ by cases h⟩
        rw [Store.payoutState, hp] at hqueued
        exact Option.some.inj hqueued
  | tick clock => exact ⟨fun {_ p} hp ↦ ⟨p, hp, .refl p, .inl rfl⟩, fun _ ↦ rfl, fun _ h ↦ h⟩

end PayoutCalls

/-! ## The services' calls -/

/-- Payouts are as they were, except that queued ones may have been cancelled. -/
structure PayoutsFollow (s s' : Store) : Prop where
  payout : ∀ {id p}, s.payout? id = some p → ∃ p', s'.payout? id = some p' ∧ p.KeptOrCancelled p'
  methods : s'.artistPayoutMethods = s.artistPayoutMethods

theorem QueueWrite.follow {s s' : Store} (h : QueueWrite s s') : PayoutsFollow s s' :=
  ⟨fun hp ↦ h.payout? hp, h.methods⟩

theorem Payout.KeptOrCancelled.trans {p p' p'' : Payout} (h : p.KeptOrCancelled p')
    (h' : p'.KeptOrCancelled p'') : p.KeptOrCancelled p'' where
  toSameTerms := h.toSameTerms.trans h'.toSameTerms
  state := by
    rcases h.state with hsame | ⟨hqueued, hcancelled⟩
    · rw [← hsame]
      exact h'.state
    · rcases h'.state with hsame | ⟨hqueued', -⟩
      · exact .inr ⟨hqueued, hsame.trans hcancelled⟩
      · rw [hcancelled] at hqueued'
        cases hqueued'

theorem PayoutsFollow.refl (s : Store) : PayoutsFollow s s :=
  ⟨fun {_ p} hp ↦ ⟨p, hp, .refl p⟩, rfl⟩

theorem PayoutsFollow.trans {s s' s'' : Store} (h : PayoutsFollow s s')
    (h' : PayoutsFollow s' s'') :
    PayoutsFollow s s'' where
  payout := by
    intro id p hp
    obtain ⟨p', hp', hkept⟩ := h.payout hp
    obtain ⟨p'', hp'', hkept'⟩ := h'.payout hp'
    exact ⟨p'', hp'', hkept.trans hkept'⟩
  methods := h'.methods.trans h.methods

theorem ServiceCall.follow_run (system : SystemConfig) (c : ServiceCall)
    (env : Env HttpOutcome Failure)
    (s : Store) : PayoutsFollow s ((c.program system).run env s).store := by
  have hg : Guarantees (fun _ ↦ True) QueueWrite (c.program system) := c.guarantees_queue system
  exact (hg.mono (fun _ h ↦ h) fun _ _ _ h ↦ h.follow).run PayoutsFollow.refl
    PayoutsFollow.trans env s

/-- Refunds that were there are as they were, and of the holds that they are for. -/
structure RefundsKept (s s' : Store) : Prop where
  refunds : ∀ r ∈ s.refunds, r ∈ s'.refunds
  transactions : ∀ t ∈ s.transactions, t ∈ s'.transactions
  holds : ∀ h ∈ s.escrowHolds, ∃ h' ∈ s'.escrowHolds, h'.id = h.id ∧
    h'.paymentIntentId = h.paymentIntentId

namespace RefundsKept

variable {s s' s'' : Store}

/-- Rows are added or nothing is done to refunds. -/
theorem of_append (hr : ∃ rs, s'.refunds = s.refunds ++ rs) (ht : s'.transactions = s.transactions)
    (hh : s'.escrowHolds = s.escrowHolds) : RefundsKept s s' where
  refunds := by
    obtain ⟨rs, hr⟩ := hr
    rw [hr]
    exact fun r hm ↦ List.mem_append_left rs hm
  transactions := by
    rw [ht]
    exact fun _ hm ↦ hm
  holds := by
    rw [hh]
    exact fun h hm ↦ ⟨h, hm, rfl, rfl⟩

theorem refl (s : Store) : RefundsKept s s := of_append ⟨[], (List.append_nil _).symm⟩ rfl rfl

theorem trans (h : RefundsKept s s') (h' : RefundsKept s' s'') : RefundsKept s s'' where
  refunds := fun r hm ↦ h'.refunds r (h.refunds r hm)
  transactions := fun t hm ↦ h'.transactions t (h.transactions t hm)
  holds := by
    intro x hx
    obtain ⟨x', hx', hid, hintent⟩ := h.holds x hx
    obtain ⟨x'', hx'', hid', hintent'⟩ := h'.holds x' hx'
    exact ⟨x'', hx'', hid'.trans hid, hintent'.trans hintent⟩

/-- An update of the row of another refund. -/
theorem announced (h : RefundsKept s s') {id : ℕ} (hid : ∀ r ∈ s.refunds, r.id ≠ id)
    (f : Refund → Refund) (notice : EnqueueInput) : RefundsKept s (s'.announced id f notice) where
  refunds := fun r hm ↦ Table.mem_update.mpr ⟨r, h.refunds r hm, (if_neg (hid r hm)).symm⟩
  transactions := h.transactions
  holds := h.holds

theorem refundInProgress (h : RefundsKept s s') {holdId : ℕ}
    (hr : s.refundInProgress holdId = true) :
    s'.refundInProgress holdId = true := by
  unfold Store.refundInProgress at hr ⊢
  simp only [List.any_eq_true, decide_eq_true_eq] at hr ⊢
  obtain ⟨r, hr, hstate, t, ht, htid, hold, hhold, hintent, hid⟩ := hr
  obtain ⟨hold', hhold', hid', hintent'⟩ := h.holds hold hhold
  exact ⟨r, h.refunds r hr, hstate, t, h.transactions t ht, htid, hold', hhold',
    hintent'.trans hintent, hid'.trans hid⟩

theorem exec {business : BusinessConfig} {op : EscrowOp} {hold : EscrowHold}
    (h : op.exec business s = .ok (hold, s')) : RefundsKept s s' := by
  obtain ⟨hold, target, w, entries, hc, -, rfl⟩ := EscrowOp.commits_of_exec_eq h
  refine ⟨fun _ hm ↦ hm, fun _ hm ↦ hm, fun x hx ↦ ⟨_, Table.mem_update.mpr ⟨x, hx, rfl⟩, ?_⟩⟩
  split
  · exact ⟨(EscrowOp.update_of_work hc.work x).2.id,
      (EscrowOp.update_of_work hc.work x).2.paymentIntentId⟩
  · exact ⟨rfl, rfl⟩

end RefundsKept

section Refunds

open RefundsService

variable {s₀ : Store}

theorem guarantees_update_kept {id : ℕ} (hid : ∀ r ∈ s₀.refunds, r.id ≠ id) (f : Refund → Refund)
    (notice : ℕ → EnqueueInput) :
    Guarantees (fun s ↦ s.Consistent ∧ RefundsKept s₀ s) (fun _ ↦ RefundsKept s₀)
      (transaction (do
        let r ← Tx.updateRefund id f
        discard <| OutboxService.enqueue (notice (← Tx.now))
        return r) : Service Refund) := by
  refine guarantees_transaction (fun _ hs ↦ hs.2) fun s a s' hs h ↦ ?_
  obtain ⟨r, -, rfl⟩ := of_announce_ok notice h
  exact hs.2.announced hid _ _

/-- The row that a refund is about is the only one that it writes. -/
theorem guarantees_executeRefund_kept (system : SystemConfig) (input : IssueRefundInput)
    (hold : EscrowHold) (chargeTxn : Transaction) (plan : RefundPlan) {refund : Refund}
    (hid : ∀ r ∈ s₀.refunds, r.id ≠ refund.id) :
    Guarantees (fun s ↦ s.Consistent ∧ RefundsKept s₀ s) (fun _ ↦ RefundsKept s₀)
      (executeRefund system.payfast system.business input hold chargeTxn plan refund) := by
  have hrefl : ∀ s, s.Consistent ∧ RefundsKept s₀ s → RefundsKept s₀ s := fun _ hs ↦ hs.2
  have hmove : ∀ op : EscrowOp, Guarantees (fun s ↦ s.Consistent ∧ RefundsKept s₀ s)
      (fun _ ↦ RefundsKept s₀) (transaction (op.exec system.business) : Service EscrowHold) :=
    fun _ ↦ guarantees_transaction hrefl fun _ _ _ hs h ↦ hs.2.trans (.exec h)
  refine (guarantees_attemptRefund _ _ _ _).bind fun result ↦ ?_
  cases result with
  | failed retriable status reason =>
      exact (guarantees_update_kept hid _ _).bind fun _ ↦ guarantees_throw _
  | ok gatewayRefundId =>
      refine (guarantees_read hrefl _).bind fun r ↦ ?_
      dsimp only
      split
      · trivial
      · rw [moveHold_eq_exec]
        refine (hmove _).discard.bind fun _ ↦ (guarantees_statement hrefl).bind fun _ ↦ ?_
        exact guarantees_update_kept hid _ fun _ ↦
          succeededNotice refund hold chargeTxn plan.refundCents gatewayRefundId input r.2

/-- That row is a new one. -/
theorem guarantees_issueRefund_kept (system : SystemConfig) (input : IssueRefundInput) :
    Guarantees (fun s ↦ s.Consistent ∧ RefundsKept s₀ s) (fun _ ↦ RefundsKept s₀)
      (issueRefund system.payfast system.business input) := by
  refine (guarantees_resolveHoldAndCharge (fun _ hs ↦ hs.2) input).bind fun x ↦ ?_
  obtain ⟨hold, chargeTxn⟩ := x
  dsimp only
  cases planRefund input hold chargeTxn with
  | error e => exact guarantees_throw e
  | ok plan =>
      refine ⟨fun s hs ↦ ⟨hs.2.trans (.of_append ⟨[_], rfl⟩ rfl rfl), ?_⟩, fun _ ↦ trivial⟩
      refine guarantees_executeRefund_kept system input hold chargeTxn plan fun r hm ↦ ?_
      exact (hs.1.refunds r (hs.2.refunds r hm)).1.ne

theorem keeps_issueRefund_kept (system : SystemConfig) (input : IssueRefundInput) :
    Keeps (fun s ↦ s.Consistent ∧ RefundsKept s₀ s)
      (issueRefund system.payfast system.business input) :=
  (guarantees_issueRefund_kept system input).keeps_and
    ((writes_consistent system.business).issueRefund system.payfast input).keeps

end Refunds

/-- A call of the services among those of the engine. -/
theorem EngineCall.store_service (config : EngineConfig) (c : ServiceCall)
    (answers : ℕ → GatewayReply)
    (s : Store) : (((EngineCall.service c).program config).run (.healthy answers) s).store =
      ((c.program config.system).run (.healthy fun n ↦ (answers n).toRefund) s).store :=
  run_relabel GatewayRequest.refund GatewayReply.toRefund (c.program config.system) _ s

theorem ServiceCall.loneWrite (config : EngineConfig) {c : ServiceCall}
    (hc : (EngineCall.service c).Exposed) (answers : ℕ → GatewayReply) {s : Store}
    (hs : s.Consistent) :
    LoneWrite config.payouts s
      (((EngineCall.service c).program config).run (.healthy answers) s).store := by
  let env : Env HttpOutcome Failure := .healthy fun n ↦ (answers n).toRefund
  have hfollow := c.follow_run config.system env s
  have hkept : RefundsKept s ((c.program config.system).run env s).store := by
    cases c with
    | capture => exact absurd hc not_false
    | failure => exact absurd hc not_false
    | escrow op =>
        unfold ServiceCall.program
        dsimp only
        rw [store_discard]
        cases hx : op.exec config.business s with
        | error e =>
            have hrun : (transaction (op.exec config.business) :
                Service EscrowHold).run env s = _ :=
              run_transaction_error rfl hx
            exact hrun ▸ .refl s
        | ok r =>
            have hrun : (transaction (op.exec config.business) :
                Service EscrowHold).run env s = _ :=
              run_transaction rfl hx
            exact hrun ▸ .exec hx
    | refund input =>
        unfold ServiceCall.program
        dsimp only
        rw [store_discard]
        exact ((keeps_issueRefund_kept config.system input).run ⟨hs, .refl s⟩ env).2
    | tick clock => exact .of_append ⟨[], (List.append_nil _).symm⟩ rfl rfl
  rw [EngineCall.store_service]
  refine ⟨fun hp ↦ ?_, fun artistId ↦ ?_, fun _ h ↦ hkept.refundInProgress h⟩
  · obtain ⟨p', hp', hp⟩ := hfollow.payout hp
    refine ⟨p', hp', hp.toSameTerms, ?_⟩
    rcases hp.state with hsame | ⟨hqueued, hcancelled⟩
    · exact .inl hsame
    · exact .inr (.inl ⟨.inl hqueued, by rw [hcancelled]; exact fun h ↦ by cases h⟩)
  · unfold PayoutsConfig.outcome Store.methodOf?
    rw [hfollow.methods]

/-! ## Steps -/

/-- A reply that refunds and pays. -/
def paysBoth : ℕ → GatewayReply := fun _ ↦ .resolved 200 (some "refund") (some "payout") none

theorem cooperative_paysBoth : Cooperative paysBoth := ⟨fun _ ↦ rfl, fun _ ↦ ⟨"refund", rfl⟩⟩

section Steps

variable {config : EngineConfig} {s s' : Store}

theorem Operates.loneWrite (h : Operates config s s') (hs : s.EngineConsistent) :
    LoneWrite config.payouts s s' := by
  obtain ⟨c, answers, hc, hcooperates, rfl⟩ := h
  cases c with
  | service c => exact c.loneWrite config hc answers hs.toConsistent
  | payout c => exact c.loneWrite hcooperates.1 hs.payouts.distinct
  | method c => exact absurd hc not_false

theorem Operates.engineConsistent (h : Operates config s s') (hs : s.EngineConsistent) :
    s'.EngineConsistent := by
  obtain ⟨c, answers, -, -, rfl⟩ := h
  exact (c.keeps config).run hs _

theorem operates_exec {op : EscrowOp} {hold : EscrowHold}
    (h : op.exec config.business s = .ok (hold, s')) : Operates config s s' := by
  let env : Env HttpOutcome Failure := .healthy fun n ↦ (paysBoth n).toRefund
  have hrun : (transaction (op.exec config.business) : Service EscrowHold).run env s = _ :=
    run_transaction rfl h
  have hstore : (((ServiceCall.escrow op).program config.system).run env s).store = s' := by
    unfold ServiceCall.program
    dsimp only
    rw [store_discard]
    exact congrArg Run.store hrun
  refine ⟨.service (.escrow op), paysBoth, trivial, cooperative_paysBoth, ?_⟩
  rw [EngineCall.store_service]
  exact hstore.symm

theorem operates_payout {c : PayoutCall} (config : EngineConfig) (s : Store) :
    Operates config s ((c.program config.payouts).run (.healthy paysBoth) s).store :=
  ⟨.payout c, paysBoth, trivial, cooperative_paysBoth, rfl⟩

theorem operates_ticks (config : EngineConfig) (n : ℕ) (s : Store) :
    Relation.ReflTransGen (Operates config) s
      (runAll (.healthy paysBoth) (ticks config.payouts n) s).1 := by
  induction n generalizing s with
  | zero => exact .refl
  | succ n ih => exact .head (operates_payout config s) (ih _)

/-! ## Stuck payouts -/

/-- The payout has not succeeded, and more than time is missing for it to be paid. -/
def Store.Stuck (config : PayoutsConfig) (id holdId : ℕ) (s : Store) : Prop :=
  ∃ p, s.payout? id = some p ∧ p.holdId = holdId ∧ p.state ≠ .succeeded ∧ ¬s.Payable config p

theorem LoneWrite.stuck {config : PayoutsConfig} (h : LoneWrite config s s') {id holdId : ℕ}
    (hs : s.Stuck config id holdId) : s'.Stuck config id holdId := by
  obtain ⟨p, hp, hid, hne, hnot⟩ := hs
  obtain ⟨p', hp', hterms, hsame | ⟨hopen, hne'⟩ | hpayable⟩ := h.payout hp
  · refine ⟨p', hp', hterms.holdId.trans hid, hsame ▸ hne, fun h' ↦ hnot ?_⟩
    exact h.payable hterms (hsame ▸ h'.state) h'
  · exact ⟨p', hp', hterms.holdId.trans hid, hne', fun h' ↦ hnot (h.payable hterms hopen h')⟩
  · exact absurd hpayable hnot

/-- No operations settle the hold of a stuck payout. -/
theorem not_settleable_of_stuck (hs : s.EngineConsistent) {id holdId : ℕ}
    (hstuck : s.Stuck config.payouts id holdId) : ¬Settleable config s holdId := by
  rintro ⟨s', hsteps, hsettled⟩
  have hinv : s'.EngineConsistent ∧ s'.Stuck config.payouts id holdId := by
    clear hsettled
    induction hsteps with
    | refl => exact ⟨hs, hstuck⟩
    | tail _ hstep ih => exact ⟨hstep.engineConsistent ih.1, (hstep.loneWrite ih.1).stuck ih.2⟩
  obtain ⟨p, hp, hid, hne, -⟩ := hinv.2
  exact hsettled (.inr ⟨p, (Table.find_some hp).1, hid, hne⟩)

/-! ## Money that is held -/

/-- The hold of a payout is closed, so one that holds money has none. -/
theorem Store.EngineConsistent.holdId_ne (hs : s.EngineConsistent) {hold : EscrowHold}
    (hm : hold ∈ s.escrowHolds) (hopen : hold.state.holdsMoney = true) {p : Payout}
    (hp : p ∈ s.payouts) : p.holdId ≠ hold.id := by
  intro hid
  obtain ⟨h, hh, hhid, hclosed⟩ := hs.payouts.closed p hp
  rw [List.inj_on_of_nodup_map hs.conserved.distinct hh hm (hhid.trans hid)] at hclosed
  rcases isTerminal_iff.mp hclosed with h | h <;> rw [h] at hopen <;> cases hopen

/-- A disputed hold is refunded by its resolution. -/
theorem settles_disputed (config : EngineConfig) (hs : s.EngineConsistent) {hold : EscrowHold}
    (hm : hold ∈ s.escrowHolds) (hd : hold.state = .disputed) :
    ∃ s', Operates config s s' ∧ ¬s'.Outstanding hold.id := by
  have hfound : s.escrowHold? hold.id = some hold :=
    (Table.find_eq_some_iff hs.conserved.distinct).mpr hm
  have hlegal : transitions hold.state .resolveRefund = some .refunded := by
    rw [hd]
    rfl
  have hbounds := hs.conserved.bounds hm
  have hentries : LedgerService.buildRefundEntries hold.snapshot
      (hold.amountCents - hold.partiallyRefundedAmountCents) .artist true = .ok _ :=
    LedgerService.buildRefundEntries_eq_ok_iff.mpr
      ⟨sub_nonneg.mpr hbounds.2, sub_le_self _ hbounds.1, rfl⟩
  have hcommits : (EscrowOp.resolveRefund hold.id {}).Commits s hold .refunded _ _ :=
    ⟨trivial, hfound, hlegal, rfl, rfl, hentries, LedgerService.sound_buildRefundEntries hentries⟩
  refine ⟨_, operates_exec hcommits.exec_eq, ?_⟩
  rintro (⟨h, hh, hid, hopen, -⟩ | ⟨p, hp, hid, -⟩)
  · obtain ⟨x, hx, rfl⟩ := Table.mem_update.mp hh
    by_cases hxid : x.id = hold.id
    · rw [if_pos hxid, (EscrowOp.update_of_work hcommits.work x).1] at hopen
      cases hopen
    · rw [if_neg hxid] at hid
      exact hxid hid
  · -- nothing is paid out
    rcases List.mem_append.mp hp with hp | hp
    · exact hs.holdId_ne hm (by rw [hd]; rfl) hp hid
    · cases hp

/-- Money that is held can be refunded, after a dispute if need be. -/
theorem settleable_of_held (hs : s.EngineConsistent) {hold : EscrowHold} (hm : hold ∈ s.escrowHolds)
    (hopen : hold.state.holdsMoney = true) : Settleable config s hold.id := by
  by_cases hd : hold.state = .disputed
  · obtain ⟨s', hstep, hsettled⟩ := settles_disputed config hs hm hd
    exact ⟨s', .single hstep, hsettled⟩
  · have hfound : s.escrowHold? hold.id = some hold :=
      (Table.find_eq_some_iff hs.conserved.distinct).mpr hm
    have hstate : hold.state = .held ∨ hold.state = .partiallyRefunded := by
      cases h : hold.state <;> rw [h] at hd hopen
      case held => exact .inl rfl
      case partiallyRefunded => exact .inr rfl
      case disputed => exact absurd rfl hd
      case released => cases hopen
      case refunded => cases hopen
    obtain ⟨hold', s₁, hx, frozen, hfrozen, hdisputed, -, -⟩ :=
      exists_freeze config.business hfound hstate { reason := "" }
    have hstep : Operates config s s₁ := operates_exec hx
    obtain ⟨hmem, hid⟩ := Table.find_some hfrozen
    obtain ⟨s', hstep', hsettled⟩ :=
      settles_disputed config (hstep.engineConsistent hs) hmem hdisputed
    exact ⟨s', .head hstep (.single hstep'), hid ▸ hsettled⟩

/-! ## Payouts that can be paid -/

/-- A payout that has failed is requeued; a queued one is left alone. -/
theorem exists_requeued (config : EngineConfig) {p : Payout} (hp : s.payout? p.id = some p)
    (hopen : p.state = .queued ∨ p.state = .failed) :
    ∃ s' p', Operates config s s' ∧ PayoutWrite s s' ∧ s'.payout? p.id = some p' ∧
      p.SameTerms p' ∧ p'.state = .queued := by
  have hstep : Operates config s _ := operates_payout (c := .retry p.id) config s
  rw [retry_store] at hstep
  rcases hopen with hqueued | hfailed
  · have hne : s.payoutState p.id ≠ some .failed := by
      rw [Store.payoutState, hp, Option.map_some, hqueued]
      exact fun h ↦ by cases h
    rw [if_neg hne] at hstep
    exact ⟨s, p, hstep, .refl s, hp, .refl p, hqueued⟩
  · have heq : s.payoutState p.id = some .failed := by
      rw [Store.payoutState, hp, Option.map_some, hfailed]
    rw [if_pos heq] at hstep
    have hfound := Table.find_update_self (f := Payout.requeue) (fun _ ↦ rfl) hp
    refine ⟨_, p.requeue, hstep, ?_, hfound, p.sameTerms_requeue, rfl⟩
    exact payoutWrite_update Payout.sameTerms_requeue (Tx.updatePayout_apply hp)

/-- A payable payout is paid: it is requeued if need be, its time comes, and the dispatcher ticks
until it is in a batch. -/
theorem exists_paid (hs : s.EngineConsistent) {p : Payout} (hp : s.payout? p.id = some p)
    (hpayable : s.Payable config.payouts p) :
    ∃ s', Relation.ReflTransGen (Operates config) s s' ∧ PayoutWrite s s' ∧
      s'.payoutState p.id = some .succeeded := by
  obtain ⟨s₁, p₁, hstep₁, hwrite₁, hp₁, hterms, hqueued⟩ := exists_requeued config hp hpayable.state
  have hstep₂ : Operates config s₁ { s₁ with clock := p₁.dispatchAfter } :=
    operates_payout (c := .tick p₁.dispatchAfter) config s₁
  have hwrite₂ := hwrite₁.trans (payoutWrite_tick s₁ p₁.dispatchAfter)
  have hs₂ := hstep₂.engineConsistent (hstep₁.engineConsistent hs)
  have hdue : PayoutDispatcherJob.due { s₁ with clock := p₁.dispatchAfter } p₁ = true := by
    refine decide_eq_true ⟨hqueued, le_rfl, ?_⟩
    rw [hwrite₂.refundInProgress, hterms.holdId]
    exact hpayable.noRefund
  obtain ⟨hdispatch, hready, hsize⟩ := hpayable.enabled
  obtain ⟨n, hwrite₃, hdone, -⟩ := exists_ticks ⟨hdispatch, hready.1⟩ hsize cooperative_paysBoth.1
    hs₂.payouts.distinct hp₁ hdue
  refine ⟨_, .head hstep₁ (.head hstep₂ (operates_ticks config n _)), hwrite₂.trans hwrite₃, ?_⟩
  rw [hdone, hwrite₂.outcome, hterms.artistId]
  exact congrArg some (PayoutsConfig.outcome_eq_succeeded_iff.mpr ⟨hready, hpayable.details⟩)

theorem settleable_of_payable (hs : s.EngineConsistent) {p : Payout} (hp : p ∈ s.payouts)
    (hpayable : s.Payable config.payouts p) : Settleable config s p.holdId := by
  have hfound : s.payout? p.id = some p := (Table.find_eq_some_iff hs.payouts.distinct).mpr hp
  obtain ⟨s', hsteps, hwrite, hpaid⟩ := exists_paid hs hfound hpayable
  refine ⟨s', hsteps, ?_⟩
  rintro (⟨h, hh, hid, hopen, -⟩ | ⟨q, hq, hid, hne⟩)
  · rw [hwrite.escrowHolds] at hh
    exact hs.holdId_ne hh hopen hp hid.symm
  · -- the hold has no other payout
    obtain ⟨f, hf, hpayouts⟩ := hwrite.payouts
    rw [hpayouts] at hq
    obtain ⟨x, hx, rfl⟩ := List.mem_map.mp hq
    have hxp : x = p :=
      List.inj_on_of_nodup_map hs.payouts.single hx hp ((hf x).holdId.symm.trans hid)
    subst hxp
    rw [Store.payoutState, Store.payout?, hpayouts, Table.find_map fun p ↦ (hf p).id] at hpaid
    change ((s.payout? x.id).map f).map Payout.state = _ at hpaid
    rw [hfound] at hpaid
    exact hne (Option.some.inj hpaid)

end Steps

/-! ## The theorem -/

/-- The money of a hold can still be brought to somebody exactly when every payout of the hold that
has not succeeded can be paid. -/
theorem settleable_iff (config : EngineConfig) {s : Store} (hs : EngineReachable config s)
    (holdId : ℕ) :
    Settleable config s holdId ↔
      ∀ p ∈ s.payouts, p.holdId = holdId → p.state = .succeeded ∨ s.Payable config.payouts p := by
  have hcons := hs.engineConsistent
  constructor
  · intro hsettle p hp hid
    by_contra hnot
    obtain ⟨hne, hpayable⟩ := not_or.mp hnot
    have hfound : s.payout? p.id = some p := (Table.find_eq_some_iff hcons.payouts.distinct).mpr hp
    exact not_settleable_of_stuck hcons ⟨p, hfound, hid, hne, hpayable⟩ hsettle
  · intro hpayable
    by_cases hout : s.Outstanding holdId
    · rcases hout with ⟨h, hh, rfl, hopen, -⟩ | ⟨p, hp, rfl, hne⟩
      · exact settleable_of_held hcons hh hopen
      · exact settleable_of_payable hcons hp ((hpayable p hp rfl).resolve_left hne)
    · exact ⟨s, .refl, hout⟩

namespace Sample

/-- Both services configured; account numbers are stored as they are. -/
def engine : EngineConfig where
  systemUserId := 8
  business := ⟨7⟩
  payouts := payouts
  encrypt := id

def bankDetails : UpsertPayoutMethodInput :=
  ⟨4, "FNB", "A. Artist", "62000000001", "250655", .cheque⟩

/-- The artist enters bank details, they are verified, and a paid booking is released. -/
def releasing : List EngineCall :=
  [.method (.upsert bankDetails), .method (.verify 4 9), .service (.capture payment 100),
    .service (.escrow (.release 12 {}))]

def oneAfterTheOther : List (Turn GatewayReply Failure) :=
  List.replicate 3 ⟨0, .act⟩ ++ List.replicate 2 ⟨1, .act⟩ ++ [⟨2, .act⟩, ⟨3, .act⟩]

/-- The payout is queued: hold 12, payout 17. -/
def owed : Store :=
  (Pool.run next (EngineCall.pool engine (Store.empty 0 10 [intent]) releasing)
    oneAfterTheOther).store

theorem owed_reachable : EngineReachable engine owed :=
  ⟨0, 10, [intent], releasing, oneAfterTheOther, rfl⟩

/-- An admin cancels the payout. -/
def stranded : Store :=
  (Pool.run next (EngineCall.pool engine (Store.empty 0 10 [intent])
    (releasing ++ [.payout (.cancel 17 none)]))
    (oneAfterTheOther ++ List.replicate 2 ⟨4, .act⟩)).store

theorem stranded_reachable : EngineReachable engine stranded := ⟨0, 10, [intent], _, _, rfl⟩

end Sample

theorem settleable_sample : Settleable Sample.engine Sample.owed 12 := by
  refine (settleable_iff Sample.engine Sample.owed_reachable 12).mpr fun p hp _ ↦ .inr ?_
  have hall : ∀ p ∈ Sample.owed.payouts, p.state = .queued ∧ p.artistId = 4 ∧
      Sample.owed.refundInProgress p.holdId = false := by decide
  obtain ⟨hqueued, hartist, hrefund⟩ := hall p hp
  refine ⟨.inl hqueued, by decide, hrefund, ?_⟩
  rw [hartist]
  exact ⟨_, rfl, rfl, rfl⟩

/-- A payout that an admin has cancelled, so that the client can be refunded, is stuck: its hold
is released, and a released hold is not refunded. -/
theorem money_stranded :
    ¬∀ (config : EngineConfig) (s : Store), EngineReachable config s →
      ∀ holdId, s.Outstanding holdId → Settleable config s holdId := by
  intro h
  have hout : Sample.stranded.Outstanding 12 := .inr (by decide)
  have hstuck : Sample.stranded.Stuck Sample.engine.payouts 17 12 := by
    refine ⟨_, rfl, rfl, by decide, fun hpayable ↦ ?_⟩
    exact absurd hpayable.state (by decide)
  exact not_settleable_of_stuck Sample.stranded_reachable.engineConsistent hstuck
    (h Sample.engine Sample.stranded Sample.stranded_reachable 12 hout)

end GearshPayments
