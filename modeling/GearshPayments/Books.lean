import GearshPayments.Admin.Balances
import GearshPayments.Escrow.Balance
import GearshPayments.Escrow.Bookings
import GearshPayments.Escrow.Revenue
import GearshPayments.Payments.SignedForms

/-!
# The books of the engine

Whatever calls of `WebCall` run together, each of their writes captures a payment, commits an
operation on a hold, or happens elsewhere (`Store.BookStep`).  So all that the ledger satisfies
under captures and operations it satisfies under every interleaving of these calls
(`Store.InBooks`): the balances of the accounts are explained by the tables of holds and of payouts,
and reconciliation has nothing to report (`books_close`).
-/

namespace GearshPayments

open DoubleEntry EscrowService Resumption

/-! ## What the writes are to the books -/

namespace Store

/-- Holds, their events and the ledger stay as they are, payouts keep their terms, and nothing is
announced of a hold. -/
structure Elsewhere (s s' : Store) : Prop where
  nextId : s.nextId ≤ s'.nextId
  escrowHolds : s'.escrowHolds = s.escrowHolds
  escrowEvents : s'.escrowEvents = s.escrowEvents
  ledgerEntries : s'.ledgerEntries = s.ledgerEntries
  payouts : ∃ f : Payout → Payout, (∀ p : Payout, p.SameTerms (f p)) ∧ s'.payouts = s.payouts.map f
  notices : ∃ os, s'.outboxEvents = s.outboxEvents ++ os ∧ ∀ o ∈ os, o.aggregateType ≠ "EscrowHold"

/-- What one write does to the books.  None is about the runs of reconciliation. -/
inductive BookStep (config : BusinessConfig) (s : Store) : Store → Prop
  | elsewhere {s' : Store} (h : s.Elsewhere s')
    (runs : s'.reconciliationRuns = s.reconciliationRuns) : BookStep config s s'
  | capture {args : CommitArgs} {zarFee : ℤ} (h : args.Captures zarFee s) :
    BookStep config s (args.captured zarFee s)
  | move {op : EscrowOp} {hold : EscrowHold} {target : EscrowState} {w : Writes}
    {entries : List LedgerEntryInput} (h : op.Commits s hold target w entries) :
    BookStep config s (w.commit config hold entries s)

namespace Elsewhere

variable {s s' : Store}

/-- The outbox gains rows about other things. -/
theorem of_notices (hn : s.nextId ≤ s'.nextId) (hh : s'.escrowHolds = s.escrowHolds)
    (he : s'.escrowEvents = s.escrowEvents) (hl : s'.ledgerEntries = s.ledgerEntries)
    (hp : s'.payouts = s.payouts) (os : List OutboxEvent)
    (ho : s'.outboxEvents = s.outboxEvents ++ os)
    (hos : ∀ o ∈ os, o.aggregateType ≠ "EscrowHold") : s.Elsewhere s' :=
  ⟨hn, hh, he, hl, ⟨id, Payout.SameTerms.refl, hp.trans (List.map_id _).symm⟩, os, ho, hos⟩

/-- The outbox stays as it is. -/
theorem of_same (hn : s.nextId ≤ s'.nextId) (hh : s'.escrowHolds = s.escrowHolds)
    (he : s'.escrowEvents = s.escrowEvents) (hl : s'.ledgerEntries = s.ledgerEntries)
    (hp : s'.payouts = s.payouts) (ho : s'.outboxEvents = s.outboxEvents) : s.Elsewhere s' :=
  of_notices hn hh he hl hp [] (ho.trans (List.append_nil _).symm)
    fun _ ho ↦ absurd ho List.not_mem_nil

theorem refl (s : Store) : s.Elsewhere s := of_same le_rfl rfl rfl rfl rfl rfl

theorem of_payoutWrite (h : PayoutWrite s s') (os : List OutboxEvent)
    (ho : s'.outboxEvents = s.outboxEvents ++ os)
    (hos : ∀ o ∈ os, o.aggregateType ≠ "EscrowHold") : s.Elsewhere s' where
  nextId := h.nextId
  escrowHolds := h.escrowHolds
  escrowEvents := by rw [h.rest]
  ledgerEntries := by rw [h.rest]
  payouts := h.payouts
  notices := ⟨os, ho, hos⟩

theorem of_unannounced (h : PayoutWrite s s') (ho : s'.outboxEvents = s.outboxEvents) :
    s.Elsewhere s' :=
  of_payoutWrite h [] (ho.trans (List.append_nil _).symm) fun _ ho ↦ absurd ho List.not_mem_nil

theorem of_methodWrite (h : MethodWrite s s') : s.Elsewhere s' := by
  refine of_same h.nextId ?_ ?_ ?_ ?_ ?_
  all_goals rw [h.rest]

end Elsewhere

end Store

/-- The payments and the refunds capture, operate on holds, or write elsewhere. -/
theorem rules_bookStep (config : BusinessConfig) :
    PaymentRules config (fun _ ↦ True) (Store.BookStep config) where
  refl := fun s _ ↦ .elsewhere (.refl s) rfl
  insert := by
    intro s s' row r _ _ _ h
    cases h
    exact .elsewhere (.of_same (Nat.le_succ _) rfl rfl rfl rfl rfl) rfl
  move := by
    intro s s' op hold _ h
    obtain ⟨hold, target, w, entries, hc, -, rfl⟩ := EscrowOp.commits_of_exec_eq h
    exact .move hc
  announce := by
    intro s id f r notice _ _ _ _ hn
    refine .elsewhere (.of_notices (Nat.le_succ _) rfl rfl rfl rfl _ rfl fun o ho ↦ ?_) rfl
    rw [List.mem_singleton.mp ho]
    change notice.aggregateType ≠ _
    rw [hn.aggregateType]
    decide
  commit := by
    intro s₀ s s' id intent zarAmount fee mPaymentId pfPaymentId paymentStatus _ _ _ _ _ h
    by_cases hst : paymentStatus = .complete
    · rw [PayFastWebhookService.commit_of_complete hst] at h
      rcases PayFastWebhookService.of_commitComplete_ok h with ⟨-, rfl⟩ | ⟨hc, rfl⟩
      · exact .elsewhere (.refl _) rfl
      · exact .capture hc
    · rw [PayFastWebhookService.commit_of_ne hst] at h
      rcases PayFastWebhookService.of_commitFailed_ok h with ⟨-, rfl⟩ | ⟨-, -, rfl⟩
      · exact .elsewhere (.refl _) rfl
      · refine .elsewhere (.of_notices (Nat.le_add_right _ 2) rfl rfl rfl rfl _ rfl fun o ho ↦ ?_)
          rfl
        rw [List.mem_singleton.mp ho]
        change "PaymentIntent" ≠ "EscrowHold"
        decide
  tick := fun _ _ ↦ .elsewhere (.of_same le_rfl rfl rfl rfl rfl rfl) rfl

/-- The jobs and the admin write elsewhere. -/
theorem rules_bookStep_payouts (config : BusinessConfig) :
    PayoutRules (fun _ ↦ True) (Store.BookStep config) where
  refl := fun s _ ↦ .elsewhere (.refl s) rfl
  fail := by
    intro payout reason failedAt s s' u _ h
    have hw := payoutWrite_failure h
    cases h
    refine .elsewhere (.of_payoutWrite hw _ rfl fun o ho ↦ ?_) rfl
    rw [List.mem_singleton.mp ho]
    change "Payout" ≠ "EscrowHold"
    decide
  succeed := by
    intro payout gatewayPayoutId methodId completedAt s s' u _ h
    have hw := payoutWrite_success h
    obtain ⟨row, method, -, -, rfl⟩ := PayoutDispatcherJob.of_writeSuccess_ok h
    refine .elsewhere (.of_payoutWrite hw _ rfl fun o ho ↦ ?_) rfl
    rw [List.mem_singleton.mp ho]
    change "Payout" ≠ "EscrowHold"
    decide
  claim := by
    intro payout s s' count _ h
    have hw := payoutWrite_claim h
    cases h
    exact .elsewhere (.of_unannounced hw rfl) rfl
  requeue := by
    intro row s s' count _ h
    have hw := payoutWrite_requeue h
    cases h
    exact .elsewhere (.of_unannounced hw rfl) rfl
  update := by
    intro id f s s' row _ hf h
    have hw := (rules_payoutWrite fun _ ↦ True).update trivial hf h
    cases hrow : s.payout? id with
    | none => simp [Tx.updatePayout, hrow] at h
    | some r =>
        rw [Tx.updatePayout_apply hrow] at h
        cases h
        exact .elsewhere (.of_unannounced hw rfl) rfl
  tick := fun clock _ ↦ .elsewhere (.of_unannounced (payoutWrite_tick _ clock) rfl) rfl

/-- Every write of every call is a step of the books. -/
theorem WebCall.guarantees_bookStep {runtime : Runtime} {config : WebConfig} (c : WebCall) :
    Guarantees (fun _ ↦ True) (Store.BookStep config.business) (c.program runtime config) := by
  exact c.guarantees (rules_bookStep config.business) (rules_bookStep_payouts config.business)
    fun _ _ _ h ↦ .elsewhere (.of_methodWrite h) (by rw [h.rest])

/-! ## What the steps keep -/

theorem EscrowHold.InBooks.map_payouts {hold : EscrowHold} {r : HoldRecords} (h : hold.InBooks r)
    {f : Payout → Payout} (hf : ∀ p : Payout, p.SameTerms (f p)) :
    hold.InBooks { r with payouts := r.payouts.map f } := by
  have hcents : HoldRecords.payoutCents { r with payouts := r.payouts.map f } = r.payoutCents := by
    rw [HoldRecords.payoutCents, List.map_map]
    exact congrArg List.sum (List.map_congr_left fun p _ ↦ (hf p).amountCents)
  refine ⟨⟨?_, fun ho ↦ ?_, ?_, ?_⟩, h.sound, h.sides, h.settled⟩
  · rw [List.length_map]
    exact h.single
  · rw [h.unpaid ho]
    rfl
  · rw [hcents]
    exact h.payable
  · rw [hcents]
    exact h.whole

namespace Store

variable {config : BusinessConfig} {s s' : Store}

/-- The records of a hold, where something else is written. -/
theorem Elsewhere.recordsOf (h : s.Elsewhere s') : ∃ f : Payout → Payout,
    (∀ p : Payout, p.SameTerms (f p)) ∧
    ∀ id, s'.recordsOf id = { s.recordsOf id with payouts := (s.payoutsOf id).map f } := by
  obtain ⟨f, hf, hpayouts⟩ := h.payouts
  obtain ⟨os, hos, hother⟩ := h.notices
  refine ⟨f, hf, fun id ↦ ?_⟩
  have hrows : s'.payoutsOf id = (s.payoutsOf id).map f := by
    rw [payoutsOf, hpayouts, List.filter_map]
    refine congrArg (List.map f) (List.filter_congr fun p _ ↦ ?_)
    rw [Function.comp_apply, (hf p).holdId]
  have hnone : os.filter (fun o ↦ o.aggregateType = "EscrowHold" ∧ o.aggregateId = id) = [] :=
    List.filter_eq_nil_iff.mpr fun o ho hd ↦ hother o ho (of_decide_eq_true hd).1
  have hnotices : s'.noticesOf id = s.noticesOf id := by
    rw [noticesOf, hos, List.filter_append, hnone, List.append_nil]
    rfl
  rw [Store.recordsOf, hrows, hnotices, eventsOf, entriesOf, h.escrowEvents, h.ledgerEntries]
  rfl

theorem OnRecord.elsewhere (hs : s.OnRecord EscrowHold.InBooks) (h : s.Elsewhere s') :
    s'.OnRecord EscrowHold.InBooks where
  conserved := hs.conserved.frame h.escrowHolds h.ledgerEntries h.nextId
  events := by
    rw [h.escrowEvents, h.escrowHolds]
    exact hs.events
  payouts := by
    obtain ⟨f, hf, hpayouts⟩ := h.payouts
    rw [hpayouts, h.escrowHolds]
    refine List.forall_mem_map.mpr fun p hp ↦ ?_
    rw [(hf p).holdId]
    exact hs.payouts p hp
  notices := by
    obtain ⟨os, hos, hother⟩ := h.notices
    rw [hos, h.escrowHolds]
    refine List.forall_mem_append.mpr ⟨hs.notices, fun o ho ht ↦ ?_⟩
    exact absurd ht (hother o ho)
  holds := by
    obtain ⟨f, hf, hrecords⟩ := h.recordsOf
    rw [h.escrowHolds]
    intro hold hm
    rw [hrecords]
    exact (hs.holds hold hm).map_payouts hf

theorem FeesBooked.frame {paidBack : List ℕ} (hs : s.FeesBooked paidBack)
    (hn : s.nextId ≤ s'.nextId) (hh : s'.escrowHolds = s.escrowHolds)
    (hl : s'.ledgerEntries = s.ledgerEntries) : s'.FeesBooked paidBack := by
  have hentries : s'.entriesOf = s.entriesOf := by
    funext id
    rw [entriesOf, hl]
    rfl
  refine ⟨hs.conserved.frame hh hl hn, hs.distinct, ?_, ?_, ?_, ?_⟩
  · rw [hh]
    exact hs.ended
  · rw [hh]
    exact hs.nonneg
  · rw [hh, hentries]
    exact hs.credited
  · rw [hh, hentries]
    exact hs.reversed

theorem postings_append {hold : EscrowHold} {event : EscrowEvent} {now : ℕ}
    {entries : List LedgerEntryInput}
    (h : s'.ledgerEntries = s.ledgerEntries ++ entries.map (ledgerEntry hold event now)) :
    s'.postings = s.postings ++ entries := by
  rw [postings, h, List.map_append, List.map_map]
  exact congrArg _ (List.map_id entries)

/-- Everything that the books of a store satisfy. -/
structure InBooks (s : Store) : Prop where
  events : s.EventsBalanced
  fees : ∃ paidBack, s.FeesBooked paidBack
  records : s.OnRecord EscrowHold.InBooks
  sound : Sound s.postings

theorem inBooks_empty (clock nextId : ℕ) (intents : List PaymentIntent) :
    (Store.empty clock nextId intents).InBooks where
  events := .empty clock nextId intents
  fees := ⟨[], .empty clock nextId intents⟩
  records := .empty clock nextId intents
  sound := ⟨fun _ hm ↦ absurd hm List.not_mem_nil, rfl⟩

theorem BookStep.reconciliationRuns (h : s.BookStep config s') :
    s'.reconciliationRuns = s.reconciliationRuns := by
  cases h with
  | elsewhere _ runs => exact runs
  | capture _ => rfl
  | move _ => rfl

theorem BookStep.nextId (h : s.BookStep config s') : s.nextId ≤ s'.nextId := by
  cases h with
  | elsewhere h _ => exact h.nextId
  | capture _ => exact Nat.le_add_right _ 5
  | @move _ hold _ w entries _ =>
      change s.nextId ≤ s.nextId + 1 + 2 * (w.queued config hold s).length + 1
      omega

theorem InBooks.elsewhere (hs : s.InBooks) (h : s.Elsewhere s') : s'.InBooks := by
  obtain ⟨hevents, ⟨paidBack, hfees⟩, hrecords, hsound⟩ := hs
  have hpostings : s'.postings = s.postings := by rw [postings, h.ledgerEntries, postings]
  exact ⟨hevents.frame h.nextId h.escrowHolds h.escrowEvents h.ledgerEntries,
    ⟨paidBack, hfees.frame h.nextId h.escrowHolds h.ledgerEntries⟩, hrecords.elsewhere h,
    hpostings ▸ hsound⟩

theorem InBooks.step (hs : s.InBooks) (h : s.BookStep config s') : s'.InBooks := by
  cases h with
  | elsewhere h _ => exact hs.elsewhere h
  | capture hc =>
      obtain ⟨paidBack, hfees⟩ := hs.fees
      refine ⟨hs.events.capture hc, ⟨paidBack, hfees.capture hc⟩,
        hs.records.capture (inBooks config) hc, ?_⟩
      rw [postings_append rfl]
      exact hs.sound.append hc.sound
  | move hc =>
      obtain ⟨paidBack, hfees⟩ := hs.fees
      refine ⟨hs.events.commit hc, ⟨_, hfees.commit hc⟩, hs.records.commit (inBooks config) hc, ?_⟩
      rw [postings_append rfl]
      exact hs.sound.append hc.sound

end Store

/-! ## What the books say -/

namespace Store.InBooks

open ReconciliationService

variable {s : Store}

theorem sides (hs : s.InBooks) : ∀ e ∈ s.postings, (e.account, e.direction) ∈ bookedSides := by
  refine List.forall_mem_map.mpr fun e he ↦ ?_
  obtain ⟨h, hm, hid⟩ := List.mem_map.mp (hs.records.conserved.owned e he)
  refine (hs.records.holds h hm).sides e.toPosting ?_
  exact List.mem_map_of_mem (List.mem_filter.mpr ⟨he, decide_eq_true hid.symm⟩)

/-- An account is the sum of what is booked on it for each hold. -/
theorem net_eq_sum (hs : s.InBooks) {account : LedgerAccount} {f : EscrowHold → ℤ}
    (hf : ∀ h ∈ s.escrowHolds, net account (s.entriesOf h.id) = f h) :
    net account s.postings = (s.escrowHolds.map f).sum := by
  rw [hs.records.conserved.net_postings_eq_sum]
  exact congrArg List.sum (List.map_congr_left hf)

/-- The gateway has settled what was paid. -/
theorem settlement (hs : s.InBooks) : computeAccountBalanceCents .payfastSettlement s =
    (s.escrowHolds.map fun h ↦ h.amountCents + h.platformFeeCents).sum := by
  have hnet : net .payfastSettlement s.postings =
      (s.escrowHolds.map fun h ↦ -(h.amountCents + h.platformFeeCents)).sum := by
    refine hs.net_eq_sum fun h hm ↦ ?_
    have hr := hs.records.holds h hm
    have hcredit : total .payfastSettlement .credit (s.entriesOf h.id) = 0 :=
      total_of_sides hr.sides (by decide)
    have hdebit : total .payfastSettlement .debit (s.entriesOf h.id) = _ := hr.settled
    rw [net, hcredit, hdebit, zero_sub]
  rw [computeAccountBalanceCents, if_pos (.inl rfl)]
  rw [net, sub_eq_iff_eq_add] at hnet
  rw [hnet, sub_add_cancel_right, List.sum_neg, List.map_map]
  simp only [Function.comp_def, neg_neg]

/-- Artists are owed what is paid out to them. -/
theorem artistPayable (hs : s.InBooks) : computeAccountBalanceCents .artistPayable s =
    (s.payouts.map Payout.amountCents).sum := by
  have hnet : net .artistPayable s.postings =
      (s.escrowHolds.map fun h ↦ ((s.payoutsOf h.id).map Payout.amountCents).sum).sum := by
    refine hs.net_eq_sum fun h hm ↦ ?_
    have hr := hs.records.holds h hm
    have hdebit : total .artistPayable .debit (s.entriesOf h.id) = 0 :=
      total_of_sides hr.sides (by decide)
    rw [net, hdebit, sub_zero]
    exact hr.payable
  have hsplit := Table.sum_references Payout.holdId Payout.amountCents
    hs.records.conserved.distinct hs.records.payouts
  rw [List.map_map] at hsplit
  rw [computeAccountBalanceCents, if_neg (by decide)]
  exact hnet.trans hsplit

/-- `ESCROW_LIABILITY` is what the open holds still owe. -/
theorem escrowLiability (hs : s.InBooks) : computeAccountBalanceCents .escrowLiability s =
    ((openHolds s).map EscrowHold.remaining).sum := by
  rw [escrowLiability_balance]
  exact hs.records.conserved.net_postings

/-- No account is on the wrong side. -/
theorem nonneg (hs : s.InBooks) (account : LedgerAccount) :
    0 ≤ computeAccountBalanceCents account s := by
  have htotal : ∀ a d, 0 ≤ total a d s.postings := fun a d ↦ hs.sound.total_nonneg a d
  have hnone : ∀ {a d}, (a, d) ∉ bookedSides → total a d s.postings = 0 :=
    fun h ↦ total_of_sides hs.sides h
  cases account with
  | payfastSettlement =>
      rw [computeAccountBalanceCents, if_pos (.inl rfl), hnone (d := .credit) (by decide), sub_zero]
      exact htotal _ _
  | clientFunds =>
      rw [computeAccountBalanceCents, if_pos (.inr rfl), hnone (d := .credit) (by decide), sub_zero]
      exact htotal _ _
  | escrowLiability =>
      rw [hs.escrowLiability]
      refine List.sum_nonneg (List.forall_mem_map.mpr fun h hm ↦ ?_)
      exact sub_nonneg.mpr (hs.records.conserved.bounds (List.mem_filter.mp hm).1).2
  | platformRevenue =>
      obtain ⟨paidBack, hfees⟩ := hs.fees
      rw [platformRevenue_balance]
      exact hfees.revenue_nonneg
  | artistPayable =>
      rw [computeAccountBalanceCents, if_neg (by decide), hnone (d := .debit) (by decide), sub_zero]
      exact htotal _ _
  | refundsIssued =>
      rw [computeAccountBalanceCents, if_neg (by decide), hnone (d := .debit) (by decide), sub_zero]
      exact htotal _ _

theorem clientFunds (hs : s.InBooks) : computeAccountBalanceCents .clientFunds s = 0 := by
  have hdebit : total .clientFunds .debit s.postings = 0 := total_of_sides hs.sides (by decide)
  have hcredit : total .clientFunds .credit s.postings = 0 := total_of_sides hs.sides (by decide)
  rw [computeAccountBalanceCents, if_pos (.inr rfl), hdebit, hcredit, sub_zero]

/-- What was settled is owed, earned, paid out or given back. -/
theorem equation (hs : s.InBooks) : computeAccountBalanceCents .payfastSettlement s =
    computeAccountBalanceCents .escrowLiability s + computeAccountBalanceCents .platformRevenue s +
      computeAccountBalanceCents .artistPayable s +
      computeAccountBalanceCents .refundsIssued s := by
  have hsum : ∑ a, net a s.postings = 0 := by
    rw [sum_net, hs.sound.balanced, sub_self]
  have hfunds := hs.clientFunds
  rw [AdminService.sum_accounts] at hsum
  unfold computeAccountBalanceCents at hfunds ⊢
  unfold net at hsum
  simp only [if_pos, reduceCtorEq, or_self, or_true, true_or, if_false] at hfunds ⊢
  omega

end Store.InBooks

theorem WebCall.keeps_inBooks {runtime : Runtime} {config : WebConfig} (c : WebCall) :
    Keeps Store.InBooks (c.program runtime config) := by
  have hg : Guarantees Store.InBooks (Store.BookStep config.business) (c.program runtime config) :=
    c.guarantees_bookStep.mono (fun _ _ ↦ trivial) fun _ _ _ h ↦ h
  exact (hg.mono (fun _ hs ↦ hs) fun _ _ hs h ↦ hs.step h).keeps

/-- However the calls of the engine and its webhook interleave, the books close: no account is on
its wrong side, what the gateway has settled is what was paid for the holds, and it is owed for
open holds, earned, paid out to artists or given back; reconciliation finds nothing in any window
and at any threshold, and the report of the admin shows these balances. -/
theorem books_close (runtime : Runtime) (config : WebConfig) (clock nextId : ℕ)
    (intents : List PaymentIntent) (calls : List WebCall) (ts : List (Turn OutboundReply Failure)) :
    let s := (Pool.run next (WebCall.pool runtime config clock nextId intents calls) ts).store
    let balance := fun account ↦ ReconciliationService.computeAccountBalanceCents account s
    (∀ account, 0 ≤ balance account) ∧ balance .clientFunds = 0 ∧
    balance .payfastSettlement =
      (s.escrowHolds.map fun h ↦ h.amountCents + h.platformFeeCents).sum ∧
    balance .payfastSettlement = balance .escrowLiability + balance .platformRevenue +
      balance .artistPayable + balance .refundsIssued ∧
    balance .escrowLiability =
      ((ReconciliationService.openHolds s).map EscrowHold.remaining).sum ∧
    balance .artistPayable = (s.payouts.map Payout.amountCents).sum ∧
    (∀ windowStart windowEnd, (ReconciliationService.eventTotals windowStart windowEnd s).filterMap
      ReconciliationService.findingA = []) ∧
    (∀ alertThresholdCents, ReconciliationService.compareB alertThresholdCents
      (balance .escrowLiability) (ReconciliationService.openHolds s) = []) ∧
    ReconciliationService.findingsC (balance .platformRevenue) = [] ∧
    ∀ answers : ℕ → HttpOutcome, (AdminService.getEscrowBalances.run (.healthy answers) s).result =
      .ok (AdminService.accounts.map fun account ↦
        ⟨account, toString (balance account), toString (total account .debit s.postings),
          toString (total account .credit s.postings)⟩) := by
  intro s balance
  have hkeeps : ∀ p ∈ (WebCall.pool runtime config clock nextId intents calls).threads,
      Keeps Store.InBooks p := by
    intro p hp
    obtain ⟨c, -, rfl⟩ := List.mem_map.mp hp
    exact c.keeps_inBooks
  have hs : s.InBooks := Pool.keeps_run hkeeps (Store.inBooks_empty clock nextId intents) ts
  refine ⟨hs.nonneg, hs.clientFunds, hs.settlement, hs.equation, hs.escrowLiability,
    hs.artistPayable, hs.events.findingsA, fun threshold ↦ ?_, ?_, fun answers ↦ ?_⟩
  · exact ReconciliationService.compareB_eq_nil_iff.mpr hs.escrowLiability
  · exact if_neg (not_lt.mpr (hs.nonneg .platformRevenue))
  · have hreport : AdminService.accounts.map (AdminService.balance (AdminService.ledgerGroups s)) =
        AdminService.accounts.map fun account ↦ ⟨account, toString (balance account),
          toString (total account .debit s.postings),
          toString (total account .credit s.postings)⟩ :=
      List.map_congr_left fun account _ ↦ AdminService.balance_ledgerGroups s account
    simp [AdminService.getEscrowBalances, run_bind, Run.andThen, hreport]

end GearshPayments
