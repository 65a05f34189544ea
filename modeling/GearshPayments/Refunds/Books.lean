import GearshPayments.Refunds.Settlement

/-!
# The books and the gateway

Two questions about a refund that has come to an end: whether the ledger credits
`REFUNDS_ISSUED` with what the gateway was asked for (`books_agree_iff`), and whether
the row tells how often the gateway has paid (`row_truthful_iff`).
-/

namespace GearshPayments

open EscrowService DoubleEntry

/-- The postings made by the escrow events of a refund. -/
def Store.refundPostings (s : Store) (refundId : ℕ) : List (Posting LedgerAccount) :=
  (s.ledgerEntries.filter fun x ↦
    s.escrowEvents.any fun e ↦ e.id = x.eventId ∧ e.refundId = some refundId).map
      LedgerEntry.toPosting

namespace RefundsService

section

variable {config : SystemConfig} {input : IssueRefundInput} {refund : Refund}
  {hold hold' : EscrowHold} {refundCents : ℤ} {refundIsFull : Bool} {s s₂ : Store}

/-- What the ledger credits to `REFUNDS_ISSUED` for a refund. -/
theorem total_buildRefundEntries {snapshot : HoldSnapshot} {faultParty : FaultParty}
    {entries : List LedgerEntryInput}
    (h : LedgerService.buildRefundEntries snapshot refundCents faultParty refundIsFull =
      .ok entries) :
    total .refundsIssued .credit entries = refundCents +
      if faultParty = .artist ∧ refundIsFull ∧ snapshot.platformFeeCents > 0 then
        snapshot.platformFeeCents else 0 := by
  obtain ⟨-, -, rfl⟩ := LedgerService.buildRefundEntries_eq_ok_iff.mp h
  split <;> simp

/-- The postings of a refund are those of its escrow operation, when no event carried
the refund before. -/
theorem refundPostings_of_commits (hs : s.Consistent)
    (hnew : ∀ e ∈ s.escrowEvents, e.refundId ≠ some refund.id) {current : EscrowHold}
    {target : EscrowState} {w : Writes} {entries : List LedgerEntryInput}
    (hc : (refundOp refund hold refundCents refundIsFull input).Commits s current target w
      entries) :
    (w.commit config.business current entries s).refundPostings refund.id = entries := by
  obtain ⟨hid, -⟩ := work_refundOp hc.work
  have hold : s.ledgerEntries.filter (fun x ↦ (s.escrowEvents ++ [w.event current s]).any fun e ↦
      e.id = x.eventId ∧ e.refundId = some refund.id) = [] := by
    refine List.filter_eq_nil_iff.mpr fun x hx hany ↦ ?_
    obtain ⟨e, he, hd⟩ := List.any_eq_true.mp hany
    obtain ⟨hex, her⟩ := of_decide_eq_true hd
    rcases List.mem_append.mp he with he | he
    · exact hnew e he her
    · rw [List.mem_singleton.mp he] at hex
      have hlt := hs.entries x hx
      rw [← hex] at hlt
      exact Nat.lt_irrefl _ hlt
  have hnew' : (entries.map (ledgerEntry (w.update current) (w.event current s) s.clock)).filter
      (fun x ↦ (s.escrowEvents ++ [w.event current s]).any fun e ↦
        e.id = x.eventId ∧ e.refundId = some refund.id) =
      entries.map (ledgerEntry (w.update current) (w.event current s) s.clock) := by
    refine List.filter_eq_self.mpr fun x hx ↦ ?_
    obtain ⟨y, -, rfl⟩ := List.mem_map.mp hx
    exact List.any_eq_true.mpr ⟨w.event current s,
      List.mem_append_right _ (List.mem_singleton.mpr rfl), decide_eq_true ⟨rfl, hid⟩⟩
  have hsplit : (w.commit config.business current entries s).refundPostings refund.id =
      ((s.ledgerEntries ++
        entries.map (ledgerEntry (w.update current) (w.event current s) s.clock)).filter fun x ↦
          (s.escrowEvents ++ [w.event current s]).any fun e ↦
            e.id = x.eventId ∧ e.refundId = some refund.id).map LedgerEntry.toPosting := rfl
  rw [hsplit, List.filter_append, hold, hnew', List.nil_append, List.map_map]
  exact List.map_id _

/-- The amount that a planned refund moves is the planned one. -/
theorem movedCents_eq (hs : s.Consistent) (hh : s.escrowHold? hold.id = some hold)
    {chargeTxn : Transaction} {plan : RefundPlan} (hp : planRefund input hold chargeTxn = .ok plan)
    (ha : Accepts hold plan.refundCents plan.refundIsFull) :
    movedCents hold plan.refundCents plan.refundIsFull = plan.refundCents := by
  obtain ⟨-, -, hfull, -⟩ := planRefund_spec hp
  rw [movedCents]
  cases hf : plan.refundIsFull with
  | false => rfl
  | true =>
      rw [hf] at ha
      obtain ⟨p, hshow, -⟩ := hs.conserved.pot_of_find hh
      have hzero : hold.partiallyRefundedAmountCents = 0 := hshow.of_held ha
      rw [if_pos rfl, hfull.mp hf, EscrowHold.remaining, hzero, sub_zero]

theorem ledgerFault_eq_artist_iff (fault : RefundFault) :
    ledgerFault fault = .artist ↔ fault = .artist := by
  cases fault <;> decide

/-- What the escrow operation of a planned refund credits to `REFUNDS_ISSUED`. -/
theorem credited_of_moveHold (hs : s.Consistent) (hh : s.escrowHold? hold.id = some hold)
    {chargeTxn : Transaction} {plan : RefundPlan} (hp : planRefund input hold chargeTxn = .ok plan)
    (hrow : refund = processingRow input chargeTxn plan.refundCents s.nextId s.clock)
    (hm : moveHold config.business refund hold plan.refundCents plan.refundIsFull input
      (s.withRefund refund) = .ok (hold', s₂)) :
    total .refundsIssued .credit (s₂.refundPostings refund.id) = plan.refundCents +
      if input.faultParty = .artist ∧ plan.refundIsFull ∧ hold.platformFeeCents > 0 then
        hold.platformFeeCents else 0 := by
  have hs₁ : (s.withRefund refund).Consistent :=
    hrow ▸ consistent_withRefund hs input chargeTxn (planRefund_spec hp).1
  have hpend : Pending (s.withRefund refund) refund :=
    hrow ▸ pending_withRefund hs input chargeTxn plan.refundCents
  have hfresh : ∀ e ∈ (s.withRefund refund).escrowEvents, e.refundId ≠ some refund.id := by
    intro e he hid
    have hlt := (hs.events e he).2 refund.id hid
    rw [hrow] at hlt
    exact Nat.lt_irrefl _ hlt
  rw [moveHold_eq_exec] at hm
  obtain ⟨current, target, w, entries, hc, rfl, rfl⟩ := EscrowOp.commits_of_exec_eq hm
  have hcur : (s.withRefund refund).escrowHold? hold.id = some current := by
    rw [← hc.found, holdId_refundOp]
  have hacc := (commits_iff_accepts hs₁ hcur hpend.found).mp ⟨_, _, _, hc⟩
  cases hh.symm.trans hcur
  obtain ⟨-, hentries⟩ := work_refundOp hc.work
  rw [refundPostings_of_commits hs₁ hfresh hc,
    total_buildRefundEntries (hentries.symm.trans hc.built), movedCents_eq hs hh hp hacc]
  simp only [ledgerFault_eq_artist_iff]
  rfl

end

/-- The row of a refund that has come to an end, the end it came to, and the requests
made for it. -/
theorem issueRefund_row {config : SystemConfig} {s : Store} (hs : s.Consistent)
    (input : IssueRefundInput) (env : Resumption.Env HttpOutcome Failure) {row : Refund}
    (hrow : ((issueRefund config.payfast config.business input).run env s).store.refund? s.nextId =
      some row) :
    ∃ hold chargeTxn plan gatewayResult requests result s' env',
      ((resolveHoldAndCharge input).run env s).result = .ok (hold, chargeTxn) ∧
      s.escrowHold? hold.id = some hold ∧ planRefund input hold chargeTxn = .ok plan ∧
      (issueRefund config.payfast config.business input).run env s =
        ⟨result, s', env', (List.range requests).map
          fun i ↦ (⟨plan.pfPaymentId, plan.refundCents, input.reason⟩, env.answers i)⟩ ∧
      Calls config.payfast env.answers payfastMaxAttempts gatewayResult requests ∧
      Ends config.business input
        (processingRow input chargeTxn plan.refundCents s.nextId s.clock) hold chargeTxn
        plan.refundCents plan.refundIsFull (fun n ↦ env.faults (n + 3))
        (s.withRefund (processingRow input chargeTxn plan.refundCents s.nextId s.clock))
        gatewayResult result s' ∧
      row.amountCents = plan.refundCents ∧
      (row.state = .succeeded → (∃ refundId, gatewayResult = .ok refundId) ∧
        ∃ refund, result = .ok refund) ∧
      (row.state = .failed → ∃ retriable status reason,
        gatewayResult = .failed retriable status reason) := by
  rcases issueRefund_cases input env config hs with
    ⟨e, env', hrun⟩ | ⟨hold, chargeTxn, plan, gatewayResult, requests, result, s', env', hres,
      hfound, hplan, hrun, hcalls, hends⟩
  · rw [hrun] at hrow
    exact absurd (hs.refund_lt hrow) (Nat.lt_irrefl _)
  · refine ⟨hold, chargeTxn, plan, gatewayResult, requests, result, s', env', hres, hfound, hplan,
      hrun, hcalls, hends, ?_⟩
    rw [hrun] at hrow
    have hnew := (pending_withRefund hs input chargeTxn plan.refundCents).found
    cases hends with
    | unrecorded retriable status reason e =>
        cases hnew.symm.trans hrow
        exact ⟨rfl, fun h ↦ (by cases h), fun h ↦ (by cases h)⟩
    | failed retriable status reason e =>
        cases (Store.refund?_announced (f := failRow reason) (fun _ ↦ rfl) hnew _).symm.trans hrow
        exact ⟨rfl, fun h ↦ (by cases h), fun _ ↦ ⟨_, _, _, rfl⟩⟩
    | stopped refundId e hstop =>
        cases hnew.symm.trans hrow
        exact ⟨rfl, fun h ↦ (by cases h), fun h ↦ (by cases h)⟩
    | lost refundId e _ hm _ =>
        have hrefunds := refunds_of_moveHold _ _ _ _ _ _ hm
        dsimp only at hrow
        rw [Store.refund?, hrefunds] at hrow
        cases hnew.symm.trans hrow
        exact ⟨rfl, fun h ↦ (by cases h), fun h ↦ (by cases h)⟩
    | @done refundId _ s₂ hm _ =>
        have hnew₂ : s₂.refund? s.nextId =
            some (processingRow input chargeTxn plan.refundCents s.nextId s.clock) := by
          rw [Store.refund?, refunds_of_moveHold _ _ _ _ _ _ hm]
          exact hnew
        cases (Store.refund?_announced (f := succeedRow refundId s.clock) (fun _ ↦ rfl) hnew₂
          _).symm.trans hrow
        exact ⟨rfl, fun _ ↦ ⟨⟨_, rfl⟩, _, rfl⟩, fun h ↦ (by cases h)⟩

/-! ## The ledger -/

/-- For a refund that reaches `SUCCEEDED`, the gateway was asked for the amount of the
row, and that is what the ledger credits to `REFUNDS_ISSUED`, unless the fee is
reversed: unless the artist is at fault, everything that remains is refunded and
there is a fee. -/
theorem books_agree_iff {config : SystemConfig} {s : Store} (hs : Reachable config s)
    (input : IssueRefundInput) (env : Resumption.Env HttpOutcome Failure) {hold : EscrowHold}
    {chargeTxn : Transaction} {row : Refund}
    (hres : ((resolveHoldAndCharge input).run env s).result = .ok (hold, chargeTxn))
    (hrow : ((issueRefund config.payfast config.business input).run env s).store.refund? s.nextId =
      some row)
    (hsucc : row.state = .succeeded) :
    ((∀ x ∈ ((issueRefund config.payfast config.business input).run env s).exchanges,
        x.1.amountCents = row.amountCents) ∧
      total .refundsIssued .credit (((issueRefund config.payfast config.business input).run env
        s).store.refundPostings s.nextId) = row.amountCents) ↔
    ¬(input.faultParty = .artist ∧ ¬AsksPart input hold ∧ 0 < hold.platformFeeCents) := by
  have hcons := hs.consistent
  obtain ⟨hold₀, charge₀, plan, gatewayResult, requests, result, s', env', hres₀, hfound, hplan,
    hrun, hcalls, hends, hamount, hend, -⟩ := issueRefund_row hcons input env hrow
  cases hres.symm.trans hres₀
  obtain ⟨⟨refundId, rfl⟩, refund, rfl⟩ := hend hsucc
  rw [hrun, hamount]
  cases hends with
  | @done _ hold' s₂ hm _ =>
      have hcredited := credited_of_moveHold hcons hfound hplan rfl hm
      have hasked : ∀ x ∈ (List.range requests).map fun i ↦
          ((⟨plan.pfPaymentId, plan.refundCents, input.reason⟩ : PayFastRefundInput),
            env.answers i), x.1.amountCents = plan.refundCents := by
        intro x hx
        obtain ⟨i, -, rfl⟩ := List.mem_map.mp hx
        rfl
      rw [and_iff_right hasked, asksPart_iff hplan, Bool.not_eq_false]
      change total .refundsIssued .credit (s₂.refundPostings s.nextId) = _ ↔ _
      rw [show s.nextId =
        (processingRow input chargeTxn plan.refundCents s.nextId s.clock).id from rfl, hcredited]
      constructor
      · rintro heq ⟨hf, hfull, hfee⟩
        rw [if_pos ⟨hf, hfull, hfee⟩] at heq
        omega
      · intro hno
        rw [if_neg hno, add_zero]

/-- A part of the paid booking, refunded. -/
theorem books_agree_iff_sample :
    ((∀ x ∈ ((issueRefund Sample.config.payfast Sample.config.business Sample.input).run
        (.healthy Sample.pays) Sample.paid).exchanges,
          x.1.amountCents = (succeedRow "rf-1" 0 Sample.refund).amountCents) ∧
      total .refundsIssued .credit (((issueRefund Sample.config.payfast Sample.config.business
        Sample.input).run (.healthy Sample.pays) Sample.paid).store.refundPostings
          Sample.paid.nextId) = (succeedRow "rf-1" 0 Sample.refund).amountCents) ↔
    ¬(Sample.input.faultParty = .artist ∧ ¬AsksPart Sample.input (Sample.payment.hold 100 11 0) ∧
      0 < (Sample.payment.hold 100 11 0).platformFeeCents) := by
  have hres : ((resolveHoldAndCharge Sample.input).run (.healthy Sample.pays) Sample.paid).result =
      .ok (Sample.payment.hold 100 11 0, Sample.payment.charge .succeeded 10 0) := rfl
  exact books_agree_iff Sample.paid_reachable Sample.input (.healthy Sample.pays) hres rfl rfl

/-- All of the paid booking, with the artist at fault: the gateway is asked for nine
rand, and ten are credited. -/
theorem books_disagree :
    ¬∀ (config : SystemConfig) (s : Store) (input : IssueRefundInput)
      (env : Resumption.Env HttpOutcome Failure) (row : Refund),
      Reachable config s →
      ((issueRefund config.payfast config.business input).run env s).store.refund? s.nextId =
        some row →
      row.state = .succeeded →
      (∀ x ∈ ((issueRefund config.payfast config.business input).run env s).exchanges,
          x.1.amountCents = row.amountCents) ∧
        total .refundsIssued .credit (((issueRefund config.payfast config.business input).run env
          s).store.refundPostings s.nextId) = row.amountCents := by
  intro h
  let input : IssueRefundInput :=
    { Sample.input with
      refundCents := none
      full := some true
      faultParty := .artist }
  let r := (issueRefund Sample.config.payfast Sample.config.business input).run
    (.healthy Sample.pays) Sample.paid
  have hrow : r.store.refund? 15 = some (succeedRow "rf-1" 0 { Sample.refund with
    amountCents := 900 }) := rfl
  have hcredits : total .refundsIssued .credit (r.store.refundPostings 15) = 1000 := by decide
  obtain ⟨-, hbooks⟩ := h Sample.config Sample.paid input (.healthy Sample.pays) _
    Sample.paid_reachable hrow rfl
  cases hcredits.symm.trans hbooks

/-! ## The row -/

/-- How the gateway behaves: what it answers to its `n`-th request, and whether it has
executed it. -/
structure Gateway where
  answers : ℕ → HttpOutcome
  executed : ℕ → Bool
  /-- A request answered with a refund id was executed. -/
  paid : ∀ n, (answers n).Paid → executed n = true
  /-- A request answered with a 4xx was not. -/
  refused : ∀ n status body code message, answers n = .rejected (some status) body code message →
    400 ≤ status → status < 500 → executed n = false

/-- The refunds that the gateway has executed among its first `n` requests. -/
def Gateway.executions (g : Gateway) (n : ℕ) : ℕ := (List.range n).countP g.executed

/-- The requests that are made and not answered with a refund id are not executed. -/
def Gateway.Truthful (g : Gateway) (config : PayFastConfig) : Prop :=
  ∀ n < payfastMaxAttempts, config.Ready → (∀ m < n, (g.answers m).TryAgain) →
    ¬(g.answers n).Paid → g.executed n = false

theorem Gateway.executions_eq_zero_iff (g : Gateway) (n : ℕ) :
    g.executions n = 0 ↔ ∀ i < n, g.executed i = false := by
  rw [executions, List.countP_eq_zero]
  simp only [List.mem_range, Bool.not_eq_true]

/-- When the last request is executed, it is the only one exactly when none before it
is. -/
theorem Gateway.executions_succ_eq_one_iff (g : Gateway) {n : ℕ} (h : g.executed n = true) :
    g.executions (n + 1) = 1 ↔ ∀ i < n, g.executed i = false := by
  rw [← g.executions_eq_zero_iff n]
  simp [executions, List.range_succ, h]

/-- The row of a refund tells how often the gateway has paid for it, once or never,
exactly when the gateway executes no request that it does not answer with a refund
id. -/
theorem row_truthful_iff {config : SystemConfig} {s : Store} (hs : Reachable config s)
    (input : IssueRefundInput) (g : Gateway) (faults : ℕ → Option Failure) {row : Refund}
    (hrow : ((issueRefund config.payfast config.business input).run ⟨g.answers, faults⟩
      s).store.refund? s.nextId = some row)
    (hend : row.state = .succeeded ∨ row.state = .failed) :
    ((row.state = .succeeded → g.executions ((issueRefund config.payfast config.business input).run
        ⟨g.answers, faults⟩ s).exchanges.length = 1) ∧
      (row.state = .failed → g.executions ((issueRefund config.payfast config.business input).run
        ⟨g.answers, faults⟩ s).exchanges.length = 0)) ↔
    g.Truthful config.payfast := by
  obtain ⟨hold, chargeTxn, plan, gatewayResult, requests, result, s', env', -, -, -,
    hrun, hcalls, -,
    -, hsucc, hfail⟩ := issueRefund_row hs.consistent input _ hrow
  rw [hrun, List.length_map, List.length_range]
  -- the requests that are made, in the words of the condition
  have htruthful : g.Truthful config.payfast ↔
      ∀ i < requests, ¬(g.answers i).Paid → g.executed i = false := by
    constructor
    · intro ht i hi
      obtain ⟨hready, hmax, hall⟩ := (hcalls.lt_iff i).mp hi
      exact ht i hmax hready hall
    · intro h i hmax hready hall
      exact h i ((hcalls.lt_iff i).mpr ⟨hready, hmax, hall⟩)
  rw [htruthful]
  rcases hend with hst | hst
  · obtain ⟨⟨refundId, rfl⟩, -⟩ := hsucc hst
    obtain ⟨j, rfl, hok⟩ := hcalls.ok refundId rfl
    have hex : g.executed j = true := g.paid j ⟨refundId, hok⟩
    rw [g.executions_succ_eq_one_iff hex, hst]
    constructor
    · rintro ⟨hnone, -⟩ i hi hnot
      rcases Nat.lt_succ_iff_lt_or_eq.mp hi with hi | rfl
      · exact hnone rfl i hi
      · exact absurd ⟨refundId, hok⟩ hnot
    · intro h
      refine ⟨fun _ i hi ↦ h i (Nat.lt_succ_of_lt hi) (hcalls.not_paid hi), nofun⟩
  · obtain ⟨retriable, status, reason, rfl⟩ := hfail hst
    have hnot := hcalls.failed retriable status reason rfl
    rw [g.executions_eq_zero_iff, hst]
    constructor
    · rintro ⟨-, hnone⟩ i hi -
      exact hnone rfl i hi
    · intro h
      exact ⟨nofun, fun _ i hi ↦ h i hi (hnot i hi)⟩

/-- A gateway that executes and answers every request. -/
def promptGateway : Gateway where
  answers := Sample.pays
  executed := fun _ ↦ true
  paid := fun _ _ ↦ rfl
  refused := nofun

theorem row_truthful_iff_sample :
    ((RefundState.succeeded = .succeeded → promptGateway.executions ((issueRefund
        Sample.config.payfast Sample.config.business Sample.input).run
          ⟨promptGateway.answers, fun _ ↦ none⟩ Sample.paid).exchanges.length = 1) ∧
      (RefundState.succeeded = .failed → promptGateway.executions ((issueRefund
        Sample.config.payfast Sample.config.business Sample.input).run
          ⟨promptGateway.answers, fun _ ↦ none⟩ Sample.paid).exchanges.length = 0)) ↔
    promptGateway.Truthful Sample.config.payfast := by
  have hrow : ((issueRefund Sample.config.payfast Sample.config.business Sample.input).run
      ⟨promptGateway.answers, fun _ ↦ none⟩ Sample.paid).store.refund? Sample.paid.nextId =
        some (succeedRow "rf-1" 0 Sample.refund) := rfl
  exact row_truthful_iff Sample.paid_reachable Sample.input promptGateway (fun _ ↦ none) hrow
    (.inl rfl)

/-- A gateway whose first answer times out after the request was executed. -/
def lateGateway : Gateway where
  answers := fun n ↦
    if n = 0 then .rejected none .empty .etimedout "timeout of 10000ms exceeded"
    else .resolved 200 (some "rf-2")
  executed := fun _ ↦ true
  paid := fun _ _ ↦ rfl
  refused := by
    intro n status body code message h
    by_cases hn : n = 0
    · rw [if_pos hn] at h
      cases h
    · rw [if_neg hn] at h
      cases h

/-- The refund is tried again and paid twice, and its row is `SUCCEEDED`. -/
theorem row_not_truthful :
    ¬∀ (config : SystemConfig) (s : Store) (input : IssueRefundInput) (g : Gateway)
      (faults : ℕ → Option Failure) (row : Refund), Reachable config s →
      ((issueRefund config.payfast config.business input).run ⟨g.answers, faults⟩
        s).store.refund? s.nextId = some row →
      (row.state = .succeeded → g.executions ((issueRefund config.payfast config.business
          input).run ⟨g.answers, faults⟩ s).exchanges.length = 1) ∧
        (row.state = .failed → g.executions ((issueRefund config.payfast config.business
          input).run ⟨g.answers, faults⟩ s).exchanges.length = 0) := by
  intro h
  have hrow : ((issueRefund Sample.config.payfast Sample.config.business Sample.input).run
      ⟨lateGateway.answers, fun _ ↦ none⟩ Sample.paid).store.refund? Sample.paid.nextId =
        some (succeedRow "rf-2" 0 Sample.refund) := rfl
  have htwice : lateGateway.executions ((issueRefund Sample.config.payfast Sample.config.business
      Sample.input).run ⟨lateGateway.answers, fun _ ↦ none⟩ Sample.paid).exchanges.length = 2 := by
    decide
  obtain ⟨hone, -⟩ := h Sample.config Sample.paid Sample.input lateGateway (fun _ ↦ none) _
    Sample.paid_reachable hrow
  cases htwice.symm.trans (hone rfl)

end RefundsService

end GearshPayments
