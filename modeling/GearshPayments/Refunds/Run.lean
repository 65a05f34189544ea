import GearshPayments.Refunds.Gateway
import GearshPayments.System

/-!
# Runs of a refund

What each part of `issueRefund` does when it runs alone, under any environment:
what it reads, where it may stop, and the store it leaves.  The escrow operation
of a refund commits exactly when the hold accepts it (`commits_iff_accepts`).
-/

namespace GearshPayments

open EscrowService

namespace Store

/-- A new refund is found under its id. -/
theorem Consistent.refund?_withRefund {s : Store} (hs : s.Consistent) {r : Refund}
    (hid : r.id = s.nextId) : (s.withRefund r).refund? s.nextId = some r := by
  rw [← hid]
  refine Table.find_append_new fun x hx ↦ ?_
  have := (hs.refunds x hx).1
  omega

theorem refund?_announced {s : Store} {id : ℕ} {f : Refund → Refund} {r : Refund}
    (hf : ∀ r, (f r).id = r.id) (h : s.refund? id = some r) (notice : EnqueueInput) :
    (s.announced id f notice).refund? id = some (f r) :=
  Table.find_update_self hf h

end Store

namespace RefundsService

open Resumption

/-- A store with a row that has just been inserted is consistent. -/
theorem consistent_withRefund {s : Store} (hs : s.Consistent) (input : IssueRefundInput)
    (chargeTxn : Transaction) {refundCents : ℤ} (hpos : 0 < refundCents) :
    (s.withRefund (processingRow input chargeTxn refundCents s.nextId s.clock)).Consistent :=
  hs.createRefund (fun _ _ ↦ rfl) (fun _ _ ↦ hpos)
    (Tx.createRefund_apply (processingRow input chargeTxn refundCents) s)

/-! ## Resolution and insertion -/

/-- Resolution reads twice and does nothing else; the hold it returns is in the store. -/
theorem resolveHoldAndCharge_spec (input : IssueRefundInput) (env : Env HttpOutcome Failure)
    (s : Store) :
    (∃ e env', (resolveHoldAndCharge input).run env s = ⟨.error e, s, env', []⟩) ∨
    ∃ hold chargeTxn, (resolveHoldAndCharge input).run env s =
      ⟨.ok (hold, chargeTxn), s, env.afterAction.afterAction, []⟩ ∧ hold ∈ s.escrowHolds := by
  unfold resolveHoldAndCharge
  split
  · rename_i holdId _
    unfold resolveByHold
    cases h0 : env.faults 0 with
    | some e => exact .inl ⟨_, _, run_bind_error (run_read_refused h0 _ s)⟩
    | none =>
        rw [run_bind_ok_nil (run_read h0 _ s)]
        cases hh : s.escrowHold? holdId with
        | none => exact .inl ⟨_, _, rfl⟩
        | some hold =>
            dsimp only
            cases h1 : env.afterAction.faults 0 with
            | some e => exact .inl ⟨_, _, run_bind_error (run_read_refused h1 _ s)⟩
            | none =>
                rw [run_bind_ok_nil (run_read h1 _ s)]
                cases s.latestCharge hold.paymentIntentId with
                | none => exact .inl ⟨_, _, rfl⟩
                | some chargeTxn => exact .inr ⟨_, _, rfl, (Table.find_some hh).1⟩
  · rename_i transactionId _ _
    unfold resolveByTransaction
    cases h0 : env.faults 0 with
    | some e => exact .inl ⟨_, _, run_bind_error (run_read_refused h0 _ s)⟩
    | none =>
        rw [run_bind_ok_nil (run_read h0 _ s)]
        cases (s.transaction? transactionId).filter (·.type = .charge) with
        | none => exact .inl ⟨_, _, rfl⟩
        | some chargeTxn =>
            dsimp only
            cases h1 : env.afterAction.faults 0 with
            | some e => exact .inl ⟨_, _, run_bind_error (run_read_refused h1 _ s)⟩
            | none =>
                rw [run_bind_ok_nil (run_read h1 _ s)]
                cases hh : s.holdOfIntent chargeTxn.paymentIntentId with
                | none => exact .inl ⟨_, _, rfl⟩
                | some hold => exact .inr ⟨_, _, rfl, List.mem_of_find?_eq_some hh⟩
  · exact .inl ⟨_, _, rfl⟩

section Preparation

variable (config : SystemConfig) {input : IssueRefundInput} {env env' : Env HttpOutcome Failure}
  {s : Store} {hold : EscrowHold} {chargeTxn : Transaction}

/-- Once the hold and its charge have been found, the refund is planned and its row inserted. -/
theorem issueRefund_of_resolve
    (hresolve : (resolveHoldAndCharge input).run env s = ⟨.ok (hold, chargeTxn), s, env', []⟩) :
    (issueRefund config.payfast config.business input).run env s = (do
      let plan ← Resumption.ofExcept (planRefund input hold chargeTxn)
      let refund ← transaction (Tx.createRefund (processingRow input chargeTxn plan.refundCents))
      executeRefund config.payfast config.business input hold chargeTxn plan refund :
        Service Refund).run env' s :=
  run_bind_ok_nil hresolve

theorem issueRefund_of_plan {plan : RefundPlan}
    (hresolve : (resolveHoldAndCharge input).run env s = ⟨.ok (hold, chargeTxn), s, env', []⟩)
    (hplan : planRefund input hold chargeTxn = .ok plan) (h0 : env'.faults 0 = none) :
    (issueRefund config.payfast config.business input).run env s =
      (executeRefund config.payfast config.business input hold chargeTxn plan
        (processingRow input chargeTxn plan.refundCents s.nextId s.clock)).run env'.afterAction
          (s.withRefund (processingRow input chargeTxn plan.refundCents s.nextId s.clock)) := by
  rw [issueRefund_of_resolve config hresolve, hplan, ofExcept_ok, ret_bind]
  exact run_bind_ok_nil (run_transaction h0 (Tx.createRefund_apply _ s))

theorem issueRefund_of_plan_error {e : Failure}
    (hresolve : (resolveHoldAndCharge input).run env s = ⟨.ok (hold, chargeTxn), s, env', []⟩)
    (hplan : planRefund input hold chargeTxn = .error e) :
    (issueRefund config.payfast config.business input).run env s = ⟨.error e, s, env', []⟩ := by
  rw [issueRefund_of_resolve config hresolve, hplan]
  rfl

end Preparation

/-- A refund stops before it has done anything, or it inserts its row and goes on. -/
theorem issueRefund_spec (config : SystemConfig) (input : IssueRefundInput)
    (env : Env HttpOutcome Failure) (s : Store) :
    (∃ e env', (issueRefund config.payfast config.business input).run env s =
      ⟨.error e, s, env', []⟩) ∨
    ∃ hold chargeTxn plan,
      ((resolveHoldAndCharge input).run env s).result = .ok (hold, chargeTxn) ∧
      hold ∈ s.escrowHolds ∧ planRefund input hold chargeTxn = .ok plan ∧
      (issueRefund config.payfast config.business input).run env s =
        (executeRefund config.payfast config.business input hold chargeTxn plan
          (processingRow input chargeTxn plan.refundCents s.nextId s.clock)).run
          ⟨env.answers, fun n ↦ env.faults (n + 3)⟩
          (s.withRefund (processingRow input chargeTxn plan.refundCents s.nextId s.clock)) := by
  rcases resolveHoldAndCharge_spec input env s with ⟨e, env', hr⟩ | ⟨hold, chargeTxn, hr, hm⟩
  · exact .inl ⟨e, env', run_bind_error hr⟩
  · cases hp : planRefund input hold chargeTxn with
    | error e => exact .inl ⟨e, _, issueRefund_of_plan_error config hr hp⟩
    | ok plan =>
        cases h2 : env.afterAction.afterAction.faults 0 with
        | some e =>
            refine .inl ⟨e, env.afterAction.afterAction.afterAction, ?_⟩
            rw [issueRefund_of_resolve config hr, hp, ofExcept_ok, ret_bind]
            exact run_bind_error (run_transaction_refused h2 _ s)
        | none =>
            exact .inr ⟨hold, chargeTxn, plan, by rw [hr], hm, hp,
              issueRefund_of_plan config hr hp h2⟩

/-! ## The two ends -/

theorem handleGatewayFailure_run {refund row : Refund} {hold : EscrowHold} {refundCents : ℤ}
    {reason : String} {input : IssueRefundInput} {env : Env HttpOutcome Failure} {s : Store}
    (hr : s.refund? refund.id = some row) (h0 : env.faults 0 = none) :
    (handleGatewayFailure refund hold refundCents reason input).run env s =
      ⟨.ok (failRow reason row),
        s.announced refund.id (failRow reason)
          (failedNotice refund hold refundCents reason input s.clock),
        env.afterAction, []⟩ := by
  refine run_transaction h0 ?_
  rw [Tx.bind_ok (Tx.updateRefund_apply hr)]
  simp only [Tx.bind_apply, Tx.now_apply, Tx.discard_apply, OutboxService.enqueue_apply,
    Except.map, Tx.pure_apply]
  rfl

theorem handleGatewayFailure_refused {refund : Refund} {hold : EscrowHold} {refundCents : ℤ}
    {reason : String} {input : IssueRefundInput} {env : Env HttpOutcome Failure} {s : Store}
    {e : Failure} (h0 : env.faults 0 = some e) :
    (handleGatewayFailure refund hold refundCents reason input).run env s =
      ⟨.error e, s, env.afterAction, []⟩ :=
  run_transaction_refused h0 _ s

section Ends

variable (business : BusinessConfig) (input : IssueRefundInput) (refund : Refund)
  (hold : EscrowHold) (chargeTxn : Transaction) (refundCents : ℤ) (refundIsFull : Bool)

/-- How a refund ends once the gateway has been asked, in the store `s` with the given
refusals to come: the result of the gateway call, what is returned or thrown, and the
store that is left. -/
inductive Ends (faults : ℕ → Option Failure) (s : Store) :
    PayFastRefundResult → Except Failure Refund → Store → Prop
  /-- The failure could not be recorded. -/
  | unrecorded (retriable : Bool) (status : Option ℕ) (reason : String) (e : Failure) :
    Ends faults s (.failed retriable status reason) (.error e) s
  /-- The failure is recorded. -/
  | failed (retriable : Bool) (status : Option ℕ) (reason : String) (e : Failure) :
    Ends faults s (.failed retriable status reason) (.error e)
      (s.announced refund.id (failRow reason)
        (failedNotice refund hold refundCents reason input s.clock))
  /-- The gateway has paid, and nothing is left of the outer transaction. -/
  | stopped (gatewayRefundId : String) (e : Failure)
      (h : faults 0 ≠ none ∨ faults 1 ≠ none ∨
        ∃ e, moveHold business refund hold refundCents refundIsFull input s = .error e) :
    Ends faults s (.ok gatewayRefundId) (.error e) s
  /-- The gateway has paid, and only the escrow operation is left. -/
  | lost (gatewayRefundId : String) (e : Failure) {hold' : EscrowHold} {s₂ : Store}
      (hbefore : faults 0 = none ∧ faults 1 = none)
      (hmove : moveHold business refund hold refundCents refundIsFull input s = .ok (hold', s₂))
      (h : faults 2 ≠ none ∨ faults 3 ≠ none) :
    Ends faults s (.ok gatewayRefundId) (.error e) s₂
  /-- The gateway has paid, and everything is recorded. -/
  | done (gatewayRefundId : String) {hold' : EscrowHold} {s₂ : Store}
      (hmove : moveHold business refund hold refundCents refundIsFull input s = .ok (hold', s₂))
      (h : faults 2 = none ∧ faults 3 = none) :
    Ends faults s (.ok gatewayRefundId) (.ok (succeedRow gatewayRefundId s.clock refund))
      (s₂.announced refund.id (succeedRow gatewayRefundId s.clock)
        (succeededNotice refund hold chargeTxn refundCents gatewayRefundId input s.clock))

variable (env : Env HttpOutcome Failure) {s : Store}

/-- The escrow operation writes no refund. -/
theorem refunds_of_moveHold {hold' : EscrowHold} {s₂ : Store}
    (hm : moveHold business refund hold refundCents refundIsFull input s = .ok (hold', s₂)) :
    s₂.refunds = s.refunds := by
  rw [moveHold_eq_exec] at hm
  obtain ⟨_, _, _, _, _, -, rfl⟩ := EscrowOp.commits_of_exec_eq hm
  rfl

theorem handleGatewaySuccess_spec (gatewayRefundId : String)
    (hr : s.refund? refund.id = some refund) :
    ∃ result s' env',
      (handleGatewaySuccess business refund hold chargeTxn refundCents refundIsFull
        gatewayRefundId input).run env s = ⟨result, s', env', []⟩ ∧
      Ends business input refund hold chargeTxn refundCents refundIsFull env.faults s
        (.ok gatewayRefundId) result s' := by
  unfold handleGatewaySuccess
  cases h0 : env.faults 0 with
  | some e =>
      refine ⟨_, _, _, run_bind_error (run_read_refused h0 _ s), .stopped _ e (.inl ?_)⟩
      rw [h0]
      exact Option.some_ne_none e
  | none =>
      rw [run_bind_ok_nil (run_read h0 _ s)]
      dsimp only
      rw [hr]
      dsimp only [Option.isNone_some]
      rw [if_neg Bool.false_ne_true]
      cases h1 : env.faults 1 with
      | some e =>
          have h1' : env.afterAction.faults 0 = some e := h1
          refine ⟨_, _, _, run_bind_error (run_discard_error (run_transaction_refused h1' _ s)),
            .stopped _ e (.inr (.inl ?_))⟩
          rw [h1]
          exact Option.some_ne_none e
      | none =>
          have h1' : env.afterAction.faults 0 = none := h1
          cases hm : moveHold business refund hold refundCents refundIsFull input s with
          | error e =>
              exact ⟨_, _, _, run_bind_error (run_discard_error (run_transaction_error h1' hm)),
                .stopped _ e (.inr (.inr ⟨e, hm⟩))⟩
          | ok r =>
              obtain ⟨hold', s₂⟩ := r
              have hr₂ : s₂.refund? refund.id = some refund := by
                rw [Store.refund?, refunds_of_moveHold business input refund hold refundCents
                  refundIsFull hm]
                exact hr
              have hmove : (transaction (moveHold business refund hold refundCents refundIsFull
                  input) : Service EscrowHold).run env.afterAction s =
                  ⟨.ok hold', s₂, env.afterAction.afterAction, []⟩ := run_transaction h1' hm
              have hstep := run_discard hmove
              rw [run_bind_ok_nil hstep]
              cases h2 : env.faults 2 with
              | some e =>
                  have h2' : env.afterAction.afterAction.faults 0 = some e := h2
                  refine ⟨_, _, _, run_bind_error (run_read_refused h2' _ s₂),
                    .lost _ e ⟨h0, h1⟩ hm (.inl ?_)⟩
                  rw [h2]
                  exact Option.some_ne_none e
              | none =>
                  have hst : (statement : Service Unit).run env.afterAction.afterAction s₂ =
                      ⟨.ok (), s₂, env.afterAction.afterAction.afterAction, []⟩ := run_read h2 _ s₂
                  rw [run_bind_ok_nil hst]
                  cases h3 : env.faults 3 with
                  | some e =>
                      have h3' : env.afterAction.afterAction.afterAction.faults 0 = some e := h3
                      refine ⟨_, _, _, run_transaction_refused h3' _ s₂,
                        .lost _ e ⟨h0, h1⟩ hm (.inr ?_)⟩
                      rw [h3]
                      exact Option.some_ne_none e
                  | none =>
                      have h3' : env.afterAction.afterAction.afterAction.faults 0 = none := h3
                      refine ⟨_, _, _, run_transaction h3' ?_, .done _ hm ⟨h2, h3⟩⟩
                      rw [finaliseRefund, Tx.bind_ok (Tx.updateRefund_apply hr₂)]
                      simp only [Tx.bind_apply, Tx.discard_apply, OutboxService.enqueue_apply,
                        Except.map, Tx.pure_apply]
                      rfl

/-- The gateway is asked, and its answer decides how the refund ends. -/
theorem executeRefund_spec (config : SystemConfig) (plan : RefundPlan)
    (hr : s.refund? refund.id = some refund) :
    ∃ gatewayResult requests result s' env',
      (executeRefund config.payfast config.business input hold chargeTxn plan refund).run env s =
        ⟨result, s', env', (List.range requests).map
          fun i ↦ (⟨plan.pfPaymentId, plan.refundCents, input.reason⟩, env.answers i)⟩ ∧
      Calls config.payfast env.answers payfastMaxAttempts gatewayResult requests ∧
      Ends config.business input refund hold chargeTxn plan.refundCents plan.refundIsFull
        env.faults s gatewayResult result s' := by
  obtain ⟨gatewayResult, requests, hrun, hcalls⟩ := callPayFastWithRetry_spec config.payfast
    ⟨plan.pfPaymentId, plan.refundCents, input.reason⟩ env s
  have hexec : (executeRefund config.payfast config.business input hold chargeTxn plan refund).run
      env s = _ := run_bind_ok hrun
  rw [hexec]
  let env' : Env HttpOutcome Failure := ⟨fun i ↦ env.answers (i + requests), env.faults⟩
  cases gatewayResult with
  | failed retriable status reason =>
      refine ⟨.failed retriable status reason, requests, ?_⟩
      dsimp only
      cases h0 : env.faults 0 with
      | some e =>
          have hfail : (handleGatewayFailure refund hold plan.refundCents reason input).run env' s =
              ⟨.error e, s, env'.afterAction, []⟩ := handleGatewayFailure_refused h0
          rw [run_bind_error hfail, List.append_nil]
          exact ⟨_, _, _, rfl, hcalls, .unrecorded _ _ _ e⟩
      | none =>
          have hfail : (handleGatewayFailure refund hold plan.refundCents reason input).run env' s =
              _ := handleGatewayFailure_run hr h0
          rw [run_bind_ok_nil hfail]
          exact ⟨_, _, _, congrArg (Run.mk _ _ _) (List.append_nil _), hcalls, .failed _ _ _ _⟩
  | ok gatewayRefundId =>
      obtain ⟨result, s', env'', hsucc, hends⟩ := handleGatewaySuccess_spec config.business input
        refund hold chargeTxn plan.refundCents plan.refundIsFull env' gatewayRefundId hr
      refine ⟨.ok gatewayRefundId, requests, result, s', env'', ?_, hcalls, hends⟩
      dsimp only
      rw [hsucc, List.append_nil]

/-- A refund stops before it has done anything, or it inserts its row, asks the gateway
and ends in one of the ways listed. -/
theorem issueRefund_cases (config : SystemConfig) (hs : s.Consistent) :
    (∃ e env', (issueRefund config.payfast config.business input).run env s =
      ⟨.error e, s, env', []⟩) ∨
    ∃ hold chargeTxn plan gatewayResult requests result s' env',
      ((resolveHoldAndCharge input).run env s).result = .ok (hold, chargeTxn) ∧
      s.escrowHold? hold.id = some hold ∧ planRefund input hold chargeTxn = .ok plan ∧
      (issueRefund config.payfast config.business input).run env s =
        ⟨result, s', env', (List.range requests).map
          fun i ↦ (⟨plan.pfPaymentId, plan.refundCents, input.reason⟩, env.answers i)⟩ ∧
      Calls config.payfast env.answers payfastMaxAttempts gatewayResult requests ∧
      Ends config.business input
        (processingRow input chargeTxn plan.refundCents s.nextId s.clock) hold chargeTxn
        plan.refundCents plan.refundIsFull (fun n ↦ env.faults (n + 3))
        (s.withRefund (processingRow input chargeTxn plan.refundCents s.nextId s.clock))
        gatewayResult result s' := by
  rcases issueRefund_spec config input env s with h | ⟨hold, chargeTxn, plan, hres, hm, hplan, h⟩
  · exact .inl h
  · have hr := hs.refund?_withRefund
      (show (processingRow input chargeTxn plan.refundCents s.nextId s.clock).id =
        s.nextId from rfl)
    obtain ⟨gatewayResult, requests, result, s', env', hexec, hcalls, hends⟩ :=
      executeRefund_spec input (processingRow input chargeTxn plan.refundCents s.nextId s.clock)
        hold chargeTxn ⟨env.answers, fun n ↦ env.faults (n + 3)⟩ config plan hr
    exact .inr ⟨hold, chargeTxn, plan, gatewayResult, requests, result, s', env', hres,
      (Table.find_eq_some_iff hs.conserved.distinct).mpr hm, hplan, h.trans hexec, hcalls, hends⟩

end Ends

/-! ## The escrow operation -/

/-- The hold accepts a refund: a full one only when nothing has been refunded, a part
while the hold is open. -/
def Accepts (hold : EscrowHold) (refundCents : ℤ) (refundIsFull : Bool) : Prop :=
  if refundIsFull then hold.state = .held
  else 0 < refundCents ∧ refundCents ≤ hold.remaining ∧
    (hold.state = .held ∨ hold.state = .partiallyRefunded)

section Escrow

variable {refund : Refund} {hold current : EscrowHold} {refundCents : ℤ} {refundIsFull : Bool}
  {input : IssueRefundInput} {s : Store} {target : EscrowState} {w : Writes}
  {entries : List LedgerEntryInput}

/-- The amount that the escrow operation of a refund moves. -/
def movedCents (current : EscrowHold) (refundCents : ℤ) (refundIsFull : Bool) : ℤ :=
  if refundIsFull then current.amountCents else refundCents

/-- What the escrow operation of a refund writes. -/
theorem work_refundOp {now : ℕ}
    (hw : (refundOp refund hold refundCents refundIsFull input).work current target now = .ok w) :
    w.refundId = some refund.id ∧
      w.entries = LedgerService.buildRefundEntries current.snapshot
        (movedCents current refundCents refundIsFull) (ledgerFault input.faultParty)
        refundIsFull := by
  cases refundIsFull with
  | true =>
      cases hw
      exact ⟨rfl, rfl⟩
  | false =>
      simp only [refundOp, EscrowOp.work, partialRefundWork, Bool.false_eq_true, if_false] at hw
      split at hw
      · cases hw
      · cases hw
        exact ⟨rfl, rfl⟩

/-- The escrow operation of a refund commits exactly when the hold accepts it. -/
theorem commits_iff_accepts (hs : s.Consistent) (hh : s.escrowHold? hold.id = some current)
    {row : Refund} (hr : s.refund? refund.id = some row) :
    (∃ target w entries,
      (refundOp refund hold refundCents refundIsFull input).Commits s current target w entries) ↔
      Accepts current refundCents refundIsFull := by
  have hbounds := hs.conserved.bounds (Table.find_some hh).1
  have hexists : (some refund.id).all (fun id ↦ (s.refund? id).isSome) = true := by
    rw [Option.all_some, hr]
    rfl
  constructor
  · rintro ⟨target, w, entries, hc⟩
    have hsrc := source_of_legal hc.legal
    cases refundIsFull with
    | true => exact hsrc
    | false =>
        have hw := hc.work
        simp only [refundOp, EscrowOp.work, partialRefundWork, Bool.false_eq_true, if_false] at hw
        split at hw
        · cases hw
        · rename_i hle
          refine ⟨hc.valid, ?_, hsrc⟩
          rw [EscrowHold.remaining]
          omega
  · intro ha
    -- the hold is open for the action, and the amount is one the builder accepts
    obtain ⟨target, hlegal, hwork, hvalid, hamount⟩ : ∃ target,
        transitions current.state
            (refundOp refund hold refundCents refundIsFull input).action = some target ∧
          (∃ w, (refundOp refund hold refundCents refundIsFull input).work current target s.clock =
            .ok w) ∧
          (refundOp refund hold refundCents refundIsFull input).Valid ∧
          0 ≤ movedCents current refundCents refundIsFull ∧
          movedCents current refundCents refundIsFull ≤ current.amountCents := by
      cases refundIsFull with
      | true =>
          have hst : current.state = .held := ha
          rw [hst]
          exact ⟨.refunded, rfl, ⟨_, rfl⟩, trivial, hbounds.1.trans hbounds.2, le_refl _⟩
      | false =>
          obtain ⟨hpos, hle, hst⟩ := ha
          rw [EscrowHold.remaining] at hle
          have hrun :
              ¬current.partiallyRefundedAmountCents + refundCents > current.amountCents := by
            omega
          refine ⟨.partiallyRefunded, ?_, ?_, hpos, hpos.le, ?_⟩
          · rcases hst with hst | hst
            · rw [hst]
              rfl
            · rw [hst]
              rfl
          · simp only [refundOp, EscrowOp.work, partialRefundWork, Bool.false_eq_true, if_false,
              if_neg hrun]
            exact ⟨_, rfl⟩
          · change refundCents ≤ current.amountCents
            omega
    obtain ⟨w, hw⟩ := hwork
    obtain ⟨hid, hentries⟩ := work_refundOp hw
    have hbuilt : LedgerService.buildRefundEntries current.snapshot
        (movedCents current refundCents refundIsFull) (ledgerFault input.faultParty) refundIsFull =
          .ok _ := LedgerService.buildRefundEntries_eq_ok_iff.mpr ⟨hamount.1, hamount.2, rfl⟩
    have hfound : s.escrowHold? (refundOp refund hold refundCents refundIsFull input).holdId =
        some current := by
      cases refundIsFull <;> exact hh
    exact ⟨target, w, _, hvalid, hfound, hlegal, hw, hid ▸ hexists, hentries.trans hbuilt,
      LedgerService.sound_buildRefundEntries hbuilt⟩

end Escrow

end RefundsService

end GearshPayments
