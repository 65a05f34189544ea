import GearshPayments.Refunds.Run
import GearshPayments.Subscribers.Handlers

/-!
# Disputes, from the event to the hold

The handlers run on a store in which the database may refuse any action and the
gateway may answer anything.  A dispute that is resolved for the artist or split takes
effect when its handler returns (`resolve_of_disputed`); one that is resolved for the
client never does, since the refunds service calls the operation for holds that are
open (`RefundsService.hold_of_issueRefund`).
-/

namespace GearshPayments

open Resumption

/-- A run in which the database refuses some actions. -/
def refusals (answers : ℕ → HttpOutcome) (faults : ℕ → Option String) : Env HttpOutcome Failure :=
  ⟨answers, fun n ↦ (faults n).map .database⟩

/-- Refusals come from the database. -/
def OfDatabase (env : Env HttpOutcome Failure) : Prop :=
  ∀ n e, env.faults n = some e → ∃ message, e = .database message

theorem ofDatabase_refusals (answers : ℕ → HttpOutcome) (faults : ℕ → Option String) :
    OfDatabase (refusals answers faults) := by
  intro n e h
  obtain ⟨message, -, rfl⟩ := Option.map_eq_some_iff.mp h
  exact ⟨message, rfl⟩

theorem OfDatabase.afterAction {env : Env HttpOutcome Failure} (h : OfDatabase env) :
    OfDatabase env.afterAction := fun n e hf ↦ h (n + 1) e hf

/-! ## Errors of the escrow service -/

theorem not_expected_of_refused {env : Env HttpOutcome Failure} (h : OfDatabase env) {n : ℕ}
    {e : Failure} (hf : env.faults n = some e) : isExpectedTerminalTransition e = false := by
  obtain ⟨message, rfl⟩ := h n e hf
  rfl

theorem expected_of_nextState {src : EscrowState} {action : EscrowAction} {e : Failure}
    (h : nextState src action = .error e) : isExpectedTerminalTransition e = true := by
  rw [isExpectedTerminalTransition, nextState_code h]
  split <;> decide

namespace LedgerService

theorem not_expected_of_assertBalanced {entries : List LedgerEntryInput} {e : Failure}
    (h : assertBalanced entries = .error e) : isExpectedTerminalTransition e = false := by
  have hfrom : ∀ (debits credits : ℤ), assertBalancedFrom debits credits entries = .error e →
      isExpectedTerminalTransition e = false := by
    clear h
    induction entries with
    | nil =>
        intro debits credits h
        rw [assertBalancedFrom] at h
        split at h
        · cases h
          rfl
        · cases h
    | cons x xs ih =>
        intro debits credits h
        rw [assertBalancedFrom] at h
        split at h
        · cases h
          rfl
        · split at h
          · exact ih _ _ h
          · exact ih _ _ h
  exact hfrom 0 0 h

theorem not_expected_of_buildRefundEntries {hold : HoldSnapshot} {refundCents : ℤ}
    {faultParty : FaultParty} {refundIsFull : Bool} {e : Failure}
    (h : buildRefundEntries hold refundCents faultParty refundIsFull = .error e) :
    isExpectedTerminalTransition e = false := by
  unfold buildRefundEntries at h
  split at h
  · cases h
    rfl
  · split at h
    · cases h
      rfl
    · dsimp only at h
      split at h <;> cases h

theorem not_expected_of_buildSplitEntries {hold : HoldSnapshot} {artistCents clientCents : ℤ}
    {e : Failure} (h : buildSplitEntries hold artistCents clientCents = .error e) :
    isExpectedTerminalTransition e = false := by
  unfold buildSplitEntries at h
  split at h
  · cases h
    rfl
  · split at h
    · cases h
      rfl
    · cases h

end LedgerService

namespace EscrowOp

variable {config : BusinessConfig} {op : EscrowOp} {s : Store} {hold : EscrowHold} {e : Failure}

/-- What the work of an operation may throw, and what the builder of its entries may. -/
theorem not_expected_of_work (op : EscrowOp) (hold : EscrowHold) (target : EscrowState) (now : ℕ) :
    (∀ e, op.work hold target now = .error e → isExpectedTerminalTransition e = false) ∧
      ∀ w e, op.work hold target now = .ok w → w.entries = .error e →
        isExpectedTerminalTransition e = false := by
  constructor
  · intro e h
    cases op <;> simp only [EscrowOp.work, EscrowService.releaseWork, EscrowService.refundWork,
      EscrowService.partialRefundWork, EscrowService.freezeWork, EscrowService.resolveReleaseWork,
      EscrowService.resolveRefundWork, EscrowService.resolveSplitWork] at h
    all_goals
      try split at h
      all_goals
        cases h
        try rfl
  · intro w e h he
    cases op <;> simp only [EscrowOp.work, EscrowService.releaseWork, EscrowService.refundWork,
      EscrowService.partialRefundWork, EscrowService.freezeWork, EscrowService.resolveReleaseWork,
      EscrowService.resolveRefundWork, EscrowService.resolveSplitWork] at h
    all_goals
      try split at h
      all_goals
        cases h
        try first
          | cases he
          | exact LedgerService.not_expected_of_buildRefundEntries he
          | exact LedgerService.not_expected_of_buildSplitEntries he

/-- The error of an operation that the state machine allows is not one of its own. -/
theorem not_expected_of_legal {target : EscrowState} (hh : s.escrowHold? op.holdId = some hold)
    (ht : transitions hold.state op.action = some target) (h : op.exec config s = .error e) :
    isExpectedTerminalTransition e = false := by
  by_cases hv : op.Valid
  · have hid : hold.id = op.holdId := (Table.find_some hh).2
    obtain ⟨hwork, hentries⟩ := not_expected_of_work op hold target s.clock
    rw [exec_of_valid config hv, EscrowService.applyTransition_apply hh ht] at h
    cases hw : op.work hold target s.clock with
    | error e' =>
        rw [hw] at h
        cases h
        exact hwork e hw
    | ok w =>
        rw [hw] at h
        dsimp only at h
        rw [Tx.bind_apply, EscrowService.write_apply (hid ▸ hh)] at h
        split at h
        · rename_i hok
          -- everything was written, and only the last read can have failed
          rw [Tx.findEscrowHoldOrThrow] at h
          split at h
          · cases h
            rfl
          · cases h
        · rename_i e' herr
          cases h
          split at herr
          · cases he : w.entries with
            | error e'' =>
                rw [he] at herr
                cases herr
                exact hentries w e hw he
            | ok entries =>
                rw [he] at herr
                dsimp only at herr
                cases hb : LedgerService.assertBalanced entries with
                | error e'' =>
                    rw [hb] at herr
                    cases herr
                    exact LedgerService.not_expected_of_assertBalanced hb
                | ok u =>
                    rw [hb] at herr
                    cases herr
          · cases herr
            rfl
  · obtain ⟨detail, he⟩ := exec_of_not_valid config hv s
    rw [he] at h
    cases h
    rfl

/-- An operation on a hold that the state machine refuses throws the error of the
refusal, unless its arguments are refused before. -/
theorem expected_of_illegal (config : BusinessConfig) (hv : op.Valid)
    (hh : s.escrowHold? op.holdId = some hold)
    (ht : transitions hold.state op.action = none) :
    ∃ e, op.exec config s = .error e ∧ isExpectedTerminalTransition e = true := by
  cases hn : nextState hold.state op.action with
  | ok target =>
      cases ht.symm.trans (nextState_eq_ok_iff.mp hn)
  | error e =>
      rw [exec_of_valid config hv, EscrowService.applyTransition_refused hh hn]
      exact ⟨e, rfl, expected_of_nextState hn⟩

/-- What an operation that returns leaves of its hold. -/
theorem state_of_exec {hold' : EscrowHold} {s' : Store} (h : op.exec config s = .ok (hold', s')) :
    s'.escrowHold? op.holdId = some hold' ∧ hold'.state = op.action.target := by
  obtain ⟨current, target, w, entries, hc, rfl, rfl⟩ := commits_of_exec_eq h
  exact ⟨hc.found_after config, (update_of_work hc.work current).1.trans (target_of_legal hc.legal)⟩

end EscrowOp

/-! ## Calls of the handlers -/

section Calls

variable {env : Env HttpOutcome Failure} {s : Store}

/-- The `catch` changes how a call ends, and nothing else. -/
theorem run_ignoreExpected (p : Service Unit) (env : Env HttpOutcome Failure) (s : Store) :
    (ignoreExpected p).run env s =
      { p.run env s with
        result := match (p.run env s).result with
          | .ok _ => .ok ()
          | .error e => if isExpectedTerminalTransition e then .ok () else .error e } := by
  rw [ignoreExpected, run_tryCatch]
  cases hr : (p.run env s).result with
  | ok u =>
      dsimp only
      rw [← hr]
  | error e =>
      dsimp only
      split <;> simp

/-- A transaction on a hold, as the handlers run it. -/
def call (t : Tx EscrowHold) : Service Unit := ignoreExpected (discard (transaction t))

theorem call_refused (hdb : OfDatabase env) (h0 : env.faults 0 ≠ none) (t : Tx EscrowHold) :
    ∃ e, (call t).run env s = ⟨.error e, s, env.afterAction, []⟩ := by
  obtain ⟨e, he⟩ := Option.ne_none_iff_exists'.mp h0
  have hrun : (discard (transaction t) : Service Unit).run env s =
      ⟨.error e, s, env.afterAction, []⟩ := run_discard_error (run_transaction_refused he t s)
  refine ⟨e, ?_⟩
  rw [call, run_ignoreExpected, hrun]
  dsimp only
  rw [not_expected_of_refused hdb he]
  rfl

variable {t : Tx EscrowHold}

theorem call_ok (h0 : env.faults 0 = none) {hold' : EscrowHold} {s' : Store}
    (h : t s = .ok (hold', s')) : (call t).run env s = ⟨.ok (), s', env.afterAction, []⟩ := by
  have hrun : (discard (transaction t) : Service Unit).run env s =
      ⟨.ok (), s', env.afterAction, []⟩ := run_discard (run_transaction h0 h)
  rw [call, run_ignoreExpected, hrun]

theorem call_error (h0 : env.faults 0 = none) {e : Failure} (h : t s = .error e) :
    (call t).run env s =
      ⟨if isExpectedTerminalTransition e then .ok () else .error e, s, env.afterAction, []⟩ := by
  have hrun : (discard (transaction t) : Service Unit).run env s =
      ⟨.error e, s, env.afterAction, []⟩ := run_discard_error (run_transaction_error h0 h)
  rw [call, run_ignoreExpected, hrun]

end Calls

/-! ## Refunds of a disputed hold -/

namespace RefundsService

variable {s s₂ : Store} {id : ℕ} {hold hold₀ hold' : EscrowHold} {refund : Refund}
  {refundCents : ℤ} {refundIsFull : Bool} {business : BusinessConfig} {input : IssueRefundInput}

/-- The escrow operation of a refund does not get at a disputed hold. -/
theorem hold_of_moveHold (hh : s.escrowHold? id = some hold) (hd : hold.state = .disputed)
    (hm : moveHold business refund hold₀ refundCents refundIsFull input s = .ok (hold', s₂)) :
    s₂.escrowHold? id = some hold := by
  rw [moveHold_eq_exec] at hm
  obtain ⟨current, target, w, entries, hc, -, rfl⟩ := EscrowOp.commits_of_exec_eq hm
  have hopen := source_of_legal hc.legal
  have hne : id ≠ current.id := by
    rintro rfl
    have hcur := hc.found
    rw [← hc.id_eq] at hcur
    cases hh.symm.trans hcur
    rw [hd] at hopen
    cases refundIsFull <;> simp [refundOp, EscrowOp.action, EscrowAction.frozenBypass] at hopen
  change Table.find EscrowHold.id id (Table.update EscrowHold.id current.id w.update _) = _
  rw [Table.find_update_of_ne (fun h ↦ (EscrowOp.update_of_work hc.work h).2.id) hne]
  exact hh

/-- However a refund ends, a hold that was disputed is as it was. -/
theorem hold_of_issueRefund (hs : s.Consistent) (hh : s.escrowHold? id = some hold)
    (hd : hold.state = .disputed) (config : SystemConfig) (input : IssueRefundInput)
    (env : Env HttpOutcome Failure) :
    ((issueRefund config.payfast config.business input).run env s).store.escrowHold? id =
      some hold := by
  rcases issueRefund_cases input env config hs with
    ⟨e, env', hrun⟩ | ⟨hold₀, chargeTxn, plan, gatewayResult, requests, result, s', env', -, -, -,
      hrun, -, hends⟩
  · rw [hrun]
    exact hh
  · rw [hrun]
    have hrow : (s.withRefund (processingRow input chargeTxn plan.refundCents s.nextId
        s.clock)).escrowHold? id = some hold := hh
    cases hends with
    | unrecorded => exact hh
    | failed => exact hh
    | stopped => exact hh
    | lost _ _ _ hm _ => exact hold_of_moveHold hrow hd hm
    | @done _ _ s₂ hm _ =>
        change s₂.escrowHold? id = some hold
        exact hold_of_moveHold hrow hd hm

end RefundsService

/-! ## The handler of resolutions -/

namespace DisputeEventsHandler

/-- The state that a resolution is meant to lead to. -/
def Resolution.outcome : Resolution → EscrowState
  | releaseToArtist => .released
  | refundToClient | split => .refunded

/-- The hold that a resolution is for: the one its hold id finds, or else the one its
booking id finds. -/
def holdOf (data : EventData) (s : Store) : Option EscrowHold :=
  match data.uuid "escrowHoldId" with
  | .error _ => none
  | .ok holdId => match s.escrowHold? holdId with
    | some hold => some hold
    | none => match data.uuid "bookingId" with
      | .error _ => none
      | .ok bookingId => s.holdOfBooking bookingId

/-- The operation that a resolution calls, when it does not call for a refund. -/
def resolutionOp (data : EventData) (holdId : ℕ) (opts : ResolveOptions) : Resolution → EscrowOp
  | .split => .resolveSplit holdId ((data.integer? "splitArtistCents").getD 0)
      ((data.integer? "splitClientCents").getD 0) opts
  | _ => .resolveRelease holdId opts

variable {config : SystemConfig} {event : CloudEvent} {r : Resolution}
  {env : Env HttpOutcome Failure} {s : Store} {hold : EscrowHold}

theorem holdId_resolutionOp (data : EventData) (holdId : ℕ) (opts : ResolveOptions)
    (r : Resolution) : (resolutionOp data holdId opts r).holdId = holdId := by
  cases r <;> rfl

theorem frozenBypass_resolutionOp (data : EventData) (holdId : ℕ) (opts : ResolveOptions)
    (r : Resolution) : (resolutionOp data holdId opts r).action.frozenBypass = true := by
  cases r <;> rfl

theorem target_resolutionOp (data : EventData) (holdId : ℕ) (opts : ResolveOptions)
    (hr : r ≠ .refundToClient) : (resolutionOp data holdId opts r).action.target = r.outcome := by
  cases r with
  | refundToClient => exact absurd rfl hr
  | releaseToArtist => rfl
  | split => rfl

/-- The transaction that a resolution calls for, when it does not call for a refund. -/
def resolutionTx (config : SystemConfig) (data : EventData) (holdId : ℕ) (r : Resolution) :
    Tx EscrowHold :=
  withOptions config data fun opts ↦ (resolutionOp data holdId opts r).exec config.business

/-- Without a refund, a resolution is one call of the escrow service. -/
theorem resolve_eq (config : SystemConfig) (hold : EscrowHold)
    (hr : Resolution.of? event.data = some r) (hne : r ≠ .refundToClient) :
    ignoreExpected (resolve config event.data hold) =
      call (resolutionTx config event.data hold.id r) := by
  rw [resolve, hr]
  cases r with
  | refundToClient => exact absurd rfl hne
  | releaseToArtist => rfl
  | split => rfl

/-- Options that cannot be read are refused by the database client. -/
theorem not_expected_of_resolveOptions {data : EventData} {e : Failure}
    (h : resolveOptions config data = .error e) : isExpectedTerminalTransition e = false := by
  have huuid : ∀ field e, data.uuid field = .error e → e = .prisma .p2023 := by
    intro field e he
    unfold EventData.uuid at he
    split at he <;> cases he
    rfl
  have hnote : ∀ field e, data.note field = .error e → e = .prisma .p2023 := by
    intro field e he
    unfold EventData.note at he
    split at he <;> cases he
    rfl
  have hwho : ∀ e, resolvedBy config data = .error e → e = .prisma .p2023 := by
    intro e he
    unfold resolvedBy at he
    split at he
    · cases he
    · exact huuid _ e he
  obtain rfl : e = .prisma .p2023 := by
    unfold resolveOptions at h
    cases hr : resolvedBy config data with
    | error e' =>
        rw [hr] at h
        cases h
        exact hwho e hr
    | ok actorId =>
        rw [hr] at h
        cases hn : data.note "resolutionNotes" with
        | error e' =>
            simp only [hn] at h
            cases h
            exact hnote _ e hn
        | ok notes =>
            simp only [hn] at h
            cases h
  rfl

/-- The error of the resolution of a hold that allows it is not one of its own. -/
theorem not_expected_of_resolutionTx (hh : s.escrowHold? hold.id = some hold)
    {target : EscrowState}
    (ht : ∀ opts, transitions hold.state (resolutionOp event.data hold.id opts r).action =
      some target) {e : Failure} (h : resolutionTx config event.data hold.id r s = .error e) :
    isExpectedTerminalTransition e = false := by
  have hop : ∀ opts e, (resolutionOp event.data hold.id opts r).exec config.business s = .error e →
      isExpectedTerminalTransition e = false := by
    intro opts e he
    have hid := holdId_resolutionOp event.data hold.id opts r
    exact EscrowOp.not_expected_of_legal (hid.symm ▸ hh) (ht opts) he
  unfold resolutionTx withOptions at h
  cases hopts : resolveOptions config event.data with
  | ok opts =>
      rw [hopts] at h
      exact hop opts e h
  | error e' =>
      rw [hopts] at h
      dsimp only at h
      rw [Tx.bind_apply, Tx.discard_apply] at h
      cases hx : (resolutionOp event.data hold.id {} r).exec config.business s with
      | error e'' =>
          rw [hx] at h
          cases h
          exact hop _ e hx
      | ok p =>
          rw [hx] at h
          cases h
          exact not_expected_of_resolveOptions hopts

/-- What a resolution that goes through leaves of its hold. -/
theorem state_of_resolutionTx (hne : r ≠ .refundToClient) {hold' : EscrowHold} {s' : Store}
    (h : resolutionTx config event.data hold.id r s = .ok (hold', s')) :
    s'.escrowHold? hold.id = some hold' ∧ hold'.state = r.outcome ∧
      (resolveOptions config event.data).isOk = true := by
  unfold resolutionTx withOptions at h
  cases hopts : resolveOptions config event.data with
  | ok opts =>
      rw [hopts] at h
      obtain ⟨hf, hst⟩ := EscrowOp.state_of_exec h
      rw [holdId_resolutionOp] at hf
      rw [target_resolutionOp _ _ _ hne] at hst
      exact ⟨hf, hst, rfl⟩
  | error e =>
      rw [hopts] at h
      obtain ⟨u, s₁, -, hthrow⟩ := Tx.of_bind_ok h
      cases hthrow

/-- A resolution of a hold that does not allow it throws the error of the refusal. -/
theorem expected_of_resolutionTx (config : SystemConfig)
    (hv : ∀ opts, (resolutionOp event.data hold.id opts r).Valid)
    (hh : s.escrowHold? hold.id = some hold)
    (ht : ∀ opts, transitions hold.state (resolutionOp event.data hold.id opts r).action = none) :
    ∃ e, resolutionTx config event.data hold.id r s = .error e ∧
      isExpectedTerminalTransition e = true := by
  have hop : ∀ opts, ∃ e, (resolutionOp event.data hold.id opts r).exec config.business s =
      .error e ∧ isExpectedTerminalTransition e = true := by
    intro opts
    have hid := holdId_resolutionOp event.data hold.id opts r
    exact EscrowOp.expected_of_illegal config.business (hv opts) (hid.symm ▸ hh) (ht opts)
  unfold resolutionTx withOptions
  cases resolveOptions config event.data with
  | ok opts => exact hop opts
  | error e' =>
      obtain ⟨e, hx, hexp⟩ := hop {}
      refine ⟨e, ?_, hexp⟩
      dsimp only
      rw [Tx.bind_apply, Tx.discard_apply, hx]
      rfl

/-- The lookup fails, or it finds the hold that the resolution is for. -/
theorem run_resolveHold (hdb : OfDatabase env) (data : EventData) (s : Store) :
    (∃ e env', (resolveHold data).run env s = ⟨.error e, s, env', []⟩) ∨
    ∃ env', OfDatabase env' ∧ (resolveHold data).run env s =
      ⟨.ok (holdOf data s), s, env', []⟩ := by
  unfold resolveHold holdOf
  cases data.uuid "escrowHoldId" with
  | error e => exact .inl ⟨e, env, rfl⟩
  | ok holdId =>
      rw [ofExcept_ok, ret_bind]
      cases h0 : env.faults 0 with
      | some e => exact .inl ⟨_, _, run_bind_error (run_read_refused h0 _ s)⟩
      | none =>
          rw [run_bind_ok_nil (run_read h0 _ s)]
          dsimp only
          cases s.escrowHold? holdId with
          | some hold => exact .inr ⟨env.afterAction, hdb.afterAction, rfl⟩
          | none =>
              unfold findHoldOfBooking
              cases data.uuid "bookingId" with
              | error e => exact .inl ⟨e, env.afterAction, rfl⟩
              | ok bookingId =>
                  rw [ofExcept_ok, ret_bind]
                  cases h1 : env.afterAction.faults 0 with
                  | some e => exact .inl ⟨_, _, run_read_refused h1 _ s⟩
                  | none => exact .inr ⟨_, hdb.afterAction.afterAction, run_read h1 _ s⟩

/-- Once the hold is found and is not in a terminal state, the call is made. -/
theorem run_handle (hv : validateEventPayload event = .ok ()) {env' : Env HttpOutcome Failure}
    (hfind : (resolveHold event.data).run env s = ⟨.ok (some hold), s, env', []⟩)
    (hst : ¬(hold.state = .released ∨ hold.state = .refunded)) :
    (handle config event).run env s =
      (ignoreExpected (resolve config event.data hold)).run env' s := by
  unfold handle
  rw [hv, ofExcept_ok, ret_bind, run_bind_ok_nil hfind]
  dsimp only
  rw [if_neg hst]

/-- The handler throws before it has called anything, or it has found the hold and calls
for what the resolution asks. -/
theorem run_handle_cases (config : SystemConfig) (hdb : OfDatabase env)
    (hh : holdOf event.data s = some hold)
    (hst : ¬(hold.state = .released ∨ hold.state = .refunded)) :
    (∃ e env', (handle config event).run env s = ⟨.error e, s, env', []⟩) ∨
    ∃ env', OfDatabase env' ∧
      (handle config event).run env s =
        (ignoreExpected (resolve config event.data hold)).run env' s := by
  cases hv : validateEventPayload event with
  | error e =>
      refine .inl ⟨e, env, ?_⟩
      unfold handle
      rw [hv]
      rfl
  | ok u =>
      rcases run_resolveHold hdb event.data s with ⟨e, env', hfind⟩ | ⟨env', hdb', hfind⟩
      · refine .inl ⟨e, env', ?_⟩
        unfold handle
        rw [hv, ofExcept_ok, ret_bind]
        exact run_bind_error hfind
      · rw [hh] at hfind
        exact .inr ⟨env', hdb', run_handle hv hfind hst⟩

/-- The hold that a resolution is for is in the store. -/
theorem find_of_holdOf (hs : s.Consistent) {data : EventData} (hh : holdOf data s = some hold) :
    s.escrowHold? hold.id = some hold := by
  have hmem : hold ∈ s.escrowHolds := by
    unfold holdOf at hh
    split at hh
    · cases hh
    · split at hh
      · rename_i hf
        cases hh
        exact (Table.find_some hf).1
      · split at hh
        · cases hh
        · exact (Table.find_some hh).1
  exact (Table.find_eq_some_iff hs.conserved.distinct).mpr hmem

/-- A resolution of a disputed hold that is not for the client takes effect whenever its
handler returns. -/
theorem resolve_of_disputed (config : SystemConfig) (hdb : OfDatabase env)
    (hr : Resolution.of? event.data = some r) (hne : r ≠ .refundToClient)
    (hh : s.escrowHold? hold.id = some hold) (hd : hold.state = .disputed) :
    (∃ e env', (ignoreExpected (resolve config event.data hold)).run env s =
      ⟨.error e, s, env', []⟩) ∨
    ∃ hold' s' env', (ignoreExpected (resolve config event.data hold)).run env s =
        ⟨.ok (), s', env', []⟩ ∧
      s'.escrowHold? hold.id = some hold' ∧ hold'.state = r.outcome ∧
      (resolveOptions config event.data).isOk = true := by
  have hlegal : ∀ opts, transitions hold.state
      (resolutionOp event.data hold.id opts r).action = some r.outcome := by
    intro opts
    rw [hd]
    cases r with
    | refundToClient => exact absurd rfl hne
    | releaseToArtist => rfl
    | split => rfl
  rw [resolve_eq config hold hr hne]
  by_cases h0 : env.faults 0 = none
  · cases hx : resolutionTx config event.data hold.id r s with
    | error e =>
        rw [call_error h0 hx, not_expected_of_resolutionTx hh hlegal hx]
        exact .inl ⟨e, _, rfl⟩
    | ok p =>
        obtain ⟨hold', s'⟩ := p
        exact .inr ⟨hold', s', _, call_ok h0 hx, state_of_resolutionTx hne hx⟩
  · obtain ⟨e, hrun⟩ := call_refused (s := s) hdb h0
      (resolutionTx config event.data hold.id r)
    exact .inl ⟨e, _, hrun⟩

/-- However a refund on behalf of the resolver ends, a hold that was disputed is as it
was. -/
theorem hold_of_issueRefundBy (hs : s.Consistent) {id : ℕ} (hh : s.escrowHold? id = some hold)
    (hd : hold.state = .disputed) (config : SystemConfig) (data : EventData)
    (input : ℕ → IssueRefundInput) (env : Env HttpOutcome Failure) :
    ((issueRefundBy config data input).run env s).store.escrowHold? id = some hold := by
  unfold issueRefundBy
  cases resolvedBy config data with
  | ok actorId =>
      dsimp only
      rw [store_discard]
      exact RefundsService.hold_of_issueRefund hs hh hd config _ env
  | error e =>
      refine Keeps.run (I := fun s : Store ↦ s.escrowHold? id = some hold) ?_ hh env
      refine (RefundsService.keeps_resolveHoldAndCharge _).bind ?_
      rintro ⟨hold₀, chargeTxn⟩
      refine (keeps_ofExcept _).discard.bind fun _ ↦ ?_
      exact keeps_statement.bind fun _ ↦ keeps_throw _

/-- The handler of a resolution of a disputed hold, when it returns, has brought the hold
to the state that the resolution is meant to lead to exactly when that is not a refund
to the client. -/
theorem resolution_takes_effect_iff {config : SystemConfig} {s : Store} (hs : Reachable config s)
    {event : CloudEvent} {hold : EscrowHold} {r : Resolution}
    (hh : holdOf event.data s = some hold) (hd : hold.state = .disputed)
    (hr : Resolution.of? event.data = some r) (answers : ℕ → HttpOutcome)
    (faults : ℕ → Option String)
    (hret : ((handle config event).run (refusals answers faults) s).result = .ok ()) :
    (((handle config event).run (refusals answers faults) s).store.escrowHold? hold.id).map
        EscrowHold.state = some r.outcome ↔ r ≠ .refundToClient := by
  have hfound := find_of_holdOf hs.consistent hh
  have hst : ¬(hold.state = .released ∨ hold.state = .refunded) := by
    rw [hd]
    decide
  obtain ⟨env, hdb, hrun⟩ : ∃ env', OfDatabase env' ∧
      (handle config event).run (refusals answers faults) s =
        (ignoreExpected (resolve config event.data hold)).run env' s := by
    rcases run_handle_cases config (ofDatabase_refusals answers faults) hh hst with
      ⟨e, env', hthrow⟩ | hcall
    · rw [hthrow] at hret
      cases hret
    · exact hcall
  rw [hrun] at hret ⊢
  by_cases hne : r = .refundToClient
  · -- the hold stays disputed, whatever becomes of the refund
    subst hne
    have hsame : ((ignoreExpected (resolve config event.data hold)).run env s).store.escrowHold?
        hold.id = some hold := by
      rw [run_ignoreExpected]
      unfold resolve
      rw [hr]
      exact hold_of_issueRefundBy hs.consistent hfound hd config _ _ env
    rw [hsame, Option.map_some, hd]
    exact ⟨nofun, fun h ↦ absurd rfl h⟩
  · rw [iff_true_right hne]
    rcases resolve_of_disputed config hdb hr hne hfound hd with
      ⟨e, env', hrun'⟩ | ⟨hold', s', env', hrun', hf, hst', -⟩
    · rw [hrun'] at hret
      cases hret
    · rw [hrun', hf, Option.map_some, hst']

/-- A resolution of the dispute about the paid booking. -/
def sampleEvent (r : Resolution) : CloudEvent where
  id := 21
  type := "disputes.resolved"
  data := [("disputeId", .uuid 20), ("bookingId", .uuid 2), ("escrowHoldId", .uuid 11),
    ("resolution", .str r.name), ("resolvedBy", .uuid 9), ("resolvedAt", .date 0)]
  traceparent := none
  tracestate := none

/-- The hold of the disputed booking. -/
def disputedHold : EscrowHold :=
  { Sample.payment.hold 100 11 0 with state := .disputed, disputedAt := some 0 }

theorem resolution_takes_effect_iff_sample :
    (((handle Sample.config (sampleEvent .releaseToArtist)).run
        (refusals Sample.pays fun _ ↦ none) Sample.disputed).store.escrowHold? disputedHold.id).map
          EscrowHold.state = some Resolution.releaseToArtist.outcome ↔
      Resolution.releaseToArtist ≠ .refundToClient :=
  resolution_takes_effect_iff Sample.disputed_reachable rfl rfl rfl Sample.pays (fun _ ↦ none) rfl

/-- A dispute that is resolved for the client: the gateway pays, the handler returns, and
the hold is still disputed. -/
theorem resolution_without_effect :
    ¬∀ (config : SystemConfig) (s : Store) (event : CloudEvent) (hold : EscrowHold)
      (r : Resolution) (answers : ℕ → HttpOutcome) (faults : ℕ → Option String),
      Reachable config s → holdOf event.data s = some hold → hold.state = .disputed →
      hold.partiallyRefundedAmountCents < hold.amountCents → event.type = "disputes.resolved" →
      validateEventPayload event = .ok () → Resolution.of? event.data = some r →
      (∀ n, (answers n).Paid) →
      ((handle config event).run (refusals answers faults) s).result = .ok () →
      (((handle config event).run (refusals answers faults) s).store.escrowHold? hold.id).map
        EscrowHold.state = some r.outcome := by
  intro h
  have hpaid : ∀ n, (Sample.pays n).Paid := fun n ↦ ⟨"rf-1", rfl⟩
  have hstate := h Sample.config Sample.disputed (sampleEvent .refundToClient) disputedHold
    .refundToClient Sample.pays (fun _ ↦ none) Sample.disputed_reachable rfl rfl (by decide) rfl
    rfl rfl hpaid rfl
  have hstill : (((handle Sample.config (sampleEvent .refundToClient)).run
      (refusals Sample.pays fun _ ↦ none) Sample.disputed).store.escrowHold? disputedHold.id).map
        EscrowHold.state = some .disputed := rfl
  cases hstill.symm.trans hstate

end DisputeEventsHandler

end GearshPayments
