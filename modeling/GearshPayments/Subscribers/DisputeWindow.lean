import GearshPayments.Payouts.DeadEnds
import GearshPayments.Payouts.Guard
import GearshPayments.Resumption.Amid
import GearshPayments.Subscribers.Handlers

/-!
# Disputes in the dispute window

A payout waits for the end of the dispute window, so that a dispute can still stop it.  But
a payout is queued when its hold is closed, and neither `freeze` nor the handler of
`bookings.disputed` touches a closed hold or its payouts (`DisputeStep.store_eq`).  What
stops a payout must therefore be something else: payouts are switched off, or a refund of
the hold is in progress and stays so, as it does once its call has died (`stopped_iff`).
-/

namespace GearshPayments

open Resumption EscrowService

/-! ## What is to be stopped -/

/-- The calls that release a hold, or a part of it. -/
def EngineCall.Releases : EngineCall → Prop
  | .service (.escrow op) =>
    op.action = .release ∨ op.action = .resolveRelease ∨ op.action = .resolveSplit
  | _ => False

/-- Every turn is one of a call that does not release. -/
def WithoutRelease (calls : List EngineCall) (ts : List (Turn GatewayReply Failure)) : Prop :=
  ∀ t ∈ ts, ∃ c, calls[t.thread]? = some c ∧ ¬c.Releases

/-- The pool, from the store given on, and with more calls. -/
def EngineCall.continued (config : EngineConfig) (P : EnginePool) (s : Store)
    (calls : List EngineCall) : EnginePool :=
  ⟨s, P.threads ++ calls.map (·.program config), []⟩

/-- What the threads of the pool do and every call does, every thread does. -/
theorem EngineCall.forall_continued {config : EngineConfig} {P : EnginePool}
    {motive : Engine Unit → Prop} (hthreads : ∀ p ∈ P.threads, motive p)
    (h : ∀ c : EngineCall, motive (c.program config)) (s : Store) (calls : List EngineCall) :
    ∀ p ∈ (EngineCall.continued config P s calls).threads, motive p := by
  intro p hp
  rcases List.mem_append.mp hp with hp | hp
  · exact hthreads p hp
  · obtain ⟨c, -, rfl⟩ := List.mem_map.mp hp
    exact h c

/-- The gateway is asked to pay the payout. -/
def AsksToPay (id : ℕ) (q : GatewayRequest) : Prop :=
  ∃ input, q = .adhocPayment input ∧ input.reference = payoutReference id

/-- However the calls go on from the store and whatever calls there are next, short of those that
release, the payout is never dispatched to the gateway. -/
def Stopped (config : EngineConfig) (calls : List EngineCall) (P : EnginePool)
    (s : Store) (id : ℕ) :
    Prop :=
  ∀ (more : List EngineCall) (ts : List (Turn GatewayReply Failure)),
    WithoutRelease (calls ++ more) ts →
      ∀ x ∈ (Pool.run next (EngineCall.continued config P s more) ts).log, ¬AsksToPay id x.2.1

/-- A dispute of the hold: the hold is frozen, or an event of its booking is handled.  The database
may refuse any of it. -/
inductive DisputeStep (config : EngineConfig) (s : Store) (holdId : ℕ) : Store → Prop
  | freeze (opts : FreezeOptions) (env : Env HttpOutcome Failure) :
    DisputeStep config s holdId ((transaction ((EscrowOp.freeze holdId opts).exec config.business) :
      Service EscrowHold).run env s).store
  | handled (event : CloudEvent) (ht : event.type = "bookings.disputed") (hold : EscrowHold)
      (hfound : s.escrowHold? holdId = some hold)
      (hbooking : event.data.uuid "bookingId" = .ok hold.bookingId)
      (env : Env HttpOutcome Failure) :
    DisputeStep config s holdId ((BookingEventsHandler.handle config.system event).run env s).store

/-- In no state of the run has the time come. -/
def BeforeTime (P : EnginePool) (ts : List (Turn GatewayReply Failure)) (time : ℕ) : Prop :=
  ∀ us, us <+: ts → (Pool.run next P us).store.clock < time

/-- The payout is queued, and no refund of its hold is in progress. -/
def Store.Unblocked (s : Store) (id : ℕ) : Prop :=
  s.payoutState id = some .queued ∧ s.refundOfPayout id = false

/-- The calls may go on to where nothing but time is in the payout's way. -/
def MayBeUnblocked (config : EngineConfig) (calls : List EngineCall) (P : EnginePool)
    (id : ℕ) : Prop :=
  ∃ (more : List EngineCall) (ts : List (Turn GatewayReply Failure)),
    WithoutRelease (calls ++ more) ts ∧
      (Pool.run next (EngineCall.continued config P P.store more) ts).store.Unblocked id

/-! ## A dispute of a closed hold changes nothing -/

theorem DisputeStep.store_eq {config : EngineConfig} {s s' : Store} (hs : s.EngineConsistent)
    {p : Payout} (hp : p ∈ s.payouts) (h : DisputeStep config s p.holdId s') : s' = s := by
  obtain ⟨hold, hfound, hillegal⟩ := hs.payouts.hold_of_payout hs.conserved hp
  cases h with
  | freeze opts env =>
      obtain ⟨e, he⟩ : ∃ e, (EscrowOp.freeze p.holdId opts).exec config.business s = .error e := by
        cases hx : (EscrowOp.freeze p.holdId opts).exec config.business s with
        | error e => exact ⟨e, rfl⟩
        | ok r =>
            obtain ⟨hold', target, w, entries, hc, -, -⟩ := EscrowOp.commits_of_exec_eq hx
            have hsame : hold' = hold := Option.some.inj (hc.found.symm.trans hfound)
            have hlegal := hc.legal
            rw [hsame, hillegal] at hlegal
            cases hlegal
      cases hf : env.faults 0 with
      | none => rw [run_transaction_error hf he]
      | some e => rw [run_transaction_refused hf]
  | handled event ht hold' hfound' hbooking env =>
      cases hfound'.symm.trans hfound
      obtain ⟨hmem, -⟩ := Table.find_some hfound
      have hb : s.holdOfBooking hold.bookingId = some hold :=
        (Table.find_eq_some_iff hs.bookings).mpr hmem
      have hclosed : hold.state = .released ∨ hold.state = .refunded := by
        rw [← isTerminal_iff]
        exact List.all_eq_true.mpr fun action _ ↦ Option.isNone_iff_eq_none.mpr (hillegal action)
      have hnot : hold.state ≠ .disputed := by
        rcases hclosed with h | h
        · rw [h]
          exact fun h ↦ by cases h
        · rw [h]
          exact fun h ↦ by cases h
      unfold BookingEventsHandler.handle
      cases validateEventPayload event with
      | error e => rfl
      | ok u =>
          rw [ofExcept_ok, ret_bind, ht, if_neg (by decide), if_neg (by decide), if_pos rfl]
          unfold BookingEventsHandler.onDisputed findHoldOfBooking
          rw [hbooking, ofExcept_ok, ret_bind]
          cases hf : env.faults 0 with
          | some e => rw [run_bind_error (run_read_refused hf _ s)]
          | none =>
              rw [run_bind_ok_nil (run_read hf _ s), hb]
              dsimp only
              rw [if_neg hnot, if_pos hclosed]
              rfl

/-! ## Calls that ask nothing -/

section Silent

/-- Without an address for payments none are asked for. -/
theorem dispatchOne_silent {config : PayoutsConfig} (hready : ¬config.payfast.Ready)
    (payout : Payout) :
    AsksOnly (fun _ ↦ False) (PayoutDispatcherJob.dispatchOne config payout) := by
  have hfailure : ∀ reason, AsksOnly (fun _ ↦ False)
      (PayoutDispatcherJob.persistFailure payout reason) :=
    fun reason ↦ (asksOnly_read _).bind fun _ ↦ asksOnly_transaction _
  refine (asksOnly_read _).bind fun found ↦ ?_
  split
  · exact (hfailure _).bind fun _ ↦ trivial
  · split
    · exact (hfailure _).bind fun _ ↦ trivial
    · refine (asksOnly_transaction _).bind fun claimed ↦ ?_
      split
      · trivial
      · refine (asksOnly_read _).bind fun decrypted ↦ (asksOnly_ofExcept _).bind fun number ↦ ?_
        obtain ⟨status, reason, hcall⟩ := PayoutDispatcherJob.callPayFast_of_not_ready hready
          (PayoutDispatcherJob.paymentInput payout _ number)
        rw [hcall]
        exact (hfailure _).bind fun _ ↦ trivial

theorem dispatchAll_silent {config : PayoutsConfig} (hready : ¬config.payfast.Ready)
    (batch : List Payout) (result : DispatchTickResult) :
    AsksOnly (fun _ ↦ False) (PayoutDispatcherJob.dispatchAll config batch result) := by
  induction batch generalizing result with
  | nil => trivial
  | cons payout batch ih =>
      have hone : AsksOnly (fun _ ↦ False)
          (some <$> PayoutDispatcherJob.dispatchOne config payout) := by
        rw [map_eq_pure_bind]
        exact (dispatchOne_silent hready payout).bind fun _ ↦ trivial
      have hcaught : AsksOnly (fun _ ↦ False)
          (tryCatchThe Failure (some <$> PayoutDispatcherJob.dispatchOne config payout)
            fun _ ↦ return none) := hone.tryCatch fun _ ↦ trivial
      exact hcaught.bind fun _ ↦ ih _

/-- Payouts that are switched off. -/
theorem dispatch_silent {config : PayoutsConfig} (hoff : ¬config.Pays) :
    AsksOnly (fun _ ↦ False) (PayoutCall.dispatch.program config) := by
  refine AsksOnly.discard ?_
  unfold PayoutDispatcherJob.cron
  by_cases hdispatch : config.dispatchEnabled = false
  · rw [if_pos hdispatch]
    trivial
  · rw [if_neg hdispatch]
    split
    · trivial
    case isFalse henabled =>
      refine asksOnly_read_bind fun s ↦ ?_
      by_cases hready : config.payfast.Ready
      · have hsize : config.dispatchBatchSize = 0 := by
          by_contra hsize
          exact hoff ⟨Bool.of_not_eq_false hdispatch, hready, Nat.pos_of_ne_zero hsize⟩
        rw [hsize]
        trivial
      · exact dispatchAll_silent hready _ _

/-- All calls but the dispatcher's ask the gateway for refunds only. -/
theorem EngineCall.asksRefunds {c : EngineCall} (hc : c ≠ .payout .dispatch)
    (config : EngineConfig) :
    AsksOnly (fun q ↦ ∃ input, q = .refund input) (c.program config) := by
  cases c with
  | service c => exact AsksOnly.relabel _ _ (fun input ↦ ⟨input, rfl⟩) _
  | payout c =>
      have hne : c ≠ .dispatch := by
        rintro rfl
        exact hc rfl
      exact (c.silent hne config.payouts).mono fun _ h ↦ h.elim
  | method c => exact (c.silent config.encrypt).mono fun _ h ↦ h.elim

/-- Where payouts are switched off, so does the dispatcher. -/
theorem EngineCall.asksRefunds_of_off {config : EngineConfig} (hoff : ¬config.payouts.Pays)
    (c : EngineCall) : AsksOnly (fun q ↦ ∃ input, q = .refund input) (c.program config) := by
  by_cases hc : c = .payout .dispatch
  · subst hc
    exact (dispatch_silent hoff).mono fun _ h ↦ h.elim
  · exact c.asksRefunds hc config

end Silent

/-! ## Who has the payout in a batch -/

/-- The next tick may pick the payout. -/
def Store.Due (s : Store) (id : ℕ) : Prop :=
  ∃ p, s.payout? id = some p ∧ PayoutDispatcherJob.due s p = true

/-- A thread may ask for the payout once it has found it due. -/
def batchMonitor (id : ℕ) : Monitor Store GatewayRequest GatewayReply Bool where
  Knows _ s := s.PayoutKeys
  Writes v s s' v' := (s.PayoutKeys → s'.PayoutKeys) ∧ (v = false → v' = true → s.Due id)
  Asks v q _ v' := v' = v ∧ (v = false → ¬AsksToPay id q)

section Batches

variable {config : EngineConfig} {id : ℕ}

/-- The stages of a dispatcher, of which one has nothing to do with the payout. -/
def PayoutStage.inBatch (v : PayoutStage) : Bool := v ≠ .cancelled

theorem conforms_inBatch {A : Type} {p : Engine A} {v : PayoutStage}
    {post : PayoutStage → Except Failure A → Prop}
    (hp : Conforms (payoutMonitor id (fun _ ↦ True) fun _ ↦ True) p v post) :
    Conforms (batchMonitor id) p v.inBatch fun _ _ ↦ True := by
  refine hp.embed (N := batchMonitor id) (e := PayoutStage.inBatch)
    (fun _ s hs ↦ hs.payoutOf id) ?_ ?_
    fun _ _ _ ↦ trivial
  · intro v s s' v' h
    refine ⟨h.write.payoutKeys, fun hv hv' ↦ ?_⟩
    have hcancelled : v = .cancelled := not_not.mp (of_decide_eq_false hv)
    subst hcancelled
    exact absurd h.move.of_cancelled (of_decide_eq_true hv')
  · rintro v q a v' ⟨input, rfl, ⟨hother, rfl⟩ | ⟨-, rfl, rfl⟩⟩
    · refine ⟨rfl, fun _ h ↦ ?_⟩
      obtain ⟨input', heq, href⟩ := h
      cases heq
      exact hother href
    · refine ⟨?_, fun h ↦ by cases h⟩
      split <;> rfl

/-- A tick that finds the payout in its batch has found it due. -/
theorem conforms_dispatch_batch (id : ℕ) (config : PayoutsConfig) :
    Conforms (batchMonitor id) (PayoutCall.dispatch.program config) false fun _ _ ↦ True := by
  rcases dispatch_program config with hret | hread
  · rw [hret]
    trivial
  · rw [hread]
    refine ⟨fun s hs ↦ ?_, fun e ↦ trivial⟩
    let batch := PayoutDispatcherJob.pickCandidates config.dispatchBatchSize s
    refine ⟨(batchStage id batch).inBatch, ⟨fun hs ↦ hs, fun _ hin ↦ ?_⟩,
      conforms_inBatch (conforms_batch id config batch ⟨batch.length, 0, 0, 0⟩)⟩
    have hany : batch.any (fun p ↦ p.id = id) = true := by
      by_contra hnone
      rw [batchStage, if_neg hnone] at hin
      cases hin
    obtain ⟨p, hp, hid⟩ := List.any_eq_true.mp hany
    obtain ⟨hmem, hdue⟩ := mem_of_mem_pickCandidates hp
    refine ⟨p, ?_, hdue⟩
    rw [← of_decide_eq_true hid]
    exact (Table.find_eq_some_iff hs.distinct).mpr hmem

theorem MethodWrite.payouts {s s' : Store} (h : MethodWrite s s') : s'.payouts = s.payouts := by
  rw [h.rest]

theorem MethodWrite.payoutKeys {s s' : Store} (h : MethodWrite s s') (hs : s.PayoutKeys) :
    s'.PayoutKeys := by
  have hp := h.payouts
  exact ⟨hp ▸ hs.distinct, fun p hm ↦ (hs.fresh p (hp ▸ hm)).trans_le h.nextId⟩

/-- What the writes of the three kinds of calls satisfy, every call guarantees. -/
theorem EngineCall.guarantees {G : Store → Store → Prop} (hqueue : ∀ s s', QueueWrite s s' → G s s')
    (hpayout : ∀ s s', PayoutWrite s s' → G s s') (hmethod : ∀ s s', MethodWrite s s' → G s s')
    (config : EngineConfig) (c : EngineCall) : Guarantees (fun _ ↦ True) G (c.program config) := by
  cases c with
  | service c =>
      have hg : Guarantees (fun _ ↦ True) QueueWrite (c.program config.system) :=
        c.guarantees_queue config.system
      exact (hg.mono (fun _ h ↦ h) fun s s' _ ↦ hqueue s s').relabel
  | payout c =>
      have hg : Guarantees (fun _ ↦ True) PayoutWrite (c.program config.payouts) :=
        c.guarantees config.payouts
      exact hg.mono (fun _ h ↦ h) fun s s' _ ↦ hpayout s s'
  | method c =>
      have hg : Guarantees (fun _ ↦ True) MethodWrite (c.program config.encrypt) :=
        c.guarantees config.encrypt
      exact hg.mono (fun _ h ↦ h) fun s s' _ ↦ hmethod s s'

/-- No call starts with the payout in a batch. -/
theorem EngineCall.conforms (config : EngineConfig) (id : ℕ) (c : EngineCall) :
    Conforms (batchMonitor id) (c.program config) false fun _ _ ↦ True := by
  by_cases hc : c = .payout .dispatch
  · subst hc
    exact conforms_dispatch_batch id config.payouts
  · have hkeys : Guarantees (fun _ ↦ True) (fun s s' : Store ↦ s.PayoutKeys → s'.PayoutKeys)
        (c.program config) := by
      apply c.guarantees
      · exact fun s s' h ↦ h.payoutKeys
      · exact fun s s' h ↦ h.payoutKeys
      · exact fun s s' h ↦ h.payoutKeys
    refine (hkeys.conforms (M := batchMonitor id) (v := false) (fun _ _ ↦ trivial) ?_ ?_
      (c.asksRefunds hc config)).mono fun _ _ _ ↦ trivial
    · exact fun _ _ _ h ↦ ⟨h, fun _ h ↦ by cases h⟩
    · rintro q a ⟨input, rfl⟩
      refine ⟨rfl, fun _ h ↦ ?_⟩
      obtain ⟨input', heq, -⟩ := h
      cases heq

/-- While the payout is not due, nobody gets it in a batch, and the gateway is not asked for it. -/
theorem not_asked_run {P : EnginePool} {ts : List (Turn GatewayReply Failure)}
    (hkeys : P.store.PayoutKeys)
    (hthreads : ∀ p ∈ P.threads, Conforms (batchMonitor id) p false fun _ _ ↦ True)
    (hlog : ∀ x ∈ P.log, ¬AsksToPay id x.2.1)
    (hdue : ∀ ts₁ t ts₂, ts = ts₁ ++ t :: ts₂ → ¬(Pool.run next P ts₁).store.Due id) :
    (∀ p ∈ (Pool.run next P ts).threads, Conforms (batchMonitor id) p false fun _ _ ↦ True) ∧
      ∀ x ∈ (Pool.run next P ts).log, ¬AsksToPay id x.2.1 := by
  let J : Store → List Bool → List (ℕ × GatewayRequest × GatewayReply) → Prop := fun s vs log ↦
    s.PayoutKeys ∧ (∀ (i : ℕ) v, vs[i]? = some v → v = false) ∧ ∀ x ∈ log, ¬AsksToPay id x.2.1
  have hconforming : Pool.Conforming (batchMonitor id) (fun _ _ ↦ True) P.threads
      (P.threads.map fun _ ↦ false) := by
    intro i p hp
    refine ⟨false, ?_, hthreads p (List.mem_of_getElem? hp)⟩
    rw [List.getElem?_map, hp, Option.map_some]
  have hstart : J P.store (P.threads.map fun _ ↦ false) P.log := by
    refine ⟨hkeys, fun i v hv ↦ ?_, hlog⟩
    rw [List.getElem?_map] at hv
    obtain ⟨p, -, rfl⟩ := Option.map_eq_some_iff.mp hv
    rfl
  have hwrites : ∀ {s vs log} {i : ℕ} {v s' v'}, J s vs log → vs[i]? = some v →
      (batchMonitor id).Writes v s s' v' → ¬s.Due id → J s' (vs.set i v') log := by
    rintro s vs log i v s' v' ⟨hkeys, hfalse, hlog⟩ hv ⟨hkept, hpick⟩ hnot
    refine ⟨hkept hkeys, Pool.forall_set hfalse ?_, hlog⟩
    exact Bool.eq_false_iff.mpr fun h ↦ hnot (hpick (hfalse i v hv) h)
  have hasks : ∀ {s vs log} {i : ℕ} {v q a v'}, J s vs log → vs[i]? = some v →
      (batchMonitor id).Asks v q a v' → J s (vs.set i v') (log ++ [(i, q, a)]) := by
    rintro s vs log i v q a v' ⟨hkeys, hfalse, hlog⟩ hv ⟨rfl, hask⟩
    refine ⟨hkeys, Pool.forall_set hfalse (hfalse i v' hv), fun x hx ↦ ?_⟩
    rcases List.mem_append.mp hx with hx | hx
    · exact hlog x hx
    · rw [List.mem_singleton.mp hx]
      exact hask (hfalse i v' hv)
  obtain ⟨vs, hp, -, hfalse, hlog⟩ := Pool.conforming_run (D := fun _ s _ ↦ ¬s.Due id)
    (fun h _ ↦ h.1) hwrites hasks hconforming hstart (Transition.Along.of_run hdue)
  refine ⟨fun p hmem ↦ ?_, hlog⟩
  obtain ⟨i, hi⟩ := List.mem_iff_getElem?.mp hmem
  obtain ⟨v, hv, hc⟩ := hp i p hi
  exact hfalse i v hv ▸ hc

end Batches

/-! ## Up to the dispute -/

section Window

variable {config : EngineConfig} {clock nextId : ℕ} {intents : List PaymentIntent}
  {calls : List EngineCall} {ts : List (Turn GatewayReply Failure)} {p : Payout}

/-- The payout is there, on such terms. -/
def Store.HasPayout (s : Store) (id : ℕ) (T : Payout → Prop) : Prop :=
  ∃ p, s.payout? id = some p ∧ T p

/-- A payout that is there stays, and so do its terms. -/
theorem EngineCall.keeps_payout (config : EngineConfig) (id : ℕ) {T : Payout → Prop}
    (hT : ∀ p p' : Payout, p.SameTerms p' → T p → T p') (c : EngineCall) :
    Guarantees (fun _ ↦ True) (fun s s' : Store ↦ s.HasPayout id T → s'.HasPayout id T)
      (c.program config) := by
  apply c.guarantees
  · rintro s s' h ⟨p, hp, hterms⟩
    obtain ⟨p', hp', hkept⟩ := h.payout? hp
    exact ⟨p', hp', hT p p' hkept.toSameTerms hterms⟩
  · rintro s s' h ⟨p, hp, hterms⟩
    obtain ⟨f, hf, hpayout⟩ := h.payout?
    exact ⟨f p, by rw [hpayout, hp, Option.map_some], hT p (f p) (hf p) hterms⟩
  · rintro s s' h ⟨p, hp, hterms⟩
    refine ⟨p, ?_, hterms⟩
    rw [Store.payout?, h.payouts]
    exact hp

/-- Nobody has the payout in a batch before its time has come. -/
theorem conforms_of_window {id : ℕ}
    (hp : (Pool.run next (EngineCall.pool config (Store.empty clock nextId intents) calls)
      ts).store.payout? id = some p)
    (hwindow : BeforeTime (EngineCall.pool config (Store.empty clock nextId intents) calls) ts
      p.dispatchAfter) :
    ∀ q ∈ (Pool.run next (EngineCall.pool config (Store.empty clock nextId intents) calls)
      ts).threads, Conforms (batchMonitor id) q false fun _ _ ↦ True := by
  let P₀ := EngineCall.pool config (Store.empty clock nextId intents) calls
  have hstart : ∀ q ∈ P₀.threads, Conforms (batchMonitor id) q false fun _ _ ↦ True :=
    EngineCall.forall_pool (fun c ↦ c.conforms config id) _ calls
  refine (not_asked_run (P := P₀) ?_ hstart (fun _ hx ↦ absurd hx List.not_mem_nil) ?_).1
  · exact (Store.EngineConsistent.empty clock nextId intents).payouts.toPayoutKeys
  · rintro ts₁ t ts₂ rfl ⟨q, hq, hdue⟩
    have hpast : q.dispatchAfter ≤ (Pool.run next P₀ ts₁).store.clock :=
      (of_decide_eq_true hdue).2.1
    let T : Payout → Prop := fun p ↦ p.dispatchAfter = q.dispatchAfter
    let G : Store → Store → Prop := fun s s' ↦ s.HasPayout id T → s'.HasPayout id T
    have hguarantees : ∀ r ∈ P₀.threads, Guarantees (fun _ ↦ True) G r :=
      EngineCall.forall_pool (fun c ↦ c.keeps_payout config id
        fun _ _ hsame htime ↦ hsame.dispatchAfter.trans htime) _ calls
    have hscheduled : (Pool.run next P₀ ts₁).store.HasPayout id T := ⟨q, hq, rfl⟩
    obtain ⟨p', hp', htime⟩ := Pool.stable_run (G := G) (C := fun s ↦ s.HasPayout id T)
      (fun _ _ h ↦ h)
      (fun r hr ↦ ((hguarantees r hr).mono (fun _ h ↦ h) fun _ _ _ _ ↦ trivial).keeps)
      hguarantees trivial (fun _ _ h hg ↦ hg h) hscheduled (t :: ts₂)
    cases hp'.symm.trans hp
    have hnow := hwindow ts₁ ⟨t :: ts₂, rfl⟩
    rw [htime] at hnow
    exact absurd hpast (not_le.mpr hnow)

end Window

/-! ## From the dispute on -/

section Afterwards

variable {config : EngineConfig} {s : Store} {id : ℕ}

theorem MethodWrite.trans {s' s'' : Store} (h : MethodWrite s s') (h' : MethodWrite s' s'') :
    MethodWrite s s'' := by
  refine ⟨h.nextId.trans h'.nextId, h'.rest.trans ?_⟩
  rw [h.rest]

theorem MethodWrite.refundInProgress {s' : Store} (h : MethodWrite s s') (holdId : ℕ) :
    s'.refundInProgress holdId = s.refundInProgress holdId := by
  rw [h.rest]
  rfl

/-- Bank details for the artist. -/
def detailsOf (artistUserId : ℕ) : UpsertPayoutMethodInput :=
  ⟨artistUserId, "FNB", "A. Artist", "62000000001", "250655", .cheque⟩

/-- The artist enters bank details, they are verified, and the time of the payout comes. -/
def prepare (p : Payout) : List EngineCall :=
  [.method (.upsert (detailsOf p.artistId)), .method (.verify p.artistId 0),
    .payout (.tick p.dispatchAfter)]

theorem not_releases_of_mem_prepare {p : Payout} {c : EngineCall} (hc : c ∈ prepare p) :
    ¬c.Releases := by
  simp only [prepare, List.mem_cons, List.not_mem_nil, or_false] at hc
  rcases hc with rfl | rfl | rfl
  · exact not_false
  · exact not_false
  · exact not_false

theorem prepare_run (hcrypt : ∀ number, config.payouts.decrypt (config.encrypt number) = .ok number)
    (hpays : config.payouts.Pays) {p : Payout} (hqueued : p.state = .queued) (hrefund :
      s.refundInProgress p.holdId = false) :
    ∃ s', (runAll (.healthy paysBoth) ((prepare p).map (·.program config)) s).1 = s' ∧
      s'.payouts = s.payouts ∧ PayoutDispatcherJob.due s' p = true ∧
      config.payouts.outcome s' p.artistId = .succeeded := by
  obtain ⟨m, s₁, hrun₁, hwrite₁, hm, -, hcipher⟩ :=
    upsert_run config.encrypt (detailsOf p.artistId) paysBoth s
  obtain ⟨m', s₂, hrun₂, hwrite₂, hm', hverified, hcipher'⟩ := verify_run 0 paysBoth hm
  have hwrite := hwrite₁.trans hwrite₂
  have hcalls : (runAll (.healthy paysBoth) ((prepare p).map (·.program config)) s).1 =
      { s₂ with clock := p.dispatchAfter } := by
    have hupsert : ((EngineCall.method (.upsert (detailsOf p.artistId))).program config).run
        (.healthy paysBoth) s = ⟨.ok (), s₁, .healthy paysBoth, []⟩ := run_discard hrun₁
    have hverify : ((EngineCall.method (.verify p.artistId 0)).program config).run
        (.healthy paysBoth) s₁ = ⟨.ok (), s₂, .healthy paysBoth, []⟩ := run_discard hrun₂
    rw [prepare, List.map_cons, runAll_cons, hupsert, List.map_cons, runAll_cons, hverify]
    rfl
  refine ⟨_, hcalls, hwrite.payouts, ?_, ?_⟩
  · refine decide_eq_true ⟨hqueued, le_rfl, ?_⟩
    exact (hwrite.refundInProgress p.holdId).trans hrefund
  · refine PayoutsConfig.outcome_eq_succeeded_iff.mpr ⟨hpays.2.1, m', hm', hverified, ?_⟩
    rw [hcipher', hcipher, hcrypt]
    rfl

theorem asksToPay_of_paysFor {x : GatewayRequest × GatewayReply} (h : paysFor id x = true) :
    AsksToPay id x.1 := by
  obtain ⟨q, reply⟩ := x
  cases q with
  | refund input => cases h
  | adhocPayment input => exact ⟨input, rfl, (of_decide_eq_true h).1⟩

/-- A payout that is queued is dispatched, once its time has come and its artist has entered bank
details, if no refund of its hold is in progress. -/
theorem exists_dispatch
    (hcrypt : ∀ number, config.payouts.decrypt (config.encrypt number) = .ok number)
    (hpays : config.payouts.Pays) (hs : s.EngineConsistent) (hfree : s.Unblocked id) :
    ∃ more : List EngineCall, (∀ c ∈ more, ¬c.Releases) ∧
      ∃ x ∈ (runAll (.healthy paysBoth) (more.map (·.program config)) s).2, AsksToPay id x.1 := by
  obtain ⟨hstate, hguard⟩ := hfree
  obtain ⟨p, hp, hqueued⟩ := Option.map_eq_some_iff.mp hstate
  have hrefund : s.refundInProgress p.holdId = false := by
    rw [Store.refundOfPayout, hp] at hguard
    exact hguard
  obtain ⟨s', hrun, hpayouts, hdue, hout⟩ := prepare_run hcrypt hpays hqueued hrefund
  have hp' : s'.payout? id = some p := by
    rw [Store.payout?, hpayouts]
    exact hp
  obtain ⟨n, -, -, hasked⟩ := exists_ticks ⟨hpays.1, hpays.2.1.1⟩ hpays.2.2 cooperative_paysBoth.1
    (hpayouts ▸ hs.payouts.distinct) hp' hdue
  obtain ⟨x, hx, hpaid⟩ := hasked hout
  refine ⟨prepare p ++ List.replicate n (.payout .dispatch), fun c hc ↦ ?_, x, ?_,
    asksToPay_of_paysFor hpaid⟩
  · rcases List.mem_append.mp hc with hc | hc
    · exact not_releases_of_mem_prepare hc
    · rw [List.eq_of_mem_replicate hc]
      exact not_false
  · rw [List.map_append, List.map_replicate, runAll_append, hrun]
    exact List.mem_append_right _ hx

theorem mayBeUnblocked (calls : List EngineCall) {P : EnginePool} (h : P.store.Unblocked id) :
    MayBeUnblocked config calls P id :=
  ⟨[], [], fun _ ht ↦ absurd ht List.not_mem_nil, h⟩

/-- More calls may follow whose turns come later. -/
theorem WithoutRelease.append {calls extra : List EngineCall}
    {ts us : List (Turn GatewayReply Failure)} (hts : WithoutRelease calls ts)
    (hus : ∀ t ∈ us, calls.length ≤ t.thread ∧ t.thread < calls.length + extra.length)
    (hextra : ∀ c ∈ extra, ¬c.Releases) : WithoutRelease (calls ++ extra) (ts ++ us) := by
  intro t ht
  rcases List.mem_append.mp ht with ht | ht
  · obtain ⟨c, hc, hnot⟩ := hts t ht
    refine ⟨c, ?_, hnot⟩
    rw [List.getElem?_append_left (List.getElem?_eq_some_iff.mp hc).1]
    exact hc
  · obtain ⟨hle, hlt⟩ := hus t ht
    have hin : t.thread - calls.length < extra.length := by omega
    refine ⟨extra[t.thread - calls.length], ?_, hextra _ (List.getElem_mem hin)⟩
    rw [List.getElem?_append_right hle]
    exact List.getElem?_eq_getElem hin

/-- More calls, none of which has had a turn yet. -/
theorem run_continued_append {calls more : List EngineCall} {P : EnginePool}
    {ts : List (Turn GatewayReply Failure)} (hlen : P.threads.length = calls.length)
    (hts : WithoutRelease (calls ++ more) ts) (extra : List EngineCall) :
    let R := Pool.run next (EngineCall.continued config P s more) ts
    Pool.run next (EngineCall.continued config P s (more ++ extra)) ts =
      ⟨R.store, R.threads ++ extra.map (·.program config), R.log⟩ := by
  intro R
  have hbound : ∀ t ∈ ts, t.thread < (EngineCall.continued config P s more).threads.length := by
    intro t ht
    obtain ⟨c, hc, -⟩ := hts t ht
    have hlt := (List.getElem?_eq_some_iff.mp hc).1
    simpa [EngineCall.continued, hlen] using hlt
  rw [← Pool.run_append_threads hbound (extra.map (·.program config))]
  simp [EngineCall.continued]

/-- Where the payout may be unblocked, it may be dispatched. -/
theorem not_stopped (hcrypt : ∀ number, config.payouts.decrypt (config.encrypt number) = .ok number)
    (hpays : config.payouts.Pays) {calls : List EngineCall} {P : EnginePool}
    (hlen : P.threads.length = calls.length)
    (hkeeps : ∀ p ∈ P.threads, Keeps Store.EngineConsistent p) (hs : P.store.EngineConsistent)
    (hmay : MayBeUnblocked config calls P id) : ¬Stopped config calls P P.store id := by
  intro hstopped
  obtain ⟨more, ts, hts, hfree⟩ := hmay
  let Q := EngineCall.continued config P P.store more
  let R := Pool.run next Q ts
  have hlenR : R.threads.length = (calls ++ more).length := by
    have hlenQ : Q.threads.length = (calls ++ more).length := by
      simp [Q, EngineCall.continued, hlen]
    exact (Pool.length_threads_run next Q ts).trans hlenQ
  have hsR : R.store.EngineConsistent :=
    Pool.keeps_run (EngineCall.forall_continued hkeeps (fun c ↦ c.keeps config) P.store more) hs ts
  obtain ⟨extra, hextra, x, hx, hask⟩ := exists_dispatch hcrypt hpays hsR hfree
  -- the calls that follow have their turns after those that led here
  let programs := extra.map (·.program config)
  have hprograms : ∀ (j : ℕ) p, programs[j]? = some p →
      (R.threads ++ programs)[R.threads.length + j]? = some p := by
    intro j p hj
    rw [List.getElem?_append_right (Nat.le_add_right _ _), Nat.add_sub_cancel_left, hj]
  obtain ⟨us, hus, -, xs, hlog, hxs⟩ := Pool.exists_all
    (P := ⟨R.store, R.threads ++ programs, R.log⟩) hprograms (.healthy paysBoth)
  rw [hlenR, List.length_map] at hus
  rw [← hxs] at hx
  obtain ⟨y, hy, rfl⟩ := List.mem_map.mp hx
  have hwithout := hts.append hus hextra
  rw [List.append_assoc] at hwithout
  refine hstopped (more ++ extra) (ts ++ us) hwithout y ?_ hask
  have hrun : Pool.run next (EngineCall.continued config P P.store (more ++ extra)) (ts ++ us) =
      Pool.run next ⟨R.store, R.threads ++ programs, R.log⟩ us := by
    rw [← run_continued_append hlen hts extra]
    exact Transition.run_append _ _ ts us
  rw [hrun, hlog]
  exact List.mem_append_right _ hy

/-- Where payouts are switched off, nothing is dispatched. -/
theorem stopped_of_off (hoff : ¬config.payouts.Pays) (calls : List EngineCall) {P : EnginePool}
    (hthreads : ∀ p ∈ P.threads, AsksOnly (fun q ↦ ∃ input, q = .refund input) p) :
    Stopped config calls P P.store id := by
  intro more ts _ x hx
  have hall : ∀ p ∈ (EngineCall.continued config P P.store more).threads,
      AsksOnly (fun q ↦ ∃ input, q = .refund input) p :=
    EngineCall.forall_continued hthreads (fun c ↦ c.asksRefunds_of_off hoff) P.store more
  obtain ⟨input, hinput⟩ :=
    (Pool.asksOnly_run hall (fun _ h ↦ absurd h List.not_mem_nil) ts).2 x hx
  rintro ⟨input', hadhoc, -⟩
  cases hinput.symm.trans hadhoc

/-- Where the payout is never unblocked, nobody gets it in a batch. -/
theorem stopped_of_blocked {calls : List EngineCall} {P : EnginePool}
    (hs : P.store.EngineConsistent)
    (hthreads : ∀ p ∈ P.threads, Conforms (batchMonitor id) p false fun _ _ ↦ True)
    (hblocked : ¬MayBeUnblocked config calls P id) : Stopped config calls P P.store id := by
  intro more ts hts
  have hall : ∀ p ∈ (EngineCall.continued config P P.store more).threads,
      Conforms (batchMonitor id) p false fun _ _ ↦ True :=
    EngineCall.forall_continued hthreads (fun c ↦ c.conforms config id) P.store more
  refine (not_asked_run (P := EngineCall.continued config P P.store more) hs.payouts.toPayoutKeys
    hall (fun _ h ↦ absurd h List.not_mem_nil) ?_).2
  rintro ts₁ t ts₂ rfl ⟨p, hp, hdue⟩
  obtain ⟨hqueued, -, hguard⟩ := of_decide_eq_true hdue
  refine hblocked ⟨more, ts₁, fun t ht ↦ hts t (List.mem_append_left _ ht), ?_, ?_⟩
  · rw [Store.payoutState, hp, Option.map_some, hqueued]
  · rw [Store.refundOfPayout, hp]
    exact hguard

end Afterwards

/-! ## While no refund is under way -/

section UnderWay

variable {config : EngineConfig} {id : ℕ} {calls : List EngineCall}

/-- A call other than a refund leaves the refunds as they are. -/
theorem EngineCall.guarantees_refundsKept (config : EngineConfig) {c : EngineCall}
    (hc : ∀ input, c ≠ .service (.refund input)) :
    Guarantees (fun _ ↦ True) RefundsKept (c.program config) := by
  cases c with
  | service c =>
      refine Guarantees.relabel ?_
      cases c with
      | capture args zarFee =>
          refine guarantees_transaction (fun _ _ ↦ .refl _) fun s u s' _ h ↦ ?_
          rcases PayFastWebhookService.of_commitComplete_ok h with ⟨-, rfl⟩ | ⟨-, rfl⟩
          · exact .refl _
          · exact ⟨fun _ hm ↦ hm, fun _ hm ↦ List.mem_append_left _ hm,
              fun x hm ↦ ⟨x, List.mem_append_left _ hm, rfl, rfl⟩⟩
      | failure args =>
          refine guarantees_transaction (fun _ _ ↦ .refl _) fun s u s' _ h ↦ ?_
          rcases PayFastWebhookService.of_commitFailed_ok h with ⟨-, rfl⟩ | ⟨-, -, rfl⟩
          · exact .refl _
          · exact ⟨fun _ hm ↦ hm, fun _ hm ↦ List.mem_append_left _ hm,
              fun x hm ↦ ⟨x, hm, rfl, rfl⟩⟩
      | escrow op =>
          refine Guarantees.discard ?_
          exact guarantees_transaction (fun _ _ ↦ .refl _) fun _ _ _ _ h ↦ .exec h
      | refund input => exact absurd rfl (hc input)
      | tick clock =>
          exact ⟨fun s _ ↦ ⟨.of_append ⟨[], (List.append_nil _).symm⟩ rfl rfl, trivial⟩,
            fun _ ↦ trivial⟩
  | payout c =>
      have hg : Guarantees (fun _ ↦ True) PayoutWrite (c.program config.payouts) :=
        c.guarantees config.payouts
      refine hg.mono (fun _ h ↦ h) fun s s' _ h ↦ ?_
      exact .of_append ⟨[], by rw [h.refunds, List.append_nil]⟩ h.transactions h.escrowHolds
  | method c =>
      have hg : Guarantees (fun _ ↦ True) MethodWrite (c.program config.encrypt) :=
        c.guarantees config.encrypt
      refine hg.mono (fun _ h ↦ h) fun s s' _ h ↦ ?_
      exact .of_append ⟨[], by rw [h.rest, List.append_nil]⟩ (by rw [h.rest]) (by rw [h.rest])

/-- A new call leaves the refunds of `s₀` as they are. -/
theorem EngineCall.keeps_refunds (config : EngineConfig) (s₀ : Store) (c : EngineCall) :
    Keeps (fun s ↦ s.EngineConsistent ∧ RefundsKept s₀ s) (c.program config) := by
  refine Guarantees.keeps_and ?_ (c.keeps config)
  by_cases hc : ∃ input, c = .service (.refund input)
  · obtain ⟨input, rfl⟩ := hc
    have hg : Guarantees (fun s ↦ s.Consistent ∧ RefundsKept s₀ s) (fun _ ↦ RefundsKept s₀)
        (RefundsService.issueRefund config.system.payfast config.system.business input) :=
      guarantees_issueRefund_kept config.system input
    exact (hg.discard.mono (fun _ hs ↦ ⟨hs.1.toConsistent, hs.2⟩) fun _ _ _ h ↦ h).relabel
  · have hg := EngineCall.guarantees_refundsKept config fun input h ↦ hc ⟨input, h⟩
    exact hg.mono (fun _ _ ↦ trivial) fun _ _ hs h ↦ hs.2.trans h

/-- No call of a refund is under way: it has not begun, or it has ended in one way or another. -/
def NoRefundUnderWay (config : EngineConfig) (calls : List EngineCall) (P : EnginePool) : Prop :=
  ∀ (i : ℕ) c, calls[i]? = some c → (∃ input, c = .service (.refund input)) →
    P.threads[i]? = some (c.program config) ∨ ∃ r, P.threads[i]? = some (ofExcept r)

/-- Where no refund is under way, what is left of the calls leaves the refunds as they are. -/
theorem NoRefundUnderWay.keeps {s : Store} (hs : s.EngineConsistent)
    {ts : List (Turn GatewayReply Failure)}
    (hnone : NoRefundUnderWay config calls (Pool.run next (EngineCall.pool config s calls) ts))
    (s₀ : Store) :
    ∀ p ∈ (Pool.run next (EngineCall.pool config s calls) ts).threads,
      Keeps (fun s ↦ s.EngineConsistent ∧ RefundsKept s₀ s) p := by
  let G : ℕ → Store → Store → Prop := fun i s s' ↦
    (∀ input, calls[i]? ≠ some (.service (.refund input))) → RefundsKept s s'
  have hstart : ∀ (i : ℕ) p, (EngineCall.pool config s calls).threads[i]? = some p →
      Guarantees (fun _ ↦ True) (G i) p := by
    intro i p hp
    obtain ⟨c, hc, rfl⟩ := Option.map_eq_some_iff.mp ((List.getElem?_map ..).symm.trans hp)
    by_cases hrefund : ∃ input, c = .service (.refund input)
    · obtain ⟨input, rfl⟩ := hrefund
      exact .of_forall (fun _ _ hnot ↦ absurd hc (hnot input)) _
    · have hg := EngineCall.guarantees_refundsKept config fun input h ↦ hrefund ⟨input, h⟩
      exact hg.mono (fun _ _ ↦ trivial) fun _ _ _ h _ ↦ h
  have hthreads := Transition.run_invariant (Pool.step next)
    (I := fun P : EnginePool ↦ ∀ (i : ℕ) p, P.threads[i]? = some p →
      Guarantees (fun _ ↦ True) (G i) p)
    (fun P t hg ↦ (Pool.guarantees_each_step (fun _ s _ ↦ .refl s) hg t).1) hstart ts
  have hkeeps := (Pool.keeps_run_threads
    (EngineCall.forall_pool (fun c ↦ c.keeps config) s calls) hs ts).2
  intro p hp
  obtain ⟨i, hi⟩ := List.mem_iff_getElem?.mp hp
  by_cases hrefund : ∃ input, calls[i]? = some (.service (.refund input))
  · obtain ⟨input, hc⟩ := hrefund
    rcases hnone i _ hc ⟨input, rfl⟩ with hr | ⟨r, hr⟩
    · cases hr.symm.trans hi
      exact EngineCall.keeps_refunds config s₀ _
    · cases hr.symm.trans hi
      exact keeps_ofExcept r
  · refine Guarantees.keeps_and ?_ (hkeeps p hp)
    refine (hthreads i p hi).mono (fun _ _ ↦ trivial) fun _ _ hs h ↦ hs.2.trans (h fun input hc ↦ ?_)
    exact hrefund ⟨input, hc⟩

/-- Where no refund is under way, one that is in progress stays so, and the payout of its hold is
never unblocked. -/
theorem not_mayBeUnblocked {clock nextId : ℕ} {intents : List PaymentIntent}
    {calls : List EngineCall} {ts : List (Turn GatewayReply Failure)} {P : EnginePool}
    (hP : P = Pool.run next (EngineCall.pool config (Store.empty clock nextId intents) calls) ts)
    (hnone : NoRefundUnderWay config calls P) {p : Payout} (hp : P.store.payout? id = some p)
    (hrefund : P.store.refundInProgress p.holdId = true) : ¬MayBeUnblocked config calls P id := by
  rintro ⟨more, us, -, -, hfree⟩
  let P₀ := EngineCall.pool config (Store.empty clock nextId intents) calls
  let Q := EngineCall.continued config P P.store more
  let T : Payout → Prop := fun q ↦ q.holdId = p.holdId
  have hempty := Store.EngineConsistent.empty clock nextId intents
  have hs : P.store.EngineConsistent := by
    rw [hP]
    exact EngineCall.engineConsistent config hempty calls ts
  have hthreads : ∀ q ∈ P.threads,
      Keeps (fun s ↦ s.EngineConsistent ∧ RefundsKept P.store s) q := by
    subst hP
    exact hnone.keeps hempty _
  have hkept : RefundsKept P.store (Pool.run next Q us).store := by
    have hall := EngineCall.forall_continued hthreads (fun c ↦ c.keeps_refunds config P.store)
      P.store more
    exact (Pool.keeps_run hall ⟨hs, .refl _⟩ us).2
  have hpayout : (Pool.run next Q us).store.HasPayout id T := by
    have hterms : ∀ c : EngineCall, Guarantees (fun _ ↦ True)
        (fun s s' : Store ↦ s.HasPayout id T → s'.HasPayout id T) (c.program config) :=
      fun c ↦ c.keeps_payout config id fun _ _ hsame hhold ↦ hsame.holdId.trans hhold
    have hstart : ∀ q ∈ P.threads, Guarantees (fun _ ↦ True)
        (fun s s' : Store ↦ s.HasPayout id T → s'.HasPayout id T) q := by
      rw [hP]
      exact (Pool.guarantees_run (fun _ h ↦ h) (fun h h' hs ↦ h' (h hs))
        (EngineCall.forall_pool hterms _ calls) ts).2
    have hall := EngineCall.forall_continued hstart hterms P.store more
    exact (Pool.guarantees_run (fun _ h ↦ h) (fun h h' hs ↦ h' (h hs)) hall us).1 ⟨p, hp, rfl⟩
  obtain ⟨p', hp', hhold⟩ := hpayout
  rw [Store.refundOfPayout, hp', Option.any_some, hhold, hkept.refundInProgress hrefund] at hfree
  cases hfree

end UnderWay

/-! ## The theorem -/

/-- A dispute before the time of a payout stops it only where payouts are switched off, or where a
refund of the hold is in progress and stays so for as long as the payout is queued: the dispute
itself changes nothing.  While no call of a refund is under way, that is where a refund of the hold
is in progress, whose call has died.  The encryption of account numbers is the database's. -/
theorem stopped_iff (config : EngineConfig)
    (hcrypt : ∀ number, config.payouts.decrypt (config.encrypt number) = .ok number)
    (clock nextId : ℕ) (intents : List PaymentIntent) (calls : List EngineCall)
    (ts : List (Turn GatewayReply Failure)) {P : EnginePool}
    (hP : P = Pool.run next (EngineCall.pool config (Store.empty clock nextId intents) calls) ts)
    {p : Payout} (hp : p ∈ P.store.payouts)
    (hwindow : BeforeTime (EngineCall.pool config (Store.empty clock nextId intents) calls) ts
      p.dispatchAfter)
    {s' : Store} (hdispute : DisputeStep config P.store p.holdId s') :
    (Stopped config calls P s' p.id ↔
        ¬config.payouts.Pays ∨ ¬MayBeUnblocked config calls P p.id) ∧
      (p.state = .queued → NoRefundUnderWay config calls P →
        (Stopped config calls P s' p.id ↔
          ¬config.payouts.Pays ∨ P.store.refundInProgress p.holdId = true)) := by
  let P₀ := EngineCall.pool config (Store.empty clock nextId intents) calls
  have hkeeps : ∀ q ∈ P₀.threads, Keeps Store.EngineConsistent q :=
    EngineCall.forall_pool (fun c ↦ c.keeps config) _ calls
  obtain ⟨hs, hthreads⟩ := Pool.keeps_run_threads hkeeps (.empty clock nextId intents) ts
  rw [← hP] at hs hthreads
  obtain rfl := hdispute.store_eq hs hp
  have hfound : P.store.payout? p.id = some p :=
    (Table.find_eq_some_iff hs.payouts.distinct).mpr hp
  have hiff : Stopped config calls P P.store p.id ↔
      ¬config.payouts.Pays ∨ ¬MayBeUnblocked config calls P p.id := by
    constructor
    · intro hstopped
      by_contra hnot
      obtain ⟨hpays, hmay⟩ := not_or.mp hnot
      have hlen : P.threads.length = calls.length := by
        rw [hP]
        exact (Pool.length_threads_run next P₀ ts).trans (List.length_map _)
      exact not_stopped hcrypt (not_not.mp hpays) hlen hthreads hs (not_not.mp hmay) hstopped
    · rintro (hoff | hblocked)
      · have hrefunds : ∀ q ∈ P₀.threads, AsksOnly (fun x ↦ ∃ input, x = .refund input) q :=
          EngineCall.forall_pool (fun c ↦ c.asksRefunds_of_off hoff) _ calls
        have hnil : ∀ x ∈ P₀.log, ∃ input, x.2.1 = .refund input :=
          fun _ h ↦ absurd h List.not_mem_nil
        refine stopped_of_off hoff calls ?_
        rw [hP]
        exact (Pool.asksOnly_run hrefunds hnil ts).1
      · refine stopped_of_blocked hs ?_ hblocked
        subst hP
        exact conforms_of_window hfound hwindow
  refine ⟨hiff, fun hqueued hnone ↦ hiff.trans (or_congr_right ?_)⟩
  cases hrefund : P.store.refundInProgress p.holdId with
  | true => exact iff_of_true (not_mayBeUnblocked hP hnone hfound hrefund) rfl
  | false =>
      refine iff_of_false (not_not.mpr (mayBeUnblocked calls ⟨?_, ?_⟩)) Bool.false_ne_true
      · rw [Store.payoutState, hfound, Option.map_some, hqueued]
      · rw [Store.refundOfPayout, hfound]
        exact hrefund

namespace Sample

/-- The calls up to the release of the booking. -/
def releasingPool : EnginePool := EngineCall.pool engine (Store.empty 0 10 [intent]) releasing

/-- The pool with the payout of hold 12 queued for a week later. -/
def owedPool : EnginePool := Pool.run next releasingPool oneAfterTheOther

theorem owed_beforeTime : BeforeTime releasingPool oneAfterTheOther 604800000 := by
  intro us hus
  have hclock : ∀ n < 8,
      (Pool.run next releasingPool (oneAfterTheOther.take n)).store.clock = 0 := by
    decide
  rw [List.prefix_iff_eq_take.mp hus, hclock us.length (Nat.lt_succ_of_le hus.length_le)]
  decide

theorem owed_payout : ∃ p ∈ owedPool.store.payouts, p.id = 17 ∧ p.holdId = 12 ∧
    p.state = .queued ∧ BeforeTime releasingPool oneAfterTheOther p.dispatchAfter := by
  have hall : ∃ p ∈ owedPool.store.payouts,
      p.id = 17 ∧ p.holdId = 12 ∧ p.state = .queued ∧ p.dispatchAfter = 604800000 := by decide
  obtain ⟨p, hp, hid, hhold, hqueued, htime⟩ := hall
  exact ⟨p, hp, hid, hhold, hqueued, htime ▸ owed_beforeTime⟩

theorem owed_unblocked : MayBeUnblocked engine releasing owedPool 17 := by
  refine mayBeUnblocked releasing ?_
  constructor
  · decide
  · decide

/-- The store after the hold has been frozen in the window. -/
def frozenInWindow : Store :=
  ((transaction ((EscrowOp.freeze 12 { reason := "bookings.disputed" }).exec engine.business) :
    Service EscrowHold).run (.healthy fun _ ↦ .resolved 200 none) owedPool.store).store

theorem disputeStep_frozenInWindow : DisputeStep engine owedPool.store 12 frozenInWindow :=
    .freeze _ _

end Sample

theorem stopped_iff_sample :
    ¬Stopped Sample.engine Sample.releasing Sample.owedPool Sample.frozenInWindow 17 := by
  obtain ⟨p, hp, hid, hhold, hqueued, hwindow⟩ := Sample.owed_payout
  have hnone : NoRefundUnderWay Sample.engine Sample.releasing Sample.owedPool := by
    rintro i c hc ⟨input, rfl⟩
    exact absurd (List.mem_of_getElem? hc) (by simp [Sample.releasing])
  have hiff := (stopped_iff Sample.engine (fun _ ↦ rfl) 0 10 [Sample.intent] Sample.releasing
    Sample.oneAfterTheOther (P := Sample.owedPool) rfl hp hwindow
    (hhold ▸ Sample.disputeStep_frozenInWindow)).2 hqueued hnone
  rw [← hid, hiff, hhold]
  decide

/-- The hold of a queued payout is frozen in the window; a week later the payout is paid. -/
theorem paid_despite_dispute :
    ¬∀ (config : EngineConfig),
      (∀ number, config.payouts.decrypt (config.encrypt number) = .ok number) →
      ∀ (clock nextId : ℕ) (intents : List PaymentIntent) (calls : List EngineCall)
        (ts : List (Turn GatewayReply Failure)) (P : EnginePool),
        P = Pool.run next (EngineCall.pool config (Store.empty clock nextId intents) calls) ts →
        ∀ p ∈ P.store.payouts, p.state = .queued →
          BeforeTime (EngineCall.pool config (Store.empty clock nextId intents) calls) ts
            p.dispatchAfter →
          ∀ s', DisputeStep config P.store p.holdId s' → Stopped config calls P s' p.id := by
  intro h
  obtain ⟨p, hp, hid, hhold, hqueued, hwindow⟩ := Sample.owed_payout
  have hs : Sample.owedPool.store.EngineConsistent := Sample.owed_reachable.engineConsistent
  have hstart : ∀ q ∈ Sample.releasingPool.threads, Keeps Store.EngineConsistent q :=
    EngineCall.forall_pool (fun c ↦ c.keeps Sample.engine) _ Sample.releasing
  have hkeeps : ∀ q ∈ Sample.owedPool.threads, Keeps Store.EngineConsistent q :=
    (Pool.keeps_run_threads hstart (.empty 0 10 [Sample.intent]) Sample.oneAfterTheOther).2
  have hdispute : DisputeStep Sample.engine Sample.owedPool.store p.holdId Sample.frozenInWindow :=
    hhold ▸ Sample.disputeStep_frozenInWindow
  have hstopped := h Sample.engine (fun _ ↦ rfl) 0 10 [Sample.intent] Sample.releasing
    Sample.oneAfterTheOther Sample.owedPool rfl p hp hqueued hwindow _ hdispute
  rw [hdispute.store_eq hs hp, hid] at hstopped
  exact not_stopped (fun _ ↦ rfl) (by decide) rfl hkeeps hs Sample.owed_unblocked hstopped

end GearshPayments
