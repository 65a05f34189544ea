import GearshPayments.Payouts.Once
import GearshPayments.Payouts.Queue
import GearshPayments.Resumption.Questions

/-!
# Refunds and a tick of the dispatcher

The guard against paying an artist whose client is being refunded is part of the query
that picks the batch of a tick.  The payouts of the batch are then claimed and paid one
after the other, and nobody looks at refunds again: a refund that starts after the query
is not seen (`paid_while_refunding`).  As long as none starts for a payout of the batch
that is still to be paid, the guard holds at every request (`no_payment_while_refunding`).
-/

namespace GearshPayments

open Resumption

/-- One tick of the dispatcher, the first thread, among calls of the services. -/
def racePool (system : SystemConfig) (config : PayoutsConfig) (s : Store)
    (calls : List ServiceCall) : EnginePool :=
  ⟨s, PayoutCall.dispatch.program config :: calls.map fun c ↦ (c.program system).toEngine, []⟩

/-- If the turn asks the gateway for the payout, no refund of its hold is in progress. -/
def GuardedFor (id : ℕ) (P : EnginePool) (t : Turn GatewayReply Failure) : Prop :=
  ∀ (i : ℕ) input reply, (Pool.step next P t).log = P.log ++ [(i, .adhocPayment input, reply)] →
    input.reference = payoutReference id → P.store.refundOfPayout id = false

/-- If the turn asks the gateway for a payout, no refund of its hold is in progress. -/
def Guarded (P : EnginePool) (t : Turn GatewayReply Failure) : Prop := ∀ id, GuardedFor id P t

/-- The step starts no refund of the hold of a payout of the batch that is queued or being
dispatched. -/
def NoRefundStarts (batch : List Payout) (s s' : Store) : Prop :=
  ∀ p ∈ batch, s.payoutState p.id = some .queued ∨ s.payoutState p.id = some .processing →
    s.refundOfPayout p.id = false → s'.refundOfPayout p.id = false

/-- The turns do not move the tick, which starts with a read. -/
def TickWaits (ts : List (Turn GatewayReply Failure)) : Prop :=
  ∀ t ∈ ts, t.thread = 0 → ∃ reply, t.move = .answer reply

/-- From the turn in which the tick reads its batch, no refund starts for what is still to be
paid of it. -/
def RefundsWait (config : PayoutsConfig) (P : EnginePool) (ts : List (Turn GatewayReply Failure)) :
    Prop :=
  ∀ ts₁ ts₂, ts = ts₁ ++ ⟨0, .act⟩ :: ts₂ → TickWaits ts₁ →
    Transition.Along (Pool.step next)
      (fun P' t ↦ NoRefundStarts (PayoutDispatcherJob.pickCandidates config.dispatchBatchSize
        (Pool.run next P ts₁).store) P'.store (Pool.step next P' t).store)
      (Pool.run next P (ts₁ ++ [⟨0, .act⟩])) ts₂

theorem RefundsWait.tail {config : PayoutsConfig} {P : EnginePool} {t : Turn GatewayReply Failure}
    {ts : List (Turn GatewayReply Failure)} (h : RefundsWait config P (t :: ts))
    (ht : t.thread = 0 → ∃ reply, t.move = .answer reply) :
    RefundsWait config (Pool.step next P t) ts := by
  intro ts₁ ts₂ hts hwaits
  exact h (t :: ts₁) ts₂ (by rw [hts]; rfl) (List.forall_mem_cons.mpr ⟨ht, hwaits⟩)

/-- It is enough to look at the turn in which the tick reads its batch. -/
theorem RefundsWait.of_pick {config : PayoutsConfig} {P : EnginePool}
    {ts₁ ts₂ : List (Turn GatewayReply Failure)} (hts₁ : ∀ t ∈ ts₁, t.thread ≠ 0)
    (h : Transition.Along (Pool.step next)
      (fun P' t ↦ NoRefundStarts (PayoutDispatcherJob.pickCandidates config.dispatchBatchSize
        (Pool.run next P ts₁).store) P'.store (Pool.step next P' t).store)
      (Pool.run next P (ts₁ ++ [⟨0, .act⟩])) ts₂) :
    RefundsWait config P (ts₁ ++ ⟨0, .act⟩ :: ts₂) := by
  intro us₁ us₂ hsplit hwaits
  rcases List.append_eq_append_iff.mp hsplit with ⟨xs, rfl, hxs⟩ | ⟨xs, rfl, hxs⟩
  · cases xs with
    | nil =>
        cases hxs
        rw [List.append_nil]
        exact h
    | cons x xs =>
        cases hxs
        obtain ⟨reply, hreply⟩ := hwaits ⟨0, .act⟩ (by simp) rfl
        cases hreply
  · cases xs with
    | nil =>
        cases hxs
        rw [List.append_nil] at h
        exact h
    | cons x xs =>
        cases hxs
        exact absurd rfl (hts₁ ⟨0, .act⟩ (by simp))

/-! ## One payout -/

/-- Seen from one payout, a thread is a call of the services or a dispatcher at a stage. -/
def raceMonitor (id : ℕ) :
    Monitor Store GatewayRequest GatewayReply (Option PayoutStage) where
  Knows _ s := s.PayoutOf id (fun _ ↦ True) (fun _ ↦ True)
  Writes
    | none, s, s', w => w = none ∧ QueueWrite s s'
    | some v, s, s', w => ∃ v', w = some v' ∧ PayoutStep id (fun _ ↦ True) v s s' v'
  Asks
    | none, q, _, w => w = none ∧ ∃ input, q = .refund input
    | some v, q, a, w => ∃ v', w = some v' ∧
      (payoutMonitor id (fun _ ↦ True) fun _ ↦ True).Asks v q a v'

/-- What is known of the payout where a dispatcher is at the stage with it: no refund of its
hold is in progress before it has been paid, and one that has been claimed is marked as
such. -/
structure Store.GuardedAt (s : Store) (id : ℕ) (v : PayoutStage) : Prop where
  found : s.payoutState id ≠ none
  guarded : s.payoutState id = some .queued ∨ s.payoutState id = some .processing →
    s.refundOfPayout id = false
  claimed : v = .claimed → s.payoutState id = some .processing

theorem Store.GuardedAt.queue {s s' : Store} {id : ℕ} {v : PayoutStage} (h : s.GuardedAt id v)
    (hw : QueueWrite s s')
    (hstarts : s.payoutState id = some .queued ∨ s.payoutState id = some .processing →
      s.refundOfPayout id = false → s'.refundOfPayout id = false) : s'.GuardedAt id v := by
  cases hp : s.payout? id with
  | none =>
      refine absurd ?_ h.found
      rw [Store.payoutState, hp, Option.map_none]
  | some p =>
      obtain ⟨p', hp', hkept⟩ := hw.payout? hp
      have hstate : s.payoutState id = some p.state := by
        rw [Store.payoutState, hp, Option.map_some]
      have hstate' : s'.payoutState id = some p'.state := by
        rw [Store.payoutState, hp', Option.map_some]
      constructor
      · rw [hstate']
        exact fun h ↦ by cases h
      · intro hopen
        have hsame : s'.payoutState id = s.payoutState id := by
          rcases hkept.state with h | ⟨-, h⟩
          · rw [hstate, hstate', h]
          · rw [hstate', h] at hopen
            rcases hopen with h | h <;> cases h
        rw [hsame] at hopen
        exact hstarts hopen (h.guarded hopen)
      · intro hv
        have hprocessing := h.claimed hv
        rw [hstate] at hprocessing
        rcases hkept.state with h | ⟨h, -⟩
        · rw [hstate', h, hprocessing]
        · rw [h] at hprocessing
          cases hprocessing

/-- A dispatcher with the payout in its batch keeps what it knows. -/
theorem Store.GuardedAt.move {s s' : Store} {id : ℕ} {v v' : PayoutStage} (h : s.GuardedAt id v)
    (hw : PayoutStep id (fun _ ↦ True) v s s' v') (hv : v.Dispatches) :
    v'.Dispatches ∧ s'.GuardedAt id v' := by
  have hfound := h.found
  have hguarded := h.guarded
  have hclaimed := h.claimed
  have hmove := hw.move
  have hrefund := hw.write.refundOfPayout id
  rw [← hrefund] at hguarded
  generalize s.payoutState id = q at *
  generalize hq' : s'.payoutState id = q' at *
  have hkept : ∀ {v'}, v'.Dispatches → q' = q → v' ≠ .claimed ∨ v' = v →
      v'.Dispatches ∧ s'.GuardedAt id v' := by
    intro v' hv' hq hc
    subst hq
    refine ⟨hv', by rw [hq']; exact hfound, by rw [hq']; exact hguarded, fun hclaim ↦ ?_⟩
    rcases hc with hc | rfl
    · exact absurd hclaim hc
    · rw [hq']
      exact hclaimed hclaim
  have hclosed : ∀ {x : PayoutState}, q' = some x → x ≠ .queued → x ≠ .processing →
      PayoutStage.picked.Dispatches ∧ s'.GuardedAt id .picked := by
    intro x hx hqueued hprocessing
    refine ⟨.inl rfl, ?_, fun hopen ↦ ?_, fun h ↦ (by cases h)⟩
    · rw [hq', hx]
      exact fun h ↦ by cases h
    · rw [hq', hx] at hopen
      rcases hopen with h | h
      · exact absurd (Option.some.inj h) hqueued
      · exact absurd (Option.some.inj h) hprocessing
  cases hmove with
  | stay => exact hkept hv rfl (.inr rfl)
  | leave => exact hkept (.inl rfl) rfl (.inl fun h ↦ by cases h)
  | claim =>
      refine ⟨.inr (.inl rfl), ?_, fun _ ↦ hguarded (.inl rfl), fun _ ↦ hq'⟩
      rw [hq']
      exact fun h ↦ by cases h
  | refuse => exact hclosed rfl (fun h ↦ by cases h) fun h ↦ by cases h
  | fail => exact hclosed rfl (fun h ↦ by cases h) fun h ↦ by cases h
  | succeed => exact hclosed rfl (fun h ↦ by cases h) fun h ↦ by cases h
  | pick => rcases hv with h | h | h <;> cases h
  | requeue => rcases hv with h | h | h <;> cases h
  | retry => rcases hv with h | h | h <;> cases h
  | cancel => rcases hv with h | h | h <;> cases h
  | alreadyCancelled => rcases hv with h | h | h <;> cases h

theorem PayoutMove.of_cancelled {V : Bool → Prop} {v' : PayoutStage} {q q' : Option PayoutState}
    (h : PayoutMove V .cancelled q q' v') : v' = .cancelled := by
  cases h with
  | stay => rfl
  | leave hv => rcases hv with h | h | h <;> cases h

/-- The tick has read its batch.  One that does not have the payout in it is at a stage that
no move leaves. -/
structure RaceKept (id : ℕ) (batch : List Payout) (s : Store) (vs : List (Option PayoutStage)) :
    Prop where
  keys : s.PayoutKeys
  tick : ∀ (i : ℕ) w, vs[i]? = some w → ∀ v, w = some v → i = 0 ∧ (v = .cancelled ∨
    (v.Dispatches ∧ (∃ p ∈ batch, p.id = id) ∧ s.GuardedAt id v))

theorem Store.PayoutKeys.payoutOf {s : Store} (h : s.PayoutKeys) (id : ℕ) :
    s.PayoutOf id (fun _ ↦ True) (fun _ ↦ True) :=
  ⟨h.distinct, fun _ _ _ ↦ trivial, fun _ _ ↦ trivial⟩

section Kept

variable {id i : ℕ} {batch : List Payout} {s s' : Store} {vs : List (Option PayoutStage)}
  {w w' : Option PayoutStage}

theorem RaceKept.written (h : RaceKept id batch s vs) (hw : vs[i]? = some w)
    (hwrite : (raceMonitor id).Writes w s s' w') (hD : NoRefundStarts batch s s') :
    RaceKept id batch s' (vs.set i w') := by
  cases w with
  | none =>
      obtain ⟨rfl, hqueue⟩ := hwrite
      refine ⟨hqueue.payoutKeys h.keys, Pool.forall_set (fun j w hj v hv ↦ ?_)
        fun v hv ↦ (by cases hv)⟩
      obtain ⟨hzero, hstage⟩ := h.tick j w hj v hv
      refine ⟨hzero, hstage.imp_right ?_⟩
      rintro ⟨hdispatches, ⟨p, hp, rfl⟩, hguard⟩
      exact ⟨hdispatches, ⟨p, hp, rfl⟩, hguard.queue hqueue (hD p hp)⟩
  | some v =>
      obtain ⟨v', rfl, hstep⟩ := hwrite
      obtain ⟨rfl, hstage⟩ := h.tick i _ hw v rfl
      have hnew : v' = .cancelled ∨
          (v'.Dispatches ∧ (∃ p ∈ batch, p.id = id) ∧ s'.GuardedAt id v') := by
        rcases hstage with rfl | ⟨hdispatches, hbatch, hguard⟩
        · left
          exact hstep.move.of_cancelled
        · obtain ⟨hdispatches', hguard'⟩ := hguard.move hstep hdispatches
          exact .inr ⟨hdispatches', hbatch, hguard'⟩
      refine ⟨hstep.write.payoutKeys h.keys,
        Pool.forall_set_of_ne (fun j x hzero hj v hv ↦ ?_) fun v hv ↦ ?_⟩
      · -- the tick is the only dispatcher
        exact absurd (h.tick j x hj v hv).1.symm hzero
      · cases hv
        exact ⟨rfl, hnew⟩

theorem RaceKept.asked (h : RaceKept id batch s vs) (hw : vs[i]? = some w)
    {q : GatewayRequest} {a : GatewayReply} (ha : (raceMonitor id).Asks w q a w') :
    RaceKept id batch s (vs.set i w') := by
  refine ⟨h.keys, Pool.forall_set h.tick fun v' hv' ↦ ?_⟩
  cases w with
  | none =>
      obtain ⟨rfl, -⟩ := ha
      cases hv'
  | some v =>
      obtain ⟨x, rfl, input, -, ⟨-, rfl⟩ | ⟨-, rfl, rfl⟩⟩ := ha
      · cases hv'
        exact h.tick i _ hw _ rfl
      · cases hv'
        obtain ⟨hzero, h | ⟨-, hbatch, hguard⟩⟩ := h.tick i _ hw _ rfl
        · cases h
        · refine ⟨hzero, .inr ⟨?_, hbatch, hguard.found, hguard.guarded,
            fun _ ↦ hguard.claimed rfl⟩⟩
          split
          · exact .inr (.inr rfl)
          · exact .inr (.inl rfl)

/-- A dispatcher asks for a payout only where it has claimed it. -/
theorem GuardedFor.of_conforming {P : EnginePool}
    {post : Option PayoutStage → Except Failure Unit → Prop}
    (hp : Pool.Conforming (raceMonitor id) post P.threads vs) (hkeys : P.store.PayoutKeys)
    (hclaimed : ∀ (i : ℕ), vs[i]? = some (some .claimed) → P.store.refundOfPayout id = false)
    (t : Turn GatewayReply Failure) : GuardedFor id P t := by
  intro i input reply hlog href
  have hne : ∀ {xs : List (ℕ × GatewayRequest × GatewayReply)} {x}, xs ≠ xs ++ [x] := by
    intro xs x h
    have hlen := congrArg List.length h
    rw [List.length_append, List.length_singleton] at hlen
    omega
  obtain ⟨vs', -, ⟨-, hsame, -⟩ | ⟨v, v', -, -, hsame, -⟩ | ⟨w, q, a, w', hw, ha, -, hnew, -⟩⟩ :=
    Pool.conforming_step hp (fun _ _ _ ↦ hkeys.payoutOf id) t
  · exact absurd (hsame.symm.trans hlog) hne
  · exact absurd (hsame.symm.trans hlog) hne
  · rw [hnew] at hlog
    cases List.append_cancel_left hlog
    cases w with
    | none =>
        obtain ⟨-, _, h⟩ := ha
        cases h
    | some v =>
        obtain ⟨x, -, input', hinput, ⟨hother, -⟩ | ⟨-, rfl, -⟩⟩ := ha
        · cases hinput
          exact absurd href hother
        · exact hclaimed _ hw

end Kept

/-! ## Runs -/

section Runs

variable {config : PayoutsConfig} {id : ℕ} {P : EnginePool} {vs : List (Option PayoutStage)}
  {ts : List (Turn GatewayReply Failure)}

/-- Once the batch is read. -/
theorem RaceKept.run {batch : List Payout}
    (hp : Pool.Conforming (raceMonitor id) (fun _ _ ↦ True) P.threads vs)
    (h : RaceKept id batch P.store vs)
    (hstarts : Transition.Along (Pool.step next)
      (fun P t ↦ NoRefundStarts batch P.store (Pool.step next P t).store) P ts) :
    Transition.Along (Pool.step next) (GuardedFor id) P ts := by
  refine Transition.Along.of_invariant (I := fun P ↦ ∃ vs,
    Pool.Conforming (raceMonitor id) (fun _ _ ↦ True) P.threads vs ∧ RaceKept id batch P.store vs)
    ?_ ?_ ⟨vs, hp, h⟩ hstarts
  · rintro P t hD ⟨vs, hp, h⟩
    obtain ⟨vs', hp', ⟨hs, -, rfl⟩ | ⟨v, v', hv, hw, -, rfl⟩ | ⟨v, q, a, v', hv, ha, hs, -, rfl⟩⟩ :=
      Pool.conforming_step hp (fun _ _ _ ↦ h.keys.payoutOf id) t
    · exact ⟨vs', hp', by rw [hs]; exact h⟩
    · exact ⟨_, hp', h.written hv hw hD⟩
    · exact ⟨_, hp', by rw [hs]; exact h.asked hv ha⟩
  · rintro P t - ⟨vs, hp, h⟩
    refine GuardedFor.of_conforming hp h.keys (fun i hi ↦ ?_) t
    obtain ⟨-, h | ⟨-, -, hguard⟩⟩ := h.tick i _ hi _ rfl
    · cases h
    · exact hguard.guarded (.inr (hguard.claimed rfl))

/-- A tick that is not switched off reads its batch and then takes the payouts one by one. -/
theorem dispatch_program (config : PayoutsConfig) :
    PayoutCall.dispatch.program config = .ret () ∨
      PayoutCall.dispatch.program config = .atomic (fun s ↦ s) fun r ↦ match r with
        | .error e => .throw e
        | .ok s =>
          let batch := PayoutDispatcherJob.pickCandidates config.dispatchBatchSize s
          discard <| PayoutDispatcherJob.dispatchAll config batch ⟨batch.length, 0, 0, 0⟩ := by
  unfold PayoutCall.program PayoutDispatcherJob.cron
  dsimp only
  split
  · exact .inl rfl
  · split
    · exact .inl rfl
    · right
      refine congrArg (Resumption.atomic _) (funext fun r ↦ ?_)
      cases r <;> rfl

theorem conforms_race {A : Type} {p : Engine A} {v : PayoutStage}
    {post : PayoutStage → Except Failure A → Prop}
    (hp : Conforms (payoutMonitor id (fun _ ↦ True) fun _ ↦ True) p v post) :
    Conforms (raceMonitor id) p (some v) fun _ _ ↦ True :=
  hp.embed (N := raceMonitor id) (e := some) (fun _ _ h ↦ h) (fun _ _ _ v' h ↦ ⟨v', rfl, h⟩)
    (fun _ _ _ v' h ↦ ⟨v', rfl, h⟩) fun _ _ _ ↦ trivial

theorem ServiceCall.conforms_race (system : SystemConfig) (id : ℕ) (c : ServiceCall) :
    Conforms (raceMonitor id) (c.program system).toEngine none fun _ _ ↦ True := by
  have hg : Guarantees (fun _ ↦ True) QueueWrite (c.program system) := c.guarantees_queue system
  refine (hg.conforms_relabel (fun _ _ ↦ trivial) ?_ ?_).mono fun _ _ _ ↦ trivial
  · exact fun _ _ _ h ↦ ⟨rfl, h⟩
  · exact fun input _ ↦ ⟨rfl, input, rfl⟩

/-- The stage of a tick that has read its batch. -/
def batchStage (id : ℕ) (batch : List Payout) : PayoutStage :=
  if batch.any fun p ↦ p.id = id then .picked else .cancelled

theorem conforms_batch (id : ℕ) (config : PayoutsConfig) (batch : List Payout)
    (result : DispatchTickResult) :
    Conforms (payoutMonitor id (fun _ ↦ True) fun _ ↦ True)
      (discard (PayoutDispatcherJob.dispatchAll config batch result) : Engine Unit)
      (batchStage id batch) fun _ _ ↦ True := by
  have hown : ∀ p ∈ batch, p.id = id → batchStage id batch = .picked := by
    intro p hp hid
    exact if_pos (List.any_eq_true.mpr ⟨p, hp, decide_eq_true hid⟩)
  have hall : Conforms (payoutMonitor id (fun _ ↦ True) fun _ ↦ True)
      (PayoutDispatcherJob.dispatchAll config batch result) (batchStage id batch)
      fun v _ ↦ (batchStage id batch).Near v :=
    conforms_dispatchAll config (fun _ _ _ ↦ trivial) hown (.refl _) result
  exact Conforms.discard (hall.mono fun _ _ _ ↦ trivial)

/-- What the tick knows of a payout that it has just found in its batch. -/
theorem Store.PayoutKeys.guardedAt {s : Store} (hs : s.PayoutKeys) {limit : ℕ} {p : Payout}
    (hp : p ∈ PayoutDispatcherJob.pickCandidates limit s) : s.GuardedAt p.id .picked := by
  obtain ⟨hmem, hdue⟩ := mem_of_mem_pickCandidates hp
  obtain ⟨hqueued, -, hguard⟩ := of_decide_eq_true hdue
  have hfind : s.payout? p.id = some p := (Table.find_eq_some_iff hs.distinct).mpr hmem
  constructor
  · rw [Store.payoutState, hfind]
    exact fun h ↦ by cases h
  · intro _
    rw [Store.refundOfPayout, hfind]
    exact hguard
  · exact fun h ↦ by cases h

/-- The tick has not read its batch yet. -/
structure RaceWaits (config : PayoutsConfig) (id : ℕ) (P : EnginePool)
    (vs : List (Option PayoutStage)) : Prop where
  conforming : Pool.Conforming (raceMonitor id) (fun _ _ ↦ True) P.threads vs
  keys : P.store.PayoutKeys
  tick : P.threads[0]? = some (PayoutCall.dispatch.program config)
  idle : ∀ (i : ℕ) w, vs[i]? = some w → ∀ v, w = some v → i = 0 ∧ v = .idle

theorem RaceWaits.guardedFor (h : RaceWaits config id P vs) (t : Turn GatewayReply Failure) :
    GuardedFor id P t := by
  refine GuardedFor.of_conforming h.conforming h.keys (fun i hi ↦ ?_) t
  cases (h.idle i _ hi _ rfl).2

/-- A turn of one of the services. -/
theorem RaceWaits.other (h : RaceWaits config id P vs) {t : Turn GatewayReply Failure}
    (ht : t.thread ≠ 0) : ∃ vs', RaceWaits config id (Pool.step next P t) vs' := by
  have htick : (Pool.step next P t).threads[0]? = some (PayoutCall.dispatch.program config) := by
    rcases Pool.step_cases next P t with heq | ⟨p, s, p', x, -, -, heq⟩
    · rw [heq]
      exact h.tick
    · rw [heq]
      exact (List.getElem?_set_ne ht).trans h.tick
  have hservice : ∀ {w}, vs[t.thread]? = some w → w = none := by
    intro w hw
    cases w with
    | none => rfl
    | some v => exact absurd (h.idle _ _ hw v rfl).1 ht
  obtain ⟨vs', hp', ⟨hs, -, rfl⟩ | ⟨w, w', hw, hwrite, -, rfl⟩ |
      ⟨w, q, a, w', hw, ha, hs, -, rfl⟩⟩ :=
    Pool.conforming_step h.conforming (fun _ _ _ ↦ h.keys.payoutOf id) t
  · exact ⟨vs', hp', by rw [hs]; exact h.keys, htick, h.idle⟩
  · cases hservice hw
    obtain ⟨rfl, hqueue⟩ := hwrite
    exact ⟨_, hp', hqueue.payoutKeys h.keys, htick, Pool.forall_set h.idle fun v hv ↦ (by cases hv)⟩
  · cases hservice hw
    obtain ⟨rfl, -⟩ := ha
    exact ⟨_, hp', by rw [hs]; exact h.keys, htick, Pool.forall_set h.idle fun v hv ↦ (by cases hv)⟩

/-- The tick has moved on to the program `p` with the batch given. -/
theorem RaceWaits.kept (h : RaceWaits config id P vs) {p : Engine Unit} {batch : List Payout}
    (hp : Conforms (raceMonitor id) p (some (batchStage id batch)) fun _ _ ↦ True)
    (hbatch : ∀ q ∈ batch, P.store.GuardedAt q.id .picked) :
    Pool.Conforming (raceMonitor id) (fun _ _ ↦ True) (P.threads.set 0 p)
        (vs.set 0 (some (batchStage id batch))) ∧
      RaceKept id batch P.store (vs.set 0 (some (batchStage id batch))) := by
  obtain ⟨w, hw, -⟩ := h.conforming 0 _ h.tick
  have hlt := (List.getElem?_eq_some_iff.mp hw).1
  refine ⟨Pool.conforming_set h.conforming hlt hp, h.keys, ?_⟩
  refine Pool.forall_set_of_ne (fun i w hzero hi v hv ↦ ?_) fun v hv ↦ ?_
  · exact absurd (h.idle i w hi v hv).1.symm hzero
  · cases hv
    refine ⟨rfl, ?_⟩
    by_cases hin : batch.any (fun p ↦ p.id = id) = true
    · obtain ⟨q, hq, hid⟩ := List.any_eq_true.mp hin
      rw [batchStage, if_pos hin, ← of_decide_eq_true hid]
      exact .inr ⟨.inl rfl, ⟨q, hq, rfl⟩, hbatch q hq⟩
    · rw [batchStage, if_neg hin]
      exact .inl rfl

/-- From the start, for one payout: by induction on the schedule up to the turn in which the
tick reads its batch. -/
theorem RaceWaits.run (h : RaceWaits config id P vs) (hrefunds : RefundsWait config P ts) :
    Transition.Along (Pool.step next) (GuardedFor id) P ts := by
  have hnone : ∀ q ∈ ([] : List Payout), P.store.GuardedAt q.id .picked :=
    fun _ hq ↦ absurd hq List.not_mem_nil
  rcases dispatch_program config with hret | hread
  · -- a tick that is switched off is done
    obtain ⟨hp, hkept⟩ := h.kept (p := .ret ()) trivial hnone
    have hset : P.threads.set 0 (.ret ()) = P.threads := by
      obtain ⟨hlt, hget⟩ := List.getElem?_eq_some_iff.mp h.tick
      rw [← hret, ← hget, List.set_getElem_self]
    rw [hset] at hp
    refine RaceKept.run hp hkept (Transition.Along.of_forall (fun _ _ ↦ ?_) _ _)
    exact fun q hq ↦ absurd hq List.not_mem_nil
  · induction ts generalizing P vs with
    | nil => trivial
    | cons t ts ih =>
        refine ⟨h.guardedFor t, ?_⟩
        by_cases ht : t.thread = 0
        · obtain ⟨i, move⟩ := t
          subst ht
          cases move with
          | answer a =>
              have hstep : Pool.step next P ⟨0, .answer a⟩ = P := by
                unfold Pool.step
                rw [h.tick, hread]
                rfl
              have hrefunds' := hrefunds.tail fun _ ↦ ⟨a, rfl⟩
              rw [hstep] at hrefunds' ⊢
              exact ih h hrefunds' hnone
          | refuse e =>
              have hstep : Pool.step next P ⟨0, .refuse e⟩ =
                  ⟨P.store, P.threads.set 0 (.throw e), P.log ++ []⟩ := by
                apply Pool.step_eq h.tick (x := none)
                rw [hread]
                rfl
              obtain ⟨hp, hkept⟩ := h.kept (p := .throw e) trivial hnone
              rw [hstep]
              refine RaceKept.run hp hkept (Transition.Along.of_forall (fun _ _ ↦ ?_) _ _)
              exact fun q hq ↦ absurd hq List.not_mem_nil
          | act =>
              let batch := PayoutDispatcherJob.pickCandidates config.dispatchBatchSize P.store
              have hstep : Pool.step next P ⟨0, .act⟩ = ⟨P.store, P.threads.set 0
                  (discard <| PayoutDispatcherJob.dispatchAll config batch ⟨batch.length, 0, 0, 0⟩),
                  P.log ++ []⟩ := by
                apply Pool.step_eq h.tick (x := none)
                rw [hread]
                rfl
              have hbatch := conforms_batch id config batch ⟨batch.length, 0, 0, 0⟩
              obtain ⟨hp, hkept⟩ := h.kept (conforms_race hbatch) fun q hq ↦ h.keys.guardedAt hq
              have hstarts := hrefunds [] ts rfl fun _ ht ↦ absurd ht List.not_mem_nil
              rw [List.nil_append, Pool.run, Pool.run, Transition.run_cons, Transition.run_nil,
                Transition.run_nil] at hstarts
              rw [hstep] at hstarts ⊢
              exact RaceKept.run hp hkept hstarts
        · obtain ⟨vs', h'⟩ := h.other ht
          exact ih h' (hrefunds.tail fun h ↦ absurd h ht) fun _ hq ↦ absurd hq List.not_mem_nil

/-- In a run in which no refund starts for a payout of the batch that is still to be paid, no
payout is paid while a refund of its hold is in progress. -/
theorem no_payment_while_refunding (system : SystemConfig) (config : PayoutsConfig) {s : Store}
    (hs : s.PayoutKeys) (calls : List ServiceCall) {ts : List (Turn GatewayReply Failure)}
    (hrefunds : RefundsWait config (racePool system config s calls) ts) :
    Transition.Along (Pool.step next) Guarded (racePool system config s calls) ts := by
  refine Transition.Along.forall fun id ↦ ?_
  have hwaits : RaceWaits config id (racePool system config s calls)
      (some .idle :: calls.map fun _ ↦ none) := by
    refine ⟨fun i p hp ↦ ?_, hs, rfl, fun i w hw v hv ↦ ?_⟩
    · cases i with
      | zero =>
          cases hp
          exact ⟨some .idle, rfl, conforms_race (PayoutCall.dispatch.conforms config)⟩
      | succ i =>
          change (calls.map fun c ↦ (c.program system).toEngine)[i]? = some p at hp
          rw [List.getElem?_map] at hp
          obtain ⟨c, hc, rfl⟩ := Option.map_eq_some_iff.mp hp
          refine ⟨none, ?_, c.conforms_race system id⟩
          rw [List.getElem?_cons_succ, List.getElem?_map, hc, Option.map_some]
    · cases i with
      | zero =>
          cases hw
          cases hv
          exact ⟨rfl, rfl⟩
      | succ i =>
          rw [List.getElem?_cons_succ, List.getElem?_map] at hw
          obtain ⟨c, -, rfl⟩ := Option.map_eq_some_iff.mp hw
          cases hv
  exact hwaits.run hrefunds

end Runs

namespace Sample

/-- The bank details of the artist and the intent of a client; nothing has been paid yet. -/
def withDetails : Store := { Store.empty 0 10 [intent] with artistPayoutMethods := [method] }

def raceCalls : List ServiceCall :=
  [.capture payment 100, .refund input, .escrow (.release 11 {}), .tick 604800000]

/-- A refund has looked at the hold, the hold is released, and a week passes. -/
def released : List (Turn GatewayReply Failure) :=
  [⟨1, .act⟩, ⟨2, .act⟩, ⟨2, .act⟩, ⟨3, .act⟩, ⟨4, .act⟩]

/-- The tick reads its batch, the row of the refund is inserted, and the tick claims the payout. -/
def race : List (Turn GatewayReply Failure) :=
  released ++ [⟨0, .act⟩, ⟨2, .act⟩, ⟨0, .act⟩, ⟨0, .act⟩, ⟨0, .act⟩]

/-- A tick with a batch of one claims the payout and has it paid. -/
def claimsAndPays : List (Turn GatewayReply Failure) :=
  [⟨0, .act⟩, ⟨0, .act⟩, ⟨0, .act⟩, ⟨0, .answer paysArtist⟩, ⟨0, .act⟩, ⟨0, .act⟩]

end Sample

/-- A refund that starts after the batch was read does not stop the payment. -/
theorem paid_while_refunding :
    ¬∀ (system : SystemConfig) (config : PayoutsConfig) (s : Store), s.PayoutKeys →
      ∀ (calls : List ServiceCall) (ts : List (Turn GatewayReply Failure)),
        Transition.Along (Pool.step next) Guarded (racePool system config s calls) ts := by
  intro h
  have hkeys : Sample.withDetails.PayoutKeys :=
    ⟨List.nodup_nil, fun _ hp ↦ absurd hp List.not_mem_nil⟩
  have hlast := (h Sample.config Sample.payouts Sample.withDetails hkeys Sample.raceCalls
    (Sample.race ++ [⟨0, .answer Sample.paysArtist⟩])).last
  have hrefunding : (Pool.run next (racePool Sample.config Sample.payouts Sample.withDetails
      Sample.raceCalls) Sample.race).store.refundOfPayout 16 = true := by decide
  rw [hlast 16 0 _ Sample.paysArtist rfl rfl] at hrefunding
  cases hrefunding

/-- The same refund, whose row is inserted once the payout has been paid. -/
theorem no_payment_while_refunding_sample :
    Transition.Along (Pool.step next) Guarded
      (racePool Sample.config Sample.payouts Sample.withDetails Sample.raceCalls)
      (Sample.released ++ ⟨0, .act⟩ :: (Sample.claimsAndPays ++ [⟨2, .act⟩])) := by
  refine no_payment_while_refunding Sample.config Sample.payouts ?_ _ ?_
  · exact ⟨List.nodup_nil, fun _ hp ↦ absurd hp List.not_mem_nil⟩
  · refine .of_pick (by decide) ?_
    unfold NoRefundStarts
    exact ⟨by decide, by decide, by decide, by decide, by decide, by decide, by decide, trivial⟩

end GearshPayments
