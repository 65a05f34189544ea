import GearshPayments.Payouts.Writes
import GearshPayments.Resumption.Monitor

/-!
# What the jobs and the admin do to one payout

Seen from one payout, each of the four parties that write payouts is at a stage
(`PayoutStage`): it has the payout in its batch, it has claimed it, it has been told that
the gateway paid, or it is not concerned with it.  `PayoutMove` lists how a party at a
stage changes the state of the payout, and every program of theirs conforms to it.
-/

namespace GearshPayments

open Resumption

/-! ## The state of a payout -/

namespace Store

def payoutState (s : Store) (id : ℕ) : Option PayoutState := (s.payout? id).map Payout.state

/-- The artist has bank details that an admin verified. -/
def hasVerifiedMethod (s : Store) (artistId : ℕ) : Bool :=
  (s.methodOf? artistId).any ArtistPayoutMethod.isVerified

/-- A refund of the payout's hold is in progress. -/
def refundOfPayout (s : Store) (id : ℕ) : Bool :=
  (s.payout? id).any fun p ↦ s.refundInProgress p.holdId

/-- Payouts are told apart by their ids; the payout is of an artist in `A`, and `V` is what
may be found of the bank details of such an artist. -/
structure PayoutOf (id : ℕ) (A : ℕ → Prop) (V : Bool → Prop) (s : Store) : Prop where
  distinct : (s.payouts.map Payout.id).Nodup
  artist : ∀ p ∈ s.payouts, p.id = id → A p.artistId
  verified : ∀ artistId, A artistId → V (s.hasVerifiedMethod artistId)

end Store

/-- An update of rows whose id is given is an update of the row with that id. -/
theorem Tx.updateMany_eq_update (k : ℕ) (q : Payout → Prop) [DecidablePred q]
    (f : Payout → Payout) (ps : List Payout) :
    (ps.map fun r ↦ if decide (r.id = k ∧ q r) = true then f r else r) =
      Table.update Payout.id k (fun r ↦ if q r then f r else r) ps := by
  refine List.map_congr_left fun r _ ↦ ?_
  by_cases hk : r.id = k
  · by_cases hq : q r
    · simp [hk, hq]
    · simp [hk, hq]
  · simp [hk]

namespace PayoutWrite

variable {s s' : Store} {id : ℕ} {A : ℕ → Prop} {V : Bool → Prop}

/-- A lookup of a payout finds the same row, written. -/
theorem payout? (h : PayoutWrite s s') :
    ∃ f : Payout → Payout, (∀ p : Payout, p.SameTerms (f p)) ∧
      ∀ id, s'.payout? id = (s.payout? id).map f := by
  obtain ⟨f, hf, hp⟩ := h.payouts
  refine ⟨f, hf, fun id ↦ ?_⟩
  rw [Store.payout?, Store.payout?, hp]
  exact Table.find_map (fun p ↦ (hf p).id) id s.payouts

theorem methodOf? (h : PayoutWrite s s') :
    ∃ f : ArtistPayoutMethod → ArtistPayoutMethod, (∀ m : ArtistPayoutMethod, m.SameDetails (f m)) ∧
      ∀ artistId, s'.methodOf? artistId = (s.methodOf? artistId).map f := by
  obtain ⟨f, hf, hm⟩ := h.methods
  refine ⟨f, hf, fun artistId ↦ ?_⟩
  rw [Store.methodOf?, Store.methodOf?, hm]
  exact Table.find_map (fun m ↦ (hf m).artistUserId) artistId s.artistPayoutMethods

theorem hasVerifiedMethod (h : PayoutWrite s s') (artistId : ℕ) :
    s'.hasVerifiedMethod artistId = s.hasVerifiedMethod artistId := by
  obtain ⟨f, hf, hm⟩ := h.methodOf?
  rw [Store.hasVerifiedMethod, Store.hasVerifiedMethod, hm, Option.any_map]
  refine congrArg (fun p ↦ Option.any p _) ?_
  funext m
  exact (hf m).isVerified

theorem refundOfPayout (h : PayoutWrite s s') (id : ℕ) :
    s'.refundOfPayout id = s.refundOfPayout id := by
  obtain ⟨f, hf, hp⟩ := h.payout?
  rw [Store.refundOfPayout, Store.refundOfPayout, hp, Option.any_map]
  refine congrArg (fun p ↦ Option.any p _) ?_
  funext p
  rw [(hf p).holdId, h.refundInProgress]

theorem payoutOf (h : PayoutWrite s s') (hs : s.PayoutOf id A V) :
    s'.PayoutOf id A V := by
  obtain ⟨f, hf, hp⟩ := h.payouts
  constructor
  · have hids : s'.payouts.map Payout.id = s.payouts.map Payout.id := by
      rw [hp, List.map_map]
      exact List.map_congr_left fun p _ ↦ (hf p).id
    rw [hids]
    exact hs.distinct
  · rw [hp]
    intro p hm hpid
    obtain ⟨x, hx, rfl⟩ := List.mem_map.mp hm
    rw [(hf x).artistId]
    exact hs.artist x hx ((hf x).id.symm.trans hpid)
  · intro artistId ha
    rw [h.hasVerifiedMethod]
    exact hs.verified artistId ha

end PayoutWrite

theorem Store.payoutState_update {s s' : Store} {id k : ℕ} {f : Payout → Payout}
    {g : PayoutState → PayoutState} (hp : s'.payouts = Table.update Payout.id k f s.payouts)
    (hid : ∀ p, (f p).id = p.id) (hst : ∀ p, (f p).state = g p.state) :
    s'.payoutState id = if id = k then (s.payoutState id).map g else s.payoutState id := by
  rw [payoutState, payout?, hp, Table.find_update hid]
  split
  · rw [payoutState, payout?, Option.map_map, Option.map_map]
    refine congrArg (fun h ↦ Option.map h _) ?_
    funext p
    exact hst p
  · rfl

/-! ## Stages and moves -/

/-- Where a party stands with the payout. -/
inductive PayoutStage where
  | idle
  /-- A dispatcher that has the payout in its batch. -/
  | picked
  /-- It has claimed the payout and may ask the gateway for it. -/
  | claimed
  /-- The gateway has answered that it paid. -/
  | paid
  /-- An admin is about to requeue the payout. -/
  | retrying
  /-- An admin is about to cancel it. -/
  | cancelling
  /-- An admin has cancelled it or found it cancelled. -/
  | cancelled
deriving DecidableEq

/-- The stages of a dispatcher that has the payout in its batch. -/
def PayoutStage.Dispatches (v : PayoutStage) : Prop := v = .picked ∨ v = .claimed ∨ v = .paid

/-- How a party at a stage moves the payout from state to state, and to which stage. -/
inductive PayoutMove (V : Bool → Prop) :
    PayoutStage → Option PayoutState → Option PayoutState → PayoutStage → Prop
  | stay (v : PayoutStage) (q : Option PayoutState) : PayoutMove V v q q v
  | pick : PayoutMove V .idle (some .queued) (some .queued) .picked
  /-- The dispatcher is done with the payout. -/
  | leave {v : PayoutStage} (hv : v.Dispatches) (q : Option PayoutState) :
    PayoutMove V v q q .picked
  | claim (hb : V true) :
    PayoutMove V .picked (some .queued) (some .processing) .claimed
  /-- The artist has no verified bank details. -/
  | refuse (hb : V false) {q : PayoutState} (hq : q = .queued ∨ q = .processing) :
    PayoutMove V .picked (some q) (some .failed) .picked
  | fail {q : PayoutState} (hq : q = .queued ∨ q = .processing) :
    PayoutMove V .claimed (some q) (some .failed) .picked
  | succeed (q : PayoutState) : PayoutMove V .paid (some q) (some .succeeded) .picked
  /-- The retry job requeues the payout. -/
  | requeue : PayoutMove V .idle (some .failed) (some .queued) .idle
  | retry (q : PayoutState) : PayoutMove V .retrying (some q) (some .queued) .idle
  | cancel (q : PayoutState) : PayoutMove V .cancelling (some q) (some .cancelled) .cancelled
  | alreadyCancelled :
    PayoutMove V .cancelling (some .cancelled) (some .cancelled) .cancelled

/-- A step of a party at the stage `v`, seen from the payout.  A payout is picked while no
refund of its hold is in progress. -/
structure PayoutStep (id : ℕ) (V : Bool → Prop) (v : PayoutStage) (s s' : Store)
    (v' : PayoutStage) : Prop where
  write : PayoutWrite s s'
  picked : v = .idle → v' = .picked → s.refundOfPayout id = false
  move : PayoutMove V v (s.payoutState id) (s'.payoutState id) v'

/-- The reference under which the gateway is asked for a payout. -/
def payoutReference (id : ℕ) : String := s!"payout-{id}"

/-- The decimal numeral determines the number. -/
theorem repr_inj {i j : ℕ} (h : Nat.repr i = Nat.repr j) : i = j := by
  have hdigits := congrArg String.toList h
  rw [Nat.toList_repr, Nat.toList_repr] at hdigits
  have hvalue := congrArg (fun cs ↦ Nat.ofDigitChars 10 cs 0) hdigits
  simpa using hvalue

theorem payoutReference_inj {i j : ℕ} (h : payoutReference i = payoutReference j) : i = j := by
  have happend : "payout-" ++ Nat.repr i = "payout-" ++ Nat.repr j := h
  exact repr_inj (by simpa using happend)

/-- The gateway's answer is that it paid. -/
def GatewayReply.paid (reply : GatewayReply) : Bool :=
  match PayFastClient.classifyAdhoc reply with
  | .ok _ => true
  | .failed .. => false

/-- The gateway was asked for the payout and answered that it paid. -/
def paysFor (id : ℕ) : GatewayRequest × GatewayReply → Bool
  | (.adhocPayment input, reply) => input.reference = payoutReference id ∧ reply.paid = true
  | (.refund _, _) => false

/-- The monitor of one payout. -/
def payoutMonitor (id : ℕ) (A : ℕ → Prop) (V : Bool → Prop) :
    Monitor Store GatewayRequest GatewayReply PayoutStage where
  Knows _ s := s.PayoutOf id A V
  Writes := PayoutStep id V
  Asks v q a v' := ∃ input, q = .adhocPayment input ∧
    ((input.reference ≠ payoutReference id ∧ v' = v) ∨
      (input.reference = payoutReference id ∧ v = .claimed ∧
        v' = if a.paid then .paid else .claimed))

/-! ## The programs conform -/

section Conforms

variable {id : ℕ} {A : ℕ → Prop} {V : Bool → Prop} {b v v' : PayoutStage} {s s' : Store}

theorem writes_stay (v : PayoutStage) (s : Store) : PayoutStep id V v s s v where
  write := .refl s
  picked := fun h h' ↦ (by cases h.symm.trans h')
  move := .stay v _

/-- An update of one payout: a move of the payout, or of another one. -/
theorem writes_update {k : ℕ} {f : Payout → Payout} {g : PayoutState → PayoutState}
    (hw : PayoutWrite s s') (hp : s'.payouts = Table.update Payout.id k f s.payouts)
    (hid : ∀ p, (f p).id = p.id) (hst : ∀ p, (f p).state = g p.state)
    (hpick : v = .idle → v' ≠ .picked)
    (hself : k = id → PayoutMove V v (s.payoutState id) ((s.payoutState id).map g) v')
    (hother : k ≠ id → PayoutMove V v (s.payoutState id) (s.payoutState id) v') :
    PayoutStep id V v s s' v' where
  write := hw
  picked := fun h h' ↦ absurd h' (hpick h)
  move := by
    rw [Store.payoutState_update hp hid hst]
    by_cases hk : id = k
    · rw [if_pos hk]
      exact hself hk.symm
    · rw [if_neg hk]
      exact hother (Ne.symm hk)

/-- A dispatcher that rests at `b`, idle or with the payout in its batch, while it works. -/
def PayoutStage.Near (b v : PayoutStage) : Prop := v = b ∨ (b = .picked ∧ v.Dispatches)

theorem PayoutStage.Near.refl (b : PayoutStage) : b.Near b := .inl rfl

theorem PayoutStage.Near.ne_picked (h : b.Near v) (hv : v = .idle) : b ≠ .picked := by
  rcases h with rfl | ⟨-, h⟩
  · rw [hv]
    exact fun h ↦ by cases h
  · subst hv
    rcases h with h | h | h <;> cases h

/-- It goes back to rest. -/
theorem writes_leave (hv : b.Near v) (s : Store) :
    PayoutStep id V v s s b := by
  rcases hv with rfl | ⟨rfl, hv⟩
  · exact writes_stay v s
  · refine ⟨.refl s, fun h ↦ ?_, .leave hv _⟩
    subst h
    rcases hv with h | h | h <;> cases h

/-- The stage of a dispatcher that rests at `b` and is at `v` with a payout, seen from the
payout `id`. -/
def stageAt (id : ℕ) (payout : Payout) (b v : PayoutStage) : PayoutStage :=
  if payout.id = id then v else b

theorem stageAt_near {payout : Payout} (hown : payout.id = id → b = .picked) (hv : v.Dispatches) :
    b.Near (stageAt id payout b v) := by
  unfold stageAt
  split
  case isTrue hid => exact .inr ⟨hown hid, hv⟩
  case isFalse => exact .inl rfl

/-- The update that `persistFailure` makes of a state. -/
def failState (q : PayoutState) : PayoutState :=
  if q = .queued ∨ q = .processing then .failed else q

/-- A failure is recorded by a party that has claimed the payout, or that has found no
verified bank details. -/
theorem conforms_persistFailure {payout : Payout} (reason : String)
    (hown : payout.id = id → b = .picked)
    (hv : v = .claimed ∨ (v = .picked ∧ (payout.id = id → V false))) :
    Conforms (payoutMonitor id A V)
      (PayoutDispatcherJob.persistFailure payout reason) (stageAt id payout b v)
      fun v' _ ↦ b.Near v' := by
  have hdispatches : v.Dispatches := by
    rcases hv with rfl | ⟨rfl, -⟩
    · exact .inr (.inl rfl)
    · exact .inl rfl
  have hnear := stageAt_near hown hdispatches
  refine .read_bind (writes_stay _) (fun s₀ _ ↦ ?_) fun _ ↦ hnear
  refine .transaction (writes_stay _) (fun s a s' hs h ↦ ?_) fun _ ↦ hnear
  have hw := payoutWrite_failure h
  cases h
  refine ⟨b, ?_, .refl b⟩
  have hpayouts := Tx.updateMany_eq_update payout.id
    (fun p ↦ p.state = .queued ∨ p.state = .processing)
    (PayoutDispatcherJob.failRow reason s₀.clock) s.payouts
  refine writes_update (g := failState) hw hpayouts ?_ ?_ hnear.ne_picked (fun hk ↦ ?_) fun hk ↦ ?_
  · intro p
    split <;> rfl
  · intro p
    unfold failState
    split <;> rfl
  · -- the guard lets through a payout that is queued or in progress
    rw [stageAt, if_pos hk, hown hk]
    cases hq : s.payoutState id with
    | none => exact .leave hdispatches _
    | some q =>
        by_cases hopen : q = .queued ∨ q = .processing
        · rw [Option.map_some, failState, if_pos hopen]
          rcases hv with rfl | ⟨rfl, hno⟩
          · exact .fail hopen
          · exact .refuse (hno hk) hopen
        · rw [Option.map_some, failState, if_neg hopen]
          exact .leave hdispatches _
  · rw [stageAt, if_neg hk]
    exact .stay b _

/-- A success is recorded by a party that was told of it. -/
theorem conforms_persistSuccess {payout : Payout} (gatewayPayoutId : String) (methodId : ℕ)
    (hown : payout.id = id → b = .picked) :
    Conforms (payoutMonitor id A V)
      (PayoutDispatcherJob.persistSuccess payout gatewayPayoutId methodId)
      (stageAt id payout b .paid) fun v' _ ↦ b.Near v' := by
  have hnear := stageAt_near hown (v := .paid) (.inr (.inr rfl))
  refine .read_bind (writes_stay _) (fun s₀ _ ↦ ?_) fun _ ↦ hnear
  refine .transaction (writes_stay _) (fun s a s' hs h ↦ ?_) fun _ ↦ hnear
  refine ⟨b, ?_, .refl b⟩
  have hw := payoutWrite_success h
  obtain ⟨row, method, hrow, hmethod, rfl⟩ := PayoutDispatcherJob.of_writeSuccess_ok h
  refine writes_update (g := fun _ ↦ .succeeded) hw rfl (fun _ ↦ rfl) (fun _ ↦ rfl)
    hnear.ne_picked (fun hk ↦ ?_) fun hk ↦ ?_
  · rw [stageAt, if_pos hk, hown hk, ← hk, Store.payoutState, hrow]
    exact .succeed row.state
  · rw [stageAt, if_neg hk]
    exact .stay b _

/-- What an answer makes of a party that asked. -/
def PayFastAdhocPaymentResult.stage : PayFastAdhocPaymentResult → PayoutStage
  | .ok _ => .paid
  | .failed .. => .claimed

/-- A request for a payout is one for `id`, by a party that has claimed it, or none of its
business. -/
theorem asks_paymentInput (payout : Payout) (method : ArtistPayoutMethod) (accountNumber : String)
    (b : PayoutStage) (reply : GatewayReply) :
    (payoutMonitor id A V).Asks (stageAt id payout b .claimed)
      (.adhocPayment (PayoutDispatcherJob.paymentInput payout method accountNumber)) reply
      (stageAt id payout b (PayFastClient.classifyAdhoc reply).stage) := by
  refine ⟨_, rfl, ?_⟩
  have href : (PayoutDispatcherJob.paymentInput payout method accountNumber).reference =
      payoutReference payout.id := rfl
  rw [href]
  by_cases hid : payout.id = id
  · refine .inr ⟨by rw [hid], if_pos hid, ?_⟩
    rw [stageAt, if_pos hid, GatewayReply.paid]
    cases PayFastClient.classifyAdhoc reply <;> rfl
  · refine .inl ⟨fun h ↦ hid (payoutReference_inj h), ?_⟩
    rw [stageAt, stageAt, if_neg hid, if_neg hid]

/-- A dispatcher with an answer about a payout. -/
def Answered (id : ℕ) (payout : Payout) (b : PayoutStage) (v : PayoutStage)
    (r : Except Failure PayFastAdhocPaymentResult) : Prop :=
  ∃ a, r = .ok a ∧ v = stageAt id payout b a.stage

theorem conforms_adhocPayment (config : AdhocConfig) (payout : Payout)
    (method : ArtistPayoutMethod) (accountNumber : String) (b : PayoutStage) :
    Conforms (payoutMonitor id A V)
      (PayFastClient.adhocPayment config
        (PayoutDispatcherJob.paymentInput payout method accountNumber))
      (stageAt id payout b .claimed) (Answered id payout b) := by
  unfold PayFastClient.adhocPayment
  split
  · exact ⟨_, rfl, rfl⟩
  · split
    · exact ⟨_, rfl, rfl⟩
    · exact fun reply ↦ ⟨_, asks_paymentInput payout method accountNumber b reply, _, rfl, rfl⟩

/-- The loop ends as the last attempt did. -/
theorem conforms_attemptPayment (config : AdhocConfig) (payout : Payout)
    (method : ArtistPayoutMethod) (accountNumber : String) (b : PayoutStage) (attempts : ℕ)
    {lastFailure : Option PayFastAdhocPaymentResult}
    (hlast : ∀ payoutId, lastFailure ≠ some (.ok payoutId)) :
    Conforms (payoutMonitor id A V)
      (PayoutDispatcherJob.attemptPayment config
        (PayoutDispatcherJob.paymentInput payout method accountNumber) attempts lastFailure)
      (stageAt id payout b .claimed) (Answered id payout b) := by
  induction attempts generalizing lastFailure with
  | zero =>
      cases lastFailure with
      | none => exact ⟨_, rfl, rfl⟩
      | some result =>
          cases result with
          | ok payoutId => exact absurd rfl (hlast payoutId)
          | failed retriable status reason => exact ⟨_, rfl, rfl⟩
  | succ attempts ih =>
      refine (conforms_adhocPayment config payout method accountNumber b).bind ?_ ?_
      · rintro v' a ⟨c, hc, rfl⟩
        cases hc
        cases a with
        | ok payoutId => exact ⟨_, rfl, rfl⟩
        | failed retriable status reason =>
            cases retriable with
            | true => exact ih fun payoutId h ↦ by cases h
            | false => exact ⟨_, rfl, rfl⟩
      · rintro v' e ⟨c, hc, -⟩
        cases hc

theorem conforms_payClaimed (config : PayoutsConfig) (payout : Payout)
    (method : ArtistPayoutMethod) (hown : payout.id = id → b = .picked) :
    Conforms (payoutMonitor id A V)
      (PayoutDispatcherJob.payClaimed config payout method) (stageAt id payout b .claimed)
      fun v' _ ↦ b.Near v' := by
  have hclaimed := stageAt_near hown (v := .claimed) (.inr (.inl rfl))
  refine .read_bind (writes_stay _) (fun s _ ↦ ?_) fun _ ↦ hclaimed
  refine .ofExcept_bind (fun accountNumber _ ↦ ?_) fun _ ↦ hclaimed
  refine (conforms_attemptPayment config.payfast payout method accountNumber b _
    (fun _ h ↦ by cases h)).bind ?_ ?_
  · rintro v' a ⟨c, hc, rfl⟩
    cases hc
    cases a with
    | ok payoutId =>
        refine (conforms_persistSuccess payoutId method.id hown).bind ?_ ?_
        · exact fun _ _ h ↦ h
        · exact fun _ _ h ↦ h
    | failed retriable status reason =>
        refine (conforms_persistFailure reason hown (.inl rfl)).bind ?_ ?_
        · exact fun _ _ h ↦ h
        · exact fun _ _ h ↦ h
  · rintro v' e ⟨c, hc, -⟩
    cases hc

/-- The update that `claim` makes of a state. -/
def claimState (q : PayoutState) : PayoutState := if q = .queued then .processing else q

/-- A claim that found rows found the payout queued. -/
theorem Store.PayoutOf.queued_of_claimed (h : s.PayoutOf id A V) {k : ℕ}
    (hcount : (s.payouts.filter fun p ↦ p.id = k ∧ p.state = .queued).length ≠ 0) :
    s.payoutState k = some .queued := by
  obtain ⟨p, hp⟩ := List.exists_mem_of_length_pos (Nat.pos_of_ne_zero hcount)
  obtain ⟨hmem, hp⟩ := List.mem_filter.mp hp
  obtain ⟨rfl, hst⟩ := of_decide_eq_true hp
  rw [Store.payoutState, Store.payout?, (Table.find_eq_some_iff h.distinct).mpr hmem,
    Option.map_some, hst]

/-- A payout that is claimed was queued, and its artist's bank details are verified. -/
theorem conforms_claim {payout : Payout} (hown : payout.id = id → b = .picked)
    (hb : payout.id = id → V true) :
    Conforms (payoutMonitor id A V)
      (transaction (PayoutDispatcherJob.claim payout) : Engine ℕ) b
      fun v' r ↦ b.Near v' ∧ ∀ count, r = .ok count → count ≠ 0 →
        v' = stageAt id payout b .claimed := by
  refine .transaction (writes_stay _) (fun s count s' hs h ↦ ?_)
    fun e ↦ ⟨.refl b, fun _ h ↦ by cases h⟩
  have hw := payoutWrite_claim h
  cases h
  have hpayouts := Tx.updateMany_eq_update payout.id (fun p ↦ p.state = .queued)
    (fun p ↦ { p with state := .processing, attemptedAt := some s.clock }) s.payouts
  have hid : ∀ p : Payout, (if p.state = .queued then
      { p with state := .processing, attemptedAt := some s.clock } else p).id = p.id := by
    intro p
    split <;> rfl
  have hst : ∀ p : Payout, (if p.state = .queued then
      { p with state := .processing, attemptedAt := some s.clock } else p).state =
        claimState p.state := by
    intro p
    unfold claimState
    split <;> rfl
  by_cases hq : s.payoutState payout.id = some .queued
  · refine ⟨stageAt id payout b .claimed, ?_, stageAt_near hown (.inr (.inl rfl)), fun _ _ _ ↦ rfl⟩
    refine writes_update hw hpayouts hid hst ?_ (fun hk ↦ ?_) fun hk ↦ ?_
    · intro hidle h
      unfold stageAt at h
      split at h
      · cases h
      · cases hidle.symm.trans h
    · rw [stageAt, if_pos hk, hown hk, ← hk, hq]
      exact .claim (hb hk)
    · rw [stageAt, if_neg hk]
      exact .stay _ _
  · refine ⟨b, ?_, .refl b, fun count hc hne ↦ ?_⟩
    · refine writes_update hw hpayouts hid hst (fun hidle h ↦ ?_) (fun hk ↦ ?_) fun _ ↦ .stay _ _
      · cases hidle.symm.trans h
      · subst hk
        have hsame : (s.payoutState payout.id).map claimState = s.payoutState payout.id := by
          cases hs : s.payoutState payout.id with
          | none => rfl
          | some q => exact congrArg some (if_neg fun h ↦ hq (by rw [hs, h]))
        rw [hsame]
        exact .stay _ _
    · cases hc
      exact absurd (hs.queued_of_claimed hne) hq

/-- A dispatcher that is at `b` unless it has the payout in hand. -/
theorem conforms_dispatchOne (config : PayoutsConfig) {payout : Payout}
    (hart : payout.id = id → A payout.artistId) (hown : payout.id = id → b = .picked)
    (hv : b.Near v) :
    Conforms (payoutMonitor id A V)
      (PayoutDispatcherJob.dispatchOne config payout) v fun v' _ ↦ b.Near v' := by
  -- whatever became of the payout before this one, it is at rest now
  refine .read_bind_to (fun s hs ↦ ⟨b, writes_leave hv s, ?_⟩) fun _ ↦ hv
  have hverified : payout.id = id →
      V ((s.methodOf? payout.artistId).any ArtistPayoutMethod.isVerified) :=
    fun hid ↦ hs.verified _ (hart hid)
  have hstage : stageAt id payout b .picked = b := by
    unfold stageAt
    split
    case isTrue hid => exact (hown hid).symm
    case isFalse => rfl
  have hrefuse : ∀ reason, (payout.id = id → V false) →
      Conforms (payoutMonitor id A V)
        (PayoutDispatcherJob.persistFailure payout reason) b fun v' _ ↦ b.Near v' := by
    intro reason hno
    rw [← hstage]
    conv => arg 4; rw [hstage]
    exact conforms_persistFailure reason hown (.inr ⟨rfl, hno⟩)
  cases hm : s.methodOf? payout.artistId with
  | none =>
      rw [hm] at hverified
      refine (hrefuse _ hverified).bind ?_ ?_
      · exact fun _ _ h ↦ h
      · exact fun _ _ h ↦ h
  | some method =>
      rw [hm] at hverified
      dsimp only
      split
      case isTrue hno =>
        refine (hrefuse _ fun hid ↦ hno ▸ hverified hid).bind ?_ ?_
        · exact fun _ _ h ↦ h
        · exact fun _ _ h ↦ h
      case isFalse hyes =>
        have hb : payout.id = id → V true := by
          intro hid
          rw [← Bool.of_not_eq_false hyes]
          exact hverified hid
        refine (conforms_claim hown hb).bind ?_ fun _ _ h ↦ h.1
        rintro v' count ⟨hv', hclaimed⟩
        by_cases hc : count = 0
        · rw [if_pos hc]
          exact hv'
        · rw [if_neg hc, hclaimed count rfl hc]
          exact conforms_payClaimed config payout method hown

theorem conforms_dispatchAll (config : PayoutsConfig) {payouts : List Payout}
    (hart : ∀ p ∈ payouts, p.id = id → A p.artistId)
    (hown : ∀ p ∈ payouts, p.id = id → b = .picked) (hv : b.Near v) (result : DispatchTickResult) :
    Conforms (payoutMonitor id A V)
      (PayoutDispatcherJob.dispatchAll config payouts result) v fun v' _ ↦ b.Near v' := by
  induction payouts generalizing v result with
  | nil => exact hv
  | cons payout payouts ih =>
      have hone : Conforms (payoutMonitor id A V)
          (some <$> PayoutDispatcherJob.dispatchOne config payout) v fun v' _ ↦ b.Near v' :=
        .map (conforms_dispatchOne config (hart payout (List.mem_cons_self ..))
          (hown payout (List.mem_cons_self ..)) hv)
      have hcaught : Conforms (payoutMonitor id A V)
          (tryCatchThe Failure (some <$> PayoutDispatcherJob.dispatchOne config payout)
            fun _ ↦ return none) v fun v' _ ↦ b.Near v' :=
        hone.tryCatch (fun _ _ h ↦ h) fun _ _ h ↦ h
      refine hcaught.bind ?_ fun _ _ h ↦ h
      intro v' outcome hv'
      exact ih (fun p hp ↦ hart p (List.mem_cons_of_mem _ hp))
        (fun p hp ↦ hown p (List.mem_cons_of_mem _ hp)) hv' _

theorem mem_of_mem_pickCandidates {limit : ℕ} {p : Payout}
    (h : p ∈ PayoutDispatcherJob.pickCandidates limit s) :
    p ∈ s.payouts ∧ PayoutDispatcherJob.due s p = true := by
  have hsorted := List.mem_of_mem_take h
  rw [List.mem_insertionSort] at hsorted
  exact List.mem_filter.mp hsorted

/-- A payout in a batch was queued, and no refund of its hold was in progress. -/
theorem writes_pick (hs : s.PayoutOf id A V) {p : Payout} {limit : ℕ}
    (hp : p ∈ PayoutDispatcherJob.pickCandidates limit s) (hid : p.id = id) :
    PayoutStep id V .idle s s .picked := by
  subst hid
  obtain ⟨hmem, hdue⟩ := mem_of_mem_pickCandidates hp
  obtain ⟨hqueued, -, hguard⟩ := of_decide_eq_true hdue
  have hfind : s.payout? p.id = some p := (Table.find_eq_some_iff hs.distinct).mpr hmem
  refine ⟨.refl s, fun _ _ ↦ ?_, ?_⟩
  · rw [Store.refundOfPayout, hfind]
    exact hguard
  · rw [Store.payoutState, hfind, Option.map_some, hqueued]
    exact .pick

/-- A tick ends at rest. -/
theorem conforms_dispatch (config : PayoutsConfig) :
    Conforms (payoutMonitor id A V) (PayoutDispatcherJob.cron config) .idle
      fun v' _ ↦ v' = .idle ∨ v'.Dispatches := by
  unfold PayoutDispatcherJob.cron
  split
  · exact .inl rfl
  · split
    · exact .inl rfl
    · refine .read_bind_to (fun s hs ↦ ?_) fun _ ↦ .inl rfl
      have hart : ∀ p ∈ PayoutDispatcherJob.pickCandidates config.dispatchBatchSize s,
          p.id = id → A p.artistId :=
        fun p hp ↦ hs.artist p (mem_of_mem_pickCandidates hp).1
      have hrest : ∀ {b v' : PayoutStage} {r : Except Failure DispatchTickResult},
          b = .idle ∨ b = .picked → b.Near v' → v' = .idle ∨ v'.Dispatches := by
        rintro b v' r hb (rfl | ⟨-, h⟩)
        · exact hb.imp_right .inl
        · exact .inr h
      by_cases hin : ∃ p ∈ PayoutDispatcherJob.pickCandidates config.dispatchBatchSize s, p.id = id
      · obtain ⟨p, hp, hid⟩ := hin
        refine ⟨.picked, writes_pick hs hp hid, ?_⟩
        exact (conforms_dispatchAll config hart (fun _ _ _ ↦ rfl) (.refl _) _).mono
          fun _ r h ↦ hrest (r := r) (.inr rfl) h
      · refine ⟨.idle, writes_stay _ _, ?_⟩
        exact (conforms_dispatchAll config hart (fun p hp hid ↦ absurd ⟨p, hp, hid⟩ hin)
          (.refl _) _).mono fun _ r h ↦ hrest (r := r) (.inl rfl) h

/-- The update that `requeue` makes of a state. -/
def requeueState (q : PayoutState) : PayoutState := if q = .failed then .queued else q

theorem conforms_requeue (row : Payout) :
    Conforms (payoutMonitor id A V)
      (transaction (PayoutRetryJob.requeue row) : Engine ℕ) .idle fun v' _ ↦ v' = .idle := by
  refine .transaction (writes_stay _) (fun s count s' hs h ↦ ⟨.idle, ?_, rfl⟩) fun _ ↦ rfl
  have hw := payoutWrite_requeue h
  cases h
  have hpayouts := Tx.updateMany_eq_update row.id (fun p ↦ p.state = .failed)
    Payout.requeue s.payouts
  refine writes_update (g := requeueState) hw hpayouts ?_ ?_ (fun _ h ↦ by cases h) (fun _ ↦ ?_)
    fun _ ↦ .stay _ _
  · intro p
    split <;> rfl
  · intro p
    unfold requeueState
    split <;> rfl
  · cases hq : s.payoutState id with
    | none => exact .stay _ _
    | some q =>
        rw [Option.map_some, requeueState]
        split
        case isTrue hfailed =>
          rw [hfailed]
          exact .requeue
        case isFalse => exact .stay _ _

theorem conforms_requeueAll (now : ℕ) (rows : List Payout) (requeued : ℕ) :
    Conforms (payoutMonitor id A V) (PayoutRetryJob.requeueAll now rows requeued)
      .idle fun v' _ ↦ v' = .idle := by
  induction rows generalizing requeued with
  | nil => rfl
  | cons row rows ih =>
      unfold PayoutRetryJob.requeueAll
      split
      · exact ih requeued
      · split
        · exact ih requeued
        · refine (conforms_requeue row).bind ?_ fun _ _ h ↦ h
          rintro v' count rfl
          exact ih _

theorem conforms_retryFailed (config : PayoutsConfig) :
    Conforms (payoutMonitor id A V) (PayoutRetryJob.cron config) .idle
      fun v' _ ↦ v' = .idle := by
  unfold PayoutRetryJob.cron
  split
  · rfl
  · refine .read_bind (writes_stay _) (fun s _ ↦ ?_) fun _ ↦ rfl
    refine .read_bind (writes_stay _) (fun s' _ ↦ ?_) fun _ ↦ rfl
    exact conforms_requeueAll _ _ _

/-- An update by id alone, whatever the state of the row. -/
theorem writes_overwrite {k : ℕ} {f : Payout → Payout} {q : PayoutState}
    (hf : ∀ p : Payout, p.SameTerms (f p)) (hst : ∀ p, (f p).state = q) {row : Payout}
    (h : Tx.updatePayout k f s = .ok (row, s')) (hpick : v' ≠ .picked)
    (hself : k = id → ∀ r, PayoutMove V v (some r) (some q) v') (hother : k ≠ id → v' = v) :
    PayoutStep id V v s s' v' := by
  have hw := payoutWrite_update hf h
  cases hrow : s.payout? k with
  | none => simp [Tx.updatePayout, hrow] at h
  | some r =>
      rw [Tx.updatePayout_apply hrow] at h
      cases h
      refine writes_update (g := fun _ ↦ q) hw rfl (fun p ↦ (hf p).id) hst (fun _ ↦ hpick)
        (fun hk ↦ ?_) fun hk ↦ ?_
      · rw [← hk, Store.payoutState, hrow]
        exact hself hk r.state
      · rw [hother hk]
        exact .stay _ _

/-- The stage at which a retry of the payout `k` starts. -/
def retryStage (id k : ℕ) : PayoutStage := if k = id then .retrying else .idle

theorem conforms_retry (k : ℕ) :
    Conforms (payoutMonitor id A V) (PayoutsService.retry k) (retryStage id k)
      fun v' _ ↦ v' ≠ .cancelling := by
  have hstage : retryStage id k ≠ .cancelling := by
    unfold retryStage
    split
    · exact fun h ↦ by cases h
    · exact fun h ↦ by cases h
  refine .read_bind (writes_stay _) (fun s _ ↦ ?_) fun _ ↦ hstage
  split
  · exact hstage
  · split
    · exact hstage
    · split
      · exact hstage
      · refine .transaction (writes_stay _) (fun s row s' hs h ↦ ⟨.idle, ?_, fun h ↦ by cases h⟩)
          fun _ ↦ hstage
        refine writes_overwrite (q := .queued) Payout.sameTerms_requeue (fun _ ↦ rfl) h
          (fun h ↦ by cases h) (fun hk r ↦ ?_) fun hk ↦ ?_
        · rw [retryStage, if_pos hk]
          exact .retry r
        · rw [retryStage, if_neg hk]

/-- The stage at which a cancel of the payout `k` starts. -/
def cancelStage (id k : ℕ) : PayoutStage := if k = id then .cancelling else .idle

/-- A cancel returns only where it has cancelled the payout or found it cancelled. -/
theorem conforms_cancel (k : ℕ) (reason : Option String) :
    Conforms (payoutMonitor id A V) (PayoutsService.cancel k reason)
      (cancelStage id k) fun v' r ↦ v' = .cancelling → ∀ p, r ≠ .ok p := by
  refine .read_bind_to (fun s _ ↦ ?_) fun _ _ _ h ↦ by cases h
  cases hrow : s.payout? k with
  | none => exact ⟨_, writes_stay _ _, fun _ _ h ↦ by cases h⟩
  | some row =>
      dsimp only
      split
      case isTrue hcancelled =>
        by_cases hk : k = id
        · subst hk
          refine ⟨.cancelled, ⟨.refl s, fun _ h ↦ (by cases h), ?_⟩, fun h ↦ by cases h⟩
          rw [cancelStage, if_pos rfl, Store.payoutState, hrow, Option.map_some, hcancelled]
          exact .alreadyCancelled
        · refine ⟨_, writes_stay _ _, fun h ↦ ?_⟩
          rw [cancelStage, if_neg hk] at h
          cases h
      case isFalse =>
        refine ⟨_, writes_stay _ _, ?_⟩
        split
        · exact fun _ _ h ↦ by cases h
        · refine .transaction (writes_stay _) (fun s row s' hs h ↦ ?_) fun _ _ _ h ↦ by cases h
          rw [Tx.bind_ok (Tx.now_apply s)] at h
          refine ⟨if k = id then .cancelled else .idle, ?_, fun h ↦ ?_⟩
          · refine writes_overwrite (q := .cancelled) (Payout.sameTerms_cancel reason s.clock)
              (fun _ ↦ rfl) h ?_ (fun hk r ↦ ?_) fun hk ↦ ?_
            · split <;> exact fun h ↦ by cases h
            · rw [cancelStage, if_pos hk, if_pos hk]
              exact .cancel r
            · rw [cancelStage, if_neg hk, if_neg hk]
          · split at h <;> cases h

/-- The stage at which a call starts. -/
def PayoutCall.stage (id : ℕ) : PayoutCall → PayoutStage
  | .retry k => retryStage id k
  | .cancel k _ => cancelStage id k
  | _ => .idle

/-- A call that is about to cancel has not returned. -/
def Unfinished (v : PayoutStage) (r : Except Failure Unit) : Prop :=
  v = .cancelling → ∀ u, r ≠ .ok u

theorem PayoutCall.conforms (config : PayoutsConfig) (c : PayoutCall) :
    Conforms (payoutMonitor id A V) (c.program config) (c.stage id) Unfinished := by
  have hidle : ∀ r : Except Failure Unit, Unfinished .idle r := fun _ h ↦ by cases h
  cases c with
  | dispatch =>
      refine Conforms.discard (Conforms.mono (conforms_dispatch config) fun v r hv h ↦ ?_)
      subst h
      rcases hv with h | h | h | h <;> cases h
  | retryFailed =>
      refine Conforms.discard (Conforms.mono (conforms_retryFailed config) fun v r hv ↦ ?_)
      rw [hv]
      exact hidle _
  | retry k =>
      refine Conforms.discard (Conforms.mono (conforms_retry k) fun v r hv h ↦ ?_)
      exact absurd h hv
  | cancel k reason =>
      refine Conforms.discard (Conforms.mono (conforms_cancel k reason) fun v r hv h u hr ↦ ?_)
      cases r with
      | error e => cases hr
      | ok p => exact hv h p rfl
  | tick clock =>
      refine ⟨fun s _ ↦ ⟨.idle, ⟨payoutWrite_tick s clock, fun _ h ↦ (by cases h), ?_⟩, hidle _⟩,
        fun _ ↦ hidle _⟩
      exact .stay _ _

end Conforms

end GearshPayments
