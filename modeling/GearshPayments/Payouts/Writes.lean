import GearshPayments.Payouts.Dispatcher
import GearshPayments.Resumption.Questions

/-!
# What the programs of payouts write

Four parties write the rows of payouts: any number of dispatcher ticks, the retry job,
and the admin's retry and cancel.  They change states and dates, never the terms of a
payout, and of the rest of the store only when bank details were last used and the outbox
(`PayoutWrite`).  That nothing else is written is one traversal of the programs, for
whatever the writes guarantee (`PayoutRules.guarantees`).
-/

namespace GearshPayments

open Resumption

/-! ## The calls -/

/-- What happens to payouts that are there. -/
inductive PayoutCall where
  | dispatch
  | retryFailed
  | retry (id : ℕ)
  | cancel (id : ℕ) (reason : Option String)
  /-- Time passes. -/
  | tick (clock : ℕ)

def PayoutCall.program (config : PayoutsConfig) : PayoutCall → Engine Unit
  | .dispatch => discard <| PayoutDispatcherJob.cron config
  | .retryFailed => discard <| PayoutRetryJob.cron config
  | .retry id => discard <| PayoutsService.retry id
  | .cancel id reason => discard <| PayoutsService.cancel id reason
  | .tick clock => .atomic (fun s ↦ { s with clock }) fun _ ↦ .ret ()

abbrev EnginePool := Pool Store GatewayRequest GatewayReply (Engine Unit)

/-- Any number of calls over a store. -/
def PayoutCall.pool (config : PayoutsConfig) (s : Store) (calls : List PayoutCall) : EnginePool :=
  ⟨s, calls.map (·.program config), []⟩

/-! ## Writes -/

/-- The columns of a payout that nobody writes once it is queued. -/
structure Payout.SameTerms (p p' : Payout) : Prop where
  id : p'.id = p.id
  artistId : p'.artistId = p.artistId
  holdId : p'.holdId = p.holdId
  amountCents : p'.amountCents = p.amountCents
  currency : p'.currency = p.currency
  dispatchAfter : p'.dispatchAfter = p.dispatchAfter
  createdAt : p'.createdAt = p.createdAt

theorem Payout.SameTerms.refl (p : Payout) : p.SameTerms p := ⟨rfl, rfl, rfl, rfl, rfl, rfl, rfl⟩

theorem Payout.sameTerms_requeue (p : Payout) : p.SameTerms p.requeue :=
  ⟨rfl, rfl, rfl, rfl, rfl, rfl, rfl⟩

theorem Payout.sameTerms_cancel (reason : Option String) (now : ℕ) (p : Payout) :
    p.SameTerms (p.cancel reason now) := ⟨rfl, rfl, rfl, rfl, rfl, rfl, rfl⟩

/-- The columns of bank details that their use does not change. -/
structure ArtistPayoutMethod.SameDetails (m m' : ArtistPayoutMethod) : Prop where
  id : m'.id = m.id
  artistUserId : m'.artistUserId = m.artistUserId
  isVerified : m'.isVerified = m.isVerified
  accountNumberEncrypted : m'.accountNumberEncrypted = m.accountNumberEncrypted

theorem ArtistPayoutMethod.SameDetails.refl (m : ArtistPayoutMethod) : m.SameDetails m :=
  ⟨rfl, rfl, rfl, rfl⟩

/-- The programs of payouts may take the store from the first to the second. -/
structure PayoutWrite (s s' : Store) : Prop where
  payouts : ∃ f : Payout → Payout, (∀ p : Payout, p.SameTerms (f p)) ∧ s'.payouts = s.payouts.map f
  methods : ∃ f : ArtistPayoutMethod → ArtistPayoutMethod,
    (∀ m : ArtistPayoutMethod, m.SameDetails (f m)) ∧
    s'.artistPayoutMethods = s.artistPayoutMethods.map f
  nextId : s.nextId ≤ s'.nextId
  outbox : ∃ os, s'.outboxEvents = s.outboxEvents ++ os ∧
    ∀ o ∈ os, o.eventType = .escrowPayoutSucceeded ∨ o.eventType = .escrowPayoutFailed
  rest : s' =
    { s with
      clock := s'.clock
      nextId := s'.nextId
      payouts := s'.payouts
      outboxEvents := s'.outboxEvents
      artistPayoutMethods := s'.artistPayoutMethods }

namespace PayoutWrite

variable {s s' : Store}

theorem refl (s : Store) : PayoutWrite s s where
  payouts := ⟨id, Payout.SameTerms.refl, (List.map_id _).symm⟩
  methods := ⟨id, ArtistPayoutMethod.SameDetails.refl, (List.map_id _).symm⟩
  nextId := le_rfl
  outbox := ⟨[], (List.append_nil _).symm, fun _ h ↦ absurd h List.not_mem_nil⟩
  rest := rfl

/-- An `updateMany` of payouts. -/
theorem updateMany {p : Payout → Bool} {f : Payout → Payout}
    (hf : ∀ p : Payout, p.SameTerms (f p)) :
    PayoutWrite s { s with payouts := s.payouts.map fun r ↦ if p r then f r else r } where
  payouts := by
    refine ⟨fun r ↦ if p r then f r else r, fun r ↦ ?_, rfl⟩
    dsimp only
    split
    · exact hf r
    · exact .refl r
  methods := ⟨id, ArtistPayoutMethod.SameDetails.refl, (List.map_id _).symm⟩
  nextId := le_rfl
  outbox := ⟨[], (List.append_nil _).symm, fun _ h ↦ absurd h List.not_mem_nil⟩
  rest := rfl

theorem refunds (h : PayoutWrite s s') : s'.refunds = s.refunds := by
  rw [h.rest]

theorem transactions (h : PayoutWrite s s') : s'.transactions = s.transactions := by
  rw [h.rest]

theorem escrowHolds (h : PayoutWrite s s') : s'.escrowHolds = s.escrowHolds := by
  rw [h.rest]

theorem refundInProgress (h : PayoutWrite s s') (holdId : ℕ) :
    s'.refundInProgress holdId = s.refundInProgress holdId := by
  rw [Store.refundInProgress, Store.refundInProgress, h.refunds, h.transactions, h.escrowHolds]

end PayoutWrite

/-! ## The programs write nothing else -/

theorem payoutWrite_failure {payout : Payout} {reason : String} {failedAt : ℕ} {s s' : Store}
    {u : Unit} (h : PayoutDispatcherJob.writeFailure payout reason failedAt s = .ok (u, s')) :
    PayoutWrite s s' := by
  cases h
  have hw := PayoutWrite.updateMany (s := s)
    (p := fun p ↦ p.id = payout.id ∧ (p.state = .queued ∨ p.state = .processing))
    (f := PayoutDispatcherJob.failRow reason failedAt) fun p ↦ ⟨rfl, rfl, rfl, rfl, rfl, rfl, rfl⟩
  refine ⟨hw.payouts, hw.methods, Nat.le_succ _, ⟨_, rfl, fun o ho ↦ ?_⟩, rfl⟩
  rw [List.mem_singleton.mp ho]
  exact .inr rfl

theorem payoutWrite_success {payout : Payout} {gatewayPayoutId : String} {methodId completedAt : ℕ}
    {s s' : Store} {u : Unit}
    (h : PayoutDispatcherJob.writeSuccess payout gatewayPayoutId methodId completedAt s =
      .ok (u, s')) : PayoutWrite s s' := by
  obtain ⟨row, method, -, -, rfl⟩ := PayoutDispatcherJob.of_writeSuccess_ok h
  refine ⟨⟨_, fun p ↦ ?_, rfl⟩, ⟨_, fun m ↦ ?_, rfl⟩, Nat.le_succ _, ⟨_, rfl, fun o ho ↦ ?_⟩, rfl⟩
  · split
    · exact ⟨rfl, rfl, rfl, rfl, rfl, rfl, rfl⟩
    · exact .refl p
  · split
    · exact ⟨rfl, rfl, rfl, rfl⟩
    · exact .refl m
  · rw [List.mem_singleton.mp ho]
    exact .inl rfl

theorem payoutWrite_claim {payout : Payout} {s s' : Store} {count : ℕ}
    (h : PayoutDispatcherJob.claim payout s = .ok (count, s')) : PayoutWrite s s' := by
  cases h
  exact .updateMany fun p ↦ ⟨rfl, rfl, rfl, rfl, rfl, rfl, rfl⟩

theorem payoutWrite_requeue {row : Payout} {s s' : Store} {count : ℕ}
    (h : PayoutRetryJob.requeue row s = .ok (count, s')) : PayoutWrite s s' := by
  cases h
  exact .updateMany fun p ↦ ⟨rfl, rfl, rfl, rfl, rfl, rfl, rfl⟩

theorem payoutWrite_update {id : ℕ} {f : Payout → Payout} (hf : ∀ p : Payout, p.SameTerms (f p))
    {s s' : Store} {row : Payout} (h : Tx.updatePayout id f s = .ok (row, s')) :
    PayoutWrite s s' := by
  cases hrow : s.payout? id with
  | none => simp [Tx.updatePayout, hrow] at h
  | some r =>
      rw [Tx.updatePayout_apply hrow] at h
      cases h
      have hw := PayoutWrite.updateMany (s := s) (p := fun r ↦ r.id = id) hf
      exact ⟨⟨_, fun p ↦ by split; exacts [hf p, .refl p], rfl⟩, hw.methods, le_rfl, hw.outbox, rfl⟩

theorem payoutWrite_tick (s : Store) (clock : ℕ) : PayoutWrite s { s with clock } := by
  have hw := PayoutWrite.refl s
  exact ⟨hw.payouts, hw.methods, le_rfl, hw.outbox, rfl⟩

/-- The updates that the admin makes of a payout. -/
inductive Payout.AdminUpdate : (Payout → Payout) → Prop
  | requeue : AdminUpdate Payout.requeue
  | cancel (reason : Option String) (now : ℕ) : AdminUpdate (Payout.cancel reason now)

/-- What the writes of the jobs and of the admin guarantee. -/
structure PayoutRules (I : Store → Prop) (G : Store → Store → Prop) : Prop where
  refl : ∀ s, I s → G s s
  fail : ∀ {payout : Payout} {reason : String} {failedAt : ℕ} {s s' : Store} {u : Unit}, I s →
    PayoutDispatcherJob.writeFailure payout reason failedAt s = .ok (u, s') → G s s'
  succeed : ∀ {payout : Payout} {gatewayPayoutId : String} {methodId completedAt : ℕ} {s s' : Store}
    {u : Unit}, I s →
    PayoutDispatcherJob.writeSuccess payout gatewayPayoutId methodId completedAt s =
      .ok (u, s') → G s s'
  claim : ∀ {payout : Payout} {s s' : Store} {count : ℕ}, I s →
    PayoutDispatcherJob.claim payout s = .ok (count, s') → G s s'
  requeue : ∀ {row : Payout} {s s' : Store} {count : ℕ}, I s →
    PayoutRetryJob.requeue row s = .ok (count, s') → G s s'
  update : ∀ {id : ℕ} {f : Payout → Payout} {s s' : Store} {row : Payout}, I s →
    Payout.AdminUpdate f → Tx.updatePayout id f s = .ok (row, s') → G s s'
  tick : ∀ {s : Store} (clock : ℕ), I s → G s { s with clock }

/-- The retry job requeues payouts and does nothing else. -/
theorem guarantees_retryFailed (config : PayoutsConfig) {I : Store → Prop}
    {G : Store → Store → Prop} (hG : ∀ s, I s → G s s)
    (hrequeue : ∀ row s count s', I s → PayoutRetryJob.requeue row s = .ok (count, s') → G s s') :
    Guarantees I G (PayoutRetryJob.cron config) := by
  have hall : ∀ now rows requeued,
      Guarantees I G (PayoutRetryJob.requeueAll now rows requeued) := by
    intro now rows
    induction rows with
    | nil => exact fun _ ↦ trivial
    | cons row rows ih =>
        intro requeued
        unfold PayoutRetryJob.requeueAll
        split
        · exact ih requeued
        · split
          · exact ih requeued
          · exact (guarantees_transaction hG (hrequeue row)).bind fun _ ↦ ih _
  unfold PayoutRetryJob.cron
  split
  · trivial
  · refine (guarantees_read hG _).bind fun rows ↦ ?_
    refine (guarantees_read hG _).bind fun now ↦ ?_
    exact hall _ _ _

namespace PayoutRules

variable {I : Store → Prop} {G : Store → Store → Prop} (hr : PayoutRules I G)
  (config : PayoutsConfig)

include hr

theorem persistFailure (payout : Payout) (reason : String) :
    Guarantees I G (PayoutDispatcherJob.persistFailure payout reason) := by
  refine (guarantees_read hr.refl _).bind fun failedAt ↦ ?_
  exact guarantees_transaction hr.refl fun _ _ _ hs h ↦ hr.fail hs h

theorem persistSuccess (payout : Payout) (gatewayPayoutId : String) (methodId : ℕ) :
    Guarantees I G (PayoutDispatcherJob.persistSuccess payout gatewayPayoutId methodId) := by
  refine (guarantees_read hr.refl _).bind fun completedAt ↦ ?_
  exact guarantees_transaction hr.refl fun _ _ _ hs h ↦ hr.succeed hs h

omit hr in
/-- The gateway is asked, and nothing is written. -/
theorem attemptPayment (config : AdhocConfig) (input : PayFastAdhocPaymentInput) (attempts : ℕ)
    (lastFailure : Option PayFastAdhocPaymentResult) :
    Guarantees I G (PayoutDispatcherJob.attemptPayment config input attempts lastFailure) := by
  induction attempts generalizing lastFailure with
  | zero => trivial
  | succ attempts ih =>
      have hone : Guarantees I G (PayFastClient.adhocPayment config input) := by
        unfold PayFastClient.adhocPayment
        split
        · trivial
        · split
          · trivial
          · exact (guarantees_query _).bind fun _ ↦ trivial
      refine hone.bind fun result ↦ ?_
      split
      · trivial
      · split
        · exact ih _
        · trivial

theorem dispatchOne (payout : Payout) :
    Guarantees I G (PayoutDispatcherJob.dispatchOne config payout) := by
  refine (guarantees_read hr.refl _).bind fun found ↦ ?_
  split
  · exact (hr.persistFailure payout _).bind fun _ ↦ trivial
  · split
    · exact (hr.persistFailure payout _).bind fun _ ↦ trivial
    · refine (guarantees_transaction hr.refl fun _ _ _ hs h ↦ hr.claim hs h).bind fun claimed ↦ ?_
      split
      · trivial
      · refine (guarantees_read hr.refl _).bind fun decrypted ↦ ?_
        refine (guarantees_ofExcept _).bind fun accountNumber ↦ ?_
        refine (attemptPayment _ _ _ _).bind fun result ↦ ?_
        split
        · exact (hr.persistFailure payout _).bind fun _ ↦ trivial
        · exact (hr.persistSuccess payout _ _).bind fun _ ↦ trivial

theorem dispatchAll (payouts : List Payout) (result : DispatchTickResult) :
    Guarantees I G (PayoutDispatcherJob.dispatchAll config payouts result) := by
  induction payouts generalizing result with
  | nil => trivial
  | cons payout payouts ih =>
      have hone : Guarantees I G (some <$> PayoutDispatcherJob.dispatchOne config payout) := by
        rw [map_eq_pure_bind]
        exact (hr.dispatchOne config payout).bind fun _ ↦ trivial
      have hcaught : Guarantees I G
          (tryCatchThe Failure (some <$> PayoutDispatcherJob.dispatchOne config payout)
            fun _ ↦ return none) := hone.tryCatch fun _ ↦ trivial
      exact hcaught.bind fun _ ↦ ih _

/-- Every call writes what the rules allow. -/
theorem guarantees (c : PayoutCall) : Guarantees I G (c.program config) := by
  cases c with
  | dispatch =>
      refine Guarantees.discard ?_
      unfold PayoutDispatcherJob.cron
      split
      · trivial
      · split
        · trivial
        · refine (guarantees_read hr.refl _).bind fun candidates ↦ ?_
          exact hr.dispatchAll config _ _
  | retryFailed =>
      refine Guarantees.discard (guarantees_retryFailed config hr.refl ?_)
      exact fun _ _ _ _ hs h ↦ hr.requeue hs h
  | retry id =>
      refine Guarantees.discard ((guarantees_read hr.refl _).bind fun found ↦ ?_)
      split
      · trivial
      · split
        · trivial
        · split
          · trivial
          · exact guarantees_transaction hr.refl fun _ _ _ hs h ↦ hr.update hs .requeue h
  | cancel id reason =>
      refine Guarantees.discard ((guarantees_read hr.refl _).bind fun found ↦ ?_)
      split
      · trivial
      · split
        · trivial
        · split
          · trivial
          · refine guarantees_transaction hr.refl fun s _ _ hs h ↦ ?_
            rw [Tx.bind_ok (Tx.now_apply s)] at h
            exact hr.update hs (.cancel reason s.clock) h
  | tick clock => exact ⟨fun s hs ↦ ⟨hr.tick clock hs, trivial⟩, fun _ ↦ trivial⟩

end PayoutRules

theorem rules_payoutWrite (I : Store → Prop) : PayoutRules I PayoutWrite where
  refl := fun s _ ↦ .refl s
  fail := fun _ h ↦ payoutWrite_failure h
  succeed := fun _ h ↦ payoutWrite_success h
  claim := fun _ h ↦ payoutWrite_claim h
  requeue := fun _ h ↦ payoutWrite_requeue h
  update := by
    intro id f s s' row _ hf h
    cases hf with
    | requeue => exact payoutWrite_update Payout.sameTerms_requeue h
    | cancel reason now => exact payoutWrite_update (Payout.sameTerms_cancel reason now) h
  tick := fun clock _ ↦ payoutWrite_tick _ clock

theorem PayoutCall.guarantees {I : Store → Prop} (config : PayoutsConfig) (c : PayoutCall) :
    Guarantees I PayoutWrite (c.program config) := (rules_payoutWrite I).guarantees config c

/-! ## What they ask -/

/-- Only the dispatcher asks the gateway for payments. -/
theorem PayoutCall.silent {c : PayoutCall} (hc : c ≠ .dispatch) (config : PayoutsConfig) :
    AsksOnly (fun _ ↦ False) (c.program config) := by
  cases c with
  | dispatch => exact absurd rfl hc
  | retryFailed =>
      refine AsksOnly.discard ?_
      unfold PayoutRetryJob.cron
      split
      · trivial
      · refine (asksOnly_read _).bind fun rows ↦ (asksOnly_read _).bind fun now ↦ ?_
        generalize 0 = requeued
        induction rows generalizing requeued with
        | nil => trivial
        | cons row rows ih =>
            unfold PayoutRetryJob.requeueAll
            split
            · exact ih requeued
            · split
              · exact ih requeued
              · exact (asksOnly_transaction _).bind fun _ ↦ ih _
  | retry id =>
      refine AsksOnly.discard ((asksOnly_read _).bind fun found ↦ ?_)
      split
      · trivial
      · split
        · trivial
        · split
          · trivial
          · exact asksOnly_transaction _
  | cancel id reason =>
      refine AsksOnly.discard ((asksOnly_read _).bind fun found ↦ ?_)
      split
      · trivial
      · split
        · trivial
        · split
          · trivial
          · exact asksOnly_transaction _
  | tick clock => exact fun _ ↦ trivial

end GearshPayments
