import GearshPayments.Payouts.Once
import GearshPayments.Payouts.Ticks

/-!
# Payouts left in progress

A payout is claimed before its account number is decrypted and the gateway is asked, and the
claim is committed.  What fails from then on is caught by the loop of the tick, which counts
the payout as failed and goes on; nothing takes the claim back.  So a payout of the batch is
left in progress exactly when a step after its claim throws (`never_stuck_iff`): the account
number cannot be decrypted, or the database refuses the decryption or the record of how the
payment ended.  A request that the gateway refuses is recorded like any other.
-/

namespace GearshPayments

open Resumption

/-- The states in which a payout is done, or something can still be done about it: the
dispatcher takes what is queued, and a retry what has failed. -/
def PayoutState.Movable (q : PayoutState) : Prop :=
  q = .queued ∨ q = .failed ∨ q = .succeeded

theorem Dispatched.refl {id : ℕ} {q : PayoutState} {s : Store} (h : s.payoutState id = some q) :
    Dispatched id q s s where
  write := .refl s
  clock := rfl
  state := by
    intro k
    split
    case isTrue hk => rw [hk, h]
    case isFalse => rfl

namespace PayoutDispatcherJob

variable {config : PayoutsConfig} {payout : Payout} {s : Store}

/-! ## Recording an outcome -/

/-- The two actions of a record, the time and the transaction, are not refused. -/
def Records (env : Env GatewayReply Failure) : Prop :=
  env.faults 0 = none ∧ env.faults 1 = none

instance (env : Env GatewayReply Failure) : Decidable (Records env) :=
  inferInstanceAs (Decidable (_ ∧ _))

/-- A record is made in full or not at all. -/
theorem store_record {t : ℕ → Tx Unit} {s' : Store} (ht : t s.clock s = .ok ((), s'))
    (env : Env GatewayReply Failure) :
    ((do let now ← Resumption.read Store.clock
         Resumption.transaction (t now) : Engine Unit).run env s).store =
      if Records env then s' else s := by
  cases h₀ : env.faults 0 with
  | some e =>
      rw [run_bind_error (run_read_refused h₀ Store.clock s), if_neg]
      rintro ⟨h, -⟩
      rw [h₀] at h
      cases h
  | none =>
      rw [run_bind_ok_nil (run_read h₀ Store.clock s)]
      cases h₁ : env.afterAction.faults 0 with
      | some e =>
          rw [run_transaction_refused h₁, if_neg]
          rintro ⟨-, h⟩
          cases h₁.symm.trans h
      | none =>
          rw [run_transaction h₁ ht, if_pos]
          exact ⟨h₀, h₁⟩

theorem dispatched_persistFailure (env : Env GatewayReply Failure) (reason : String)
    {q : PayoutState} (hq : s.payoutState payout.id = some q)
    (hopen : q = .queued ∨ q = .processing) :
    Dispatched payout.id (if Records env then .failed else q) s
      ((persistFailure payout reason).run env s).store := by
  obtain ⟨s', htx, hdone⟩ := exists_writeFailure reason
    (hopen.imp (fun h ↦ h ▸ hq) fun h ↦ h ▸ hq)
  unfold persistFailure
  rw [store_record htx env]
  split
  · exact hdone
  · exact .refl hq

theorem dispatched_persistSuccess (env : Env GatewayReply Failure) (gatewayPayoutId : String)
    {methodId : ℕ} {q : PayoutState} (hq : s.payoutState payout.id = some q)
    (hm : ∃ m ∈ s.artistPayoutMethods, m.id = methodId) :
    Dispatched payout.id (if Records env then .succeeded else q) s
      ((persistSuccess payout gatewayPayoutId methodId).run env s).store := by
  obtain ⟨s', htx, hdone⟩ := exists_writeSuccess gatewayPayoutId hq hm
  unfold persistSuccess
  rw [store_record htx env]
  split
  · exact hdone
  · exact .refl hq

/-! ## One payout -/

/-- The requests leave the store alone, and the database has nothing to do with them. -/
theorem attemptPayment_run (config : PayoutsConfig) (input : PayFastAdhocPaymentInput)
    (attempts : ℕ) (lastFailure : Option PayFastAdhocPaymentResult)
    (env : Env GatewayReply Failure) (s : Store) :
    ∃ r answers xs, (attemptPayment config.payfast input attempts lastFailure).run env s =
      ⟨.ok r, s, ⟨answers, env.faults⟩, xs⟩ := by
  induction attempts generalizing lastFailure env with
  | zero => exact ⟨_, _, _, rfl⟩
  | succ attempts ih =>
      obtain ⟨r, answers, xs, hone⟩ : ∃ r answers xs,
          (PayFastClient.adhocPayment config.payfast input).run env s =
            ⟨.ok r, s, ⟨answers, env.faults⟩, xs⟩ := by
        unfold PayFastClient.adhocPayment
        split
        · exact ⟨_, _, _, rfl⟩
        · split
          · exact ⟨_, _, _, rfl⟩
          · exact ⟨_, _, _, rfl⟩
      unfold attemptPayment
      rw [run_bind_ok hone]
      cases r with
      | ok payoutId => exact ⟨_, _, _, rfl⟩
      | failed retriable status reason =>
          dsimp only
          split
          · obtain ⟨r, answers', xs', hrest⟩ := ih (some (.failed retriable status reason))
              ⟨answers, env.faults⟩
            rw [hrest]
            exact ⟨_, _, _, rfl⟩
          · exact ⟨_, _, _, rfl⟩

/-- After the claim a step throws: the database refuses to decrypt the account number or cannot,
or refuses to record how the payment ended. -/
def Interrupted (config : PayoutsConfig) (method : ArtistPayoutMethod)
    (env : Env GatewayReply Failure) : Prop :=
  env.faults 0 ≠ none ∨ (config.decrypt method.accountNumberEncrypted).isOk = false ∨
    ¬Records env.afterAction

instance (config : PayoutsConfig) (method : ArtistPayoutMethod) (env : Env GatewayReply Failure) :
    Decidable (Interrupted config method env) :=
  inferInstanceAs (Decidable (_ ∨ _ ∨ _))

/-- A payout that is claimed is recorded unless it is interrupted. -/
theorem dispatched_payClaimed (config : PayoutsConfig) {method : ArtistPayoutMethod}
    (hq : s.payoutState payout.id = some .processing)
    (hm : ∃ m ∈ s.artistPayoutMethods, m.id = method.id) (env : Env GatewayReply Failure) :
    ∃ q, Dispatched payout.id q s ((payClaimed config payout method).run env s).store ∧
      (Interrupted config method env ∧ q = .processing ∨
        ¬Interrupted config method env ∧ (q = .failed ∨ q = .succeeded)) := by
  unfold payClaimed
  cases h₀ : env.faults 0 with
  | some e =>
      rw [run_bind_error (run_read_refused h₀ _ s)]
      exact ⟨_, .refl hq, .inl ⟨.inl (by rw [h₀]; exact fun h ↦ by cases h), rfl⟩⟩
  | none =>
      rw [run_bind_ok_nil (run_read h₀ _ s)]
      cases hd : config.decrypt method.accountNumberEncrypted with
      | error e =>
          exact ⟨_, .refl hq, .inl ⟨.inr (.inl (by rw [hd]; rfl)), rfl⟩⟩
      | ok accountNumber =>
          have hiff : Interrupted config method env ↔ ¬Records env.afterAction := by
            simp [Interrupted, h₀, hd, Except.isOk, Except.toBool]
          rw [ofExcept_ok, ret_bind, hiff, not_not]
          obtain ⟨r, answers, xs, hcall⟩ := attemptPayment_run config
            (paymentInput payout method accountNumber) payfastMaxAttempts none env.afterAction s
          unfold callPayFastWithRetry
          rw [run_bind_ok hcall]
          -- the requests leave the database as it was
          let env' : Env GatewayReply Failure := ⟨answers, env.afterAction.faults⟩
          have hsame : Records env' ↔ Records env.afterAction := Iff.rfl
          rw [← hsame]
          cases r with
          | ok payoutId =>
              refine ⟨if Records env' then .succeeded else .processing, ?_, ?_⟩
              · dsimp only
                rw [store_bind_pure]
                exact dispatched_persistSuccess env' payoutId hq hm
              · by_cases h : Records env'
                · exact .inr ⟨h, .inr (if_pos h)⟩
                · exact .inl ⟨h, if_neg h⟩
          | failed retriable status reason =>
              refine ⟨if Records env' then .failed else .processing, ?_, ?_⟩
              · dsimp only
                rw [store_bind_pure]
                exact dispatched_persistFailure env' reason hq (.inr rfl)
              · by_cases h : Records env'
                · exact .inr ⟨h, .inl (if_pos h)⟩
                · exact .inl ⟨h, if_neg h⟩

/-- The payout is claimed, and a step after the claim throws. -/
def Stranded (config : PayoutsConfig) (payout : Payout) (env : Env GatewayReply Failure)
    (s : Store) : Prop :=
  ∃ method, s.methodOf? payout.artistId = some method ∧ method.isVerified = true ∧
    env.faults 0 = none ∧ env.faults 1 = none ∧
      Interrupted config method env.afterAction.afterAction

/-- How the dispatch of a payout can leave it. -/
def Leaves (stranded : Prop) (q : PayoutState) : Prop :=
  stranded ∧ q = .processing ∨ ¬stranded ∧ q.Movable

theorem dispatched_dispatchOne (config : PayoutsConfig)
    (hq : s.payoutState payout.id = some .queued) (env : Env GatewayReply Failure) :
    ∃ q, Dispatched payout.id q s ((dispatchOne config payout).run env s).store ∧
      Leaves (Stranded config payout env s) q := by
  -- a failure that is recorded before the claim
  have hearly : ∀ (env' : Env GatewayReply Failure) (reason : String),
      ¬Stranded config payout env s → ∃ q, Dispatched payout.id q s
        ((do persistFailure payout reason; return DispatchOutcome.failed).run env' s).store ∧
          Leaves (Stranded config payout env s) q := by
    intro env' reason hstranded
    refine ⟨if Records env' then .failed else .queued, ?_, .inr ⟨hstranded, ?_⟩⟩
    · rw [store_bind_pure]
      exact dispatched_persistFailure env' reason hq (.inl rfl)
    · split
      · exact .inr (.inl rfl)
      · exact .inl rfl
  unfold dispatchOne
  cases h₀ : env.faults 0 with
  | some e =>
      rw [run_bind_error (run_read_refused h₀ _ s)]
      refine ⟨_, .refl hq, .inr ⟨?_, .inl rfl⟩⟩
      rintro ⟨method, -, -, h, -⟩
      cases h₀.symm.trans h
  | none =>
      rw [run_bind_ok_nil (run_read h₀ _ s)]
      cases hmethod : s.methodOf? payout.artistId with
      | none =>
          refine hearly _ _ ?_
          rintro ⟨method, h, -⟩
          cases hmethod.symm.trans h
      | some method =>
          dsimp only
          by_cases hverified : method.isVerified = false
          · rw [if_pos hverified]
            refine hearly _ _ ?_
            rintro ⟨method', h, h', -⟩
            cases hmethod.symm.trans h
            cases hverified.symm.trans h'
          · rw [if_neg hverified]
            have hiff : Stranded config payout env s ↔
                env.faults 1 = none ∧ Interrupted config method env.afterAction.afterAction := by
              constructor
              · rintro ⟨method', h, -, -, h₁, hint⟩
                cases hmethod.symm.trans h
                exact ⟨h₁, hint⟩
              · rintro ⟨h₁, hint⟩
                exact ⟨method, hmethod, Bool.of_not_eq_false hverified, h₀, h₁, hint⟩
            rw [hiff]
            cases h₁ : env.afterAction.faults 0 with
            | some e =>
                rw [run_bind_error (run_transaction_refused h₁ _ s)]
                refine ⟨_, .refl hq, .inr ⟨?_, .inl rfl⟩⟩
                rintro ⟨h, -⟩
                cases h₁.symm.trans h
            | none =>
                obtain ⟨count, s₁, htx, hcount, hclaimed⟩ := exists_claim hq
                rw [run_bind_ok_nil (run_transaction h₁ htx), if_neg hcount]
                have hprocessing : s₁.payoutState payout.id = some .processing := by
                  rw [hclaimed.state, if_pos rfl]
                have hm : ∃ m ∈ s₁.artistPayoutMethods, m.id = method.id := by
                  obtain ⟨f, hf, hmethods⟩ := hclaimed.write.methods
                  rw [hmethods]
                  exact ⟨f method, List.mem_map_of_mem (Table.find_some hmethod).1,
                    (hf method).id⟩
                obtain ⟨q, hdone, hends⟩ :=
                  dispatched_payClaimed config hprocessing hm env.afterAction.afterAction
                refine ⟨q, hclaimed.trans hdone, ?_⟩
                rcases hends with ⟨hint, rfl⟩ | ⟨hint, hq⟩
                · exact .inl ⟨⟨h₁, hint⟩, rfl⟩
                · exact .inr ⟨fun h ↦ hint h.2, .inr hq⟩

/-! ## The batch -/

/-- What the environment and the store are when the loop comes to a payout of its batch. -/
def turnOf (config : PayoutsConfig) (id : ℕ) :
    List Payout → Env GatewayReply Failure → Store → Env GatewayReply Failure × Store
  | [], env, s => (env, s)
  | candidate :: candidates, env, s =>
    if candidate.id = id then (env, s)
    else
      let r := (dispatchOne config candidate).run env s
      turnOf config id candidates r.env r.store

/-- The loop goes on from where the dispatch of a payout ended, thrown or not. -/
theorem store_dispatchAll_cons (config : PayoutsConfig) (candidate : Payout) (batch : List Payout)
    (result : DispatchTickResult) (env : Env GatewayReply Failure) (s : Store) :
    ∃ result', ((dispatchAll config (candidate :: batch) result).run env s).store =
      ((dispatchAll config batch result').run ((dispatchOne config candidate).run env s).env
        ((dispatchOne config candidate).run env s).store).store := by
  obtain ⟨outcome, hcaught⟩ := run_tryCatch_none (dispatchOne config candidate) env s
  refine ⟨DispatchTickResult.count result outcome, ?_⟩
  rw [dispatchAll, run_bind_ok hcaught]

section Batch

variable {batch : List Payout}

/-- The loop leaves the payouts that are not in its batch alone. -/
theorem state_dispatchAll (hdistinct : (batch.map Payout.id).Nodup)
    (hqueued : ∀ p ∈ batch, s.payoutState p.id = some .queued) (result : DispatchTickResult)
    (env : Env GatewayReply Failure) {k : ℕ} (hk : k ∉ batch.map Payout.id) :
    ((dispatchAll config batch result).run env s).store.payoutState k = s.payoutState k := by
  induction batch generalizing s env result with
  | nil => rfl
  | cons candidate batch ih =>
      obtain ⟨hhead, htail⟩ := List.forall_mem_cons.mp hqueued
      obtain ⟨hnew, hdistinct⟩ := List.nodup_cons.mp hdistinct
      rw [List.map_cons, List.mem_cons, not_or] at hk
      obtain ⟨q, hdone, -⟩ := dispatched_dispatchOne config hhead env
      obtain ⟨result', hstore⟩ := store_dispatchAll_cons config candidate batch result env s
      have hstill := hdone.queued hnew htail
      rw [hstore, ih hdistinct hstill _ _ hk.2, hdone.state, if_neg hk.1]

/-- Every payout of the batch ends as its own turn decides. -/
theorem dispatchAll_leaves (hdistinct : (batch.map Payout.id).Nodup)
    (hqueued : ∀ p ∈ batch, s.payoutState p.id = some .queued) (result : DispatchTickResult)
    (env : Env GatewayReply Failure) (hp : payout ∈ batch) :
    ∃ q, ((dispatchAll config batch result).run env s).store.payoutState payout.id = some q ∧
      Leaves (Stranded config payout (turnOf config payout.id batch env s).1
        (turnOf config payout.id batch env s).2) q := by
  induction batch generalizing s env result with
  | nil => exact absurd hp List.not_mem_nil
  | cons candidate batch ih =>
      obtain ⟨hhead, htail⟩ := List.forall_mem_cons.mp hqueued
      obtain ⟨hnew, hrest⟩ := List.nodup_cons.mp hdistinct
      obtain ⟨q, hdone, hleaves⟩ := dispatched_dispatchOne config hhead env
      obtain ⟨result', hstore⟩ := store_dispatchAll_cons config candidate batch result env s
      have hstill := hdone.queued hnew htail
      rw [hstore, turnOf]
      rcases List.mem_cons.mp hp with rfl | hp
      · -- the rest of the loop leaves it alone
        rw [if_pos rfl, state_dispatchAll hrest hstill _ _ hnew, hdone.state, if_pos rfl]
        exact ⟨q, rfl, hleaves⟩
      · rw [if_neg fun h : candidate.id = payout.id ↦ hnew (h ▸ List.mem_map_of_mem hp)]
        exact ih hrest hstill _ _ hp

end Batch

end PayoutDispatcherJob

/-- When a tick returns, a payout of its batch is one that something can still be done about, or
is paid, exactly if no step threw after it was claimed. -/
theorem never_stuck_iff {config : PayoutsConfig} {s : Store}
    (hdistinct : (s.payouts.map Payout.id).Nodup) {env : Env GatewayReply Failure} {payout : Payout}
    (hp : payout ∈ PayoutDispatcherJob.pickCandidates config.dispatchBatchSize s)
    (hreturns : ((PayoutDispatcherJob.runOnce config).run env s).result.isOk = true) :
    (∃ q, ((PayoutDispatcherJob.runOnce config).run env s).store.payoutState payout.id =
        some q ∧ q.Movable) ↔
      let turn := PayoutDispatcherJob.turnOf config payout.id
        (PayoutDispatcherJob.pickCandidates config.dispatchBatchSize s) env.afterAction s
      ¬PayoutDispatcherJob.Stranded config payout turn.1 turn.2 := by
  unfold PayoutDispatcherJob.runOnce at hreturns ⊢
  cases h₀ : env.faults 0 with
  | some e =>
      rw [run_bind_error (run_read_refused h₀ _ s)] at hreturns
      cases hreturns
  | none =>
      rw [run_bind_ok_nil (run_read h₀ _ s)]
      obtain ⟨q, hstate, hleaves⟩ := PayoutDispatcherJob.dispatchAll_leaves
        (PayoutDispatcherJob.nodup_pickCandidates hdistinct config.dispatchBatchSize)
        (fun p hp ↦ PayoutDispatcherJob.queued_of_mem_pickCandidates hdistinct hp)
        ⟨(PayoutDispatcherJob.pickCandidates config.dispatchBatchSize s).length, 0, 0, 0⟩
        env.afterAction hp
      rw [hstate]
      rcases hleaves with ⟨hstranded, rfl⟩ | ⟨hstranded, hmovable⟩
      · refine iff_of_false ?_ (not_not.mpr hstranded)
        rintro ⟨q, ⟨⟩, h | h | h⟩ <;> cases h
      · exact iff_of_true ⟨q, rfl, hmovable⟩ hstranded

/-- The gateway pays a queued payout. -/
theorem never_stuck_iff_sample :
    (∃ q, ((PayoutDispatcherJob.runOnce Sample.payouts).run (.healthy fun _ ↦ Sample.paysArtist)
        (Sample.owing .queued)).store.payoutState (Sample.payout .queued).id =
          some q ∧ q.Movable) ↔
      let turn := PayoutDispatcherJob.turnOf Sample.payouts (Sample.payout .queued).id
        (PayoutDispatcherJob.pickCandidates Sample.payouts.dispatchBatchSize (Sample.owing .queued))
        (.healthy fun _ ↦ Sample.paysArtist) (Sample.owing .queued)
      ¬PayoutDispatcherJob.Stranded Sample.payouts (Sample.payout .queued) turn.1 turn.2 :=
  never_stuck_iff (by decide) (by decide) (by decide)

namespace Sample

/-- The key that account numbers were encrypted with is gone. -/
def keyLost : PayoutsConfig :=
  { payouts with decrypt := fun _ ↦ .error (.database "Wrong key or corrupt data") }

end Sample

/-- A payout whose account number cannot be decrypted is left in progress. -/
theorem stuck_in_progress :
    ¬∀ (config : PayoutsConfig) (s : Store), (s.payouts.map Payout.id).Nodup →
      ∀ (env : Env GatewayReply Failure),
        ∀ payout ∈ PayoutDispatcherJob.pickCandidates config.dispatchBatchSize s,
          ((PayoutDispatcherJob.runOnce config).run env s).result.isOk = true →
            ∃ q, ((PayoutDispatcherJob.runOnce config).run env s).store.payoutState payout.id =
              some q ∧ q.Movable := by
  intro h
  obtain ⟨q, hstate, hmovable⟩ := h Sample.keyLost (Sample.owing .queued) (by decide)
    (.healthy fun _ ↦ Sample.paysArtist) (Sample.payout .queued) (by decide) (by decide)
  have hstuck : ((PayoutDispatcherJob.runOnce Sample.keyLost).run
      (.healthy fun _ ↦ Sample.paysArtist) (Sample.owing .queued)).store.payoutState
        (Sample.payout .queued).id = some .processing := by decide
  cases hstate.symm.trans hstuck
  rcases hmovable with h | h | h <;> cases h

end GearshPayments
