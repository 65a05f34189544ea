import GearshPayments.Payouts.Stages
import GearshPayments.Resumption.Alone

/-!
# Ticks that run alone

What a tick of the dispatcher does when nothing disturbs it and the gateway pays whatever
it is asked for: every payout of its batch ends as the bank details of the artist decide
(`PayoutsConfig.outcome`), and nothing else happens to payouts.  A batch is of bounded
size, so a payout may have to wait for others that are due before it; it is in the batch
of one of the next ticks (`exists_ticks`).
-/

namespace GearshPayments

open Resumption

/-! ## Writes one after the other -/

theorem Payout.SameTerms.trans {p p' p'' : Payout} (h : p.SameTerms p') (h' : p'.SameTerms p'') :
    p.SameTerms p'' where
  id := h'.id.trans h.id
  artistId := h'.artistId.trans h.artistId
  holdId := h'.holdId.trans h.holdId
  amountCents := h'.amountCents.trans h.amountCents
  currency := h'.currency.trans h.currency
  dispatchAfter := h'.dispatchAfter.trans h.dispatchAfter
  createdAt := h'.createdAt.trans h.createdAt

theorem ArtistPayoutMethod.SameDetails.trans {m m' m'' : ArtistPayoutMethod} (h : m.SameDetails m')
    (h' : m'.SameDetails m'') : m.SameDetails m'' where
  id := h'.id.trans h.id
  artistUserId := h'.artistUserId.trans h.artistUserId
  isVerified := h'.isVerified.trans h.isVerified
  accountNumberEncrypted := h'.accountNumberEncrypted.trans h.accountNumberEncrypted

theorem PayoutWrite.trans {s s' s'' : Store} (h : PayoutWrite s s') (h' : PayoutWrite s' s'') :
    PayoutWrite s s'' where
  payouts := by
    obtain ⟨f, hf, hp⟩ := h.payouts
    obtain ⟨g, hg, hp'⟩ := h'.payouts
    refine ⟨g ∘ f, fun p ↦ (hf p).trans (hg (f p)), ?_⟩
    rw [hp', hp, List.map_map]
  methods := by
    obtain ⟨f, hf, hm⟩ := h.methods
    obtain ⟨g, hg, hm'⟩ := h'.methods
    refine ⟨g ∘ f, fun m ↦ (hf m).trans (hg (f m)), ?_⟩
    rw [hm', hm, List.map_map]
  nextId := h.nextId.trans h'.nextId
  outbox := by
    obtain ⟨os, ho, hos⟩ := h.outbox
    obtain ⟨os', ho', hos'⟩ := h'.outbox
    refine ⟨os ++ os', by rw [ho', ho, List.append_assoc], fun o hm ↦ ?_⟩
    rcases List.mem_append.mp hm with hm | hm
    · exact hos o hm
    · exact hos' o hm
  rest := by
    refine h'.rest.trans ?_
    rw [h.rest]

/-- A write of payouts that leaves the time alone and takes one payout to the state `q`. -/
structure Dispatched (id : ℕ) (q : PayoutState) (s s' : Store) : Prop where
  write : PayoutWrite s s'
  clock : s'.clock = s.clock
  state : ∀ k, s'.payoutState k = if k = id then some q else s.payoutState k

theorem Dispatched.trans {id : ℕ} {q q' : PayoutState} {s s' s'' : Store}
    (h : Dispatched id q s s') (h' : Dispatched id q' s' s'') : Dispatched id q' s s'' where
  write := h.write.trans h'.write
  clock := h'.clock.trans h.clock
  state := by
    intro k
    rw [h'.state, h.state]
    by_cases hk : k = id
    · rw [if_pos hk, if_pos hk]
    · rw [if_neg hk, if_neg hk, if_neg hk]

/-- An update of one payout that was in the state `q₀`. -/
theorem Dispatched.of_update {id : ℕ} {q q₀ : PayoutState} {s s' : Store} {f : Payout → Payout}
    {g : PayoutState → PayoutState} (hw : PayoutWrite s s') (hc : s'.clock = s.clock)
    (hp : s'.payouts = Table.update Payout.id id f s.payouts) (hid : ∀ p, (f p).id = p.id)
    (hst : ∀ p, (f p).state = g p.state) (hq₀ : s.payoutState id = some q₀) (hq : g q₀ = q) :
    Dispatched id q s s' where
  write := hw
  clock := hc
  state := by
    intro k
    rw [Store.payoutState_update hp hid hst]
    by_cases hk : k = id
    · rw [if_pos hk, if_pos hk, hk, hq₀, Option.map_some, hq]
    · rw [if_neg hk, if_neg hk]

/-- The payouts after it in a batch are queued as before. -/
theorem Dispatched.queued {payout : Payout} {batch : List Payout} {q : PayoutState} {s s' : Store}
    (h : Dispatched payout.id q s s') (hnew : payout.id ∉ batch.map Payout.id)
    (hqueued : ∀ p ∈ batch, s.payoutState p.id = some .queued) :
    ∀ p ∈ batch, s'.payoutState p.id = some .queued := by
  intro p hp
  have hne : p.id ≠ payout.id := fun heq ↦ hnew (heq ▸ List.mem_map_of_mem hp)
  rw [h.state, if_neg hne]
  exact hqueued p hp

/-! ## One payout -/

/-- The client of the gateway makes the requests for payments. -/
def AdhocConfig.Ready (config : AdhocConfig) : Prop :=
  config.enabled = true ∧ config.adhocPaymentUrl.getD "" ≠ ""

instance (config : AdhocConfig) : Decidable config.Ready :=
  inferInstanceAs (Decidable (_ ∧ _))

/-- How a payout that is claimed ends when the gateway pays. -/
def PayoutsConfig.claimedOutcome (config : PayoutsConfig) (method : ArtistPayoutMethod) :
    PayoutState :=
  match config.decrypt method.accountNumberEncrypted with
  | .error _ => .processing
  | .ok _ => if config.payfast.Ready then .succeeded else .failed

/-- How a queued payout of the artist ends when it is dispatched and the gateway pays. -/
def PayoutsConfig.outcome (config : PayoutsConfig) (s : Store) (artistId : ℕ) : PayoutState :=
  match s.methodOf? artistId with
  | none => .failed
  | some method => if method.isVerified = false then .failed else config.claimedOutcome method

theorem PayoutsConfig.outcome_eq_succeeded_iff {config : PayoutsConfig} {s : Store} {artistId : ℕ} :
    config.outcome s artistId = .succeeded ↔ config.payfast.Ready ∧
      ∃ m, s.methodOf? artistId = some m ∧ m.isVerified = true ∧
        (config.decrypt m.accountNumberEncrypted).isOk = true := by
  unfold outcome
  cases s.methodOf? artistId with
  | none => exact ⟨fun h ↦ (by cases h), fun ⟨_, m, hm, _⟩ ↦ (by cases hm)⟩
  | some method =>
      dsimp only
      constructor
      · intro h
        split at h
        case isTrue => cases h
        case isFalse hverified =>
          unfold claimedOutcome at h
          split at h
          case h_1 => cases h
          case h_2 accountNumber hdecrypt =>
            split at h
            case isTrue hready =>
              refine ⟨hready, method, rfl, Bool.of_not_eq_false hverified, ?_⟩
              rw [hdecrypt]
              rfl
            case isFalse => cases h
      · rintro ⟨hready, m, hm, hverified, hdecrypt⟩
        cases hm
        rw [if_neg (by rw [hverified]; exact fun h ↦ by cases h), claimedOutcome]
        cases hd : config.decrypt method.accountNumberEncrypted with
        | error e =>
            rw [hd] at hdecrypt
            cases hdecrypt
        | ok accountNumber => exact if_pos hready

/-- Payouts are dispatched, and the gateway is asked for them. -/
def PayoutsConfig.Pays (config : PayoutsConfig) : Prop :=
  config.dispatchEnabled = true ∧ config.payfast.Ready ∧ 0 < config.dispatchBatchSize

instance (config : PayoutsConfig) : Decidable config.Pays :=
  inferInstanceAs (Decidable (_ ∧ _ ∧ _))

/-- The gateway pays whenever it is asked. -/
def PaysArtists (answers : ℕ → GatewayReply) : Prop := ∀ n, (answers n).paid = true

theorem PaysArtists.tail {answers : ℕ → GatewayReply} (h : PaysArtists answers) :
    PaysArtists fun n ↦ answers (n + 1) := fun n ↦ h (n + 1)

namespace PayoutDispatcherJob

variable {payout : Payout} {s : Store}

theorem exists_writeFailure (reason : String)
    (h : s.payoutState payout.id = some .queued ∨ s.payoutState payout.id = some .processing) :
    ∃ s', writeFailure payout reason s.clock s = .ok ((), s') ∧
      Dispatched payout.id .failed s s' := by
  let p : Payout → Bool := fun p ↦ p.id = payout.id ∧ (p.state = .queued ∨ p.state = .processing)
  let s' : Store :=
    { s with
      nextId := s.nextId + 1
      payouts := s.payouts.map fun r ↦ if p r then failRow reason s.clock r else r
      outboxEvents := s.outboxEvents ++
        [OutboxService.row (failedNotice payout reason s.clock) s.nextId s.clock] }
  have htx : writeFailure payout reason s.clock s = .ok ((), s') := rfl
  refine ⟨s', htx, ?_⟩
  have hpayouts := Tx.updateMany_eq_update payout.id
    (fun p ↦ p.state = .queued ∨ p.state = .processing) (failRow reason s.clock) s.payouts
  obtain ⟨q₀, hq₀, hopen⟩ : ∃ q₀, s.payoutState payout.id = some q₀ ∧
      (q₀ = .queued ∨ q₀ = .processing) := by
    rcases h with h | h
    · exact ⟨_, h, .inl rfl⟩
    · exact ⟨_, h, .inr rfl⟩
  refine .of_update (g := failState) (payoutWrite_failure htx) rfl hpayouts ?_ ?_ hq₀ (if_pos hopen)
  · intro p
    split <;> rfl
  · intro p
    unfold failState
    split <;> rfl

theorem persistFailure_run (answers : ℕ → GatewayReply) (reason : String)
    (h : s.payoutState payout.id = some .queued ∨ s.payoutState payout.id = some .processing) :
    ∃ s', (persistFailure payout reason).run (.healthy answers) s =
        ⟨.ok (), s', .healthy answers, []⟩ ∧ Dispatched payout.id .failed s s' := by
  obtain ⟨s', htx, hdone⟩ := exists_writeFailure reason h
  refine ⟨s', ?_, hdone⟩
  exact (run_bind_ok_nil (run_read_healthy _ answers s)).trans (run_transaction rfl htx)

theorem exists_writeSuccess (gatewayPayoutId : String) {methodId : ℕ} {q₀ : PayoutState}
    (hq₀ : s.payoutState payout.id = some q₀) (hm : ∃ m ∈ s.artistPayoutMethods, m.id = methodId) :
    ∃ s', writeSuccess payout gatewayPayoutId methodId s.clock s = .ok ((), s') ∧
      Dispatched payout.id .succeeded s s' := by
  obtain ⟨row, hrow, -⟩ := Option.map_eq_some_iff.mp hq₀
  obtain ⟨found, hfound⟩ : ∃ found,
      Table.find ArtistPayoutMethod.id methodId s.artistPayoutMethods = some found := by
    obtain ⟨m, hmem, hid⟩ := hm
    cases hf : Table.find ArtistPayoutMethod.id methodId s.artistPayoutMethods with
    | none => exact absurd hid (Table.find_eq_none.mp hf m hmem)
    | some found => exact ⟨found, rfl⟩
  have htx := writeSuccess_apply hrow hfound gatewayPayoutId s.clock
  refine ⟨paidStore payout gatewayPayoutId methodId s.clock s, htx, ?_⟩
  exact .of_update (g := fun _ ↦ .succeeded) (payoutWrite_success htx) rfl rfl (fun _ ↦ rfl)
    (fun _ ↦ rfl) hq₀ rfl

theorem persistSuccess_run (answers : ℕ → GatewayReply) (gatewayPayoutId : String) {methodId : ℕ}
    {q₀ : PayoutState} (hq₀ : s.payoutState payout.id = some q₀)
    (hm : ∃ m ∈ s.artistPayoutMethods, m.id = methodId) :
    ∃ s', (persistSuccess payout gatewayPayoutId methodId).run (.healthy answers) s =
        ⟨.ok (), s', .healthy answers, []⟩ ∧ Dispatched payout.id .succeeded s s' := by
  obtain ⟨s', htx, hdone⟩ := exists_writeSuccess gatewayPayoutId hq₀ hm
  refine ⟨s', ?_, hdone⟩
  exact (run_bind_ok_nil (run_read_healthy _ answers s)).trans (run_transaction rfl htx)

/-- A queued payout is claimed. -/
theorem exists_claim (h : s.payoutState payout.id = some .queued) :
    ∃ count s', claim payout s = .ok (count, s') ∧ count ≠ 0 ∧
      Dispatched payout.id .processing s s' := by
  let p : Payout → Bool := fun p ↦ p.id = payout.id ∧ p.state = .queued
  let f : Payout → Payout := fun p ↦ { p with state := .processing, attemptedAt := some s.clock }
  let s' : Store := { s with payouts := s.payouts.map fun r ↦ if p r then f r else r }
  have htx : claim payout s = .ok ((s.payouts.filter p).length, s') := rfl
  refine ⟨_, s', htx, ?_, ?_⟩
  · obtain ⟨row, hrow, hstate⟩ := Option.map_eq_some_iff.mp h
    obtain ⟨hmem, hid⟩ := Table.find_some hrow
    have hrowp : row ∈ s.payouts.filter p :=
      List.mem_filter.mpr ⟨hmem, decide_eq_true ⟨hid, hstate⟩⟩
    exact (List.length_pos_of_mem hrowp).ne'
  · have hpayouts := Tx.updateMany_eq_update payout.id (fun p ↦ p.state = .queued) f s.payouts
    refine .of_update (g := claimState) (payoutWrite_claim htx) rfl hpayouts ?_ ?_ h (if_pos rfl)
    · intro p
      split <;> rfl
    · intro p
      unfold claimState
      split <;> rfl

variable {config : PayoutsConfig} {answers : ℕ → GatewayReply}

/-- Where requests are made, the first one is paid. -/
theorem callPayFast_run (s : Store) (hpays : PaysArtists answers) (hready : config.payfast.Ready)
    (input : PayFastAdhocPaymentInput) :
    ∃ payoutId, (callPayFastWithRetry config.payfast input).run (.healthy answers) s =
      ⟨.ok (.ok payoutId), s, .healthy fun n ↦ answers (n + 1),
        [(.adhocPayment input, answers 0)]⟩ := by
  obtain ⟨payoutId, hpaid⟩ : ∃ payoutId,
      PayFastClient.classifyAdhoc (answers 0) = .ok payoutId := by
    have h := hpays 0
    unfold GatewayReply.paid at h
    cases hc : PayFastClient.classifyAdhoc (answers 0) with
    | ok payoutId => exact ⟨payoutId, rfl⟩
    | failed retriable status reason =>
        rw [hc] at h
        cases h
  have hadhoc : PayFastClient.adhocPayment config.payfast input = (do
      let outcome ← Resumption.query (.adhocPayment input)
      return PayFastClient.classifyAdhoc outcome) := by
    unfold PayFastClient.adhocPayment
    rw [if_neg (by rw [hready.1]; exact fun h ↦ by cases h), if_neg hready.2]
  have hone : (PayFastClient.adhocPayment config.payfast input).run (.healthy answers) s =
      ⟨.ok (.ok payoutId), s, .healthy fun n ↦ answers (n + 1),
        [(.adhocPayment input, answers 0)]⟩ := by
    rw [hadhoc, ← hpaid]
    rfl
  refine ⟨payoutId, ?_⟩
  unfold callPayFastWithRetry payfastMaxAttempts attemptPayment
  rw [run_bind_ok hone]
  rfl

/-- Where no requests are made, the payment has failed. -/
theorem callPayFast_of_not_ready (hready : ¬config.payfast.Ready)
    (input : PayFastAdhocPaymentInput) :
    ∃ status reason,
      callPayFastWithRetry config.payfast input = .ret (.failed false status reason) := by
  obtain ⟨status, reason, hadhoc⟩ : ∃ status reason,
      PayFastClient.adhocPayment config.payfast input = .ret (.failed false status reason) := by
    unfold PayFastClient.adhocPayment
    by_cases henabled : config.payfast.enabled = false
    · rw [if_pos henabled]
      exact ⟨_, _, rfl⟩
    · have hurl : config.payfast.adhocPaymentUrl.getD "" = "" := by
        by_contra hurl
        exact hready ⟨Bool.of_not_eq_false henabled, hurl⟩
      rw [if_neg henabled, if_pos hurl]
      exact ⟨_, _, rfl⟩
  refine ⟨status, reason, ?_⟩
  unfold callPayFastWithRetry payfastMaxAttempts attemptPayment
  rw [hadhoc]
  rfl

theorem payClaimed_run (config : PayoutsConfig) (hpays : PaysArtists answers)
    {method : ArtistPayoutMethod}
    (hq : s.payoutState payout.id = some .processing)
    (hm : ∃ m ∈ s.artistPayoutMethods, m.id = method.id) :
    ∃ r s' answers' xs, (payClaimed config payout method).run (.healthy answers) s =
        ⟨r, s', .healthy answers', xs⟩ ∧ PaysArtists answers' ∧
      Dispatched payout.id (config.claimedOutcome method) s s' ∧
      (config.claimedOutcome method = .succeeded → ∃ x ∈ xs, paysFor payout.id x = true) := by
  have hread := run_read_healthy (fun _ : Store ↦ config.decrypt method.accountNumberEncrypted)
    answers s (Q := GatewayRequest) (ε := Failure)
  unfold payClaimed PayoutsConfig.claimedOutcome
  rw [run_bind_ok_nil hread]
  cases config.decrypt method.accountNumberEncrypted with
  | error e =>
      refine ⟨.error e, s, answers, [], rfl, hpays, ⟨.refl s, rfl, fun k ↦ ?_⟩,
        fun h ↦ (by cases h)⟩
      split
      case isTrue hk => rw [hk, hq]
      case isFalse => rfl
  | ok accountNumber =>
      rw [ofExcept_ok, ret_bind]
      let input := paymentInput payout method accountNumber
      by_cases hready : config.payfast.Ready
      · obtain ⟨payoutId, hcall⟩ := callPayFast_run s hpays hready input
        obtain ⟨s', hrun, hdone⟩ := persistSuccess_run (fun n ↦ answers (n + 1)) payoutId hq hm
        dsimp only
        rw [run_bind_ok hcall]
        dsimp only
        rw [run_bind_ok_nil hrun, if_pos hready]
        refine ⟨_, s', _, _, rfl, hpays.tail, hdone, fun _ ↦ ⟨_, List.mem_singleton_self _, ?_⟩⟩
        exact decide_eq_true ⟨rfl, hpays 0⟩
      · obtain ⟨status, reason, hcall⟩ := callPayFast_of_not_ready hready input
        obtain ⟨s', hrun, hdone⟩ := persistFailure_run answers reason (.inr hq)
        dsimp only
        rw [hcall, ret_bind]
        dsimp only
        rw [run_bind_ok_nil hrun, if_neg hready]
        exact ⟨_, s', _, _, rfl, hpays, hdone, fun h ↦ by cases h⟩

/-- One payout of the batch, still queued. -/
theorem dispatchOne_run (config : PayoutsConfig) (hpays : PaysArtists answers)
    (hq : s.payoutState payout.id = some .queued) :
    ∃ r s' answers' xs, (dispatchOne config payout).run (.healthy answers) s =
        ⟨r, s', .healthy answers', xs⟩ ∧ PaysArtists answers' ∧
      Dispatched payout.id (config.outcome s payout.artistId) s s' ∧
      (config.outcome s payout.artistId = .succeeded → ∃ x ∈ xs, paysFor payout.id x = true) := by
  have hread := run_read_healthy (fun s : Store ↦ s.methodOf? payout.artistId) answers s
    (Q := GatewayRequest) (ε := Failure)
  unfold dispatchOne PayoutsConfig.outcome
  rw [run_bind_ok_nil hread]
  cases hmethod : s.methodOf? payout.artistId with
  | none =>
      obtain ⟨s', hrun, hdone⟩ :=
        persistFailure_run answers "NO_PAYOUT_METHOD" (.inl hq)
      exact ⟨_, s', _, _, run_bind_ok_nil hrun, hpays, hdone, fun h ↦ by cases h⟩
  | some method =>
      dsimp only
      by_cases hverified : method.isVerified = false
      · rw [if_pos hverified, if_pos hverified]
        obtain ⟨s', hrun, hdone⟩ :=
          persistFailure_run answers "PAYOUT_METHOD_NOT_VERIFIED" (.inl hq)
        exact ⟨_, s', _, _, run_bind_ok_nil hrun, hpays, hdone, fun h ↦ by cases h⟩
      · rw [if_neg hverified, if_neg hverified]
        obtain ⟨count, s₁, htx, hcount, hclaimed⟩ := exists_claim hq
        have hclaim : (transaction (claim payout) : Engine ℕ).run (.healthy answers) s =
            ⟨.ok count, s₁, .healthy answers, []⟩ := run_transaction rfl htx
        have hprocessing : s₁.payoutState payout.id = some .processing := by
          rw [hclaimed.state, if_pos rfl]
        have hm : ∃ m ∈ s₁.artistPayoutMethods, m.id = method.id := by
          obtain ⟨f, hf, hmethods⟩ := hclaimed.write.methods
          rw [hmethods]
          exact ⟨f method, List.mem_map_of_mem (Table.find_some hmethod).1, (hf method).id⟩
        obtain ⟨r, s', answers', xs, hrun, hpays', hdone, hasked⟩ :=
          payClaimed_run config hpays hprocessing hm
        refine ⟨r, s', answers', xs, ?_, hpays', hclaimed.trans hdone, hasked⟩
        refine (run_bind_ok_nil hclaim).trans ?_
        rw [if_neg hcount]
        exact hrun

end PayoutDispatcherJob

/-! ## A batch -/

/-- Use of bank details does not change how payouts end. -/
theorem PayoutWrite.outcome {s s' : Store} (h : PayoutWrite s s') (config : PayoutsConfig)
    (artistId : ℕ) : config.outcome s' artistId = config.outcome s artistId := by
  obtain ⟨f, hf, hm⟩ := h.methodOf?
  unfold PayoutsConfig.outcome
  rw [hm]
  cases s.methodOf? artistId with
  | none => rfl
  | some method =>
      rw [Option.map_some]
      dsimp only
      rw [(hf method).isVerified, PayoutsConfig.claimedOutcome, (hf method).accountNumberEncrypted]
      rfl

/-- The payouts of the batch have been dispatched, with these requests. -/
structure BatchDone (config : PayoutsConfig) (batch : List Payout) (s s' : Store)
    (xs : List (GatewayRequest × GatewayReply)) : Prop where
  write : PayoutWrite s s'
  clock : s'.clock = s.clock
  done : ∀ p ∈ batch, s'.payoutState p.id = some (config.outcome s p.artistId)
  others : ∀ k, k ∉ batch.map Payout.id → s'.payoutState k = s.payoutState k
  asked : ∀ p ∈ batch, config.outcome s p.artistId = .succeeded → ∃ x ∈ xs, paysFor p.id x = true

namespace PayoutDispatcherJob

variable {config : PayoutsConfig} {answers : ℕ → GatewayReply} {s : Store}

theorem dispatchAll_run (config : PayoutsConfig) {batch : List Payout} (hpays : PaysArtists answers)
    (hdistinct : (batch.map Payout.id).Nodup)
    (hqueued : ∀ p ∈ batch, s.payoutState p.id = some .queued) (result : DispatchTickResult) :
    ∃ r s' env xs, (dispatchAll config batch result).run (.healthy answers) s = ⟨r, s', env, xs⟩ ∧
      BatchDone config batch s s' xs := by
  induction batch generalizing s answers result with
  | nil =>
      refine ⟨_, s, _, [], rfl, .refl s, rfl, ?_, fun _ _ ↦ rfl, ?_⟩
      · exact fun p hp ↦ absurd hp List.not_mem_nil
      · exact fun p hp ↦ absurd hp List.not_mem_nil
  | cons payout batch ih =>
      obtain ⟨hhead, htail⟩ := List.forall_mem_cons.mp hqueued
      obtain ⟨hnew, hdistinct⟩ := List.nodup_cons.mp hdistinct
      obtain ⟨r₁, s₁, answers₁, xs₁, hrun₁, hpays₁, hdone₁, hasked₁⟩ :=
        dispatchOne_run config hpays hhead
      -- a payout whose dispatch throws does not stop the loop
      obtain ⟨outcome, hcaught⟩ := run_tryCatch_none (dispatchOne config payout)
        (.healthy answers) s
      rw [hrun₁] at hcaught
      obtain ⟨r, s', env, xs, hrun, hdone⟩ := ih hpays₁ hdistinct (hdone₁.queued hnew htail)
        (DispatchTickResult.count result outcome)
      refine ⟨r, s', env, xs₁ ++ xs, ?_, hdone₁.write.trans hdone.write,
        hdone.clock.trans hdone₁.clock, ?_, ?_, ?_⟩
      · unfold dispatchAll
        rw [run_bind_ok hcaught, hrun]
      · refine List.forall_mem_cons.mpr ⟨?_, fun p hp ↦ ?_⟩
        · rw [hdone.others _ hnew, hdone₁.state, if_pos rfl]
        · rw [hdone.done p hp, hdone₁.write.outcome]
      · intro k hk
        rw [List.map_cons, List.mem_cons, not_or] at hk
        rw [hdone.others k hk.2, hdone₁.state, if_neg hk.1]
      · refine List.forall_mem_cons.mpr ⟨fun hout ↦ ?_, fun p hp hout ↦ ?_⟩
        · obtain ⟨x, hx, hpaid⟩ := hasked₁ hout
          exact ⟨x, List.mem_append_left _ hx, hpaid⟩
        · rw [← hdone₁.write.outcome] at hout
          obtain ⟨x, hx, hpaid⟩ := hdone.asked p hp hout
          exact ⟨x, List.mem_append_right _ hx, hpaid⟩

theorem nodup_pickCandidates (hs : (s.payouts.map Payout.id).Nodup) (limit : ℕ) :
    ((pickCandidates limit s).map Payout.id).Nodup := by
  have hperm := (List.perm_insertionSort dueBefore (s.payouts.filter (due s))).map Payout.id
  have hsorted := hperm.nodup_iff.mpr (hs.sublist (List.filter_sublist.map Payout.id))
  exact hsorted.sublist ((List.take_sublist _ _).map Payout.id)

/-- A payout that is due is in the batch, or the batch is full. -/
theorem mem_pickCandidates_or_full {limit : ℕ} {p : Payout} (hp : p ∈ s.payouts)
    (hdue : due s p = true) :
    p ∈ pickCandidates limit s ∨ (pickCandidates limit s).length = limit := by
  have hmem : p ∈ (s.payouts.filter (due s)).insertionSort dueBefore :=
    (List.mem_insertionSort dueBefore).mpr (List.mem_filter.mpr ⟨hp, hdue⟩)
  rcases Nat.lt_or_ge limit ((s.payouts.filter (due s)).insertionSort dueBefore).length with h | h
  · right
    rw [pickCandidates, List.length_take, Nat.min_eq_left h.le]
  · left
    rw [pickCandidates, List.take_of_length_le h]
    exact hmem

/-- What is in the batch is queued. -/
theorem queued_of_mem_pickCandidates (hs : (s.payouts.map Payout.id).Nodup) {limit : ℕ} {p : Payout}
    (hp : p ∈ pickCandidates limit s) : s.payoutState p.id = some .queued := by
  obtain ⟨hmem, hdue⟩ := mem_of_mem_pickCandidates hp
  have hfind : s.payout? p.id = some p := (Table.find_eq_some_iff hs).mpr hmem
  rw [Store.payoutState, hfind, Option.map_some, (of_decide_eq_true hdue).1]

/-- A tick that is switched on dispatches its batch. -/
theorem dispatch_run (henabled : config.dispatchEnabled = true ∧ config.payfast.enabled = true)
    (hpays : PaysArtists answers) (hs : (s.payouts.map Payout.id).Nodup) :
    BatchDone config (pickCandidates config.dispatchBatchSize s) s
      ((PayoutCall.dispatch.program config).run (.healthy answers) s).store
      ((PayoutCall.dispatch.program config).run (.healthy answers) s).exchanges := by
  let batch := pickCandidates config.dispatchBatchSize s
  obtain ⟨r, s', env, xs, hrun, hdone⟩ := dispatchAll_run config hpays
    (nodup_pickCandidates hs config.dispatchBatchSize)
    (fun p hp ↦ queued_of_mem_pickCandidates hs hp)
    ⟨batch.length, 0, 0, 0⟩
  have hcron : (cron config).run (.healthy answers) s = ⟨r, s', env, xs⟩ := by
    unfold cron
    rw [if_neg (by rw [henabled.1]; exact fun h ↦ by cases h),
      if_neg (by rw [henabled.2]; exact fun h ↦ by cases h)]
    exact (run_bind_ok_nil (run_read_healthy _ answers s)).trans hrun
  have hprogram : (PayoutCall.dispatch.program config).run (.healthy answers) s =
      (discard (cron config) : Engine Unit).run (.healthy answers) s := rfl
  cases r with
  | ok a =>
      rw [hprogram, run_discard hcron]
      exact hdone
  | error e =>
      rw [hprogram, run_discard_error hcron]
      exact hdone

end PayoutDispatcherJob

/-! ## One tick after the other -/

theorem PayoutsConfig.outcome_ne_queued (config : PayoutsConfig) (s : Store) (artistId : ℕ) :
    config.outcome s artistId ≠ .queued := by
  unfold outcome
  split
  · exact fun h ↦ by cases h
  · split
    · exact fun h ↦ by cases h
    · unfold claimedOutcome
      split
      · exact fun h ↦ by cases h
      · split
        · exact fun h ↦ by cases h
        · exact fun h ↦ by cases h

/-- A payout that is not in the batch of a tick stays in its state. -/
theorem BatchDone.state_of_notMem {config : PayoutsConfig} {limit : ℕ} {s s' : Store}
    {xs : List (GatewayRequest × GatewayReply)}
    (h : BatchDone config (PayoutDispatcherJob.pickCandidates limit s) s s' xs)
    (hs : (s.payouts.map Payout.id).Nodup) {p : Payout} (hp : p ∈ s.payouts)
    (hin : p ∉ PayoutDispatcherJob.pickCandidates limit s) :
    s'.payoutState p.id = some p.state := by
  have hnot : p.id ∉ (PayoutDispatcherJob.pickCandidates limit s).map Payout.id := by
    intro hid
    obtain ⟨q, hq, heq⟩ := List.mem_map.mp hid
    rw [List.inj_on_of_nodup_map hs (mem_of_mem_pickCandidates hq).1 hp heq] at hq
    exact hin hq
  have hfind : s.payout? p.id = some p := (Table.find_eq_some_iff hs).mpr hp
  rw [h.others p.id hnot, Store.payoutState, hfind]
  rfl

/-- After a tick the payouts that are due are those that were and are not in its batch. -/
theorem BatchDone.due_iff {config : PayoutsConfig} {limit : ℕ} {s s' : Store}
    {xs : List (GatewayRequest × GatewayReply)}
    (h : BatchDone config (PayoutDispatcherJob.pickCandidates limit s) s s' xs)
    (hs : (s.payouts.map Payout.id).Nodup) {f : Payout → Payout}
    (hf : ∀ p : Payout, p.SameTerms (f p)) (hpayouts : s'.payouts = s.payouts.map f) {x : Payout}
    (hx : x ∈ s.payouts) :
    PayoutDispatcherJob.due s' (f x) = true ↔
      PayoutDispatcherJob.due s x = true ∧ x ∉ PayoutDispatcherJob.pickCandidates limit s := by
  have hfind : s.payout? x.id = some x := (Table.find_eq_some_iff hs).mpr hx
  have hstate : s'.payoutState x.id = some (f x).state := by
    rw [Store.payoutState, Store.payout?, hpayouts, Table.find_map fun p ↦ (hf p).id]
    change ((s.payout? x.id).map f).map Payout.state = _
    rw [hfind]
    rfl
  have hrest : (f x).dispatchAfter ≤ s'.clock ∧ s'.refundInProgress (f x).holdId = false ↔
      x.dispatchAfter ≤ s.clock ∧ s.refundInProgress x.holdId = false := by
    rw [(hf x).dispatchAfter, (hf x).holdId, h.clock, h.write.refundInProgress]
  unfold PayoutDispatcherJob.due
  rw [decide_eq_true_iff, decide_eq_true_iff, hrest]
  by_cases hin : x ∈ PayoutDispatcherJob.pickCandidates limit s
  · have hne : (f x).state ≠ .queued := by
      have hdone := h.done x hin
      rw [hstate] at hdone
      rw [Option.some.inj hdone]
      exact config.outcome_ne_queued s x.artistId
    exact ⟨fun h ↦ absurd h.1 hne, fun h ↦ absurd hin h.2⟩
  · have hsame := h.state_of_notMem hs hx hin
    rw [hstate] at hsame
    rw [Option.some.inj hsame]
    exact ⟨fun h ↦ ⟨h, hin⟩, fun h ↦ h.1⟩

/-- After a tick, a payout that was due is done, or it is still due and fewer payouts are. -/
theorem tick_progress {config : PayoutsConfig} {answers : ℕ → GatewayReply} {s : Store}
    (henabled : config.dispatchEnabled = true ∧ config.payfast.enabled = true)
    (hsize : 0 < config.dispatchBatchSize) (hpays : PaysArtists answers)
    (hs : (s.payouts.map Payout.id).Nodup) {id : ℕ} {p : Payout} (hp : s.payout? id = some p)
    (hdue : PayoutDispatcherJob.due s p = true) :
    let r := (PayoutCall.dispatch.program config).run (.healthy answers) s
    PayoutWrite s r.store ∧
      ((r.store.payoutState id = some (config.outcome s p.artistId) ∧
          (config.outcome s p.artistId = .succeeded → ∃ x ∈ r.exchanges, paysFor id x = true)) ∨
        ((∃ p', r.store.payout? id = some p' ∧ p'.artistId = p.artistId ∧
            PayoutDispatcherJob.due r.store p' = true) ∧
          r.store.payouts.countP (PayoutDispatcherJob.due r.store) <
            s.payouts.countP (PayoutDispatcherJob.due s))) := by
  intro r
  have hdone := PayoutDispatcherJob.dispatch_run henabled hpays hs
  obtain ⟨hmem, rfl⟩ := Table.find_some hp
  refine ⟨hdone.write, ?_⟩
  by_cases hin : p ∈ PayoutDispatcherJob.pickCandidates config.dispatchBatchSize s
  · exact .inl ⟨hdone.done p hin, hdone.asked p hin⟩
  · right
    obtain ⟨f, hf, hpayouts⟩ := hdone.write.payouts
    have hiff := fun x hx ↦ hdone.due_iff hs hf hpayouts (x := x) hx
    refine ⟨⟨f p, ?_, (hf p).artistId, (hiff p hmem).mpr ⟨hdue, hin⟩⟩, ?_⟩
    · rw [Store.payout?, hpayouts, Table.find_map fun p ↦ (hf p).id]
      exact congrArg (Option.map f) hp
    · -- the batch is full, and none of it is due any more
      have hfull := (PayoutDispatcherJob.mem_pickCandidates_or_full hmem hdue).resolve_left hin
      obtain ⟨y, hy⟩ := List.exists_mem_of_length_pos (hfull ▸ hsize)
      obtain ⟨hymem, hydue⟩ := mem_of_mem_pickCandidates hy
      rw [hpayouts, List.countP_map]
      refine Table.countP_lt (fun x hx hxdue ↦ ((hiff x hx).mp hxdue).1) hymem hydue ?_
      rw [Function.comp_apply, Bool.eq_false_iff]
      exact fun h ↦ ((hiff y hymem).mp h).2 hy

/-- The ticks that follow one another in a store. -/
def ticks (config : PayoutsConfig) (n : ℕ) : List (Engine Unit) :=
  List.replicate n (PayoutCall.dispatch.program config)

/-- A payout that is due ends as the bank details of its artist decide, after as many ticks as it
takes: by induction on the number of payouts that are due. -/
theorem exists_ticks {config : PayoutsConfig} {answers : ℕ → GatewayReply} {s : Store}
    (henabled : config.dispatchEnabled = true ∧ config.payfast.enabled = true)
    (hsize : 0 < config.dispatchBatchSize) (hpays : PaysArtists answers)
    (hs : (s.payouts.map Payout.id).Nodup) {id : ℕ} {p : Payout} (hp : s.payout? id = some p)
    (hdue : PayoutDispatcherJob.due s p = true) :
    ∃ n, PayoutWrite s (runAll (.healthy answers) (ticks config n) s).1 ∧
      (runAll (.healthy answers) (ticks config n) s).1.payoutState id =
        some (config.outcome s p.artistId) ∧
      (config.outcome s p.artistId = .succeeded →
        ∃ x ∈ (runAll (.healthy answers) (ticks config n) s).2, paysFor id x = true) := by
  generalize hcount : s.payouts.countP (PayoutDispatcherJob.due s) = count
  induction count using Nat.strongRecOn generalizing s p with
  | ind count ih =>
      have hstep : ∀ n, runAll (.healthy answers) (ticks config (n + 1)) s = _ :=
        fun n ↦ runAll_cons _ (PayoutCall.dispatch.program config) (ticks config n) s
      obtain ⟨hwrite, ⟨hdone, hasked⟩ | ⟨⟨p', hp', hartist, hdue'⟩, hless⟩⟩ :=
        tick_progress henabled hsize hpays hs hp hdue
      · refine ⟨1, ?_⟩
        rw [hstep 0]
        refine ⟨hwrite, hdone, fun hout ↦ ?_⟩
        obtain ⟨x, hx, hpaid⟩ := hasked hout
        exact ⟨x, List.mem_append_left _ hx, hpaid⟩
      · have hof : s.PayoutOf id (fun _ ↦ True) (fun _ ↦ True) :=
          ⟨hs, fun _ _ _ ↦ trivial, fun _ _ ↦ trivial⟩
        have hs' := (hwrite.payoutOf hof).distinct
        obtain ⟨n, hwrite', hdone, hasked⟩ := ih _ (hcount ▸ hless) hs' hp' hdue' rfl
        rw [hwrite.outcome, hartist] at hdone hasked
        refine ⟨n + 1, ?_⟩
        rw [hstep n]
        refine ⟨hwrite.trans hwrite', hdone, fun hout ↦ ?_⟩
        obtain ⟨x, hx, hpaid⟩ := hasked hout
        exact ⟨x, List.mem_append_right _ hx, hpaid⟩

end GearshPayments
