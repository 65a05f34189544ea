import GearshPayments.Payouts.Stages
import Mathlib.Algebra.Order.BigOperators.Group.List

/-!
# A payout is paid once

Dispatcher ticks, the retry job and the admin's calls on payouts run side by side.  The
right to pay a payout is a token: a queued or failed payout holds it, a claim hands it to
the tick that made it, and a payment uses it up (`PaidOnce`).  The guarded updates only
pass it on.  An admin's retry writes by id alone: where the payout has been claimed or
paid since the retry read it, the write makes a second token.
-/

namespace GearshPayments

open Resumption

/-- How often the gateway was asked for the payout and answered that it paid. -/
def paidTimes (id : ℕ) (log : List (ℕ × GatewayRequest × GatewayReply)) : ℕ :=
  log.countP fun x ↦ paysFor id x.2

/-- Where an admin's retry of the payout writes, the payout has failed or is queued. -/
def RetryFindsFailed (calls : List PayoutCall) (id i : ℕ) (s s' : Store) : Prop :=
  calls[i]? = some (.retry id) → s' ≠ s →
    s.payoutState id = some .failed ∨ s.payoutState id = some .queued

/-- A party that has claimed the payout holds the token. -/
@[simp] def PayoutStage.claims : PayoutStage → ℤ
  | .claimed => 1
  | _ => 0

theorem PayoutStage.claims_nonneg (v : PayoutStage) : 0 ≤ v.claims := by
  cases v <;> decide

/-- The stages that a call can be at, as far as they can be told from the call. -/
structure PayoutCall.Fits (id : ℕ) (c : PayoutCall) (v : PayoutStage) : Prop where
  retrying : v = .retrying → c = .retry id
  cancelling : v = .cancelling → ∃ reason, c = .cancel id reason
  cancels : ∀ reason, c = .cancel id reason → v = .cancelling ∨ v = .cancelled

/-- The tokens that a payout holds; `c` is what a cancelled one holds. -/
@[simp] def PayoutState.tokens (c : ℤ) : PayoutState → ℤ
  | .queued => 1
  | .failed => 1
  | .cancelled => c
  | .processing => 0
  | .succeeded => 0

/-- The token is held in one place at most: by the payout, by a party that has claimed it, or
by the gateway that has paid. -/
structure PaidOnce (calls : List PayoutCall) (id artistId : ℕ) (verified : Bool) (c : ℤ)
    (s : Store) (vs : List PayoutStage) (log : List (ℕ × GatewayRequest × GatewayReply)) :
    Prop where
  payout : s.PayoutOf id (· = artistId) (· = verified)
  fits : ∀ (i : ℕ) v, vs[i]? = some v → ∃ c, calls[i]? = some c ∧ c.Fits id v
  once : verified = true →
    paidTimes id log + (vs.map PayoutStage.claims).sum +
      (s.payoutState id).elim 0 (PayoutState.tokens c) ≤ 1
  paid : ∀ (i : ℕ) v, vs[i]? = some v → v = .paid → 0 < paidTimes id log
  unverified : verified = false →
    paidTimes id log = 0 ∧ ∀ (i : ℕ) v, vs[i]? = some v → v ≠ .claimed

namespace PayoutCall

variable {id : ℕ} {V : Bool → Prop} {v v' : PayoutStage} {q q' : Option PayoutState}

theorem fits_idle {c : PayoutCall} (h : ∀ reason, c ≠ .cancel id reason) : c.Fits id .idle where
  retrying := fun hv ↦ by cases hv
  cancelling := fun hv ↦ by cases hv
  cancels := fun reason hc ↦ absurd hc (h reason)

theorem fits_stage (c : PayoutCall) : c.Fits id (c.stage id) := by
  cases c with
  | dispatch => exact fits_idle fun _ h ↦ by cases h
  | retryFailed => exact fits_idle fun _ h ↦ by cases h
  | tick clock => exact fits_idle fun _ h ↦ by cases h
  | retry k =>
      by_cases hk : k = id
      · have hstage : (PayoutCall.retry k).stage id = .retrying := if_pos hk
        rw [hstage, hk]
        exact ⟨fun _ ↦ rfl, fun h ↦ (by cases h), fun _ h ↦ (by cases h)⟩
      · have hstage : (PayoutCall.retry k).stage id = .idle := if_neg hk
        rw [hstage]
        exact fits_idle fun _ h ↦ by cases h
  | cancel k reason =>
      by_cases hk : k = id
      · have hstage : (PayoutCall.cancel k reason).stage id = .cancelling := if_pos hk
        rw [hstage, hk]
        exact ⟨fun h ↦ (by cases h), fun _ ↦ ⟨reason, rfl⟩, fun _ _ ↦ .inl rfl⟩
      · have hstage : (PayoutCall.cancel k reason).stage id = .idle := if_neg hk
        rw [hstage]
        exact fits_idle fun _ h ↦ hk (by cases h; rfl)

theorem idle_ne : PayoutStage.idle ≠ .paid ∧ PayoutStage.idle ≠ .claimed := by decide

theorem stage_ne (id : ℕ) (c : PayoutCall) : c.stage id ≠ .paid ∧ c.stage id ≠ .claimed := by
  cases c with
  | retry k =>
      change retryStage id k ≠ _ ∧ retryStage id k ≠ _
      unfold retryStage
      split <;> decide
  | cancel k reason =>
      change cancelStage id k ≠ _ ∧ cancelStage id k ≠ _
      unfold cancelStage
      split <;> decide
  | dispatch => exact idle_ne
  | retryFailed => exact idle_ne
  | tick clock => exact idle_ne

theorem stage_ne_cancelled (id : ℕ) (c : PayoutCall) : c.stage id ≠ .cancelled := by
  cases c with
  | retry k =>
      change retryStage id k ≠ _
      unfold retryStage
      split <;> decide
  | cancel k reason =>
      change cancelStage id k ≠ _
      unfold cancelStage
      split <;> decide
  | dispatch => exact fun h ↦ (by cases h)
  | retryFailed => exact fun h ↦ (by cases h)
  | tick clock => exact fun h ↦ (by cases h)

theorem claims_stage (c : PayoutCall) : (c.stage id).claims = 0 := by
  have hne := (c.stage_ne id).2
  cases hs : c.stage id with
  | claimed => exact absurd hs hne
  | _ => rfl

/-- A call that is not a cancel never comes to look like one. -/
theorem Fits.change {c : PayoutCall} (h : c.Fits id v) (hv : v ≠ .cancelling ∧ v ≠ .cancelled)
    (hv' : v' ≠ .retrying ∧ v' ≠ .cancelling) : c.Fits id v' where
  retrying := fun h ↦ absurd h hv'.1
  cancelling := fun h ↦ absurd h hv'.2
  cancels := by
    intro reason hc
    rcases h.cancels reason hc with h | h
    · exact absurd h hv.1
    · exact absurd h hv.2

theorem Fits.move {c : PayoutCall} (h : c.Fits id v) (hm : PayoutMove V v q q' v') :
    c.Fits id v' := by
  have hpicked : PayoutStage.picked ≠ .retrying ∧ PayoutStage.picked ≠ .cancelling := by decide
  cases hm with
  | stay => exact h
  | pick => exact h.change (by decide) hpicked
  | leave hv =>
      refine h.change ?_ hpicked
      rcases hv with rfl | rfl | rfl <;> decide
  | claim => exact h.change (by decide) (by decide)
  | refuse => exact h
  | fail => exact h.change (by decide) hpicked
  | succeed => exact h.change (by decide) hpicked
  | requeue => exact h
  | retry => exact h.change (by decide) (by decide)
  | cancel => exact ⟨fun h ↦ (by cases h), fun h ↦ (by cases h), fun _ _ ↦ .inr rfl⟩
  | alreadyCancelled => exact ⟨fun h ↦ (by cases h), fun h ↦ (by cases h), fun _ _ ↦ .inr rfl⟩

theorem Fits.answer {c : PayoutCall} {artistId : ℕ} {request : GatewayRequest}
    {reply : GatewayReply} (h : c.Fits id v)
    (ha : (payoutMonitor id (· = artistId) (· = verified)).Asks v request reply v') :
    c.Fits id v' := by
  obtain ⟨input, -, ⟨-, rfl⟩ | ⟨-, rfl, rfl⟩⟩ := ha
  · exact h
  · refine h.change (by decide) ?_
    split <;> decide

end PayoutCall

theorem PayoutState.tokens_nonneg {c : ℤ} (hc : 0 ≤ c) (q : PayoutState) : 0 ≤ q.tokens c := by
  cases q with
  | cancelled => exact hc
  | _ => simp

theorem tokens_elim_nonneg {c : ℤ} (hc : 0 ≤ c) (q : Option PayoutState) :
    0 ≤ q.elim 0 (PayoutState.tokens c) := by
  cases q with
  | none => exact le_refl _
  | some q => exact q.tokens_nonneg hc

theorem PayoutState.tokens_le_one {c : ℤ} (hc : c ≤ 1) (q : PayoutState) : q.tokens c ≤ 1 := by
  cases q with
  | cancelled => exact hc
  | _ => simp

/-- A move passes the token on, where an admin finds what the check asked for. -/
theorem PayoutMove.tokens {c : ℤ} (hc : 0 ≤ c) {v v' : PayoutStage} {q q' : Option PayoutState}
    (h : PayoutMove (· = true) v q q' v')
    (hretry : v = .retrying → q' ≠ q → q = some .failed ∨ q = some .queued)
    (hcancel : v = .cancelling → q' ≠ q → c ≤ q.elim 0 (PayoutState.tokens c)) :
    v'.claims + q'.elim 0 (PayoutState.tokens c) ≤ v.claims + q.elim 0 (PayoutState.tokens c) := by
  cases h with
  | stay => exact le_refl _
  | pick => simp
  | leave hv => simpa using v.claims_nonneg
  | claim => simp
  | refuse hb => cases hb
  | fail hq => rcases hq with rfl | rfl <;> simp
  | succeed q => simpa using q.tokens_nonneg hc
  | requeue => simp
  | retry q =>
      by_cases hne : some PayoutState.queued = some q
      · rw [← hne]
        simp
      · rcases hretry rfl hne with h | h
        · rw [h]
          simp
        · rw [h]
          simp
  | cancel q =>
      by_cases hne : some PayoutState.cancelled = some q
      · rw [← hne]
        simp
      · simpa using hcancel rfl hne
  | alreadyCancelled => simp

theorem PayoutMove.paid {V : Bool → Prop} {v : PayoutStage} {q q' : Option PayoutState}
    (h : PayoutMove V v q q' .paid) : v = .paid := by
  cases h
  rfl

/-- Without verified bank details nothing is claimed. -/
theorem PayoutMove.claimed {v : PayoutStage} {q q' : Option PayoutState}
    (h : PayoutMove (· = false) v q q' .claimed) : v = .claimed := by
  cases h with
  | stay => rfl
  | claim hb => cases hb

/-- An exchange uses up the token of the party that was paid. -/
theorem paidTimes_append (id : ℕ) (log : List (ℕ × GatewayRequest × GatewayReply)) (i : ℕ)
    (x : GatewayRequest × GatewayReply) :
    paidTimes id (log ++ [(i, x)]) = paidTimes id log + if paysFor id x then 1 else 0 := by
  rw [paidTimes, List.countP_append, List.countP_singleton]
  rfl

namespace PaidOnce

variable {calls : List PayoutCall} {id artistId : ℕ} {verified : Bool} {c : ℤ} {s s' : Store}
  {vs : List PayoutStage} {log : List (ℕ × GatewayRequest × GatewayReply)} {i : ℕ}
  {v v' : PayoutStage}

theorem written (h : PaidOnce calls id artistId verified c s vs log) (hc : 0 ≤ c)
    (hv : vs[i]? = some v) (hw : (payoutMonitor id (· = artistId) (· = verified)).Writes v s s' v')
    (hretry : v = .retrying → s'.payoutState id ≠ s.payoutState id →
      s.payoutState id = some .failed ∨ s.payoutState id = some .queued)
    (hcancel : v = .cancelling → s'.payoutState id ≠ s.payoutState id →
      c ≤ (s.payoutState id).elim 0 (PayoutState.tokens c)) :
    PaidOnce calls id artistId verified c s' (vs.set i v') log where
  payout := hw.write.payoutOf h.payout
  fits := by
    obtain ⟨call, hcall, hfits⟩ := h.fits i v hv
    exact Pool.forall_set h.fits ⟨call, hcall, hfits.move hw.move⟩
  once := by
    intro hb
    subst hb
    have hold := h.once rfl
    have htokens := hw.move.tokens hc hretry hcancel
    rw [Pool.sum_map_set _ hv]
    omega
  paid := by
    refine Pool.forall_set h.paid fun hp ↦ ?_
    subst hp
    exact h.paid i v hv hw.move.paid
  unverified := by
    intro hb
    refine ⟨(h.unverified hb).1, Pool.forall_set (h.unverified hb).2 fun hclaimed ↦ ?_⟩
    subst hb hclaimed
    exact (h.unverified rfl).2 i v hv hw.move.claimed

theorem asked (h : PaidOnce calls id artistId verified c s vs log) (hv : vs[i]? = some v)
    {request : GatewayRequest} {reply : GatewayReply}
    (ha : (payoutMonitor id (· = artistId) (· = verified)).Asks v request reply v') :
    PaidOnce calls id artistId verified c s (vs.set i v') (log ++ [(i, request, reply)]) := by
  have hfits : ∀ (j : ℕ) w, (vs.set i v')[j]? = some w →
      ∃ c, calls[j]? = some c ∧ c.Fits id w := by
    obtain ⟨call, hcall, hfits⟩ := h.fits i v hv
    exact Pool.forall_set h.fits ⟨call, hcall, hfits.answer ha⟩
  obtain ⟨input, rfl, ⟨href, rfl⟩ | ⟨href, rfl, rfl⟩⟩ := ha
  · -- another payout
    have hpays : paysFor id (.adhocPayment input, reply) = false := by
      simp [paysFor, href]
    have htimes : paidTimes id (log ++ [(i, .adhocPayment input, reply)]) = paidTimes id log := by
      rw [paidTimes_append, hpays]
      rfl
    have hset : vs.set i v' = vs := by
      obtain ⟨hlt, rfl⟩ := List.getElem?_eq_some_iff.mp hv
      exact List.set_getElem_self hlt
    rw [hset] at hfits ⊢
    exact ⟨h.payout, hfits, by rw [htimes]; exact h.once, by rw [htimes]; exact h.paid,
      by rw [htimes]; exact h.unverified⟩
  · have hpays : paysFor id (.adhocPayment input, reply) = reply.paid := by
      simp [paysFor, href]
    have htimes := paidTimes_append id log i (.adhocPayment input, reply)
    rw [hpays] at htimes
    constructor
    case payout => exact h.payout
    case fits => exact hfits
    case once =>
      intro hb
      have hold := h.once hb
      rw [Pool.sum_map_set _ hv, htimes]
      cases reply.paid with
      | true =>
          simp only [PayoutStage.claims, if_true, Nat.cast_add, Nat.cast_one] at hold ⊢
          omega
      | false =>
          simp only [PayoutStage.claims, if_false, Bool.false_eq_true, add_zero] at hold ⊢
          omega
    case paid =>
      rw [htimes]
      refine Pool.forall_set (fun j w hj hw ↦ Nat.add_pos_left (h.paid j w hj hw) _) fun hp ↦ ?_
      cases hr : reply.paid with
      | true => exact Nat.succ_pos _
      | false =>
          rw [hr] at hp
          cases hp
    case unverified =>
      intro hb
      exact absurd rfl ((h.unverified hb).2 i _ hv)

/-- At the start nobody has claimed the payout, and nothing has been paid. -/
theorem start (hdistinct : (s.payouts.map Payout.id).Nodup) (hc : c ≤ 1)
    (hartist : ∀ p ∈ s.payouts, p.id = id → p.artistId = artistId)
    (hverified : s.hasVerifiedMethod artistId = verified) (calls : List PayoutCall) :
    PaidOnce calls id artistId verified c s (calls.map (·.stage id)) [] := by
  have hstage : ∀ (i : ℕ) v, (calls.map (·.stage id))[i]? = some v →
      ∃ call, calls[i]? = some call ∧ v = call.stage id := by
    intro i v hv
    rw [List.getElem?_map] at hv
    obtain ⟨call, hcall, rfl⟩ := Option.map_eq_some_iff.mp hv
    exact ⟨call, hcall, rfl⟩
  constructor
  case payout => exact ⟨hdistinct, hartist, fun _ ha ↦ by rw [ha, hverified]⟩
  case fits =>
    intro i v hv
    obtain ⟨call, hcall, rfl⟩ := hstage i v hv
    exact ⟨call, hcall, call.fits_stage⟩
  case once =>
    intro _
    have hclaims : ((calls.map (·.stage id)).map PayoutStage.claims).sum = 0 := by
      refine List.sum_eq_zero fun x hx ↦ ?_
      rw [List.map_map] at hx
      obtain ⟨call, -, rfl⟩ := List.mem_map.mp hx
      exact call.claims_stage
    rw [hclaims]
    cases s.payoutState id with
    | none => simp [paidTimes]
    | some q => simpa [paidTimes] using q.tokens_le_one hc
  case paid =>
    intro i v hv hp
    obtain ⟨call, -, rfl⟩ := hstage i v hv
    exact absurd hp (call.stage_ne id).1
  case unverified =>
    refine fun _ ↦ ⟨rfl, fun i v hv hp ↦ ?_⟩
    obtain ⟨call, -, rfl⟩ := hstage i v hv
    exact absurd hp (call.stage_ne id).2

/-- There are no more payments than tokens. -/
theorem paid_le (h : PaidOnce calls id artistId verified c s vs log) (hc : c ≤ 1) :
    paidTimes id log + (s.payoutState id).elim 0 (PayoutState.tokens c) ≤ 1 := by
  cases verified with
  | true =>
      have honce := h.once rfl
      have hclaims : 0 ≤ (vs.map PayoutStage.claims).sum := by
        refine List.sum_nonneg fun x hx ↦ ?_
        obtain ⟨v, -, rfl⟩ := List.mem_map.mp hx
        exact v.claims_nonneg
      omega
  | false =>
      rw [(h.unverified rfl).1]
      cases s.payoutState id with
      | none => simp
      | some q => simpa using q.tokens_le_one hc

theorem paidTimes_le (h : PaidOnce calls id artistId verified c s vs log) (h₀ : 0 ≤ c)
    (h₁ : c ≤ 1) : paidTimes id log ≤ 1 := by
  have hle := h.paid_le h₁
  have hpos := tokens_elim_nonneg h₀ (s.payoutState id)
  omega

end PaidOnce

/-! ## Runs -/

section Runs

variable (config : PayoutsConfig) {s : Store} (calls : List PayoutCall)

theorem PayoutCall.conforming (id artistId : ℕ) (verified : Bool) :
    Pool.Conforming (payoutMonitor id (· = artistId) (· = verified)) Unfinished
      (PayoutCall.pool config s calls).threads (calls.map (·.stage id)) := by
  intro i p hp
  change (calls.map _)[i]? = some p at hp
  rw [List.getElem?_map] at hp
  obtain ⟨c, hc, rfl⟩ := Option.map_eq_some_iff.mp hp
  refine ⟨c.stage id, ?_, c.conforms config⟩
  rw [List.getElem?_map, hc, Option.map_some]

/-- The artist of the payout. -/
def Store.artistOf (s : Store) (id : ℕ) : ℕ := (s.payout? id).elim 0 Payout.artistId

theorem Store.artistId_eq_artistOf (hdistinct : (s.payouts.map Payout.id).Nodup) {id : ℕ} :
    ∀ p ∈ s.payouts, p.id = id → p.artistId = s.artistOf id := by
  rintro p hp rfl
  rw [artistOf, payout?, (Table.find_eq_some_iff hdistinct).mpr hp]
  rfl

/-- In a run of dispatcher ticks, retry jobs and an admin's retries and cancels in which
every retry finds the payout failed or queued where it writes, the gateway pays the payout
at most once. -/
theorem paid_at_most_once (hdistinct : (s.payouts.map Payout.id).Nodup) (id : ℕ)
    {ts : List (Turn GatewayReply Failure)}
    (hfinds : Transition.Along (Pool.step next)
      (fun P t ↦ RetryFindsFailed calls id t.thread P.store (Pool.step next P t).store)
      (PayoutCall.pool config s calls) ts) :
    paidTimes id (Pool.run next (PayoutCall.pool config s calls) ts).log ≤ 1 := by
  have hwrites : ∀ {s₁ vs log} {i : ℕ} {v s₂ v'},
      PaidOnce calls id (s.artistOf id) (s.hasVerifiedMethod (s.artistOf id)) 0 s₁ vs log →
      vs[i]? = some v → (payoutMonitor id (· = s.artistOf id)
        (· = s.hasVerifiedMethod (s.artistOf id))).Writes v s₁ s₂ v' →
      RetryFindsFailed calls id i s₁ s₂ →
        PaidOnce calls id (s.artistOf id) (s.hasVerifiedMethod (s.artistOf id)) 0 s₂
        (vs.set i v') log := by
    intro s₁ vs log i v s₂ v' h hv hw hD
    refine h.written le_rfl hv hw (fun hr hne ↦ ?_) fun _ _ ↦ ?_
    · obtain ⟨call, hcall, hfits⟩ := h.fits i v hv
      rw [hfits.retrying hr] at hcall
      exact hD hcall fun heq ↦ hne (by rw [heq])
    · exact tokens_elim_nonneg le_rfl _
  obtain ⟨vs, hpaid⟩ := Pool.conforms_run
    (D := RetryFindsFailed calls id)
    (J := PaidOnce calls id (s.artistOf id) (s.hasVerifiedMethod (s.artistOf id)) 0)
    (fun h _ ↦ h.payout) hwrites (fun h hv ha ↦ h.asked hv ha)
    (PayoutCall.conforming config calls id _ _)
    (PaidOnce.start hdistinct zero_le_one (Store.artistId_eq_artistOf hdistinct) rfl calls) hfinds
  exact hpaid.paidTimes_le le_rfl zero_le_one

end Runs

namespace Sample

/-- Both jobs enabled and the gateway configured; account numbers are stored as they are. -/
def payouts : PayoutsConfig where
  dispatchEnabled := true
  retryEnabled := true
  maxAttempts := 5
  dispatchBatchSize := 50
  payfast := ⟨⟨true, none, some "10000100"⟩, some "https://api.payfast.co.za/adhoc"⟩
  decrypt := .ok

/-- Nine rand for the artist. -/
def payout (state : PayoutState) : Payout where
  id := 1
  artistId := 4
  holdId := 11
  amountCents := 900
  currency := .zar
  state := state
  dispatchAfter := 0
  gatewayPayoutId := none
  attemptedAt := none
  completedAt := none
  cancelledAt := none
  cancellationReason := none
  failureReason := none
  attempts := 0
  failedAt := some 0
  createdAt := 0

def method : ArtistPayoutMethod where
  id := 2
  artistUserId := 4
  bankName := "FNB"
  accountHolderName := "A. Artist"
  accountNumberEncrypted := "62000000001"
  branchCode := "250655"
  accountType := .cheque
  isVerified := true
  verifiedAt := some 0
  verifiedBy := some 9
  lastUsedAt := none
  createdAt := 0

/-- A day later. -/
def owing (state : PayoutState) : Store :=
  { Store.empty 86400000 10 [] with
    payouts := [payout state]
    artistPayoutMethods := [method] }

/-- The gateway pays. -/
def paysArtist : GatewayReply := .resolved 200 none (some "po-1") none

/-- A tick of the dispatcher that pays the payout. -/
def payingTick (i : ℕ) : List (Turn GatewayReply Failure) :=
  List.replicate 4 ⟨i, .act⟩ ++ [⟨i, .answer paysArtist⟩] ++ List.replicate 2 ⟨i, .act⟩

def retryCalls : List PayoutCall := [.retry 1, .retryFailed, .dispatch, .dispatch]

/-- An admin's retry has read the row; the retry job requeues it, it is paid, and the retry
writes. -/
def staleRetry : List (Turn GatewayReply Failure) :=
  [⟨0, .act⟩] ++ List.replicate 3 ⟨1, .act⟩ ++ payingTick 2 ++ [⟨0, .act⟩]

end Sample

/-- A retry that writes late has a payout paid twice. -/
theorem paid_twice :
    ¬∀ (config : PayoutsConfig) (s : Store) (calls : List PayoutCall),
      (s.payouts.map Payout.id).Nodup → ∀ (id : ℕ) (ts : List (Turn GatewayReply Failure)),
        paidTimes id (Pool.run next (PayoutCall.pool config s calls) ts).log ≤ 1 := by
  intro h
  have htwice : paidTimes 1 (Pool.run next (PayoutCall.pool Sample.payouts (Sample.owing .failed)
      Sample.retryCalls) (Sample.staleRetry ++ Sample.payingTick 3)).log = 2 := by decide
  have hle := h Sample.payouts (Sample.owing .failed) Sample.retryCalls (by decide) 1
    (Sample.staleRetry ++ Sample.payingTick 3)
  rw [htwice] at hle
  omega

/-- An admin has a failed payout requeued, and it is paid. -/
theorem paid_at_most_once_sample :
    paidTimes 1 (Pool.run next (PayoutCall.pool Sample.payouts (Sample.owing .failed)
      [.retry 1, .dispatch]) (List.replicate 2 ⟨0, .act⟩ ++ Sample.payingTick 1)).log ≤ 1 := by
  refine paid_at_most_once Sample.payouts _ (by decide) 1 ?_
  have hother : ∀ s s', RetryFindsFailed [.retry 1, .dispatch] 1 1 s s' := fun _ _ h ↦ by cases h
  refine ⟨fun _ _ ↦ .inl rfl, fun _ _ ↦ .inl rfl, ?_⟩
  exact ⟨hother _ _, hother _ _, hother _ _, hother _ _, hother _ _, hother _ _,
    hother _ _, trivial⟩

end GearshPayments
