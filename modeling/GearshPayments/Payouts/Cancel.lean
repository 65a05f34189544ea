import GearshPayments.Payouts.Once

/-!
# A cancelled payout is not paid

The admin's cancel reads the row, checks that it is queued and writes by id alone, while a
dispatcher tick may have claimed the payout and had it paid.  Where both of the admin's
writes find the row as their checks did, a cancelled payout keeps the token of
`Payouts/Once.lean` for good: nobody can claim it any more, and nobody was paid for it.
-/

namespace GearshPayments

open Resumption

/-- Where an admin's cancel of the payout writes, the payout is queued or cancelled. -/
def CancelFindsQueued (calls : List PayoutCall) (id i : ℕ) (s s' : Store) : Prop :=
  ∀ reason, calls[i]? = some (.cancel id reason) → s' ≠ s →
    s.payoutState id = some .queued ∨ s.payoutState id = some .cancelled

/-- Both writes of the admin find the payout as it was checked. -/
def AdminFindsChecked (calls : List PayoutCall) (id i : ℕ) (s s' : Store) : Prop :=
  RetryFindsFailed calls id i s s' ∧ CancelFindsQueued calls id i s s'

/-- What a cancel promises: when it has returned, the payout has not been paid and will not
be, and a payout that is cancelled or has succeeded stays so. -/
structure CancelledForGood (calls : List PayoutCall) (id : ℕ) (P : EnginePool)
    (ts : List (Turn GatewayReply Failure)) : Prop where
  unpaid : ∀ (i : ℕ) reason, calls[i]? = some (.cancel id reason) →
    (Pool.run next P ts).threads[i]? = some (.ret ()) → paidTimes id (Pool.run next P ts).log = 0
  final : ∀ ts₁ ts₂ q, ts = ts₁ ++ ts₂ → q = .cancelled ∨ q = .succeeded →
    (Pool.run next P ts₁).store.payoutState id = some q →
      (Pool.run next P ts).store.payoutState id = some q

/-- A final state is left only by an admin's write, or for success by a party that was
paid. -/
theorem PayoutMove.final {V : Bool → Prop} {v v' : PayoutStage} {q : PayoutState}
    {q' : Option PayoutState} (h : PayoutMove V v (some q) q' v')
    (hq : q = .cancelled ∨ q = .succeeded) (hpaid : v = .paid → q ≠ .cancelled)
    (hretry : v = .retrying → q' = some q)
    (hcancel : v = .cancelling → q' = some q ∨ q = .cancelled) :
    q' = some q := by
  cases h with
  | stay => rfl
  | pick => rfl
  | leave => rfl
  | claim => rcases hq with h | h <;> cases h
  | refuse hb hopen => rcases hopen with rfl | rfl <;> rcases hq with h | h <;> cases h
  | fail hopen => rcases hopen with rfl | rfl <;> rcases hq with h | h <;> cases h
  | succeed =>
      rcases hq with h | h
      · exact absurd h (hpaid rfl)
      · rw [h]
  | requeue => rcases hq with h | h <;> cases h
  | retry => exact hretry rfl
  | cancel =>
      rcases hcancel rfl with h | h
      · exact h
      · rw [h]
  | alreadyCancelled => rfl

/-- The token is held in one place, by the payout if it has been cancelled. -/
structure CancelKept (calls : List PayoutCall) (id artistId : ℕ) (verified : Bool) (s : Store)
    (vs : List PayoutStage) (log : List (ℕ × GatewayRequest × GatewayReply)) : Prop
    extends PaidOnce calls id artistId verified 1 s vs log where
  cancelled : ∀ (i : ℕ) v, vs[i]? = some v → v = .cancelled → s.payoutState id = some .cancelled

theorem PayoutMove.cancelled {V : Bool → Prop} {v : PayoutStage} {q q' : Option PayoutState}
    (h : PayoutMove V v q q' .cancelled) : v = .cancelled ∧ q' = q ∨ q' = some .cancelled := by
  cases h with
  | stay => exact .inl ⟨rfl, rfl⟩
  | cancel => exact .inr rfl
  | alreadyCancelled => exact .inr rfl

namespace CancelKept

variable {calls : List PayoutCall} {id artistId : ℕ} {verified : Bool} {s s' : Store}
  {vs : List PayoutStage} {log : List (ℕ × GatewayRequest × GatewayReply)} {i : ℕ}
  {v v' : PayoutStage} {q : PayoutState}

/-- A cancelled payout has not been paid. -/
theorem unpaid (h : CancelKept calls id artistId verified s vs log)
    (hq : s.payoutState id = some .cancelled) : paidTimes id log = 0 := by
  have hle := h.paid_le le_rfl
  rw [hq] at hle
  simp only [Option.elim, PayoutState.tokens] at hle
  omega

/-- A final state stays. -/
theorem final (h : CancelKept calls id artistId verified s vs log) (hv : vs[i]? = some v)
    (hw : (payoutMonitor id (· = artistId) (· = verified)).Writes v s s' v')
    (hD : AdminFindsChecked calls id i s s') (hq : q = .cancelled ∨ q = .succeeded)
    (hs : s.payoutState id = some q) : s'.payoutState id = some q := by
  obtain ⟨call, hcall, hfits⟩ := h.fits i v hv
  have hmove := hw.move
  rw [hs] at hmove
  refine hmove.final hq (fun hp hc ↦ ?_) (fun hr ↦ ?_) fun hc ↦ ?_
  · have hpos := h.paid i v hv hp
    rw [h.unpaid (hs.trans (congrArg some hc))] at hpos
    exact absurd hpos (lt_irrefl 0)
  · rw [hfits.retrying hr] at hcall
    by_cases hne : s' = s
    · rw [hne, hs]
    · have hfound := hD.1 hcall hne
      rw [hs] at hfound
      rcases hq with rfl | rfl <;> rcases hfound with h | h <;> cases h
  · obtain ⟨reason, rfl⟩ := hfits.cancelling hc
    by_cases hne : s' = s
    · left
      rw [hne, hs]
    · have hfound := hD.2 reason hcall hne
      rw [hs] at hfound
      rcases hfound with h | h
      · rcases hq with rfl | rfl <;> cases h
      · cases h
        exact .inr rfl

theorem written (h : CancelKept calls id artistId verified s vs log) (hv : vs[i]? = some v)
    (hw : (payoutMonitor id (· = artistId) (· = verified)).Writes v s s' v')
    (hD : AdminFindsChecked calls id i s s') :
    CancelKept calls id artistId verified s' (vs.set i v') log where
  toPaidOnce := by
    obtain ⟨call, hcall, hfits⟩ := h.fits i v hv
    refine h.toPaidOnce.written zero_le_one hv hw (fun hr hne ↦ ?_) fun hc hne ↦ ?_
    · rw [hfits.retrying hr] at hcall
      exact hD.1 hcall fun heq ↦ hne (by rw [heq])
    · obtain ⟨reason, rfl⟩ := hfits.cancelling hc
      rcases hD.2 reason hcall fun heq ↦ hne (by rw [heq]) with h | h
      · rw [h]
        rfl
      · rw [h]
        rfl
  cancelled := by
    refine Pool.forall_set
      (fun j w hj hw' ↦ h.final hv hw hD (.inl rfl) (h.cancelled j w hj hw')) ?_
    intro hc
    subst hc
    rcases hw.move.cancelled with ⟨rfl, hsame⟩ | hsame
    · rw [hsame]
      exact h.cancelled i _ hv rfl
    · exact hsame

theorem asked (h : CancelKept calls id artistId verified s vs log) (hv : vs[i]? = some v)
    {request : GatewayRequest} {reply : GatewayReply}
    (ha : (payoutMonitor id (· = artistId) (· = verified)).Asks v request reply v') :
    CancelKept calls id artistId verified s (vs.set i v') (log ++ [(i, request, reply)]) where
  toPaidOnce := h.toPaidOnce.asked hv ha
  cancelled := by
    refine Pool.forall_set h.cancelled fun hc ↦ ?_
    obtain ⟨input, -, ⟨-, rfl⟩ | ⟨-, -, rfl⟩⟩ := ha
    · exact h.cancelled i _ hv hc
    · split at hc <;> cases hc

end CancelKept

section Runs

variable (config : PayoutsConfig) {s : Store} {calls : List PayoutCall}

/-- In a run in which both of the admin's writes find the payout as it was checked, a cancel
keeps its promise. -/
theorem cancelled_for_good (hdistinct : (s.payouts.map Payout.id).Nodup) (id : ℕ)
    {ts : List (Turn GatewayReply Failure)}
    (hfinds : Transition.Along (Pool.step next)
      (fun P t ↦ AdminFindsChecked calls id t.thread P.store (Pool.step next P t).store)
      (PayoutCall.pool config s calls) ts) :
    CancelledForGood calls id (PayoutCall.pool config s calls) ts := by
  let artistId := s.artistOf id
  let verified := s.hasVerifiedMethod artistId
  have hstart : CancelKept calls id artistId verified s (calls.map (·.stage id)) [] := by
    have hpaid : PaidOnce calls id artistId verified 1 s (calls.map (·.stage id)) [] :=
      .start hdistinct le_rfl (Store.artistId_eq_artistOf hdistinct) rfl calls
    refine ⟨hpaid, fun i v hv hc ↦ ?_⟩
    rw [List.getElem?_map] at hv
    obtain ⟨call, -, rfl⟩ := Option.map_eq_some_iff.mp hv
    exact absurd hc (call.stage_ne_cancelled id)
  have hrun : ∀ ts₁ ts₂, ts = ts₁ ++ ts₂ → ∃ vs,
      Pool.Conforming (payoutMonitor id (· = artistId) (· = verified)) Unfinished
        (Pool.run next (PayoutCall.pool config s calls) ts₁).threads vs ∧
      CancelKept calls id artistId verified
        (Pool.run next (PayoutCall.pool config s calls) ts₁).store
        vs (Pool.run next (PayoutCall.pool config s calls) ts₁).log := by
    rintro ts₁ ts₂ rfl
    exact Pool.conforming_run (D := AdminFindsChecked calls id)
      (J := CancelKept calls id artistId verified) (fun h _ ↦ h.payout)
      (fun h hv hw hD ↦ h.written hv hw hD) (fun h hv ha ↦ h.asked hv ha)
      (PayoutCall.conforming config calls id _ _) hstart (Transition.Along.append.mp hfinds).1
  constructor
  case unpaid =>
    intro i reason hcall hret
    obtain ⟨vs, hconforming, hkept⟩ := hrun ts [] (List.append_nil ts).symm
    obtain ⟨v, hv, hc⟩ := hconforming i _ hret
    obtain ⟨call, hcall', hfits⟩ := hkept.fits i v hv
    cases hcall.symm.trans hcall'
    rcases hfits.cancels reason rfl with h | h
    · exact absurd rfl (hc h ())
    · exact hkept.unpaid (hkept.cancelled i v hv h)
  case final =>
    rintro ts₁ ts₂ q rfl hq hs
    obtain ⟨vs, hconforming, hkept⟩ := hrun ts₁ ts₂ rfl
    obtain ⟨vs', -, hfinal⟩ := Pool.conforms_run (D := AdminFindsChecked calls id)
      (J := fun s vs log ↦ CancelKept calls id artistId verified s vs log ∧
        s.payoutState id = some q)
      (fun h _ ↦ h.1.payout) (fun h hv hw hD ↦ ⟨h.1.written hv hw hD, h.1.final hv hw hD hq h.2⟩)
      (fun h hv ha ↦ ⟨h.1.asked hv ha, h.2⟩) hconforming ⟨hkept, hs⟩
      (Transition.Along.append.mp hfinds).2
    rw [Pool.run, Transition.run_append]
    exact hfinal

end Runs

namespace Sample

def cancelCalls : List PayoutCall := [.cancel 1 none, .dispatch]

/-- An admin's cancel has read the row, it is paid, and the cancel writes. -/
def staleCancel : List (Turn GatewayReply Failure) := [⟨0, .act⟩] ++ payingTick 1 ++ [⟨0, .act⟩]

end Sample

/-- A cancel that writes late has returned for a payout that was paid. -/
theorem cancelled_paid :
    ¬∀ (config : PayoutsConfig) (s : Store) (calls : List PayoutCall),
      (s.payouts.map Payout.id).Nodup → ∀ (id : ℕ) (ts : List (Turn GatewayReply Failure)),
        CancelledForGood calls id (PayoutCall.pool config s calls) ts := by
  intro h
  have hunpaid := (h Sample.payouts (Sample.owing .queued) Sample.cancelCalls (by decide) 1
    Sample.staleCancel).unpaid 0 none rfl rfl
  have hpaid : paidTimes 1 (Pool.run next (PayoutCall.pool Sample.payouts (Sample.owing .queued)
      Sample.cancelCalls) Sample.staleCancel).log = 1 := by decide
  rw [hunpaid] at hpaid
  cases hpaid

/-- An admin has a payout cancelled before the tick. -/
theorem cancelled_for_good_sample :
    CancelledForGood [.cancel 1 none, .dispatch] 1
      (PayoutCall.pool Sample.payouts (Sample.owing .queued) [.cancel 1 none, .dispatch])
      [⟨0, .act⟩, ⟨0, .act⟩, ⟨1, .act⟩] := by
  refine cancelled_for_good Sample.payouts (by decide) 1 ?_
  have hretry : ∀ i s s', RetryFindsFailed [.cancel 1 none, .dispatch] 1 i s s' := by
    intro i s s' hcall
    have hmem := List.mem_of_getElem? hcall
    simp at hmem
  refine ⟨⟨hretry _ _ _, fun _ _ _ ↦ .inl rfl⟩,
    ⟨hretry _ _ _, fun _ _ _ ↦ .inl rfl⟩,
    ⟨hretry _ _ _, fun _ hcall ↦ ?_⟩, trivial⟩
  cases hcall

end GearshPayments
