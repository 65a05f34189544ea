import GearshPayments.Refunds.Service
import GearshPayments.Resumption.Run

/-!
# What a gateway call comes to

`callPayFastWithRetry` under any environment: it makes a number of requests, all
with the same question, each but the last answered with a failure that may be
tried again, and what it returns is what its last answer is taken for
(`callPayFastWithRetry_spec`).
-/

namespace GearshPayments

/-- Credentials and address are there, so requests are made. -/
def PayFastConfig.Ready (config : PayFastConfig) : Prop :=
  config.enabled = true ∧ config.refundUrl.getD "" ≠ ""

namespace HttpOutcome

/-- The answer carries a refund id. -/
def Paid (o : HttpOutcome) : Prop := ∃ refundId, PayFastClient.classify o = .ok refundId

/-- The answer is a failure that may be tried again. -/
def TryAgain (o : HttpOutcome) : Prop :=
  ∃ status reason, PayFastClient.classify o = .failed true status reason

theorem TryAgain.not_paid {o : HttpOutcome} (h : o.TryAgain) : ¬o.Paid := by
  rintro ⟨refundId, hp⟩
  obtain ⟨status, reason, ht⟩ := h
  rw [hp] at ht
  cases ht

end HttpOutcome

namespace RefundsService

open Resumption

/-- The client asks once, when it is configured to. -/
theorem refund_of_ready {config : PayFastConfig} (h : config.Ready) (input : PayFastRefundInput) :
    PayFastClient.refund config input = .ask input fun o ↦ .ret (PayFastClient.classify o) := by
  obtain ⟨he, hu⟩ := h
  simp only [PayFastClient.refund, he, hu]
  rfl

theorem refund_of_not_ready {config : PayFastConfig} (h : ¬config.Ready)
    (input : PayFastRefundInput) :
    ∃ reason, PayFastClient.refund config input = .ret (.failed false none reason) := by
  unfold PayFastClient.refund
  by_cases he : config.enabled = false
  · rw [if_pos he]
    exact ⟨_, rfl⟩
  · rw [if_neg he]
    by_cases hu : config.refundUrl.getD "" = ""
    · rw [if_pos hu]
      exact ⟨_, rfl⟩
    · exact absurd ⟨Bool.eq_true_of_not_eq_false he, hu⟩ h

/-- One turn of the loop. -/
theorem attemptRefund_succ {config : PayFastConfig} (h : config.Ready)
    (input : PayFastRefundInput) (attempts : ℕ) (lastFailure : Option PayFastRefundResult) :
    attemptRefund config input (attempts + 1) lastFailure =
      .ask input fun o ↦ match PayFastClient.classify o with
        | .ok refundId => .ret (.ok refundId)
        | .failed retriable status reason =>
          if retriable then
            attemptRefund config input attempts (some (.failed retriable status reason))
          else .ret (.failed retriable status reason) := by
  rw [attemptRefund, refund_of_ready h]
  rfl

/-- What a call of the gateway comes to under an environment: its result, and the
number of requests it made. -/
structure Calls (config : PayFastConfig) (answers : ℕ → HttpOutcome) (attempts : ℕ)
    (result : PayFastRefundResult) (requests : ℕ) : Prop where
  /-- A request is made unless one before it settled the matter. -/
  lt_iff : ∀ i, i < requests ↔ config.Ready ∧ i < attempts ∧ ∀ m < i, (answers m).TryAgain
  /-- The call succeeds with the refund id of the last answer. -/
  ok : ∀ refundId, result = .ok refundId →
    ∃ j, requests = j + 1 ∧ PayFastClient.classify (answers j) = .ok refundId
  /-- The call fails when no answer carries a refund id. -/
  failed : ∀ retriable status reason, result = .failed retriable status reason →
    ∀ i < requests, ¬(answers i).Paid

namespace Calls

variable {config : PayFastConfig} {answers : ℕ → HttpOutcome} {attempts requests : ℕ}
  {result : PayFastRefundResult}

/-- No request can be made, or none is left. -/
theorem none (hnone : ¬config.Ready ∨ attempts = 0) (hresult : ∀ refundId, result ≠ .ok refundId) :
    Calls config answers attempts result 0 := by
  refine ⟨fun i ↦ ⟨?_, ?_⟩, fun refundId hr ↦ absurd hr (hresult refundId), ?_⟩
  · intro hi
    exact absurd hi (Nat.not_lt_zero i)
  · rintro ⟨hready, hi, -⟩
    rcases hnone with hnot | rfl
    · exact absurd hready hnot
    · exact absurd hi (Nat.not_lt_zero i)
  · intro _ _ _ _ i hi
    exact absurd hi (Nat.not_lt_zero i)

/-- The first answer settles the matter. -/
theorem settled (h : config.Ready) (hc : PayFastClient.classify (answers 0) = result)
    (hno : ¬(answers 0).TryAgain) : Calls config answers (attempts + 1) result 1 := by
  refine ⟨fun i ↦ ⟨?_, ?_⟩, ?_, ?_⟩
  · intro hi
    obtain rfl : i = 0 := by omega
    exact ⟨h, Nat.succ_pos _, fun m hm ↦ absurd hm (Nat.not_lt_zero m)⟩
  · rintro ⟨-, -, hall⟩
    by_contra hi
    exact hno (hall 0 (by omega))
  · intro refundId hr
    exact ⟨0, rfl, hc.trans hr⟩
  · intro retriable status reason hr i hi
    obtain rfl : i = 0 := by omega
    rintro ⟨refundId, hp⟩
    rw [hc, hr] at hp
    cases hp

/-- After the first answer it is tried again. -/
theorem again (h : config.Ready) (htry : (answers 0).TryAgain)
    (hcalls : Calls config (fun i ↦ answers (i + 1)) attempts result requests) :
    Calls config answers (attempts + 1) result (requests + 1) := by
  refine ⟨?_, ?_, ?_⟩
  · intro i
    cases i with
    | zero =>
        exact ⟨fun _ ↦ ⟨h, Nat.succ_pos _, fun m hm ↦ absurd hm (Nat.not_lt_zero m)⟩,
          fun _ ↦ Nat.succ_pos _⟩
    | succ i =>
        rw [Nat.add_lt_add_iff_right, hcalls.lt_iff i, Nat.add_lt_add_iff_right]
        constructor
        · rintro ⟨hr, hi, hall⟩
          refine ⟨hr, hi, fun m hm ↦ ?_⟩
          cases m with
          | zero => exact htry
          | succ m => exact hall m (by omega)
        · rintro ⟨hr, hi, hall⟩
          exact ⟨hr, hi, fun m hm ↦ hall (m + 1) (by omega)⟩
  · intro refundId hr
    obtain ⟨j, hj, hok⟩ := hcalls.ok refundId hr
    exact ⟨j + 1, by rw [hj], hok⟩
  · intro retriable status reason hr i hi
    cases i with
    | zero => exact htry.not_paid
    | succ i => exact hcalls.failed retriable status reason hr i (by omega)

end Calls

/-- The loop, from any turn of it on. -/
theorem attemptRefund_spec {config : PayFastConfig} (h : config.Ready)
    (input : PayFastRefundInput) (attempts : ℕ) {lastFailure : Option PayFastRefundResult}
    (hlast : ∀ refundId, lastFailure ≠ some (.ok refundId)) (env : Env HttpOutcome Failure)
    (s : Store) :
    ∃ result requests, (attemptRefund config input attempts lastFailure).run env s =
        ⟨.ok result, s, ⟨fun i ↦ env.answers (i + requests), env.faults⟩,
          (List.range requests).map fun i ↦ (input, env.answers i)⟩ ∧
      Calls config env.answers attempts result requests := by
  induction attempts generalizing lastFailure env with
  | zero =>
      refine ⟨_, 0, rfl, .none (.inr rfl) fun refundId hr ↦ ?_⟩
      cases lastFailure with
      | none => cases hr
      | some r => exact absurd (congrArg some hr) (hlast refundId)
  | succ attempts ih =>
      rw [attemptRefund_succ h, run_ask]
      cases hc : PayFastClient.classify (env.answers 0) with
      | ok refundId =>
          refine ⟨.ok refundId, 1, rfl, .settled h hc ?_⟩
          rintro ⟨status, reason, ht⟩
          rw [hc] at ht
          cases ht
      | failed retriable status reason =>
          cases retriable with
          | false =>
              refine ⟨.failed false status reason, 1, rfl, .settled h hc ?_⟩
              rintro ⟨status', reason', ht⟩
              rw [hc] at ht
              cases ht
          | true =>
              have hlast' : ∀ refundId,
                  some (PayFastRefundResult.failed true status reason) ≠ some (.ok refundId) := by
                intro refundId hr
                cases hr
              obtain ⟨result, requests, hrun, hcalls⟩ := ih hlast' env.afterAnswer
              refine ⟨result, requests + 1, ?_, hcalls.again h ⟨status, reason, hc⟩⟩
              simp only [if_true, hrun]
              rw [List.range_succ_eq_map, List.map_cons, List.map_map]
              simp only [Env.afterAnswer, Function.comp_def, Nat.succ_eq_add_one, Nat.add_assoc,
                Nat.add_comm requests 1]

/-- The whole call: whether or not requests can be made, it returns, and nothing but
the requests happens. -/
theorem callPayFastWithRetry_spec (config : PayFastConfig) (input : PayFastRefundInput)
    (env : Env HttpOutcome Failure) (s : Store) :
    ∃ result requests, (callPayFastWithRetry config input).run env s =
        ⟨.ok result, s, ⟨fun i ↦ env.answers (i + requests), env.faults⟩,
          (List.range requests).map fun i ↦ (input, env.answers i)⟩ ∧
      Calls config env.answers payfastMaxAttempts result requests := by
  by_cases h : config.Ready
  · exact attemptRefund_spec h input payfastMaxAttempts (fun _ hr ↦ by cases hr) env s
  · obtain ⟨reason, hr⟩ := refund_of_not_ready h input
    refine ⟨.failed false none reason, 0, ?_, .none (.inl h) fun _ hok ↦ by cases hok⟩
    rw [callPayFastWithRetry, payfastMaxAttempts, payfastRetryDelaysMs, List.length_cons,
      attemptRefund, hr]
    rfl

/-- Of the requests of a call that succeeds only the last is answered with a refund
id. -/
theorem Calls.not_paid {config : PayFastConfig} {answers : ℕ → HttpOutcome} {attempts j : ℕ}
    {result : PayFastRefundResult} (h : Calls config answers attempts result (j + 1)) {i : ℕ}
    (hi : i < j) : ¬(answers i).Paid :=
  (((h.lt_iff j).mp (Nat.lt_succ_self j)).2.2 i hi).not_paid

end RefundsService

end GearshPayments
