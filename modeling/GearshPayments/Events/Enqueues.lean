import GearshPayments.Events.Publisher
import GearshPayments.Payments.SignedForms

/-!
# What the engine adds to its outbox

Whatever calls of the engine run together, they never touch a row of the outbox that is there: they
append rows with new identifiers, stamped with the time (`WebCall.guarantees_enqueues`).  As long
as the clock does not go back, the rows stand in the order in which they were created
(`Store.OutboxOrdered`).
-/

namespace GearshPayments

open Resumption OutboxDispatcher

/-- Rows that were added between the two stores. -/
structure NewRows (s s' : Store) (rows : List OutboxEvent) : Prop where
  ids : (rows.map OutboxEvent.id).Pairwise (· < ·)
  fresh : ∀ o ∈ rows, s.nextId ≤ o.id ∧ o.id < s'.nextId
  times : ∀ o ∈ rows, s.clock ≤ o.createdAt ∧ o.createdAt ≤ s'.clock
  sorted : rows.Pairwise createdBefore

namespace Store

/-- Rows have been added to the outbox, time has passed, and nothing else has happened to it. -/
structure Enqueues (s s' : Store) : Prop where
  clock : s.clock ≤ s'.clock
  nextId : s.nextId ≤ s'.nextId
  outbox : ∃ rows, s'.outboxEvents = s.outboxEvents ++ rows ∧ NewRows s s' rows

/-- The rows have distinct identifiers that were handed out, and stand in the order of their
creation, which is past. -/
structure OutboxOrdered (s : Store) : Prop where
  ids : (s.outboxEvents.map OutboxEvent.id).Nodup
  handedOut : ∀ o ∈ s.outboxEvents, o.id < s.nextId
  past : ∀ o ∈ s.outboxEvents, o.createdAt ≤ s.clock
  sorted : s.outboxEvents.Pairwise createdBefore

end Store

namespace NewRows

variable {s s' s'' : Store} {rows rows' : List OutboxEvent}

theorem nil : NewRows s s' [] where
  ids := .nil
  fresh := fun _ ho ↦ absurd ho List.not_mem_nil
  times := fun _ ho ↦ absurd ho List.not_mem_nil
  sorted := .nil

/-- Rows of one moment. -/
theorem of_now (hids : (rows.map OutboxEvent.id).Pairwise (· < ·))
    (hfresh : ∀ o ∈ rows, s.nextId ≤ o.id ∧ o.id < s'.nextId)
    (hnow : ∀ o ∈ rows, o.createdAt = s.clock) (hclock : s.clock ≤ s'.clock) :
    NewRows s s' rows where
  ids := hids
  fresh := hfresh
  times := fun o ho ↦ ⟨(hnow o ho).ge, (hnow o ho).le.trans hclock⟩
  sorted := List.pairwise_of_forall_mem_list fun a ha b hb ↦ ((hnow a ha).trans (hnow b hb).symm).le

theorem append (h : NewRows s s' rows) (h' : NewRows s' s'' rows') (hs : s.clock ≤ s'.clock)
    (hs' : s'.clock ≤ s''.clock) (hn : s.nextId ≤ s'.nextId) (hn' : s'.nextId ≤ s''.nextId) :
    NewRows s s'' (rows ++ rows') where
  ids := by
    rw [List.map_append, List.pairwise_append]
    refine ⟨h.ids, h'.ids, fun a ha b hb ↦ ?_⟩
    obtain ⟨o, ho, rfl⟩ := List.mem_map.mp ha
    obtain ⟨o', ho', rfl⟩ := List.mem_map.mp hb
    exact (h.fresh o ho).2.trans_le (h'.fresh o' ho').1
  fresh := by
    intro o ho
    rcases List.mem_append.mp ho with ho | ho
    · exact ⟨(h.fresh o ho).1, (h.fresh o ho).2.trans_le hn'⟩
    · exact ⟨hn.trans (h'.fresh o ho).1, (h'.fresh o ho).2⟩
  times := by
    intro o ho
    rcases List.mem_append.mp ho with ho | ho
    · exact ⟨(h.times o ho).1, (h.times o ho).2.trans hs'⟩
    · exact ⟨hs.trans (h'.times o ho).1, (h'.times o ho).2⟩
  sorted := by
    rw [List.pairwise_append]
    refine ⟨h.sorted, h'.sorted, fun a ha b hb ↦ ?_⟩
    exact (h.times a ha).2.trans (h'.times b hb).1

/-- New rows are new whatever becomes of their delivery. -/
theorem map (h : NewRows s s' rows) {f : OutboxEvent → OutboxEvent}
    (hid : ∀ o, (f o).id = o.id) (hcreated : ∀ o, (f o).createdAt = o.createdAt) :
    NewRows s s' (rows.map f) where
  ids := by
    rw [List.map_map]
    have hsame : OutboxEvent.id ∘ f = OutboxEvent.id := funext hid
    rw [hsame]
    exact h.ids
  fresh := by
    intro o ho
    obtain ⟨x, hx, rfl⟩ := List.mem_map.mp ho
    rw [hid]
    exact h.fresh x hx
  times := by
    intro o ho
    obtain ⟨x, hx, rfl⟩ := List.mem_map.mp ho
    rw [hcreated]
    exact h.times x hx
  sorted := by
    refine List.pairwise_map.mpr (h.sorted.imp fun {a b} hab ↦ ?_)
    rw [createdBefore, hcreated, hcreated]
    exact hab

end NewRows

namespace Store.Enqueues

variable {s s' s'' : Store}

theorem refl (s : Store) : s.Enqueues s := ⟨le_rfl, le_rfl, [], (List.append_nil _).symm, .nil⟩

/-- A change that leaves the outbox as it is. -/
theorem of_eq (hclock : s.clock ≤ s'.clock) (hn : s.nextId ≤ s'.nextId)
    (ho : s'.outboxEvents = s.outboxEvents) : s.Enqueues s' :=
  ⟨hclock, hn, [], ho.trans (List.append_nil _).symm, .nil⟩

theorem trans (h : s.Enqueues s') (h' : s'.Enqueues s'') : s.Enqueues s'' := by
  obtain ⟨rows, hrows, hnew⟩ := h.outbox
  obtain ⟨rows', hrows', hnew'⟩ := h'.outbox
  refine ⟨h.clock.trans h'.clock, h.nextId.trans h'.nextId, rows ++ rows', ?_,
    hnew.append hnew' h.clock h'.clock h.nextId h'.nextId⟩
  rw [hrows', hrows, List.append_assoc]

end Store.Enqueues

namespace Store

theorem outboxOrdered_empty (clock nextId : ℕ) (intents : List PaymentIntent) :
    (Store.empty clock nextId intents).OutboxOrdered where
  ids := .nil
  handedOut := fun _ ho ↦ absurd ho List.not_mem_nil
  past := fun _ ho ↦ absurd ho List.not_mem_nil
  sorted := .nil

/-- Delivery does not disturb the order. -/
theorem OutboxOrdered.map {s : Store} (h : s.OutboxOrdered) {f : OutboxEvent → OutboxEvent}
    (hid : ∀ o, (f o).id = o.id) (hcreated : ∀ o, (f o).createdAt = o.createdAt) :
    { s with outboxEvents := s.outboxEvents.map f }.OutboxOrdered where
  ids := by
    rw [List.map_map, show OutboxEvent.id ∘ f = OutboxEvent.id from funext hid]
    exact h.ids
  handedOut := List.forall_mem_map.mpr fun o ho ↦ (hid o).trans_lt (h.handedOut o ho)
  past := List.forall_mem_map.mpr fun o ho ↦ (hcreated o).trans_le (h.past o ho)
  sorted := by
    refine List.pairwise_map.mpr (h.sorted.imp fun {a b} hab ↦ ?_)
    rw [createdBefore, hcreated, hcreated]
    exact hab

end Store

/-! ## The writes -/

section Rules

variable {s s' : Store}

theorem enqueues_commit {args : CommitArgs} {fee : ℤ}
    (h : PayFastWebhookService.commit args fee s = .ok ((), s')) : s.Enqueues s' := by
  by_cases hst : args.paymentStatus = .complete
  · rw [PayFastWebhookService.commit_of_complete hst] at h
    rcases PayFastWebhookService.of_commitComplete_ok h with ⟨-, rfl⟩ | ⟨-, rfl⟩
    · exact .refl _
    · refine ⟨le_rfl, Nat.le_add_right _ 5, _, rfl, .of_now ?_ ?_ ?_ le_rfl⟩
      · simp [OutboxService.row]
      · simp [OutboxService.row, CommitArgs.captured]
      · simp [OutboxService.row]
  · rw [PayFastWebhookService.commit_of_ne hst] at h
    rcases PayFastWebhookService.of_commitFailed_ok h with ⟨-, rfl⟩ | ⟨-, -, rfl⟩
    · exact .refl _
    · refine ⟨le_rfl, Nat.le_add_right _ 2, _, rfl, .of_now ?_ ?_ ?_ le_rfl⟩
      · simp
      · simp [OutboxService.row, CommitArgs.recorded]
      · simp [OutboxService.row]

theorem enqueues_exec {business : BusinessConfig} {op : EscrowOp} {hold : EscrowHold}
    (h : op.exec business s = .ok (hold, s')) : s.Enqueues s' := by
  obtain ⟨hold, target, w, entries, -, -, rfl⟩ := EscrowOp.commits_of_exec_eq h
  -- a payout is announced before the operation itself, if one is queued
  have hqueued : w.queued business hold s = [] ∨ ∃ p, w.queued business hold s = [p] := by
    unfold EscrowService.Writes.queued EscrowService.queuedPayouts
    split
    · exact .inl rfl
    · exact .inr ⟨_, rfl⟩
  have hnext : (w.commit business hold entries s).nextId =
      s.nextId + 1 + 2 * (w.queued business hold s).length + 1 := rfl
  refine ⟨le_rfl, ?_, _, List.append_assoc .., .of_now ?_ ?_ ?_ le_rfl⟩
  · rw [hnext]
    omega
  all_goals rcases hqueued with hq | ⟨p, hq⟩
  all_goals simp only [hnext, hq]
  all_goals simp [OutboxService.row]
  omega

/-- One row is added. -/
theorem enqueues_row (notice : EnqueueInput) (hn : s'.nextId = s.nextId + 1)
    (hclock : s'.clock = s.clock)
    (ho : s'.outboxEvents = s.outboxEvents ++ [OutboxService.row notice s.nextId s.clock]) :
    s.Enqueues s' := by
  refine ⟨hclock.ge, by omega, _, ho, .of_now ?_ ?_ ?_ hclock.ge⟩
  · simp
  · simp [OutboxService.row, hn]
  · simp [OutboxService.row]

end Rules

/-- Where the clock does not go back, a call adds rows. -/
theorem rules_enqueues (business : BusinessConfig) :
    PaymentRules business (fun _ ↦ True) fun s s' ↦ s.clock ≤ s'.clock → s.Enqueues s' where
  refl := fun s _ _ ↦ .refl s
  insert := by
    intro s s' row r _ _ _ h _
    cases h
    exact .of_eq le_rfl (Nat.le_succ _) rfl
  move := fun _ h _ ↦ enqueues_exec h
  announce := fun _ _ _ _ _ _ ↦ enqueues_row _ rfl rfl rfl
  commit := fun _ _ _ h _ ↦ enqueues_commit h
  tick := fun _ _ h ↦ .of_eq h le_rfl rfl

theorem rules_enqueues_payouts :
    PayoutRules (fun _ ↦ True) fun s s' ↦ s.clock ≤ s'.clock → s.Enqueues s' where
  refl := fun s _ _ ↦ .refl s
  fail := by
    intro payout reason failedAt s s' u _ h _
    cases h
    exact enqueues_row _ rfl rfl rfl
  succeed := by
    intro payout gatewayPayoutId methodId completedAt s s' u _ h _
    obtain ⟨row, method, -, -, rfl⟩ := PayoutDispatcherJob.of_writeSuccess_ok h
    exact enqueues_row _ rfl rfl rfl
  claim := by
    intro payout s s' count _ h _
    cases h
    exact .of_eq le_rfl le_rfl rfl
  requeue := by
    intro row s s' count _ h _
    cases h
    exact .of_eq le_rfl le_rfl rfl
  update := by
    intro id f s s' row _ _ h _
    cases hrow : s.payout? id with
    | none => simp [Tx.updatePayout, hrow] at h
    | some r =>
        rw [Tx.updatePayout_apply hrow] at h
        cases h
        exact .of_eq le_rfl le_rfl rfl
  tick := fun _ _ h ↦ .of_eq h le_rfl rfl

/-- No call of the engine or its webhook does more to the outbox than to add rows. -/
theorem WebCall.guarantees_enqueues {runtime : Runtime} {config : WebConfig} (c : WebCall) :
    Guarantees (fun _ ↦ True) (fun s s' : Store ↦ s.clock ≤ s'.clock → s.Enqueues s')
      (c.program runtime config) := by
  refine c.guarantees (rules_enqueues config.business) rules_enqueues_payouts ?_
  intro s s' _ h hclock
  exact .of_eq hclock h.nextId (by rw [h.rest])

end GearshPayments
