import GearshPayments.Payouts.Once
import Mathlib.Data.List.Induction

/-!
# The backoff of the retry job

A tick of the retry job reads the failed payouts, leaves out those whose backoff has not elapsed
and requeues the others one by one, with a guard on their state alone.  A payout that an admin
has requeued in between and that has failed again is requeued on the strength of the failure
before (`requeued_early`).  Where the write finds the number of attempts that the tick has read,
it finds the failure that the tick has read, and the backoff and the budget are respected
(`respects_backoff`).
-/

namespace GearshPayments

open Resumption PayoutRetryJob

/-! ## How payouts advance -/

/-- The payout is still to be paid. -/
def Payout.Open (p : Payout) : Prop := p.state = .queued ∨ p.state = .processing

instance (p : Payout) : Decidable p.Open := by
  unfold Payout.Open
  infer_instance

/-- How a payout changes: attempts are counted up, and one that is closed is not opened, nor is
its failure replaced, without counting. -/
structure Payout.Advances (p p' : Payout) : Prop where
  attempts : p.attempts ≤ p'.attempts
  closed : p'.attempts = p.attempts → ¬p.Open → ¬p'.Open ∧
    (p'.state = .failed → p.state = .failed ∧ p'.failedAt = p.failedAt)

namespace Payout.Advances

variable {p p' p'' : Payout}

theorem refl (p : Payout) : p.Advances p := ⟨le_rfl, fun _ h ↦ ⟨h, fun hf ↦ ⟨hf, rfl⟩⟩⟩

theorem trans (h : p.Advances p') (h' : p'.Advances p'') : p.Advances p'' where
  attempts := h.attempts.trans h'.attempts
  closed := by
    intro heq hopen
    have hle := h.attempts
    have hle' := h'.attempts
    obtain ⟨hopen', hfailed⟩ := h.closed (by omega) hopen
    obtain ⟨hopen'', hfailed'⟩ := h'.closed (by omega) hopen'
    refine ⟨hopen'', fun hf ↦ ?_⟩
    obtain ⟨hst', hat'⟩ := hfailed' hf
    obtain ⟨hst, hat⟩ := hfailed hst'
    exact ⟨hst, hat'.trans hat⟩

/-- A payout that is open may be closed in any way. -/
theorem of_open (hopen : p.Open) (h : p'.attempts = p.attempts) : p.Advances p' :=
  ⟨h.ge, fun _ hclosed ↦ absurd hopen hclosed⟩

/-- Any payout may be closed without a failure. -/
theorem of_closed (h : p'.attempts = p.attempts)
    (hst : p'.state = .succeeded ∨ p'.state = .cancelled) :
    p.Advances p' := by
  refine ⟨h.ge, fun _ _ ↦ ⟨?_, fun hf ↦ ?_⟩⟩
  · rintro (ho | ho) <;> rcases hst with hst | hst <;> cases hst.symm.trans ho
  · rcases hst with hst | hst <;> cases hst.symm.trans hf

theorem of_counted (h : p'.attempts = p.attempts + 1) : p.Advances p' :=
  ⟨by omega, fun heq ↦ by omega⟩

end Payout.Advances

/-- Every payout advances. -/
def Store.PayoutsAdvance (s s' : Store) : Prop :=
  ∀ id p, s.payout? id = some p → ∃ p', s'.payout? id = some p' ∧ p.Advances p'

namespace Store.PayoutsAdvance

variable {s s' s'' : Store}

theorem refl (s : Store) : s.PayoutsAdvance s := fun _ p hp ↦ ⟨p, hp, .refl p⟩

theorem trans (h : s.PayoutsAdvance s') (h' : s'.PayoutsAdvance s'') : s.PayoutsAdvance s'' := by
  intro id p hp
  obtain ⟨p', hp', ha⟩ := h id p hp
  obtain ⟨p'', hp'', ha'⟩ := h' id p' hp'
  exact ⟨p'', hp'', ha.trans ha'⟩

theorem of_map {f : Payout → Payout} (hid : ∀ p, (f p).id = p.id)
    (hf : ∀ p : Payout, p.Advances (f p))
    (h : s'.payouts = s.payouts.map f) : s.PayoutsAdvance s' := by
  intro id p hp
  refine ⟨f p, ?_, hf p⟩
  rw [Store.payout?, h, Table.find_map hid]
  exact congrArg (Option.map f) hp

/-- An update of the rows that a filter lets through. -/
theorem of_filter {q : Payout → Bool} {f : Payout → Payout} (hid : ∀ p, (f p).id = p.id)
    (hf : ∀ p, q p = true → p.Advances (f p))
    (h : s'.payouts = s.payouts.map fun p ↦ if q p then f p else p) : s.PayoutsAdvance s' := by
  refine of_map (fun p ↦ ?_) (fun p ↦ ?_) h
  · split
    · exact hid p
    · rfl
  · split
    case isTrue hq => exact hf p hq
    case isFalse => exact .refl p

end Store.PayoutsAdvance

theorem rules_payoutsAdvance : PayoutRules (fun _ ↦ True) Store.PayoutsAdvance where
  refl := fun s _ ↦ .refl s
  fail := by
    intro payout reason failedAt s s' u _ h
    cases h
    refine .of_filter (q := fun p ↦ p.id = payout.id ∧ (p.state = .queued ∨ p.state = .processing))
      (f := PayoutDispatcherJob.failRow reason failedAt) (fun _ ↦ rfl) (fun p hq ↦ ?_) rfl
    exact .of_open (of_decide_eq_true hq).2 rfl
  succeed := by
    intro payout gatewayPayoutId methodId completedAt s s' u _ h
    obtain ⟨row, method, -, -, rfl⟩ := PayoutDispatcherJob.of_writeSuccess_ok h
    refine .of_filter (q := fun p ↦ p.id = payout.id)
      (f := PayoutDispatcherJob.succeedRow gatewayPayoutId completedAt) (fun _ ↦ rfl)
      (fun p _ ↦ .of_closed rfl (.inl rfl)) ?_
    simp only [PayoutDispatcherJob.paidStore, Table.update, decide_eq_true_eq]
  claim := by
    intro payout s s' count _ h
    cases h
    refine .of_filter (q := fun p ↦ p.id = payout.id ∧ p.state = .queued)
      (f := fun p ↦ { p with state := .processing, attemptedAt := some s.clock }) (fun _ ↦ rfl)
      (fun p hq ↦ ?_) rfl
    exact .of_open (.inl (of_decide_eq_true hq).2) rfl
  requeue := by
    intro row s s' count _ h
    cases h
    exact .of_filter (q := fun p ↦ p.id = row.id ∧ p.state = .failed) (f := Payout.requeue)
      (fun _ ↦ rfl) (fun p _ ↦ .of_counted rfl) rfl
  update := by
    intro id f s s' row _ hf h
    cases hrow : s.payout? id with
    | none => simp [Tx.updatePayout, hrow] at h
    | some r =>
        rw [Tx.updatePayout_apply hrow] at h
        cases h
        have hrows : Table.update Payout.id id f s.payouts =
            s.payouts.map fun p ↦ if decide (p.id = id) = true then f p else p := by
          simp only [Table.update, decide_eq_true_eq]
        cases hf with
        | requeue =>
            exact .of_filter (f := Payout.requeue) (fun _ ↦ rfl) (fun p _ ↦ .of_counted rfl) hrows
        | cancel reason now =>
            exact .of_filter (f := Payout.cancel reason now) (fun _ ↦ rfl)
              (fun p _ ↦ .of_closed rfl (.inr rfl)) hrows
  tick := fun _ _ ↦ fun _ p hp ↦ ⟨p, hp, .refl p⟩

/-! ## A tick of the retry job, from its read to its writes -/

/-- The backoff of the row, as it was read, has elapsed. -/
def DueAt (now : ℕ) (row : Payout) : Prop :=
  ∃ failedAt, row.failedAt = some failedAt ∧
    failedAt + backoffHoursFor row.attempts * 60 * 60 * 1000 ≤ now

/-- What a tick does once it has read the failed payouts. -/
def afterRead (rows : List Payout) : Engine Unit :=
  discard (do requeueAll (← Resumption.read Store.clock) rows 0 : Engine ℕ)

/-- The loop over the rows. -/
def requeueLoop (now : ℕ) (rows : List Payout) (requeued : ℕ) : Engine Unit :=
  discard (requeueAll now rows requeued)

section Steps

variable {m : Move GatewayReply Failure} {s s' : Store} {p : Engine Unit}
  {x : Option (GatewayRequest × GatewayReply)}

theorem next_retryFailed {config : PayoutsConfig}
    (h : next (PayoutCall.retryFailed.program config) m s = some (s', p, x)) :
    s' = s ∧ ((∃ r, p = Resumption.ofExcept r) ∨
      (m = .act ∧ p = afterRead (candidates config.maxAttempts s))) := by
  change next (discard (cron config)) m s = _ at h
  unfold cron at h
  split at h
  · exact (of_next_ofExcept (r := .ok ()) h).elim
  · obtain ⟨hs, ⟨e, hp⟩ | ⟨hm, hp⟩⟩ := of_next_read h
    · exact ⟨hs, .inl ⟨.error e, hp⟩⟩
    · exact ⟨hs, .inr ⟨hm, hp⟩⟩

theorem next_afterRead {rows : List Payout} (h : next (afterRead rows) m s = some (s', p, x)) :
    s' = s ∧ ((∃ r, p = Resumption.ofExcept r) ∨ p = requeueLoop s.clock rows 0) := by
  obtain ⟨hs, ⟨e, hp⟩ | ⟨-, hp⟩⟩ := of_next_read h
  · exact ⟨hs, .inl ⟨.error e, hp⟩⟩
  · exact ⟨hs, .inr hp⟩

/-- The loop requeues the next row whose backoff has elapsed. -/
theorem next_requeueLoop {now : ℕ} {rows : List Payout} {requeued : ℕ}
    (h : next (requeueLoop now rows requeued) m s = some (s', p, x)) :
    (s' = s ∧ ∃ r, p = Resumption.ofExcept r) ∨
    ∃ row rest requeued', row ∈ rows ∧ (∀ r ∈ rest, r ∈ rows) ∧
      DueAt now row ∧ (∃ count, requeue row s = .ok (count, s')) ∧
      p = requeueLoop now rest requeued' := by
  induction rows generalizing requeued with
  | nil => exact (of_next_ofExcept (r := .ok ()) h).elim
  | cons row rows ih =>
      have hrest (hloop : next (requeueLoop now rows requeued) m s = some (s', p, x)) :
          (s' = s ∧ ∃ r, p = Resumption.ofExcept r) ∨ ∃ row' rest requeued', row' ∈ row :: rows ∧
            (∀ r ∈ rest, r ∈ row :: rows) ∧ DueAt now row' ∧
            (∃ count, requeue row' s = .ok (count, s')) ∧ p = requeueLoop now rest requeued' := by
        rcases ih hloop with hend | ⟨row', rest, requeued', hmem, hsub, hdue, hstep⟩
        · exact .inl hend
        · exact .inr ⟨row', rest, requeued', .tail _ hmem, fun r hr ↦ .tail _ (hsub r hr),
            hdue, hstep⟩
      unfold requeueLoop requeueAll at h
      cases hf : row.failedAt with
      | none =>
          rw [hf] at h
          exact hrest h
      | some failedAt =>
          rw [hf] at h
          dsimp only at h
          split at h
          · exact hrest h
          case isFalse hdue =>
            rcases of_next_transaction_bind h with ⟨hs, e, hp⟩ | ⟨-, count, ht, hp⟩
            · exact .inl ⟨hs, .error e, hp⟩
            · refine .inr ⟨row, rows, _, .head _, fun r hr ↦ .tail _ hr, ⟨failedAt, hf, ?_⟩,
                ⟨count, ht⟩, hp⟩
              exact Nat.le_of_not_gt hdue

end Steps

/-! ## Runs -/

section Runs

variable (config : PayoutsConfig) (s : Store) (calls : List PayoutCall)

/-- The pool after a schedule. -/
abbrev payoutsPool (ts : List (Turn GatewayReply Failure)) : EnginePool :=
  Pool.run next (PayoutCall.pool config s calls) ts

/-- The call `i` is a tick of the retry job that is about to start. -/
def TickStarts (ts : List (Turn GatewayReply Failure)) (i : ℕ) : Prop :=
  calls[i]? = some .retryFailed ∧
    (payoutsPool config s calls ts).threads[i]? = some (PayoutCall.retryFailed.program config)

/-- Wherever a tick requeues the payout, it finds as many attempts as it has read. -/
def RequeuesWhatItRead (id : ℕ) (ts : List (Turn GatewayReply Failure)) : Prop :=
  ∀ ts₁ ts₂ t p₀ p, ts₁ ++ ⟨t.thread, .act⟩ :: (ts₂ ++ [t]) <+: ts →
    TickStarts config s calls ts₁ t.thread →
      (payoutsPool config s calls ts₁).store.payout? id = some p₀ →
        (payoutsPool config s calls (ts₁ ++ ⟨t.thread, .act⟩ :: ts₂)).store.payout? id = some p →
          p.state = .failed → (payoutsPool config s calls
            (ts₁ ++ ⟨t.thread, .act⟩ :: (ts₂ ++ [t]))).store.payoutState id = some .queued →
              p.attempts = p₀.attempts

/-- Time does not go back. -/
def ClockRuns (P : EnginePool) (t : Turn GatewayReply Failure) : Prop :=
  P.store.clock ≤ (Pool.step next P t).store.clock

/-- If the turn is one of the retry job and requeues the payout, the backoff since its failure has
elapsed, and the budget is not used up. -/
def RespectsBackoff (id : ℕ) (P : EnginePool) (t : Turn GatewayReply Failure) : Prop :=
  calls[t.thread]? = some .retryFailed → ∀ p, P.store.payout? id = some p → p.state = .failed →
    (Pool.step next P t).store.payoutState id = some .queued →
      DueAt P.store.clock p ∧ p.attempts < config.maxAttempts

/-- Where a tick of the retry job stands. -/
inductive RetryStage (ts : List (Turn GatewayReply Failure)) (i : ℕ) : Prop
  | waiting (starts : TickStarts config s calls ts i)
  | reading {ts₁ ts₂ : List (Turn GatewayReply Failure)} (split : ts = ts₁ ++ ⟨i, .act⟩ :: ts₂)
    (starts : TickStarts config s calls ts₁ i)
    (h : (payoutsPool config s calls ts).threads[i]? =
      some (afterRead (candidates config.maxAttempts (payoutsPool config s calls ts₁).store)))
  | looping {ts₁ ts₂ : List (Turn GatewayReply Failure)} {now : ℕ} {rows : List Payout}
    {requeued : ℕ} (split : ts = ts₁ ++ ⟨i, .act⟩ :: ts₂) (starts : TickStarts config s calls ts₁ i)
    (read : ∀ r ∈ rows, r ∈ candidates config.maxAttempts (payoutsPool config s calls ts₁).store)
    (past : now ≤ (payoutsPool config s calls ts).store.clock)
    (h : (payoutsPool config s calls ts).threads[i]? = some (requeueLoop now rows requeued))
  | ended {r : Except Failure Unit}
    (h : (payoutsPool config s calls ts).threads[i]? = some (Resumption.ofExcept r))

/-- What the turn does if it is one of the tick: nothing to the store, or the requeueing of a row
that the tick has read and found due. -/
def RetryTurn (ts : List (Turn GatewayReply Failure)) (i : ℕ) (s' : Store) : Prop :=
  let σ := (payoutsPool config s calls ts).store
  s' = σ ∨ ∃ ts₁ ts₂ row, ts = ts₁ ++ ⟨i, .act⟩ :: ts₂ ∧ TickStarts config s calls ts₁ i ∧
    row ∈ candidates config.maxAttempts (payoutsPool config s calls ts₁).store ∧
    DueAt σ.clock row ∧ ∃ count, requeue row σ = .ok (count, s')

variable {config s calls} {ts : List (Turn GatewayReply Failure)} {i : ℕ}

theorem payoutsPool_append (ts : List (Turn GatewayReply Failure)) (t : Turn GatewayReply Failure) :
    payoutsPool config s calls (ts ++ [t]) = Pool.step next (payoutsPool config s calls ts) t :=
  Transition.run_append ..

theorem DueAt.mono {now now' : ℕ} {row : Payout} (h : DueAt now row) (hle : now ≤ now') :
    DueAt now' row := by
  obtain ⟨failedAt, hf, hdue⟩ := h
  exact ⟨failedAt, hf, hdue.trans hle⟩

/-- A thread that stays as it is. -/
theorem RetryStage.frame (h : RetryStage config s calls ts i) {t : Turn GatewayReply Failure}
    (hclock : ClockRuns (payoutsPool config s calls ts) t)
    (hsame : (payoutsPool config s calls (ts ++ [t])).threads[i]? =
      (payoutsPool config s calls ts).threads[i]?) : RetryStage config s calls (ts ++ [t]) i := by
  have hsplit {ts₁ ts₂ : List (Turn GatewayReply Failure)} (h : ts = ts₁ ++ ⟨i, .act⟩ :: ts₂) :
      ts ++ [t] = ts₁ ++ ⟨i, .act⟩ :: (ts₂ ++ [t]) := by
    rw [h, List.append_assoc, List.cons_append]
  cases h with
  | waiting starts => exact .waiting ⟨starts.1, hsame.trans starts.2⟩
  | reading split starts h => exact .reading (hsplit split) starts (hsame.trans h)
  | looping split starts read past h =>
      refine .looping (hsplit split) starts read (past.trans ?_) (hsame.trans h)
      rw [payoutsPool_append]
      exact hclock
  | ended h => exact .ended (hsame.trans h)

theorem RetryStage.step (h : RetryStage config s calls ts i) {t : Turn GatewayReply Failure}
    (hclock : ClockRuns (payoutsPool config s calls ts) t) :
    RetryStage config s calls (ts ++ [t]) i ∧
      (t.thread = i → RetryTurn config s calls ts i
        (payoutsPool config s calls (ts ++ [t])).store) := by
  have happend : payoutsPool config s calls (ts ++ [t]) =
      Pool.step next (payoutsPool config s calls ts) t := payoutsPool_append ts t
  have hsplit {ts₁ ts₂ : List (Turn GatewayReply Failure)} (h : ts = ts₁ ++ ⟨i, .act⟩ :: ts₂) :
      ts ++ [t] = ts₁ ++ ⟨i, .act⟩ :: (ts₂ ++ [t]) := by
    rw [h, List.append_assoc, List.cons_append]
  obtain ⟨p, hget⟩ : ∃ p, (payoutsPool config s calls ts).threads[i]? = some p := by
    cases h with
    | waiting starts => exact ⟨_, starts.2⟩
    | reading _ _ h => exact ⟨_, h⟩
    | looping _ _ _ _ h => exact ⟨_, h⟩
    | ended h => exact ⟨_, h⟩
  rcases Pool.step_thread next t hget with ⟨hsame, hstore⟩ | ⟨ht, s', p', x, hnext, hthread, hstore⟩
  · rw [← happend] at hsame hstore
    exact ⟨h.frame hclock (hsame.trans hget.symm), fun ht ↦ .inl (hstore ht)⟩
  · rw [ClockRuns, hstore] at hclock
    rw [← happend] at hthread hstore
    cases h with
    | waiting starts =>
        cases starts.2.symm.trans hget
        obtain ⟨hs, ⟨r, hr⟩ | ⟨hm, hp⟩⟩ := next_retryFailed hnext
        · rw [hr] at hthread
          exact ⟨.ended hthread, fun _ ↦ .inl (hstore.trans hs)⟩
        · rw [hp] at hthread
          have hnow : ts ++ [t] = ts ++ ⟨i, .act⟩ :: [] := by rw [← ht, ← hm]
          exact ⟨.reading hnow starts hthread, fun _ ↦ .inl (hstore.trans hs)⟩
    | reading split starts h =>
        cases h.symm.trans hget
        obtain ⟨hs, ⟨r, hr⟩ | hp⟩ := next_afterRead hnext
        · rw [hr] at hthread
          exact ⟨.ended hthread, fun _ ↦ .inl (hstore.trans hs)⟩
        · rw [hp] at hthread
          refine ⟨.looping (hsplit split) starts (fun _ hr ↦ hr) ?_ hthread,
            fun _ ↦ .inl (hstore.trans hs)⟩
          rw [hstore]
          exact hclock
    | looping split starts read past h =>
        cases h.symm.trans hget
        rcases next_requeueLoop hnext with
          ⟨hs, r, hr⟩ | ⟨row, rest, requeued', hmem, hsub, hdue, hwrite, hp⟩
        · rw [hr] at hthread
          exact ⟨.ended hthread, fun _ ↦ .inl (hstore.trans hs)⟩
        · rw [hp] at hthread
          refine ⟨.looping (hsplit split) starts (fun r hr ↦ read r (hsub r hr)) ?_ hthread,
            fun _ ↦ .inr ⟨_, _, row, split, starts, read row hmem, hdue.mono past, ?_⟩⟩
          · rw [hstore]
            exact past.trans hclock
          · rw [hstore]
            exact hwrite
    | ended h =>
        cases h.symm.trans hget
        exact (of_next_ofExcept hnext).elim

theorem retryStage_run (hi : calls[i]? = some .retryFailed) (ts : List (Turn GatewayReply Failure))
    (hclock : Transition.Along (Pool.step next) ClockRuns (PayoutCall.pool config s calls) ts) :
    RetryStage config s calls ts i := by
  induction ts using List.reverseRecOn with
  | nil =>
      refine .waiting ⟨hi, ?_⟩
      change (calls.map _)[i]? = _
      rw [List.getElem?_map, hi]
      rfl
  | append_singleton ts t ih =>
      obtain ⟨hbefore, hlast, -⟩ := Transition.Along.append.mp hclock
      exact ((ih hbefore).step hlast).1

/-- Every payout of a run advances. -/
theorem payoutsAdvance_run (ts₁ ts₂ : List (Turn GatewayReply Failure)) :
    (payoutsPool config s calls ts₁).store.PayoutsAdvance
      (payoutsPool config s calls (ts₁ ++ ts₂)).store := by
  have hcalls : ∀ p ∈ (PayoutCall.pool config s calls).threads,
      Guarantees (fun _ ↦ True) Store.PayoutsAdvance p := by
    intro p hp
    obtain ⟨c, -, rfl⟩ := List.mem_map.mp hp
    exact rules_payoutsAdvance.guarantees config c
  obtain ⟨-, hrest⟩ := Pool.guarantees_run .refl .trans hcalls ts₁
  have happend : payoutsPool config s calls (ts₁ ++ ts₂) =
      Pool.run next (payoutsPool config s calls ts₁) ts₂ := Transition.run_append ..
  rw [happend]
  exact (Pool.guarantees_run .refl .trans hrest ts₂).1

theorem nodup_payouts_run (hdistinct : (s.payouts.map Payout.id).Nodup)
    (ts : List (Turn GatewayReply Failure)) :
    ((payoutsPool config s calls ts).store.payouts.map Payout.id).Nodup := by
  have hkeeps : ∀ p ∈ (PayoutCall.pool config s calls).threads,
      Keeps (fun s : Store ↦ (s.payouts.map Payout.id).Nodup) p := by
    intro p hp
    obtain ⟨c, -, rfl⟩ := List.mem_map.mp hp
    refine ((c.guarantees config).mono (fun _ hs ↦ hs) fun s s' hs h ↦ ?_).keeps
    obtain ⟨f, hf, hpayouts⟩ := h.payouts
    have hids : s'.payouts.map Payout.id = s.payouts.map Payout.id := by
      rw [hpayouts, List.map_map]
      exact List.map_congr_left fun p _ ↦ (hf p).id
    rw [hids]
    exact hs
  exact Pool.keeps_run hkeeps hdistinct ts

/-- A requeueing moves its own payout. -/
theorem id_of_requeued {row p : Payout} {σ s' : Store} {count id : ℕ}
    (h : requeue row σ = .ok (count, s')) (hp : σ.payout? id = some p) (hst : p.state = .failed)
    (hq : s'.payoutState id = some .queued) : id = row.id := by
  cases h
  by_contra hne
  have hpayouts := Tx.updateMany_eq_update row.id (fun p ↦ p.state = .failed)
    Payout.requeue σ.payouts
  have hkeys : ∀ p : Payout, (if p.state = .failed then p.requeue else p).id = p.id := by
    intro p
    split <;> rfl
  have hfind : Table.find Payout.id id (Table.update Payout.id row.id
      (fun r ↦ if r.state = .failed then r.requeue else r) σ.payouts) = some p :=
    (Table.find_update_of_ne hkeys hne σ.payouts).trans hp
  rw [← hpayouts] at hfind
  have hsame := (congrArg (Option.map Payout.state) hfind).symm.trans hq
  rw [Option.map_some, hst] at hsame
  cases hsame

/-- In a run in which time does not go back and every tick of the retry job that requeues the
payout finds as many attempts as it has read, the backoff and the budget are respected. -/
theorem respects_backoff (config : PayoutsConfig) {s : Store}
    (hdistinct : (s.payouts.map Payout.id).Nodup) (calls : List PayoutCall) (id : ℕ)
    {ts : List (Turn GatewayReply Failure)}
    (hclock : Transition.Along (Pool.step next) ClockRuns (PayoutCall.pool config s calls) ts)
    (hread : RequeuesWhatItRead config s calls id ts) :
    Transition.Along (Pool.step next) (RespectsBackoff config calls id)
      (PayoutCall.pool config s calls) ts := by
  refine .of_run fun ts₀ t rest hts hi p hp hst hq ↦ ?_
  rw [hts] at hclock
  obtain ⟨hbefore, hlast, -⟩ := Transition.Along.append.mp hclock
  have hturn := ((retryStage_run hi ts₀ hbefore).step hlast).2 rfl
  have happend : payoutsPool config s calls (ts₀ ++ [t]) =
      Pool.step next (payoutsPool config s calls ts₀) t := payoutsPool_append ts₀ t
  rcases hturn with hsame | ⟨ts₁, ts₂, row, hsplit, hstarts, hmem, hdue, count, hwrite⟩
  · rw [happend] at hsame
    rw [hsame, Store.payoutState, hp, Option.map_some, hst] at hq
    cases hq
  · -- the payout is the row that the tick has read
    rw [← happend] at hq
    obtain rfl := id_of_requeued hwrite hp hst hq
    obtain ⟨hrow, hfailed, hbudget⟩ : row ∈ (payoutsPool config s calls ts₁).store.payouts ∧
        row.state = .failed ∧ row.attempts < config.maxAttempts := by
      obtain ⟨hrow, hprops⟩ := List.mem_filter.mp ((List.mem_insertionSort failedBefore).mp hmem)
      exact ⟨hrow, of_decide_eq_true hprops⟩
    have hrow? : (payoutsPool config s calls ts₁).store.payout? row.id = some row :=
      (Table.find_eq_some_iff (nodup_payouts_run hdistinct ts₁)).mpr hrow
    have hsplit' : ts₀ ++ [t] = ts₁ ++ ⟨t.thread, .act⟩ :: (ts₂ ++ [t]) := by
      rw [hsplit, List.append_assoc, List.cons_append]
    have hattempts : p.attempts = row.attempts := by
      refine hread ts₁ ts₂ t row p ⟨rest, ?_⟩ hstarts hrow? ?_ hst ?_
      · rw [← hsplit', hts, List.append_assoc, List.singleton_append]
      · rw [← hsplit]
        exact hp
      · rw [← hsplit']
        exact hq
    -- and its failure is the one that was read
    have hadvance : (payoutsPool config s calls ts₁).store.PayoutsAdvance
        (payoutsPool config s calls (ts₁ ++ ⟨t.thread, .act⟩ :: ts₂)).store :=
      payoutsAdvance_run ts₁ _
    obtain ⟨p', hp', hadv⟩ := hadvance row.id row hrow?
    rw [← hsplit] at hp'
    cases hp.symm.trans hp'
    have hclosed : ¬row.Open := by
      rintro (ho | ho) <;> cases hfailed.symm.trans ho
    have hsame := ((hadv.closed hattempts hclosed).2 hst).2
    obtain ⟨failedAt, hf, hle⟩ := hdue
    refine ⟨⟨failedAt, hsame.trans hf, ?_⟩, ?_⟩
    · rw [hattempts]
      exact hle
    · rw [hattempts]
      exact hbudget

end Runs

namespace Sample

/-- A failed payout of an artist without bank details. -/
def unpayable : Store := { owing .failed with artistPayoutMethods := [] }

def backoffCalls : List PayoutCall := [.retryFailed, .retry 1, .dispatch]

/-- The retry job has read the row and the time; an admin has the payout requeued, and it fails
again. -/
def failsAgain : List (Turn GatewayReply Failure) :=
  List.replicate 2 ⟨0, .act⟩ ++ List.replicate 2 ⟨1, .act⟩ ++ List.replicate 4 ⟨2, .act⟩

/-- The payout when the retry job writes. -/
def failedTwice : Payout :=
  { payout .failed with
    failureReason := some "NO_PAYOUT_METHOD"
    attempts := 1
    failedAt := some 86400000 }

/-- A tick of the retry job. -/
def retryTick : List (Turn GatewayReply Failure) := List.replicate 3 ⟨0, .act⟩

theorem retryTick_unwritten {ts : List (Turn GatewayReply Failure)} (h : ts <+: retryTick)
    (hlen : ts.length ≤ 2) {p : Payout}
    (hp : (payoutsPool payouts (owing .failed) [.retryFailed] ts).store.payout? 1 = some p) :
    p.attempts = 0 := by
  rw [List.prefix_iff_eq_take.mp h] at hp
  have hcases : ts.length = 0 ∨ ts.length = 1 ∨ ts.length = 2 := by omega
  rcases hcases with h | h | h
  · rw [h] at hp
    cases hp
    rfl
  · rw [h] at hp
    cases hp
    rfl
  · rw [h] at hp
    cases hp
    rfl

end Sample

/-- The payout has just failed for the second time, and is requeued. -/
theorem requeued_early :
    ¬∀ (config : PayoutsConfig) (s : Store), (s.payouts.map Payout.id).Nodup →
      ∀ (calls : List PayoutCall) (id : ℕ) (ts : List (Turn GatewayReply Failure)),
        Transition.Along (Pool.step next) ClockRuns (PayoutCall.pool config s calls) ts →
          Transition.Along (Pool.step next) (RespectsBackoff config calls id)
            (PayoutCall.pool config s calls) ts := by
  intro h
  have hclock : Transition.Along (Pool.step next) ClockRuns (PayoutCall.pool Sample.payouts
      Sample.unpayable Sample.backoffCalls) (Sample.failsAgain ++ [⟨0, .act⟩]) :=
    ⟨le_rfl, le_rfl, le_rfl, le_rfl, le_rfl, le_rfl, le_rfl, le_rfl, le_rfl, trivial⟩
  have hlast := (h Sample.payouts Sample.unpayable (by decide) Sample.backoffCalls 1
    (Sample.failsAgain ++ [⟨0, .act⟩]) hclock).last
  obtain ⟨⟨failedAt, hf, hle⟩, -⟩ := hlast rfl Sample.failedTwice rfl rfl rfl
  cases hf
  have hnow : 86400000 + backoffHoursFor 1 * 60 * 60 * 1000 ≤ 86400000 := hle
  exact absurd hnow (by decide)

theorem respects_backoff_sample :
    Transition.Along (Pool.step next) (RespectsBackoff Sample.payouts [.retryFailed] 1)
      (PayoutCall.pool Sample.payouts (Sample.owing .failed) [.retryFailed]) Sample.retryTick := by
  refine respects_backoff Sample.payouts (by decide) [.retryFailed] 1
    ⟨le_rfl, le_rfl, le_rfl, trivial⟩ ?_
  intro ts₁ ts₂ t p₀ p hp _ hp₀ hp₁ _ _
  have hlen := hp.length_le
  simp only [Sample.retryTick, List.length_append, List.length_cons, List.length_nil,
    List.length_replicate] at hlen
  have hfirst : ts₁ <+: Sample.retryTick := (List.prefix_append ts₁ _).trans hp
  have hsecond : ts₁ ++ ⟨t.thread, .act⟩ :: ts₂ <+: Sample.retryTick := by
    refine List.IsPrefix.trans ⟨[t], ?_⟩ hp
    rw [List.append_assoc, List.cons_append]
  rw [Sample.retryTick_unwritten hsecond (by simp; omega) hp₁,
    Sample.retryTick_unwritten hfirst (by omega) hp₀]

end GearshPayments
