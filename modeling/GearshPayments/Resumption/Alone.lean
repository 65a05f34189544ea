import GearshPayments.Resumption.Pool
import GearshPayments.Resumption.Relabel

/-!
# Running alone in a pool

What a program does when it runs alone it can also do in a pool: the schedule that gives
all its turns to that thread (`Pool.exists_alone`).  The same holds of several programs
that run one after the other (`runAll`, `Pool.exists_all`).
-/

namespace Resumption

variable {σ Q Q' A A' ε α : Type}

/-- Programs run one after the other, each in the environment given; the store at the end
and the questions asked. -/
def runAll (env : Env A ε) : List (Resumption σ Q A ε α) → σ → σ × List (Q × A)
  | [], s => (s, [])
  | p :: ps, s =>
    let r := p.run env s
    let rest := runAll env ps r.store
    (rest.1, r.exchanges ++ rest.2)

@[simp] theorem runAll_nil (env : Env A ε) (s : σ) :
    runAll env ([] : List (Resumption σ Q A ε α)) s = (s, []) := rfl

theorem runAll_cons (env : Env A ε) (p : Resumption σ Q A ε α) (ps : List (Resumption σ Q A ε α))
    (s : σ) :
    runAll env (p :: ps) s = ((runAll env ps (p.run env s).store).1,
      (p.run env s).exchanges ++ (runAll env ps (p.run env s).store).2) := rfl

theorem runAll_append (env : Env A ε) (ps qs : List (Resumption σ Q A ε α)) (s : σ) :
    runAll env (ps ++ qs) s = ((runAll env qs (runAll env ps s).1).1,
      (runAll env ps s).2 ++ (runAll env qs (runAll env ps s).1).2) := by
  induction ps generalizing s with
  | nil => rfl
  | cons p ps ih => rw [List.cons_append, runAll_cons, ih, runAll_cons, List.append_assoc]

/-- The run of a program with its questions put in another language. -/
theorem run_relabel (f : Q → Q') (g : A' → A) (p : Resumption σ Q A ε α) (env : Env A' ε) (s : σ) :
    ((p.relabel f g).run env s).store =
      (p.run ⟨fun n ↦ g (env.answers n), env.faults⟩ s).store := by
  induction p generalizing env s with
  | ret a => rfl
  | throw e => rfl
  | atomic act k ih =>
      rw [relabel, run, run]
      dsimp only
      cases env.faults 0 with
      | none => exact ih _ env.afterAction _
      | some e => exact ih _ env.afterAction _
  | ask q k ih => exact ih _ env.afterAnswer _

namespace Pool

/-- The thread can have turns by itself that lead to the store and the log given. -/
def Reaches (P : Pool σ Q A (Resumption σ Q A ε α)) (i : ℕ) (s : σ)
    (log : List (ℕ × Q × A)) : Prop :=
  ∃ ts : List (Turn A ε), (∀ t ∈ ts, t.thread = i) ∧ (run next P ts).store = s ∧
    (run next P ts).log = log ∧ ∀ j, j ≠ i → (run next P ts).threads[j]? = P.threads[j]?

theorem Reaches.refl (P : Pool σ Q A (Resumption σ Q A ε α)) (i : ℕ) : Reaches P i P.store P.log :=
  ⟨[], fun _ ht ↦ absurd ht List.not_mem_nil, rfl, rfl, fun _ _ ↦ rfl⟩

theorem Reaches.cons {P : Pool σ Q A (Resumption σ Q A ε α)} {i : ℕ} {m : Move A ε}
    {p p' : Resumption σ Q A ε α} {s s' : σ} {x : Option (Q × A)} {log : List (ℕ × Q × A)}
    (hi : P.threads[i]? = some p) (hn : next p m P.store = some (s, p', x))
    (h : Reaches ⟨s, P.threads.set i p', P.log ++ x.toList.map fun y ↦ (i, y)⟩ i s' log) :
    Reaches P i s' log := by
  obtain ⟨ts, hts, hstore, hlog, hother⟩ := h
  refine ⟨⟨i, m⟩ :: ts, List.forall_mem_cons.mpr ⟨rfl, hts⟩, ?_⟩
  rw [run, Transition.run_cons, step_eq hi hn]
  refine ⟨hstore, hlog, fun j hj ↦ (hother j hj).trans ?_⟩
  exact List.getElem?_set_ne (Ne.symm hj)

/-- A thread that has all the turns does in the pool what it does alone. -/
theorem exists_alone {P : Pool σ Q A (Resumption σ Q A ε α)} {i : ℕ} {p : Resumption σ Q A ε α}
    (hi : P.threads[i]? = some p) (env : Env A ε) :
    Reaches P i (p.run env P.store).store
      (P.log ++ (p.run env P.store).exchanges.map fun x ↦ (i, x)) := by
  have hset : ∀ {P : Pool σ Q A (Resumption σ Q A ε α)} {q : Resumption σ Q A ε α},
      P.threads[i]? = some q → ∀ q', (P.threads.set i q')[i]? = some q' :=
    fun h q' ↦ List.getElem?_set_self (List.getElem?_eq_some_iff.mp h).1
  induction p generalizing P env with
  | ret a =>
      rw [Resumption.run, List.map_nil, List.append_nil]
      exact .refl P i
  | throw e =>
      rw [Resumption.run, List.map_nil, List.append_nil]
      exact .refl P i
  | atomic act k ih =>
      rw [Resumption.run]
      cases hf : env.faults 0 with
      | none =>
          have hrest := ih (.ok P.store)
            (P := ⟨act P.store, P.threads.set i (k (.ok P.store)), P.log⟩)
            (hset hi _) env.afterAction
          refine Reaches.cons (m := .act) hi rfl ?_
          rw [Option.toList, List.map_nil, List.append_nil]
          exact hrest
      | some e =>
          have hrest := ih (.error e) (P := ⟨P.store, P.threads.set i (k (.error e)), P.log⟩)
            (hset hi _) env.afterAction
          refine Reaches.cons (m := .refuse e) hi rfl ?_
          rw [Option.toList, List.map_nil, List.append_nil]
          exact hrest
  | ask q k ih =>
      have hrest := ih (env.answers 0)
        (P := ⟨P.store, P.threads.set i (k (env.answers 0)), P.log ++ [(i, q, env.answers 0)]⟩)
        (hset hi _) env.afterAnswer
      refine Reaches.cons (m := .answer (env.answers 0)) hi rfl ?_
      rw [run_ask, List.map_cons, List.append_cons]
      exact hrest

/-- Threads that have no turns make no difference. -/
theorem run_append_threads {P : Pool σ Q A (Resumption σ Q A ε α)} {ts : List (Turn A ε)}
    (hts : ∀ t ∈ ts, t.thread < P.threads.length) (qs : List (Resumption σ Q A ε α)) :
    run next ⟨P.store, P.threads ++ qs, P.log⟩ ts =
      ⟨(run next P ts).store, (run next P ts).threads ++ qs, (run next P ts).log⟩ := by
  induction ts generalizing P with
  | nil => rfl
  | cons t ts ih =>
      obtain ⟨ht, hts⟩ := List.forall_mem_cons.mp hts
      have hget : (P.threads ++ qs)[t.thread]? = P.threads[t.thread]? :=
        List.getElem?_append_left ht
      have hstep : step next ⟨P.store, P.threads ++ qs, P.log⟩ t =
          ⟨(step next P t).store, (step next P t).threads ++ qs, (step next P t).log⟩ := by
        unfold step
        dsimp only
        rw [hget]
        split
        · rfl
        · split
          · rfl
          · rw [List.set_append_left _ _ ht]
      have hlen := length_threads_run next P [t]
      simp only [run, Transition.run_cons] at hlen ⊢
      rw [hstep]
      exact ih fun t ht ↦ hlen ▸ hts t ht

/-- Threads from the `n`-th on, one after the other. -/
theorem exists_all {P : Pool σ Q A (Resumption σ Q A ε α)} {n : ℕ}
    {ps : List (Resumption σ Q A ε α)}
    (hps : ∀ (j : ℕ) p, ps[j]? = some p → P.threads[n + j]? = some p) (env : Env A ε) :
    ∃ ts : List (Turn A ε), (∀ t ∈ ts, n ≤ t.thread ∧ t.thread < n + ps.length) ∧
      (run next P ts).store = (runAll env ps P.store).1 ∧
      ∃ xs, (run next P ts).log = P.log ++ xs ∧ xs.map Prod.snd = (runAll env ps P.store).2 := by
  induction ps generalizing P n with
  | nil => exact ⟨[], fun _ ht ↦ absurd ht List.not_mem_nil, rfl, [], (List.append_nil _).symm, rfl⟩
  | cons p ps ih =>
      obtain ⟨ts, hts, hstore, hlog, hother⟩ := exists_alone (hps 0 p rfl) env
      have hrest : ∀ (j : ℕ) q, ps[j]? = some q → (run next P ts).threads[n + 1 + j]? = some q := by
        intro j q hq
        rw [hother _ (by omega), Nat.add_right_comm]
        exact hps (j + 1) q hq
      obtain ⟨us, hus, hstore', xs, hlog', hxs⟩ := ih hrest
      refine ⟨ts ++ us, fun t ht ↦ ?_, ?_, (p.run env P.store).exchanges.map (fun x ↦ (n, x)) ++ xs,
        ?_, ?_⟩
      · rw [List.length_cons]
        rcases List.mem_append.mp ht with ht | ht
        · rw [hts t ht]
          omega
        · have := hus t ht
          omega
      · rw [run, Transition.run_append]
        rw [hstore] at hstore'
        exact hstore'
      · rw [run, Transition.run_append]
        rw [hlog, List.append_assoc] at hlog'
        exact hlog'
      · rw [hstore] at hxs
        rw [List.map_append, hxs, runAll_cons, List.map_map]
        exact congrArg (· ++ _) (List.map_id _)

end Pool

end Resumption
