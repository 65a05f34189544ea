import GearshPayments.Resumption.Pool
import Mathlib.Algebra.BigOperators.Group.List.Basic
import Mathlib.Tactic.Abel

/-!
# Monitors: invariants of pools that look at the threads

`Resumption/Invariant.lean` is about the store alone.  An invariant that relates the
store and the log to what each thread is doing cannot be stated over programs, which
are opaque.  A *monitor* gives every thread a state of its own that can be inspected:
it says what a thread in that state knows of the store, and how an action or an
exchange of the thread may change the state.

A program conforms to a monitor when each of its steps is one that the monitor
allows; `Conforms` is computed from the end of the program, like a weakest
precondition, and each construction of programs has its rule.  For a pool of
conforming programs it is then enough to show that the invariant survives what the
monitor allows (`Pool.conforms_run`).
-/

namespace Resumption

variable {σ Q A ε α β V : Type}

/-- Thread states, what they know, and what a thread may do in them. -/
structure Monitor (σ Q A V : Type) where
  /-- What a thread in this state knows of the store. -/
  Knows : V → σ → Prop
  /-- The thread may take the store from the first to the second and itself to the
  state given last. -/
  Writes : V → σ → σ → V → Prop
  /-- The thread may ask this, be answered this, and be in the state given last. -/
  Asks : V → Q → A → V → Prop

/-- Every step of the program is one that the monitor allows, and it ends with a state
and result that satisfy `post`. -/
def Conforms (M : Monitor σ Q A V) :
    Resumption σ Q A ε α → V → (V → Except ε α → Prop) → Prop
  | .ret a, v, post => post v (.ok a)
  | .throw e, v, post => post v (.error e)
  | .atomic act k, v, post =>
    (∀ s, M.Knows v s → ∃ v', M.Writes v s (act s) v' ∧ Conforms M (k (.ok s)) v' post) ∧
      ∀ e, Conforms M (k (.error e)) v post
  | .ask q k, v, post => ∀ a, ∃ v', M.Asks v q a v' ∧ Conforms M (k a) v' post

/-- The program ends in the state `v`, and what it returns, if it does, satisfies `P`. -/
def Returns (v : V) (P : α → Prop) : V → Except ε α → Prop := fun v' r ↦
  v' = v ∧ ∀ a, r = .ok a → P a

theorem Returns.ok {v : V} {P : α → Prop} {a : α} (h : P a) :
    Returns v P v (.ok a : Except ε α) :=
  ⟨rfl, fun _ hb ↦ by cases hb; exact h⟩

theorem Returns.error {v : V} {P : α → Prop} (e : ε) : Returns v P v (.error e) :=
  ⟨rfl, fun _ hb ↦ by cases hb⟩

namespace Conforms

variable {M : Monitor σ Q A V} {v : V} {post : V → Except ε α → Prop}

theorem ret {a : α} (h : post v (.ok a)) : Conforms M (.ret a) v post := h

theorem throw {e : ε} (h : post v (.error e)) : Conforms M (.throw e) v post := h

/-- A weaker postcondition. -/
theorem mono {p : Resumption σ Q A ε α} {post' : V → Except ε α → Prop} (hp : Conforms M p v post)
    (h : ∀ v' r, post v' r → post' v' r) : Conforms M p v post' := by
  induction p generalizing v with
  | ret a => exact h _ _ hp
  | throw e => exact h _ _ hp
  | atomic act k ih =>
      refine ⟨fun s hs ↦ ?_, fun e ↦ ih _ (hp.2 e)⟩
      obtain ⟨v', hw, hk⟩ := hp.1 s hs
      exact ⟨v', hw, ih _ hk⟩
  | ask q k ih =>
      intro a
      obtain ⟨v', hx, hk⟩ := hp a
      exact ⟨v', hx, ih a hk⟩

/-- The rule of composition. -/
theorem bind {p : Resumption σ Q A ε α} {f : α → Resumption σ Q A ε β}
    {mid : V → Except ε α → Prop} {post : V → Except ε β → Prop} (hp : Conforms M p v mid)
    (hf : ∀ v' a, mid v' (.ok a) → Conforms M (f a) v' post)
    (he : ∀ v' e, mid v' (.error e) → post v' (.error e)) : Conforms M (p >>= f) v post := by
  induction p generalizing v with
  | ret a => exact hf v a hp
  | throw e => exact he v e hp
  | atomic act k ih =>
      refine ⟨fun s hs ↦ ?_, fun e ↦ ih _ (hp.2 e)⟩
      obtain ⟨v', hw, hk⟩ := hp.1 s hs
      exact ⟨v', hw, ih _ hk⟩
  | ask q k ih =>
      intro a
      obtain ⟨v', hx, hk⟩ := hp a
      exact ⟨v', hx, ih a hk⟩

/-- Composition after a part that leaves the state alone. -/
theorem bind_returns {p : Resumption σ Q A ε α} {f : α → Resumption σ Q A ε β} {v' : V}
    {P : α → Prop} {post : V → Except ε β → Prop} (hp : Conforms M p v (Returns v' P))
    (hf : ∀ a, P a → Conforms M (f a) v' post) (he : ∀ e, post v' (.error e)) :
    Conforms M (p >>= f) v post := by
  refine hp.bind ?_ ?_
  · rintro v a ⟨rfl, ha⟩
    exact hf a (ha a rfl)
  · rintro v e ⟨rfl, -⟩
    exact he e

theorem ret_returns {a : α} {P : α → Prop} (h : P a) :
    Conforms M (.ret a : Resumption σ Q A ε α) v (Returns v P) := Returns.ok h

theorem throw_returns {e : ε} {P : α → Prop} :
    Conforms M (.throw e : Resumption σ Q A ε α) v (Returns v P) := Returns.error e

theorem discard {p : Resumption σ Q A ε α} {post : V → Except ε PUnit → Prop}
    (hp : Conforms M p v fun v' r ↦ post v' (r.map fun _ ↦ ⟨⟩)) :
    Conforms M (discard p : Resumption σ Q A ε PUnit) v post := by
  change Conforms M (p >>= fun _ ↦ Resumption.ret PUnit.unit) v post
  exact hp.bind (fun _ _ h ↦ h) fun _ _ h ↦ h

/-- A read tells what the thread knows of the store it reads. -/
theorem read {f : σ → α} (hw : ∀ s, M.Writes v s s v)
    (h : ∀ s, M.Knows v s → post v (.ok (f s))) (he : ∀ e, post v (.error e)) :
    Conforms M (read f) v post :=
  ⟨fun s hs ↦ ⟨v, hw s, h s hs⟩, he⟩

theorem read_returns {f : σ → α} {P : α → Prop} (hw : ∀ s, M.Writes v s s v)
    (h : ∀ s, M.Knows v s → P (f s)) :
    Conforms M (Resumption.read f : Resumption σ Q A ε α) v (Returns v P) :=
  .read hw (fun s hs ↦ .ok (h s hs)) .error

/-- What follows a read may depend on what the thread knows of the store read. -/
theorem read_bind {f : σ → α} {g : α → Resumption σ Q A ε β} {post : V → Except ε β → Prop}
    (hw : ∀ s, M.Writes v s s v) (h : ∀ s, M.Knows v s → Conforms M (g (f s)) v post)
    (he : ∀ e, post v (.error e)) : Conforms M (Resumption.read f >>= g) v post :=
  ⟨fun s hs ↦ ⟨v, hw s, h s hs⟩, he⟩

/-- The thread may take the occasion of a read to change its state. -/
theorem read_bind_to {f : σ → α} {g : α → Resumption σ Q A ε β} {post : V → Except ε β → Prop}
    (h : ∀ s, M.Knows v s → ∃ v', M.Writes v s s v' ∧ Conforms M (g (f s)) v' post)
    (he : ∀ e, post v (.error e)) : Conforms M (Resumption.read f >>= g) v post :=
  ⟨h, he⟩

theorem ofExcept_bind {r : Except ε α} {g : α → Resumption σ Q A ε β}
    {post : V → Except ε β → Prop} (h : ∀ a, r = .ok a → Conforms M (g a) v post)
    (he : ∀ e, post v (.error e)) : Conforms M (Resumption.ofExcept r >>= g) v post := by
  cases r with
  | error e => exact he e
  | ok a => exact h a rfl

theorem map {p : Resumption σ Q A ε α} {f : α → β} {post : V → Except ε β → Prop}
    (hp : Conforms M p v fun v' r ↦ post v' (r.map f)) : Conforms M (f <$> p) v post := by
  rw [map_eq_pure_bind]
  exact hp.bind (fun _ _ h ↦ h) fun _ _ h ↦ h

/-- The handler starts in the state in which the program threw. -/
theorem tryCatch {p : Resumption σ Q A ε α} {h : ε → Resumption σ Q A ε α}
    {mid : V → Except ε α → Prop} (hp : Conforms M p v mid)
    (hok : ∀ v' a, mid v' (.ok a) → post v' (.ok a))
    (he : ∀ v' e, mid v' (.error e) → Conforms M (h e) v' post) :
    Conforms M (tryCatchThe ε p h) v post := by
  induction p generalizing v with
  | ret a => exact hok v a hp
  | throw e => exact he v e hp
  | atomic act k ih =>
      refine ⟨fun s hs ↦ ?_, fun e ↦ ih _ (hp.2 e)⟩
      obtain ⟨v', hw, hk⟩ := hp.1 s hs
      exact ⟨v', hw, ih _ hk⟩
  | ask q k ih =>
      intro a
      obtain ⟨v', hx, hk⟩ := hp a
      exact ⟨v', hx, ih a hk⟩

/-- A transaction commits, or it changes nothing. -/
theorem transaction {t : StateT σ (Except ε) α} (hw : ∀ s, M.Writes v s s v)
    (h : ∀ s a s', M.Knows v s → t s = .ok (a, s') → ∃ v', M.Writes v s s' v' ∧ post v' (.ok a))
    (he : ∀ e, post v (.error e)) : Conforms M (transaction t) v post := by
  refine ⟨fun s hs ↦ ?_, he⟩
  cases ht : t s with
  | error e => exact ⟨v, by simpa only [ht] using hw s, by simp only [ht]; exact he e⟩
  | ok r =>
      obtain ⟨v', hw', hp⟩ := h s r.1 r.2 hs ht
      exact ⟨v', by simpa only [ht] using hw', by simp only [ht]; exact hp⟩

/-- A monitor that allows at least as much, with other thread states. -/
theorem embed {W : Type} {N : Monitor σ Q A W} {e : V → W}
    (hknows : ∀ v s, N.Knows (e v) s → M.Knows v s)
    (hwrites : ∀ v s s' v', M.Writes v s s' v' → N.Writes (e v) s s' (e v'))
    (hasks : ∀ v q a v', M.Asks v q a v' → N.Asks (e v) q a (e v')) {p : Resumption σ Q A ε α}
    {post' : W → Except ε α → Prop} (hp : Conforms M p v post)
    (hpost : ∀ v r, post v r → post' (e v) r) : Conforms N p (e v) post' := by
  induction p generalizing v with
  | ret a => exact hpost _ _ hp
  | throw err => exact hpost _ _ hp
  | atomic act k ih =>
      refine ⟨fun s hs ↦ ?_, fun err ↦ ih _ (hp.2 err)⟩
      obtain ⟨v', hw, hk⟩ := hp.1 s (hknows v s hs)
      exact ⟨e v', hwrites _ _ _ _ hw, ih _ hk⟩
  | ask q k ih =>
      intro a
      obtain ⟨v', hx, hk⟩ := hp a
      exact ⟨e v', hasks _ _ _ _ hx, ih a hk⟩

end Conforms

/-! ## Pools of conforming programs -/

namespace Pool

variable {M : Monitor σ Q A V} {post : V → Except ε α → Prop}

/-- The threads conform from the states given. -/
def Conforming (M : Monitor σ Q A V) (post : V → Except ε α → Prop)
    (ps : List (Resumption σ Q A ε α)) (vs : List V) : Prop :=
  ∀ (i : ℕ) p, ps[i]? = some p → ∃ v, vs[i]? = some v ∧ Conforms M p v post

theorem conforming_set {ps : List (Resumption σ Q A ε α)} {vs : List V}
    (h : Conforming M post ps vs) {i : ℕ} {p : Resumption σ Q A ε α} {v : V}
    (hi : i < vs.length) (hc : Conforms M p v post) :
    Conforming M post (ps.set i p) (vs.set i v) := by
  refine forall_set_of_ne (fun j q hj hq ↦ ?_) ⟨v, List.getElem?_set_self hi, hc⟩
  rw [List.getElem?_set_ne hj]
  exact h j q hq

/-- A sum over the thread states changes by what the step changes. -/
theorem sum_map_set {M : Type} [AddCommGroup M] (f : V → M) {vs : List V} {i : ℕ} {v : V}
    (h : vs[i]? = some v) (v' : V) :
    ((vs.set i v').map f).sum = (vs.map f).sum + (f v' - f v) := by
  obtain ⟨hlt, rfl⟩ := List.getElem?_eq_some_iff.mp h
  have hlen : i < (vs.map f).length := by rwa [List.length_map]
  rw [List.map_set, List.sum_set', dif_pos hlen, List.getElem_map]
  abel

/-- What holds of every thread state and of a new one holds of all once it is in place. -/
theorem forall_set {C : ℕ → V → Prop} {vs : List V} (h : ∀ (j : ℕ) w, vs[j]? = some w → C j w)
    {i : ℕ} {v : V} (hv : C i v) : ∀ (j : ℕ) w, (vs.set i v)[j]? = some w → C j w :=
  forall_set_of_ne (fun j w _ ↦ h j w) hv

/-- What a turn does to a pool of conforming threads, as the monitor sees it: nothing, a write
or a question of the thread that has the turn. -/
theorem conforming_step {P : Pool σ Q A (Resumption σ Q A ε α)} {vs : List V}
    (hp : Conforming M post P.threads vs)
    (hknows : ∀ (i : ℕ) v, vs[i]? = some v → M.Knows v P.store)
    (t : Turn A ε) :
    ∃ vs', Conforming M post (step next P t).threads vs' ∧
      (((step next P t).store = P.store ∧ (step next P t).log = P.log ∧ vs' = vs) ∨
        (∃ v v', vs[t.thread]? = some v ∧ M.Writes v P.store (step next P t).store v' ∧
          (step next P t).log = P.log ∧ vs' = vs.set t.thread v') ∨
        ∃ v q a v', vs[t.thread]? = some v ∧ M.Asks v q a v' ∧
          (step next P t).store = P.store ∧
          (step next P t).log = P.log ++ [(t.thread, q, a)] ∧ vs' = vs.set t.thread v') := by
  rcases step_cases next P t with h | ⟨p, s, p', x, hget, hnext, h⟩
  · rw [h]
    exact ⟨vs, hp, .inl ⟨rfl, rfl, rfl⟩⟩
  · obtain ⟨v, hv, hc⟩ := hp _ _ hget
    have hlt : t.thread < vs.length := (List.getElem?_eq_some_iff.mp hv).1
    rw [h]
    generalize t.thread = i at *
    cases p with
    | ret a => cases hm : t.move <;> rw [hm] at hnext <;> cases hnext
    | throw e => cases hm : t.move <;> rw [hm] at hnext <;> cases hnext
    | atomic act k =>
        cases hm : t.move with
        | act =>
            rw [hm] at hnext
            cases hnext
            obtain ⟨v', hw, hk⟩ := hc.1 P.store (hknows i v hv)
            refine ⟨vs.set i v', conforming_set hp hlt hk, .inr (.inl ⟨v, v', hv, hw, ?_, rfl⟩)⟩
            exact List.append_nil _
        | refuse e =>
            rw [hm] at hnext
            cases hnext
            have hset : vs.set i v = vs := by
              obtain ⟨-, rfl⟩ := List.getElem?_eq_some_iff.mp hv
              exact List.set_getElem_self hlt
            refine ⟨vs, hset ▸ conforming_set hp hlt (hc.2 e), .inl ⟨rfl, ?_, rfl⟩⟩
            exact List.append_nil _
        | answer a =>
            rw [hm] at hnext
            cases hnext
    | ask q k =>
        cases hm : t.move with
        | act => rw [hm] at hnext; cases hnext
        | refuse e => rw [hm] at hnext; cases hnext
        | answer a =>
            rw [hm] at hnext
            cases hnext
            obtain ⟨v', hx, hk⟩ := hc a
            exact ⟨vs.set i v', conforming_set hp hlt hk,
              .inr (.inr ⟨v, q, a, v', hv, hx, rfl, rfl, rfl⟩)⟩

/-- An invariant of store, thread states and log that survives whatever the monitor
allows, in steps that meet a condition on the thread and on the stores before and after,
holds along every run whose steps meet it. -/
theorem conforming_run {D : ℕ → σ → σ → Prop} {J : σ → List V → List (ℕ × Q × A) → Prop}
    (hknows : ∀ {s vs log} {i : ℕ} {v}, J s vs log → vs[i]? = some v → M.Knows v s)
    (hwrites : ∀ {s vs log} {i : ℕ} {v s' v'}, J s vs log → vs[i]? = some v → M.Writes v s s' v' →
      D i s s' → J s' (vs.set i v') log)
    (hasks : ∀ {s vs log} {i : ℕ} {v q a v'}, J s vs log → vs[i]? = some v → M.Asks v q a v' →
      J s (vs.set i v') (log ++ [(i, q, a)]))
    {P : Pool σ Q A (Resumption σ Q A ε α)} {vs : List V} (hp : Conforming M post P.threads vs)
    (hJ : J P.store vs P.log) {ts : List (Turn A ε)}
    (h : Transition.Along (step next) (fun P t ↦ D t.thread P.store (step next P t).store) P ts) :
    ∃ vs', Conforming M post (run next P ts).threads vs' ∧
      J (run next P ts).store vs' (run next P ts).log := by
  let I : Pool σ Q A (Resumption σ Q A ε α) → Prop :=
    fun P ↦ ∃ vs, Conforming M post P.threads vs ∧ J P.store vs P.log
  have hstep : ∀ P t, D t.thread P.store (step next P t).store → I P → I (step next P t) := by
    rintro P t hD ⟨vs, hp, hJ⟩
    obtain ⟨vs', hp', ⟨hs, hlog, rfl⟩ | ⟨v, v', hv, hw, hlog, rfl⟩ |
      ⟨v, q, a, v', hv, hx, hs, hlog, rfl⟩⟩ :=
      conforming_step hp (fun i v hv ↦ hknows hJ hv) t
    · exact ⟨vs', hp', by rw [hs, hlog]; exact hJ⟩
    · exact ⟨_, hp', by rw [hlog]; exact hwrites hJ hv hw hD⟩
    · exact ⟨_, hp', by rw [hs, hlog]; exact hasks hJ hv hx⟩
  exact Transition.Along.run_invariant hstep ⟨vs, hp, hJ⟩ h

/-- The invariant alone. -/
theorem conforms_run {D : ℕ → σ → σ → Prop} {J : σ → List V → List (ℕ × Q × A) → Prop}
    (hknows : ∀ {s vs log} {i : ℕ} {v}, J s vs log → vs[i]? = some v → M.Knows v s)
    (hwrites : ∀ {s vs log} {i : ℕ} {v s' v'}, J s vs log → vs[i]? = some v → M.Writes v s s' v' →
      D i s s' → J s' (vs.set i v') log)
    (hasks : ∀ {s vs log} {i : ℕ} {v q a v'}, J s vs log → vs[i]? = some v → M.Asks v q a v' →
      J s (vs.set i v') (log ++ [(i, q, a)]))
    {P : Pool σ Q A (Resumption σ Q A ε α)} {vs : List V} (hp : Conforming M post P.threads vs)
    (hJ : J P.store vs P.log) {ts : List (Turn A ε)}
    (h : Transition.Along (step next) (fun P t ↦ D t.thread P.store (step next P t).store) P ts) :
    ∃ vs', J (run next P ts).store vs' (run next P ts).log := by
  obtain ⟨vs', -, hJ'⟩ := conforming_run (D := D) (J := J) hknows hwrites hasks hp hJ h
  exact ⟨vs', hJ'⟩

end Pool

end Resumption
