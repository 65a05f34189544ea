import Mathlib.Data.List.Induction
import GearshPayments.Resumption.Invariant

/-!
# What the actions of a program guarantee

`Keeps` speaks of one store at a time.  Often more is known of a program: how each of
its actions changes the store (`Guarantees`), or that it does not return before it has
brought something about (`Establishes`).  Both assume a property of stores that
everybody in the pool keeps, and both carry over to pools: a turn of a thread changes
the store as the thread guarantees (`Pool.guarantees_step`), and what a thread has
established when it returns still holds if nobody undoes it (`Pool.establishes_run`).
-/

namespace Resumption

variable {σ Q A ε α β : Type} {I : σ → Prop} {G : σ → σ → Prop} {C : σ → Prop}

/-! ## Guarantees -/

/-- Every atomic action of the program, from a store in `I`, is a change that `G` allows. -/
def Guarantees (I : σ → Prop) (G : σ → σ → Prop) : Resumption σ Q A ε α → Prop
  | .ret _ => True
  | .throw _ => True
  | .atomic act k =>
    (∀ s, I s → G s (act s) ∧ Guarantees I G (k (.ok s))) ∧ ∀ e, Guarantees I G (k (.error e))
  | .ask _ k => ∀ a, Guarantees I G (k a)

@[simp] theorem guarantees_ret (a : α) :
    Guarantees I G (.ret a : Resumption σ Q A ε α) := trivial

@[simp] theorem guarantees_throw (e : ε) :
    Guarantees I G (.throw e : Resumption σ Q A ε α) := trivial

@[simp] theorem guarantees_ofExcept (r : Except ε α) :
    Guarantees I G (ofExcept r : Resumption σ Q A ε α) := by
  cases r with
  | error e => trivial
  | ok a => trivial

@[simp] theorem guarantees_query (q : Q) :
    Guarantees I G (query q : Resumption σ Q A ε A) := fun _ ↦ trivial

theorem guarantees_read (hG : ∀ s, I s → G s s) (f : σ → α) :
    Guarantees I G (read f : Resumption σ Q A ε α) :=
  ⟨fun s hs ↦ ⟨hG s hs, trivial⟩, fun _ ↦ trivial⟩

/-- A read tells what the store read is like. -/
theorem guarantees_read_bind (hG : ∀ s, I s → G s s) {f : σ → α} {g : α → Resumption σ Q A ε β}
    (hg : ∀ s, I s → Guarantees I G (g (f s))) : Guarantees I G (read f >>= g) :=
  ⟨fun s hs ↦ ⟨hG s hs, hg s hs⟩, fun _ ↦ trivial⟩

theorem guarantees_statement (hG : ∀ s, I s → G s s) :
    Guarantees I G (statement : Resumption σ Q A ε Unit) := guarantees_read hG _

/-- A transaction commits a change, or changes nothing. -/
theorem guarantees_transaction (hG : ∀ s, I s → G s s) {t : StateT σ (Except ε) α}
    (h : ∀ s a s', I s → t s = .ok (a, s') → G s s') :
    Guarantees I G (transaction t : Resumption σ Q A ε α) := by
  refine ⟨fun s hs ↦ ?_, fun e ↦ trivial⟩
  cases ht : t s with
  | error e => exact ⟨by simpa only [ht] using hG s hs, by simp only [ht]; trivial⟩
  | ok r => exact ⟨by simpa only [ht] using h s r.1 r.2 hs ht, by simp only [ht]; trivial⟩

namespace Guarantees

/-- Where all changes are allowed, every program guarantees it. -/
theorem of_forall (hG : ∀ s s', G s s') (p : Resumption σ Q A ε α) : Guarantees I G p := by
  induction p with
  | ret a => trivial
  | throw e => trivial
  | atomic act k ih => exact ⟨fun s _ ↦ ⟨hG s _, ih _⟩, fun e ↦ ih _⟩
  | ask q k ih => exact fun a ↦ ih a

theorem bind {p : Resumption σ Q A ε α} {f : α → Resumption σ Q A ε β} (hp : Guarantees I G p)
    (hf : ∀ a, Guarantees I G (f a)) : Guarantees I G (p >>= f) := by
  induction p with
  | ret a => exact hf a
  | throw e => trivial
  | atomic act k ih =>
      refine ⟨fun s hs ↦ ?_, fun e ↦ ih _ (hp.2 e)⟩
      obtain ⟨hact, hk⟩ := hp.1 s hs
      exact ⟨hact, ih _ hk⟩
  | ask q k ih => exact fun a ↦ ih a (hp a)

theorem map {p : Resumption σ Q A ε α} {f : α → β} (hp : Guarantees I G p) :
    Guarantees I G (f <$> p) := by
  rw [map_eq_pure_bind]
  exact hp.bind fun _ ↦ guarantees_ret _

theorem discard {p : Resumption σ Q A ε α} (hp : Guarantees I G p) :
    Guarantees I G (discard p : Resumption σ Q A ε PUnit) := by
  change Guarantees I G (p >>= fun _ ↦ Resumption.ret PUnit.unit)
  exact hp.bind fun _ ↦ guarantees_ret _

theorem tryCatch {p : Resumption σ Q A ε α} {h : ε → Resumption σ Q A ε α}
    (hp : Guarantees I G p) (hh : ∀ e, Guarantees I G (h e)) :
    Guarantees I G (tryCatchThe ε p h) := by
  induction p with
  | ret a => trivial
  | throw e => exact hh e
  | atomic act k ih =>
      refine ⟨fun s hs ↦ ?_, fun e ↦ ih _ (hp.2 e)⟩
      obtain ⟨hact, hk⟩ := hp.1 s hs
      exact ⟨hact, ih _ hk⟩
  | ask q k ih => exact fun a ↦ ih a (hp a)

/-- A guarantee may be weakened, and given for fewer stores. -/
theorem mono {I' : σ → Prop} {G' : σ → σ → Prop} {p : Resumption σ Q A ε α}
    (hp : Guarantees I G p) (hI : ∀ s, I' s → I s) (hG : ∀ s s', I' s → G s s' → G' s s') :
    Guarantees I' G' p := by
  induction p with
  | ret a => trivial
  | throw e => trivial
  | atomic act k ih =>
      refine ⟨fun s hs ↦ ?_, fun e ↦ ih _ (hp.2 e)⟩
      obtain ⟨hact, hk⟩ := hp.1 s (hI s hs)
      exact ⟨hG _ _ hs hact, ih _ hk⟩
  | ask q k ih => exact fun a ↦ ih a (hp a)

/-- A change that ends in `I` keeps `I`. -/
theorem keeps {p : Resumption σ Q A ε α} (hp : Guarantees I (fun _ s' ↦ I s') p) : Keeps I p := by
  induction p with
  | ret a => trivial
  | throw e => trivial
  | atomic act k ih =>
      refine ⟨fun s hs ↦ ?_, fun e ↦ ih _ (hp.2 e)⟩
      obtain ⟨hact, hk⟩ := hp.1 s hs
      exact ⟨hact, ih _ hk⟩
  | ask q k ih => exact fun a ↦ ih a (hp a)

/-- A change that ends in `J` keeps `J` with what the program keeps anyway. -/
theorem keeps_and {J : σ → Prop} {p : Resumption σ Q A ε α}
    (hp : Guarantees (fun s ↦ I s ∧ J s) (fun _ s' ↦ J s') p) (hI : Keeps I p) :
    Keeps (fun s ↦ I s ∧ J s) p := by
  induction p with
  | ret a => trivial
  | throw e => trivial
  | atomic act k ih =>
      refine ⟨fun s hs ↦ ?_, fun e ↦ ih _ (hp.2 e) (hI.2 e)⟩
      obtain ⟨hact, hk⟩ := hp.1 s hs
      obtain ⟨hkept, hrest⟩ := hI.1 s hs.1
      exact ⟨⟨hkept, hact⟩, ih _ hk hrest⟩
  | ask q k ih => exact fun a ↦ ih a (hp a) (hI a)

/-- What changes compose to is guaranteed of a program that runs alone. -/
theorem run {p : Resumption σ Q A ε α} (hp : Guarantees (fun _ ↦ True) G p) (hrefl : ∀ s, G s s)
    (htrans : ∀ {s s' s''}, G s s' → G s' s'' → G s s'') (env : Env A ε) (s : σ) :
    G s (p.run env s).store := by
  have hchanges : Guarantees (G s) (fun _ s' ↦ G s s') p :=
    hp.mono (fun _ _ ↦ trivial) fun _ _ hs h ↦ htrans hs h
  exact hchanges.keeps.run (hrefl s) env

theorem next {p p' : Resumption σ Q A ε α} (hp : Guarantees I G p) (hG : ∀ s, I s → G s s)
    {m : Move A ε} {s s' : σ} {x : Option (Q × A)} (hs : I s)
    (h : next p m s = some (s', p', x)) : G s s' ∧ Guarantees I G p' := by
  cases p with
  | ret a => cases m <;> cases h
  | throw e => cases m <;> cases h
  | atomic act k =>
      cases m with
      | act =>
          cases h
          exact hp.1 s hs
      | refuse e =>
          cases h
          exact ⟨hG _ hs, hp.2 e⟩
      | answer a => cases h
  | ask q k =>
      cases m with
      | act => cases h
      | refuse e => cases h
      | answer a =>
          cases h
          exact ⟨hG _ hs, hp a⟩

end Guarantees

/-! ## Establishing -/

/-- The program does not return before one of its actions has ended in `C`. -/
def Establishes (I : σ → Prop) (C : σ → Prop) : Resumption σ Q A ε α → Prop
  | .ret _ => False
  | .throw _ => True
  | .atomic act k =>
    (∀ s, I s → C (act s) ∨ Establishes I C (k (.ok s))) ∧ ∀ e, Establishes I C (k (.error e))
  | .ask _ k => ∀ a, Establishes I C (k a)

theorem establishes_throw (e : ε) :
    Establishes I C (.throw e : Resumption σ Q A ε α) := trivial

/-- A read tells what the store read is like. -/
theorem establishes_read {f : σ → α} {g : α → Resumption σ Q A ε β}
    (hg : ∀ s, I s → Establishes I C (g (f s))) : Establishes I C (read f >>= g) :=
  ⟨fun s hs ↦ .inr (hg s hs), fun _ ↦ trivial⟩

/-- A transaction all of whose commits end in `C`. -/
theorem establishes_transaction {t : StateT σ (Except ε) α}
    (h : ∀ s a s', I s → t s = .ok (a, s') → C s') :
    Establishes I C (transaction t : Resumption σ Q A ε α) := by
  refine ⟨fun s hs ↦ ?_, fun e ↦ trivial⟩
  cases ht : t s with
  | error e => exact .inr (by simp only [ht]; trivial)
  | ok r => exact .inl (by simpa only [ht] using h s r.1 r.2 hs ht)

/-- What follows every value of a program's first part is established by the whole. -/
theorem establishes_bind (p : Resumption σ Q A ε α) {f : α → Resumption σ Q A ε β}
    (hf : ∀ a, Establishes I C (f a)) : Establishes I C (p >>= f) := by
  induction p with
  | ret a => exact hf a
  | throw e => trivial
  | atomic act k ih => exact ⟨fun s _ ↦ .inr (ih _), fun e ↦ ih _⟩
  | ask q k ih => exact fun a ↦ ih a

theorem Establishes.mono {C' : σ → Prop} {p : Resumption σ Q A ε α} (hp : Establishes I C p)
    (hC : ∀ s, C s → C' s) : Establishes I C' p := by
  induction p with
  | ret a => exact hp
  | throw e => trivial
  | atomic act k ih =>
      exact ⟨fun s hs ↦ (hp.1 s hs).imp (hC _) fun h ↦ ih _ h, fun e ↦ ih _ (hp.2 e)⟩
  | ask q k ih => exact fun a ↦ ih a (hp a)

/-! ## Pools -/

namespace Pool

/-- A pool of programs that keep `I` and whose changes `G` allows stays one. -/
theorem guarantees_step {P : Pool σ Q A (Resumption σ Q A ε α)} (hG : ∀ s, I s → G s s)
    (hp : ∀ p ∈ P.threads, Keeps I p) (hg : ∀ p ∈ P.threads, Guarantees I G p) (hs : I P.store)
    (t : Turn A ε) :
    (∀ p ∈ (step Resumption.next P t).threads, Keeps I p) ∧
      (∀ p ∈ (step Resumption.next P t).threads, Guarantees I G p) ∧
      I (step Resumption.next P t).store ∧ G P.store (step Resumption.next P t).store := by
  rcases step_cases Resumption.next P t with h | ⟨p, s, p', x, hget, hnext, h⟩
  · rw [h]
    exact ⟨hp, hg, hs, hG _ hs⟩
  · have hmem := List.mem_of_getElem? hget
    obtain ⟨hs', hp'⟩ := (hp p hmem).next hs hnext
    obtain ⟨hgs, hg'⟩ := (hg p hmem).next hG hs hnext
    rw [h]
    refine ⟨fun q hq ↦ ?_, fun q hq ↦ ?_, hs', hgs⟩
    · rcases List.mem_or_eq_of_mem_set hq with hq | rfl
      · exact hp q hq
      · exact hp'
    · rcases List.mem_or_eq_of_mem_set hq with hq | rfl
      · exact hg q hq
      · exact hg'

/-- What changes compose to is guaranteed of a whole run. -/
theorem guarantees_run {P : Pool σ Q A (Resumption σ Q A ε α)} (hrefl : ∀ s, G s s)
    (htrans : ∀ {s s' s''}, G s s' → G s' s'' → G s s'')
    (hg : ∀ p ∈ P.threads, Guarantees (fun _ ↦ True) G p) (ts : List (Turn A ε)) :
    G P.store (run Resumption.next P ts).store ∧
      ∀ p ∈ (run Resumption.next P ts).threads, Guarantees (fun _ ↦ True) G p := by
  refine Transition.run_invariant (step Resumption.next)
    (I := fun P' ↦ G P.store P'.store ∧ ∀ p ∈ P'.threads, Guarantees (fun _ ↦ True) G p) ?_
    ⟨hrefl _, hg⟩ ts
  rintro P' t ⟨hs, hg⟩
  rcases step_cases Resumption.next P' t with h | ⟨p, s, p', x, hget, hnext, h⟩
  · rw [h]
    exact ⟨hs, hg⟩
  · obtain ⟨hchange, hp'⟩ :=
      (hg p (List.mem_of_getElem? hget)).next (fun s _ ↦ hrefl s) trivial hnext
    rw [h]
    refine ⟨htrans hs hchange, fun q hq ↦ ?_⟩
    rcases List.mem_or_eq_of_mem_set hq with hq | rfl
    · exact hg q hq
    · exact hp'

/-- Such a pool is reached by every schedule. -/
theorem guarantees_reached {P : Pool σ Q A (Resumption σ Q A ε α)} (hG : ∀ s, I s → G s s)
    (hp : ∀ p ∈ P.threads, Keeps I p) (hg : ∀ p ∈ P.threads, Guarantees I G p) (hs : I P.store)
    (ts : List (Turn A ε)) :
    (∀ p ∈ (run Resumption.next P ts).threads, Keeps I p) ∧
      (∀ p ∈ (run Resumption.next P ts).threads, Guarantees I G p) ∧
      I (run Resumption.next P ts).store := by
  refine Transition.run_invariant (step Resumption.next)
    (I := fun P ↦ (∀ p ∈ P.threads, Keeps I p) ∧ (∀ p ∈ P.threads, Guarantees I G p) ∧ I P.store)
    ?_ ⟨hp, hg, hs⟩ ts
  rintro P t ⟨hp, hg, hs⟩
  obtain ⟨hp', hg', hs', -⟩ := guarantees_step hG hp hg hs t
  exact ⟨hp', hg', hs'⟩

/-- The last turn of a run makes a change that `G` allows. -/
theorem guarantees_last {P : Pool σ Q A (Resumption σ Q A ε α)} (hG : ∀ s, I s → G s s)
    (hp : ∀ p ∈ P.threads, Keeps I p) (hg : ∀ p ∈ P.threads, Guarantees I G p) (hs : I P.store)
    (ts : List (Turn A ε)) (t : Turn A ε) :
    G (run Resumption.next P ts).store
      (step Resumption.next (run Resumption.next P ts) t).store := by
  obtain ⟨hp', hg', hs'⟩ := guarantees_reached hG hp hg hs ts
  exact (guarantees_step hG hp' hg' hs' t).2.2.2

/-- What the changes of all threads preserve holds from when it holds first. -/
theorem stable_run {P : Pool σ Q A (Resumption σ Q A ε α)} (hG : ∀ s, I s → G s s)
    (hp : ∀ p ∈ P.threads, Keeps I p) (hg : ∀ p ∈ P.threads, Guarantees I G p) (hs : I P.store)
    (hC : ∀ s s', C s → G s s' → C s') {ts : List (Turn A ε)}
    (h : C (run Resumption.next P ts).store) (ts' : List (Turn A ε)) :
    C (run Resumption.next P (ts ++ ts')).store := by
  induction ts' using List.reverseRecOn with
  | nil =>
      rw [List.append_nil]
      exact h
  | append_singleton ts' t ih =>
      have hlast := guarantees_last hG hp hg hs (ts ++ ts') t
      rw [← List.append_assoc, run, Transition.run_append]
      exact hC _ _ ih hlast

/-- One thread's guarantee holds of its turns, whatever the others do. -/
theorem guarantees_turn {P : Pool σ Q A (Resumption σ Q A ε α)} (hG : ∀ s, I s → G s s)
    (hp : ∀ p ∈ P.threads, Keeps I p) (hs : I P.store) {i : ℕ} {p : Resumption σ Q A ε α}
    (hi : P.threads[i]? = some p) (hg : Guarantees I G p) (ts : List (Turn A ε)) {t : Turn A ε}
    (ht : t.thread = i) :
    G (run Resumption.next P ts).store
      (step Resumption.next (run Resumption.next P ts) t).store := by
  have hinv : ∀ (P : Pool σ Q A (Resumption σ Q A ε α)) (t : Turn A ε),
      ((∀ p ∈ P.threads, Keeps I p) ∧ I P.store ∧
        ∃ p, P.threads[i]? = some p ∧ Guarantees I G p) →
      (∀ p ∈ (step Resumption.next P t).threads, Keeps I p) ∧
        I (step Resumption.next P t).store ∧
        ∃ p, (step Resumption.next P t).threads[i]? = some p ∧ Guarantees I G p := by
    rintro P t ⟨hp, hs, q, hi, hg⟩
    rcases step_cases Resumption.next P t with h | ⟨p, s, p', x, hget, hnext, h⟩
    · rw [h]
      exact ⟨hp, hs, q, hi, hg⟩
    · obtain ⟨hs', hp'⟩ := (hp p (List.mem_of_getElem? hget)).next hs hnext
      rw [h]
      refine ⟨fun r hr ↦ ?_, hs', ?_⟩
      · rcases List.mem_or_eq_of_mem_set hr with hr | rfl
        · exact hp r hr
        · exact hp'
      · by_cases hti : t.thread = i
        · subst hti
          cases hi.symm.trans hget
          have hlt := (List.getElem?_eq_some_iff.mp hi).1
          exact ⟨p', List.getElem?_set_self hlt, (hg.next hG hs hnext).2⟩
        · exact ⟨q, by rw [List.getElem?_set_ne hti]; exact hi, hg⟩
  obtain ⟨hp', hs', q, hi', hg'⟩ :=
    Transition.run_invariant (step Resumption.next) hinv ⟨hp, hs, p, hi, hg⟩ ts
  rcases step_cases Resumption.next (run Resumption.next P ts) t with
    h | ⟨p, s, p', x, hget, hnext, h⟩
  · rw [h]
    exact hG _ hs'
  · rw [ht] at hget
    cases hi'.symm.trans hget
    rw [h]
    exact (hg'.next hG hs' hnext).1

/-- What a thread has established when it has returned holds, if no thread undoes it. -/
theorem establishes_run {P : Pool σ Q A (Resumption σ Q A ε α)}
    (hp : ∀ p ∈ P.threads, Keeps I p)
    (hC : ∀ p ∈ P.threads, Guarantees I (fun s s' ↦ C s → C s') p) (hs : I P.store) {i : ℕ}
    {p : Resumption σ Q A ε α} (hi : P.threads[i]? = some p) (he : Establishes I C p)
    (ts : List (Turn A ε)) {a : α}
    (hret : (run Resumption.next P ts).threads[i]? = some (.ret a)) :
    C (run Resumption.next P ts).store := by
  have hinv : ∀ (P : Pool σ Q A (Resumption σ Q A ε α)) (t : Turn A ε),
      ((∀ p ∈ P.threads, Keeps I p) ∧
        (∀ p ∈ P.threads, Guarantees I (fun s s' ↦ C s → C s') p) ∧ I P.store ∧
        ∃ p, P.threads[i]? = some p ∧ (C P.store ∨ Establishes I C p)) →
      (∀ p ∈ (step Resumption.next P t).threads, Keeps I p) ∧
        (∀ p ∈ (step Resumption.next P t).threads, Guarantees I (fun s s' ↦ C s → C s') p) ∧
        I (step Resumption.next P t).store ∧ ∃ p, (step Resumption.next P t).threads[i]? = some p ∧
          (C (step Resumption.next P t).store ∨ Establishes I C p) := by
    rintro P t ⟨hp, hC, hs, q, hi, he⟩
    obtain ⟨hp', hC', hs', hstable⟩ := guarantees_step (fun _ _ h ↦ h) hp hC hs t
    refine ⟨hp', hC', hs', ?_⟩
    rcases step_cases Resumption.next P t with h | ⟨p, s, p', x, hget, hnext, h⟩
    · rw [h]
      exact ⟨q, hi, he⟩
    · rw [h] at hstable ⊢
      by_cases hti : t.thread = i
      · subst hti
        cases hi.symm.trans hget
        have hlt := (List.getElem?_eq_some_iff.mp hi).1
        refine ⟨p', List.getElem?_set_self hlt, ?_⟩
        rcases he with he | he
        · exact .inl (hstable he)
        · cases q with
          | ret a => cases hm : t.move <;> rw [hm] at hnext <;> cases hnext
          | throw e => cases hm : t.move <;> rw [hm] at hnext <;> cases hnext
          | atomic act k =>
              cases hm : t.move with
              | act =>
                  rw [hm] at hnext
                  cases hnext
                  exact he.1 P.store hs
              | refuse e =>
                  rw [hm] at hnext
                  cases hnext
                  exact .inr (he.2 e)
              | answer a => rw [hm] at hnext; cases hnext
          | ask q k =>
              cases hm : t.move with
              | act => rw [hm] at hnext; cases hnext
              | refuse e => rw [hm] at hnext; cases hnext
              | answer a =>
                  rw [hm] at hnext
                  cases hnext
                  exact .inr (he a)
      · refine ⟨q, by rw [List.getElem?_set_ne hti]; exact hi, ?_⟩
        exact he.imp_left hstable
  obtain ⟨-, -, -, q, hi', he'⟩ :=
    Transition.run_invariant (step Resumption.next) hinv ⟨hp, hC, hs, p, hi, .inr he⟩ ts
  cases hi'.symm.trans hret
  rcases he' with he' | he'
  · exact he'
  · exact absurd he' not_false

end Pool

end Resumption
