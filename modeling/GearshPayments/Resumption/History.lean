import GearshPayments.Resumption.Guarantee

/-!
# What a program has been told

`Guarantees` bounds the changes of a program whatever it was answered.  A program that asks
before it acts does more: which changes it makes depends on the exchanges it has had by then
(`GuaranteesAfter`).  The log of a pool holds the exchanges of all threads, each under the number
of its thread, so a property that relates the store to the log survives every turn if it survives
the changes that the thread's own exchanges allow (`Pool.history_run`).
-/

namespace Resumption

variable {σ Q A ε α β T : Type} {I : σ → Prop} {G : List (Q × A) → σ → σ → Prop}

/-- Every atomic action of the program, from a store in `I`, is a change that `G` allows after the
exchanges of the program up to then, of which the given ones are the first. -/
def GuaranteesAfter (I : σ → Prop) (G : List (Q × A) → σ → σ → Prop) :
    Resumption σ Q A ε α → List (Q × A) → Prop
  | .ret _, _ => True
  | .throw _, _ => True
  | .atomic act k, l =>
    (∀ s, I s → G l s (act s) ∧ GuaranteesAfter I G (k (.ok s)) l) ∧
      ∀ e, GuaranteesAfter I G (k (.error e)) l
  | .ask q k, l => ∀ a, GuaranteesAfter I G (k a) (l ++ [(q, a)])

namespace GuaranteesAfter

variable {l : List (Q × A)}

theorem throw (e : ε) : GuaranteesAfter I G (.throw e : Resumption σ Q A ε α) l := trivial

/-- What follows a question may rely on the answer. -/
theorem query_bind {q : Q} {f : A → Resumption σ Q A ε β}
    (hf : ∀ a, GuaranteesAfter I G (f a) (l ++ [(q, a)])) :
    GuaranteesAfter I G (query q >>= f) l := hf

/-- A guarantee may be weakened. -/
theorem mono {G' : List (Q × A) → σ → σ → Prop} (hG : ∀ l s s', G l s s' → G' l s s')
    {p : Resumption σ Q A ε α} (hp : GuaranteesAfter I G p l) : GuaranteesAfter I G' p l := by
  induction p generalizing l with
  | ret a => trivial
  | throw e => trivial
  | atomic act k ih =>
      refine ⟨fun s hs ↦ ?_, fun e ↦ ih _ (hp.2 e)⟩
      obtain ⟨hact, hk⟩ := hp.1 s hs
      exact ⟨hG l _ _ hact, ih _ hk⟩
  | ask q k ih => exact fun a ↦ ih a (hp a)

/-- What a program guarantees after some exchanges, it guarantees if these allow no more
the more there are. -/
theorem of_guarantees (hG : ∀ l x s s', G l s s' → G (l ++ [x]) s s')
    {p : Resumption σ Q A ε α} (hp : Guarantees I (G l) p) : GuaranteesAfter I G p l := by
  induction p generalizing l with
  | ret a => trivial
  | throw e => trivial
  | atomic act k ih =>
      refine ⟨fun s hs ↦ ?_, fun e ↦ ih _ (hp.2 e)⟩
      obtain ⟨hact, hk⟩ := hp.1 s hs
      exact ⟨hact, ih _ hk⟩
  | ask q k ih =>
      intro a
      exact ih a ((hp a).mono (fun _ hs ↦ hs) fun s s' _ h ↦ hG l (q, a) s s' h)

end GuaranteesAfter

/-! ## Pools -/

namespace Pool

/-- The exchanges of one thread, in their order. -/
def exchanges (log : List (ℕ × Q × A)) (i : ℕ) : List (Q × A) :=
  (log.filter fun x ↦ x.1 = i).map Prod.snd

theorem exchanges_subset_append (log : List (ℕ × Q × A)) (x : ℕ × Q × A) (i : ℕ) :
    exchanges log i ⊆ exchanges (log ++ [x]) i := by
  rw [exchanges, exchanges, List.filter_append, List.map_append]
  exact List.subset_append_left _ _

theorem exchanges_append_self (log : List (ℕ × Q × A)) (i : ℕ) (x : Q × A) :
    exchanges (log ++ [(i, x)]) i = exchanges log i ++ [x] := by
  simp [exchanges]

theorem exchanges_append_of_ne (log : List (ℕ × Q × A)) {i j : ℕ} (h : j ≠ i) (x : Q × A) :
    exchanges (log ++ [(j, x)]) i = exchanges log i := by
  simp [exchanges, h]

/-- A thread that has no turn asks nothing. -/
theorem exchanges_run_of_ne (nx : Next σ Q A ε T) {P : Pool σ Q A T} {ts : List (Turn A ε)} {i : ℕ}
    (hts : ∀ t ∈ ts, t.thread ≠ i) : exchanges (run nx P ts).log i = exchanges P.log i := by
  induction ts generalizing P with
  | nil => rfl
  | cons t ts ih =>
      obtain ⟨ht, hts⟩ := List.forall_mem_cons.mp hts
      rw [run, Transition.run_cons, ← run, ih hts]
      rcases step_cases nx P t with heq | ⟨p, s, p', x, -, -, heq⟩
      · rw [heq]
      · rw [heq]
        cases x with
        | none => rw [Option.toList_none, List.map_nil, List.append_nil]
        | some x =>
            rw [Option.toList_some, List.map_singleton, exchanges_append_of_ne _ ht]

/-- A property of the store and the log, kept by more exchanges and by the changes that a
thread's own exchanges allow, holds at the end of every run. -/
theorem history_run {P : Pool σ Q A (Resumption σ Q A ε α)} {G : ℕ → List (Q × A) → σ → σ → Prop}
    {J : σ → List (ℕ × Q × A) → Prop} (hlog : P.log = [])
    (hp : ∀ (i : ℕ) p, P.threads[i]? = some p → GuaranteesAfter I (G i) p [])
    (hI : ∀ i l s s', I s → G i l s s' → I s')
    (hact : ∀ i log s s', I s → J s log → G i (exchanges log i) s s' → J s' log)
    (hask : ∀ log x s, J s log → J s (log ++ [x])) (hs : I P.store) (hJ : J P.store P.log)
    (ts : List (Turn A ε)) :
    I (run next P ts).store ∧ J (run next P ts).store (run next P ts).log := by
  let Kept (P : Pool σ Q A (Resumption σ Q A ε α)) : Prop :=
    (∀ (i : ℕ) p, P.threads[i]? = some p → GuaranteesAfter I (G i) p (exchanges P.log i)) ∧
      I P.store ∧ J P.store P.log
  have hinv : ∀ (P : Pool σ Q A (Resumption σ Q A ε α)) (t : Turn A ε), Kept P →
      Kept (step next P t) := by
    rintro P t ⟨hp, hs, hJ⟩
    rcases step_cases next P t with h | ⟨p, s, p', x, hget, hnext, h⟩
    · rw [h]
      exact ⟨hp, hs, hJ⟩
    · have hguar := hp _ _ hget
      rw [h]
      generalize t.thread = i at *
      cases p with
      | ret a => cases hm : t.move <;> rw [hm] at hnext <;> cases hnext
      | throw e => cases hm : t.move <;> rw [hm] at hnext <;> cases hnext
      | atomic act k =>
          cases hm : t.move with
          | act =>
              rw [hm] at hnext
              cases hnext
              obtain ⟨hchange, hk⟩ := hguar.1 P.store hs
              rw [Option.toList_none, List.map_nil, List.append_nil]
              refine ⟨?_, hI _ _ _ _ hs hchange, hact _ _ _ _ hs hJ hchange⟩
              exact forall_set_of_ne (fun j q _ hq ↦ hp j q hq) hk
          | refuse e =>
              rw [hm] at hnext
              cases hnext
              rw [Option.toList_none, List.map_nil, List.append_nil]
              exact ⟨forall_set_of_ne (fun j q _ hq ↦ hp j q hq) (hguar.2 e), hs, hJ⟩
          | answer a =>
              rw [hm] at hnext
              cases hnext
      | ask q k =>
          cases hm : t.move with
          | act => rw [hm] at hnext; cases hnext
          | refuse e => rw [hm] at hnext; cases hnext
          | answer a =>
              rw [hm] at hnext
              cases hnext
              rw [Option.toList_some, List.map_singleton]
              refine ⟨?_, hs, hask _ _ _ hJ⟩
              refine forall_set_of_ne (fun j r hj hr ↦ ?_) ?_
              · rw [exchanges_append_of_ne _ hj]
                exact hp j r hr
              · rw [exchanges_append_self]
                exact hguar a
  have hstart : Kept P := by
    refine ⟨fun i p hi ↦ ?_, hs, hJ⟩
    rw [hlog]
    exact hp i p hi
  exact (Transition.run_invariant (step next) hinv hstart ts).2

end Pool

end Resumption
