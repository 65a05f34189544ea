import GearshPayments.Resumption.History

/-!
# Programs that do not get through

A program that checks the store before it goes on gets nowhere while the store is such that the
check fails: it throws, and before that it has asked nothing (`Barred`).  This says nothing of what
it does when one of its actions is refused, so a thread is barred as long as that does not happen
(`Pool.barred_run`).  For the parts of such a program, what they return is bounded instead
(`Yields`).
-/

namespace Resumption

variable {σ Q A ε α β : Type} {I : σ → Prop} {T : α → Prop} {T' : β → Prop}

/-- In stores of `I`, and with no action refused, the program asks nothing, and what it returns has
the property. -/
def Yields (I : σ → Prop) (T : α → Prop) : Resumption σ Q A ε α → Prop
  | .ret a => T a
  | .throw _ => True
  | .atomic _ k => ∀ s, I s → Yields I T (k (.ok s))
  | .ask _ _ => False

/-- In stores of `I`, and with no action refused, the program neither returns nor asks. -/
abbrev Barred (I : σ → Prop) (p : Resumption σ Q A ε α) : Prop := Yields I (fun _ ↦ False) p

theorem yields_ret {a : α} (ha : T a) : Yields I T (.ret a : Resumption σ Q A ε α) := ha

theorem yields_throw (e : ε) : Yields I T (.throw e : Resumption σ Q A ε α) := trivial

theorem yields_read {f : σ → α} (h : ∀ s, I s → T (f s)) :
    Yields I T (read f : Resumption σ Q A ε α) := h

theorem yields_ofExcept {r : Except ε α} (h : ∀ a, r = .ok a → T a) :
    Yields I T (ofExcept r : Resumption σ Q A ε α) := by
  cases r with
  | ok a => exact h a rfl
  | error e => trivial

namespace Yields

theorem bind {p : Resumption σ Q A ε α} {f : α → Resumption σ Q A ε β} (hp : Yields I T p)
    (hf : ∀ a, T a → Yields I T' (f a)) : Yields I T' (p >>= f) := by
  induction p with
  | ret a => exact hf a hp
  | throw e => trivial
  | atomic act k ih => exact fun s hs ↦ ih _ (hp s hs)
  | ask q k ih => exact hp.elim

theorem map {p : Resumption σ Q A ε α} {f : α → β} (hp : Yields I T p)
    (hf : ∀ a, T a → T' (f a)) : Yields I T' (f <$> p) := by
  rw [map_eq_pure_bind]
  exact hp.bind hf

end Yields

namespace Pool

/-- A thread that is barred stays barred and asks nothing, as long as the store is in `I` and no
action of the thread is refused. -/
theorem barred_run {P : Pool σ Q A (Resumption σ Q A ε α)} {i : ℕ} {p : Resumption σ Q A ε α}
    (hi : P.threads[i]? = some p) (hp : Barred I p) {ts : List (Turn A ε)}
    (h : Transition.Along (step next)
      (fun P t ↦ I P.store ∧ (t.thread = i → ∀ e, t.move ≠ .refuse e)) P ts) :
    (∃ p', (run next P ts).threads[i]? = some p' ∧ Barred I p') ∧
      exchanges (run next P ts).log i = exchanges P.log i := by
  let Kept (P' : Pool σ Q A (Resumption σ Q A ε α)) : Prop :=
    (∃ p', P'.threads[i]? = some p' ∧ Barred I p') ∧ exchanges P'.log i = exchanges P.log i
  refine h.run_invariant (I := Kept) ?_ ⟨⟨p, hi, hp⟩, rfl⟩
  rintro P' t ⟨hs, hmove⟩ ⟨⟨q, hq, hbarred⟩, hlog⟩
  rcases step_cases next P' t with heq | ⟨r, s, r', x, hget, hnext, heq⟩
  · rw [heq]
    exact ⟨⟨q, hq, hbarred⟩, hlog⟩
  · rw [heq]
    by_cases ht : t.thread = i
    · rw [ht] at hget ⊢
      cases hq.symm.trans hget
      have hset := List.getElem?_set_self (a := r') (List.getElem?_eq_some_iff.mp hq).1
      cases q with
      | ret a => exact hbarred.elim
      | throw e => cases hm : t.move <;> rw [hm] at hnext <;> cases hnext
      | ask q k => exact hbarred.elim
      | atomic act k =>
          cases hm : t.move with
          | answer a => rw [hm] at hnext; cases hnext
          | refuse e => exact absurd hm (hmove ht e)
          | act =>
              rw [hm] at hnext
              cases hnext
              refine ⟨⟨_, hset, hbarred _ hs⟩, ?_⟩
              rw [Option.toList_none, List.map_nil, List.append_nil]
              exact hlog
    · refine ⟨⟨q, by rw [List.getElem?_set_ne ht]; exact hq, hbarred⟩, ?_⟩
      cases x with
      | none =>
          rw [Option.toList_none, List.map_nil, List.append_nil]
          exact hlog
      | some x =>
          rw [Option.toList_some, List.map_singleton, exchanges_append_of_ne _ ht]
          exact hlog

end Pool

end Resumption
