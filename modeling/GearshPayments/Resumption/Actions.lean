import GearshPayments.Resumption.Pool

/-!
# Which actions a program may take

`Guarantees` says how the actions of a program change stores.  Here the actions themselves
are bounded (`ActsOnly`), which tells a thread that is about to take a certain action from
one that is not: a turn of a pool applies the action that is next in the thread it is given
to (`Pool.store_step`), and that action is within the bound (`Pool.actsOnly_action?`).
-/

namespace Resumption

variable {σ Q A ε α β : Type} {C : (σ → σ) → Prop}

/-- Every atomic action of the program is in `C`. -/
def ActsOnly (C : (σ → σ) → Prop) : Resumption σ Q A ε α → Prop
  | .ret _ => True
  | .throw _ => True
  | .atomic act k => C act ∧ ∀ r, ActsOnly C (k r)
  | .ask _ k => ∀ a, ActsOnly C (k a)

@[simp] theorem actsOnly_ret (a : α) : ActsOnly C (.ret a : Resumption σ Q A ε α) := trivial

@[simp] theorem actsOnly_throw (e : ε) : ActsOnly C (.throw e : Resumption σ Q A ε α) := trivial

@[simp] theorem actsOnly_ofExcept (r : Except ε α) :
    ActsOnly C (ofExcept r : Resumption σ Q A ε α) := by
  cases r with
  | error e => trivial
  | ok a => trivial

@[simp] theorem actsOnly_query (q : Q) : ActsOnly C (query q : Resumption σ Q A ε A) :=
  fun _ ↦ trivial

theorem actsOnly_read (h : C id) (f : σ → α) : ActsOnly C (read f : Resumption σ Q A ε α) := by
  refine ⟨h, ?_⟩
  rintro (e | s)
  · trivial
  · trivial

theorem actsOnly_transaction {t : StateT σ (Except ε) α}
    (h : C fun s ↦ match t s with
      | .ok (_, s') => s'
      | .error _ => s) : ActsOnly C (transaction t : Resumption σ Q A ε α) := by
  refine ⟨h, ?_⟩
  rintro (e | s)
  · trivial
  · dsimp only
    split
    · trivial
    · trivial

namespace ActsOnly

theorem bind {p : Resumption σ Q A ε α} {f : α → Resumption σ Q A ε β} (hp : ActsOnly C p)
    (hf : ∀ a, ActsOnly C (f a)) : ActsOnly C (p >>= f) := by
  induction p with
  | ret a => exact hf a
  | throw e => trivial
  | atomic act k ih => exact ⟨hp.1, fun r ↦ ih r (hp.2 r)⟩
  | ask q k ih => exact fun a ↦ ih a (hp a)

theorem discard {p : Resumption σ Q A ε α} (hp : ActsOnly C p) :
    ActsOnly C (discard p : Resumption σ Q A ε PUnit) := by
  change ActsOnly C (p >>= fun _ ↦ Resumption.ret PUnit.unit)
  exact hp.bind fun _ ↦ trivial

theorem tryCatch {p : Resumption σ Q A ε α} {h : ε → Resumption σ Q A ε α} (hp : ActsOnly C p)
    (hh : ∀ e, ActsOnly C (h e)) : ActsOnly C (tryCatchThe ε p h) := by
  induction p with
  | ret a => trivial
  | throw e => exact hh e
  | atomic act k ih => exact ⟨hp.1, fun r ↦ ih r (hp.2 r)⟩
  | ask q k ih => exact fun a ↦ ih a (hp a)

theorem next {p p' : Resumption σ Q A ε α} (hp : ActsOnly C p) {m : Move A ε} {s s' : σ}
    {x : Option (Q × A)} (h : next p m s = some (s', p', x)) : ActsOnly C p' := by
  cases p with
  | ret a => cases m <;> cases h
  | throw e => cases m <;> cases h
  | atomic act k =>
      cases m with
      | act =>
          cases h
          exact hp.2 _
      | refuse e =>
          cases h
          exact hp.2 _
      | answer a => cases h
  | ask q k =>
      cases m with
      | act => cases h
      | refuse e => cases h
      | answer a =>
          cases h
          exact hp a

end ActsOnly

/-! ## Turns -/

/-- The action that is next in the program. -/
def action? : Resumption σ Q A ε α → Option (σ → σ)
  | .atomic act _ => some act
  | _ => none

theorem ActsOnly.action? {p : Resumption σ Q A ε α} (hp : ActsOnly C p) {act : σ → σ}
    (h : p.action? = some act) : C act := by
  cases p with
  | ret a => cases h
  | throw e => cases h
  | atomic act' k =>
      cases h
      exact hp.1
  | ask q k => cases h

namespace Pool

/-- The action that takes place in a turn, if one does. -/
def action? (P : Pool σ Q A (Resumption σ Q A ε α)) (t : Turn A ε) : Option (σ → σ) :=
  match t.move with
  | .act => P.threads[t.thread]?.bind Resumption.action?
  | .refuse _ => none
  | .answer _ => none

/-- A turn changes the store as the action does that takes place in it. -/
theorem store_step (P : Pool σ Q A (Resumption σ Q A ε α)) (t : Turn A ε) :
    (step next P t).store = (P.action? t).elim P.store fun act ↦ act P.store := by
  obtain ⟨i, m⟩ := t
  unfold step action?
  dsimp only
  cases P.threads[i]? with
  | none => cases m <;> rfl
  | some p =>
      cases p with
      | ret a => cases m <;> rfl
      | throw e => cases m <;> rfl
      | atomic act k => cases m <;> rfl
      | ask q k => cases m <;> rfl

theorem actsOnly_step {P : Pool σ Q A (Resumption σ Q A ε α)} (hp : ∀ p ∈ P.threads, ActsOnly C p)
    (t : Turn A ε) : ∀ p ∈ (step next P t).threads, ActsOnly C p := by
  rcases step_cases next P t with h | ⟨p, s, p', x, hget, hnext, h⟩
  · rw [h]
    exact hp
  · rw [h]
    intro q hq
    rcases List.mem_or_eq_of_mem_set hq with hq | rfl
    · exact hp q hq
    · exact (hp p (List.mem_of_getElem? hget)).next hnext

/-- The actions of a pool are those of its threads. -/
theorem actsOnly_action? {P : Pool σ Q A (Resumption σ Q A ε α)}
    (hp : ∀ p ∈ P.threads, ActsOnly C p) {t : Turn A ε} {act : σ → σ}
    (h : P.action? t = some act) : C act := by
  unfold action? at h
  split at h
  · obtain ⟨p, hget, hact⟩ := Option.bind_eq_some_iff.mp h
    exact (hp p (List.mem_of_getElem? hget)).action? hact
  · cases h
  · cases h

end Pool

end Resumption
