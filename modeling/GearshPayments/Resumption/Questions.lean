import GearshPayments.Resumption.Monitor
import GearshPayments.Resumption.Relabel

/-!
# What a program asks

A guarantee is about the actions of a program and says nothing of its questions.  Here is
the counterpart: a bound on what a program may ask (`AsksOnly`), whatever it finds in the
store and whatever it is answered.  The log of a pool keeps to the bound of its threads
(`Pool.asksOnly_run`), and a guarantee and a bound together are conformance to a monitor
whose threads stay in one state (`Guarantees.conforms`).

What a program asks may depend on what it has read.  Then the bound holds as long as the
stores it reads have a property (`askMonitor`), and so it does of the log of a run that stays
in stores with this property (`Pool.asks_run`).
-/

namespace Resumption

variable {σ Q Q' A A' ε α β : Type} {C : Q → Prop}

/-- Every question of the program is in `C`. -/
def AsksOnly (C : Q → Prop) : Resumption σ Q A ε α → Prop
  | .ret _ => True
  | .throw _ => True
  | .atomic _ k => ∀ r, AsksOnly C (k r)
  | .ask q k => C q ∧ ∀ a, AsksOnly C (k a)

@[simp] theorem asksOnly_ret (a : α) : AsksOnly C (.ret a : Resumption σ Q A ε α) := trivial

@[simp] theorem asksOnly_throw (e : ε) : AsksOnly C (.throw e : Resumption σ Q A ε α) := trivial

@[simp] theorem asksOnly_ofExcept (r : Except ε α) :
    AsksOnly C (ofExcept r : Resumption σ Q A ε α) := by
  cases r with
  | error e => trivial
  | ok a => trivial

@[simp] theorem asksOnly_transaction (t : StateT σ (Except ε) α) :
    AsksOnly C (transaction t : Resumption σ Q A ε α) := by
  rintro (e | s)
  · trivial
  · dsimp only
    split
    · trivial
    · trivial

@[simp] theorem asksOnly_read (f : σ → α) : AsksOnly C (read f : Resumption σ Q A ε α) := by
  rintro (e | s)
  · trivial
  · trivial

/-- A read tells what is read. -/
theorem asksOnly_read_bind {f : σ → α} {g : α → Resumption σ Q A ε β}
    (hg : ∀ s, AsksOnly C (g (f s))) : AsksOnly C (read f >>= g) := by
  rintro (e | s)
  · trivial
  · exact hg s

namespace AsksOnly

theorem bind {p : Resumption σ Q A ε α} {f : α → Resumption σ Q A ε β} (hp : AsksOnly C p)
    (hf : ∀ a, AsksOnly C (f a)) : AsksOnly C (p >>= f) := by
  induction p with
  | ret a => exact hf a
  | throw e => trivial
  | atomic act k ih => exact fun r ↦ ih r (hp r)
  | ask q k ih => exact ⟨hp.1, fun a ↦ ih a (hp.2 a)⟩

theorem discard {p : Resumption σ Q A ε α} (hp : AsksOnly C p) :
    AsksOnly C (discard p : Resumption σ Q A ε PUnit) := by
  change AsksOnly C (p >>= fun _ ↦ Resumption.ret PUnit.unit)
  exact hp.bind fun _ ↦ trivial

theorem tryCatch {p : Resumption σ Q A ε α} {h : ε → Resumption σ Q A ε α} (hp : AsksOnly C p)
    (hh : ∀ e, AsksOnly C (h e)) : AsksOnly C (tryCatchThe ε p h) := by
  induction p with
  | ret a => trivial
  | throw e => exact hh e
  | atomic act k ih => exact fun r ↦ ih r (hp r)
  | ask q k ih => exact ⟨hp.1, fun a ↦ ih a (hp.2 a)⟩

theorem mono {D : Q → Prop} {p : Resumption σ Q A ε α} (hp : AsksOnly C p) (h : ∀ q, C q → D q) :
    AsksOnly D p := by
  induction p with
  | ret a => trivial
  | throw e => trivial
  | atomic act k ih => exact fun r ↦ ih r (hp r)
  | ask q k ih => exact ⟨h q hp.1, fun a ↦ ih a (hp.2 a)⟩

/-- Questions that are put in another language are in that language. -/
theorem relabel (f : Q → Q') (g : A' → A) {D : Q' → Prop} (h : ∀ q, D (f q))
    (p : Resumption σ Q A ε α) : AsksOnly D (p.relabel f g) := by
  induction p with
  | ret a => trivial
  | throw e => trivial
  | atomic act k ih => exact fun r ↦ ih r
  | ask q k ih => exact ⟨h q, fun a ↦ ih (g a)⟩

theorem run {p : Resumption σ Q A ε α} (hp : AsksOnly C p) (env : Env A ε) (s : σ) :
    ∀ x ∈ (p.run env s).exchanges, C x.1 := by
  induction p generalizing env s with
  | ret a => exact fun x hx ↦ absurd hx List.not_mem_nil
  | throw e => exact fun x hx ↦ absurd hx List.not_mem_nil
  | atomic act k ih =>
      rw [Resumption.run]
      cases env.faults 0 with
      | none => exact ih _ (hp _) _ _
      | some e => exact ih _ (hp _) _ _
  | ask q k ih =>
      rw [run_ask]
      exact List.forall_mem_cons.mpr ⟨hp.1, ih _ (hp.2 _) _ _⟩

theorem next {p p' : Resumption σ Q A ε α} (hp : AsksOnly C p) {m : Move A ε} {s s' : σ}
    {x : Option (Q × A)} (h : next p m s = some (s', p', x)) :
    AsksOnly C p' ∧ ∀ y ∈ x, C y.1 := by
  have hnone : ∀ y ∈ (none : Option (Q × A)), C y.1 := fun _ hy ↦ by cases hy
  cases p with
  | ret a => cases m <;> cases h
  | throw e => cases m <;> cases h
  | atomic act k =>
      cases m with
      | act =>
          cases h
          exact ⟨hp _, hnone⟩
      | refuse e =>
          cases h
          exact ⟨hp _, hnone⟩
      | answer a => cases h
  | ask q k =>
      cases m with
      | act => cases h
      | refuse e => cases h
      | answer a =>
          cases h
          refine ⟨hp.2 a, fun y hy ↦ ?_⟩
          cases hy
          exact hp.1

end AsksOnly

/-- Without a bound. -/
theorem AsksOnly.of_forall (hC : ∀ q, C q) (p : Resumption σ Q A ε α) : AsksOnly C p := by
  induction p with
  | ret a => trivial
  | throw e => trivial
  | atomic act k ih => exact fun r ↦ ih r
  | ask q k ih => exact ⟨hC q, ih⟩

/-- A guarantee and a bound on the questions are conformance in one thread state. -/
theorem Guarantees.conforms {V : Type} {M : Monitor σ Q A V} {v : V} {I : σ → Prop}
    {G : σ → σ → Prop} (hknows : ∀ s, M.Knows v s → I s)
    (hwrites : ∀ s s', I s → G s s' → M.Writes v s s' v) (hasks : ∀ q a, C q → M.Asks v q a v)
    {p : Resumption σ Q A ε α} (hp : Guarantees I G p) (hq : AsksOnly C p) :
    Conforms M p v fun v' _ ↦ v' = v := by
  induction p with
  | ret a => rfl
  | throw e => rfl
  | atomic act k ih =>
      refine ⟨fun s hs ↦ ?_, fun e ↦ ih _ (hp.2 e) (hq _)⟩
      obtain ⟨hact, hk⟩ := hp.1 s (hknows s hs)
      exact ⟨v, hwrites s _ (hknows s hs) hact, ih _ hk (hq _)⟩
  | ask q k ih => exact fun a ↦ ⟨v, hasks q a hq.1, ih _ (hp a) (hq.2 a)⟩

/-- A program that conforms, with its questions put and its answers read in another language. -/
theorem Conforms.relabel {V : Type} {M : Monitor σ Q A V} {N : Monitor σ Q' A' V} {f : Q → Q'}
    {g : A' → A} (hknows : ∀ v s, N.Knows v s → M.Knows v s)
    (hwrites : ∀ v s s' v', M.Writes v s s' v' → N.Writes v s s' v')
    (hasks : ∀ v q a v', M.Asks v q (g a) v' → N.Asks v (f q) a v') {p : Resumption σ Q A ε α}
    {v : V} {post : V → Except ε α → Prop} (hp : Conforms M p v post) :
    Conforms N (p.relabel f g) v post := by
  induction p generalizing v with
  | ret a => exact hp
  | throw e => exact hp
  | atomic act k ih =>
      refine ⟨fun s hs ↦ ?_, fun e ↦ ih _ (hp.2 e)⟩
      obtain ⟨v', hw, hk⟩ := hp.1 s (hknows v s hs)
      exact ⟨v', hwrites _ _ _ _ hw, ih _ hk⟩
  | ask q k ih =>
      intro a
      obtain ⟨v', hx, hk⟩ := hp (g a)
      exact ⟨v', hasks _ _ _ _ hx, ih _ hk⟩

theorem Guarantees.conforms_relabel {V : Type} {M : Monitor σ Q' A' V} {v : V} {I : σ → Prop}
    {G : σ → σ → Prop} {f : Q → Q'} {g : A' → A} (hknows : ∀ s, M.Knows v s → I s)
    (hwrites : ∀ s s', I s → G s s' → M.Writes v s s' v) (hasks : ∀ q a, M.Asks v (f q) a v)
    {p : Resumption σ Q A ε α} (hp : Guarantees I G p) :
    Conforms M (p.relabel f g) v fun v' _ ↦ v' = v := by
  refine hp.relabel.conforms (C := fun q' ↦ ∃ q, q' = f q) hknows hwrites ?_ ?_
  · rintro _ a ⟨q, rfl⟩
    exact hasks q a
  · exact AsksOnly.relabel f g (fun q ↦ ⟨q, rfl⟩) p

/-! ## Questions that depend on the store -/

/-- Whatever is read is a store in `I`, and whatever is asked is a question in `C`. -/
def askMonitor (I : σ → Prop) (C : Q → Prop) : Monitor σ Q A Unit where
  Knows _ s := I s
  Writes _ _ _ _ := True
  Asks _ q _ _ := C q

/-- A bound that does not depend on the store. -/
theorem AsksOnly.conforms {I : σ → Prop} {p : Resumption σ Q A ε α} (hp : AsksOnly C p) :
    Conforms (askMonitor I C) p () fun _ _ ↦ True := by
  induction p with
  | ret a => trivial
  | throw e => trivial
  | atomic act k ih => exact ⟨fun s _ ↦ ⟨(), trivial, ih _ (hp _)⟩, fun e ↦ ih _ (hp _)⟩
  | ask q k ih => exact fun a ↦ ⟨(), hp.1, ih _ (hp.2 a)⟩

/-- A run that stays in `I` asks questions in `C`. -/
theorem Pool.asks_run {I : σ → Prop} {P : Pool σ Q A (Resumption σ Q A ε α)}
    (hp : ∀ p ∈ P.threads, Conforms (askMonitor I C) p () fun _ _ ↦ True)
    (hlog : ∀ x ∈ P.log, C x.2.1) (ts : List (Turn A ε))
    (hI : ∀ ts', ts' <+: ts → I (run Resumption.next P ts').store) :
    ∀ x ∈ (run Resumption.next P ts).log, C x.2.1 := by
  have hconf : Pool.Conforming (askMonitor I C) (fun _ _ ↦ True) P.threads
      (P.threads.map fun _ ↦ ()) := by
    intro i p hi
    refine ⟨(), ?_, hp p (List.mem_of_getElem? hi)⟩
    rw [List.getElem?_map, hi]
    rfl
  have halong : Transition.Along (step Resumption.next)
      (fun P t ↦ I (step Resumption.next P t).store) P ts := by
    refine .of_run fun ts₁ t ts₂ hts ↦ ?_
    have hpre : ts₁ ++ [t] <+: ts := ⟨ts₂, by rw [hts, List.append_assoc]; rfl⟩
    have hlast := hI _ hpre
    rwa [run, Transition.run_append] at hlast
  obtain ⟨vs, -, hvs⟩ := conforms_run (D := fun _ _ s' ↦ I s')
    (J := fun s _ log ↦ I s ∧ ∀ x ∈ log, C x.2.1) (fun h _ ↦ h.1) (fun h _ _ hD ↦ ⟨hD, h.2⟩)
    (fun {s vs log i v q a v'} h _ ha ↦ ⟨h.1, fun x hx ↦ by
      rcases List.mem_append.mp hx with hx | hx
      · exact h.2 x hx
      · rw [List.mem_singleton.mp hx]
        exact ha⟩) hconf ⟨hI [] (List.nil_prefix), hlog⟩ halong
  exact hvs

/-- The questions of a pool are those of its threads. -/
theorem Pool.asksOnly_run {P : Pool σ Q A (Resumption σ Q A ε α)}
    (hp : ∀ p ∈ P.threads, AsksOnly C p) (hlog : ∀ x ∈ P.log, C x.2.1) (ts : List (Turn A ε)) :
    (∀ p ∈ (run next P ts).threads, AsksOnly C p) ∧ ∀ x ∈ (run next P ts).log, C x.2.1 := by
  refine Transition.run_invariant (step next)
    (I := fun P ↦ (∀ p ∈ P.threads, AsksOnly C p) ∧ ∀ x ∈ P.log, C x.2.1) ?_ ⟨hp, hlog⟩ ts
  rintro P t ⟨hp, hlog⟩
  rcases step_cases next P t with h | ⟨p, s, p', x, hget, hnext, h⟩
  · rw [h]
    exact ⟨hp, hlog⟩
  · obtain ⟨hp', hx⟩ := (hp p (List.mem_of_getElem? hget)).next hnext
    rw [h]
    constructor
    · intro q hq
      rcases List.mem_or_eq_of_mem_set hq with hq | rfl
      · exact hp q hq
      · exact hp'
    · intro y hy
      rcases List.mem_append.mp hy with hy | hy
      · exact hlog y hy
      · obtain ⟨z, hz, rfl⟩ := List.mem_map.mp hy
        exact hx z (Option.mem_toList.mp hz)

end Resumption
