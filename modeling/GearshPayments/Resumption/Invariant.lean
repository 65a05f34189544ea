import GearshPayments.Resumption.Pool

/-!
# Invariants of resumptions

A program keeps a property of stores when each of its atomic actions does, in
whatever store of that property the action finds itself.  Nothing else has to be
known about where the actions run: such a program keeps the property when it runs
alone under any environment (`Keeps.run`), and a pool of such programs keeps it
under any schedule (`Pool.keeps_run`).
-/

namespace Resumption

variable {σ Q A ε α β : Type} {I : σ → Prop}

/-- Every atomic action of the program keeps `I`. -/
def Keeps (I : σ → Prop) : Resumption σ Q A ε α → Prop
  | .ret _ => True
  | .throw _ => True
  | .atomic act k => (∀ s, I s → I (act s) ∧ Keeps I (k (.ok s))) ∧ ∀ e, Keeps I (k (.error e))
  | .ask _ k => ∀ a, Keeps I (k a)

@[simp] theorem keeps_ret (a : α) : Keeps I (.ret a : Resumption σ Q A ε α) := trivial

@[simp] theorem keeps_throw (e : ε) : Keeps I (.throw e : Resumption σ Q A ε α) := trivial

@[simp] theorem keeps_ofExcept (r : Except ε α) :
    Keeps I (ofExcept r : Resumption σ Q A ε α) := by
  cases r with
  | error e => trivial
  | ok a => trivial

@[simp] theorem keeps_query (q : Q) : Keeps I (query q : Resumption σ Q A ε A) := fun _ ↦ trivial

@[simp] theorem keeps_read (f : σ → α) : Keeps I (read f : Resumption σ Q A ε α) :=
  ⟨fun _ hs ↦ ⟨hs, trivial⟩, fun _ ↦ trivial⟩

@[simp] theorem keeps_statement : Keeps I (statement : Resumption σ Q A ε Unit) := keeps_read _

/-- A transaction keeps what its commits keep. -/
theorem keeps_transaction {t : StateT σ (Except ε) α}
    (h : ∀ s a s', I s → t s = .ok (a, s') → I s') :
    Keeps I (transaction t : Resumption σ Q A ε α) := by
  refine ⟨fun s hs ↦ ?_, fun e ↦ trivial⟩
  cases ht : t s with
  | error e => exact ⟨by simpa only [ht] using hs, by simp only [ht]; trivial⟩
  | ok r => exact ⟨by simpa only [ht] using h s r.1 r.2 hs ht, by simp only [ht]; trivial⟩

theorem keeps_true (p : Resumption σ Q A ε α) : Keeps (fun _ ↦ True) p := by
  induction p with
  | ret a => trivial
  | throw e => trivial
  | atomic act k ih => exact ⟨fun s _ ↦ ⟨trivial, ih _⟩, fun e ↦ ih _⟩
  | ask q k ih => exact ih

namespace Keeps

theorem bind {p : Resumption σ Q A ε α} {f : α → Resumption σ Q A ε β} (hp : Keeps I p)
    (hf : ∀ a, Keeps I (f a)) : Keeps I (p >>= f) := by
  induction p with
  | ret a => exact hf a
  | throw e => trivial
  | atomic act k ih =>
      refine ⟨fun s hs ↦ ?_, fun e ↦ ih _ (hp.2 e)⟩
      obtain ⟨hact, hk⟩ := hp.1 s hs
      exact ⟨hact, ih _ hk⟩
  | ask q k ih => exact fun a ↦ ih a (hp a)

theorem discard {p : Resumption σ Q A ε α} (hp : Keeps I p) :
    Keeps I (discard p : Resumption σ Q A ε PUnit) := by
  change Keeps I (p >>= fun _ ↦ Resumption.ret PUnit.unit)
  exact hp.bind fun _ ↦ keeps_ret _

/-- What a program keeps holds where it ends. -/
theorem run {p : Resumption σ Q A ε α} (hp : Keeps I p) {s : σ} (hs : I s) (env : Env A ε) :
    I (p.run env s).store := by
  induction p generalizing s env with
  | ret a => exact hs
  | throw e => exact hs
  | atomic act k ih =>
      rw [Resumption.run]
      obtain ⟨hact, hk⟩ := hp.1 s hs
      cases env.faults 0 with
      | none => exact ih _ hk hact _
      | some e => exact ih _ (hp.2 e) hs _
  | ask q k ih =>
      rw [run_ask]
      exact ih _ (hp _) hs _

/-- A step of a program that keeps `I` keeps it, and leaves such a program. -/
theorem next {p p' : Resumption σ Q A ε α} (hp : Keeps I p) {m : Move A ε} {s s' : σ}
    {x : Option (Q × A)} (hs : I s) (h : next p m s = some (s', p', x)) : I s' ∧ Keeps I p' := by
  cases p with
  | ret a => cases m <;> cases h
  | throw e => cases m <;> cases h
  | atomic act k =>
      cases m with
      | act =>
          cases h
          exact hp.1 s hs
      | refuse e =>
          cases h
          exact ⟨hs, hp.2 e⟩
      | answer a => cases h
  | ask q k =>
      cases m with
      | act => cases h
      | refuse e => cases h
      | answer a =>
          cases h
          exact ⟨hs, hp a⟩

end Keeps

/-- The store of a pool keeps what each of its programs keeps, under every schedule, and what is
left of the programs keeps it too. -/
theorem Pool.keeps_run_threads {P : Pool σ Q A (Resumption σ Q A ε α)}
    (hp : ∀ p ∈ P.threads, Keeps I p) (hs : I P.store) (ts : List (Turn A ε)) :
    I (Pool.run next P ts).store ∧ ∀ p ∈ (Pool.run next P ts).threads, Keeps I p := by
  have hinv : ∀ (P : Pool σ Q A (Resumption σ Q A ε α)) (t : Turn A ε),
      (I P.store ∧ ∀ p ∈ P.threads, Keeps I p) →
        I (step next P t).store ∧ ∀ p ∈ (step next P t).threads, Keeps I p := by
    rintro P t ⟨hs, hp⟩
    rcases step_cases next P t with h | ⟨p, s, p', x, hget, hnext, h⟩
    · rw [h]
      exact ⟨hs, hp⟩
    · obtain ⟨hs', hp'⟩ := (hp p (List.mem_of_getElem? hget)).next hs hnext
      rw [h]
      refine ⟨hs', fun q hq ↦ ?_⟩
      rcases List.mem_or_eq_of_mem_set hq with hq | rfl
      · exact hp q hq
      · exact hp'
  exact Transition.run_invariant (step next) hinv ⟨hs, hp⟩ ts

theorem Pool.keeps_run {P : Pool σ Q A (Resumption σ Q A ε α)}
    (hp : ∀ p ∈ P.threads, Keeps I p) (hs : I P.store) (ts : List (Turn A ε)) :
    I (Pool.run next P ts).store :=
  (Pool.keeps_run_threads hp hs ts).1

end Resumption
