import GearshPayments.Resumption.Run
import GearshPayments.Transition

/-!
# Interleaving programs over one store

A pool is a store, a list of threads and the log of the questions asked so far.
A schedule picks, turn by turn, a thread and what becomes of its next action: it
takes place, it is refused, or, for a question, it gets an answer.  A turn that
does not fit the thread it is given to changes nothing, so every list of turns
is a schedule.
-/

namespace Resumption

variable {σ Q A ε α T : Type}

/-- What a schedule lets a thread's next action become. -/
inductive Move (A ε : Type) where
  /-- The atomic action takes place. -/
  | act
  /-- The atomic action is refused with an error. -/
  | refuse (e : ε)
  /-- The question is answered. -/
  | answer (a : A)

/-- One step of a thread: the store and thread after it, and the exchange with
the outside party if the step was one. -/
abbrev Next (σ Q A ε T : Type) := T → Move A ε → σ → Option (σ × T × Option (Q × A))

/-- One step of a program. -/
def next : Next σ Q A ε (Resumption σ Q A ε α)
  | .atomic act k, .act, s => some (act s, k (.ok s), none)
  | .atomic _ k, .refuse e, s => some (s, k (.error e), none)
  | .ask q k, .answer a, s => some (s, k a, some (q, a))
  | _, _, _ => none

/-- What follows a read that takes place. -/
theorem of_next_read_bind {α β : Type} {f : σ → α} {k : α → Resumption σ Q A ε β} {s s' : σ}
    {p : Resumption σ Q A ε β} {x : Option (Q × A)}
    (h : next (read f >>= k) .act s = some (s', p, x)) : p = k (f s) := by
  cases h
  rfl

/-- A read at the start of a program whose value is dropped takes place or is refused. -/
theorem of_next_read {α β : Type} {f : σ → α} {k : α → Resumption σ Q A ε β} {m : Move A ε}
    {s s' : σ} {p : Resumption σ Q A ε PUnit} {x : Option (Q × A)}
    (h : next (discard (read f >>= k)) m s = some (s', p, x)) :
    s' = s ∧ ((∃ e, p = .throw e) ∨ (m = .act ∧ p = discard (k (f s)))) := by
  cases m with
  | answer a => cases h
  | refuse e =>
      cases h
      exact ⟨rfl, .inl ⟨e, rfl⟩⟩
  | act =>
      cases h
      exact ⟨rfl, .inr ⟨rfl, rfl⟩⟩

theorem discard_atomic (act : σ → σ) (k : Except ε σ → Resumption σ Q A ε α) :
    discard (.atomic act k : Resumption σ Q A ε α) = .atomic act fun r ↦ discard (k r) := rfl

/-- A transaction at the start of such a program is committed, or it changes nothing and ends the
program. -/
theorem of_next_transaction_bind {β : Type} {t : StateT σ (Except ε) α}
    {k : α → Resumption σ Q A ε β} {m : Move A ε} {s s' : σ} {p : Resumption σ Q A ε PUnit}
    {x : Option (Q × A)} (h : next (discard (transaction t >>= k)) m s = some (s', p, x)) :
    (s' = s ∧ ∃ e, p = .throw e) ∨ (m = .act ∧ ∃ a, t s = .ok (a, s') ∧ p = discard (k a)) := by
  cases m with
  | answer a => cases h
  | refuse e =>
      cases h
      exact .inl ⟨rfl, e, rfl⟩
  | act =>
      rw [transaction, atomic_bind, discard_atomic, next] at h
      cases ht : t s with
      | ok r =>
          simp only [ht] at h
          cases h
          exact .inr ⟨rfl, r.1, rfl, rfl⟩
      | error e =>
          simp only [ht] at h
          cases h
          exact .inl ⟨rfl, e, rfl⟩

/-- A transaction that ends its program takes place, and is committed or not, or is refused. -/
theorem of_next_transaction {t : StateT σ (Except ε) α} {m : Move A ε} {s s' : σ}
    {p : Resumption σ Q A ε PUnit} {x : Option (Q × A)}
    (h : next (discard (transaction t)) m s = some (s', p, x)) :
    (∃ r, p = ofExcept r) ∧ (s' = s ∨ (m = .act ∧ ∃ a, t s = .ok (a, s'))) := by
  rw [← bind_pure (transaction t)] at h
  rcases of_next_transaction_bind h with ⟨hs, e, hp⟩ | ⟨hm, a, ht, hp⟩
  · exact ⟨⟨.error e, hp⟩, .inl hs⟩
  · exact ⟨⟨.ok ⟨⟩, hp⟩, .inr ⟨hm, a, ht⟩⟩

/-- A program that has ended makes no step. -/
theorem of_next_ofExcept {r : Except ε α} {m : Move A ε} {s : σ}
    {y : σ × Resumption σ Q A ε α × Option (Q × A)}
    (h : next (ofExcept r) m s = some y) : False := by
  cases r with
  | ok a => cases m <;> cases h
  | error e => cases m <;> cases h

/-- A store, the threads that share it, and what they asked so far, by thread. -/
structure Pool (σ Q A T : Type) where
  store : σ
  threads : List T
  log : List (ℕ × Q × A)

/-- One turn of a schedule: a thread and what becomes of its next action. -/
structure Turn (A ε : Type) where
  thread : ℕ
  move : Move A ε

namespace Pool

/-- One turn. -/
def step (nx : Next σ Q A ε T) (P : Pool σ Q A T) (t : Turn A ε) : Pool σ Q A T :=
  match P.threads[t.thread]? with
  | none => P
  | some p => match nx p t.move P.store with
    | none => P
    | some (s, p', x) =>
      { store := s
        threads := P.threads.set t.thread p'
        log := P.log ++ x.toList.map fun y ↦ (t.thread, y) }

/-- The pool after a schedule. -/
abbrev run (nx : Next σ Q A ε T) (P : Pool σ Q A T) (ts : List (Turn A ε)) : Pool σ Q A T :=
  Transition.run (step nx) P ts

/-- What a turn can do: nothing, or one step of the thread it is given to. -/
theorem step_cases (nx : Next σ Q A ε T) (P : Pool σ Q A T) (t : Turn A ε) :
    step nx P t = P ∨ ∃ p s p' x, P.threads[t.thread]? = some p ∧
      nx p t.move P.store = some (s, p', x) ∧
      step nx P t =
        ⟨s, P.threads.set t.thread p', P.log ++ x.toList.map fun y ↦ (t.thread, y)⟩ := by
  unfold step
  cases hp : P.threads[t.thread]? with
  | none => exact .inl rfl
  | some p =>
      cases hn : nx p t.move P.store with
      | none => exact .inl (by simp only [hn])
      | some r =>
          obtain ⟨s, p', x⟩ := r
          exact .inr ⟨p, s, p', x, rfl, hn, by simp only [hn]⟩

/-- A turn that the thread can take. -/
theorem step_eq {nx : Next σ Q A ε T} {P : Pool σ Q A T} {i : ℕ} {m : Move A ε} {p p' : T} {s : σ}
    {x : Option (Q × A)} (hi : P.threads[i]? = some p) (hn : nx p m P.store = some (s, p', x)) :
    step nx P ⟨i, m⟩ = ⟨s, P.threads.set i p', P.log ++ x.toList.map fun y ↦ (i, y)⟩ := by
  unfold step
  simp only [hi, hn]

/-- What a turn does, seen from one thread: nothing to it, and nothing at all if it is its turn; or
a step of it. -/
theorem step_thread (nx : Next σ Q A ε T) {P : Pool σ Q A T} (t : Turn A ε) {i : ℕ} {p : T}
    (hp : P.threads[i]? = some p) :
    ((step nx P t).threads[i]? = some p ∧ (t.thread = i → (step nx P t).store = P.store)) ∨
      (t.thread = i ∧ ∃ s p' x, nx p t.move P.store = some (s, p', x) ∧
        (step nx P t).threads[i]? = some p' ∧ (step nx P t).store = s) := by
  rcases step_cases nx P t with heq | ⟨q, s, p', x, hget, hnext, heq⟩
  · rw [heq]
    exact .inl ⟨hp, fun _ ↦ rfl⟩
  · rw [heq]
    by_cases ht : t.thread = i
    · rw [ht] at hget
      cases hp.symm.trans hget
      refine .inr ⟨ht, s, p', x, hnext, ?_, rfl⟩
      rw [ht]
      exact List.getElem?_set_self (List.getElem?_eq_some_iff.mp hp).1
    · exact .inl ⟨(List.getElem?_set_ne ht).trans hp, fun h ↦ absurd h ht⟩

/-- What holds of all threads but one, and of a new one in its place, holds of all. -/
theorem forall_set_of_ne {C : ℕ → T → Prop} {ps : List T} {i : ℕ} {p : T}
    (h : ∀ (j : ℕ) q, i ≠ j → ps[j]? = some q → C j q) (hp : C i p) :
    ∀ (j : ℕ) q, (ps.set i p)[j]? = some q → C j q := by
  intro j q hq
  by_cases hj : i = j
  · subst hj
    rw [List.getElem?_set_self'] at hq
    obtain ⟨x, -, rfl⟩ := Option.map_eq_some_iff.mp hq
    exact hp
  · rw [List.getElem?_set_ne hj] at hq
    exact h j q hj hq

/-- A read takes place. -/
theorem step_read {α β : Type} {P : Pool σ Q A (Resumption σ Q A ε β)} {i : ℕ} {f : σ → α}
    {k : α → Resumption σ Q A ε β} (hi : P.threads[i]? = some (read f >>= k)) :
    step next P ⟨i, .act⟩ = { P with threads := P.threads.set i (k (f P.store)) } := by
  rw [step_eq hi rfl, Option.toList, List.map_nil, List.append_nil]
  rfl

/-- A thread that has no turn stays as it is. -/
theorem getElem?_run_of_ne (nx : Next σ Q A ε T) {P : Pool σ Q A T} {ts : List (Turn A ε)} {i : ℕ}
    (hts : ∀ t ∈ ts, t.thread ≠ i) : (run nx P ts).threads[i]? = P.threads[i]? := by
  induction ts generalizing P with
  | nil => rfl
  | cons t ts ih =>
      obtain ⟨ht, hts⟩ := List.forall_mem_cons.mp hts
      rw [run, Transition.run_cons, ← run, ih hts]
      rcases step_cases nx P t with heq | ⟨p, s, p', x, -, -, heq⟩
      · rw [heq]
      · rw [heq, List.getElem?_set_ne ht]

/-- No thread comes or goes. -/
theorem length_threads_run (nx : Next σ Q A ε T) (P : Pool σ Q A T) (ts : List (Turn A ε)) :
    (run nx P ts).threads.length = P.threads.length := by
  refine Transition.run_invariant (step nx) (I := fun P' ↦ P'.threads.length = P.threads.length)
    (fun P' t h ↦ ?_) rfl ts
  rcases step_cases nx P' t with heq | ⟨p, s, p', x, -, -, heq⟩
  · rw [heq]
    exact h
  · rw [heq, List.length_set]
    exact h

end Pool

end Resumption
