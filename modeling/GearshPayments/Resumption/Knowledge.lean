import GearshPayments.Resumption.Guarantee
import GearshPayments.Resumption.Monitor

/-!
# What a program knows when it returns

`Resumption/Guarantee.lean` bounds the changes that programs make.  What such changes never
end is *stable*: once a thread has seen it, it stays true, whatever the other threads do
in the meantime.  The monitor here lets a thread carry a stable property of the store as what
it knows, so that what it returns may be justified by what it has read (`Pool.returns_run`).
-/

namespace Resumption

variable {σ Q A ε α β : Type} {G : σ → σ → Prop}

/-- A property of the store that no change in `G` ends. -/
structure Stable (G : σ → σ → Prop) where
  Holds : σ → Prop
  stable : ∀ s s', Holds s → G s s' → Holds s'

/-- A thread knows a stable property.  It makes only changes in `G`, and with an action on the
store it may learn another property. -/
def knowledge (G : σ → σ → Prop) : Monitor σ Q A (Stable G) where
  Knows K s := K.Holds s
  Writes K s s' K' := K.Holds s → G s s' ∧ K'.Holds s'
  Asks K _ _ K' := K' = K

/-- What the program returns has the property `Post` of whatever store there is by then. -/
def Justified (Post : α → σ → Prop) (K : Stable G) (r : Except ε α) : Prop :=
  ∀ a, r = .ok a → ∀ s, K.Holds s → Post a s

variable {Post : α → σ → Prop} {K K' : Stable G}

theorem Justified.ok {a : α} (h : ∀ s, K.Holds s → Post a s) :
    Justified Post K (.ok a : Except ε α) := fun b hb ↦ by
  cases hb
  exact h

theorem Justified.error (e : ε) : Justified Post K (.error e) := fun _ hb ↦ nomatch hb

theorem knowledge_same (hG : ∀ s, G s s) (K : Stable G) (s : σ) :
    (knowledge G : Monitor σ Q A (Stable G)).Writes K s s K := fun h ↦ ⟨hG s, h⟩

/-- A program whose changes are in `G` needs to know nothing but what it started with. -/
theorem Guarantees.conforms_knowledge {p : Resumption σ Q A ε α} (hp : Guarantees K.Holds G p) :
    Conforms (knowledge G) p K fun K' _ ↦ K' = K := by
  induction p with
  | ret a => rfl
  | throw e => rfl
  | atomic act k ih =>
      refine ⟨fun s hs ↦ ?_, fun e ↦ ih _ (hp.2 e)⟩
      obtain ⟨hact, hk⟩ := hp.1 s hs
      exact ⟨K, fun h ↦ ⟨hact, K.stable _ _ h hact⟩, ih _ hk⟩
  | ask q k ih => exact fun a ↦ ⟨K, rfl, ih a (hp a)⟩

/-- What all threads knew at the start still holds at the end of a run, and whatever a thread has
returned is justified then. -/
theorem Pool.returns_run {P : Pool σ Q A (Resumption σ Q A ε α)} (hK : K.Holds P.store)
    (hp : ∀ p ∈ P.threads, Conforms (knowledge G) p K (Justified Post)) (ts : List (Turn A ε)) :
    K.Holds (run next P ts).store ∧
      ∀ {i : ℕ} {a : α}, (run next P ts).threads[i]? = some (.ret a) →
      Post a (run next P ts).store := by
  have hconf : Conforming (knowledge G) (Justified Post) P.threads (P.threads.map fun _ ↦ K) := by
    intro j p hj
    refine ⟨K, ?_, hp p (List.mem_of_getElem? hj)⟩
    rw [List.getElem?_map, hj]
    rfl
  have hstart : ∀ (j : ℕ) (K' : Stable G), (P.threads.map fun _ ↦ K)[j]? = some K' →
      K'.Holds P.store := by
    intro j K' hj
    obtain ⟨-, -, rfl⟩ := List.mem_map.mp (List.mem_of_getElem? hj)
    exact hK
  have halong : Transition.Along (step next) (fun _ _ ↦ True) P ts :=
    .of_forall (fun _ _ ↦ trivial) _ _
  obtain ⟨vs, hvs, hKs, hJ⟩ := conforming_run (D := fun _ _ _ ↦ True)
    (J := fun s vs _ ↦ K.Holds s ∧ ∀ (j : ℕ) (K' : Stable G), vs[j]? = some K' → K'.Holds s)
    (fun h hi ↦ h.2 _ _ hi)
    (fun {s vs _ i K' s' K''} h hi hw _ ↦ by
      obtain ⟨hchange, hK''⟩ := hw (h.2 i K' hi)
      refine ⟨K.stable _ _ h.1 hchange, ?_⟩
      refine forall_set (C := fun _ (K : Stable G) ↦ K.Holds s') (fun j K₁ hj ↦ ?_) hK''
      exact K₁.stable _ _ (h.2 j K₁ hj) hchange)
    (fun {s vs _ i K' q a K''} h hi hq ↦ by
      cases hq
      exact ⟨h.1, forall_set (C := fun _ (K : Stable G) ↦ K.Holds s) h.2 (h.2 i K' hi)⟩)
    hconf ⟨hK, hstart⟩ halong
  refine ⟨hKs, fun {i a} hret ↦ ?_⟩
  obtain ⟨K', hi, hpost⟩ := hvs i _ hret
  exact hpost a rfl _ (hJ i K' hi)

end Resumption
