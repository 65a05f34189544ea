import GearshPayments.Resumption.Guarantee

/-!
# Programs among others

Programs that ask different kinds of questions run in one pool once their questions
are read as questions of one common kind and the common answers as answers to theirs.
The actions stay as they are, and so does all that was shown of them.
-/

namespace Resumption

variable {σ Q Q' A A' ε α : Type} (f : Q → Q') (g : A' → A)

/-- The program with its questions put and its answers read in another language. -/
def relabel : Resumption σ Q A ε α → Resumption σ Q' A' ε α
  | .ret a => .ret a
  | .throw e => .throw e
  | .atomic act k => .atomic act fun r ↦ (k r).relabel
  | .ask q k => .ask (f q) fun a ↦ (k (g a)).relabel

variable {f g} {I C : σ → Prop} {G : σ → σ → Prop}

theorem Keeps.relabel {p : Resumption σ Q A ε α} (hp : Keeps I p) : Keeps I (p.relabel f g) := by
  induction p with
  | ret a => trivial
  | throw e => trivial
  | atomic act k ih =>
      refine ⟨fun s hs ↦ ?_, fun e ↦ ih _ (hp.2 e)⟩
      obtain ⟨hact, hk⟩ := hp.1 s hs
      exact ⟨hact, ih _ hk⟩
  | ask q k ih => exact fun a ↦ ih _ (hp (g a))

theorem Guarantees.relabel {p : Resumption σ Q A ε α} (hp : Guarantees I G p) :
    Guarantees I G (p.relabel f g) := by
  induction p with
  | ret a => trivial
  | throw e => trivial
  | atomic act k ih =>
      refine ⟨fun s hs ↦ ?_, fun e ↦ ih _ (hp.2 e)⟩
      obtain ⟨hact, hk⟩ := hp.1 s hs
      exact ⟨hact, ih _ hk⟩
  | ask q k ih => exact fun a ↦ ih _ (hp (g a))

theorem Establishes.relabel {p : Resumption σ Q A ε α} (hp : Establishes I C p) :
    Establishes I C (p.relabel f g) := by
  induction p with
  | ret a => exact hp
  | throw e => trivial
  | atomic act k ih =>
      exact ⟨fun s hs ↦ (hp.1 s hs).imp_right fun h ↦ ih _ h, fun e ↦ ih _ (hp.2 e)⟩
  | ask q k ih => exact fun a ↦ ih _ (hp (g a))

end Resumption
