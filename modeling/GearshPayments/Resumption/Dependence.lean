import GearshPayments.Resumption.Pool

/-!
# What the next action of a program depends on

Programs are opaque: what a read asks of the store cannot be taken out of them.  But it can be
observed, since a read that makes a difference to the program leaves it with different things to do
in different stores (`TellsApart`).  So what a thread reads next is a fact about the thread, and not
about the text it was written in.
-/

namespace Resumption

variable {σ Q A ε α β : Type}

/-- What is left of a program when its next action has taken place in this store. -/
def after (p : Resumption σ Q A ε α) (s : σ) : Option (Resumption σ Q A ε α) :=
  (next p .act s).map fun r ↦ r.2.1

/-- The second program is what is left of the first when its next action has taken place. -/
def Follows (p q : Resumption σ Q A ε α) : Prop := ∃ s, p.after s = some q

/-- The next action of the program tells these stores apart. -/
def TellsApart (p : Resumption σ Q A ε α) (s s' : σ) : Prop := p.after s ≠ p.after s'

/-- What follows a transaction that is never given up. -/
theorem of_follows_transaction_bind {t : StateT σ (Except ε) α} {k : α → Resumption σ Q A ε β}
    {q : Resumption σ Q A ε β} (ht : ∀ s, ∃ a s', t s = .ok (a, s'))
    (h : Follows (transaction t >>= k) q) : ∃ a, q = k a := by
  obtain ⟨s, hs⟩ := h
  obtain ⟨a, s', hok⟩ := ht s
  refine ⟨a, ?_⟩
  rw [after, transaction, atomic_bind, next] at hs
  simp only [hok] at hs
  cases hs
  rfl

end Resumption
