import Mathlib.Algebra.BigOperators.Group.List.Basic
import Mathlib.Algebra.BigOperators.Ring.Finset
import Mathlib.Algebra.Order.BigOperators.Group.List
import Mathlib.Tactic.Ring

/-!
# Double-entry bookkeeping

A posting debits or credits one account by an amount.  `side` sums the postings
of one side over all accounts, `total` those of one side of one account, and
`net` is an account's balance on its credit side.  Amounts are integers and may
be of either sign; the lists a bookkeeper accepts are the `Sound` ones, whose
debits and credits sum to the same amount and which have no negative amount.
-/

namespace DoubleEntry

/-- The two sides of an account. -/
inductive Side where
  | debit
  | credit
deriving DecidableEq, Repr

/-- One line of a ledger. -/
structure Posting (κ : Type) where
  account : κ
  direction : Side
  amount : ℤ
deriving DecidableEq, Repr

variable {κ : Type}

/-- The sum of all postings on one side. -/
def side (d : Side) (ps : List (Posting κ)) : ℤ :=
  ((ps.filter fun p ↦ p.direction = d).map Posting.amount).sum

/-- Debits and credits sum to the same amount, and no amount is negative. -/
structure Sound (ps : List (Posting κ)) : Prop where
  nonneg : ∀ p ∈ ps, 0 ≤ p.amount
  balanced : side .debit ps = side .credit ps

@[simp] theorem side_nil (d : Side) : side d ([] : List (Posting κ)) = 0 := rfl

@[simp] theorem side_cons (d : Side) (p : Posting κ) (ps : List (Posting κ)) :
    side d (p :: ps) = (if p.direction = d then p.amount else 0) + side d ps := by
  by_cases h : p.direction = d <;> simp [side, h]

@[simp] theorem side_append (d : Side) (ps qs : List (Posting κ)) :
    side d (ps ++ qs) = side d ps + side d qs := by
  simp [side]

theorem Sound.append {ps qs : List (Posting κ)} (h : Sound ps) (h' : Sound qs) :
    Sound (ps ++ qs) where
  nonneg := List.forall_mem_append.mpr ⟨h.nonneg, h'.nonneg⟩
  balanced := by rw [side_append, side_append, h.balanced, h'.balanced]

variable [DecidableEq κ]

/-- The sum of the postings on one side of an account. -/
def total (a : κ) (d : Side) (ps : List (Posting κ)) : ℤ :=
  ((ps.filter fun p ↦ p.account = a ∧ p.direction = d).map Posting.amount).sum

/-- Credits minus debits of an account. -/
def net (a : κ) (ps : List (Posting κ)) : ℤ := total a .credit ps - total a .debit ps

/-- The part one posting has in an account's balance. -/
def Posting.effect (a : κ) (p : Posting κ) : ℤ :=
  if p.account = a then (match p.direction with | .debit => -p.amount | .credit => p.amount) else 0

@[simp] theorem total_nil (a : κ) (d : Side) : total a d [] = 0 := rfl

@[simp] theorem total_cons (a : κ) (d : Side) (p : Posting κ) (ps : List (Posting κ)) :
    total a d (p :: ps) =
      (if p.account = a ∧ p.direction = d then p.amount else 0) + total a d ps := by
  by_cases h : p.account = a ∧ p.direction = d <;> simp [total, h]

@[simp] theorem total_append (a : κ) (d : Side) (ps qs : List (Posting κ)) :
    total a d (ps ++ qs) = total a d ps + total a d qs := by
  simp [total]

@[simp] theorem net_nil (a : κ) : net a [] = 0 := rfl

@[simp] theorem net_append (a : κ) (ps qs : List (Posting κ)) :
    net a (ps ++ qs) = net a ps + net a qs := by
  simp only [net, total_append]
  ring

@[simp] theorem net_cons (a : κ) (p : Posting κ) (ps : List (Posting κ)) :
    net a (p :: ps) = p.effect a + net a ps := by
  simp only [net, total_cons, Posting.effect]
  cases hd : p.direction <;> by_cases ha : p.account = a <;> simp [ha] <;> ring

/-- Nothing is summed where nothing is posted. -/
theorem total_eq_zero {a : κ} {d : Side} {ps : List (Posting κ)}
    (h : ∀ p ∈ ps, ¬(p.account = a ∧ p.direction = d)) : total a d ps = 0 := by
  have hnone : ps.filter (fun p ↦ p.account = a ∧ p.direction = d) = [] :=
    List.filter_eq_nil_iff.mpr fun p hp hd ↦ h p hp (of_decide_eq_true hd)
  rw [total, hnone]
  rfl

theorem Sound.total_nonneg {ps : List (Posting κ)} (h : Sound ps) (a : κ) (d : Side) :
    0 ≤ total a d ps := by
  refine List.sum_nonneg (List.forall_mem_map.mpr fun p hp ↦ ?_)
  exact h.nonneg p (List.mem_filter.mp hp).1

/-- An account's balance is the sum of its postings' effects. -/
theorem net_eq_sum (a : κ) (ps : List (Posting κ)) :
    net a ps = (ps.map (Posting.effect a)).sum := by
  induction ps with
  | nil => rfl
  | cons p ps ih => rw [net_cons, ih, List.map_cons, List.sum_cons]

/-- The balances of all accounts come to what the credits exceed the debits by. -/
theorem sum_net [Fintype κ] (ps : List (Posting κ)) :
    ∑ a, net a ps = side .credit ps - side .debit ps := by
  induction ps with
  | nil => exact Finset.sum_const_zero
  | cons p ps ih =>
      have heffect : ∑ a, p.effect a =
          match p.direction with | .debit => -p.amount | .credit => p.amount := by
        simp only [Posting.effect, Finset.sum_ite_eq, Finset.mem_univ, if_true]
      simp only [net_cons, Finset.sum_add_distrib, ih, heffect, side_cons]
      cases p.direction with
      | debit => simp only [if_true, reduceCtorEq, if_false]; ring
      | credit => simp only [if_true, reduceCtorEq, if_false]; ring

end DoubleEntry
