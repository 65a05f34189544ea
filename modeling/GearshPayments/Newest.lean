import Mathlib.Data.List.Sort

/-!
# The newest rows

A query asks for the newest `n` of some rows.  Rows of the same instant may come in any order, so
the database's order is any sort by that instant (`Newest.Order`), and `Newest.Chosen` says of a
list that it is a possible answer.

A condition that is tested on the answer, and not in the query, gives the newest of the rows that
pass it only if the rows cut off are not missed (`Order.length_filter_newest_iff`).
-/

namespace Newest

variable {ρ κ : Type} [LinearOrder κ] {key : ρ → κ}

/-- The list holds the newest `n` of the rows, or all if there are fewer, the newest first. -/
structure Chosen (key : ρ → κ) (n : ℕ) (rows chosen : List ρ) : Prop where
  descending : chosen.Pairwise fun a b ↦ key b ≤ key a
  length : chosen.length = min n rows.length
  /-- The rows that are left out are not newer. -/
  left : ∃ left, (chosen ++ left).Perm rows ∧ ∀ a ∈ chosen, ∀ b ∈ left, key b ≤ key a

theorem Chosen.ne_nil {n : ℕ} {rows chosen : List ρ} (h : Chosen key n rows chosen) (hn : 0 < n)
    (hrows : rows ≠ []) : chosen ≠ [] := by
  have hpos : 0 < rows.length := List.length_pos_iff.mpr hrows
  refine List.length_pos_iff.mp ?_
  rw [h.length]
  omega

/-- A way to put rows in order, the newest first. -/
structure Order (key : ρ → κ) where
  sort : List ρ → List ρ
  perm : ∀ rows, (sort rows).Perm rows
  descending : ∀ rows, (sort rows).Pairwise fun a b ↦ key b ≤ key a

namespace Order

/-- Rows of the same instant stay as they were. -/
def stable (key : ρ → κ) : Order key where
  sort rows := rows.insertionSort fun a b ↦ key b ≤ key a
  perm rows := List.perm_insertionSort _ rows
  descending rows := by
    have htotal : Std.Total fun a b : ρ ↦ key b ≤ key a := ⟨fun a b ↦ le_total _ _⟩
    have htrans : IsTrans ρ fun a b ↦ key b ≤ key a := ⟨fun _ _ _ hab hbc ↦ hbc.trans hab⟩
    exact List.pairwise_insertionSort _ rows

variable (order : Order key) (n : ℕ) (rows : List ρ)

/-- The newest `n` rows. -/
def newest : List ρ := (order.sort rows).take n

/-- The other rows. -/
def older : List ρ := (order.sort rows).drop n

theorem newest_append_older : order.newest n rows ++ order.older n rows = order.sort rows :=
  List.take_append_drop _ _

theorem length_newest : (order.newest n rows).length = min n rows.length := by
  rw [newest, List.length_take, (order.perm rows).length_eq]

theorem length_older : (order.older n rows).length = rows.length - n := by
  rw [older, List.length_drop, (order.perm rows).length_eq]

/-- The newest rows that pass a test, and then the older ones. -/
theorem filter_perm (p : ρ → Bool) :
    ((order.newest n rows).filter p ++ (order.older n rows).filter p).Perm (rows.filter p) := by
  rw [← List.filter_append, newest_append_older]
  exact (order.perm rows).filter p

theorem chosen_newest : Chosen key n rows (order.newest n rows) where
  descending := (order.descending rows).sublist (List.take_sublist _ _)
  length := order.length_newest n rows
  left := by
    have hsorted := order.descending rows
    rw [← order.newest_append_older n rows] at hsorted
    refine ⟨order.older n rows, ?_, (List.pairwise_append.mp hsorted).2.2⟩
    rw [newest_append_older]
    exact order.perm rows

variable {n rows} {p : ρ → Bool}

/-- As many rows as there are to choose is all that can be wrong. -/
theorem chosen_filter_of_length
    (h : ((order.newest n rows).filter p).length = min n (rows.filter p).length) :
    Chosen key n (rows.filter p) ((order.newest n rows).filter p) where
  descending := (order.chosen_newest n rows).descending.sublist List.filter_sublist
  length := h
  left := by
    have hsorted := order.descending rows
    rw [← order.newest_append_older n rows] at hsorted
    refine ⟨_, order.filter_perm n rows p, fun a ha b hb ↦ ?_⟩
    exact (List.pairwise_append.mp hsorted).2.2 a (List.mem_of_mem_filter ha) b
      (List.mem_of_mem_filter hb)

/-- Of the newest rows as many pass a test as there are to choose if and only if all of them pass
it, or none of the others does. -/
theorem length_filter_newest_iff :
    ((order.newest n rows).filter p).length = min n (rows.filter p).length ↔
      (∀ r ∈ order.newest n rows, p r = true) ∨ ∀ r ∈ order.older n rows, p r = false := by
  have hlength := (order.filter_perm n rows p).length_eq
  rw [List.length_append] at hlength
  have hnewest := order.length_newest n rows
  have holder := order.length_older n rows
  have hpass := List.length_filter_le p (order.newest n rows)
  have hcut := List.length_filter_le p (order.older n rows)
  constructor
  · intro h
    by_cases hleft : ∀ r ∈ order.older n rows, p r = false
    · exact .inr hleft
    · -- a row that passes is cut off, so the list is full of rows that pass
      have hpos : 0 < ((order.older n rows).filter p).length := by
        refine List.length_pos_iff.mpr fun hnil ↦ hleft fun r hr ↦ ?_
        exact Bool.eq_false_iff.mpr (List.filter_eq_nil_iff.mp hnil r hr)
      refine .inl (List.length_filter_eq_length_iff.mp ?_)
      omega
  · rintro (hall | hnone)
    · have hfull := List.length_filter_eq_length_iff.mpr hall
      omega
    · have hnil : (order.older n rows).filter p = [] := by
        refine List.filter_eq_nil_iff.mpr fun r hr ↦ ?_
        rw [hnone r hr]
        exact Bool.false_ne_true
      rw [hnil, List.length_nil] at hlength
      omega

end Order

end Newest
