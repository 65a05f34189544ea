import Mathlib.Algebra.BigOperators.Group.List.Basic
import Mathlib.Algebra.Group.Basic
import Mathlib.Data.List.Nodup
import Mathlib.Tactic.Abel

/-!
# Tables: lists of rows with a key

The part of a relational database that programs see through an object mapper:
look a row up by a unique column, update it in place, append new rows.  A table
is the list of its rows in insertion order and a column is a function on rows.
-/

namespace Table

variable {ρ κ : Type} [DecidableEq κ] (key : ρ → κ)

/-- The row whose key is `k`. -/
def find (k : κ) (t : List ρ) : Option ρ := t.find? fun r ↦ decide (key r = k)

/-- Rewrite the rows whose key is `k`. -/
def update (k : κ) (f : ρ → ρ) (t : List ρ) : List ρ := t.map fun r ↦ if key r = k then f r else r

variable {key}

theorem find_some {k : κ} {t : List ρ} {r : ρ} (h : find key k t = some r) :
    r ∈ t ∧ key r = k :=
  ⟨List.mem_of_find?_eq_some h, by simpa using List.find?_some h⟩

theorem find_eq_none {k : κ} {t : List ρ} : find key k t = none ↔ ∀ r ∈ t, key r ≠ k := by
  simp [find]

@[simp] theorem find_nil (k : κ) : find key k [] = none := rfl

theorem find_append (k : κ) (t u : List ρ) :
    find key k (t ++ u) = (find key k t).or (find key k u) := by
  simp [find, List.find?_append]

/-- A row whose key nobody has is found after it is appended. -/
theorem find_append_new {t : List ρ} {r : ρ} (h : ∀ x ∈ t, key x ≠ key r) :
    find key (key r) (t ++ [r]) = some r := by
  rw [find_append, find_eq_none.mpr h]
  simp [find]

theorem find_append_of_ne {k : κ} {t : List ρ} {r : ρ} (h : key r ≠ k) :
    find key k (t ++ [r]) = find key k t := by
  rw [find_append]
  simp [find, h]

/-- With distinct keys a row is found exactly when it is in the table. -/
theorem find_eq_some_iff {t : List ρ} (hn : (t.map key).Nodup) {r : ρ} :
    find key (key r) t = some r ↔ r ∈ t := by
  refine ⟨fun h ↦ (find_some h).1, fun h ↦ ?_⟩
  cases hf : find key (key r) t with
  | none => exact absurd rfl (find_eq_none.mp hf r h)
  | some x =>
      obtain ⟨hx, hk⟩ := find_some hf
      rw [List.inj_on_of_nodup_map hn hx h hk]

theorem mem_update {k : κ} {f : ρ → ρ} {t : List ρ} {r : ρ} :
    r ∈ update key k f t ↔ ∃ x ∈ t, r = if key x = k then f x else x := by
  simp only [update, List.mem_map, eq_comm]

/-- An update that keeps a column of each row keeps the column. -/
theorem map_update {β : Type} (g : ρ → β) {k : κ} {f : ρ → ρ} (hg : ∀ r, g (f r) = g r)
    (t : List ρ) : (update key k f t).map g = t.map g := by
  simp only [update, List.map_map]
  refine List.map_congr_left fun r _ ↦ ?_
  by_cases h : key r = k
  · simp only [Function.comp_apply, if_pos h, hg]
  · simp only [Function.comp_apply, if_neg h]

theorem find_update {k k' : κ} {f : ρ → ρ} (hf : ∀ r, key (f r) = key r) (t : List ρ) :
    find key k (update key k' f t) =
      if k = k' then (find key k t).map f else find key k t := by
  induction t with
  | nil => simp [update]
  | cons r t ih =>
      simp only [update, find] at ih ⊢
      simp only [List.map_cons, List.find?_cons]
      by_cases hk : key r = k
      · subst hk
        by_cases hr : key r = k' <;> simp [hr, hf]
      · by_cases hr : key r = k'
        · subst hr; simp [hf, hk, ih, Ne.symm hk]
        · simp [hr, hk, ih]

/-- A change of rows that keeps the key, seen from a lookup by that key. -/
theorem find_map {f : ρ → ρ} (hf : ∀ r, key (f r) = key r) (k : κ) (t : List ρ) :
    find key k (t.map f) = (find key k t).map f := by
  have hkey : (fun r ↦ decide (key (f r) = k)) = fun r ↦ decide (key r = k) := by
    funext r
    rw [hf]
  rw [find, find, List.find?_map]
  exact congrArg (fun p ↦ Option.map f (t.find? p)) hkey

/-- The row an update was for, looked up afterwards. -/
theorem find_update_self {k : κ} {f : ρ → ρ} (hf : ∀ r, key (f r) = key r) {t : List ρ} {r : ρ}
    (h : find key k t = some r) : find key k (update key k f t) = some (f r) := by
  rw [find_update hf, if_pos rfl, h, Option.map_some]

theorem find_update_of_ne {k k' : κ} {f : ρ → ρ} (hf : ∀ r, key (f r) = key r) (h : k ≠ k')
    (t : List ρ) : find key k (update key k' f t) = find key k t := by
  rw [find_update hf, if_neg h]

/-- Rows that all satisfy a filter, or that all fail it. -/
theorem filter_of_forall {p : ρ → Bool} {t : List ρ} {q : Prop} [Decidable q]
    (h : ∀ r ∈ t, p r = true ↔ q) : t.filter p = if q then t else [] := by
  by_cases hq : q
  · rw [if_pos hq]
    exact List.filter_eq_self.mpr fun r hr ↦ (h r hr).mpr hq
  · rw [if_neg hq]
    exact List.filter_eq_nil_iff.mpr fun r hr hp ↦ hq ((h r hr).mp hp)

/-- A stronger filter that leaves out a row that the weaker one lets through. -/
theorem countP_lt {p q : ρ → Bool} {t : List ρ} (h : ∀ r ∈ t, p r = true → q r = true) {r : ρ}
    (hr : r ∈ t) (hq : q r = true) (hp : p r = false) : t.countP p < t.countP q := by
  induction t with
  | nil => cases hr
  | cons x t ih =>
      obtain ⟨hx, ht⟩ := List.forall_mem_cons.mp h
      have hle : t.countP p ≤ t.countP q := List.countP_mono_left ht
      rw [List.countP_cons, List.countP_cons]
      rcases List.mem_cons.mp hr with rfl | hr
      · rw [hp, hq]
        exact Nat.lt_succ_of_le hle
      · have hlt := ih ht hr
        cases hpx : p x with
        | false => exact Nat.lt_of_lt_of_le hlt (Nat.le_add_right _ _)
        | true =>
            rw [hx hpx]
            exact Nat.succ_lt_succ hlt

/-! ## Sums over tables -/

variable {M : Type} [AddCommGroup M]

/-- An update of one row changes a column sum by that row's change. -/
theorem sum_update (g : ρ → M) {k : κ} {f : ρ → ρ} {t : List ρ} (hn : (t.map key).Nodup) {r : ρ}
    (h : find key k t = some r) :
    ((update key k f t).map g).sum = (t.map g).sum + (g (f r) - g r) := by
  induction t with
  | nil => simp at h
  | cons x t ih =>
      simp only [List.map_cons, List.nodup_cons, List.mem_map, not_exists, not_and] at hn
      by_cases hx : key x = k
      · have hr : x = r := by simpa [find, hx] using h
        subst hr
        have ht : update key k f t = t := by
          rw [update]
          refine (List.map_congr_left fun y hy ↦ ?_).trans (List.map_id _)
          simp [show key y ≠ k from fun e ↦ hn.1 y hy (e.trans hx.symm)]
        simp only [update, List.map_cons, hx, if_true, List.sum_cons] at ht ⊢
        rw [ht]
        abel
      · have ht : find key k t = some r := by simpa [find, hx] using h
        have := ih hn.2 ht
        simp only [update, List.map_cons, hx, if_false, List.sum_cons] at this ⊢
        rw [this]
        abel

/-- Rows that refer to the rows of another table by key split its column sum:
summing the referring rows key by key is summing them all. -/
theorem sum_references {χ : Type} (parent : χ → κ) (w : χ → M) {keys : List κ}
    (hn : keys.Nodup) {cs : List χ} (h : ∀ c ∈ cs, parent c ∈ keys) :
    (keys.map fun k ↦ ((cs.filter fun c ↦ parent c = k).map w).sum).sum = (cs.map w).sum := by
  induction cs with
  | nil => induction keys <;> simp_all
  | cons c cs ih =>
      have hc := h c (by simp)
      rw [List.map_cons, List.sum_cons, ← ih fun x hx ↦ h x (by simp [hx])]
      clear ih h
      induction keys with
      | nil => simp at hc
      | cons k ks ihk =>
          rw [List.nodup_cons] at hn
          simp only [List.map_cons, List.sum_cons]
          by_cases hk : parent c = k
          · have hks : ∀ k' ∈ ks, (((c :: cs).filter fun c ↦ parent c = k').map w).sum =
                ((cs.filter fun c ↦ parent c = k').map w).sum := by
              intro k' hk'
              rw [List.filter_cons_of_neg]
              simpa using fun e : parent c = k' ↦ hn.1 (hk ▸ e ▸ hk')
            rw [List.map_congr_left hks, List.filter_cons_of_pos (by simpa using hk)]
            simp [add_assoc]
          · rw [List.filter_cons_of_neg (by simpa using hk),
              ihk hn.2 ((List.mem_cons.mp hc).resolve_left hk)]
            abel

end Table
