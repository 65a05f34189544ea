import Mathlib.Data.List.Infix
import Mathlib.Data.List.TakeWhile

/-!
# Runs in lists

A run is a stretch of consecutive entries that satisfy a predicate.  Here every run of `n` or
more entries is replaced by a mask, as `s.replace(/\d{8,}/g, mask)` does with eight or more
digits.  If no entry of the mask satisfies the predicate then no such run is left, and a list
without one stays as it is.
-/

namespace Runs

variable {α : Type*} (p : α → Bool) (n : ℕ)

/-- The list has `n` or more consecutive entries that satisfy `p`. -/
def HasRun (s : List α) : Prop := ∃ t, t <:+: s ∧ n ≤ t.length ∧ ∀ a ∈ t, p a = true

/-- The length of the run at the start of a list. -/
def leading (s : List α) : ℕ := (s.takeWhile p).length

/-- Replace runs, after passing over the first entries. -/
def replaceFrom (mask : List α) : ℕ → List α → List α
  | _, [] => []
  | k + 1, _ :: s => replaceFrom mask k s
  | 0, a :: s =>
    if n ≤ leading p (a :: s) then mask ++ replaceFrom mask (leading p (a :: s) - 1) s
    else a :: replaceFrom mask 0 s

/-- Replace every run of at least `n` entries, from the left, each as far as it goes. -/
def replaceRuns (mask s : List α) : List α := replaceFrom p n mask 0 s

variable {p n} {a : α} {s mask : List α}

@[simp] theorem leading_cons_of_pos (h : p a = true) : leading p (a :: s) = leading p s + 1 := by
  rw [leading, List.takeWhile_cons_of_pos h, List.length_cons, leading]

@[simp] theorem leading_cons_of_neg (h : p a = false) : leading p (a :: s) = 0 := by
  rw [leading, List.takeWhile_cons_of_neg (by rw [h]; exact Bool.false_ne_true), List.length_nil]

theorem not_hasRun_nil (hn : 0 < n) : ¬HasRun p n [] := by
  rintro ⟨t, ht, hlen, -⟩
  rw [List.infix_nil.mp ht, List.length_nil] at hlen
  omega

/-- A run starts at the head of the list or later. -/
theorem hasRun_cons : HasRun p n (a :: s) ↔ n ≤ leading p (a :: s) ∨ HasRun p n s := by
  constructor
  · rintro ⟨t, ht, hlen, hall⟩
    rcases List.infix_cons_iff.mp ht with hpre | htail
    · refine Or.inl (hlen.trans ?_)
      obtain ⟨rest, heq⟩ := hpre
      rw [leading, ← heq, List.takeWhile_append_of_pos hall, List.length_append]
      exact Nat.le_add_right _ _
    · exact Or.inr ⟨t, htail, hlen, hall⟩
  · rintro (hlead | ⟨t, ht, hlen, hall⟩)
    · exact ⟨_, (List.takeWhile_prefix p).isInfix, hlead, fun _ h ↦ List.mem_takeWhile_imp h⟩
    · exact ⟨t, ht.trans (List.suffix_cons a s).isInfix, hlen, hall⟩

theorem not_hasRun_append (hn : 0 < n) (hmask : ∀ a ∈ mask, p a = false) (h : ¬HasRun p n s) :
    ¬HasRun p n (mask ++ s) := by
  induction mask with
  | nil => exact h
  | cons m ms ih =>
      obtain ⟨hm, hms⟩ := List.forall_mem_cons.mp hmask
      rw [List.cons_append, hasRun_cons, leading_cons_of_neg hm]
      rintro (hlead | hrun)
      · omega
      · exact ih hms hrun

/-- Replacing does not make the run at the start longer. -/
theorem leading_replaceRuns_le (hne : mask ≠ []) (hmask : ∀ a ∈ mask, p a = false) (s : List α) :
    leading p (replaceRuns p n mask s) ≤ leading p s := by
  induction s with
  | nil => exact le_rfl
  | cons a s ih =>
      rw [replaceRuns, replaceFrom]
      split
      · obtain ⟨m, ms, rfl⟩ := List.exists_cons_of_ne_nil hne
        rw [List.cons_append, leading_cons_of_neg (hmask m List.mem_cons_self)]
        exact Nat.zero_le _
      · cases ha : p a with
        | true =>
            rw [leading_cons_of_pos ha, leading_cons_of_pos ha]
            exact Nat.succ_le_succ ih
        | false =>
            rw [leading_cons_of_neg ha, leading_cons_of_neg ha]

theorem not_hasRun_replaceFrom (hn : 0 < n) (hne : mask ≠ []) (hmask : ∀ a ∈ mask, p a = false)
    (k : ℕ) (s : List α) : ¬HasRun p n (replaceFrom p n mask k s) := by
  induction s generalizing k with
  | nil =>
      rw [replaceFrom]
      exact not_hasRun_nil hn
  | cons a s ih =>
      cases k with
      | succ k =>
          rw [replaceFrom]
          exact ih k
      | zero =>
          rw [replaceFrom]
          split
          case isTrue => exact not_hasRun_append hn hmask (ih _)
          case isFalse hshort =>
            have hrest : leading p (replaceFrom p n mask 0 s) ≤ leading p s :=
              leading_replaceRuns_le hne hmask s
            rw [hasRun_cons]
            rintro (hlead | hrun)
            · cases ha : p a with
              | true =>
                  rw [leading_cons_of_pos ha] at hlead hshort
                  omega
              | false =>
                  rw [leading_cons_of_neg ha] at hlead
                  omega
            · exact ih 0 hrun

/-- No run of that length is left. -/
theorem not_hasRun_replaceRuns (hn : 0 < n) (hne : mask ≠ []) (hmask : ∀ a ∈ mask, p a = false)
    (s : List α) : ¬HasRun p n (replaceRuns p n mask s) :=
  not_hasRun_replaceFrom hn hne hmask 0 s

/-- Without a run of that length there is nothing to replace. -/
theorem replaceRuns_of_not_hasRun (h : ¬HasRun p n s) : replaceRuns p n mask s = s := by
  induction s with
  | nil => rfl
  | cons a s ih =>
      rw [hasRun_cons, not_or] at h
      rw [replaceRuns, replaceFrom, if_neg h.1]
      exact congrArg (a :: ·) (ih h.2)

end Runs
