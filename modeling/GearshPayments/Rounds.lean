import Mathlib.Data.List.Nodup
import Mathlib.Data.List.Perm.Subperm
import Mathlib.Order.Nat

/-!
# A queue that is served in rounds

In each round the first `n` of a queue have a turn, and each of them leaves the queue or has one
turn less left; those behind them may leave too, and what is new comes last.  An element that has at
most `N` turns waits for those ahead of it only: if there are fewer than `n * m` of them, it is out
within `N * m` rounds, however many are new (`Rounds.exists_out`).
-/

variable {α : Type*} [DecidableEq α]

/-- Those ahead of an element. -/
def List.ahead (a : α) (queue : List α) : List α := queue.takeWhile (· ≠ a)

namespace List

variable {a b : α} {queue kept new : List α}

@[simp] theorem ahead_cons_self (a : α) (queue : List α) : (a :: queue).ahead a = [] := by
  simp [ahead]

theorem ahead_cons_of_ne (h : b ≠ a) (queue : List α) :
    (b :: queue).ahead a = b :: queue.ahead a := by
  simp [ahead, h]

theorem length_ahead (a : α) (queue : List α) : (queue.ahead a).length = queue.idxOf a := by
  induction queue with
  | nil => rfl
  | cons x queue ih =>
      by_cases hx : x = a
      · subst hx
        simp
      · rw [ahead_cons_of_ne hx, length_cons, ih, idxOf_cons_ne _ hx]

theorem ahead_prefix (a : α) (queue : List α) : queue.ahead a <+: queue :=
  takeWhile_prefix _

theorem ahead_append (ha : a ∈ kept) (new : List α) : (kept ++ new).ahead a = kept.ahead a := by
  induction kept with
  | nil => cases ha
  | cons x kept ih =>
      by_cases hx : x = a
      · subst hx
        simp
      · rw [cons_append, ahead_cons_of_ne hx, ahead_cons_of_ne hx,
          ih ((mem_cons.mp ha).resolve_left (Ne.symm hx))]

/-- Nobody gets ahead of an element when others leave. -/
theorem ahead_sublist (h : kept.Sublist queue) (hqueue : queue.Nodup) (ha : a ∈ kept) :
    (kept.ahead a).Sublist (queue.ahead a) := by
  induction h with
  | slnil => cases ha
  | @cons kept queue x h ih =>
      obtain ⟨hx, hqueue⟩ := nodup_cons.mp hqueue
      have hne : x ≠ a := by
        rintro rfl
        exact hx (h.subset ha)
      rw [ahead_cons_of_ne hne]
      exact (ih hqueue ha).cons x
  | @cons_cons kept queue x h ih =>
      by_cases hx : x = a
      · subst hx
        simp
      · rw [ahead_cons_of_ne hx, ahead_cons_of_ne hx]
        exact (ih (nodup_cons.mp hqueue).2 ((mem_cons.mp ha).resolve_left (Ne.symm hx))).cons_cons x

end List

/-- One round of a queue, in which the first `n` are served. -/
structure Round (n : ℕ) (queue : List α) (left : α → ℕ) (queue' : List α) (left' : α → ℕ) :
    Prop where
  order : ∃ kept new, queue' = kept ++ new ∧ kept.Sublist queue ∧ ∀ a ∈ new, a ∉ queue
  served : ∀ a ∈ queue.take n, a ∈ queue' → left' a < left a

/-- Rounds of a queue in which each element has between one and `N` turns left. -/
structure Rounds (n N K : ℕ) (queue : ℕ → List α) (left : ℕ → α → ℕ) : Prop where
  round : ∀ k < K, Round n (queue k) (left k) (queue (k + 1)) (left (k + 1))
  nodup : ∀ k ≤ K, (queue k).Nodup
  left_pos : ∀ k ≤ K, ∀ a ∈ queue k, 0 < left k a
  left_le : ∀ k ≤ K, ∀ a ∈ queue k, left k a ≤ N

variable {n N K : ℕ} {a b : α}

theorem Round.ahead_subset {queue queue' : List α} {left left' : α → ℕ}
    (h : Round n queue left queue' left') (hqueue : queue.Nodup) (ha : a ∈ queue)
    (ha' : a ∈ queue') : queue'.ahead a ⊆ queue.ahead a := by
  obtain ⟨kept, new, rfl, hkept, hnew⟩ := h.order
  have hmem : a ∈ kept := (List.mem_append.mp ha').resolve_right fun hn ↦ hnew a hn ha
  rw [List.ahead_append hmem]
  exact (List.ahead_sublist hkept hqueue hmem).subset

namespace Rounds

variable {queue : ℕ → List α} {left : ℕ → α → ℕ} (h : Rounds n N K queue left) {k : ℕ}

include h

/-- Nobody gets ahead of an element while it waits. -/
theorem ahead_subset {j : ℕ} (hK : k + j ≤ K) (ha : ∀ i ≤ j, a ∈ queue (k + i)) :
    (queue (k + j)).ahead a ⊆ (queue k).ahead a := by
  induction j with
  | zero => exact List.Subset.refl _
  | succ j ih =>
      have hround := h.round (k + j) (by omega)
      have hlast := hround.ahead_subset (h.nodup _ (by omega)) (ha j (by omega)) (ha (j + 1) (Nat.le_refl _))
      exact fun b hb ↦ ih (by omega) (fun i hi ↦ ha i (by omega)) (hlast hb)

theorem idxOf_le {j : ℕ} (hK : k + j ≤ K) (ha : ∀ i ≤ j, a ∈ queue (k + i)) :
    (queue (k + j)).idxOf a ≤ (queue k).idxOf a := by
  have hnodup : ((queue (k + j)).ahead a).Nodup :=
    (h.nodup _ hK).sublist (List.ahead_prefix a _).sublist
  rw [← List.length_ahead, ← List.length_ahead]
  exact (hnodup.subperm (h.ahead_subset hK ha)).length_le

/-- One of the first is out when it has had its turns. -/
theorem exists_out_of_lt (hK : k + N ≤ K) (hidx : (queue k).idxOf a < n) :
    ∃ j ≤ N, a ∉ queue (k + j) := by
  by_contra hstays
  push Not at hstays
  have hleft : ∀ j ≤ N, left (k + j) a + j ≤ left k a := by
    intro j hj
    induction j with
    | zero => exact Nat.le_refl _
    | succ j ih =>
        have hfirst : a ∈ (queue (k + j)).take n := by
          refine List.mem_take_iff_getElem.mpr ⟨(queue (k + j)).idxOf a, ?_, List.getElem_idxOf _⟩
          have hmem := List.idxOf_lt_length_of_mem (hstays j (by omega))
          have hle := h.idxOf_le (j := j) (by omega) fun i hi ↦ hstays i (by omega)
          omega
        have hserved := (h.round (k + j) (by omega)).served a hfirst (hstays (j + 1) hj)
        have hbefore := ih (by omega)
        change left (k + j + 1) a + (j + 1) ≤ left k a
        omega
  have hall := hleft N (Nat.le_refl N)
  have hpos := h.left_pos (k + N) hK a (hstays N (Nat.le_refl N))
  have hle := h.left_le k (by omega) a (hstays 0 (Nat.zero_le N))
  omega

/-- While an element waits, the first `n` get out of its way. -/
theorem idxOf_add_le (hK : k + N ≤ K) (ha : ∀ j ≤ N, a ∈ queue (k + j))
    (hidx : n ≤ (queue k).idxOf a) : (queue (k + N)).idxOf a + n ≤ (queue k).idxOf a := by
  have hsubset : (queue (k + N)).ahead a ⊆ ((queue k).ahead a).drop n := by
    intro b hb
    have hwaits : ∀ j ≤ N, b ∈ (queue (k + j)).ahead a := by
      intro j hj
      have hlater := h.ahead_subset (k := k + j) (j := N - j) (by omega) fun i hi ↦ by
        rw [Nat.add_assoc]
        exact ha (j + i) (by omega)
      rw [Nat.add_assoc, Nat.add_sub_cancel' hj] at hlater
      exact hlater hb
    have hb₀ : b ∈ (queue k).ahead a := hwaits 0 (Nat.zero_le N)
    rw [← List.take_append_drop n ((queue k).ahead a)] at hb₀
    refine (List.mem_append.mp hb₀).resolve_left fun hfirst ↦ ?_
    obtain ⟨i, hi, rfl⟩ := List.mem_take_iff_getElem.mp hfirst
    have hprefix := List.ahead_prefix a (queue k)
    have hlt : i < (queue k).length := by
      have := hprefix.length_le
      omega
    have hget : ((queue k).ahead a)[i] = (queue k)[i] := hprefix.getElem _
    have hpos : (queue k).idxOf ((queue k).ahead a)[i] < n := by
      rw [hget, (h.nodup k (by omega)).idxOf_getElem]
      omega
    obtain ⟨j, hj, hout⟩ := h.exists_out_of_lt hK hpos
    exact hout ((List.ahead_prefix a _).subset (hwaits j hj))
  have hnodup : ((queue (k + N)).ahead a).Nodup :=
    (h.nodup _ hK).sublist (List.ahead_prefix a _).sublist
  have hle := (hnodup.subperm hsubset).length_le
  rw [List.length_drop, List.length_ahead, List.length_ahead] at hle
  omega

/-- An element with fewer than `n * m` ahead of it is out within `N * m` rounds. -/
theorem exists_out {m : ℕ} (hK : k + N * m ≤ K) (hidx : (queue k).idxOf a < n * m) :
    ∃ j ≤ N * m, a ∉ queue (k + j) := by
  induction m generalizing k with
  | zero => exact absurd hidx (Nat.not_lt_zero _)
  | succ m ih =>
      rw [Nat.mul_succ] at hK hidx ⊢
      by_cases hfirst : (queue k).idxOf a < n
      · obtain ⟨j, hj, hout⟩ := h.exists_out_of_lt (by omega) hfirst
        exact ⟨j, by omega, hout⟩
      · by_contra hstays
        push Not at hstays
        have hahead := h.idxOf_add_le (by omega) (fun j hj ↦ hstays j (by omega))
          (Nat.le_of_not_lt hfirst)
        obtain ⟨j, hj, hout⟩ := ih (k := k + N) (by omega) (by omega)
        refine hout ?_
        rw [Nat.add_assoc]
        exact hstays (N + j) (by omega)

end Rounds
