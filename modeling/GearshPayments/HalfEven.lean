import Mathlib.Algebra.Order.Floor.Ring
import Mathlib.Algebra.Order.Ring.Abs
import Mathlib.Algebra.Ring.Int.Parity
import Mathlib.Tactic.Linarith
import Mathlib.Tactic.NormNum
import Mathlib.Tactic.Ring

/-!
# Rounding to the nearest integer, ties to even

The rounding of bankers and of binary floating point: to the nearest integer, and where two
are equally near, to the even one (`NearestEven`).  Rounding so is monotone, already as a
relation (`NearestEven.mono`), so there is one such integer at most.  `halfEven` computes it;
it commutes with negation, leaves integers alone, and is additive up to one unit.

`halfUp` rounds to a multiple of a unit, and ties upwards.
-/

section Nearest

variable {K : Type} [Field K] [LinearOrder K] [IsStrictOrderedRing K]

/-- `n` is the nearest integer to `x`, or the even one of two. -/
structure NearestEven (x : K) (n : ℤ) : Prop where
  near : |x - n| ≤ 1 / 2
  tie : |x - n| = 1 / 2 → Even n

namespace NearestEven

variable {x y : K} {m n : ℤ}

theorem le_add (h : NearestEven x n) : x ≤ n + 1 / 2 := by
  linarith [(abs_le.mp h.near).2]

theorem sub_le (h : NearestEven x n) : n - 1 / 2 ≤ x := by
  linarith [(abs_le.mp h.near).1]

theorem mono (hm : NearestEven x m) (hn : NearestEven y n) (hxy : x ≤ y) : m ≤ n := by
  by_contra hlt
  have hcast : (n : K) + 1 ≤ m := by exact_mod_cast Int.add_one_le_of_lt (not_le.mp hlt)
  have hx := hm.sub_le
  have hy := hn.le_add
  -- both are ties, of integers next to each other
  have hm' : |x - m| = 1 / 2 := by
    rw [abs_sub_comm, abs_of_nonneg (by linarith)]
    linarith
  have hn' : |y - n| = 1 / 2 := by
    rw [abs_of_nonneg (by linarith)]
    linarith
  have hsucc : m = n + 1 := by
    have heq : (m : K) = n + 1 := by linarith
    exact_mod_cast heq
  have heven := hm.tie hm'
  rw [hsucc, Int.even_add_one] at heven
  exact heven (hn.tie hn')

theorem unique (hm : NearestEven x m) (hn : NearestEven x n) : m = n :=
  le_antisymm (hm.mono hn le_rfl) (hn.mono hm le_rfl)

omit [IsStrictOrderedRing K] in
theorem neg (h : NearestEven x n) : NearestEven (-x) (-n) := by
  have habs : |-x - (-n : ℤ)| = |x - n| := by
    rw [Int.cast_neg, neg_sub_neg, abs_sub_comm]
  constructor
  · rw [habs]
    exact h.near
  · rw [habs]
    exact fun ht ↦ (h.tie ht).neg

theorem intCast (n : ℤ) : NearestEven (n : K) n := by
  have hzero : |(n : K) - n| = 0 := by rw [sub_self, abs_zero]
  constructor
  · rw [hzero]
    norm_num
  · rw [hzero]
    intro h
    norm_num at h

omit [IsStrictOrderedRing K] in
/-- Strictly nearer than half a unit. -/
theorem of_lt (h : |x - n| < 1 / 2) : NearestEven x n :=
  ⟨h.le, fun ht ↦ absurd ht h.ne⟩

/-- Rounding is additive up to one unit. -/
theorem abs_add_sub_le {k : ℤ} (hm : NearestEven x m) (hn : NearestEven y n)
    (hk : NearestEven (x + y) k) : |k - (m + n)| ≤ 1 := by
  have hlt : |((k - (m + n) : ℤ) : K)| < 2 := by
    push_cast
    rw [abs_lt]
    constructor
    · linarith [hm.sub_le, hn.sub_le, hk.le_add]
    · linarith [hm.le_add, hn.le_add, hk.sub_le]
  have hlt' : |k - (m + n)| < 2 := by exact_mod_cast hlt
  omega

end NearestEven

end Nearest

section HalfEven

variable {K : Type} [Field K] [LinearOrder K] [IsStrictOrderedRing K] [FloorRing K]

/-- Round to the nearest integer, a tie to the even one. -/
def halfEven (x : K) : ℤ :=
  if x - ⌊x⌋ < 1 / 2 then ⌊x⌋
  else if 1 / 2 < x - ⌊x⌋ then ⌊x⌋ + 1
  else if Even ⌊x⌋ then ⌊x⌋
  else ⌊x⌋ + 1

theorem nearestEven_halfEven (x : K) : NearestEven x (halfEven x) := by
  have hfloor := Int.floor_le x
  have hlt := Int.lt_floor_add_one x
  have hbelow : |x - ⌊x⌋| = x - ⌊x⌋ := abs_of_nonneg (by linarith)
  have habove : |x - (⌊x⌋ + 1 : ℤ)| = ⌊x⌋ + 1 - x := by
    push_cast
    rw [abs_of_nonpos (by linarith), neg_sub]
  unfold halfEven
  split_ifs with h h' heven
  · exact .of_lt (by rwa [hbelow])
  · refine .of_lt ?_
    rw [habove]
    linarith
  · refine ⟨?_, fun _ ↦ heven⟩
    rw [hbelow]
    exact not_lt.mp h'
  · refine ⟨?_, fun _ ↦ Int.even_add_one.mpr heven⟩
    rw [habove]
    linarith [not_lt.mp h]

theorem halfEven_eq_iff {x : K} {n : ℤ} : halfEven x = n ↔ NearestEven x n := by
  constructor
  · rintro rfl
    exact nearestEven_halfEven x
  · exact fun h ↦ (nearestEven_halfEven x).unique h

theorem halfEven_le_iff {x : K} {n : ℤ} :
    halfEven x ≤ n ↔ x < n + 1 / 2 ∨ x = n + 1 / 2 ∧ Even n := by
  have hround := nearestEven_halfEven x
  constructor
  · intro h
    have hcast : (halfEven x : K) ≤ n := by exact_mod_cast h
    have hle : x ≤ n + 1 / 2 := by linarith [hround.le_add]
    refine hle.lt_or_eq.imp id fun heq ↦ ⟨heq, ?_⟩
    have hn : halfEven x = n := by
      have hge : (n : K) ≤ halfEven x := by linarith [hround.le_add]
      exact h.antisymm (by exact_mod_cast hge)
    rw [hn] at hround
    refine hround.tie ?_
    rw [heq, add_sub_cancel_left, abs_of_pos (by norm_num)]
  · rintro (hlt | ⟨heq, heven⟩)
    · have hcast : (halfEven x : K) < n + 1 := by linarith [hround.sub_le]
      exact Int.lt_add_one_iff.mp (by exact_mod_cast hcast)
    · refine le_of_eq (halfEven_eq_iff.mpr ⟨?_, fun _ ↦ heven⟩)
      rw [heq, add_sub_cancel_left, abs_of_pos (by norm_num)]

theorem halfEven_mono {x y : K} (h : x ≤ y) : halfEven x ≤ halfEven y :=
  (nearestEven_halfEven x).mono (nearestEven_halfEven y) h

@[simp] theorem halfEven_intCast (n : ℤ) : halfEven (n : K) = n :=
  halfEven_eq_iff.mpr (.intCast n)

theorem halfEven_neg (x : K) : halfEven (-x) = -halfEven x :=
  halfEven_eq_iff.mpr (nearestEven_halfEven x).neg

@[simp] theorem halfEven_zero : halfEven (0 : K) = 0 := by
  exact_mod_cast halfEven_intCast (K := K) 0

theorem halfEven_nonneg {x : K} (h : 0 ≤ x) : 0 ≤ halfEven x := by
  have hmono := halfEven_mono h
  rwa [halfEven_zero] at hmono

/-- Rounding is additive up to one unit. -/
theorem abs_halfEven_add_sub_le (x y : K) :
    |halfEven (x + y) - (halfEven x + halfEven y)| ≤ 1 :=
  (nearestEven_halfEven x).abs_add_sub_le (nearestEven_halfEven y) (nearestEven_halfEven (x + y))

end HalfEven

section HalfUp

variable {K : Type} [Field K] [LinearOrder K] [IsStrictOrderedRing K] [FloorRing K]

/-- Round to a multiple of `u`, a tie upwards. -/
def halfUp (u x : K) : K := ⌊x / u + 1 / 2⌋ * u

section

variable {u : K} (hu : 0 < u) (x : K) (k : ℤ)

include hu

theorem halfUp_lt_iff : halfUp u x < k * u ↔ x < k * u - u / 2 := by
  have hscale : x / u + 1 / 2 < k ↔ x < k * u - u / 2 := by
    rw [← lt_sub_iff_add_lt, div_lt_iff₀ hu, sub_mul, one_div_mul_eq_div]
  rw [halfUp, mul_lt_mul_iff_left₀ hu, Int.cast_lt, Int.floor_lt, hscale]

theorem halfUp_le_iff : halfUp u x ≤ k * u ↔ x < k * u + u / 2 := by
  have hsucc : halfUp u x ≤ k * u ↔ halfUp u x < (k + 1 : ℤ) * u := by
    rw [halfUp, mul_le_mul_iff_left₀ hu, mul_lt_mul_iff_left₀ hu, Int.cast_le, Int.cast_lt,
      Int.lt_add_one_iff]
  have hhalf : ((k + 1 : ℤ) * u - u / 2 : K) = k * u + u / 2 := by
    push_cast
    ring
  rw [hsucc, halfUp_lt_iff hu, hhalf]

/-- What is rounded to a multiple of the unit. -/
theorem halfUp_eq_iff : halfUp u x = k * u ↔ k * u - u / 2 ≤ x ∧ x < k * u + u / 2 := by
  have hge := (halfUp_lt_iff hu x k).not
  rw [not_lt, not_lt] at hge
  rw [← halfUp_le_iff hu, ← hge, le_antisymm_iff, and_comm]

end

@[simp] theorem halfUp_zero (u : K) : halfUp u 0 = 0 := by
  have hfloor : ⌊(0 / u + 1 / 2 : K)⌋ = 0 := by
    rw [zero_div, zero_add, Int.floor_eq_zero_iff]
    constructor <;> norm_num
  rw [halfUp, hfloor, Int.cast_zero, zero_mul]

end HalfUp
