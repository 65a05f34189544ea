import GearshPayments.HalfEven

/-!
# Rounding twice

A value is rounded to a multiple of a unit, a tie upwards (`halfUp`), and the result to an
integer, a tie to the even one.  The first rounding can move a value to a tie it was not at, from
which the second one goes the wrong way, or it can move a value past a tie.  When this happens
depends on how the unit and one half compare: either one half is a multiple of the unit
(`halfEven_halfUp_fine`), or the unit is one (`halfEven_halfUp_one`), or it is even
(`halfEven_halfUp_coarse`).
-/

section Twice

variable {K : Type} [Field K] [LinearOrder K] [IsStrictOrderedRing K] [FloorRing K]

/-- The value is not moved to a tie from the side to which the tie then goes back: neither from
just below a tie that goes up, nor from just above one that goes down. -/
structure AwayFromTies (u x : K) : Prop where
  below : ∀ n : ℤ, Odd n → ¬(n + 1 / 2 - u / 2 ≤ x ∧ x < n + 1 / 2)
  above : ∀ n : ℤ, Even n → ¬(n + 1 / 2 < x ∧ x < n + 1 / 2 + u / 2)

variable {u x : K}

/-- Where one half is a multiple of the unit. -/
theorem halfEven_halfUp_fine (hu : 0 < u) {k : ℤ} (hk : (1 / 2 : K) = k * u) :
    halfEven (halfUp u x) = halfEven x ↔ AwayFromTies u x := by
  -- every tie is a multiple of the unit
  have htie : ∀ n : ℤ, (n + 1 / 2 : K) = ((2 * n + 1) * k : ℤ) * u := by
    intro n
    push_cast
    rw [mul_assoc, ← hk]
    ring
  have hup : ∀ n : ℤ, halfEven (halfUp u x) ≤ n ↔
      x < n + 1 / 2 - u / 2 ∨ x < n + 1 / 2 + u / 2 ∧ Even n := by
    intro n
    rw [halfEven_le_iff, htie, halfUp_lt_iff hu, halfUp_eq_iff hu]
    constructor
    · exact Or.imp id fun h ↦ ⟨h.1.2, h.2⟩
    · rintro (h | ⟨h, heven⟩)
      · exact .inl h
      · exact (lt_or_ge _ _).imp id fun hge ↦ ⟨⟨hge, h⟩, heven⟩
  constructor
  · intro heq
    constructor
    · rintro n hodd ⟨hle, hlt⟩
      have hbelow : halfEven x ≤ n := halfEven_le_iff.mpr (.inl hlt)
      rw [← heq, hup] at hbelow
      obtain h | ⟨-, heven⟩ := hbelow
      · exact absurd h hle.not_gt
      · exact Int.not_even_iff_odd.mpr hodd heven
    · rintro n heven ⟨hlt, hlt'⟩
      have hbelow : halfEven (halfUp u x) ≤ n := (hup n).mpr (.inr ⟨hlt', heven⟩)
      rw [heq, halfEven_le_iff] at hbelow
      obtain h | ⟨h, -⟩ := hbelow
      · exact lt_asymm h hlt
      · exact hlt.ne' h
  · intro haway
    refine eq_of_forall_ge_iff fun n ↦ ?_
    rw [hup, halfEven_le_iff]
    constructor
    · rintro (h | ⟨h, heven⟩)
      · exact .inl (by linarith)
      · have hle : x ≤ n + 1 / 2 := not_lt.mp fun hgt ↦ haway.above n heven ⟨hgt, h⟩
        exact hle.lt_or_eq.imp id fun heq ↦ ⟨heq, heven⟩
    · rintro (h | ⟨h, heven⟩)
      · rcases Int.even_or_odd n with heven | hodd
        · exact .inr ⟨by linarith, heven⟩
        · exact .inl (not_le.mp fun hge ↦ haway.below n hodd ⟨hge, h⟩)
      · exact .inr ⟨by linarith, heven⟩

/-- Where the unit is one: it decides ties the other way. -/
theorem halfEven_halfUp_one :
    halfEven (halfUp 1 x) = halfEven x ↔ ∀ n : ℤ, Even n → x ≠ n + 1 / 2 := by
  have hup : ∀ n : ℤ, halfEven (halfUp 1 x) ≤ n ↔ x < n + 1 / 2 := by
    intro n
    have hle := halfUp_le_iff one_pos x n
    rw [mul_one] at hle
    rw [halfUp, mul_one, halfEven_intCast, ← Int.cast_le (R := K), ← hle, halfUp, mul_one]
  constructor
  · rintro heq n heven rfl
    have hbelow : halfEven (n + 1 / 2 : K) ≤ n := halfEven_le_iff.mpr (.inr ⟨rfl, heven⟩)
    rw [← heq, hup] at hbelow
    exact lt_irrefl _ hbelow
  · intro htie
    refine eq_of_forall_ge_iff fun n ↦ ?_
    rw [hup, halfEven_le_iff]
    constructor
    · exact .inl
    · rintro (h | ⟨h, heven⟩)
      · exact h
      · exact absurd h (htie n heven)

/-- Where the unit is even. -/
theorem halfEven_halfUp_coarse {m : ℤ} (hm : 0 < m) (hu : u = 2 * m) :
    halfEven (halfUp u x) = halfEven x ↔ ∃ j : ℤ, |x - j * u| ≤ 1 / 2 := by
  have hcast : (1 : K) ≤ m := by exact_mod_cast hm
  have hpos : 0 < u := by linarith
  have hmul : ∀ j : ℤ, (j * u : K) = (j * (2 * m) : ℤ) := by
    intro j
    rw [hu]
    push_cast
    ring
  constructor
  · intro heq
    refine ⟨⌊x / u + 1 / 2⌋, ?_⟩
    have hnear := (nearestEven_halfEven x).near
    rwa [← heq, halfUp, hmul, halfEven_intCast, ← hmul] at hnear
  · rintro ⟨j, hj⟩
    have hj' := abs_le.mp hj
    have hup : halfUp u x = j * u := by
      rw [halfUp_eq_iff hpos]
      constructor <;> linarith
    rw [hup, hmul, halfEven_intCast, eq_comm, halfEven_eq_iff]
    rw [hmul] at hj
    refine ⟨hj, fun _ ↦ ?_⟩
    exact ⟨j * m, by ring⟩

end Twice
