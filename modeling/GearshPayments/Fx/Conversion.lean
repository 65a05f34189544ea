import GearshPayments.DoubleRounding
import GearshPayments.Fx.Exact
import GearshPayments.Fx.Service
import GearshPayments.Resumption.Run
import GearshPayments.Store.Tx
import Mathlib.Data.Int.Log

/-!
# Converting at a rate

The product of an amount and a rate is rounded to 20 digits and then to whole cents.  The digits
of the helper's own `minus` and `plus` never run out on such a product
(`roundHalfToEven20_round20`), so that the two roundings are all there is.  The amount converted
is the exact product, rounded half to even, where that is clear of ties
(`convertCurrency_exact_iff`).
-/

namespace GearshPayments

namespace Decimal

/-- The unit of the 20th significant digit. -/
def unit20 (q : ℚ) : ℚ := 10 ^ (magnitude q - 19)

theorem unit20_pos (q : ℚ) : 0 < unit20 q := zpow_pos (by norm_num) _

theorem magnitude_eq_log (q : ℚ) : magnitude q = Int.log 10 |q| := rfl

theorem round20_of_nonneg {q : ℚ} (hq : 0 ≤ q) : round20 q = halfUp (unit20 q) q := by
  unfold round20
  split_ifs with hzero hpos
  · rw [hzero, halfUp_zero]
  · have hdiv : 0 ≤ q / unit20 q + 1 / 2 :=
      add_nonneg (div_nonneg hq (unit20_pos q).le) (by norm_num)
    rw [one_mul, abs_of_nonneg hq, halfUp, ← natCast_floor_eq_intCast_floor hdiv]
    rfl
  · exact absurd (hq.lt_of_ne' hzero) hpos

/-! ## Values of 20 digits -/

/-- A multiple of its own unit is not rounded. -/
theorem round20_of_multiple {q : ℚ} (hq : 0 ≤ q) {k : ℤ} (hk : q = k * unit20 q) :
    round20 q = q := by
  have hu := unit20_pos q
  have hround : halfUp (unit20 q) q = k * unit20 q := by
    rw [halfUp_eq_iff hu]
    constructor <;> linarith
  rw [round20_of_nonneg hq, hround, ← hk]

/-- What is written with 20 digits is not rounded. -/
theorem round20_digits {n : ℕ} (hn : n ≤ 10 ^ 20) (z : ℤ) :
    round20 (n * 10 ^ z) = n * 10 ^ z := by
  rcases n.eq_zero_or_pos with rfl | hpos
  · rw [Nat.cast_zero, zero_mul, round20, if_pos rfl]
  have hten : (0 : ℚ) < 10 ^ z := zpow_pos (by norm_num) z
  have hq : (0 : ℚ) < n * 10 ^ z := mul_pos (by exact_mod_cast hpos) hten
  have hlow : (10 : ℚ) ^ magnitude (n * 10 ^ z) ≤ n * 10 ^ z := by
    rw [magnitude_eq_log, abs_of_pos hq]
    exact_mod_cast Int.zpow_log_le_self (b := 10) (by norm_num) hq
  have hhigh : (n * 10 ^ z : ℚ) ≤ 10 ^ (z + 20) := by
    have hcast : (n : ℚ) ≤ 10 ^ 20 := by exact_mod_cast hn
    rw [zpow_add₀ (by norm_num), mul_comm]
    exact mul_le_mul_of_nonneg_left (by exact_mod_cast hcast) hten.le
  have hle : magnitude (n * 10 ^ z) ≤ z + 20 :=
    (zpow_le_zpow_iff_right₀ (by norm_num : (1 : ℚ) < 10)).mp (hlow.trans hhigh)
  rcases hle.lt_or_eq with hlt | heq
  · -- the unit is a power of ten below that of the last digit
    obtain ⟨m, hm⟩ := Int.eq_ofNat_of_zero_le
      (show 0 ≤ z - (magnitude (n * 10 ^ z) - 19) by omega)
    refine round20_of_multiple hq.le (k := n * 10 ^ m) ?_
    have hz : z = m + (magnitude (n * 10 ^ z) - 19) := by omega
    have hsplit : (10 : ℚ) ^ z = 10 ^ m * unit20 (n * 10 ^ z) := by
      rw [unit20, ← zpow_natCast, ← zpow_add₀ (by norm_num), ← hz]
    push_cast
    rw [mul_assoc, ← hsplit]
  · -- the carry into a digit more
    rw [heq] at hlow
    have hsplit : (10 : ℚ) ^ (z + 20) = 10 ^ (19 : ℤ) * 10 ^ (z + 20 - 19) := by
      rw [← zpow_add₀ (by norm_num)]
      congr 1
      omega
    refine round20_of_multiple hq.le (k := 10 ^ 19) ?_
    rw [unit20, heq, hlow.antisymm' hhigh, hsplit]
    norm_cast

/-- What has been rounded is written with 20 digits. -/
theorem exists_digits (q : ℚ) : ∃ n : ℕ, n ≤ 10 ^ 20 ∧ ∃ z : ℤ, |round20 q| = n * 10 ^ z := by
  by_cases hzero : q = 0
  · refine ⟨0, Nat.zero_le _, 0, ?_⟩
    rw [round20, if_pos hzero, abs_zero, Nat.cast_zero, zero_mul]
  have hq : 0 < |q| := abs_pos.mpr hzero
  have hu := unit20_pos q
  refine ⟨⌊|q| / unit20 q + 1 / 2⌋₊, ?_, magnitude q - 19, ?_⟩
  · have hlt : |q| < 10 ^ 20 * unit20 q := by
      have hlog := Int.lt_zpow_succ_log_self (b := 10) (by norm_num) |q|
      have hpow : ((10 : ℕ) : ℚ) ^ (Int.log 10 |q| + 1) = 10 ^ 20 * unit20 q := by
        rw [unit20, magnitude_eq_log, ← zpow_natCast, ← zpow_add₀ (by norm_num)]
        push_cast
        congr 1
        omega
      rwa [hpow] at hlog
    rw [← div_lt_iff₀ hu] at hlt
    refine Nat.lt_succ_iff.mp ((Nat.floor_lt' (Nat.succ_ne_zero _)).mpr ?_)
    push_cast
    linarith
  · have hsign : |(if 0 < q then 1 else -1 : ℚ)| = 1 := by
      split
      · exact abs_one
      · rw [abs_neg, abs_one]
    rw [round20, if_neg hzero, abs_mul, hsign, one_mul]
    exact abs_of_nonneg (mul_nonneg (Nat.cast_nonneg _) hu.le)

/-- `a.minus(b)`. -/
def minus (a b : ℚ) : ℚ := round20 (a - b)

/-- `a.plus(b)`. -/
def plus (a b : ℚ) : ℚ := round20 (a + b)

end Decimal

/-- `roundHalfToEven` with the library's `minus` and `plus`. -/
def roundHalfToEven20 (value : ℚ) : ℚ :=
  let floor := ⌊|value|⌋
  let frac := Decimal.minus |value| floor
  let rounded : ℚ :=
    if frac < 1 / 2 then floor
    else if frac > 1 / 2 then Decimal.plus floor 1
    else if floor % 2 = 0 then floor
    else Decimal.plus floor 1
  if value < 0 then -rounded else rounded

namespace Decimal

/-- The fraction of a value of 20 digits is one too; if it is not zero, so is the integer above
the value. -/
theorem minus_plus_floor {q : ℚ} {n : ℕ} (hn : n ≤ 10 ^ 20) {z : ℤ} (hq : q = n * 10 ^ z) :
    minus q ⌊q⌋ = q - ⌊q⌋ ∧ (¬minus q ⌊q⌋ < 1 / 2 → plus ⌊q⌋ 1 = ⌊q⌋ + 1) := by
  obtain ⟨m, rfl | rfl⟩ := z.eq_nat_or_neg
  · have hint : q = (n * 10 ^ m : ℕ) := by
      rw [hq, zpow_natCast]
      push_cast
      rfl
    have hfrac : minus q ⌊q⌋ = 0 := by
      rw [minus, hint, Int.floor_natCast, Int.cast_natCast, sub_self, round20, if_pos rfl]
    have hsub : q - ⌊q⌋ = 0 := by
      rw [hint, Int.floor_natCast, Int.cast_natCast, sub_self]
    refine ⟨hfrac.trans hsub.symm, fun h ↦ absurd ?_ h⟩
    rw [hfrac]
    norm_num
  · have hdiv : q = (n : ℚ) / (10 ^ m : ℕ) := by
      rw [hq, zpow_neg, zpow_natCast, ← div_eq_mul_inv]
      push_cast
      rfl
    have hfloor : ⌊q⌋ = (n / 10 ^ m : ℕ) := by
      rw [hdiv, Rat.floor_natCast_div_natCast]
      push_cast
      rfl
    have hten : ((10 ^ m : ℕ) : ℚ) ≠ 0 := by positivity
    have hsub : q - ⌊q⌋ = (n % 10 ^ m : ℕ) * 10 ^ (-m : ℤ) := by
      have hcast : (n : ℚ) = (10 ^ m : ℕ) * (n / 10 ^ m : ℕ) + (n % 10 ^ m : ℕ) := by
        exact_mod_cast (Nat.div_add_mod n (10 ^ m)).symm
      rw [hfloor, Int.cast_natCast, hdiv, sub_eq_iff_eq_add, div_eq_iff hten, hcast, zpow_neg,
        zpow_natCast]
      field_simp
      push_cast
      ring
    have hfrac : minus q ⌊q⌋ = q - ⌊q⌋ := by
      rw [minus, hsub, round20_digits ((Nat.mod_le _ _).trans hn)]
    refine ⟨hfrac, fun h ↦ ?_⟩
    have hne : n % 10 ^ m ≠ 0 := by
      intro hmod
      rw [hfrac, hsub, hmod, Nat.cast_zero, zero_mul] at h
      norm_num at h
    have hle : n / 10 ^ m + 1 ≤ 10 ^ 20 := by
      have hmod := Nat.div_add_mod n (10 ^ m)
      have hmul := Nat.le_mul_of_pos_left (n / 10 ^ m) (show 0 < 10 ^ m by positivity)
      omega
    have hround := round20_digits hle 0
    rw [zpow_zero, mul_one] at hround
    rw [plus, hfloor, Int.cast_natCast]
    exact_mod_cast hround

end Decimal

/-- The helper rounds a product as if its own operations were exact. -/
theorem roundHalfToEven20_round20 (q : ℚ) :
    roundHalfToEven20 (Decimal.round20 q) = roundHalfToEven (Decimal.round20 q) := by
  obtain ⟨n, hn, z, hz⟩ := Decimal.exists_digits q
  obtain ⟨hminus, hplus⟩ := Decimal.minus_plus_floor hn hz
  by_cases hlt : Decimal.minus |Decimal.round20 q| ⌊|Decimal.round20 q|⌋ < 1 / 2
  · simp only [roundHalfToEven20, roundHalfToEven, ← hminus, if_pos hlt]
    split_ifs
    · rw [Int.cast_neg]
    · rfl
  · simp only [roundHalfToEven20, roundHalfToEven, ← hminus, if_neg hlt, hplus hlt]
    split_ifs <;> push_cast <;> rfl

/-! ## When the two roundings agree -/

namespace Decimal

/-- Where the 20th digit is behind the point, the product is away from ties; where it is the last
before the point, the product is not a tie that goes down; where it is further to the left, the
product is within one half of a multiple of its unit. -/
def ClearOfTies (q : ℚ) : Prop :=
  if unit20 q < 1 then AwayFromTies (unit20 q) q
  else if unit20 q = 1 then ∀ n : ℤ, Even n → q ≠ n + 1 / 2
  else ∃ j : ℤ, |q - j * unit20 q| ≤ 1 / 2

theorem half_eq_of_unit20_lt {q : ℚ} (h : unit20 q < 1) : ∃ k : ℤ, (1 / 2 : ℚ) = k * unit20 q := by
  have hneg : magnitude q - 19 < 0 := by
    by_contra hge
    exact h.not_ge (one_le_zpow₀ (by norm_num) (not_lt.mp hge))
  obtain ⟨m, hm⟩ := Int.eq_ofNat_of_zero_le (show 0 ≤ -(magnitude q - 19) - 1 by omega)
  have hexp : magnitude q - 19 = -((m + 1 : ℕ) : ℤ) := by omega
  refine ⟨5 * 10 ^ m, ?_⟩
  rw [unit20, hexp, zpow_neg, zpow_natCast, pow_succ]
  push_cast
  field_simp
  norm_num

theorem unit20_eq_of_one_lt {q : ℚ} (h : 1 < unit20 q) :
    ∃ m : ℤ, 0 < m ∧ unit20 q = 2 * m := by
  have hpos : 0 < magnitude q - 19 := by
    by_contra hle
    exact h.not_ge (zpow_le_one_of_nonpos₀ (by norm_num) (not_lt.mp hle))
  obtain ⟨m, hm⟩ := Int.eq_ofNat_of_zero_le (show 0 ≤ magnitude q - 19 - 1 by omega)
  have hexp : magnitude q - 19 = (m + 1 : ℕ) := by omega
  refine ⟨5 * 10 ^ m, by positivity, ?_⟩
  rw [unit20, hexp, zpow_natCast, pow_succ]
  push_cast
  ring

theorem halfEven_round20 {q : ℚ} (hq : 0 ≤ q) :
    halfEven (round20 q) = halfEven q ↔ ClearOfTies q := by
  rw [round20_of_nonneg hq, ClearOfTies]
  split_ifs with hlt hone
  · obtain ⟨k, hk⟩ := half_eq_of_unit20_lt hlt
    exact halfEven_halfUp_fine (unit20_pos q) hk
  · rw [hone]
    exact halfEven_halfUp_one
  · obtain ⟨m, hm, hu⟩ := unit20_eq_of_one_lt ((not_lt.mp hlt).lt_of_ne' hone)
    exact halfEven_halfUp_coarse hm hu

/-- What is written with 20 digits is clear of ties. -/
theorem clearOfTies_digits {n : ℕ} (hn : n ≤ 10 ^ 20) (z : ℤ) :
    ClearOfTies (n * 10 ^ z) := by
  have hnonneg : (0 : ℚ) ≤ n * 10 ^ z :=
    mul_nonneg (Nat.cast_nonneg n) (zpow_pos (by norm_num) z).le
  rw [← halfEven_round20 hnonneg, round20_digits hn]

end Decimal

/-! ## The conversion -/

/-- The rate of a pair at present, and its time. -/
def Store.effectiveRate (s : Store) (fromCurrency toCurrency : Currency) : Option (ℚ × ℕ) :=
  match s.fxRateOverride? fromCurrency toCurrency with
  | some o => some (o.rate, o.updatedAt)
  | none => (s.latestRate fromCurrency toCurrency s.clock).map fun r ↦ (r.rate, r.asOf)

/-- A conversion in a store in which nothing changes. -/
theorem FxService.run_convertCurrency {fromCurrency toCurrency : Currency}
    (hne : fromCurrency ≠ toCurrency) {s : Store} {rate : ℚ} {rateAsOf : ℕ}
    (hrate : s.effectiveRate fromCurrency toCurrency = some (rate, rateAsOf)) (amountCents : ℤ)
    (answers : ℕ → HttpOutcome) :
    (convertCurrency amountCents fromCurrency toCurrency).run (.healthy answers) s =
      ⟨.ok (converted amountCents fromCurrency toCurrency rate rateAsOf), s, .healthy answers,
        []⟩ := by
  rw [Store.effectiveRate] at hrate
  cases hpin : s.fxRateOverride? fromCurrency toCurrency with
  | some o =>
      rw [hpin] at hrate
      cases hrate
      simp only [convertCurrency, if_neg hne, Resumption.run_bind, Resumption.run_read_healthy,
        Resumption.Run.andThen, hpin]
      rfl
  | none =>
      rw [hpin] at hrate
      obtain ⟨r, hr, hrow⟩ := Option.map_eq_some_iff.mp hrate
      cases hrow
      simp only [convertCurrency, if_neg hne, Resumption.run_bind, Resumption.run_read_healthy,
        Resumption.Run.andThen, hpin, hr]
      rfl

/-- A conversion between two currencies returns the exact product, rounded half to even, where
that is clear of ties, and only there. -/
theorem convertCurrency_exact_iff {amountCents : ℤ} (hamount : 0 ≤ amountCents)
    {fromCurrency toCurrency : Currency} (hne : fromCurrency ≠ toCurrency) {s : Store} {rate : ℚ}
    (hpos : 0 < rate) {rateAsOf : ℕ}
    (hrate : s.effectiveRate fromCurrency toCurrency = some (rate, rateAsOf))
    (answers : ℕ → HttpOutcome) :
    ((FxService.convertCurrency amountCents fromCurrency toCurrency).run
        (.healthy answers) s).result =
      .ok { amountCents := halfEven (amountCents * rate), fromCurrency, toCurrency, rate,
            rateAsOf } ↔
      Decimal.ClearOfTies (amountCents * rate) := by
  have hproduct : (0 : ℚ) ≤ amountCents * rate :=
    mul_nonneg (by exact_mod_cast hamount) hpos.le
  rw [FxService.run_convertCurrency hne hrate, ← Decimal.halfEven_round20 hproduct,
    ← roundHalfToEven_eq_halfEven (Decimal.round20 _)]
  constructor
  · intro h
    exact congrArg ConvertedAmount.amountCents (Except.ok.inj h)
  · intro h
    rw [← h]
    rfl

namespace Sample

/-- A dollar is worth 1.49999999 rand. -/
def pinnedDollar : Store :=
  { Store.empty 0 10 [] with
    fxRateOverrides := [
      { fromCurrency := .usd, toCurrency := .zar, rate := 149999999 / 100000000,
        updatedAt := 0 }] }

end Sample

theorem convertCurrency_exact_sample :
    Decimal.ClearOfTies ((1000000000002 : ℤ) * (149999999 / 100000000)) := by
  have hamount : roundHalfToEven (Decimal.mul (1000000000002 : ℤ) (149999999 / 100000000)) =
      halfEven ((1000000000002 : ℤ) * (149999999 / 100000000) : ℚ) := by
    decide +kernel
  have hrate : Sample.pinnedDollar.effectiveRate .usd .zar = some (149999999 / 100000000, 0) := rfl
  refine (convertCurrency_exact_iff (by norm_num) (by decide) (by norm_num) hrate
    fun _ ↦ .resolved 200 none).mp ?_
  rw [FxService.run_convertCurrency (by decide) hrate, FxService.converted, hamount]

/-- The product is 1499999990001.49999999. -/
theorem convertCurrency_rounds_twice :
    ((FxService.convertCurrency 1000000000001 .usd .zar).run (.healthy fun _ ↦ .resolved 200 none)
        Sample.pinnedDollar).result =
      .ok { amountCents := 1499999990002, fromCurrency := .usd, toCurrency := .zar,
            rate := 149999999 / 100000000, rateAsOf := 0 } ∧
      halfEven ((1000000000001 : ℤ) * (149999999 / 100000000) : ℚ) = 1499999990001 := by
  have hamount : roundHalfToEven (Decimal.mul (1000000000001 : ℤ) (149999999 / 100000000)) =
      1499999990002 := by
    decide +kernel
  constructor
  · rw [FxService.run_convertCurrency (by decide) rfl, FxService.converted, hamount]
  · decide +kernel

end GearshPayments
