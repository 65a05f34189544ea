import GearshPayments.Fx.Rounding
import GearshPayments.HalfEven

/-!
# Exact products

What the conversion computes where the product of the amount and the rate has at most 20
significant digits: the code's rounding is bankers' rounding.
-/

namespace GearshPayments

theorem roundHalfToEven_eq_halfEven (value : ℚ) : roundHalfToEven value = halfEven value := by
  have habs : (if |value| - ⌊|value|⌋ < 1 / 2 then ⌊|value|⌋
      else if |value| - ⌊|value|⌋ > 1 / 2 then ⌊|value|⌋ + 1
      else if ⌊|value|⌋ % 2 = 0 then ⌊|value|⌋
      else ⌊|value|⌋ + 1) = halfEven |value| := by
    simp only [halfEven, gt_iff_lt, Int.even_iff]
  unfold roundHalfToEven
  simp only [habs]
  split
  case isTrue hneg => rw [abs_of_neg hneg, halfEven_neg, neg_neg]
  case isFalse hpos => rw [abs_of_nonneg (not_lt.mp hpos)]

namespace Decimal

/-- The product is not rounded. -/
def Exact (a b : ℚ) : Prop := mul a b = a * b

instance (a b : ℚ) : Decidable (Exact a b) := inferInstanceAs (Decidable (_ = _))

end Decimal

theorem roundHalfToEven_mul {a b : ℚ} (h : Decimal.Exact a b) :
    roundHalfToEven (Decimal.mul a b) = halfEven (a * b) := by
  rw [roundHalfToEven_eq_halfEven, h]

end GearshPayments
