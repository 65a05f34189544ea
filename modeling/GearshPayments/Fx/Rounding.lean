import Mathlib.Data.Nat.Log
import Mathlib.Data.Rat.Floor

/-!
# Decimal products and bankers' rounding

Rates and products of rates are `Prisma.Decimal` values.  A product is rounded to
20 significant digits, a tie away from zero; `roundHalfToEven` (`fx.service.ts`)
then rounds it to whole cents, a tie to the even neighbour.
-/

namespace GearshPayments

namespace Decimal

/-- The exponent of the leading digit: `10 ^ magnitude q ≤ |q|`, for `q` not zero. -/
def magnitude (q : ℚ) : ℤ :=
  if 1 ≤ |q| then Nat.log 10 ⌊|q|⌋₊ else -Nat.clog 10 ⌈|q|⁻¹⌉₊

/-- Round to 20 significant digits, a tie away from zero. -/
def round20 (q : ℚ) : ℚ :=
  if q = 0 then 0
  else
    let unit : ℚ := 10 ^ (magnitude q - 19)
    (if 0 < q then 1 else -1) * (⌊|q| / unit + 1 / 2⌋₊ * unit)

/-- `a.mul(b)`. -/
def mul (a b : ℚ) : ℚ := round20 (a * b)

end Decimal

/-- Round to an integer, a tie to the even neighbour. -/
def roundHalfToEven (value : ℚ) : ℤ :=
  let floor := ⌊|value|⌋
  let frac := |value| - floor
  let rounded :=
    if frac < 1 / 2 then floor
    else if frac > 1 / 2 then floor + 1
    else if floor % 2 = 0 then floor
    else floor + 1
  if value < 0 then -rounded else rounded

end GearshPayments
