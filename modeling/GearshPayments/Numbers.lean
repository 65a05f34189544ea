import Mathlib.Algebra.Order.Ring.Int
import Mathlib.Data.Int.Notation
import Mathlib.Data.Rat.Defs

/-!
# JavaScript numbers

Amounts are `bigint`s and leave the service as JavaScript numbers, that is, as
binary floating point numbers with 53 significant bits.  Conversion rounds to the
nearest one, a tie to the one with an even significand.  Numbers that come in are
the decimal numbers that were sent.
-/

namespace GearshPayments

/-- Round a natural number to 53 significant bits, ties to even. -/
def roundTo53 (m : ℕ) : ℕ :=
  if m < 2 ^ 53 then m
  else
    let unit := 2 ^ (m.log2 - 52)
    let q := m / unit
    let r := m % unit
    if 2 * r < unit ∨ (2 * r = unit ∧ q % 2 = 0) then q * unit else (q + 1) * unit

/-- `Number(amount)`. -/
def number (amount : ℤ) : ℤ := amount.sign * roundTo53 amount.natAbs

/-- Integers below 2^53 are numbers already. -/
theorem number_of_natAbs_lt {amount : ℤ} (h : amount.natAbs < 2 ^ 53) : number amount = amount := by
  rw [number, roundTo53, if_pos h]
  exact Int.sign_mul_natAbs amount

/-- The number of decimals of a number, of which there are at most 17. -/
def decimals (q : ℚ) : ℕ := ((List.range 17).find? fun k ↦ (q * 10 ^ k).den = 1).getD 17

/-- `String` of a number, short of those that need an exponent. -/
def numberText (q : ℚ) : String :=
  let k := decimals q
  let scaled := q.num.natAbs * 10 ^ k / q.den
  let fraction := toString (scaled % 10 ^ k)
  let zeros := String.ofList (List.replicate (k - fraction.length) '0')
  (if q < 0 then "-" else "") ++ toString (scaled / 10 ^ k) ++
    if k = 0 then "" else "." ++ zeros ++ fraction

end GearshPayments
