import Mathlib.Data.Int.Notation
import Mathlib.Data.Nat.Notation

/-!
# Amounts in major units

`centsToMajorString` (`forms.ts`): the decimal numeral PayFast is sent, and
compares with.
-/

namespace GearshPayments

/-- `minor.toString().padStart(2, '0')`, for a number below 100. -/
def padMinor (minor : ℕ) : String :=
  if minor < 10 then "0" ++ toString minor else toString minor

/-- An amount in cents as a numeral with two decimals. -/
def centsToMajorString (amountCents : ℤ) : String :=
  let sign := if amountCents < 0 then "-" else ""
  let abs := amountCents.natAbs
  sign ++ toString (abs / 100) ++ "." ++ padMinor (abs % 100)

example : centsToMajorString 225200 = "2252.00" := by decide

end GearshPayments
