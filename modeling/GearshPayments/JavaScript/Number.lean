import GearshPayments.HalfEven
import GearshPayments.JavaScript.Text
import Mathlib.Data.Nat.Log
import Mathlib.Data.Rat.Floor

/-!
# `Number` of a string

The conversion of a string to a number: white space around it is skipped, nothing at all is
zero, a literal is binary, octal, hexadecimal or a decimal with an optional sign, fraction and
exponent, and anything else is not a number.  The value of a literal is rounded to a binary
floating point number.  The two zeros are one here.
-/

namespace JavaScript

inductive Number where
  | nan
  | infinite (negative : Bool)
  | finite (value : ℚ)
deriving DecidableEq

namespace Number

/-- The exponent of the leading binary digit, for `q` positive. -/
def exponent (q : ℚ) : ℤ := if 1 ≤ q then Nat.log 2 ⌊q⌋₊ else -Nat.clog 2 ⌈q⁻¹⌉₊

/-- The distance of the floating point numbers around `q`: 53 significant bits, but not less
than the smallest one. -/
def spacing (q : ℚ) : ℚ := 2 ^ max (exponent |q| - 52) (-1074)

/-- The floating point number nearest to `q`, a tie to the even significand. -/
def round (q : ℚ) : Number :=
  let value := halfEven (q / spacing q) * spacing q
  if 2 ^ 1024 ≤ |value| then infinite (q < 0) else finite value

/-- The value of a digit in a base up to sixteen. -/
def digit (base : ℕ) (c : Char) : Option ℕ :=
  let value :=
    if c.isDigit then c.toNat - 48
    else if 'a' ≤ c ∧ c ≤ 'f' then c.toNat - 87
    else if 'A' ≤ c ∧ c ≤ 'F' then c.toNat - 55
    else 16
  if value < base then some value else none

/-- A literal without a sign in another base, past its marker. -/
def nonDecimal (base : ℕ) (cs : List Char) : Number :=
  match cs.mapM (digit base) with
  | none => nan
  | some [] => nan
  | some (d :: ds) => round ((d :: ds).foldl (fun n d ↦ base * n + d) 0 : ℕ)

/-- The exponent part of a literal, past the `e`. -/
def exponentPart : List Char → Option ℤ
  | '+' :: cs => if IsNumeral cs then some (numeralValue cs) else none
  | '-' :: cs => if IsNumeral cs then some (-numeralValue cs) else none
  | cs => if IsNumeral cs then some (numeralValue cs) else none

/-- The fraction part of a literal, and what follows it. -/
def fractionPart : List Char → List Char × List Char
  | '.' :: cs => (cs.takeWhile Char.isDigit, cs.dropWhile Char.isDigit)
  | cs => ([], cs)

/-- The value of a decimal literal without a sign, short of `Infinity`. -/
def decimalValue (cs : List Char) : Option ℚ :=
  let integer := cs.takeWhile Char.isDigit
  let (fraction, rest) := fractionPart (cs.dropWhile Char.isDigit)
  if integer = [] ∧ fraction = [] then none
  else
    let exponent : Option ℤ := match rest with
      | [] => some 0
      | c :: cs => if c = 'e' ∨ c = 'E' then exponentPart cs else none
    exponent.map fun e : ℤ ↦ (numeralValue (integer ++ fraction) : ℚ) * 10 ^ (e - fraction.length)

/-- A decimal literal without a sign. -/
def unsignedDecimal (negative : Bool) (cs : List Char) : Number :=
  if cs = "Infinity".toList then infinite negative
  else match decimalValue cs with
    | none => nan
    | some value => round (if negative then -value else value)

/-- `Number(s)`. -/
def ofText (s : List Char) : Number :=
  match trim s with
  | [] => finite 0
  | '0' :: 'b' :: cs | '0' :: 'B' :: cs => nonDecimal 2 cs
  | '0' :: 'o' :: cs | '0' :: 'O' :: cs => nonDecimal 8 cs
  | '0' :: 'x' :: cs | '0' :: 'X' :: cs => nonDecimal 16 cs
  | '+' :: cs => unsignedDecimal false cs
  | '-' :: cs => unsignedDecimal true cs
  | cs => unsignedDecimal false cs

/-- The number is an integer from 0 to `bound`. -/
def integerUpTo (bound : ℕ) : Number → Option ℕ
  | finite value => if value.den = 1 ∧ 0 ≤ value ∧ value ≤ bound then some value.num.toNat else none
  | _ => none

/-! ## Numerals -/

/-- Integers below 2^53 are floating point numbers. -/
theorem round_natCast {n : ℕ} (h : n < 2 ^ 53) : round n = finite n := by
  -- the floating point numbers around it divide a unit
  obtain ⟨k, hk⟩ : ∃ k : ℕ, spacing (n : ℚ) = (2 ^ k)⁻¹ := by
    have hexp : exponent |(n : ℚ)| ≤ 52 := by
      rw [Nat.abs_cast, exponent]
      split
      · rw [Nat.floor_natCast]
        have hlog : Nat.log 2 n < 53 := Nat.log_lt_of_lt_pow' (by decide) h
        omega
      · omega
    refine ⟨(-max (exponent |(n : ℚ)| - 52) (-1074)).toNat, ?_⟩
    rw [spacing, ← zpow_natCast, ← zpow_neg, Int.toNat_of_nonneg (by omega), neg_neg]
  have hpos : (0 : ℚ) < 2 ^ k := by positivity
  have hscaled : (n : ℚ) / (2 ^ k)⁻¹ = ((n * 2 ^ k : ℕ) : ℤ) := by
    rw [div_inv_eq_mul]
    push_cast
    rfl
  have hvalue : ((halfEven ((n : ℚ) / (2 ^ k)⁻¹) : ℤ) : ℚ) * (2 ^ k)⁻¹ = n := by
    rw [hscaled, halfEven_intCast, Int.cast_natCast]
    push_cast
    rw [mul_assoc, mul_inv_cancel₀ hpos.ne', mul_one]
  have hsmall : |(n : ℚ)| < 2 ^ 1024 := by
    have hle : (n : ℚ) < 2 ^ 53 := by exact_mod_cast h
    rw [Nat.abs_cast]
    exact hle.trans_le (pow_le_pow_right₀ one_le_two (by decide))
  rw [round, hk]
  rw [hvalue, if_neg (not_le.mpr hsmall)]

theorem decimalValue_numeral {cs : List Char} (h : IsNumeral cs) :
    decimalValue cs = some (numeralValue cs : ℚ) := by
  have htake : cs.takeWhile Char.isDigit = cs := List.takeWhile_eq_self_iff.mpr h.2
  have hdrop : cs.dropWhile Char.isDigit = [] := List.dropWhile_eq_nil_iff.mpr h.2
  unfold decimalValue
  rw [htake, hdrop]
  simp [fractionPart, h.1]

/-- The value of a numeral with decimals. -/
theorem decimalValue_fraction {cs ds : List Char} (h : IsNumeral cs)
    (hds : ∀ d ∈ ds, d.isDigit = true) :
    decimalValue (cs ++ '.' :: ds) = some ((numeralValue (cs ++ ds) : ℚ) / 10 ^ ds.length) := by
  have htake : (cs ++ '.' :: ds).takeWhile Char.isDigit = cs := by
    rw [List.takeWhile_append_of_pos h.2, List.takeWhile_cons_of_neg (by decide), List.append_nil]
  have hdrop : (cs ++ '.' :: ds).dropWhile Char.isDigit = '.' :: ds := by
    rw [List.dropWhile_append_of_pos h.2, List.dropWhile_cons_of_neg (by decide)]
  have htake' : ds.takeWhile Char.isDigit = ds := List.takeWhile_eq_self_iff.mpr hds
  have hdrop' : ds.dropWhile Char.isDigit = [] := List.dropWhile_eq_nil_iff.mpr hds
  unfold decimalValue
  rw [htake, hdrop]
  simp [fractionPart, htake', hdrop', h.1, div_eq_mul_inv]

/-- A numeral is converted to the number it stands for. -/
theorem ofText_numeral {cs : List Char} (h : IsNumeral cs) (hsmall : numeralValue cs < 2 ^ 53) :
    ofText cs = finite (numeralValue cs) := by
  have hdecimal : unsignedDecimal false cs = finite (numeralValue cs) := by
    have hne : cs ≠ "Infinity".toList := by
      rintro rfl
      exact absurd (h.2 'I' (by decide)) (by decide)
    rw [unsignedDecimal, if_neg hne, decimalValue_numeral h]
    exact round_natCast hsmall
  unfold ofText
  rw [h.trim]
  split
  -- the markers of the other literals are no digits
  case h_1 => exact absurd rfl h.1
  case h_2 => exact absurd (h.2 'b' (by simp)) (by decide)
  case h_3 => exact absurd (h.2 'B' (by simp)) (by decide)
  case h_4 => exact absurd (h.2 'o' (by simp)) (by decide)
  case h_5 => exact absurd (h.2 'O' (by simp)) (by decide)
  case h_6 => exact absurd (h.2 'x' (by simp)) (by decide)
  case h_7 => exact absurd (h.2 'X' (by simp)) (by decide)
  case h_8 => exact absurd (h.2 '+' (by simp)) (by decide)
  case h_9 => exact absurd (h.2 '-' (by simp)) (by decide)
  case h_10 => exact hdecimal

theorem integerUpTo_natCast {bound n : ℕ} (h : n ≤ bound) :
    integerUpTo bound (finite n) = some n := by
  have hle : (n : ℚ) ≤ bound := by exact_mod_cast h
  rw [integerUpTo, if_pos ⟨Rat.den_natCast n, Nat.cast_nonneg n, hle⟩, Rat.num_natCast,
    Int.toNat_natCast]

end Number

end JavaScript
