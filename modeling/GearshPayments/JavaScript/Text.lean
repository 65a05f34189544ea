import Mathlib.Algebra.Group.Nat.Defs
import Mathlib.Data.List.DropRight

/-!
# JavaScript text

What the standard library of JavaScript makes of strings, which are lists of characters here:
`trim`, and decimal numerals.
-/

namespace JavaScript

/-! ## White space -/

/-- White space and line terminators, which `trim` and `Number` skip. -/
def isSpace (c : Char) : Bool :=
  c.toNat ∈ [9, 10, 11, 12, 13, 32, 160, 5760, 8232, 8233, 8239, 8287, 12288, 65279] ∨
    8192 ≤ c.toNat ∧ c.toNat ≤ 8202

/-- `s.trim()`. -/
def trim (cs : List Char) : List Char := (cs.dropWhile isSpace).rdropWhile isSpace

theorem trim_of_forall {cs : List Char} (h : ∀ c ∈ cs, isSpace c = false) : trim cs = cs := by
  have hleft : cs.dropWhile isSpace = cs := by
    refine List.dropWhile_eq_self_iff.mpr fun hl ↦ ?_
    rw [h _ (List.getElem_mem hl)]
    exact Bool.false_ne_true
  rw [trim, hleft]
  refine List.rdropWhile_eq_self_iff.mpr fun hl ↦ ?_
  rw [h _ (List.getLast_mem hl)]
  exact Bool.false_ne_true

/-! ## Numerals -/

/-- One or more decimal digits. -/
def IsNumeral (cs : List Char) : Prop := cs ≠ [] ∧ ∀ c ∈ cs, c.isDigit = true

instance (cs : List Char) : Decidable (IsNumeral cs) :=
  decidable_of_iff (cs ≠ [] ∧ cs.all Char.isDigit = true) (and_congr_right' List.all_eq_true)

/-- The number that a numeral stands for. -/
def numeralValue (cs : List Char) : ℕ := Nat.ofDigitChars 10 cs 0

theorem isNumeral_toDigits (n : ℕ) : IsNumeral (Nat.toDigits 10 n) :=
  ⟨Nat.toDigits_ne_nil, fun _ h ↦ Nat.isDigit_of_mem_toDigits (by decide) (by decide) h⟩

@[simp] theorem numeralValue_toDigits (n : ℕ) : numeralValue (Nat.toDigits 10 n) = n :=
  Nat.ofDigitChars_ten_toDigits

theorem toDigits_injective : Function.Injective (Nat.toDigits 10) :=
  Function.LeftInverse.injective numeralValue_toDigits

theorem toString_injective : Function.Injective (toString : ℕ → String) := by
  intro m n h
  apply toDigits_injective
  have hlist := congrArg String.toList h
  rwa [show toString m = Nat.repr m from rfl, show toString n = Nat.repr n from rfl,
    Nat.toList_repr, Nat.toList_repr] at hlist

theorem numeralValue_append (cs ds : List Char) :
    numeralValue (cs ++ ds) = 10 ^ ds.length * numeralValue cs + numeralValue ds := by
  rw [numeralValue, Nat.ofDigitChars_append, Nat.ofDigitChars_eq_ofDigitChars_zero]
  rfl

theorem numeralValue_cons (d : Char) (ds : List Char) :
    numeralValue (d :: ds) = 10 ^ ds.length * (d.toNat - 48) + numeralValue ds := by
  have hone : numeralValue [d] = d.toNat - 48 := by
    rw [numeralValue, Nat.ofDigitChars_cons, Nat.ofDigitChars_nil, Nat.mul_zero, Nat.zero_add]
    rfl
  rw [← List.singleton_append, numeralValue_append, hone]

/-- Digits stand for zero if all of them are. -/
theorem numeralValue_eq_zero_iff {ds : List Char} (h : ∀ d ∈ ds, d.isDigit = true) :
    numeralValue ds = 0 ↔ ∀ d ∈ ds, d = '0' := by
  induction ds with
  | nil => exact ⟨fun _ _ hd ↦ absurd hd List.not_mem_nil, fun _ ↦ rfl⟩
  | cons d ds ih =>
      obtain ⟨hd, hds⟩ := List.forall_mem_cons.mp h
      have hdigit : d.toNat - 48 = 0 ↔ d = '0' := by
        have hrange := Char.isDigit_iff_toNat.mp hd
        have hlow : 48 ≤ d.toNat := hrange.1
        constructor
        · intro hzero
          exact Char.toNat_inj.mp (show d.toNat = 48 by omega)
        · rintro rfl
          rfl
      have hpow : 10 ^ ds.length ≠ 0 := (Nat.pow_pos (by decide)).ne'
      rw [List.forall_mem_cons, ← ih hds, ← hdigit, numeralValue_cons, Nat.add_eq_zero_iff,
        Nat.mul_eq_zero, or_iff_right hpow]

theorem numeralValue_lt {ds : List Char} (h : ∀ d ∈ ds, d.isDigit = true) :
    numeralValue ds < 10 ^ ds.length := by
  induction ds with
  | nil => decide
  | cons d ds ih =>
      obtain ⟨hd, hds⟩ := List.forall_mem_cons.mp h
      have hrange := Char.isDigit_iff_toNat.mp hd
      have hhigh : d.toNat ≤ 57 := hrange.2
      have hmul : 10 ^ ds.length * (d.toNat - 48) ≤ 10 ^ ds.length * 9 :=
        Nat.mul_le_mul_left _ (by omega)
      have hlt := ih hds
      rw [numeralValue_cons, List.length_cons, Nat.pow_succ]
      omega

/-- Numerals of the same length that stand for the same number are the same. -/
theorem eq_of_numeralValue_eq {cs ds : List Char} (hcs : ∀ c ∈ cs, c.isDigit = true)
    (hds : ∀ d ∈ ds, d.isDigit = true) (hlength : cs.length = ds.length)
    (h : numeralValue cs = numeralValue ds) : cs = ds := by
  induction cs generalizing ds with
  | nil => exact (List.length_eq_zero_iff.mp hlength.symm).symm
  | cons c cs ih =>
      cases ds with
      | nil => cases hlength
      | cons d ds =>
          obtain ⟨hc, hcs⟩ := List.forall_mem_cons.mp hcs
          obtain ⟨hd, hds⟩ := List.forall_mem_cons.mp hds
          have hlength' := Nat.succ.inj hlength
          have hc' : 48 ≤ c.toNat := (Char.isDigit_iff_toNat.mp hc).1
          have hd' : 48 ≤ d.toNat := (Char.isDigit_iff_toNat.mp hd).1
          have hrest : numeralValue cs < 10 ^ ds.length := hlength' ▸ numeralValue_lt hcs
          have hrest' := numeralValue_lt hds
          rw [numeralValue_cons, numeralValue_cons, hlength'] at h
          have hpow : 0 < 10 ^ ds.length := Nat.pow_pos (by decide)
          -- the first digits are the quotients by a power of ten, the others stand for the rest
          have hfirst : c.toNat - 48 = d.toNat - 48 := by
            have hdiv := congrArg (· / 10 ^ ds.length) h
            simpa only [Nat.mul_add_div hpow, Nat.div_eq_of_lt hrest, Nat.div_eq_of_lt hrest',
              Nat.add_zero] using hdiv
          rw [hfirst] at h
          rw [ih hcs hds hlength' (Nat.add_left_cancel h),
            Char.toNat_inj.mp (show c.toNat = d.toNat by omega)]

theorem isSpace_of_isDigit {c : Char} (h : c.isDigit = true) : isSpace c = false := by
  have hrange := Char.isDigit_iff_toNat.mp h
  have hlow : 48 ≤ c.toNat := hrange.1
  have hhigh : c.toNat ≤ 57 := hrange.2
  unfold isSpace
  rw [decide_eq_false_iff_not]
  simp only [List.mem_cons, List.not_mem_nil, or_false]
  omega

theorem IsNumeral.trim {cs : List Char} (h : IsNumeral cs) : trim cs = cs :=
  trim_of_forall fun _ hc ↦ isSpace_of_isDigit (h.2 _ hc)

end JavaScript
