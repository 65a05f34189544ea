import Mathlib.Algebra.GroupWithZero.Nat
import Mathlib.Data.List.Lex
import Mathlib.Data.Fin.Basic

/-!
# Strings of code units

A string of JavaScript is a list of code units of UTF-16, in any order.  It is well formed if it
is the encoding of a list of characters; other strings contain surrogates without their
counterparts, which are replaced where a string is converted to characters.
-/

namespace JavaScript

abbrev CodeUnit := Fin 0x10000

instance neZero_codeUnits : NeZero 0x10000 := Nat.instNeZeroSucc

abbrev Text := List CodeUnit

/-- The code units of a character: itself, or a high surrogate and a low one. -/
def codeUnits (c : Char) : Text :=
  if c.toNat < 0x10000 then [Fin.ofNat _ c.toNat]
  else [Fin.ofNat _ (0xD800 + (c.toNat - 0x10000) / 0x400),
    Fin.ofNat _ (0xDC00 + (c.toNat - 0x10000) % 0x400)]

def utf16 (cs : List Char) : Text := cs.flatMap codeUnits

/-- The string of a literal. -/
def text (s : String) : Text := utf16 s.toList

/-- `s.toLowerCase()`, as far as it concerns hexadecimal digits: no character beyond ASCII has
one of them as its lower case. -/
def toLowerCase (s : Text) : Text :=
  s.map fun u ↦ if 'A'.toNat ≤ u.val ∧ u.val ≤ 'Z'.toNat then u + 32 else u

def WellFormed (s : Text) : Prop := ∃ cs, utf16 cs = s

/-! ## Decoding -/

/-- The character of a code unit that is not half of a pair. -/
def loneChar (u : CodeUnit) : Char :=
  if 0xD800 ≤ u.val ∧ u.val < 0xE000 then Char.ofNat 0xFFFD else Char.ofNat u.val

/-- The characters of a string, as an argument of type `USVString` is converted. -/
def scalarValues : Text → List Char
  | [] => []
  | [u] => [loneChar u]
  | u :: v :: rest =>
    if (0xD800 ≤ u.val ∧ u.val < 0xDC00) ∧ 0xDC00 ≤ v.val ∧ v.val < 0xE000 then
      Char.ofNat (0x10000 + (u.val - 0xD800) * 0x400 + (v.val - 0xDC00)) :: scalarValues rest
    else loneChar u :: scalarValues (v :: rest)

theorem scalarValues_codeUnits_append (c : Char) (s : Text) :
    scalarValues (codeUnits c ++ s) = c :: scalarValues s := by
  have hvalid : c.toNat < 0xD800 ∨ 0xDFFF < c.toNat ∧ c.toNat < 0x110000 := c.valid
  unfold codeUnits
  split
  case isTrue hsmall =>
    have hunit : (Fin.ofNat 0x10000 c.toNat).val = c.toNat := Nat.mod_eq_of_lt hsmall
    have hlone : loneChar (Fin.ofNat _ c.toNat) = c := by
      rw [loneChar, hunit, if_neg (by omega), Char.ofNat_toNat]
    cases s with
    | nil => exact congrArg (· :: []) hlone
    | cons v rest =>
      rw [List.singleton_append, scalarValues, hunit, if_neg (by omega), hlone]
  case isFalse hbig =>
    have hhigh : (Fin.ofNat 0x10000 (0xD800 + (c.toNat - 0x10000) / 0x400)).val =
        0xD800 + (c.toNat - 0x10000) / 0x400 := Nat.mod_eq_of_lt (by omega)
    have hlow : (Fin.ofNat 0x10000 (0xDC00 + (c.toNat - 0x10000) % 0x400)).val =
        0xDC00 + (c.toNat - 0x10000) % 0x400 := Nat.mod_eq_of_lt (by omega)
    have hchar : 0x10000 + (0xD800 + (c.toNat - 0x10000) / 0x400 - 0xD800) * 0x400 +
        (0xDC00 + (c.toNat - 0x10000) % 0x400 - 0xDC00) = c.toNat := by omega
    rw [List.cons_append, List.singleton_append, scalarValues, hhigh, hlow, if_pos (by omega),
      hchar, Char.ofNat_toNat]

/-- Well-formed strings are decoded as they were encoded. -/
@[simp] theorem scalarValues_utf16 (cs : List Char) : scalarValues (utf16 cs) = cs := by
  induction cs with
  | nil => rfl
  | cons c cs ih => rw [utf16, List.flatMap_cons, scalarValues_codeUnits_append, ← utf16, ih]

theorem scalarValues_injOn {s t : Text} (hs : WellFormed s) (ht : WellFormed t)
    (h : scalarValues s = scalarValues t) : s = t := by
  obtain ⟨cs, rfl⟩ := hs
  obtain ⟨ds, rfl⟩ := ht
  rw [scalarValues_utf16, scalarValues_utf16] at h
  rw [h]

/-! ## Well-formed strings -/

theorem wellFormed_utf16 (cs : List Char) : WellFormed (utf16 cs) := ⟨cs, rfl⟩

theorem WellFormed.append {s t : Text} (hs : WellFormed s) (ht : WellFormed t) :
    WellFormed (s ++ t) := by
  obtain ⟨cs, rfl⟩ := hs
  obtain ⟨ds, rfl⟩ := ht
  exact ⟨cs ++ ds, List.flatMap_append⟩

/-- A well-formed string is converted without loss. -/
theorem WellFormed.utf16_scalarValues {s : Text} (hs : WellFormed s) :
    utf16 (scalarValues s) = s := by
  obtain ⟨cs, rfl⟩ := hs
  rw [scalarValues_utf16]

theorem toNat_charOfNat {n : ℕ} (h : n < 0xD800 ∨ 0xDFFF < n ∧ n < 0x110000) :
    (Char.ofNat n).toNat = n := by
  rw [Char.ofNat, dif_pos h]
  rfl

theorem wellFormed_singleton {u : CodeUnit} (h : ¬(0xD800 ≤ u.val ∧ u.val < 0xE000)) :
    WellFormed [u] := by
  have hu := u.isLt
  refine ⟨[Char.ofNat u.val], ?_⟩
  rw [utf16, List.flatMap_singleton, codeUnits, toNat_charOfNat (by omega), if_pos hu]
  exact congrArg (fun v ↦ [v]) (Fin.ext (Nat.mod_eq_of_lt hu))

theorem wellFormed_pair {u v : CodeUnit} (hu : 0xD800 ≤ u.val ∧ u.val < 0xDC00)
    (hv : 0xDC00 ≤ v.val ∧ v.val < 0xE000) : WellFormed [u, v] := by
  refine ⟨[Char.ofNat (0x10000 + (u.val - 0xD800) * 0x400 + (v.val - 0xDC00))], ?_⟩
  rw [utf16, List.flatMap_singleton, codeUnits, toNat_charOfNat (by omega), if_neg (by omega)]
  refine congrArg₂ (fun x y ↦ [x, y]) (Fin.ext ?_) (Fin.ext ?_)
  · have hhigh :
        0xD800 + (0x10000 + (u.val - 0xD800) * 0x400 + (v.val - 0xDC00) - 0x10000) / 0x400 =
        u.val := by omega
    rw [hhigh]
    exact Nat.mod_eq_of_lt u.isLt
  · have hlow : 0xDC00 + (0x10000 + (u.val - 0xD800) * 0x400 + (v.val - 0xDC00) - 0x10000) % 0x400 =
        v.val := by omega
    rw [hlow]
    exact Nat.mod_eq_of_lt v.isLt

end JavaScript
