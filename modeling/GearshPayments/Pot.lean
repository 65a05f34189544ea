import Mathlib.Algebra.Order.Group.Defs
import Mathlib.Tactic.Abel

/-!
# A pot of money

Money is set aside for one purpose, part of it may be given back, and in the end
the rest goes somewhere; a pot may be frozen on the way.  A `Pot` carries the
proofs that make it meaningful: no more was given back than there is, and a pot
called whole has given nothing back.  `Pot.Step p a p'` says that `a` leaves the
pot, and every step takes out of the pot exactly what it is owed less afterwards
(`Step.owed_add`).

Amounts live in any linearly ordered commutative group.
-/

/-- What may still happen to a pot. -/
inductive Pot.Phase where
  /-- Nothing has been given back. -/
  | whole
  /-- A part has been given back. -/
  | part
  /-- Nothing may be given back until the pot is closed. -/
  | frozen
  /-- Everything has left. -/
  | closed
deriving DecidableEq

structure Pot (M : Type) [AddCommGroup M] [LinearOrder M] where
  /-- What was put in. -/
  captured : M
  /-- What has been given back in parts. -/
  returned : M
  phase : Pot.Phase
  nonneg : 0 ≤ returned
  le : returned ≤ captured
  whole : phase = .whole → returned = 0
  part : phase = .part → 0 < returned

namespace Pot

variable {M : Type} [AddCommGroup M] [LinearOrder M]

/-- What is still in the pot. -/
def owed (p : Pot M) : M := if p.phase = .closed then 0 else p.captured - p.returned

/-- Parts may be given back and the pot may be frozen. -/
def Open (p : Pot M) : Prop := p.phase = .whole ∨ p.phase = .part

/-- The pot into which `captured` has just been put. -/
def ofCaptured (captured : M) (h : 0 ≤ captured) : Pot M where
  captured := captured
  returned := 0
  phase := .whole
  nonneg := le_rfl
  le := h
  whole := fun _ ↦ rfl
  part := nofun

/-- Let everything leave. -/
def close (p : Pot M) : Pot M where
  captured := p.captured
  returned := p.returned
  phase := .closed
  nonneg := p.nonneg
  le := p.le
  whole := nofun
  part := nofun

def freeze (p : Pot M) : Pot M where
  captured := p.captured
  returned := p.returned
  phase := .frozen
  nonneg := p.nonneg
  le := p.le
  whole := nofun
  part := nofun

variable [IsOrderedAddMonoid M]

/-- Give a part back. -/
def giveBack (p : Pot M) (a : M) (hpos : 0 < a) (hle : p.returned + a ≤ p.captured) : Pot M where
  captured := p.captured
  returned := p.returned + a
  phase := .part
  nonneg := add_nonneg p.nonneg hpos.le
  le := hle
  whole := nofun
  part := fun _ ↦ add_pos_of_nonneg_of_pos p.nonneg hpos

/-- `Step p a p'`: the amount `a` leaves `p`, and `p'` is what becomes of it. -/
inductive Step : Pot M → M → Pot M → Prop where
  | close (p : Pot M) (h : p.phase ≠ .closed) : Step p p.owed p.close
  | freeze (p : Pot M) (h : p.Open) : Step p 0 p.freeze
  | giveBack (p : Pot M) (a : M) (hpos : 0 < a) (hle : p.returned + a ≤ p.captured) (h : p.Open) :
      Step p a (p.giveBack a hpos hle)

omit [IsOrderedAddMonoid M] in
theorem Open.ne_closed {p : Pot M} (h : p.Open) : p.phase ≠ .closed := by
  rcases h with h | h <;> rw [h] <;> decide

omit [IsOrderedAddMonoid M] in
theorem owed_of_ne_closed {p : Pot M} (h : p.phase ≠ .closed) :
    p.owed = p.captured - p.returned := if_neg h

omit [IsOrderedAddMonoid M] in
@[simp] theorem owed_ofCaptured (captured : M) (h : 0 ≤ captured) :
    (ofCaptured captured h).owed = captured := by
  have hne : (ofCaptured captured h).phase ≠ .closed := nofun
  rw [owed_of_ne_closed hne, ofCaptured, sub_zero]

omit [IsOrderedAddMonoid M] in
@[simp] theorem owed_close (p : Pot M) : p.close.owed = 0 := by
  rw [owed, if_pos]
  rfl

namespace Step

variable {p p' : Pot M} {a : M}

/-- What leaves is what is owed less. -/
theorem owed_add (h : Step p a p') : p'.owed + a = p.owed := by
  cases h with
  | close h => rw [owed_close, zero_add]
  | freeze h =>
      have hne : p.freeze.phase ≠ .closed := nofun
      rw [add_zero, owed_of_ne_closed h.ne_closed, owed_of_ne_closed hne, Pot.freeze]
  | giveBack _ hpos hle h =>
      have hne : (p.giveBack a hpos hle).phase ≠ .closed := nofun
      rw [owed_of_ne_closed h.ne_closed, owed_of_ne_closed hne]
      change p.captured - (p.returned + a) + a = p.captured - p.returned
      abel

end Step

end Pot
