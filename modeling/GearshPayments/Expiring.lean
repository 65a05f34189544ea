import Mathlib.Data.Nat.Notation
import Mathlib.Logic.Function.Basic
import Mathlib.Order.Nat

/-!
# A store of entries that expire

A value is stored until an instant, and from that instant on it is gone.  Nobody removes it: a
lookup compares the instant with the time.  What matters of a store to somebody who waits is that
a value of some kind is there until an instant at least (`Expiring.Lasting`).
-/

/-- For every key what was stored last, and from when on it is gone. -/
structure Expiring (K V : Type) where
  entry : K → Option (V × ℕ)

namespace Expiring

variable {K V : Type}

def empty : Expiring K V := ⟨fun _ ↦ none⟩

/-- What a lookup at the instant finds. -/
def get (now : ℕ) (k : K) (s : Expiring K V) : Option V :=
  (s.entry k).bind fun x ↦ if now < x.2 then some x.1 else none

def set [DecidableEq K] (k : K) (v : V) (expiry : ℕ) (s : Expiring K V) : Expiring K V :=
  ⟨Function.update s.entry k (some (v, expiry))⟩

/-- A value with the property is stored at the key until the instant at least. -/
def Lasting (p : V → Prop) (k : K) (instant : ℕ) (s : Expiring K V) : Prop :=
  ∃ v expiry, s.entry k = some (v, expiry) ∧ p v ∧ instant ≤ expiry

variable {k k' : K} {v : V} {now expiry e : ℕ} {s : Expiring K V} {p : V → Prop}

@[simp] theorem entry_empty (k : K) : (empty : Expiring K V).entry k = none := rfl

theorem get_eq_some_iff :
    s.get now k = some v ↔ ∃ expiry, s.entry k = some (v, expiry) ∧ now < expiry := by
  rw [get, Option.bind_eq_some_iff]
  constructor
  · rintro ⟨⟨v', expiry⟩, hentry, h⟩
    dsimp only at h
    split at h
    · next hnow =>
        cases h
        exact ⟨expiry, hentry, hnow⟩
    · cases h
  · rintro ⟨expiry, hentry, hnow⟩
    exact ⟨(v, expiry), hentry, if_pos hnow⟩

section Set

variable [DecidableEq K]

@[simp] theorem entry_set_self : (s.set k v expiry).entry k = some (v, expiry) :=
  Function.update_self ..

theorem entry_set_of_ne (h : k' ≠ k) : (s.set k v expiry).entry k' = s.entry k' :=
  Function.update_of_ne h ..

/-- An entry is the one that was set, or was there before. -/
theorem entry_set_eq_some {x : V × ℕ} (h : (s.set k v expiry).entry k' = some x) :
    (k' = k ∧ x = (v, expiry)) ∨ (k' ≠ k ∧ s.entry k' = some x) := by
  by_cases hk : k' = k
  · subst hk
    rw [entry_set_self] at h
    cases h
    exact .inl ⟨rfl, rfl⟩
  · rw [entry_set_of_ne hk] at h
    exact .inr ⟨hk, h⟩

theorem lasting_set (hv : p v) (he : e ≤ expiry) : (s.set k v expiry).Lasting p k e :=
  ⟨v, expiry, entry_set_self, hv, he⟩

/-- What lasts is replaced by what lasts as long. -/
theorem Lasting.set (h : s.Lasting p k e) (hset : k' = k → p v ∧ e ≤ expiry) :
    (s.set k' v expiry).Lasting p k e := by
  by_cases hk : k' = k
  · subst hk
    obtain ⟨hv, he⟩ := hset rfl
    exact lasting_set hv he
  · obtain ⟨v', expiry', hentry, hv', he'⟩ := h
    exact ⟨v', expiry', (entry_set_of_ne (Ne.symm hk)).trans hentry, hv', he'⟩

end Set

theorem Lasting.mono (h : s.Lasting p k e) {e' : ℕ} (he : e' ≤ e) : s.Lasting p k e' := by
  obtain ⟨v, expiry, hentry, hv, hexpiry⟩ := h
  exact ⟨v, expiry, hentry, hv, he.trans hexpiry⟩

/-- What lasts is found. -/
theorem Lasting.get (h : s.Lasting p k e) (hnow : now < e) : ∃ v, s.get now k = some v ∧ p v := by
  obtain ⟨v, expiry, hentry, hv, he⟩ := h
  exact ⟨v, get_eq_some_iff.mpr ⟨expiry, hentry, hnow.trans_le he⟩, hv⟩

end Expiring
