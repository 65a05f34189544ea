import Mathlib.Data.Set.Function

/-!
# Codes that can be read back

A code writes a letter as a word.  It is a prefix code if the first letter can be read off the
front of any text that begins with its word; then a text can be read back letter by letter
(`PrefixCode.flatMap_injective`).  Words without the letter that separates them can be read back
as well (`intercalate_inj`).
-/

section Codes

variable {α β : Type*}

/-- Every word is read back from the front of a text, with what follows it. -/
structure PrefixCode (code : α → List β) : Prop where
  ne_nil : ∀ a, code a ≠ []
  cancel : ∀ {a b x y}, code a ++ x = code b ++ y → a = b ∧ x = y

namespace PrefixCode

/-- A code has the prefix property if there is a function that reads the first letter. -/
theorem of_read {code : α → List β} (read : List β → Option (α × List β))
    (hnil : ∀ a, code a ≠ []) (hread : ∀ a x, read (code a ++ x) = some (a, x)) :
    PrefixCode code where
  ne_nil := hnil
  cancel := by
    intro a b x y h
    have hsome := (hread a x).symm.trans ((congrArg read h).trans (hread b y))
    cases hsome
    exact ⟨rfl, rfl⟩

variable {code : α → List β} (h : PrefixCode code)

include h

theorem flatMap_injective : Function.Injective (List.flatMap code) := by
  intro l
  induction l with
  | nil =>
    intro l' heq
    cases l' with
    | nil => rfl
    | cons b l' => exact absurd (List.append_eq_nil_iff.mp heq.symm).1 (h.ne_nil b)
  | cons a l ih =>
    intro l' heq
    cases l' with
    | nil => exact absurd (List.append_eq_nil_iff.mp heq).1 (h.ne_nil a)
    | cons b l' =>
      obtain ⟨rfl, hrest⟩ := h.cancel (x := l.flatMap code) (y := l'.flatMap code) heq
      rw [ih hrest]

end PrefixCode

end Codes

/-! ## Separators -/

section Separators

variable {α β : Type*} {sep : α} {ls ls' : List (List α)}

theorem intercalate_eq_nil_iff (h : ∀ l ∈ ls, l ≠ []) : [sep].intercalate ls = [] ↔ ls = [] := by
  constructor
  · intro heq
    cases ls with
    | nil => rfl
    | cons l ls =>
      have hl : l ≠ [] := h l List.mem_cons_self
      cases ls with
      | nil => exact absurd (List.intercalate_singleton.symm.trans heq) hl
      | cons =>
        rw [List.intercalate_cons_cons, List.append_eq_nil_iff, List.append_eq_nil_iff] at heq
        exact absurd heq.1.1 hl
  · rintro rfl
    rfl

/-- Words that do not contain the separator are read back from the text that joins them. -/
theorem intercalate_inj [DecidableEq α] (h : ∀ l ∈ ls, l ≠ [] ∧ sep ∉ l)
    (h' : ∀ l ∈ ls', l ≠ [] ∧ sep ∉ l)
    (heq : [sep].intercalate ls = [sep].intercalate ls') : ls = ls' := by
  by_cases hnil : ls = []
  · subst hnil
    exact ((intercalate_eq_nil_iff fun l hl ↦ (h' l hl).1).mp heq.symm).symm
  · have hnil' : ls' ≠ [] := by
      rintro rfl
      exact hnil ((intercalate_eq_nil_iff fun l hl ↦ (h l hl).1).mp heq)
    rw [← List.splitOn_intercalate sep (fun l hl ↦ (h l hl).2) hnil, heq,
      List.splitOn_intercalate sep (fun l hl ↦ (h' l hl).2) hnil']

theorem map_injOn {f : α → β} {s : Set α} (h : s.InjOn f) :
    {l : List α | ∀ a ∈ l, a ∈ s}.InjOn (List.map f) := by
  intro l
  induction l with
  | nil =>
    intro _ l' _ heq
    exact (List.map_eq_nil_iff.mp heq.symm).symm
  | cons a l ih =>
    intro hl l' hl' heq
    cases l' with
    | nil => cases heq
    | cons b l' =>
      obtain ⟨hhead, htail⟩ := List.cons.inj heq
      obtain ⟨ha, hl⟩ := List.forall_mem_cons.mp hl
      obtain ⟨hb, hl'⟩ := List.forall_mem_cons.mp hl'
      rw [h ha hb hhead, ih hl hl' htail]

/-- Lists over a set on which a code is injective are read back from their joined words. -/
theorem intercalate_map_injOn [DecidableEq β] {sep : β} {code : α → List β} {s : Set α}
    (hinj : s.InjOn code) (hword : ∀ a, code a ≠ [] ∧ sep ∉ code a) :
    {l : List α | ∀ a ∈ l, a ∈ s}.InjOn fun l ↦ [sep].intercalate (l.map code) := by
  intro l hl l' hl' heq
  refine map_injOn hinj hl hl' (intercalate_inj ?_ ?_ heq)
  all_goals
    intro word hmem
    obtain ⟨a, -, rfl⟩ := List.mem_map.mp hmem
    exact hword a

end Separators
