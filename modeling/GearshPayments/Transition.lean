import Mathlib.Data.List.Basic
import Mathlib.Data.Nat.Notation

/-!
# Runs of a labelled transition function

A system given by a total step function `step : S → L → S` is run along a list
of labels.  Three rules carry every argument about runs: an invariant of one step
is an invariant of every run (`Transition.run_invariant`); where a step preserves
the invariant under a condition on the state it starts from, the invariant holds
along every run whose steps all meet that condition
(`Transition.Along.run_invariant`); and where it preserves it under no other
condition, these are the only runs along which it holds
(`Transition.Along.iff_invariant`).  A measure that no step raises by less than what is
counted of the step agrees with the count exactly along the runs whose steps all raise it
by no more (`Transition.Along.iff_total`).
-/

namespace Transition

variable {S L : Type} (step : S → L → S)

/-- The state reached from `s` along the labels. -/
def run (s : S) (ls : List L) : S := ls.foldl step s

@[simp] theorem run_nil (s : S) : run step s [] = s := rfl

@[simp] theorem run_cons (s : S) (l : L) (ls : List L) :
    run step s (l :: ls) = run step (step s l) ls := rfl

theorem run_append (s : S) (ls ls' : List L) :
    run step s (ls ++ ls') = run step (run step s ls) ls' := List.foldl_append

/-- What holds at the start and is kept by every step holds in every state
reached. -/
theorem run_invariant {I : S → Prop} (hstep : ∀ s l, I s → I (step s l)) {s : S} (hs : I s)
    (ls : List L) : I (run step s ls) := by
  induction ls generalizing s with
  | nil => exact hs
  | cons l ls ih => exact ih (hstep s l hs)

/-- `Along C s ls`: every step of the run from `s` along `ls` meets the condition
`C`, which may look at the state before the step and at its label. -/
def Along (C : S → L → Prop) : S → List L → Prop
  | _, [] => True
  | s, l :: ls => C s l ∧ Along C (step s l) ls

instance decidableAlong {C : S → L → Prop} [∀ s l, Decidable (C s l)] :
    ∀ s ls, Decidable (Along step C s ls)
  | _, [] => .isTrue trivial
  | s, l :: ls =>
    have : Decidable (Along step C (step s l) ls) := decidableAlong (step s l) ls
    inferInstanceAs (Decidable (C s l ∧ Along step C (step s l) ls))

variable {step}

/-- Runs whose steps all meet a condition keep what such steps keep. -/
theorem Along.run_invariant {C : S → L → Prop} {I : S → Prop}
    (hstep : ∀ s l, C s l → I s → I (step s l)) {s : S} (hs : I s) {ls : List L}
    (h : Along step C s ls) : I (run step s ls) := by
  induction ls generalizing s with
  | nil => exact hs
  | cons l ls ih => exact ih (hstep s l h.1 hs) h.2

/-- Steps that meet a condition from where an invariant holds, which they keep, meet whatever
follows from both. -/
theorem Along.of_invariant {C D : S → L → Prop} {I : S → Prop}
    (hstep : ∀ s l, C s l → I s → I (step s l)) (hD : ∀ s l, C s l → I s → D s l) {s : S}
    (hs : I s) {ls : List L} (h : Along step C s ls) : Along step D s ls := by
  induction ls generalizing s with
  | nil => trivial
  | cons l ls ih => exact ⟨hD s l h.1 hs, ih (hstep s l h.1 hs) h.2⟩

/-- What every step meets for each index, it meets for all of them. -/
theorem Along.forall {ι : Type} {C : ι → S → L → Prop} {s : S} {ls : List L}
    (h : ∀ i, Along step (C i) s ls) : Along step (fun s l ↦ ∀ i, C i s l) s ls := by
  induction ls generalizing s with
  | nil => trivial
  | cons l ls ih => exact ⟨fun i ↦ (h i).1, ih fun i ↦ (h i).2⟩

theorem Along.and {C D : S → L → Prop} {s : S} {ls : List L} :
    Along step (fun s l ↦ C s l ∧ D s l) s ls ↔ Along step C s ls ∧ Along step D s ls := by
  induction ls generalizing s with
  | nil => exact ⟨fun _ ↦ ⟨trivial, trivial⟩, fun _ ↦ trivial⟩
  | cons l ls ih =>
      simp only [Along, ih]
      exact and_and_and_comm

/-- A condition that every step meets. -/
theorem Along.of_forall {C : S → L → Prop} (h : ∀ s l, C s l) (s : S) (ls : List L) :
    Along step C s ls := by
  induction ls generalizing s with
  | nil => trivial
  | cons l ls ih => exact ⟨h s l, ih _⟩

/-- A condition that every label meets. -/
theorem Along.of_mem {C : L → Prop} {ls : List L} (h : ∀ l ∈ ls, C l) {s : S} :
    Along step (fun _ l ↦ C l) s ls := by
  induction ls generalizing s with
  | nil => trivial
  | cons l ls ih =>
      obtain ⟨hl, hls⟩ := List.forall_mem_cons.mp h
      exact ⟨hl, ih hls⟩

/-- A condition that every step meets in the state that the run has reached by then. -/
theorem Along.of_run {C : S → L → Prop} {s : S} {ls : List L}
    (h : ∀ ls₁ l ls₂, ls = ls₁ ++ l :: ls₂ → C (run step s ls₁) l) : Along step C s ls := by
  induction ls generalizing s with
  | nil => trivial
  | cons l ls ih =>
      refine ⟨h [] l ls rfl, ih fun ls₁ l' ls₂ hls ↦ ?_⟩
      exact h (l :: ls₁) l' ls₂ (congrArg (l :: ·) hls)

/-- A run in two parts. -/
theorem Along.append {C : S → L → Prop} {s : S} {ls ls' : List L} :
    Along step C s (ls ++ ls') ↔ Along step C s ls ∧ Along step C (run step s ls) ls' := by
  induction ls generalizing s with
  | nil => exact ⟨fun h ↦ ⟨trivial, h⟩, fun h ↦ h.2⟩
  | cons l ls ih =>
      rw [List.cons_append, run_cons]
      change C s l ∧ _ ↔ (C s l ∧ _) ∧ _
      rw [ih, and_assoc]

/-- The last step of a run meets what every step meets. -/
theorem Along.last {C : S → L → Prop} {s : S} {ls : List L} {l : L}
    (h : Along step C s (ls ++ [l])) : C (run step s ls) l := by
  exact (Along.append.mp h).2.1

/-- Conditions on steps that agree where an invariant holds, which steps that meet them
keep, are met by the same runs. -/
theorem Along.congr {C D : S → L → Prop} {I : S → Prop} (hcond : ∀ s l, I s → (C s l ↔ D s l))
    (hstep : ∀ s l, I s → C s l → I (step s l)) {s : S} (hs : I s) (ls : List L) :
    Along step C s ls ↔ Along step D s ls := by
  induction ls generalizing s with
  | nil => exact Iff.rfl
  | cons l ls ih =>
      constructor
      · rintro ⟨hc, hrest⟩
        exact ⟨(hcond s l hs).mp hc, (ih (hstep s l hs hc)).mp hrest⟩
      · rintro ⟨hd, hrest⟩
        have hc := (hcond s l hs).mpr hd
        exact ⟨hc, (ih (hstep s l hs hc)).mpr hrest⟩

/-- Where the steps of a run keep `J`, and a step that starts in `J` keeps the invariant exactly
under a condition, the invariant holds at every point of the run exactly when all steps meet
the condition. -/
theorem Along.iff_invariant_of {T C : S → L → Prop} {J I : S → Prop}
    (hJ : ∀ s l, T s l → J s → J (step s l))
    (hstep : ∀ s l, T s l → J s → I s → (I (step s l) ↔ C s l)) {s : S} (hs : J s) (hI : I s)
    {ls : List L} (hT : Along step T s ls) :
    Along step C s ls ↔ ∀ ls', ls' <+: ls → I (run step s ls') := by
  induction ls generalizing s with
  | nil =>
      constructor
      · intro _ ls' hp
        rw [List.prefix_nil.mp hp]
        exact hI
      · intro _
        trivial
  | cons l ls ih =>
      have hnext := hJ s l hT.1 hs
      constructor
      · rintro ⟨hc, hrest⟩ ls' hp
        cases ls' with
        | nil => exact hI
        | cons l' ls' =>
            obtain ⟨rfl, htail⟩ := List.cons_prefix_cons.mp hp
            exact (ih hnext ((hstep s l' hT.1 hs hI).mpr hc) hT.2).mp hrest ls' htail
      · intro h
        have hkept : I (step s l) := h [l] ⟨ls, rfl⟩
        refine ⟨(hstep s l hT.1 hs hI).mp hkept, (ih hnext hkept hT.2).mpr fun ls' hp ↦ ?_⟩
        exact h (l :: ls') (List.cons_prefix_cons.mpr ⟨rfl, hp⟩)

/-- Where a step keeps the invariant exactly under a condition, the invariant holds at every
point of a run exactly when all steps of the run meet the condition. -/
theorem Along.iff_invariant {C : S → L → Prop} {I : S → Prop}
    (hstep : ∀ s l, I s → (I (step s l) ↔ C s l)) {s : S} (hs : I s) {ls : List L} :
    Along step C s ls ↔ ∀ ls', ls' <+: ls → I (run step s ls') :=
  Along.iff_invariant_of (T := fun _ _ ↦ True) (J := fun _ ↦ True) (fun _ _ _ _ ↦ trivial)
    (fun s l _ _ ↦ hstep s l) trivial hs (.of_forall (fun _ _ ↦ trivial) s ls)

/-! ## Counting -/

/-- What is counted of the steps of a run, in total. -/
def total (step : S → L → S) (c : S → L → ℕ) : S → List L → ℕ
  | _, [] => 0
  | s, l :: ls => c s l + total step c (step s l) ls

variable {I : S → Prop} {m : S → ℕ} {c : S → L → ℕ}

theorem add_total_le (hI : ∀ s l, I s → I (step s l))
    (hle : ∀ s l, I s → m s + c s l ≤ m (step s l)) {s : S} (hs : I s) (ls : List L) :
    m s + total step c s ls ≤ m (run step s ls) := by
  induction ls generalizing s with
  | nil => exact Nat.le_refl _
  | cons l ls ih =>
      calc m s + total step c s (l :: ls) = m s + c s l + total step c (step s l) ls :=
            (Nat.add_assoc ..).symm
        _ ≤ m (step s l) + total step c (step s l) ls := Nat.add_le_add_right (hle s l hs) _
        _ ≤ m (run step s (l :: ls)) := ih (hI s l hs)

/-- A surplus of one step is never made good. -/
theorem Along.iff_total (hI : ∀ s l, I s → I (step s l))
    (hle : ∀ s l, I s → m s + c s l ≤ m (step s l)) {s : S} (hs : I s) (ls : List L) :
    Along step (fun s l ↦ m (step s l) = m s + c s l) s ls ↔
      m (run step s ls) = m s + total step c s ls := by
  induction ls generalizing s with
  | nil => exact ⟨fun _ ↦ rfl, fun _ ↦ trivial⟩
  | cons l ls ih =>
      have hrest := add_total_le hI hle (hI s l hs) ls
      have hhead := hle s l hs
      rw [run_cons, total, Along, ih (hI s l hs)]
      constructor
      · rintro ⟨h, h'⟩
        omega
      · intro h
        constructor
        · omega
        · omega

end Transition
