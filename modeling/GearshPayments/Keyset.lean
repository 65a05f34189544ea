import Mathlib.Data.List.Perm.Subperm
import GearshPayments.Newest
import GearshPayments.Transition

/-!
# Keyset pagination

A table is read page by page, from the greatest key down: a page holds the first rows of those
whose key is below a cursor, and the key of its last row is the cursor of the next page.  To tell
whether there is one, a row more is asked for than the page may hold.

The table may change between two pages.  A row that is in it all the time is served once, since the
rows that have been served are those above the cursor (`Reading.Progress`); reading ends where keys
cannot get smaller for ever (`Reading.exists_finished`); and a table that does not change is served
as a whole, in as many pages as it takes (`Reading.finished_of_length_lt`,
`Reading.perm_of_finished`).
-/

namespace Keyset

variable {ρ κ : Type} [LinearOrder κ] (key : ρ → κ)

/-- The row comes after the cursor; without a cursor every row does. -/
def Below : Option κ → ρ → Prop
  | none, _ => True
  | some k, r => key r < k

instance (cursor : Option κ) : DecidablePred (Below key cursor) := fun r ↦
  match cursor with
  | none => inferInstanceAs (Decidable True)
  | some k => inferInstanceAs (Decidable (key r < k))

/-- The keys of the rows get smaller. -/
def Descending (rows : List ρ) : Prop := rows.Pairwise fun a b ↦ key b < key a

/-- The rows after the cursor, from the greatest key down. -/
def rest (cursor : Option κ) (rows : List ρ) : List ρ :=
  (rows.filter fun r ↦ Below key cursor r).insertionSort fun a b ↦ key b ≤ key a

structure Page (ρ κ : Type) where
  data : List ρ
  /-- The cursor of the next page, if there is one. -/
  next : Option κ

/-- The page after the cursor. -/
def page (limit : ℕ) (cursor : Option κ) (rows : List ρ) : Page ρ κ :=
  let found := (rest key cursor rows).take (limit + 1)
  if limit < found.length then ⟨found.take limit, (found.take limit).getLast?.map key⟩
  else ⟨found, none⟩

variable {key} {limit : ℕ} {cursor : Option κ} {rows : List ρ} {r : ρ}

theorem mem_rest : r ∈ rest key cursor rows ↔ r ∈ rows ∧ Below key cursor r := by
  rw [rest, List.mem_insertionSort, List.mem_filter, decide_eq_true_iff]

theorem Descending.nodup (h : Descending key rows) : rows.Nodup :=
  List.Pairwise.imp (fun hlt heq ↦ absurd (congrArg key heq) hlt.ne') h

/-- Rows with distinct keys are sorted strictly. -/
theorem descending_rest (h : (rows.map key).Nodup) (cursor : Option κ) :
    Descending key (rest key cursor rows) := by
  have hperm := (Newest.Order.stable key).perm (rows.filter fun r ↦ Below key cursor r)
  have hsub : ((rows.filter fun r ↦ Below key cursor r).map key).Nodup :=
    h.sublist (List.filter_sublist.map key)
  have hnodup : ((rest key cursor rows).map key).Nodup := (hperm.map key).nodup_iff.mpr hsub
  have hle : (rest key cursor rows).Pairwise fun a b ↦ key b ≤ key a :=
    (Newest.Order.stable key).descending _
  exact (hle.and (List.pairwise_map.mp hnodup)).imp fun ⟨hle, hne⟩ ↦ lt_of_le_of_ne hle hne.symm

/-! ## Pages -/

theorem page_data : (page key limit cursor rows).data = (rest key cursor rows).take limit := by
  unfold page
  dsimp only
  split
  · rw [List.take_take, Nat.min_eq_left (Nat.le_succ limit)]
  · next hshort =>
      rw [List.length_take] at hshort
      rw [List.take_of_length_le (by omega), List.take_of_length_le (by omega)]

theorem page_next : (page key limit cursor rows).next =
    if limit < (rest key cursor rows).length then
      ((rest key cursor rows).take limit).getLast?.map key
    else none := by
  have hlength : limit < ((rest key cursor rows).take (limit + 1)).length ↔
      limit < (rest key cursor rows).length := by
    rw [List.length_take]
    omega
  unfold page
  simp only [hlength]
  split
  · rw [List.take_take, Nat.min_eq_left (Nat.le_succ limit)]
  · rfl

/-- The last page has all that was left. -/
theorem page_of_next_none (hlimit : 0 < limit) (h : (page key limit cursor rows).next = none) :
    (page key limit cursor rows).data = rest key cursor rows := by
  rw [page_next] at h
  split at h
  · next hlong =>
      rw [Option.map_eq_none_iff, List.getLast?_eq_none_iff, List.take_eq_nil_iff] at h
      rcases h with h | h
      · omega
      · rw [h, List.length_nil] at hlong
        omega
  · next hshort => rw [page_data, List.take_of_length_le (Nat.not_lt.mp hshort)]

variable (key limit) in
/-- A page of the rows found is full, and the cursor `k` is the key of its last row: it separates
the page from the rows that are left, of which there is one at least. -/
structure Splits (found data : List ρ) (k : κ) : Prop where
  full : data.length = limit
  last : ∃ x ∈ data, key x = k
  above : ∀ x ∈ data, k ≤ key x
  left : ∃ r ∈ found, key r < k
  mem_iff : ∀ r ∈ found, r ∈ data ↔ ¬key r < k

/-- Any other page splits what was left. -/
theorem page_of_next_some (hrows : (rows.map key).Nodup) {k : κ}
    (h : (page key limit cursor rows).next = some k) :
    Splits key limit (rest key cursor rows) (page key limit cursor rows).data k := by
  rw [page_next] at h
  split at h
  · next hlong =>
      have hdesc := descending_rest hrows cursor
      rw [page_data]
      generalize rest key cursor rows = found at *
      obtain ⟨last, hlast, rfl⟩ := Option.map_eq_some_iff.mp h
      have hmem : last ∈ found.take limit := List.mem_of_getLast? hlast
      obtain ⟨first, hfirst⟩ := List.getLast?_eq_some_iff.mp hlast
      have hfound := List.take_append_drop limit found
      rw [← hfound] at hdesc
      obtain ⟨htake, -, hcross⟩ := List.pairwise_append.mp hdesc
      have habove : ∀ x ∈ found.take limit, key last ≤ key x := by
        rw [hfirst] at htake ⊢
        intro x hx
        rcases List.mem_append.mp hx with hx | hx
        · exact ((List.pairwise_append.mp htake).2.2 x hx last List.mem_cons_self).le
        · rw [List.mem_singleton.mp hx]
      obtain ⟨r, hr⟩ : ∃ r, r ∈ found.drop limit := by
        refine List.exists_mem_of_length_pos ?_
        rw [List.length_drop]
        omega
      have hleft : ∃ r ∈ found, key r < key last :=
        ⟨r, List.mem_of_mem_drop hr, hcross last hmem r hr⟩
      refine ⟨?_, ⟨last, hmem, rfl⟩, habove, hleft, ?_⟩
      · rw [List.length_take, Nat.min_eq_left hlong.le]
      · refine fun r hr ↦ ⟨fun hdata ↦ (habove r hdata).not_gt, fun hnot ↦ ?_⟩
        rw [← hfound] at hr
        rcases List.mem_append.mp hr with hr | hr
        · exact hr
        · exact absurd (hcross last hmem r hr) hnot
  · cases h

/-! ## Reading a table to its end -/

variable (ρ κ) in
/-- How far a reader has come. -/
structure Reading where
  cursor : Option κ
  served : List ρ
  finished : Bool

namespace Reading

variable (ρ κ) in
def start : Reading ρ κ := ⟨none, [], false⟩

variable (key limit) in
/-- Read the next page of the table as it is now, unless the last one has been read. -/
def ask (w : Reading ρ κ) (rows : List ρ) : Reading ρ κ :=
  if w.finished then w
  else ⟨(page key limit w.cursor rows).next, w.served ++ (page key limit w.cursor rows).data,
    (page key limit w.cursor rows).next.isNone⟩

theorem ask_of_finished {w : Reading ρ κ} (h : w.finished = true) (rows : List ρ) :
    w.ask key limit rows = w := if_pos h

theorem ask_of_not_finished {w : Reading ρ κ} (h : w.finished = false) (rows : List ρ) :
    w.ask key limit rows =
      ⟨(page key limit w.cursor rows).next, w.served ++ (page key limit w.cursor rows).data,
        (page key limit w.cursor rows).next.isNone⟩ :=
  if_neg (by rw [h]; exact Bool.false_ne_true)

variable (key) in
/-- The rows that have been served are those above the cursor, among the rows that are present
all the time. -/
structure Progress (present : ρ → Prop) (w : Reading ρ κ) : Prop where
  descending : Descending key w.served
  last : ∀ k ∈ w.cursor, ∃ x ∈ w.served, key x = k
  above : w.finished = false → ∀ x ∈ w.served, ∀ r, Below key w.cursor r → key r < key x
  reached : ∀ r, present r → r ∈ w.served ∨ (w.finished = false ∧ Below key w.cursor r)

variable {present : ρ → Prop} {w : Reading ρ κ}

theorem progress_start : Progress key present (start ρ κ) where
  descending := .nil
  last _ hk := nomatch hk
  above _ _ hx := absurd hx List.not_mem_nil
  reached _ _ := .inr ⟨rfl, trivial⟩

variable (limit) in
/-- The rows of a page come after the cursor, and so after what has been served. -/
theorem Progress.descending_append (h : Progress key present w) (hw : w.finished = false)
    (hrows : (rows.map key).Nodup) :
    (∀ x ∈ (page key limit w.cursor rows).data, Below key w.cursor x) ∧
      Descending key (w.served ++ (page key limit w.cursor rows).data) := by
  have hbelow : ∀ x ∈ (page key limit w.cursor rows).data, Below key w.cursor x := by
    intro x hx
    rw [page_data] at hx
    exact (mem_rest.mp (List.mem_of_mem_take hx)).2
  refine ⟨hbelow, List.pairwise_append.mpr ⟨h.descending, ?_, fun x hx r hr ↦ ?_⟩⟩
  · rw [page_data]
    exact (descending_rest hrows w.cursor).sublist (List.take_sublist _ _)
  · exact h.above hw x hx r (hbelow r hr)

theorem Progress.ask (h : Progress key present w) (hlimit : 0 < limit)
    (hrows : (rows.map key).Nodup) (hpresent : ∀ r, present r → r ∈ rows) :
    Progress key present (w.ask key limit rows) := by
  cases hw : w.finished with
  | true =>
      rw [ask_of_finished hw]
      exact h
  | false =>
      obtain ⟨hbelow, hserved⟩ := h.descending_append limit hw hrows
      have hrest : ∀ r, present r → Below key w.cursor r → r ∈ rest key w.cursor rows :=
        fun r hr hr' ↦ mem_rest.mpr ⟨hpresent r hr, hr'⟩
      rw [ask_of_not_finished hw]
      cases hnext : (page key limit w.cursor rows).next with
      | none =>
          refine ⟨hserved, (fun _ hk ↦ nomatch hk), (fun hmore ↦ nomatch hmore), fun r hr ↦ .inl ?_⟩
          rcases h.reached r hr with hold | ⟨-, hr'⟩
          · exact List.mem_append_left _ hold
          · refine List.mem_append_right _ ?_
            rw [page_of_next_none hlimit hnext]
            exact hrest r hr hr'
      | some k =>
          have hsplit := page_of_next_some hrows hnext
          obtain ⟨d, hd, hkey⟩ := hsplit.last
          refine ⟨hserved, fun k' hk' ↦ ?_, fun _ x hx r (hr : key r < k) ↦ ?_, fun r hr ↦ ?_⟩
          · cases hk'
            exact ⟨d, List.mem_append_right _ hd, hkey⟩
          · rcases List.mem_append.mp hx with hx | hx
            · -- the last row of this page lies between the two
              exact (hr.trans_eq hkey.symm).trans (h.above hw x hx d (hbelow d hd))
            · exact hr.trans_le (hsplit.above x hx)
          · rcases h.reached r hr with hold | ⟨-, hr'⟩
            · exact .inl (List.mem_append_left _ hold)
            · by_cases hk : key r < k
              · exact .inr ⟨rfl, hk⟩
              · exact .inl (List.mem_append_right _ ((hsplit.mem_iff r (hrest r hr hr')).mpr hk))

/-- Whatever the table is like at each page, the rows that are in it all the time are served once
when the reader has finished, and no row is served twice before. -/
theorem progress_run (hlimit : 0 < limit) {tables : List (List ρ)}
    (hrows : ∀ rows ∈ tables, (rows.map key).Nodup)
    (hpresent : ∀ rows ∈ tables, ∀ r, present r → r ∈ rows) (h : Progress key present w) :
    Progress key present (Transition.run (Reading.ask key limit) w tables) := by
  induction tables generalizing w with
  | nil => exact h
  | cons rows tables ih =>
      obtain ⟨hfirst, hothers⟩ := List.forall_mem_cons.mp hrows
      obtain ⟨hfirst', hothers'⟩ := List.forall_mem_cons.mp hpresent
      exact ih hothers hothers' (h.ask hlimit hfirst hfirst')

/-- There is a next page exactly when there are rows left, after all that have been served. -/
theorem Progress.next_isSome_iff (h : Progress key present w) (hw : w.finished = false)
    (hlimit : 0 < limit) (hrows : (rows.map key).Nodup) :
    (page key limit w.cursor rows).next.isSome = true ↔
      ∃ r ∈ rows, ∀ x ∈ w.served ++ (page key limit w.cursor rows).data, key r < key x := by
  obtain ⟨hbelow, -⟩ := h.descending_append limit hw hrows
  cases hnext : (page key limit w.cursor rows).next with
  | none =>
      refine iff_of_false Bool.false_ne_true ?_
      rintro ⟨r, hr, hlast⟩
      have hr' : Below key w.cursor r := by
        cases hcursor : w.cursor with
        | none => trivial
        | some k =>
            obtain ⟨x, hx, rfl⟩ := h.last k hcursor
            exact hlast x (List.mem_append_left _ hx)
      refine lt_irrefl _ (hlast r (List.mem_append_right _ ?_))
      rw [page_of_next_none hlimit hnext]
      exact mem_rest.mpr ⟨hr, hr'⟩
  | some k =>
      refine iff_of_true rfl ?_
      have hsplit := page_of_next_some hrows hnext
      obtain ⟨r, hr, hlt⟩ := hsplit.left
      obtain ⟨hmem, hr'⟩ := mem_rest.mp hr
      refine ⟨r, hmem, fun x hx ↦ ?_⟩
      rcases List.mem_append.mp hx with hx | hx
      · exact h.above hw x hx r hr'
      · exact hlt.trans_le (hsplit.above x hx)

/-! ## A table that does not change -/

/-- Only rows of the table are served. -/
theorem mem_of_mem_served (h : ∀ r ∈ w.served, r ∈ rows) (n : ℕ) :
    ∀ r ∈ (Transition.run (Reading.ask key limit) w (List.replicate n rows)).served, r ∈ rows := by
  induction n generalizing w with
  | zero => exact h
  | succ n ih =>
      refine ih fun r hr ↦ ?_
      cases hw : w.finished with
      | true =>
          rw [ask_of_finished hw] at hr
          exact h r hr
      | false =>
          rw [ask_of_not_finished hw] at hr
          rcases List.mem_append.mp hr with hr | hr
          · exact h r hr
          · rw [page_data] at hr
            exact (mem_rest.mp (List.mem_of_mem_take hr)).1

/-- All pages but the last are full. -/
theorem length_served (hrows : (rows.map key).Nodup) (n : ℕ)
    (h : (Transition.run (Reading.ask key limit) (start ρ κ) (List.replicate n rows)).finished =
      false) :
    (Transition.run (Reading.ask key limit) (start ρ κ) (List.replicate n rows)).served.length =
      n * limit := by
  induction n with
  | zero => exact (Nat.zero_mul limit).symm
  | succ n ih =>
      rw [List.replicate_succ', Transition.run_append] at h ⊢
      generalize Transition.run (Reading.ask key limit) (start ρ κ) (List.replicate n rows) = w at *
      change (w.ask key limit rows).finished = false at h
      change (w.ask key limit rows).served.length = _
      cases hw : w.finished with
      | true =>
          rw [ask_of_finished hw, hw] at h
          cases h
      | false =>
          rw [ask_of_not_finished hw] at h ⊢
          cases hnext : (page key limit w.cursor rows).next with
          | none =>
              rw [hnext] at h
              cases h
          | some k =>
              have hfull := (page_of_next_some hrows hnext).full
              rw [List.length_append, ih hw, hfull, Nat.succ_mul]

theorem progress_replicate (hlimit : 0 < limit) (hrows : (rows.map key).Nodup) (n : ℕ) :
    Progress key (· ∈ rows)
      (Transition.run (Reading.ask key limit) (start ρ κ) (List.replicate n rows)) :=
  progress_run hlimit (fun _ ht ↦ List.eq_of_mem_replicate ht ▸ hrows)
    (fun _ ht _ hr ↦ List.eq_of_mem_replicate ht ▸ hr) progress_start

/-- A table is read in at most as many pages as it has rows, and one. -/
theorem finished_of_length_lt (hlimit : 0 < limit) (hrows : (rows.map key).Nodup) {n : ℕ}
    (h : rows.length < n) :
    (Transition.run (Reading.ask key limit) (start ρ κ) (List.replicate n rows)).finished =
      true := by
  by_contra hnot
  have hlength := length_served hrows n (Bool.eq_false_iff.mpr hnot)
  have hprogress := progress_replicate hlimit hrows n
  have hmem : ∀ r ∈ (Transition.run (Reading.ask key limit) (start ρ κ)
      (List.replicate n rows)).served, r ∈ rows :=
    mem_of_mem_served (fun r hr ↦ absurd hr List.not_mem_nil) n
  have hle := (hprogress.descending.nodup.subperm hmem).length_le
  have hmul : n ≤ n * limit := Nat.le_mul_of_pos_right n hlimit
  omega

/-- When it has been read it has been served, every row once. -/
theorem perm_of_finished (hlimit : 0 < limit) (hrows : (rows.map key).Nodup) {n : ℕ}
    (h : (Transition.run (Reading.ask key limit) (start ρ κ) (List.replicate n rows)).finished =
      true) :
    (Transition.run (Reading.ask key limit) (start ρ κ)
      (List.replicate n rows)).served.Perm rows := by
  have hprogress := progress_replicate hlimit hrows n
  refine (List.perm_ext_iff_of_nodup hprogress.descending.nodup hrows.of_map).mpr fun r ↦ ⟨?_, ?_⟩
  · exact mem_of_mem_served (fun r hr ↦ absurd hr List.not_mem_nil) n r
  · intro hr
    rcases hprogress.reached r hr with hserved | ⟨hmore, -⟩
    · exact hserved
    · rw [h] at hmore
      cases hmore

/-! ## A table that changes -/

/-- Where the keys of rows cannot get smaller for ever, reading comes to an end, whatever the table
is like at each page. -/
theorem exists_finished (hwf : WellFounded fun a b : ρ ↦ key a < key b) {tables : ℕ → List ρ}
    (hrows : ∀ n, ((tables n).map key).Nodup) :
    ∃ n, (Transition.run (Reading.ask key limit) (start ρ κ)
      ((List.range n).map tables)).finished = true := by
  set reading : ℕ → Reading ρ κ :=
    fun n ↦ Transition.run (Reading.ask key limit) (start ρ κ) ((List.range n).map tables)
    with hreading
  have hsucc : ∀ n, reading (n + 1) = (reading n).ask key limit (tables n) := by
    intro n
    rw [hreading]
    dsimp only
    rw [List.range_succ, List.map_append, Transition.run_append]
    rfl
  -- the next cursor is the key of a row that comes after this one
  have hstep : ∀ n, (reading n).finished = false → (reading (n + 1)).finished = false →
      ∃ x, (reading (n + 1)).cursor = some (key x) ∧ Below key (reading n).cursor x := by
    intro n hmore hmore'
    rw [hsucc, ask_of_not_finished hmore] at hmore' ⊢
    obtain ⟨k, hnext⟩ := Option.isSome_iff_exists.mp (Option.isNone_eq_false_iff.mp hmore')
    obtain ⟨x, hx, rfl⟩ := (page_of_next_some (hrows n) hnext).last
    rw [page_data] at hx
    exact ⟨x, hnext, (mem_rest.mp (List.mem_of_mem_take hx)).2⟩
  by_contra hnever
  have hmore : ∀ n, (reading n).finished = false :=
    fun n ↦ Bool.eq_false_iff.mpr fun h ↦ hnever ⟨n, h⟩
  have hcursor : ∀ x n, (reading n).cursor ≠ some (key x) := by
    intro x
    induction x using hwf.induction with
    | _ x ih =>
        intro n hx
        obtain ⟨x', hx', hbelow⟩ := hstep n (hmore n) (hmore (n + 1))
        rw [hx] at hbelow
        exact ih x' hbelow (n + 1) hx'
  obtain ⟨x, hx, -⟩ := hstep 0 (hmore 0) (hmore 1)
  exact hcursor x 1 hx

end Reading

end Keyset
