import GearshPayments.JavaScript.Json

/-!
# Reading JSON

`JSON.parse`, with the number of a numeral as a parameter.  The entries of an object stand in the
order in which they are written; of several with the same key the last one counts (`Json.get`).

What `JSON.stringify` writes of a string is read back (`readUnits_quoteUnits`), and so are objects
whose values are strings (`parse_stringify_fields`).  Every text it writes of them is well formed,
since surrogates without their counterparts are escaped.
-/

namespace JavaScript

/-! ## Strings -/

/-- The value of a hexadecimal digit in either case. -/
def hexUnitValue (u : CodeUnit) : Option ℕ :=
  if '0'.toNat ≤ u.val ∧ u.val ≤ '9'.toNat then some (u.val - '0'.toNat)
  else if 'a'.toNat ≤ u.val ∧ u.val ≤ 'f'.toNat then some (u.val - 'a'.toNat + 10)
  else if 'A'.toNat ≤ u.val ∧ u.val ≤ 'F'.toNat then some (u.val - 'A'.toNat + 10)
  else none

/-- The code unit of four hexadecimal digits. -/
def readHex (a b c d : CodeUnit) : Option CodeUnit := do
  let a ← hexUnitValue a
  let b ← hexUnitValue b
  let c ← hexUnitValue c
  let d ← hexUnitValue d
  return Fin.ofNat _ (a * 0x1000 + b * 0x100 + c * 0x10 + d)

/-- What a character after a backslash stands for. -/
def escapeValue (u : CodeUnit) : Option CodeUnit :=
  if u.val = '"'.toNat ∨ u.val = '\\'.toNat ∨ u.val = '/'.toNat then some u
  else if u.val = 'b'.toNat then some 0x08
  else if u.val = 'f'.toNat then some 0x0C
  else if u.val = 'n'.toNat then some 0x0A
  else if u.val = 'r'.toNat then some 0x0D
  else if u.val = 't'.toNat then some 0x09
  else none

/-- A code unit before what else has been read. -/
def consUnit (u : CodeUnit) (r : Text × Text) : Text × Text := (u :: r.1, r.2)

/-- Read a string up to its closing quotation mark. -/
def readUnits : Text → Option (Text × Text)
  | [] => none
  | u :: rest =>
    if u.val = 0x22 then some ([], rest)
    else if u.val = 0x5C then
      match rest with
      | [] => none
      | e :: rest =>
        if e.val = 'u'.toNat then
          match rest with
          | a :: b :: c :: d :: rest =>
            match readHex a b c d with
            | some unit => (readUnits rest).map (consUnit unit)
            | none => none
          | _ => none
        else
          match escapeValue e with
          | some unit => (readUnits rest).map (consUnit unit)
          | none => none
    else if u.val < 0x20 then none
    else (readUnits rest).map (consUnit u)

theorem readUnits_close (rest : Text) : readUnits (0x22 :: rest) = some ([], rest) := by
  rw [readUnits.eq_def]
  exact if_pos rfl

/-- A code unit that stands for itself. -/
theorem readUnits_cons {u : CodeUnit} (hquote : u.val ≠ 0x22) (hescape : u.val ≠ 0x5C)
    (hcontrol : ¬u.val < 0x20) (rest : Text) :
    readUnits (u :: rest) = (readUnits rest).map (consUnit u) := by
  rw [readUnits.eq_def]
  dsimp only
  rw [if_neg hquote, if_neg hescape, if_neg hcontrol]

/-- An escape of two characters. -/
theorem readUnits_escape {e unit : CodeUnit} (hunicode : e.val ≠ 'u'.toNat)
    (h : escapeValue e = some unit) (rest : Text) :
    readUnits (0x5C :: e :: rest) = (readUnits rest).map (consUnit unit) := by
  rw [readUnits.eq_def]
  dsimp only
  rw [if_neg (by decide), if_pos (by decide), if_neg hunicode, h]

theorem hexUnitValue_hexUnit {n : ℕ} (h : n < 16) : hexUnitValue (hexUnit n) = some n := by
  have hall : ∀ n : Fin 16, hexUnitValue (hexUnit n) = some n.val := by decide
  exact hall ⟨n, h⟩

theorem readHex_hexUnit (u : CodeUnit) :
    readHex (hexUnit (u.val / 0x1000)) (hexUnit (u.val / 0x100 % 0x10))
      (hexUnit (u.val / 0x10 % 0x10)) (hexUnit (u.val % 0x10)) = some u := by
  have hu := u.isLt
  have hvalue : u.val / 0x1000 * 0x1000 + u.val / 0x100 % 0x10 * 0x100 +
      u.val / 0x10 % 0x10 * 0x10 + u.val % 0x10 = u.val := by omega
  rw [readHex, hexUnitValue_hexUnit (by omega), hexUnitValue_hexUnit (by omega),
    hexUnitValue_hexUnit (by omega), hexUnitValue_hexUnit (by omega)]
  show some (Fin.ofNat _ _) = some u
  rw [hvalue]
  exact congrArg some (Fin.ext (Nat.mod_eq_of_lt hu))

theorem readUnits_unicodeEscape (u : CodeUnit) (rest : Text) :
    readUnits (unicodeEscape u ++ rest) = (readUnits rest).map (consUnit u) := by
  have hread := readHex_hexUnit u
  show readUnits (0x5C :: 0x75 :: hexUnit _ :: hexUnit _ :: hexUnit _ :: hexUnit _ :: rest) = _
  rw [readUnits.eq_def]
  dsimp only
  rw [if_neg (by decide), if_pos (by decide), if_pos (by decide), hread]

/-- What is written of a code unit is read back. -/
theorem readUnits_quoteUnit (u : CodeUnit) (rest : Text) :
    readUnits (quoteUnit u ++ rest) = (readUnits rest).map (consUnit u) := by
  have hself : ∀ v : CodeUnit, u.val = v.val → u = v := fun _ h ↦ Fin.ext h
  unfold quoteUnit
  split_ifs with h8 h9 hA hC hD h22 h5C hrest
  · rw [hself 0x08 h8]
    exact readUnits_escape (by decide) rfl rest
  · rw [hself 0x09 h9]
    exact readUnits_escape (by decide) rfl rest
  · rw [hself 0x0A hA]
    exact readUnits_escape (by decide) rfl rest
  · rw [hself 0x0C hC]
    exact readUnits_escape (by decide) rfl rest
  · rw [hself 0x0D hD]
    exact readUnits_escape (by decide) rfl rest
  · rw [hself 0x22 h22]
    exact readUnits_escape (by decide) rfl rest
  · rw [hself 0x5C h5C]
    exact readUnits_escape (by decide) rfl rest
  · exact readUnits_unicodeEscape u rest
  · exact readUnits_cons h22 h5C (fun h ↦ hrest (.inl h)) rest

/-- A string survives being written and read. -/
theorem readUnits_quoteUnits (s rest : Text) :
    readUnits (quoteUnits s ++ 0x22 :: rest) = some (s, rest) := by
  induction s using quoteUnits.induct with
  | case1 => exact readUnits_close rest
  | case2 u =>
      rw [quoteUnits, readUnits_quoteUnit, readUnits_close]
      rfl
  | case3 u v s hpair ih =>
      have hu : 0xD800 ≤ u.val := hpair.1.1
      have hv : 0xDC00 ≤ v.val := hpair.2.1
      rw [quoteUnits, if_pos hpair, List.cons_append, List.cons_append,
        readUnits_cons (by omega) (by omega) (by omega),
        readUnits_cons (by omega) (by omega) (by omega), ih]
      rfl
  | case4 u v s hpair ih =>
      rw [quoteUnits, if_neg hpair, List.append_assoc, readUnits_quoteUnit, ih]
      rfl

/-! ## What is written is well formed -/

theorem wellFormed_hexUnit {n : ℕ} (h : n < 16) : WellFormed [hexUnit n] := by
  have hall : ∀ n : Fin 16, (hexUnit n).val < 0xD800 := by decide
  have hlt : (hexUnit n).val < 0xD800 := hall ⟨n, h⟩
  exact wellFormed_singleton (by omega)

theorem wellFormed_quoteUnit (u : CodeUnit) : WellFormed (quoteUnit u) := by
  unfold quoteUnit
  split_ifs with h8 h9 hA hC hD h22 h5C hrest
  all_goals try exact wellFormed_utf16 _
  · have hu := u.isLt
    have hdigits := ((wellFormed_hexUnit (n := u.val / 0x1000) (by omega)).append
      (wellFormed_hexUnit (n := u.val / 0x100 % 0x10) (by omega))).append
      ((wellFormed_hexUnit (n := u.val / 0x10 % 0x10) (by omega)).append
      (wellFormed_hexUnit (n := u.val % 0x10) (by omega)))
    exact (wellFormed_utf16 _).append hdigits
  · refine wellFormed_singleton fun h ↦ hrest (.inr ?_)
    unfold IsHighSurrogate IsLowSurrogate
    omega

theorem wellFormed_quoteUnits (s : Text) : WellFormed (quoteUnits s) := by
  induction s using quoteUnits.induct with
  | case1 => exact wellFormed_utf16 []
  | case2 u => exact wellFormed_quoteUnit u
  | case3 u v s hpair ih =>
      rw [quoteUnits, if_pos hpair]
      exact (wellFormed_pair hpair.1 hpair.2).append ih
  | case4 u v s hpair ih =>
      rw [quoteUnits, if_neg hpair]
      exact (wellFormed_quoteUnit u).append ih

theorem wellFormed_quote (s : Text) : WellFormed (quote s) :=
  (wellFormed_utf16 _).append ((wellFormed_quoteUnits s).append (wellFormed_utf16 _))

/-! ## Values -/

def isJsonSpace (u : CodeUnit) : Bool := u.val = 0x09 ∨ u.val = 0x0A ∨ u.val = 0x0D ∨ u.val = 0x20

def skipSpace (s : Text) : Text := s.dropWhile isJsonSpace

/-- A word that has to come next. -/
def readWord (word s : Text) : Option Text :=
  if word <+: s then some (s.drop word.length) else none

def isDecimal (u : CodeUnit) : Bool := '0'.toNat ≤ u.val ∧ u.val ≤ '9'.toNat

/-- One or more digits. -/
def readDecimals (s : Text) : Option (Text × Text) :=
  if s.takeWhile isDecimal = [] then none else some (s.takeWhile isDecimal, s.dropWhile isDecimal)

/-- The sign of a numeral, if it has one of these. -/
def readSign (signs : Text) : Text → Text × Text
  | [] => ([], [])
  | u :: rest => if u ∈ signs then ([u], rest) else ([], u :: rest)

/-- A fraction or an exponent, if there is one. -/
def readPart (marks signs s : Text) : Option (Text × Text) :=
  match s with
  | [] => some ([], [])
  | u :: rest =>
    if u ∈ marks then
      let (sign, rest) := readSign signs rest
      (readDecimals rest).map fun r ↦ (u :: sign ++ r.1, r.2)
    else some ([], u :: rest)

/-- A numeral has no further digit after a leading zero. -/
def readNumeral (s : Text) : Option (Text × Text) := do
  let (sign, s) := readSign (utf16 ['-']) s
  let (int, s) ← readDecimals s
  if int.head? = some 0x30 ∧ int.length ≠ 1 then none
  else
    let (fraction, s) ← readPart (utf16 ['.']) [] s
    let (exponent, s) ← readPart (utf16 ['e', 'E']) (utf16 ['+', '-']) s
    return (sign ++ int ++ fraction ++ exponent, s)

namespace Json

variable {ν : Type}

/-- The property of a value, `none` if it has none of that name. -/
def get (key : Text) : Json ν → Option (Json ν)
  | .obj entries => entries.reverse.lookup key
  | _ => none

variable (numeral : Text → ν)

/-- `null`, a boolean or a number. -/
def readScalar (s : Text) : Option (Json ν × Text) :=
  match readWord (text "null") s, readWord (text "true") s, readWord (text "false") s with
  | some rest, _, _ => some (.null, rest)
  | none, some rest, _ => some (.bool true, rest)
  | none, none, some rest => some (.bool false, rest)
  | none, none, none => (readNumeral s).map fun r ↦ (.num (numeral r.1), r.2)

mutual

/-- A value at the start of a text, with what follows it.  Every step takes a code unit at least,
so that the length of the text is fuel enough. -/
def readValue : ℕ → Text → Option (Json ν × Text)
  | 0, _ => none
  | n + 1, s =>
    match skipSpace s with
    | [] => none
    | u :: rest =>
      if u.val = '"'.toNat then (readUnits rest).map fun r ↦ (.str r.1, r.2)
      else if u.val = '['.toNat then
        match skipSpace rest with
        | [] => none
        | v :: rest =>
          if v.val = ']'.toNat then some (.arr [], rest)
          else (readItems n (v :: rest)).map fun r ↦ (.arr r.1, r.2)
      else if u.val = '{'.toNat then
        match skipSpace rest with
        | [] => none
        | v :: rest =>
          if v.val = '}'.toNat then some (.obj [], rest)
          else (readEntries n (v :: rest)).map fun r ↦ (.obj r.1, r.2)
      else readScalar numeral (u :: rest)

/-- Items up to the closing bracket. -/
def readItems : ℕ → Text → Option (List (Json ν) × Text)
  | 0, _ => none
  | n + 1, s =>
    match readValue n s with
    | none => none
    | some (v, rest) =>
      match skipSpace rest with
      | [] => none
      | u :: rest =>
        if u.val = ','.toNat then (readItems n rest).map fun r ↦ (v :: r.1, r.2)
        else if u.val = ']'.toNat then some ([v], rest)
        else none

/-- Entries up to the closing brace. -/
def readEntries : ℕ → Text → Option (List (Text × Json ν) × Text)
  | 0, _ => none
  | n + 1, s =>
    match readWord (utf16 ['"']) (skipSpace s) >>= readUnits with
    | none => none
    | some (key, rest) =>
      match readWord (utf16 [':']) (skipSpace rest) >>= readValue n with
      | none => none
      | some (v, rest) =>
        match skipSpace rest with
        | [] => none
        | u :: rest =>
          if u.val = ','.toNat then (readEntries n rest).map fun r ↦ ((key, v) :: r.1, r.2)
          else if u.val = '}'.toNat then some ([(key, v)], rest)
          else none

end

/-- `JSON.parse(text)`, `none` where it throws. -/
def parse (s : Text) : Option (Json ν) :=
  match readValue numeral (s.length + 1) s with
  | none => none
  | some (v, rest) => if skipSpace rest = [] then some v else none

/-! ## Reading what was written -/

/-- Entries whose values are strings. -/
def fields (fs : List (Text × Text)) : List (Text × Json ν) := fs.map fun f ↦ (f.1, .str f.2)

theorem skipSpace_cons {u : CodeUnit} (h : isJsonSpace u = false) (rest : Text) :
    skipSpace (u :: rest) = u :: rest :=
  List.dropWhile_cons_of_neg (by rw [h]; exact Bool.false_ne_true)

theorem readValue_quote (n : ℕ) (s rest : Text) :
    readValue numeral (n + 1) (quote s ++ rest) = some (.str s, rest) := by
  have htext : quote s ++ rest = 0x22 :: (quoteUnits s ++ 0x22 :: rest) := by
    rw [quote, List.append_assoc, List.append_assoc]
    rfl
  rw [htext, readValue, skipSpace_cons (by decide)]
  dsimp only
  rw [if_pos (by decide), readUnits_quoteUnits]
  rfl

variable (numbers : NumberFormat ν)

/-- An entry whose value is a string, with what follows it. -/
theorem readEntries_quote (n : ℕ) (key s rest : Text) :
    readEntries numeral (n + 2) (quote key ++ 0x3A :: (quote s ++ rest)) =
      match skipSpace rest with
      | [] => none
      | u :: rest =>
        if u.val = ','.toNat then
          (readEntries numeral (n + 1) rest).map fun r ↦ ((key, .str s) :: r.1, r.2)
        else if u.val = '}'.toNat then some ([(key, .str s)], rest)
        else none := by
  have htext : quote key ++ 0x3A :: (quote s ++ rest) =
      0x22 :: (quoteUnits key ++ 0x22 :: 0x3A :: (quote s ++ rest)) := by
    rw [quote, List.append_assoc, List.append_assoc]
    rfl
  have hkey : readWord (utf16 ['"']) (skipSpace (quote key ++ 0x3A :: (quote s ++ rest))) >>=
      readUnits = some (key, 0x3A :: (quote s ++ rest)) := by
    rw [htext, skipSpace_cons (by decide)]
    exact readUnits_quoteUnits key _
  have hvalue : readWord (utf16 [':']) (skipSpace (0x3A :: (quote s ++ rest))) >>=
      readValue numeral (n + 1) = some (.str s, rest) := by
    rw [skipSpace_cons (by decide)]
    exact readValue_quote numeral n s rest
  rw [readEntries, hkey]
  dsimp only
  rw [hvalue]

theorem stringifyEntries_fields_singleton (key s rest : Text) :
    stringifyEntries numbers (fields [(key, s)]) ++ rest =
      quote key ++ 0x3A :: (quote s ++ rest) := by
  show quote key ++ [0x3A] ++ quote s ++ rest = _
  rw [List.append_assoc, List.append_assoc]
  rfl

theorem stringifyEntries_fields_cons (key s : Text) (g : Text × Text) (fs : List (Text × Text))
    (rest : Text) :
    stringifyEntries numbers (fields ((key, s) :: g :: fs)) ++ rest =
      quote key ++ 0x3A :: (quote s ++
        0x2C :: (stringifyEntries numbers (fields (g :: fs)) ++ rest)) := by
  show quote key ++ [0x3A] ++ quote s ++ [0x2C] ++ stringifyEntries numbers (fields (g :: fs)) ++
    rest = _
  simp only [List.append_assoc]
  rfl

theorem readEntries_fields {n : ℕ} (f : Text × Text) (fs : List (Text × Text))
    (hn : fs.length + 2 ≤ n) (rest : Text) :
    readEntries numeral n (stringifyEntries numbers (fields (f :: fs)) ++ 0x7D :: rest) =
      some (fields (f :: fs), rest) := by
  induction fs generalizing f n with
  | nil =>
      obtain ⟨m, rfl⟩ := Nat.exists_eq_add_of_le' hn
      rw [stringifyEntries_fields_singleton, List.length_nil, Nat.zero_add, readEntries_quote,
        skipSpace_cons (by decide)]
      dsimp only
      rw [if_neg (by decide), if_pos (by decide)]
      rfl
  | cons g fs ih =>
      rw [List.length_cons] at hn
      obtain ⟨m, rfl⟩ := Nat.exists_eq_add_of_le' (Nat.le_of_add_left_le hn)
      rw [stringifyEntries_fields_cons, readEntries_quote, skipSpace_cons (by decide)]
      dsimp only
      rw [if_pos (by decide), ih g (by omega)]
      rfl

/-- A field takes a code unit at least. -/
theorem length_le_stringifyEntries (fs : List (Text × Text)) :
    fs.length ≤ (stringifyEntries numbers (fields fs)).length := by
  have hquote : ∀ s : Text, 0 < (quote s).length := fun s ↦ Nat.succ_pos _
  induction fs with
  | nil => exact le_rfl
  | cons f fs ih =>
      cases fs with
      | nil =>
          have htext := stringifyEntries_fields_singleton numbers f.1 f.2 []
          rw [List.append_nil] at htext
          rw [htext, List.length_append]
          exact (hquote f.1).trans_le (Nat.le_add_right _ _)
      | cons g fs =>
          have htext := stringifyEntries_fields_cons numbers f.1 f.2 g fs []
          rw [List.append_nil, List.append_nil] at htext
          have hpos := hquote f.1
          rw [htext]
          simp only [List.length_append, List.length_cons] at ih ⊢
          omega

theorem exists_stringifyEntries (f : Text × Text) (fs : List (Text × Text)) :
    ∃ rest, stringifyEntries numbers (fields (f :: fs)) = 0x22 :: rest := by
  cases fs with
  | nil => exact ⟨_, rfl⟩
  | cons g fs => exact ⟨_, rfl⟩

/-- An object whose values are strings survives being written and read. -/
theorem parse_stringify_fields (f : Text × Text) (fs : List (Text × Text)) :
    parse numeral (stringify numbers (.obj (fields (f :: fs)))) =
      some (.obj (fields (f :: fs))) := by
  have htext : stringify numbers (.obj (fields (f :: fs))) =
      0x7B :: (stringifyEntries numbers (fields (f :: fs)) ++ [0x7D]) := rfl
  have hlength := length_le_stringifyEntries numbers (f :: fs)
  rw [List.length_cons] at hlength
  have hentries : readEntries numeral
      (0x7B :: (stringifyEntries numbers (fields (f :: fs)) ++ [0x7D])).length
      (stringifyEntries numbers (fields (f :: fs)) ++ [0x7D]) = some (fields (f :: fs), []) := by
    refine readEntries_fields numeral numbers f fs ?_ []
    simp only [List.length_cons, List.length_append]
    omega
  rw [parse, htext, readValue, skipSpace_cons (by decide)]
  dsimp only
  rw [if_neg (by decide), if_neg (by decide), if_pos (by decide)]
  obtain ⟨rest, hrest⟩ := exists_stringifyEntries numbers f fs
  rw [hrest, List.cons_append, skipSpace_cons (by decide)]
  dsimp only
  rw [if_neg (by decide), ← List.cons_append, ← hrest, hentries]
  rfl

theorem wellFormed_stringifyEntries_fields (fs : List (Text × Text)) :
    WellFormed (stringifyEntries numbers (fields fs)) := by
  induction fs with
  | nil => exact wellFormed_utf16 []
  | cons f fs ih =>
      have hfield : WellFormed (quote f.1 ++ utf16 [':'] ++ quote f.2) :=
        ((wellFormed_quote f.1).append (wellFormed_utf16 _)).append (wellFormed_quote f.2)
      cases fs with
      | nil => exact hfield
      | cons g fs => exact (hfield.append (wellFormed_utf16 _)).append ih

theorem wellFormed_stringify_fields (fs : List (Text × Text)) :
    WellFormed (stringify numbers (.obj (fields fs))) :=
  ((wellFormed_utf16 _).append (wellFormed_stringifyEntries_fields numbers fs)).append
    (wellFormed_utf16 _)

end Json

end JavaScript
