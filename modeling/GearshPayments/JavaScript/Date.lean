import GearshPayments.Calendar
import GearshPayments.JavaScript.Text

/-!
# JavaScript dates

A `Date` is its time value: the milliseconds since 1970-01-01, in UTC.  Here are the fields
of a date, how `toISOString` writes them, and how `new Date(text)` reads such a text back.
What it makes of a text in any other format is up to the implementation, and a parameter.
-/

namespace JavaScript.Date

def msPerDay : ℤ := 24 * 60 * 60 * 1000

/-- The time values that a `Date` may have. -/
def IsTime (t : ℤ) : Prop := -8640000000000000 ≤ t ∧ t ≤ 8640000000000000

instance (t : ℤ) : Decidable (IsTime t) := inferInstanceAs (Decidable (_ ∧ _))

/-- The calendar date, in UTC. -/
def utcDate (t : ℤ) : CivilDate := .ofDay (t / msPerDay)

def utcHours (t : ℤ) : ℕ := (t % msPerDay).toNat / 3600000

def utcMinutes (t : ℤ) : ℕ := (t % msPerDay).toNat / 60000 % 60

def utcSeconds (t : ℤ) : ℕ := (t % msPerDay).toNat / 1000 % 60

def utcMilliseconds (t : ℤ) : ℕ := (t % msPerDay).toNat % 1000

/-- `Date.UTC(year, month, date)`, with months counted from 0: years of two digits are those of the
twentieth century, and months and days that are out of range are carried over. -/
def utc (year month date : ℤ) : ℤ :=
  let year := if 0 ≤ year ∧ year ≤ 99 then 1900 + year else year
  let first : CivilDate := ⟨year + month / 12, month % 12 + 1, 1⟩
  (first.toDay + (date - 1)) * msPerDay

/-- The time value of a day and a time of day. -/
def makeTime (day : ℤ) (hours minutes seconds milliseconds : ℕ) : ℤ :=
  day * msPerDay + (hours * 3600000 + minutes * 60000 + seconds * 1000 + milliseconds : ℕ)

theorem makeTime_fields (t : ℤ) :
    makeTime (t / msPerDay) (utcHours t) (utcMinutes t) (utcSeconds t) (utcMilliseconds t) = t := by
  have hmod : 0 ≤ t % msPerDay := Int.emod_nonneg _ (by decide)
  have hdiv : t / msPerDay * msPerDay + t % msPerDay = t := Int.ediv_mul_add_emod t msPerDay
  simp only [makeTime, utcHours, utcMinutes, utcSeconds, utcMilliseconds]
  omega

theorem utcHours_lt (t : ℤ) : utcHours t < 24 := by
  have hlt : t % msPerDay < msPerDay := Int.emod_lt_of_pos _ (by decide)
  unfold utcHours
  unfold msPerDay at *
  omega

theorem utcMinutes_lt (t : ℤ) : utcMinutes t < 60 := Nat.mod_lt _ (by decide)

theorem utcSeconds_lt (t : ℤ) : utcSeconds t < 60 := Nat.mod_lt _ (by decide)

theorem utcMilliseconds_lt (t : ℤ) : utcMilliseconds t < 1000 := Nat.mod_lt _ (by decide)

/-- The years of time values have at most six digits. -/
theorem IsTime.natAbs_year_lt {t : ℤ} (h : IsTime t) : (utcDate t).year.natAbs < 10 ^ 6 := by
  obtain ⟨hlow, hhigh⟩ := h
  obtain ⟨hyear, hyear'⟩ := CivilDate.year_ofDay (t / msPerDay)
  unfold utcDate
  unfold msPerDay CivilDate.epoch at *
  omega

/-! ## Numerals of fixed width -/

/-- `String(n).padStart(width, '0')`. -/
def zeroPad (width n : ℕ) : List Char :=
  List.replicate (width - (Nat.toDigits 10 n).length) '0' ++ Nat.toDigits 10 n

theorem numeralValue_zeroPad (width n : ℕ) : numeralValue (zeroPad width n) = n := by
  have hzeros : numeralValue (List.replicate (width - (Nat.toDigits 10 n).length) '0') = 0 := by
    refine (numeralValue_eq_zero_iff fun d hd ↦ ?_).mpr fun d hd ↦ List.eq_of_mem_replicate hd
    rw [List.eq_of_mem_replicate hd]
    rfl
  rw [zeroPad, numeralValue_append, hzeros, Nat.mul_zero, Nat.zero_add, numeralValue_toDigits]

theorem isDigit_of_mem_zeroPad {width n : ℕ} {c : Char} (h : c ∈ zeroPad width n) :
    c.isDigit = true := by
  rcases List.mem_append.mp h with h | h
  · rw [List.eq_of_mem_replicate h]
    rfl
  · exact (isNumeral_toDigits n).2 c h

theorem length_zeroPad {width n : ℕ} (hwidth : 0 < width) (h : n < 10 ^ width) :
    (zeroPad width n).length = width := by
  have hlen : (Nat.toDigits 10 n).length ≤ width :=
    (Nat.length_toDigits_le_iff (by decide) hwidth).mpr h
  rw [zeroPad, List.length_append, List.length_replicate]
  omega

/-- A numeral of that many digits, at the start of a text. -/
def readDigits (width : ℕ) (cs : List Char) : Option (ℕ × List Char) :=
  if (cs.take width).length = width ∧ (cs.take width).all Char.isDigit then
    some (numeralValue (cs.take width), cs.drop width)
  else none

theorem readDigits_zeroPad {width n : ℕ} (hwidth : 0 < width) (h : n < 10 ^ width)
    (rest : List Char) : readDigits width (zeroPad width n ++ rest) = some (n, rest) := by
  have hlen := length_zeroPad hwidth h
  have htake : (zeroPad width n ++ rest).take width = zeroPad width n := List.take_left' hlen
  have hdrop : (zeroPad width n ++ rest).drop width = rest := List.drop_left' hlen
  have hdigits : (zeroPad width n).all Char.isDigit = true :=
    List.all_eq_true.mpr fun c hc ↦ isDigit_of_mem_zeroPad hc
  rw [readDigits, htake, hdrop, if_pos ⟨hlen, hdigits⟩, numeralValue_zeroPad]

theorem zeroPad_numeralValue {width : ℕ} {cs : List Char} (hwidth : 0 < width)
    (hlength : cs.length = width) (hdigits : ∀ c ∈ cs, c.isDigit = true) :
    zeroPad width (numeralValue cs) = cs := by
  have hlt : numeralValue cs < 10 ^ width := (numeralValue_lt hdigits).trans_eq (by rw [hlength])
  refine eq_of_numeralValue_eq (fun c ↦ isDigit_of_mem_zeroPad) hdigits ?_
    (numeralValue_zeroPad width _)
  rw [length_zeroPad hwidth hlt, hlength]

/-- What is read is what `zeroPad` writes. -/
theorem readDigits_eq_some_iff {width n : ℕ} (hwidth : 0 < width) {cs rest : List Char} :
    readDigits width cs = some (n, rest) ↔ n < 10 ^ width ∧ cs = zeroPad width n ++ rest := by
  constructor
  · intro h
    unfold readDigits at h
    split at h
    · next hdigits =>
        obtain ⟨hlength, hall⟩ := hdigits
        rw [List.all_eq_true] at hall
        cases h
        rw [zeroPad_numeralValue hwidth hlength hall, List.take_append_drop]
        exact ⟨(numeralValue_lt hall).trans_eq (by rw [hlength]), rfl⟩
    · cases h
  · rintro ⟨hn, rfl⟩
    exact readDigits_zeroPad hwidth hn rest

/-- A character that has to come next. -/
def expect (c : Char) : List Char → Option (List Char)
  | [] => none
  | d :: cs => if d = c then some cs else none

@[simp] theorem expect_cons (c : Char) (cs : List Char) : expect c (c :: cs) = some cs :=
  if_pos rfl

theorem expect_eq_some_iff {c : Char} {cs rest : List Char} :
    expect c cs = some rest ↔ cs = c :: rest := by
  cases cs with
  | nil => exact iff_of_false nofun nofun
  | cons d cs =>
      rw [expect, List.cons.injEq]
      by_cases hd : d = c
      · rw [if_pos hd, Option.some.injEq, and_iff_right hd]
      · rw [if_neg hd]
        exact iff_of_false nofun fun h ↦ hd h.1

/-! ## The ISO format -/

/-- Four digits, or a sign and six digits. -/
def isoYear (y : ℤ) : List Char :=
  if 0 ≤ y ∧ y ≤ 9999 then zeroPad 4 y.natAbs
  else (if y < 0 then '-' else '+') :: zeroPad 6 y.natAbs

def toISOString (t : ℤ) : List Char :=
  isoYear (utcDate t).year ++ '-' :: (zeroPad 2 (utcDate t).month.natAbs ++
    '-' :: (zeroPad 2 (utcDate t).day.natAbs ++ 'T' :: (zeroPad 2 (utcHours t) ++
    ':' :: (zeroPad 2 (utcMinutes t) ++ ':' :: (zeroPad 2 (utcSeconds t) ++
    '.' :: (zeroPad 3 (utcMilliseconds t) ++ ['Z']))))))

def readYear : List Char → Option (ℤ × List Char)
  | '+' :: cs => (readDigits 6 cs).map fun r ↦ ((r.1 : ℤ), r.2)
  | '-' :: cs => (readDigits 6 cs).map fun r ↦ (-(r.1 : ℤ), r.2)
  | cs => (readDigits 4 cs).map fun r ↦ ((r.1 : ℤ), r.2)

/-- Read the fields of a text in the format of `toISOString`. -/
def readISO (cs : List Char) : Option ℤ := do
  let (year, cs) ← readYear cs
  let cs ← expect '-' cs
  let (month, cs) ← readDigits 2 cs
  let cs ← expect '-' cs
  let (day, cs) ← readDigits 2 cs
  let cs ← expect 'T' cs
  let (hours, cs) ← readDigits 2 cs
  let cs ← expect ':' cs
  let (minutes, cs) ← readDigits 2 cs
  let cs ← expect ':' cs
  let (seconds, cs) ← readDigits 2 cs
  let cs ← expect '.' cs
  let (milliseconds, _) ← readDigits 3 cs
  return makeTime (CivilDate.toDay ⟨year, month, day⟩) hours minutes seconds milliseconds

/-- `new Date(text)`: what `toISOString` writes is read back; `other` is what the implementation
makes of other texts. -/
def parse (other : List Char → Option ℤ) (cs : List Char) : Option ℤ :=
  match readISO cs with
  | some t => if IsTime t ∧ toISOString t = cs then some t else other cs
  | none => other cs

/-- A year without a sign. -/
theorem readYear_of_isDigit {c : Char} (h : c.isDigit = true) (cs : List Char) :
    readYear (c :: cs) = (readDigits 4 (c :: cs)).map fun r ↦ ((r.1 : ℤ), r.2) := by
  unfold readYear
  split
  · next heq =>
      cases heq
      cases h
  · next heq =>
      cases heq
      cases h
  · rfl

theorem readYear_isoYear {y : ℤ} (h : y.natAbs < 10 ^ 6) (rest : List Char) :
    readYear (isoYear y ++ rest) = some (y, rest) := by
  by_cases hplain : 0 ≤ y ∧ y ≤ 9999
  · have hsmall : y.natAbs < 10 ^ 4 := by omega
    have hread := readDigits_zeroPad (by decide) hsmall rest
    have hvalue : (y.natAbs : ℤ) = y := Int.natAbs_of_nonneg hplain.1
    obtain ⟨c, cs, hcs⟩ : ∃ c cs, zeroPad 4 y.natAbs = c :: cs := by
      refine List.exists_cons_of_length_pos ?_
      rw [length_zeroPad (by decide) hsmall]
      decide
    have hdigit : c.isDigit = true := isDigit_of_mem_zeroPad (hcs ▸ List.mem_cons_self)
    rw [isoYear, if_pos hplain, hcs, List.cons_append, readYear_of_isDigit hdigit,
      ← List.cons_append, ← hcs, hread, Option.map_some, hvalue]
  · rw [isoYear, if_neg hplain, List.cons_append]
    by_cases hneg : y < 0
    · have hvalue : -(y.natAbs : ℤ) = y := by omega
      rw [if_pos hneg, readYear, readDigits_zeroPad (by decide) h, Option.map_some, hvalue]
    · have hvalue : (y.natAbs : ℤ) = y := by omega
      rw [if_neg hneg, readYear, readDigits_zeroPad (by decide) h, Option.map_some, hvalue]

theorem readISO_toISOString {t : ℤ} (h : IsTime t) : readISO (toISOString t) = some t := by
  obtain ⟨hmonth, hmonth'⟩ := CivilDate.month_ofDay (t / msPerDay)
  obtain ⟨hday, hday'⟩ := CivilDate.day_ofDay (t / msPerDay)
  have hm : (utcDate t).month.natAbs < 10 ^ 2 := by
    unfold utcDate
    omega
  have hd : (utcDate t).day.natAbs < 10 ^ 2 := by
    unfold utcDate
    omega
  have hhours : utcHours t < 10 ^ 2 := (utcHours_lt t).trans (by decide)
  have hminutes : utcMinutes t < 10 ^ 2 := (utcMinutes_lt t).trans (by decide)
  have hseconds : utcSeconds t < 10 ^ 2 := (utcSeconds_lt t).trans (by decide)
  have hms : utcMilliseconds t < 10 ^ 3 := utcMilliseconds_lt t
  have hdate : (⟨(utcDate t).year, (utcDate t).month.natAbs, (utcDate t).day.natAbs⟩ : CivilDate) =
      utcDate t := by
    unfold utcDate
    rw [Int.natAbs_of_nonneg (by omega), Int.natAbs_of_nonneg (by omega)]
  unfold readISO toISOString
  simp only [readYear_isoYear h.natAbs_year_lt, readDigits_zeroPad (by decide) hm,
    readDigits_zeroPad (by decide) hd, readDigits_zeroPad (by decide) hhours,
    readDigits_zeroPad (by decide) hminutes, readDigits_zeroPad (by decide) hseconds,
    readDigits_zeroPad (by decide) hms, expect_cons, Option.bind_eq_bind, Option.bind_some,
    Option.pure_def]
  rw [hdate, utcDate, CivilDate.toDay_ofDay, makeTime_fields]

/-- A date survives being written and read. -/
theorem parse_toISOString {t : ℤ} (h : IsTime t) (other : List Char → Option ℤ) :
    parse other (toISOString t) = some t := by
  rw [parse, readISO_toISOString h]
  exact if_pos ⟨h, rfl⟩

end JavaScript.Date
