import GearshPayments.Reconciliation.Run

/-!
# Dates that an admin asks for

`parseYmdAsSast` of `admin.service.ts`, and `triggerReconciliation`, which starts a run for such a
date.  Any digits in the places of `YYYY-MM-DD` are taken, and handed to `Date.UTC`, which carries
months and days that are out of range over to the next; so the day that is scanned is the one that
was asked for exactly if the calendar has that date and its year has four digits without a zero in
front (`parseYmdAsSast_denotes_iff`).
-/

namespace GearshPayments

open Resumption ReconciliationService
open JavaScript (Date.msPerDay Date.utc Date.zeroPad Date.readDigits Date.expect)

namespace AdminService

/-- The groups of `/^(\d{4})-(\d{2})-(\d{2})$/`, as numbers. -/
def matchYmd (ymd : List Char) : Option (ℕ × ℕ × ℕ) := do
  let (year, cs) ← Date.readDigits 4 ymd
  let cs ← Date.expect '-' cs
  let (month, cs) ← Date.readDigits 2 cs
  let cs ← Date.expect '-' cs
  let (day, cs) ← Date.readDigits 2 cs
  if cs = [] then return (year, month, day) else none

def parseYmdAsSast (ymd : List Char) : Except Failure ℤ :=
  match matchYmd ymd with
  | none => .error (.withDetail .validationFailed
      s!"Invalid date \"{String.ofList ymd}\". Expected YYYY-MM-DD.")
  | some (year, month, day) => .ok (Date.utc year (month - 1) day - sastOffsetMs)

/-- An empty text asks for no date. -/
def requestedDate : Option (List Char) → Except Failure (Option ℤ)
  | none => .ok none
  | some [] => .ok none
  | some ymd => some <$> parseYmdAsSast ymd

/-- The id of the run that is made. -/
def triggerReconciliation (config : ReconciliationConfig) (message : Failure → String)
    (fetchForDate : HistoryAdapter) (asOfDate : Option (List Char)) (now : ℤ) : Service ℕ := do
  let target ← Resumption.ofExcept (requestedDate asOfDate)
  let outcome ← runForDate config message fetchForDate target now
  return outcome.runId

/-! ## Texts of the format -/

/-- The text with these numbers in the places of `YYYY-MM-DD`. -/
def spell (year month day : ℕ) : List Char :=
  Date.zeroPad 4 year ++ '-' :: (Date.zeroPad 2 month ++ '-' :: Date.zeroPad 2 day)

theorem matchYmd_eq_some_iff {s : List Char} {year month day : ℕ} :
    matchYmd s = some (year, month, day) ↔
      (year < 10 ^ 4 ∧ month < 10 ^ 2 ∧ day < 10 ^ 2) ∧ s = spell year month day := by
  constructor
  · intro h
    simp only [matchYmd, Option.bind_eq_bind, Option.bind_eq_some_iff, Prod.exists,
      JavaScript.Date.readDigits_eq_some_iff (by decide : 0 < 4),
      JavaScript.Date.readDigits_eq_some_iff (by decide : 0 < 2),
      JavaScript.Date.expect_eq_some_iff] at h
    obtain ⟨y, cs, ⟨hy, rfl⟩, cs, rfl, m, cs, ⟨hm, rfl⟩, cs, rfl, d, cs, ⟨hd, rfl⟩, hend⟩ := h
    split at hend
    · next hnil =>
        cases hend
        refine ⟨⟨hy, hm, hd⟩, ?_⟩
        rw [spell, hnil, List.append_nil]
    · cases hend
  · rintro ⟨⟨hy, hm, hd⟩, rfl⟩
    have hday := JavaScript.Date.readDigits_zeroPad (by decide) hd []
    rw [List.append_nil] at hday
    simp only [matchYmd, spell, Option.bind_eq_bind, Option.bind_some,
      JavaScript.Date.readDigits_zeroPad (by decide) hy,
      JavaScript.Date.readDigits_zeroPad (by decide) hm, hday, JavaScript.Date.expect_cons]
    rfl

theorem hyphen_not_mem_zeroPad (width n : ℕ) : '-' ∉ Date.zeroPad width n := fun h ↦
  Bool.false_ne_true (JavaScript.Date.isDigit_of_mem_zeroPad h)

/-- Four digits are a year as it is written if the first one is not zero. -/
theorem yearText_eq_zeroPad_iff {year : ℤ} {n : ℕ} (hn : n < 10 ^ 4) :
    yearText year = Date.zeroPad 4 n ↔ year = n ∧ 1000 ≤ n := by
  constructor
  · intro h
    have hlength := JavaScript.Date.length_zeroPad (by decide) hn
    unfold yearText at h
    split at h
    · refine absurd ?_ (hyphen_not_mem_zeroPad 4 n)
      rw [← h]
      exact List.mem_cons_self
    · next hsign =>
        rw [List.nil_append] at h
        have hvalue : year.natAbs = n := by
          rw [← JavaScript.numeralValue_toDigits year.natAbs, h,
            JavaScript.Date.numeralValue_zeroPad]
        rw [← h, hvalue] at hlength
        refine ⟨by omega, Nat.not_lt.mp fun hlt ↦ ?_⟩
        have hle := (Nat.length_toDigits_le_iff (b := 10) (k := 3) (by decide) (by decide)).mpr hlt
        omega
  · rintro ⟨rfl, hle⟩
    have hlong : 4 ≤ (Nat.toDigits 10 n).length := by
      refine Nat.not_lt.mp fun hlt ↦ ?_
      have hsmall := (Nat.length_toDigits_le_iff (b := 10) (k := 3) (by decide) (by decide)).mp
        (Nat.le_of_lt_succ hlt)
      omega
    rw [yearText, if_neg (by omega), List.nil_append, Int.natAbs_natCast, JavaScript.Date.zeroPad,
      Nat.sub_eq_zero_of_le hlong, List.replicate_zero, List.nil_append]

/-- `dateToYmd` leaves out the zeros in front of a year. -/
theorem ymd_eq_spell_iff (date : CivilDate) (hmonth : 0 ≤ date.month ∧ date.month < 100)
    (hday : 0 ≤ date.day ∧ date.day < 100) {year month day : ℕ} (hyear : year < 10 ^ 4)
    (hm : month < 10 ^ 2) (hd : day < 10 ^ 2) :
    ymd date = spell year month day ↔ date = ⟨year, month, day⟩ ∧ 1000 ≤ year := by
  have htwo : ∀ n : ℕ, n < 10 ^ 2 → (Date.zeroPad 2 n).length = 2 := fun n hn ↦
    JavaScript.Date.length_zeroPad (by decide) hn
  have hmonth' := htwo date.month.natAbs (by omega)
  have hday' := htwo date.day.natAbs (by omega)
  constructor
  · intro h
    obtain ⟨hy, hrest⟩ := List.append_inj' h (by
      simp only [List.length_cons, List.length_append, hmonth', hday', htwo month hm, htwo day hd])
    obtain ⟨hm', hd'⟩ :=
      List.append_inj (List.cons_injective hrest) (by rw [hmonth', htwo month hm])
    have hmonthEq : date.month = month := by
      have := zeroPad_injective 2 hm'
      omega
    have hdayEq : date.day = day := by
      have := zeroPad_injective 2 (List.cons_injective hd')
      omega
    obtain ⟨hyearEq, hle⟩ := (yearText_eq_zeroPad_iff hyear).mp hy
    exact ⟨CivilDate.ext hyearEq hmonthEq hdayEq, hle⟩
  · rintro ⟨rfl, hle⟩
    rw [ymd, spell, (yearText_eq_zeroPad_iff hyear).mpr ⟨rfl, hle⟩, Int.natAbs_natCast,
      Int.natAbs_natCast]

/-! ## The day of a text -/

/-- The number of the day that `Date.UTC` finds for a year, a month and a day. -/
def spelledDay (year month day : ℕ) : ℤ := Date.utc year (month - 1) day / Date.msPerDay

theorem utc_eq (year month date : ℤ) : ∃ day, Date.utc year month date = day * Date.msPerDay :=
  ⟨_, rfl⟩

theorem utc_eq_spelledDay (year month day : ℕ) :
    Date.utc year (month - 1) day = spelledDay year month day * Date.msPerDay := by
  obtain ⟨n, hn⟩ := utc_eq year (month - 1) day
  rw [spelledDay, hn, Int.mul_ediv_cancel _ (by decide)]

/-- A date that the calendar has, of a year with more than two digits, is found as it is. -/
theorem spelledDay_of_valid {year month day : ℕ} (hyear : 1000 ≤ year)
    (h : (⟨year, month, day⟩ : CivilDate).Valid) :
    spelledDay year month day = CivilDate.toDay ⟨year, month, day⟩ := by
  obtain ⟨hm, hm'⟩ := h.month
  dsimp only at hm hm'
  have hcarry : ((month : ℤ) - 1) / 12 = 0 := by omega
  have hrest : ((month : ℤ) - 1) % 12 + 1 = month := by omega
  rw [spelledDay, Date.utc, if_neg (by omega), hcarry, hrest, add_zero,
    Int.mul_ediv_cancel _ (by decide)]
  simp only [CivilDate.toDay]
  omega

/-- The instants of all texts that are taken are those of a `Date`. -/
theorem isTime_of_parse {s : List Char} {t : ℤ} (h : parseYmdAsSast s = .ok t) :
    JavaScript.Date.IsTime t := by
  unfold parseYmdAsSast at h
  split at h
  · cases h
  · next year month day hmatch =>
      cases h
      obtain ⟨⟨hyear, hmonth, hday⟩, -⟩ := matchYmd_eq_some_iff.mp hmatch
      have hfirst : ∀ y : ℤ, 0 ≤ y → y ≤ 9999 → ∀ m : ℤ, -1 ≤ m → m ≤ 98 →
          -1000000 ≤ CivilDate.toDay ⟨y + m / 12, m % 12 + 1, 1⟩ ∧
            CivilDate.toDay ⟨y + m / 12, m % 12 + 1, 1⟩ ≤ 3000000 := by
        intro y hy hy' m hm hm'
        simp only [CivilDate.toDay, CivilDate.yearCarry, CivilDate.daysBefore,
          CivilDate.daysBeforeMonth, CivilDate.marchMonth, CivilDate.epoch]
        omega
      have hbound := hfirst (if 0 ≤ (year : ℤ) ∧ (year : ℤ) ≤ 99 then 1900 + year else year)
        (by omega) (by omega) (month - 1) (by omega) (by omega)
      unfold JavaScript.Date.IsTime Date.utc sastOffsetMs Date.msPerDay
      dsimp only
      omega

/-- The day that begins at the instant that is returned. -/
theorem startOfSastDay_spelled (day : ℤ) :
    startOfSastDay (day * Date.msPerDay - sastOffsetMs) = day * Date.msPerDay - sastOffsetMs := by
  have hmod : (day * Date.msPerDay).tmod Date.msPerDay = 0 := Int.mul_tmod_left _ _
  simp only [startOfSastDay, sub_add_cancel, hmod, sub_zero]

theorem dateToYmd_spelled (day : ℤ) :
    dateToYmd (startOfSastDay (day * Date.msPerDay - sastOffsetMs)) = ymd (.ofDay day) := by
  rw [startOfSastDay_spelled, dateToYmd, sub_add_cancel, JavaScript.Date.utcDate,
    Int.mul_ediv_cancel _ (by decide)]

/-- For every text: it is refused, or the window of the instant that is returned is that of the
date it spells, if and only if it is not of the format, or its year does not begin with a zero and
the calendar has the date. -/
theorem parseYmdAsSast_denotes_iff (s : List Char) :
    ((∃ e, parseYmdAsSast s = .error e) ∨
      ∃ t, parseYmdAsSast s = .ok t ∧ dateToYmd (startOfSastDay t) = s) ↔
    ∀ year month day, matchYmd s = some (year, month, day) →
      1000 ≤ year ∧ (⟨year, month, day⟩ : CivilDate).Valid := by
  unfold parseYmdAsSast
  cases hmatch : matchYmd s with
  | none => exact iff_of_true (.inl ⟨_, rfl⟩) nofun
  | some groups =>
      obtain ⟨year, month, day⟩ := groups
      obtain ⟨⟨hyear, hmonth, hday⟩, rfl⟩ := matchYmd_eq_some_iff.mp hmatch
      obtain ⟨hm, hm'⟩ := CivilDate.month_ofDay (spelledDay year month day)
      obtain ⟨hd, hd'⟩ := CivilDate.day_ofDay (spelledDay year month day)
      have hspell := ymd_eq_spell_iff (.ofDay (spelledDay year month day))
        ⟨by omega, by omega⟩ ⟨by omega, by omega⟩ hyear hmonth hday
      dsimp only
      rw [utc_eq_spelledDay]
      constructor
      · rintro (⟨e, he⟩ | ⟨t, ht, hdate⟩) y m d hgroups
        · cases he
        · cases ht
          cases hgroups
          rw [dateToYmd_spelled, hspell] at hdate
          refine ⟨hdate.2, ?_⟩
          rw [← hdate.1]
          exact CivilDate.valid_ofDay _
      · intro h
        obtain ⟨hle, hvalid⟩ := h year month day rfl
        refine .inr ⟨_, rfl, ?_⟩
        rw [dateToYmd_spelled, hspell, spelledDay_of_valid hle hvalid, CivilDate.ofDay_toDay hvalid]
        exact ⟨rfl, hle⟩

/-- A run for a text that is taken scans the day of the date it spells, if the calendar has it. -/
theorem scannedDay_of_parse {s : List Char} {year month day : ℕ}
    (hmatch : matchYmd s = some (year, month, day)) (hyear : 1000 ≤ year)
    (hvalid : (⟨year, month, day⟩ : CivilDate).Valid) (now : ℤ) :
    ∃ t, requestedDate (some s) = .ok (some t) ∧
      CivilDate.ofDay (scannedDay (some t) now) = ⟨year, month, day⟩ := by
  have hparse : requestedDate (some s) =
      .ok (some (Date.utc year (month - 1) day - sastOffsetMs)) := by
    cases s with
    | nil => cases hmatch
    | cons c cs =>
        change some <$> parseYmdAsSast (c :: cs) = _
        rw [parseYmdAsSast, hmatch]
        rfl
  refine ⟨_, hparse, ?_⟩
  rw [scannedDay, targetDay, utc_eq_spelledDay, startOfSastDay_spelled, sastDay, sub_add_cancel,
    Int.mul_ediv_cancel _ (by decide), spelledDay_of_valid hyear hvalid,
    CivilDate.ofDay_toDay hvalid]

/-- For a text that is refused there is no run. -/
theorem triggerReconciliation_of_error {asOfDate : Option (List Char)} {e : Failure}
    (h : requestedDate asOfDate = .error e) (config : ReconciliationConfig)
    (message : Failure → String) (fetchForDate : HistoryAdapter) (now : ℤ) :
    triggerReconciliation config message fetchForDate asOfDate now = .throw e := by
  rw [triggerReconciliation, h]
  rfl

/-- 31 February is taken for 3 March. -/
theorem parseYmdAsSast_carries :
    ∃ t, parseYmdAsSast "2026-02-31".toList = .ok t ∧
      dateToYmd (startOfSastDay t) = "2026-03-03".toList ∧
      ¬((∃ e, parseYmdAsSast "2026-02-31".toList = .error e) ∨
        ∃ t, parseYmdAsSast "2026-02-31".toList = .ok t ∧
          dateToYmd (startOfSastDay t) = "2026-02-31".toList) := by
  have hmatch : matchYmd "2026-02-31".toList = some (2026, 2, 31) := by decide
  have hparse : parseYmdAsSast "2026-02-31".toList =
      .ok (Date.utc 2026 1 31 - sastOffsetMs) := by
    rw [parseYmdAsSast, hmatch]
    rfl
  rw [hparse]
  refine ⟨_, rfl, by decide, ?_⟩
  rintro (⟨e, he⟩ | ⟨t, ht, hdate⟩)
  · cases he
  · cases ht
    exact absurd hdate (by decide)

end AdminService

end GearshPayments
