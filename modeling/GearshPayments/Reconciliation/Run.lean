import GearshPayments.JavaScript.Date
import GearshPayments.Reconciliation.FalseAlarm
import GearshPayments.Resumption.Knowledge

/-!
# Runs of reconciliation

`reconciliation.service.ts`: a run scans the ledger entries of a South African day, compares the
gateway's history of that day with the local rows, and files what it finds in a row of its own.
The day is passed around as the instant at which it begins, which is 22:00 UTC of the day before.

The row has a column for the date alone, which keeps the date of that instant in UTC
(`conforms_runForDate`).
-/

namespace GearshPayments

open JavaScript (Date.msPerDay)

/-! ## The service -/

/-- `config`, as far as a run reads it. -/
structure ReconciliationConfig where
  alertThresholdCents : ℤ
  payfastEnabled : Bool

structure GatewayTransaction where
  pfPaymentId : String
  amountCents : ℤ
  status : String

structure GatewayRefund where
  gatewayRefundId : String
  amountCents : ℤ

structure GatewayPayout where
  gatewayPayoutId : String
  amountCents : ℤ

structure PayFastDailyHistory where
  transactions : List GatewayTransaction
  refunds : List GatewayRefund
  payouts : List GatewayPayout

/-- The adapter for the gateway's history: it throws, has none, or has one. -/
abbrev HistoryAdapter := ℤ → Except Failure (Option PayFastDailyHistory)

structure ReconciliationOutcome where
  runId : ℕ
  asOfDate : List Char
  findingsCount : ℕ
  alertSent : Bool
  state : ReconciliationRunState

namespace ReconciliationService

/-! ### Dates -/

def sastOffsetMs : ℤ := 2 * 60 * 60 * 1000

def startOfSastDay (date : ℤ) : ℤ :=
  let sastMillis := date + sastOffsetMs
  let truncated := sastMillis - sastMillis.tmod Date.msPerDay
  truncated - sastOffsetMs

def previousSastDay (now : ℤ) : ℤ := startOfSastDay now - Date.msPerDay

/-- `String(year)` -/
def yearText (year : ℤ) : List Char :=
  (if year < 0 then ['-'] else []) ++ Nat.toDigits 10 year.natAbs

/-- The year, the month and the day, with hyphens between them. -/
def ymd (date : CivilDate) : List Char :=
  yearText date.year ++
    '-' :: (JavaScript.Date.zeroPad 2 date.month.natAbs ++
      '-' :: JavaScript.Date.zeroPad 2 date.day.natAbs)

def dateToYmd (date : ℤ) : List Char := ymd (JavaScript.Date.utcDate (date + sastOffsetMs))

/-- A date of the calendar is read from the database as its midnight in UTC. -/
def midnight (date : CivilDate) : ℤ := date.toDay * Date.msPerDay

/-- The start of the day to scan; `none` is for `undefined`. -/
def targetDay (asOfDate : Option ℤ) (now : ℤ) : ℤ :=
  match asOfDate with
  | some date => startOfSastDay date
  | none => previousSastDay now

/-! ### The gateway's history -/

def skipped (detail : String) : ReconciliationFinding where
  code := "PAYFAST_RECONCILIATION_SKIPPED"
  severity := .info
  detail := detail
  context := []

def missingTransaction (pf : GatewayTransaction) : ReconciliationFinding where
  code := "PAYFAST_TRANSACTION_MISSING_LOCAL"
  severity := .high
  detail := s!"PayFast txn {pf.pfPaymentId} (amount={pf.amountCents}) has no SUCCEEDED local row."
  context := [("pfPaymentId", pf.pfPaymentId), ("amountCents", toString pf.amountCents)]

def mismatchedTransaction (pf : GatewayTransaction) (found : Transaction) :
    ReconciliationFinding where
  code := "PAYFAST_TRANSACTION_MISSING_LOCAL"
  severity := .high
  detail := s!"Amount mismatch on PayFast txn {pf.pfPaymentId}: local={found.amountCents} vs gateway={pf.amountCents}."
  context := [("pfPaymentId", pf.pfPaymentId), ("localAmountCents", toString found.amountCents),
    ("gatewayAmountCents", toString pf.amountCents)]

def missingRefund (pf : GatewayRefund) : ReconciliationFinding where
  code := "PAYFAST_REFUND_MISSING_LOCAL"
  severity := .high
  detail := s!"PayFast refund {pf.gatewayRefundId} (amount={pf.amountCents}) has no SUCCEEDED local row."
  context := [("gatewayRefundId", pf.gatewayRefundId), ("amountCents", toString pf.amountCents)]

def missingPayout (pf : GatewayPayout) : ReconciliationFinding where
  code := "PAYFAST_PAYOUT_MISSING_LOCAL"
  severity := .high
  detail := s!"PayFast payout {pf.gatewayPayoutId} (amount={pf.amountCents}) has no SUCCEEDED local row."
  context := [("gatewayPayoutId", pf.gatewayPayoutId), ("amountCents", toString pf.amountCents)]

def checkTransaction (pf : GatewayTransaction) : Service (Option ReconciliationFinding) := do
  match ← Resumption.read fun s ↦ s.transactions.find? fun t ↦
      t.gatewayTxnId = some pf.pfPaymentId ∧ t.state = .succeeded with
  | none => return some (missingTransaction pf)
  | some found =>
    return if found.amountCents ≠ pf.amountCents then some (mismatchedTransaction pf found)
      else none

def checkRefund (pf : GatewayRefund) : Service (Option ReconciliationFinding) := do
  match ← Resumption.read fun s ↦ s.refunds.find? fun r ↦
      r.gatewayRefundId = some pf.gatewayRefundId ∧ r.state = .succeeded with
  | none => return some (missingRefund pf)
  | some _ => return none

def checkPayout (pf : GatewayPayout) : Service (Option ReconciliationFinding) := do
  match ← Resumption.read fun s ↦ s.payouts.find? fun p ↦
      p.gatewayPayoutId = some pf.gatewayPayoutId ∧ p.state = .succeeded with
  | none => return some (missingPayout pf)
  | some _ => return none

def findingsCap : ℕ := 50

/-- One of the loops over the history: the findings, and whether there are as many as may be. -/
def checkEach {α : Type} (check : α → Service (Option ReconciliationFinding)) :
    List α → List ReconciliationFinding → Service (List ReconciliationFinding × Bool)
  | [], findings => return (findings, false)
  | pf :: rest, findings => do
    let finding ← check pf
    let findings := findings ++ finding.toList
    if findings.length ≥ findingsCap then return (findings, true)
    else checkEach check rest findings

def checkPayFastAgainstLocal (history : PayFastDailyHistory) :
    Service (List ReconciliationFinding) := do
  let complete := history.transactions.filter fun pf ↦ pf.status = "COMPLETE"
  let (findings, full) ← checkEach checkTransaction complete []
  if full then return findings
  let (findings, full) ← checkEach checkRefund history.refunds findings
  if full then return findings
  let (findings, _) ← checkEach checkPayout history.payouts findings
  return findings

def crossCheck (config : ReconciliationConfig) (fetchForDate : HistoryAdapter) (target : ℤ) :
    Service (List ReconciliationFinding) := do
  if ¬config.payfastEnabled then
    return [skipped "PayFast credentials are not configured — skipping gateway cross-check."]
  else
    match ← Resumption.ofExcept (fetchForDate target) with
    | none => return [skipped "PayFast reporting adapter returned no history for the day."]
    | some history => checkPayFastAgainstLocal history

/-! ### The run -/

def startedRow (target : ℤ) (id now : ℕ) : ReconciliationRun where
  id := id
  asOfDate := JavaScript.Date.utcDate target
  startedAt := now
  completedAt := none
  state := .running
  findingsCount := 0
  findings := []
  alertSent := false
  createdAt := now

def completeRun (runId : ℕ) (findings : List ReconciliationFinding) (alertWorthy : Bool) :
    Tx ReconciliationRun := do
  let now ← Tx.now
  Tx.updateReconciliationRun runId fun run ↦
    { run with
      state := .completed
      completedAt := some now
      findings
      findingsCount := findings.length
      alertSent := alertWorthy }

/-- What is found in addition when a run throws. -/
def failure (message : String) : ReconciliationFinding where
  code := "INVARIANT_A_EVENT_IMBALANCE"
  severity := .high
  detail := message
  context := []

def failRun (runId : ℕ) (findings : List ReconciliationFinding) (message : String) :
    Tx ReconciliationRun := do
  let now ← Tx.now
  Tx.updateReconciliationRun runId fun run ↦
    { run with
      state := .failed
      completedAt := some now
      findings := findings ++ [failure message]
      findingsCount := findings.length + 1 }

section Run

variable (config : ReconciliationConfig) (message : Failure → String)
  (fetchForDate : HistoryAdapter)

/-- The end of a run that throws with these findings so far. -/
def rethrow {α : Type} (runId : ℕ) (findings : List ReconciliationFinding) (err : Failure) :
    Service α := do
  tryCatchThe Failure (discard <| Resumption.transaction (failRun runId findings (message err)))
    fun _ ↦ return ()
  throw err

/-- A step of a run. -/
def guarded {α : Type} (runId : ℕ) (findings : List ReconciliationFinding) (step : Service α) :
    Service α :=
  tryCatchThe Failure step fun err ↦ rethrow message runId findings err

/-- The text of an error is `message`; `now` is the instant at which the run is called. -/
def runForDate (asOfDate : Option ℤ) (now : ℤ) : Service ReconciliationOutcome := do
  let target := targetDay asOfDate now
  let run ← Resumption.transaction (Tx.createReconciliationRun (startedRow target))
  let windowStart := target
  let windowEnd := target + Date.msPerDay
  -- entries are not older than 1970, so that a window may begin there
  let aFindings ← guarded message run.id []
    (checkInvariantAForWindow windowStart.toNat windowEnd.toNat)
  let bFindings ← guarded message run.id aFindings (checkInvariantB config.alertThresholdCents)
  let cFindings ← guarded message run.id (aFindings ++ bFindings) checkInvariantC
  let pFindings ← guarded message run.id (aFindings ++ bFindings ++ cFindings)
    (crossCheck config fetchForDate target)
  let findings := aFindings ++ bFindings ++ cFindings ++ pFindings
  let alertWorthy := findings.any fun f ↦ f.severity = .high
  let finished ← guarded message run.id findings
    (Resumption.transaction (completeRun run.id findings alertWorthy))
  return {
    runId := finished.id
    asOfDate := dateToYmd (midnight finished.asOfDate)
    findingsCount := finished.findingsCount
    alertSent := finished.alertSent
    state := finished.state }

end Run

/-! ## Days of South Africa -/

/-- The day of an instant in South Africa, two hours ahead of UTC. -/
def sastDay (t : ℤ) : ℤ := (t + sastOffsetMs) / Date.msPerDay

/-- The day whose entries a run scans. -/
def scannedDay (asOfDate : Option ℤ) (now : ℤ) : ℤ := sastDay (targetDay asOfDate now)

theorem exists_startOfSastDay (date : ℤ) :
    ∃ day, startOfSastDay date = day * Date.msPerDay - sastOffsetMs := by
  refine ⟨(date + sastOffsetMs).tdiv Date.msPerDay, ?_⟩
  have hdiv : (date + sastOffsetMs).tdiv Date.msPerDay * Date.msPerDay +
      (date + sastOffsetMs).tmod Date.msPerDay = date + sastOffsetMs := Int.tdiv_mul_add_tmod _ _
  simp only [startOfSastDay]
  omega

/-- A run scans from the midnight at which its day begins in South Africa. -/
theorem targetDay_eq (asOfDate : Option ℤ) (now : ℤ) :
    targetDay asOfDate now = scannedDay asOfDate now * Date.msPerDay - sastOffsetMs := by
  have hday : ∃ day, targetDay asOfDate now = day * Date.msPerDay - sastOffsetMs := by
    cases asOfDate with
    | some date => exact exists_startOfSastDay date
    | none =>
        obtain ⟨day, hday⟩ := exists_startOfSastDay now
        refine ⟨day - 1, ?_⟩
        rw [targetDay, previousSastDay, hday, Int.sub_mul, Int.one_mul]
        exact sub_right_comm _ _ _
  obtain ⟨day, hday⟩ := hday
  rw [scannedDay, sastDay, hday, Int.sub_add_cancel, Int.mul_ediv_cancel _ (by decide)]

/-- The window of a run is that day. -/
theorem mem_window_iff (asOfDate : Option ℤ) (now : ℤ) (t : ℕ) :
    (targetDay asOfDate now).toNat ≤ t ∧ t < (targetDay asOfDate now + Date.msPerDay).toNat ↔
      sastDay t = scannedDay asOfDate now := by
  have htarget := targetDay_eq asOfDate now
  unfold sastDay Date.msPerDay at *
  omega

/-- The date in UTC at which a day begins in South Africa is the date before. -/
theorem utcDate_targetDay (asOfDate : Option ℤ) (now : ℤ) :
    JavaScript.Date.utcDate (targetDay asOfDate now) = .ofDay (scannedDay asOfDate now - 1) := by
  have hdiv : targetDay asOfDate now / Date.msPerDay = scannedDay asOfDate now - 1 := by
    rw [targetDay_eq]
    unfold Date.msPerDay sastOffsetMs
    omega
  rw [JavaScript.Date.utcDate, hdiv]

/-- A date that is read from the database is written as it is. -/
theorem dateToYmd_midnight (day : ℤ) : dateToYmd (midnight (.ofDay day)) = ymd (.ofDay day) := by
  have hdiv : (midnight (.ofDay day) + sastOffsetMs) / Date.msPerDay = day := by
    rw [midnight, CivilDate.toDay_ofDay]
    unfold Date.msPerDay sastOffsetMs
    omega
  rw [dateToYmd, JavaScript.Date.utcDate, hdiv]

theorem hyphen_not_mem_toDigits (n : ℕ) : '-' ∉ Nat.toDigits 10 n := fun h ↦
  Bool.false_ne_true ((JavaScript.isNumeral_toDigits n).2 _ h)

theorem yearText_injective : Function.Injective yearText := by
  have hsigns : ∀ m n : ℕ, '-' :: Nat.toDigits 10 m ≠ Nat.toDigits 10 n := by
    intro m n h
    refine hyphen_not_mem_toDigits n ?_
    rw [← h]
    exact List.mem_cons_self
  intro y y' h
  unfold yearText at h
  by_cases hy : y < 0
  · by_cases hy' : y' < 0
    · rw [if_pos hy, if_pos hy'] at h
      have habs := JavaScript.toDigits_injective (List.cons_injective h)
      omega
    · rw [if_pos hy, if_neg hy'] at h
      exact absurd h (hsigns _ _)
  · by_cases hy' : y' < 0
    · rw [if_neg hy, if_pos hy'] at h
      exact absurd h.symm (hsigns _ _)
    · rw [if_neg hy, if_neg hy'] at h
      have habs := JavaScript.toDigits_injective h
      omega

theorem zeroPad_injective (width : ℕ) : Function.Injective (JavaScript.Date.zeroPad width) :=
  Function.LeftInverse.injective (JavaScript.Date.numeralValue_zeroPad width)

/-- Days whose dates are written the same are the same. -/
theorem ymd_ofDay_injective : Function.Injective fun day ↦ ymd (.ofDay day) := by
  intro m n h
  have hlen : ∀ k : ℤ, 1 ≤ k → k ≤ 31 → (JavaScript.Date.zeroPad 2 k.natAbs).length = 2 :=
    fun k _ _ ↦ JavaScript.Date.length_zeroPad (by decide) (by omega)
  obtain ⟨hm, hm'⟩ := CivilDate.month_ofDay m
  obtain ⟨hn, hn'⟩ := CivilDate.month_ofDay n
  obtain ⟨hd, hd'⟩ := CivilDate.day_ofDay m
  obtain ⟨he, he'⟩ := CivilDate.day_ofDay n
  have hmonths : (JavaScript.Date.zeroPad 2 (CivilDate.ofDay m).month.natAbs).length =
      (JavaScript.Date.zeroPad 2 (CivilDate.ofDay n).month.natAbs).length := by
    rw [hlen _ hm (by omega), hlen _ hn (by omega)]
  have hdays : (JavaScript.Date.zeroPad 2 (CivilDate.ofDay m).day.natAbs).length =
      (JavaScript.Date.zeroPad 2 (CivilDate.ofDay n).day.natAbs).length := by
    rw [hlen _ hd hd', hlen _ he he']
  obtain ⟨hyear, hrest⟩ := List.append_inj' h (by
    simp only [List.length_cons, List.length_append, hmonths, hdays])
  obtain ⟨hmonth, hday⟩ := List.append_inj (List.cons_injective hrest) hmonths
  have hmonth' := zeroPad_injective 2 hmonth
  have hday' := zeroPad_injective 2 (List.cons_injective hday)
  refine CivilDate.ofDay_injective (CivilDate.ext ?_ ?_ ?_)
  · exact yearText_injective hyear
  · omega
  · omega

end ReconciliationService

open Resumption ReconciliationService

/-! ## The rows of runs -/

/-- Every row of a run is an earlier one, or filed under the date. -/
structure Store.Files (date : CivilDate) (s s' : Store) : Prop where
  nextId : s.nextId ≤ s'.nextId
  rows : ∀ r' ∈ s'.reconciliationRuns,
    (∃ r ∈ s.reconciliationRuns, r.id = r'.id ∧ r.asOfDate = r'.asOfDate) ∨ r'.asOfDate = date

namespace Store.Files

variable {date : CivilDate} {s s' : Store}

theorem of_eq (hn : s.nextId ≤ s'.nextId) (h : s'.reconciliationRuns = s.reconciliationRuns) :
    s.Files date s' where
  nextId := hn
  rows r' hr' := .inl ⟨r', h ▸ hr', rfl, rfl⟩

theorem refl (s : Store) : s.Files date s := of_eq le_rfl rfl

theorem of_create {row : ℕ → ℕ → ReconciliationRun} (hdate : ∀ id now, (row id now).asOfDate = date)
    {run : ReconciliationRun} (h : Tx.createReconciliationRun row s = .ok (run, s')) :
    run.id = (row s.nextId s.clock).id ∧ s.Files date s' := by
  cases h
  refine ⟨rfl, Nat.le_succ _, fun r' hr' ↦ ?_⟩
  rcases List.mem_append.mp hr' with hr' | hr'
  · exact .inl ⟨r', hr', rfl, rfl⟩
  · rw [List.mem_singleton.mp hr']
    exact .inr (hdate _ _)

/-- An update keeps the date of each row, and returns one of them. -/
theorem of_update {id : ℕ} {f : ReconciliationRun → ReconciliationRun}
    (hid : ∀ r, (f r).id = r.id) (hdate : ∀ r, (f r).asOfDate = r.asOfDate)
    {run : ReconciliationRun} (h : Tx.updateReconciliationRun id f s = .ok (run, s')) :
    (∃ r ∈ s.reconciliationRuns, r.id = id ∧ run.asOfDate = r.asOfDate) ∧ s.Files date s' := by
  unfold Tx.updateReconciliationRun at h
  split at h
  · cases h
  · next r hfind =>
      cases h
      obtain ⟨hmem, hkey⟩ := Table.find_some hfind
      refine ⟨⟨r, hmem, hkey, hdate r⟩, le_rfl, fun r' hr' ↦ .inl ?_⟩
      obtain ⟨x, hx, rfl⟩ := Table.mem_update.mp hr'
      refine ⟨x, hx, ?_⟩
      split
      · exact ⟨(hid x).symm, (hdate x).symm⟩
      · exact ⟨rfl, rfl⟩

end Store.Files

/-- The rows from this id on are filed under the date. -/
def filedFrom (firstId : ℕ) (date : CivilDate) : Stable (Store.Files date) where
  Holds s := firstId ≤ s.nextId ∧ ∀ r ∈ s.reconciliationRuns, firstId ≤ r.id → r.asOfDate = date
  stable := by
    rintro s s' ⟨hn, hrows⟩ h
    refine ⟨hn.trans h.nextId, fun r' hr' hid ↦ ?_⟩
    rcases h.rows r' hr' with ⟨r, hr, hsame, hdate⟩ | hdate
    · rw [← hdate]
      exact hrows r hr (hsame ▸ hid)
    · exact hdate

/-- Calls of the escrow service leave the rows of runs alone. -/
theorem EscrowCall.guarantees_files (config : BusinessConfig) (date : CivilDate) (c : EscrowCall) :
    Guarantees (fun _ ↦ True) (Store.Files date) (c.program config) := by
  cases c with
  | capture args zarFee =>
      refine (guarantees_transaction (fun s _ ↦ .refl s) ?_).bind fun _ ↦ trivial
      intro s _ s' _ h
      rcases PayFastWebhookService.of_commitComplete_ok h with ⟨-, rfl⟩ | ⟨-, rfl⟩
      · exact .refl _
      · exact .of_eq (Nat.le_add_right _ _) rfl
  | escrow op =>
      refine (guarantees_transaction (fun s _ ↦ .refl s) ?_).discard.bind fun _ ↦ trivial
      intro s _ s' _ h
      obtain ⟨hold, target, w, entries, -, -, rfl⟩ := EscrowOp.commits_of_exec_eq h
      refine .of_eq ?_ rfl
      show s.nextId ≤ s.nextId + 1 + 2 * (w.queued config hold s).length + 1
      omega
  | tick clock => exact ⟨fun s _ ↦ ⟨.of_eq le_rfl rfl, trivial⟩, fun _ ↦ trivial⟩

namespace ReconciliationService

/-! ### The checks read, and change nothing -/

section Checks

variable {G : Store → Store → Prop} (hG : ∀ s, G s s)
include hG

theorem guarantees_check {α : Type} (f : Store → α) :
    Guarantees (fun _ ↦ True) G (Resumption.read f : Service α) :=
  guarantees_read (fun s _ ↦ hG s) f

theorem guarantees_checkInvariantA (windowStart windowEnd : ℕ) :
    Guarantees (fun _ ↦ True) G (checkInvariantAForWindow windowStart windowEnd) :=
  (guarantees_check hG _).bind fun _ ↦ guarantees_ret _

theorem guarantees_checkInvariantB (alertThresholdCents : ℤ) :
    Guarantees (fun _ ↦ True) G (checkInvariantB alertThresholdCents) :=
  (guarantees_check hG _).bind fun _ ↦ (guarantees_check hG _).bind fun _ ↦ guarantees_ret _

theorem guarantees_checkInvariantC : Guarantees (fun _ ↦ True) G checkInvariantC :=
  (guarantees_check hG _).bind fun _ ↦ guarantees_ret _

omit hG in
theorem guarantees_checkEach {α : Type} {check : α → Service (Option ReconciliationFinding)}
    (hcheck : ∀ a, Guarantees (fun _ ↦ True) G (check a)) (items : List α)
    (findings : List ReconciliationFinding) :
    Guarantees (fun _ ↦ True) G (checkEach check items findings) := by
  induction items generalizing findings with
  | nil => exact guarantees_ret _
  | cons pf rest ih =>
      refine (hcheck pf).bind fun finding ↦ ?_
      dsimp only
      split
      · exact guarantees_ret _
      · exact ih _

theorem guarantees_checkTransaction (pf : GatewayTransaction) :
    Guarantees (fun _ ↦ True) G (checkTransaction pf) := by
  refine (guarantees_check hG _).bind fun found ↦ ?_
  cases found with
  | none => exact guarantees_ret _
  | some found => exact guarantees_ret _

theorem guarantees_checkRefund (pf : GatewayRefund) :
    Guarantees (fun _ ↦ True) G (checkRefund pf) := by
  refine (guarantees_check hG _).bind fun found ↦ ?_
  cases found with
  | none => exact guarantees_ret _
  | some found => exact guarantees_ret _

theorem guarantees_checkPayout (pf : GatewayPayout) :
    Guarantees (fun _ ↦ True) G (checkPayout pf) := by
  refine (guarantees_check hG _).bind fun found ↦ ?_
  cases found with
  | none => exact guarantees_ret _
  | some found => exact guarantees_ret _

theorem guarantees_checkPayFastAgainstLocal (history : PayFastDailyHistory) :
    Guarantees (fun _ ↦ True) G (checkPayFastAgainstLocal history) := by
  refine (guarantees_checkEach (guarantees_checkTransaction hG) _ _).bind fun ⟨findings, full⟩ ↦ ?_
  cases full with
  | true => exact guarantees_ret _
  | false =>
      refine (guarantees_checkEach (guarantees_checkRefund hG) _ _).bind fun ⟨findings, full⟩ ↦ ?_
      cases full with
      | true => exact guarantees_ret _
      | false => exact (guarantees_checkEach (guarantees_checkPayout hG) _ _).bind fun _ ↦ trivial

theorem guarantees_crossCheck (config : ReconciliationConfig) (fetchForDate : HistoryAdapter)
    (target : ℤ) : Guarantees (fun _ ↦ True) G (crossCheck config fetchForDate target) := by
  unfold crossCheck
  split
  · exact guarantees_ret _
  · refine (guarantees_ofExcept _).bind fun history ↦ ?_
    cases history with
    | none => exact guarantees_ret _
    | some history => exact guarantees_checkPayFastAgainstLocal hG history

/-- A run that threw records that. -/
theorem guarantees_recordFailure (message : Failure → String) (runId : ℕ)
    (findings : List ReconciliationFinding) (err : Failure)
    (hfail : ∀ s run s', failRun runId findings (message err) s = .ok (run, s') → G s s') :
    Guarantees (fun _ ↦ True) G
      (tryCatchThe Failure
        (discard <| Resumption.transaction (failRun runId findings (message err)))
        fun _ ↦ return () : Service Unit) := by
  refine Guarantees.tryCatch (Guarantees.discard ?_) fun _ ↦ trivial
  exact guarantees_transaction (fun s _ ↦ hG s) fun s run s' _ h ↦ hfail s run s' h

end Checks

variable {date : CivilDate}

theorem of_failRun_ok (date : CivilDate) {runId : ℕ} {findings : List ReconciliationFinding}
    {message : String} {s s' : Store} {run : ReconciliationRun}
    (h : failRun runId findings message s = .ok (run, s')) : s.Files date s' := by
  obtain ⟨now, s₁, hnow, hupdate⟩ := Tx.of_bind_ok h
  cases hnow
  refine (Store.Files.of_update ?_ ?_ hupdate).2
  · exact fun _ ↦ rfl
  · exact fun _ ↦ rfl

theorem of_completeRun_ok (date : CivilDate) {runId : ℕ}
    {findings : List ReconciliationFinding} {alertWorthy : Bool} {s s' : Store}
    {run : ReconciliationRun}
    (h : completeRun runId findings alertWorthy s = .ok (run, s')) :
    (∃ r ∈ s.reconciliationRuns, r.id = runId ∧ run.asOfDate = r.asOfDate) ∧ s.Files date s' := by
  obtain ⟨now, s₁, hnow, hupdate⟩ := Tx.of_bind_ok h
  cases hnow
  refine Store.Files.of_update ?_ ?_ hupdate
  · exact fun _ ↦ rfl
  · exact fun _ ↦ rfl

section Run

variable (config : ReconciliationConfig) (message : Failure → String)
  (fetchForDate : HistoryAdapter) {firstId : ℕ}

/-- A program that files nothing leaves the run with what it knew. -/
theorem conforms_of_guarantees {α : Type} {p : Service α}
    (hp : Guarantees (fun _ ↦ True) (Store.Files date) p) :
    Conforms (knowledge (Store.Files date)) p (filedFrom firstId date)
      (Returns (filedFrom firstId date) fun _ ↦ True) :=
  (hp.mono (fun _ _ ↦ trivial) fun _ _ _ h ↦ h).conforms_knowledge.mono
    fun _ _ hK ↦ ⟨hK, fun _ _ ↦ trivial⟩

/-- A guarded step returns what the step returns. -/
theorem conforms_guarded {α : Type} {P : α → Prop} {step : Service α}
    (hstep : Conforms (knowledge (Store.Files date)) step (filedFrom firstId date)
      (Returns (filedFrom firstId date) P)) (runId : ℕ) (findings : List ReconciliationFinding) :
    Conforms (knowledge (Store.Files date)) (guarded message runId findings step)
      (filedFrom firstId date) (Returns (filedFrom firstId date) P) := by
  refine hstep.tryCatch (fun K a h ↦ h) ?_
  rintro K err ⟨rfl, -⟩
  have hrecord : Guarantees (fun _ ↦ True) (Store.Files date) _ :=
    guarantees_recordFailure .refl message runId findings err fun _ _ _ h ↦ of_failRun_ok date h
  exact (conforms_of_guarantees hrecord).bind_returns (fun _ _ ↦ .error err) .error

/-- The row of a run comes back with the date it is filed under. -/
theorem conforms_completeRun {runId : ℕ} (hid : firstId ≤ runId)
    (findings : List ReconciliationFinding) (alertWorthy : Bool) :
    Conforms (knowledge (Store.Files date))
      (Resumption.transaction (completeRun runId findings alertWorthy) : Service ReconciliationRun)
      (filedFrom firstId date)
      (Returns (filedFrom firstId date) fun run ↦ run.asOfDate = date) := by
  refine .transaction (knowledge_same .refl _) (fun s run s' hs h ↦ ?_) .error
  obtain ⟨⟨r, hr, hrid, hdate⟩, hfiles⟩ := of_completeRun_ok date h
  refine ⟨_, fun hs ↦ ⟨hfiles, (filedFrom firstId date).stable _ _ hs hfiles⟩, .ok ?_⟩
  rw [hdate]
  exact hs.2 r hr (hrid ▸ hid)

/-- A check files nothing. -/
theorem conforms_check {α : Type} {check : Service α}
    (hcheck : Guarantees (fun _ ↦ True) (Store.Files date) check) (runId : ℕ)
    (findings : List ReconciliationFinding) :
    Conforms (knowledge (Store.Files date)) (guarded message runId findings check)
      (filedFrom firstId date) (Returns (filedFrom firstId date) fun _ ↦ True) :=
  conforms_guarded message (conforms_of_guarantees hcheck) runId findings

theorem conforms_runForDate {asOfDate : Option ℤ} {now : ℤ}
    (hdate : JavaScript.Date.utcDate (targetDay asOfDate now) = date) :
    Conforms (knowledge (Store.Files date))
      (runForDate config message fetchForDate asOfDate now) (filedFrom firstId date)
      (Returns (filedFrom firstId date) fun outcome ↦
        outcome.asOfDate = dateToYmd (midnight date)) := by
  have hcreate : Conforms (knowledge (Store.Files date))
      (Resumption.transaction (Tx.createReconciliationRun (startedRow (targetDay asOfDate now))) :
        Service ReconciliationRun)
      (filedFrom firstId date)
      (Returns (filedFrom firstId date) fun run ↦ firstId ≤ run.id) := by
    refine .transaction (knowledge_same .refl _) (fun s run s' hs h ↦ ?_) .error
    obtain ⟨hid, hfiles⟩ := Store.Files.of_create (fun _ _ ↦ hdate) h
    refine ⟨_, fun hs ↦ ⟨hfiles, (filedFrom _ _).stable _ _ hs hfiles⟩, .ok ?_⟩
    rw [hid]
    exact hs.1
  refine hcreate.bind_returns (fun run hrun ↦ ?_) .error
  refine (conforms_check message (guarantees_checkInvariantA .refl _ _) _ _).bind_returns
    (fun aFindings _ ↦ ?_) .error
  refine (conforms_check message (guarantees_checkInvariantB .refl _) _ _).bind_returns
    (fun bFindings _ ↦ ?_) .error
  refine (conforms_check message (guarantees_checkInvariantC .refl) _ _).bind_returns
    (fun cFindings _ ↦ ?_) .error
  refine (conforms_check message (guarantees_crossCheck .refl config fetchForDate _) _
    _).bind_returns (fun pFindings _ ↦ ?_) .error
  refine (conforms_guarded message (conforms_completeRun hrun _ _) _ _).bind_returns
    (fun finished hfinished ↦ ?_) .error
  refine .ok ?_
  show dateToYmd (midnight finished.asOfDate) = _
  rw [hfinished]

end Run

end ReconciliationService

end GearshPayments
