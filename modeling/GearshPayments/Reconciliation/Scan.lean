import GearshPayments.Reconciliation.Run
import GearshPayments.Resumption.Dependence

/-!
# The day that a run scans

Which entries a run scans is what its own thread asks the ledger when it has made its row: those
whose amounts make a difference to what the thread goes on with (`Scans`).  They are the entries of
one day of South Africa (`scans_iff`), and the run is filed under the day before (`filed_never`).
-/

namespace GearshPayments

open Resumption ReconciliationService
open JavaScript (Date.msPerDay)

/-! ## What a thread scans -/

/-- The store with one more entry in its ledger. -/
def Store.withEntry (s : Store) (e : LedgerEntry) : Store :=
  { s with ledgerEntries := s.ledgerEntries ++ [e] }

/-- The next action of the program reads the entry: there is a store in which another amount in its
place leaves the program with something else to do. -/
def Scans {α : Type} (p : Service α) (e : LedgerEntry) : Prop :=
  ∃ (s : Store) (amount : ℤ), p.TellsApart (s.withEntry e) (s.withEntry { e with amount })

namespace ReconciliationService

theorem entriesInWindow_withEntry (windowStart windowEnd : ℕ) (s : Store) (e : LedgerEntry) :
    entriesInWindow windowStart windowEnd (s.withEntry e) =
      entriesInWindow windowStart windowEnd s ++
        if windowStart ≤ e.createdAt ∧ e.createdAt < windowEnd then [e] else [] := by
  rw [entriesInWindow, Store.withEntry, List.filter_append]
  refine congrArg _ (Table.filter_of_forall fun e' he' ↦ ?_)
  rw [List.mem_singleton.mp he', decide_eq_true_iff]

/-- An entry outside the window makes no difference to the totals. -/
theorem eventTotals_withEntry {windowStart windowEnd : ℕ} {e : LedgerEntry}
    (h : ¬(windowStart ≤ e.createdAt ∧ e.createdAt < windowEnd)) (s : Store) :
    eventTotals windowStart windowEnd (s.withEntry e) = eventTotals windowStart windowEnd s := by
  rw [eventTotals, entriesInWindow_withEntry, if_neg h, List.append_nil]
  rfl

/-- An entry that stands alone is out of balance unless it is of nothing. -/
theorem length_findings_single {windowStart windowEnd : ℕ} {e : LedgerEntry}
    (h : windowStart ≤ e.createdAt ∧ e.createdAt < windowEnd) {s : Store}
    (hs : s.ledgerEntries = []) :
    ((eventTotals windowStart windowEnd (s.withEntry e)).filterMap findingA).length =
      if e.amount = 0 then 0 else 1 := by
  have hentries : entriesInWindow windowStart windowEnd (s.withEntry e) = [e] := by
    rw [entriesInWindow_withEntry, if_pos h, entriesInWindow, hs]
    rfl
  have htotals : eventTotals windowStart windowEnd (s.withEntry e) =
      [⟨e.eventId, DoubleEntry.side .debit [e.toPosting],
        DoubleEntry.side .credit [e.toPosting]⟩] := by
    simp [eventTotals, hentries]
  rw [htotals]
  by_cases hzero : e.amount = 0
  · simp [findingA, hzero]
  · cases hside : e.direction with
    | debit => simp [findingA, hside, hzero]
    | credit => simp [findingA, hside, hzero, eq_comm]

/-- The check of invariant A scans the entries of its window, if the number of its findings makes a
difference to what comes after it. -/
theorem scans_checkInvariantA {α : Type} {message : Failure → String} {runId : ℕ}
    {k : List ReconciliationFinding → Service α}
    (hk : ∀ fs fs', k fs = k fs' → fs.length = fs'.length) {windowStart windowEnd : ℕ}
    {e : LedgerEntry} :
    Scans (guarded message runId [] (checkInvariantAForWindow windowStart windowEnd) >>= k) e ↔
      windowStart ≤ e.createdAt ∧ e.createdAt < windowEnd := by
  let found (s : Store) := (eventTotals windowStart windowEnd s).filterMap findingA
  have hafter : ∀ s, (guarded message runId [] (checkInvariantAForWindow windowStart windowEnd) >>=
      k).after s = some (k (found s)) := fun _ ↦ rfl
  constructor
  · rintro ⟨s, amount, htells⟩
    by_contra hout
    refine htells ?_
    rw [hafter, hafter]
    simp only [found]
    rw [eventTotals_withEntry hout, eventTotals_withEntry (e := { e with amount }) hout]
  · intro hin
    -- the entry stands alone in a ledger, with its amount or with another
    let other : LedgerEntry := { e with amount := if e.amount = 0 then 1 else 0 }
    refine ⟨Store.empty 0 0 [], other.amount, fun hsame ↦ ?_⟩
    rw [hafter, hafter, Option.some.injEq] at hsame
    have hlength : (if e.amount = 0 then 0 else 1) = if other.amount = 0 then 0 else 1 := by
      rw [← length_findings_single hin (s := Store.empty 0 0 []) rfl,
        ← length_findings_single (e := other) hin (s := Store.empty 0 0 []) rfl]
      exact hk _ _ hsame
    by_cases hzero : e.amount = 0
    · simp [other, hzero] at hlength
    · simp [other, hzero] at hlength

section Run

variable {config : ReconciliationConfig} {message : Failure → String}
  {fetchForDate : HistoryAdapter} {asOfDate : Option ℤ} {now : ℤ}

/-- The counts of findings in the rows of runs, once a program has been refused its next action and
has taken the one after it. -/
def countsAfterRefusal {α : Type} (s : Store) (p : Service α) : List ℕ :=
  (next p (.refuse (.database "")) s).elim [] fun r ↦
    (next r.2.1 .act r.1).elim [] fun r ↦
      r.1.reconciliationRuns.map ReconciliationRun.findingsCount

/-- A run that fails counts what had been found before, and the failure. -/
theorem counts_failRun {s : Store} {r : ReconciliationRun} (h : s.reconciliationRuns = [r])
    (fs : List ReconciliationFinding) (text : String) :
    ∃ run s', failRun r.id fs text s = .ok (run, s') ∧
      s'.reconciliationRuns.map ReconciliationRun.findingsCount = [fs.length + 1] := by
  have hfind : s.reconciliationRun? r.id = some r := by
    rw [Store.reconciliationRun?, h]
    exact Table.find_append_new (t := []) nofun
  refine ⟨_, _, Tx.updateReconciliationRun_apply hfind, ?_⟩
  rw [h, Table.update, List.map_singleton, if_pos rfl]
  rfl

/-- A step that is refused its first read files how much had been found before it. -/
theorem countsAfterRefusal_guarded {α β γ : Type} {message : Failure → String}
    {s : Store} {r : ReconciliationRun} (h : s.reconciliationRuns = [r])
    (fs : List ReconciliationFinding) (f : Store → β) (step : β → Service γ) (k : γ → Service α) :
    countsAfterRefusal s (guarded message r.id fs (Resumption.read f >>= step) >>= k) =
      [fs.length + 1] := by
  obtain ⟨run, s', hfail, hcounts⟩ := counts_failRun h fs (message (.database ""))
  have hrefused : next (guarded message r.id fs (Resumption.read f >>= step) >>= k)
      (.refuse (.database "")) s =
        some (s, rethrow message r.id fs (.database "") >>= k, none) := rfl
  rw [countsAfterRefusal, hrefused]
  simp only [Option.elim_some, rethrow, transaction, discard_atomic, tryCatch_atomic, atomic_bind,
    next, hfail]
  exact hcounts

/-- What is left of a run when it has made its row: the check of invariant A over one window, and a
rest that depends on how much the check has found. -/
theorem of_follows_runForDate {α : Type} {g : ReconciliationOutcome → Service α} {p : Service α}
    (h : Follows (runForDate config message fetchForDate asOfDate now >>= g) p) :
    ∃ (runId : ℕ) (k : List ReconciliationFinding → Service α),
      (∀ fs fs', k fs = k fs' → fs.length = fs'.length) ∧
      p = guarded message runId []
        (checkInvariantAForWindow (targetDay asOfDate now).toNat
          (targetDay asOfDate now + Date.msPerDay).toNat) >>= k := by
  rw [runForDate, LawfulMonad.bind_assoc] at h
  obtain ⟨run, rfl⟩ := of_follows_transaction_bind (fun s ↦ ⟨_, _, rfl⟩) h
  dsimp only
  rw [LawfulMonad.bind_assoc]
  refine ⟨run.id, _, fun fs fs' hsame ↦ ?_, rfl⟩
  rw [LawfulMonad.bind_assoc, LawfulMonad.bind_assoc] at hsame
  have hcounts := congrArg
    (countsAfterRefusal { Store.empty 0 0 [] with reconciliationRuns := [run] }) hsame
  rw [checkInvariantB, countsAfterRefusal_guarded rfl, countsAfterRefusal_guarded rfl] at hcounts
  simpa using hcounts

/-- What a run scans when it has made its row are the entries of that day. -/
theorem scans_iff {α : Type} {g : ReconciliationOutcome → Service α} {p : Service α}
    (h : Follows (runForDate config message fetchForDate asOfDate now >>= g) p) (e : LedgerEntry) :
    Scans p e ↔ sastDay e.createdAt = scannedDay asOfDate now := by
  obtain ⟨runId, k, hk, rfl⟩ := of_follows_runForDate h
  rw [scans_checkInvariantA hk]
  exact mem_window_iff asOfDate now e.createdAt

end Run

end ReconciliationService

/-! ## Runs beside other work -/

/-- A run, beside any number of calls of the escrow service. -/
def runPool (config : ReconciliationConfig) (message : Failure → String)
    (fetchForDate : HistoryAdapter) (asOfDate : Option ℤ) (now : ℤ) (business : BusinessConfig)
    (s : Store) (calls : List EscrowCall) :
    Pool Store PayFastRefundInput HttpOutcome (Service (Option ReconciliationOutcome)) :=
  ⟨s, (some <$> runForDate config message fetchForDate asOfDate now) ::
    calls.map fun c ↦ (fun _ ↦ none) <$> c.program business, []⟩

/-- Whatever instant a run is called with, and whatever happens beside it: its thread can make its
row, what it scans then are the entries of a day of South Africa, and neither the row nor what the
run returns has the date of that day. -/
theorem filed_never (config : ReconciliationConfig) (message : Failure → String)
    (fetchForDate : HistoryAdapter) (asOfDate : Option ℤ) (now : ℤ) (business : BusinessConfig)
    {s : Store} (hids : ∀ row ∈ s.reconciliationRuns, row.id < s.nextId)
    (calls : List EscrowCall) :
    let run := runForDate config message fetchForDate asOfDate now
    let reached :=
      Pool.run next (runPool config message fetchForDate asOfDate now business s calls)
    ∃ day,
      (∃ ts p, (reached ts).threads[0]? = some p ∧ Follows (some <$> run) p) ∧
      (∀ ts p, (reached ts).threads[0]? = some p → Follows (some <$> run) p →
        ∀ e, Scans p e ↔ sastDay e.createdAt = day) ∧
      ∀ ts,
        (∀ row ∈ (reached ts).store.reconciliationRuns, s.nextId ≤ row.id →
          row.asOfDate ≠ .ofDay day) ∧
        ∀ outcome, (reached ts).threads[0]? = some (.ret (some outcome)) →
          outcome.asOfDate ≠ ymd (.ofDay day) := by
  intro run reached
  let day := scannedDay asOfDate now
  let date := JavaScript.Date.utcDate (targetDay asOfDate now)
  have hdate : date = .ofDay (day - 1) := utcDate_targetDay asOfDate now
  have hother : day - 1 ≠ day := by omega
  have hstart : (filedFrom s.nextId date).Holds s :=
    ⟨le_rfl, fun row hrow hid ↦ absurd (hids row hrow) (Nat.not_lt.mpr hid)⟩
  have hconf : ∀ p ∈ (runPool config message fetchForDate asOfDate now business s calls).threads,
      Conforms (knowledge (Store.Files date)) p (filedFrom s.nextId date)
        (Justified fun result _ ↦ ∀ outcome, result = some outcome →
          outcome.asOfDate = dateToYmd (midnight date)) := by
    refine List.forall_mem_cons.mpr ⟨?_, fun p hp ↦ ?_⟩
    · refine Conforms.map ((conforms_runForDate config message fetchForDate rfl).mono ?_)
      rintro K (e | outcome) ⟨rfl, hret⟩
      · exact Justified.error e
      · refine Justified.ok fun s _ outcome' houtcome ↦ ?_
        cases houtcome
        exact hret _ rfl
    · obtain ⟨c, -, rfl⟩ := List.mem_map.mp hp
      refine Conforms.map ((conforms_of_guarantees (c.guarantees_files business date)).mono ?_)
      rintro K (e | found) ⟨rfl, -⟩
      · exact Justified.error e
      · exact Justified.ok fun s _ outcome houtcome ↦ nomatch houtcome
  refine ⟨day, ⟨[⟨0, .act⟩], _, rfl, s, rfl⟩, fun ts p _ hfollows e ↦ ?_, fun ts ↦ ?_⟩
  · rw [map_eq_pure_bind] at hfollows
    exact scans_iff hfollows e
  · obtain ⟨hrows, hreturns⟩ := Pool.returns_run hstart hconf ts
    refine ⟨fun row hrow hid hsame ↦ ?_, fun outcome hret hsame ↦ ?_⟩
    · refine hother (CivilDate.ofDay_injective ?_)
      rw [← hdate, ← hrows.2 row hrow hid, hsame]
    · refine hother (ymd_ofDay_injective ?_)
      show ymd (.ofDay (day - 1)) = ymd (.ofDay day)
      rw [← hsame, hreturns hret outcome rfl, hdate, dateToYmd_midnight]

namespace Sample

/-- 2026-05-28 in South Africa. -/
def runDate : ℤ := 1779919200000

def reconciliationRun : Service ReconciliationOutcome :=
  runForDate ⟨1000, false⟩ (fun _ ↦ "") (fun _ ↦ .ok none) (some runDate) 0

def reconciling (ts : List (Turn HttpOutcome Failure)) :
    Pool Store PayFastRefundInput HttpOutcome (Service (Option ReconciliationOutcome)) :=
  Pool.run next (runPool ⟨1000, false⟩ (fun _ ↦ "") (fun _ ↦ .ok none) (some runDate) 0
    config.business (Store.empty 1779919200000 100 []) []) ts

/-- The run goes on by so many turns. -/
def runTurns (n : ℕ) : List (Turn HttpOutcome Failure) := List.replicate n ⟨0, .act⟩

theorem exists_follows_reconciliationRun :
    ∃ p, (reconciling (runTurns 1)).threads[0]? = some p ∧ Follows (some <$> reconciliationRun) p :=
  ⟨_, rfl, Store.empty 1779919200000 100 [], rfl⟩

end Sample

/-- The run that scans the entries of 2026-05-28 is filed under 2026-05-27, and says so. -/
theorem filed_dayBefore :
    (∃ p, (Sample.reconciling (Sample.runTurns 1)).threads[0]? = some p ∧
      ∀ e, Scans p e ↔ CivilDate.ofDay (sastDay e.createdAt) = ⟨2026, 5, 28⟩) ∧
    let reached := Sample.reconciling (Sample.runTurns 6)
    reached.store.reconciliationRuns.map ReconciliationRun.asOfDate = [⟨2026, 5, 27⟩] ∧
      ∃ outcome, reached.threads[0]? = some (.ret (some outcome)) ∧
        outcome.asOfDate = "2026-05-27".toList := by
  refine ⟨?_, by decide, _, rfl, by decide⟩
  obtain ⟨p, hp, hfollows⟩ := Sample.exists_follows_reconciliationRun
  refine ⟨p, hp, fun e ↦ ?_⟩
  have hday : CivilDate.ofDay (scannedDay (some Sample.runDate) 0) = ⟨2026, 5, 28⟩ := by decide
  rw [map_eq_pure_bind] at hfollows
  rw [scans_iff hfollows e, ← hday]
  exact CivilDate.ofDay_injective.eq_iff.symm

/-- Whatever day the run scans, its row and its outcome do not have its date. -/
theorem filed_never_sample :
    ∃ day, (∃ p, (Sample.reconciling (Sample.runTurns 1)).threads[0]? = some p ∧
        ∀ e, Scans p e ↔ sastDay e.createdAt = day) ∧
      ∀ row ∈ (Sample.reconciling (Sample.runTurns 6)).store.reconciliationRuns, 100 ≤ row.id →
        row.asOfDate ≠ .ofDay day := by
  obtain ⟨day, -, hscans, hfiled⟩ := filed_never ⟨1000, false⟩ (fun _ ↦ "") (fun _ ↦ .ok none)
    (some Sample.runDate) 0 Sample.config.business (s := Store.empty 1779919200000 100 [])
    (fun _ h ↦ absurd h List.not_mem_nil) []
  obtain ⟨p, hp, hfollows⟩ := Sample.exists_follows_reconciliationRun
  exact ⟨day, ⟨p, hp, hscans (Sample.runTurns 1) p hp hfollows⟩, (hfiled (Sample.runTurns 6)).1⟩

end GearshPayments
