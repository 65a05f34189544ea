import GearshPayments.Books
import GearshPayments.Reconciliation.CrossCheck

/-!
# What runs of reconciliation file

A run makes a row, and is the only one to write it again: when it ends, it files in it what it has
found.  Beside all calls of `WebCall` the books are in order whenever one of the checks reads them,
so a run that completes finds no fault with invariants A and C, and at most a drift of invariant B,
whose two reads may be taken apart; and what it has filed, and has told its caller, is never
changed (`runs_are_final`).
-/

namespace GearshPayments

open Resumption ReconciliationService

/-! ## Rows -/

/-- The codes of what the gateway's history is compared for. -/
def crossCheckCodes : List String :=
  ["PAYFAST_RECONCILIATION_SKIPPED", "PAYFAST_TRANSACTION_MISSING_LOCAL",
    "PAYFAST_REFUND_MISSING_LOCAL", "PAYFAST_PAYOUT_MISSING_LOCAL"]

/-- What invariant B finds, if it finds something. -/
structure DriftOnly (fs : List ReconciliationFinding) : Prop where
  length_le : fs.length ≤ 1
  codes : ∀ f ∈ fs, f.code = "INVARIANT_B_ESCROW_LIABILITY_DRIFT"

structure CrossCheckOnly (fs : List ReconciliationFinding) : Prop where
  length_le : fs.length ≤ findingsCap
  codes : ∀ f ∈ fs, f.code ∈ crossCheckCodes

/-- What a run may have found over books that are in order. -/
def MayFind (fs : List ReconciliationFinding) : Prop :=
  ∃ drift gateway, DriftOnly drift ∧ CrossCheckOnly gateway ∧ fs = drift ++ gateway

namespace ReconciliationRun

structure Running (r : ReconciliationRun) : Prop where
  state : r.state = .running
  findings : r.findings = []

/-- A run that has ended, in one of two ways. -/
inductive Filed (r : ReconciliationRun) : Prop
  | completed (state : r.state = .completed) (found : MayFind r.findings)
    (count : r.findingsCount = r.findings.length)
    (alert : r.alertSent = r.findings.any fun f ↦ f.severity = .high)
  | failed (state : r.state = .failed)
    (found : ∃ fs message, MayFind fs ∧ r.findings = fs ++ [failure message])
    (count : r.findingsCount = r.findings.length)

theorem Filed.state_ne {r : ReconciliationRun} (h : r.Filed) : r.state ≠ .running := by
  cases h with
  | completed state => rw [state]; decide
  | failed state => rw [state]; decide

/-- What a run tells its caller is in its row. -/
structure Tells (r : ReconciliationRun) (outcome : ReconciliationOutcome) : Prop where
  runId : outcome.runId = r.id
  asOfDate : outcome.asOfDate = dateToYmd (midnight r.asOfDate)
  findingsCount : outcome.findingsCount = r.findingsCount
  alertSent : outcome.alertSent = r.alertSent
  state : outcome.state = .completed ∧ r.state = .completed

end ReconciliationRun

theorem driftOnly_nil : DriftOnly [] := ⟨Nat.zero_le 1, fun _ hf ↦ absurd hf List.not_mem_nil⟩

theorem crossCheckOnly_nil : CrossCheckOnly [] :=
  ⟨Nat.zero_le _, fun _ hf ↦ absurd hf List.not_mem_nil⟩

theorem DriftOnly.mayFind {fs : List ReconciliationFinding} (h : DriftOnly fs) : MayFind fs :=
  ⟨fs, [], h, crossCheckOnly_nil, (List.append_nil fs).symm⟩

theorem driftOnly_singleton {f : ReconciliationFinding}
    (h : f.code = "INVARIANT_B_ESCROW_LIABILITY_DRIFT") : DriftOnly [f] :=
  ⟨le_rfl, fun g hg ↦ by rwa [List.mem_singleton.mp hg]⟩

theorem driftOnly_compareB (threshold ledger : ℤ) (holds : List EscrowHold) :
    DriftOnly (compareB threshold ledger holds) := by
  unfold compareB
  extract_lets heldRemaining drift absDrift
  by_cases h : absDrift > 0
  · rw [if_pos h]
    exact driftOnly_singleton rfl
  · rw [if_neg h]
    exact driftOnly_nil

/-! ## The monitor -/

/-- How far a thread has come with a run of its own. -/
inductive RunStage where
  | idle
  | started (id : ℕ)
  | filed (r : ReconciliationRun)

/-- How one write changes the rows of runs, and the stage of the thread that writes. -/
inductive RunWrite (s s' : Store) : RunStage → RunStage → Prop
  | other {v : RunStage} (rows : s'.reconciliationRuns = s.reconciliationRuns)
    (nextId : s.nextId ≤ s'.nextId) : RunWrite s s' v v
  | start {r : ReconciliationRun} (id : r.id = s.nextId) (running : r.Running)
    (rows : s'.reconciliationRuns = s.reconciliationRuns ++ [r])
    (nextId : s'.nextId = s.nextId + 1) : RunWrite s s' .idle (.started r.id)
  | file {r : ReconciliationRun} {f : ReconciliationRun → ReconciliationRun}
    (mem : r ∈ s.reconciliationRuns) (key : ∀ r, (f r).id = r.id) (ends : (f r).Filed)
    (rows : s'.reconciliationRuns =
      Table.update ReconciliationRun.id r.id f s.reconciliationRuns)
    (nextId : s.nextId ≤ s'.nextId) : RunWrite s s' (.started r.id) (.filed (f r))

/-- Whatever is read are books that are in order, and they stay so. -/
def runMonitor {Q A : Type} : Monitor Store Q A RunStage where
  Knows _ s := s.InBooks
  Writes v s s' v' := s.InBooks → s'.InBooks ∧ RunWrite s s' v v'
  Asks v _ _ v' := v' = v

/-- The thread has nothing to do with runs, or has filed what it tells. -/
def HasFiled (v : RunStage) (r : Except Failure (Option ReconciliationOutcome)) : Prop :=
  ∀ outcome, r = .ok (some outcome) → ∃ row, v = .filed row ∧ row.Tells outcome

theorem runMonitor_same {Q A : Type} {v : RunStage} (s : Store) :
    (runMonitor : Monitor Store Q A RunStage).Writes v s s v :=
  fun hs ↦ ⟨hs, .other rfl le_rfl⟩

/-- A write to the row of a run leaves the books in order. -/
theorem Store.InBooks.of_runs {s : Store} (hs : s.InBooks) (runs : List ReconciliationRun)
    {nextId : ℕ} (hn : s.nextId ≤ nextId) :
    { s with nextId, reconciliationRuns := runs }.InBooks :=
  hs.elsewhere (.of_same hn rfl rfl rfl rfl rfl)

/-- What a run returns when it goes on, having written nothing. -/
def GoesOn {α : Type} (id : ℕ) (P : α → Prop) (v : RunStage) (r : Except Failure α) : Prop :=
  ∀ a, r = .ok a → v = .started id ∧ P a

/-! ## The steps of a run -/

namespace ReconciliationService

/-- The thread files its row with what `f` makes of it. -/
theorem writes_file {Q A : Type} {s s' : Store} {id : ℕ}
    {f : ReconciliationRun → ReconciliationRun} {run : ReconciliationRun}
    (hkey : ∀ r, (f r).id = r.id) (hends : ∀ r, (f r).Filed)
    (h : Tx.updateReconciliationRun id f s = .ok (run, s')) :
    (runMonitor : Monitor Store Q A RunStage).Writes (.started id) s s' (.filed run) := by
  intro hs
  unfold Tx.updateReconciliationRun at h
  split at h
  · cases h
  · next r hfind =>
      cases h
      obtain ⟨hmem, rfl⟩ := Table.find_some hfind
      exact ⟨hs.of_runs _ le_rfl, .file hmem hkey (hends r) rfl le_rfl⟩

section Steps

variable {message : Failure → String} {id : ℕ} {findings : List ReconciliationFinding}

/-- The end of a run that throws. -/
theorem conforms_rethrow {α : Type} {post : RunStage → Except Failure α → Prop} (err : Failure)
    (hfound : MayFind findings) (he : ∀ v e, post v (.error e)) :
    Conforms runMonitor (rethrow message id findings err) (.started id) post := by
  have hfail : Conforms runMonitor
      (discard (Resumption.transaction (failRun id findings (message err))) : Service Unit)
      (.started id) fun _ _ ↦ True := by
    refine Conforms.discard (.transaction runMonitor_same (fun s run s' hs h ↦ ?_) fun _ ↦ trivial)
    obtain ⟨now, s₁, hnow, hupdate⟩ := Tx.of_bind_ok h
    cases hnow
    refine ⟨.filed run, writes_file ?_ ?_ hupdate, trivial⟩
    · exact fun _ ↦ rfl
    · have hcount : findings.length + 1 = (findings ++ [failure (message err)]).length := by
        rw [List.length_append, List.length_singleton]
      exact fun _ ↦ .failed rfl ⟨findings, message err, hfound, rfl⟩ hcount
  have hrecord : Conforms runMonitor
      (tryCatchThe Failure
        (discard (Resumption.transaction (failRun id findings (message err)) : Service _))
        fun _ ↦ return ())
      (.started id) fun _ _ ↦ True :=
    hfail.tryCatch (fun _ _ _ ↦ trivial) fun _ _ _ ↦ .ret trivial
  exact hrecord.bind (fun v _ _ ↦ he v err) fun v e _ ↦ he v e

/-- A guarded step goes on where the step does. -/
theorem conforms_guardedStep {α : Type} {P : α → Prop} {step : Service α}
    (hfound : MayFind findings)
    (hstep : Conforms runMonitor step (.started id) (Returns (.started id) P)) :
    Conforms runMonitor (guarded message id findings step) (.started id) (GoesOn id P) := by
  refine hstep.tryCatch ?_ ?_
  · rintro v a ⟨rfl, h⟩ b ⟨⟩
    exact ⟨rfl, h a rfl⟩
  · rintro v err ⟨rfl, -⟩
    exact conforms_rethrow err hfound fun v e a h ↦ nomatch h

theorem conforms_checkInvariantA (windowStart windowEnd : ℕ) :
    Conforms runMonitor (checkInvariantAForWindow windowStart windowEnd) (.started id)
      (Returns (.started id) fun fs ↦ fs = []) :=
  .read_bind runMonitor_same (fun _ hs ↦ .ret_returns (hs.events.findingsA windowStart windowEnd))
    .error

theorem conforms_checkInvariantB (alertThresholdCents : ℤ) :
    Conforms runMonitor (checkInvariantB alertThresholdCents) (.started id)
      (Returns (.started id) DriftOnly) := by
  refine .read_bind runMonitor_same (fun _ _ ↦ ?_) .error
  exact .read_bind runMonitor_same (fun _ _ ↦ .ret_returns (driftOnly_compareB _ _ _)) .error

theorem conforms_checkInvariantC : Conforms runMonitor checkInvariantC (.started id)
    (Returns (.started id) fun fs ↦ fs = []) :=
  .read_bind runMonitor_same (fun _ hs ↦ .ret_returns (if_neg (not_lt.mpr (hs.nonneg _)))) .error

/-- One lookup in the history. -/
def ChecksFor (found : Option ReconciliationFinding) : Prop :=
  ∀ f ∈ found, f.code ∈ crossCheckCodes

theorem checksFor_some {f : ReconciliationFinding} (h : f.code ∈ crossCheckCodes) :
    ChecksFor (some f) := by
  rintro g ⟨⟩
  exact h

theorem conforms_checkTransaction (pf : GatewayTransaction) :
    Conforms runMonitor (checkTransaction pf) (.started id) (Returns (.started id) ChecksFor) := by
  refine .read_bind runMonitor_same (fun s _ ↦ ?_) .error
  split
  · exact .ret_returns (checksFor_some (by simp [missingTransaction, crossCheckCodes]))
  · split
    · exact .ret_returns (checksFor_some (by simp [mismatchedTransaction, crossCheckCodes]))
    · exact .ret_returns nofun

theorem conforms_checkRefund (pf : GatewayRefund) :
    Conforms runMonitor (checkRefund pf) (.started id) (Returns (.started id) ChecksFor) := by
  refine .read_bind runMonitor_same (fun s _ ↦ ?_) .error
  split
  · exact .ret_returns (checksFor_some (by simp [missingRefund, crossCheckCodes]))
  · exact .ret_returns nofun

theorem conforms_checkPayout (pf : GatewayPayout) :
    Conforms runMonitor (checkPayout pf) (.started id) (Returns (.started id) ChecksFor) := by
  refine .read_bind runMonitor_same (fun s _ ↦ ?_) .error
  split
  · exact .ret_returns (checksFor_some (by simp [missingPayout, crossCheckCodes]))
  · exact .ret_returns nofun

/-- A loop stops as soon as there are as many findings as may be. -/
theorem conforms_checkEach {α : Type} {check : α → Service (Option ReconciliationFinding)}
    (hcheck : ∀ a, Conforms runMonitor (check a) (.started id) (Returns (.started id) ChecksFor))
    {items : List α} {fs : List ReconciliationFinding} (hfs : CrossCheckOnly fs)
    (hlt : fs.length < findingsCap) :
    Conforms runMonitor (checkEach check items fs) (.started id) (Returns (.started id) fun r ↦
      CrossCheckOnly r.1 ∧ (r.2 = false → r.1.length < findingsCap)) := by
  induction items generalizing fs with
  | nil => exact .ret_returns ⟨hfs, fun _ ↦ hlt⟩
  | cons pf rest ih =>
      refine (hcheck pf).bind_returns (fun finding hfinding ↦ ?_) .error
      have hlen : finding.toList.length ≤ 1 := by cases finding <;> simp
      have hmore : CrossCheckOnly (fs ++ finding.toList) := by
        refine ⟨by rw [List.length_append]; omega, fun f hf ↦ ?_⟩
        rcases List.mem_append.mp hf with hf | hf
        · exact hfs.codes f hf
        · exact hfinding f (Option.mem_toList.mp hf)
      dsimp only
      split
      · exact .ret_returns ⟨hmore, nofun⟩
      · next hfull => exact ih hmore (Nat.lt_of_not_le hfull)

theorem conforms_checkPayFastAgainstLocal (history : PayFastDailyHistory) :
    Conforms runMonitor (checkPayFastAgainstLocal history) (.started id)
      (Returns (.started id) CrossCheckOnly) := by
  refine (conforms_checkEach conforms_checkTransaction crossCheckOnly_nil (by decide)).bind_returns
    (fun r hr ↦ ?_) .error
  obtain ⟨fs, full⟩ := r
  dsimp only
  split
  · exact .ret_returns hr.1
  · next hfull =>
      refine (conforms_checkEach conforms_checkRefund hr.1
        (hr.2 (eq_false_of_ne_true hfull))).bind_returns (fun r hr ↦ ?_) .error
      obtain ⟨fs, full⟩ := r
      dsimp only
      split
      · exact .ret_returns hr.1
      · next hfull =>
          exact (conforms_checkEach conforms_checkPayout hr.1
            (hr.2 (eq_false_of_ne_true hfull))).bind_returns (fun r hr ↦ .ret_returns hr.1) .error

theorem conforms_crossCheck (config : ReconciliationConfig) (fetchForDate : HistoryAdapter)
    (target : ℤ) : Conforms runMonitor (crossCheck config fetchForDate target) (.started id)
      (Returns (.started id) CrossCheckOnly) := by
  have hskipped : ∀ detail, CrossCheckOnly [skipped detail] := by
    intro detail
    refine ⟨by simp [findingsCap], fun f hf ↦ ?_⟩
    rw [List.mem_singleton.mp hf]
    simp [skipped, crossCheckCodes]
  unfold crossCheck
  split
  · exact .ret_returns (hskipped _)
  · refine Conforms.ofExcept_bind (fun history _ ↦ ?_) .error
    split
    · exact .ret_returns (hskipped _)
    · exact conforms_checkPayFastAgainstLocal _

/-- The row is made before anything is checked. -/
theorem conforms_createRun (asOfDate : Option ℤ) (now : ℤ) :
    Conforms runMonitor
      (Resumption.transaction (Tx.createReconciliationRun (startedRow (targetDay asOfDate now))) :
        Service ReconciliationRun)
      .idle fun v r ↦ ∀ run, r = .ok run → v = .started run.id := by
  refine .transaction runMonitor_same (fun s run s' _ h ↦ ?_) fun e run h ↦ nomatch h
  cases h
  refine ⟨.started s.nextId, fun hs ↦ ⟨hs.of_runs _ (Nat.le_succ _), ?_⟩, ?_⟩
  · exact .start (r := startedRow (targetDay asOfDate now) s.nextId s.clock) rfl ⟨rfl, rfl⟩ rfl rfl
  · rintro run ⟨⟩
    rfl

/-- A run that completes returns the row that it has filed. -/
theorem conforms_complete (hfound : MayFind findings) :
    Conforms runMonitor
      (guarded message id findings (Resumption.transaction
        (completeRun id findings (findings.any fun f ↦ f.severity = .high))))
      (.started id) fun v r ↦ ∀ run, r = .ok run → v = .filed run ∧ run.state = .completed := by
  have hcomplete : Conforms runMonitor
      (Resumption.transaction (completeRun id findings (findings.any fun f ↦ f.severity = .high)) :
        Service ReconciliationRun)
      (.started id) fun v r ↦ (∀ e, r = .error e → v = .started id) ∧
        ∀ run, r = .ok run → v = .filed run ∧ run.state = .completed := by
    refine .transaction runMonitor_same (fun s run s' _ h ↦ ?_) fun e ↦ ⟨fun _ _ ↦ rfl, nofun⟩
    obtain ⟨now, s₁, hnow, hupdate⟩ := Tx.of_bind_ok h
    cases hnow
    refine ⟨.filed run, writes_file ?_ ?_ hupdate, nofun, ?_⟩
    · exact fun _ ↦ rfl
    · exact fun _ ↦ .completed rfl hfound rfl rfl
    · rintro run' ⟨⟩
      refine ⟨rfl, ?_⟩
      unfold Tx.updateReconciliationRun at hupdate
      split at hupdate
      · cases hupdate
      · cases hupdate
        rfl
  refine hcomplete.tryCatch (fun v run h ↦ h.2) fun v err h ↦ ?_
  rw [h.1 err rfl]
  exact conforms_rethrow err hfound fun v e run h ↦ nomatch h

theorem conforms_bind_goesOn {α β : Type} {P : α → Prop} {p : Service α} {f : α → Service β}
    {post : RunStage → Except Failure β → Prop}
    (hp : Conforms runMonitor p (.started id) (GoesOn id P))
    (hf : ∀ a, P a → Conforms runMonitor (f a) (.started id) post)
    (he : ∀ v e, post v (.error e)) : Conforms runMonitor (p >>= f) (.started id) post := by
  refine hp.bind (fun v a h ↦ ?_) fun v e _ ↦ he v e
  obtain ⟨rfl, ha⟩ := h a rfl
  exact hf a ha

/-- A run files what it tells. -/
theorem conforms_run (config : ReconciliationConfig) (message : Failure → String)
    (fetchForDate : HistoryAdapter) (asOfDate : Option ℤ) (now : ℤ) :
    Conforms runMonitor (some <$> runForDate config message fetchForDate asOfDate now) .idle
      HasFiled := by
  have herror : ∀ (v : RunStage) (e : Failure), HasFiled v ((Except.error e).map some) :=
    fun _ _ _ h ↦ nomatch h
  refine Conforms.map ((conforms_createRun asOfDate now).bind (fun v run h ↦ ?_) fun v e _ ↦
    herror v e)
  rw [h run rfl]
  refine conforms_bind_goesOn
    (conforms_guardedStep driftOnly_nil.mayFind (conforms_checkInvariantA _ _)) ?_ herror
  rintro aFindings rfl
  refine conforms_bind_goesOn
    (conforms_guardedStep driftOnly_nil.mayFind (conforms_checkInvariantB _)) ?_ herror
  intro bFindings hb
  refine conforms_bind_goesOn
    (conforms_guardedStep hb.mayFind conforms_checkInvariantC) ?_ herror
  rintro cFindings rfl
  have hfound : MayFind ([] ++ bFindings ++ []) := by
    rw [List.nil_append, List.append_nil]
    exact hb.mayFind
  refine conforms_bind_goesOn
    (conforms_guardedStep hfound (conforms_crossCheck config fetchForDate _)) ?_ herror
  intro pFindings hp
  have hall : MayFind ([] ++ bFindings ++ [] ++ pFindings) := by
    rw [List.nil_append, List.append_nil]
    exact ⟨bFindings, pFindings, hb, hp, rfl⟩
  refine (conforms_complete hall).bind (fun v finished h ↦ ?_) fun v e _ ↦ herror v e
  obtain ⟨rfl, hstate⟩ := h finished rfl
  rintro outcome ⟨⟩
  exact ⟨finished, rfl, rfl, rfl, rfl, rfl, hstate, hstate⟩

end Steps

end ReconciliationService

/-! ## What the threads and the rows keep -/

/-- Every row is being written by one thread, or has been filed. -/
structure RunsKept (s : Store) (vs : List RunStage) : Prop where
  books : s.InBooks
  distinct : (s.reconciliationRuns.map ReconciliationRun.id).Nodup
  fresh : ∀ r ∈ s.reconciliationRuns, r.id < s.nextId
  shape : ∀ r ∈ s.reconciliationRuns, r.Running ∨ r.Filed
  started : ∀ (i id : ℕ), vs[i]? = some (.started id) →
    ∃ r ∈ s.reconciliationRuns, r.id = id ∧ r.Running
  single : ∀ (i j id : ℕ), vs[i]? = some (.started id) → vs[j]? = some (.started id) → i = j
  filed : ∀ (i : ℕ) r, vs[i]? = some (.filed r) → r ∈ s.reconciliationRuns ∧ r.Filed

/-- Rows that have been filed are there for good. -/
def FiledRemain (s s' : Store) : Prop :=
  ∀ r ∈ s.reconciliationRuns, r.Filed → r ∈ s'.reconciliationRuns

namespace RunsKept

variable {s s' : Store} {vs : List RunStage} {v v' : RunStage} {i : ℕ}

theorem empty (clock nextId : ℕ) (intents : List PaymentIntent) (vs : List RunStage)
    (hvs : ∀ v ∈ vs, v = .idle) : RunsKept (Store.empty clock nextId intents) vs := by
  have hidle : ∀ (i : ℕ) v, vs[i]? = some v → v = .idle := fun i v h ↦
    hvs v (List.mem_of_getElem? h)
  refine ⟨Store.inBooks_empty clock nextId intents, List.nodup_nil, ?_, ?_, ?_, ?_, ?_⟩
  · exact fun _ hm ↦ absurd hm List.not_mem_nil
  · exact fun _ hm ↦ absurd hm List.not_mem_nil
  · exact fun i id h ↦ nomatch hidle i _ h
  · exact fun i j id h ↦ nomatch hidle i _ h
  · exact fun i r h ↦ nomatch hidle i _ h

/-- The stages after one of them has changed. -/
theorem getElem?_set_cases {j : ℕ} {w : RunStage} (h : (vs.set i v')[j]? = some w) :
    (j = i ∧ w = v') ∨ (j ≠ i ∧ vs[j]? = some w) :=
  Pool.forall_set_of_ne (C := fun j w ↦ (j = i ∧ w = v') ∨ (j ≠ i ∧ vs[j]? = some w))
    (fun _ _ hne hj ↦ .inr ⟨hne.symm, hj⟩) (.inl ⟨rfl, rfl⟩) j w h

theorem other (h : RunsKept s vs) (hbooks : s'.InBooks)
    (hrows : s'.reconciliationRuns = s.reconciliationRuns) (hn : s.nextId ≤ s'.nextId) :
    RunsKept s' vs where
  books := hbooks
  distinct := hrows ▸ h.distinct
  fresh := hrows ▸ fun r hr ↦ (h.fresh r hr).trans_le hn
  shape := hrows ▸ h.shape
  started := hrows ▸ h.started
  single := h.single
  filed := hrows ▸ h.filed

theorem start (h : RunsKept s vs) (hbooks : s'.InBooks) {r : ReconciliationRun}
    (hid : r.id = s.nextId) (hrunning : r.Running)
    (hrows : s'.reconciliationRuns = s.reconciliationRuns ++ [r])
    (hn : s'.nextId = s.nextId + 1) : RunsKept s' (vs.set i (.started r.id)) where
  books := hbooks
  distinct := by
    rw [hrows, List.map_append]
    refine List.nodup_append.mpr ⟨h.distinct, List.nodup_singleton _, fun a ha b hb ↦ ?_⟩
    obtain ⟨x, hx, rfl⟩ := List.mem_map.mp ha
    have hlt := h.fresh x hx
    rw [List.mem_singleton.mp hb]
    omega
  fresh := by
    rw [hrows]
    refine List.forall_mem_append.mpr ⟨fun x hx ↦ ?_, fun x hx ↦ ?_⟩
    · have := h.fresh x hx
      omega
    · rw [List.mem_singleton.mp hx]
      omega
  shape := by
    rw [hrows]
    refine List.forall_mem_append.mpr ⟨h.shape, fun x hx ↦ ?_⟩
    rw [List.mem_singleton.mp hx]
    exact .inl hrunning
  started := by
    intro j id hj
    rw [hrows]
    rcases getElem?_set_cases hj with ⟨-, hw⟩ | ⟨-, hj⟩
    · cases hw
      exact ⟨r, List.mem_append_right _ (List.mem_singleton.mpr rfl), rfl, hrunning⟩
    · obtain ⟨x, hx, hx'⟩ := h.started j id hj
      exact ⟨x, List.mem_append_left _ hx, hx'⟩
  single := by
    -- nobody else has started a run with this id
    have hnew : ∀ j : ℕ, vs[j]? ≠ some (RunStage.started r.id) := by
      intro j hj
      obtain ⟨x, hx, hxid, -⟩ := h.started j _ hj
      have := h.fresh x hx
      omega
    intro j k id hj hk
    rcases getElem?_set_cases hj with ⟨hji, hw⟩ | ⟨-, hj'⟩
    · rcases getElem?_set_cases hk with ⟨hki, -⟩ | ⟨-, hk'⟩
      · exact hji.trans hki.symm
      · cases hw
        exact absurd hk' (hnew k)
    · rcases getElem?_set_cases hk with ⟨-, hw⟩ | ⟨-, hk'⟩
      · cases hw
        exact absurd hj' (hnew j)
      · exact h.single j k id hj' hk'
  filed := by
    intro j x hj
    rw [hrows]
    rcases getElem?_set_cases hj with ⟨-, hw⟩ | ⟨-, hj⟩
    · cases hw
    · obtain ⟨hx, hfiled⟩ := h.filed j x hj
      exact ⟨List.mem_append_left _ hx, hfiled⟩

/-- The thread that files a row is the one that has started it. -/
theorem file (h : RunsKept s vs) (hbooks : s'.InBooks) {r : ReconciliationRun}
    {f : ReconciliationRun → ReconciliationRun} (hv : vs[i]? = some (.started r.id))
    (hmem : r ∈ s.reconciliationRuns) (hkey : ∀ r, (f r).id = r.id) (hends : (f r).Filed)
    (hrows : s'.reconciliationRuns = Table.update ReconciliationRun.id r.id f s.reconciliationRuns)
    (hn : s.nextId ≤ s'.nextId) :
    RunsKept s' (vs.set i (.filed (f r))) ∧ FiledRemain s s' := by
  have hrunning : r.Running := by
    obtain ⟨x, hx, hid, hrunning⟩ := h.started i _ hv
    obtain rfl : x = r := List.inj_on_of_nodup_map h.distinct hx hmem hid
    exact hrunning
  have hkeep : ∀ x ∈ s.reconciliationRuns, x.id ≠ r.id → x ∈ s'.reconciliationRuns := by
    intro x hx hne
    rw [hrows]
    exact Table.mem_update.mpr ⟨x, hx, (if_neg hne).symm⟩
  have hself : f r ∈ s'.reconciliationRuns := by
    rw [hrows]
    exact Table.mem_update.mpr ⟨r, hmem, (if_pos rfl).symm⟩
  have hremain : FiledRemain s s' := by
    intro x hx hfiled
    refine hkeep x hx fun hid ↦ hfiled.state_ne ?_
    rw [List.inj_on_of_nodup_map h.distinct hx hmem hid]
    exact hrunning.state
  have hrow : ∀ x ∈ s'.reconciliationRuns, x = f r ∨ x ∈ s.reconciliationRuns ∧ x.id ≠ r.id := by
    rw [hrows]
    intro x hx
    obtain ⟨y, hy, rfl⟩ := Table.mem_update.mp hx
    by_cases hid : y.id = r.id
    · rw [if_pos hid, List.inj_on_of_nodup_map h.distinct hy hmem hid]
      exact .inl rfl
    · rw [if_neg hid]
      exact .inr ⟨hy, hid⟩
  refine ⟨⟨hbooks, ?_, ?_, ?_, ?_, ?_, ?_⟩, hremain⟩
  · rw [hrows, Table.map_update _ hkey]
    exact h.distinct
  · intro x hx
    rcases hrow x hx with rfl | ⟨hx, -⟩
    · rw [hkey]
      exact (h.fresh r hmem).trans_le hn
    · exact (h.fresh x hx).trans_le hn
  · intro x hx
    rcases hrow x hx with rfl | ⟨hx, -⟩
    · exact .inr hends
    · exact h.shape x hx
  · intro j id hj
    rcases getElem?_set_cases hj with ⟨-, hw⟩ | ⟨hne, hj⟩
    · cases hw
    · obtain ⟨x, hx, rfl, hx'⟩ := h.started j id hj
      refine ⟨x, hkeep x hx fun hid ↦ hne ?_, rfl, hx'⟩
      exact h.single j i _ hj (hid ▸ hv)
  · intro j k id hj hk
    rcases getElem?_set_cases hj with ⟨-, hw⟩ | ⟨-, hj⟩
    · cases hw
    · rcases getElem?_set_cases hk with ⟨-, hw⟩ | ⟨-, hk⟩
      · cases hw
      · exact h.single j k id hj hk
  · intro j x hj
    rcases getElem?_set_cases hj with ⟨-, hw⟩ | ⟨-, hj⟩
    · cases hw
      exact ⟨hself, hends⟩
    · obtain ⟨hx, hfiled⟩ := h.filed j x hj
      exact ⟨hremain x hx hfiled, hfiled⟩

/-- A write keeps it, and what has been filed. -/
theorem step (h : RunsKept s vs) (hv : vs[i]? = some v) (hbooks : s'.InBooks)
    (hw : RunWrite s s' v v') : RunsKept s' (vs.set i v') ∧ FiledRemain s s' := by
  cases hw with
  | other hrows hn =>
      have hset : vs.set i v = vs := by
        obtain ⟨hlt, rfl⟩ := List.getElem?_eq_some_iff.mp hv
        exact List.set_getElem_self hlt
      rw [hset]
      exact ⟨h.other hbooks hrows hn, fun r hr _ ↦ hrows ▸ hr⟩
  | start hid hrunning hrows hn =>
      refine ⟨h.start hbooks hid hrunning hrows hn, fun r hr _ ↦ ?_⟩
      rw [hrows]
      exact List.mem_append_left _ hr
  | file hmem hkey hends hrows hn => exact h.file hbooks hv hmem hkey hends hrows hn

end RunsKept

/-- The same along a run. -/
theorem RunsKept.run {Q A α : Type} {post : RunStage → Except Failure α → Prop}
    {P : Pool Store Q A (Resumption Store Q A Failure α)} {vs : List RunStage}
    (hp : Pool.Conforming runMonitor post P.threads vs) (h : RunsKept P.store vs)
    (ts : List (Turn A Failure)) :
    ∃ vs', Pool.Conforming runMonitor post (Pool.run next P ts).threads vs' ∧
      RunsKept (Pool.run next P ts).store vs' ∧
      FiledRemain P.store (Pool.run next P ts).store := by
  have halong : Transition.Along (Pool.step next) (fun _ _ ↦ True) P ts :=
    .of_forall (fun _ _ ↦ trivial) _ _
  refine Pool.conforming_run (D := fun _ _ _ ↦ True)
    (J := fun s vs _ ↦ RunsKept s vs ∧ FiledRemain P.store s) (fun hJ _ ↦ hJ.1.books)
    (fun {s vs _ i v s' v'} hJ hv hw _ ↦ ?_) (fun {s vs log i v q a v'} hJ hv hq ↦ ?_) hp
    ⟨h, fun r hr _ ↦ hr⟩ halong
  · obtain ⟨hbooks, hwrite⟩ := hw hJ.1.books
    obtain ⟨hkept, hremain⟩ := hJ.1.step hv hbooks hwrite
    exact ⟨hkept, fun r hr hfiled ↦ hremain r (hJ.2 r hr hfiled) hfiled⟩
  · cases hq
    have hset : vs.set i v = vs := by
      obtain ⟨hlt, rfl⟩ := List.getElem?_eq_some_iff.mp hv
      exact List.set_getElem_self hlt
    rw [hset]
    exact hJ

/-! ## Runs beside everything else -/

/-- A run of the job or of the admin: the day that is asked for, the instant of the call, and what
the gateway's history is by then. -/
structure RunCall where
  asOfDate : Option ℤ
  now : ℤ
  fetchForDate : HistoryAdapter

section Pools

variable (runtime : Runtime) (web : WebConfig) (config : ReconciliationConfig)
  (message : Failure → String)

def RunCall.program (c : RunCall) : Web (Option ReconciliationOutcome) :=
  (some <$> runForDate config message c.fetchForDate c.asOfDate c.now).toEngine.toWeb

/-- Any number of runs, beside any number of other calls. -/
def reconcilingPool (clock nextId : ℕ) (intents : List PaymentIntent) (calls : List WebCall)
    (runs : List RunCall) :
    Pool Store OutboundRequest OutboundReply (Web (Option ReconciliationOutcome)) :=
  ⟨Store.empty clock nextId intents,
    calls.map (fun c ↦ (fun _ ↦ none) <$> c.program runtime web) ++
      runs.map (·.program config message), []⟩

variable {runtime web config message}

theorem RunCall.conforms (c : RunCall) :
    Conforms runMonitor (c.program config message) .idle HasFiled := by
  have hrun := conforms_run config message c.fetchForDate c.asOfDate c.now
  refine Conforms.relabel (M := runMonitor) (f := OutboundRequest.gateway)
    (g := OutboundReply.toGateway) (fun _ _ h ↦ h) (fun _ _ _ _ h ↦ h) (fun _ _ _ _ h ↦ h) ?_
  exact Conforms.relabel (M := runMonitor) (f := GatewayRequest.refund)
    (g := GatewayReply.toRefund) (fun _ _ h ↦ h) (fun _ _ _ _ h ↦ h) (fun _ _ _ _ h ↦ h) hrun

/-- Other calls have nothing to do with runs. -/
theorem WebCall.conforms_run (c : WebCall) :
    Conforms runMonitor ((fun _ ↦ none) <$> c.program runtime web) .idle HasFiled := by
  have hsteps : Conforms runMonitor (c.program runtime web) .idle fun v _ ↦ v = .idle := by
    refine c.guarantees_bookStep.conforms (fun _ _ ↦ trivial) (fun s s' _ h hs ↦ ?_)
      (fun _ _ _ ↦ rfl) (AsksOnly.of_forall (C := fun _ ↦ True) (fun _ ↦ trivial) _)
    exact ⟨hs.step h, .other h.reconciliationRuns h.nextId⟩
  refine Conforms.map (hsteps.mono fun v r _ ↦ ?_)
  cases r with
  | error e => exact fun _ h ↦ nomatch h
  | ok _ => exact fun _ h ↦ nomatch h

end Pools

/-- However runs of reconciliation interleave with each other and with other calls, every row is
that of a run which is still going on, or of one that has ended: with no fault in the ledger's
events or in the revenue, at most one drift of the held funds, and otherwise only what the gateway's
history is compared for, counted and with an alert for what is severe.  A row that has been filed
stays as it is for good, and what a run has told its caller is in its row from then on. -/
theorem runs_are_final (runtime : Runtime) (web : WebConfig) (config : ReconciliationConfig)
    (message : Failure → String) (clock nextId : ℕ) (intents : List PaymentIntent)
    (calls : List WebCall) (runs : List RunCall) (ts later : List (Turn OutboundReply Failure)) :
    let reached := Pool.run next
      (reconcilingPool runtime web config message clock nextId intents calls runs)
    let rows := fun ts ↦ (reached ts).store.reconciliationRuns
    (∀ r ∈ rows ts, r.Running ∨ r.Filed) ∧
    (∀ r ∈ rows ts, r.state ≠ .running → r ∈ rows (ts ++ later)) ∧
    ∀ (i : ℕ) outcome, (reached ts).threads[i]? = some (.ret (some outcome)) →
      ∃ r ∈ rows (ts ++ later), r.Tells outcome ∧ MayFind r.findings := by
  intro reached rows
  let P := reconcilingPool runtime web config message clock nextId intents calls runs
  have hconf : Pool.Conforming runMonitor HasFiled P.threads (P.threads.map fun _ ↦ .idle) := by
    intro i p hp
    refine ⟨.idle, by rw [List.getElem?_map, hp]; rfl, ?_⟩
    rcases List.mem_append.mp (List.mem_of_getElem? hp) with hmem | hmem
    · obtain ⟨c, -, rfl⟩ := List.mem_map.mp hmem
      exact c.conforms_run
    · obtain ⟨c, -, rfl⟩ := List.mem_map.mp hmem
      exact c.conforms
  have hstart : RunsKept P.store (P.threads.map fun _ ↦ .idle) :=
    .empty clock nextId intents _ fun v hv ↦ by
      obtain ⟨-, -, rfl⟩ := List.mem_map.mp hv
      rfl
  obtain ⟨vs, hthreads, hkept, -⟩ := RunsKept.run hconf hstart ts
  obtain ⟨-, -, -, hremain⟩ := RunsKept.run hthreads hkept later
  have hlater : Pool.run next (Pool.run next P ts) later = reached (ts ++ later) :=
    (Transition.run_append ..).symm
  rw [hlater] at hremain
  refine ⟨hkept.shape, fun r hr hne ↦ ?_, fun i outcome hret ↦ ?_⟩
  · exact hremain r hr ((hkept.shape r hr).resolve_left fun h ↦ hne h.state)
  · obtain ⟨v, hv, hpost⟩ := hthreads i _ hret
    obtain ⟨r, rfl, htells⟩ := hpost outcome rfl
    obtain ⟨hr, hfiled⟩ := hkept.filed i r hv
    refine ⟨r, hremain r hr hfiled, htells, ?_⟩
    cases hfiled with
    | completed _ found => exact found
    | failed state => exact nomatch state.symm.trans htells.state.2

end GearshPayments
