import GearshPayments.Reconciliation.Run

/-!
# The gateway's history against the local rows

`checkPayFastAgainstLocal` of `reconciliation.service.ts`.  Its three loops look up the row that
succeeded with the gateway's id; that of the transactions also compares the amounts, and those of
the refunds and of the payouts do not.  So the check says nothing of an amount that drifted, unless
something else is wrong that day (`crossCheck_complete_iff`).
-/

namespace GearshPayments

open Resumption

/-- A table whose rows the gateway knows by an id. -/
structure GatewayTable (ρ : Type) where
  rows : Store → List ρ
  gatewayId : ρ → Option String
  Succeeded : ρ → Prop
  amountCents : ρ → ℤ
  [decidable : DecidablePred Succeeded]

attribute [instance] GatewayTable.decidable

namespace GatewayTable

variable {ρ : Type} (T : GatewayTable ρ) (s : Store)

/-- The first row that succeeded with this id. -/
def find (id : String) : Option ρ :=
  (T.rows s).find? fun r ↦ T.gatewayId r = some id ∧ T.Succeeded r

/-- A row succeeded with this id. -/
def Known (id : String) : Prop := ∃ r ∈ T.rows s, T.gatewayId r = some id ∧ T.Succeeded r

/-- A row succeeded with this id and this amount. -/
def Has (id : String) (cents : ℤ) : Prop :=
  ∃ r ∈ T.rows s, (T.gatewayId r = some id ∧ T.Succeeded r) ∧ T.amountCents r = cents

/-- A row succeeded with this id and another amount. -/
def Differs (id : String) (cents : ℤ) : Prop :=
  ∃ r ∈ T.rows s, (T.gatewayId r = some id ∧ T.Succeeded r) ∧ T.amountCents r ≠ cents

/-- No two rows that succeeded have the same id. -/
def Unique : Prop :=
  ∀ a ∈ T.rows s, ∀ b ∈ T.rows s, ∀ id, T.gatewayId a = some id ∧ T.Succeeded a →
    T.gatewayId b = some id ∧ T.Succeeded b → a = b

variable {T s} {id : String} {cents : ℤ}

theorem known_iff_of_find {found : Option ρ} (h : T.find s id = found) :
    T.Known s id ↔ found.isSome := by
  rw [← h, find, List.find?_isSome]
  simp only [decide_eq_true_eq]
  exact Iff.rfl

theorem of_find {r : ρ} (h : T.find s id = some r) :
    r ∈ T.rows s ∧ T.gatewayId r = some id ∧ T.Succeeded r :=
  ⟨List.mem_of_find?_eq_some h, by simpa using List.find?_some h⟩

/-- With unique ids, the row that is found decides. -/
theorem Unique.has_iff_of_find (hu : T.Unique s) {r : ρ} (h : T.find s id = some r) :
    T.Has s id cents ↔ T.amountCents r = cents := by
  obtain ⟨hr, hrow⟩ := of_find h
  constructor
  · rintro ⟨x, hx, hrow', hcents⟩
    rw [hu r hr x hx id hrow hrow']
    exact hcents
  · exact fun hcents ↦ ⟨r, hr, hrow, hcents⟩

theorem Unique.has_iff (hu : T.Unique s) :
    T.Has s id cents ↔ T.Known s id ∧ ¬T.Differs s id cents := by
  constructor
  · rintro ⟨r, hr, hrow, hcents⟩
    refine ⟨⟨r, hr, hrow⟩, ?_⟩
    rintro ⟨x, hx, hrow', hother⟩
    rw [hu x hx r hr id hrow' hrow] at hother
    exact hother hcents
  · rintro ⟨⟨r, hr, hrow⟩, hsame⟩
    exact ⟨r, hr, hrow, not_not.mp fun hother ↦ hsame ⟨r, hr, hrow, hother⟩⟩

end GatewayTable

def transactionTable : GatewayTable Transaction where
  rows := Store.transactions
  gatewayId := Transaction.gatewayTxnId
  Succeeded t := t.state = .succeeded
  amountCents := Transaction.amountCents

def refundTable : GatewayTable Refund where
  rows := Store.refunds
  gatewayId := Refund.gatewayRefundId
  Succeeded r := r.state = .succeeded
  amountCents := Refund.amountCents

def payoutTable : GatewayTable Payout where
  rows := Store.payouts
  gatewayId := Payout.gatewayPayoutId
  Succeeded p := p.state = .succeeded
  amountCents := Payout.amountCents

/-- The ids of the gateway are unique in each table. -/
structure Store.GatewayIdsUnique (s : Store) : Prop where
  transactions : transactionTable.Unique s
  refunds : refundTable.Unique s
  payouts : payoutTable.Unique s

namespace PayFastDailyHistory

variable (history : PayFastDailyHistory) (s : Store)

/-- Everything in the history has its local row, of the same amount. -/
structure Matches : Prop where
  transactions : ∀ pf ∈ history.transactions, pf.status = "COMPLETE" →
    transactionTable.Has s pf.pfPaymentId pf.amountCents
  refunds : ∀ pf ∈ history.refunds, refundTable.Has s pf.gatewayRefundId pf.amountCents
  payouts : ∀ pf ∈ history.payouts, payoutTable.Has s pf.gatewayPayoutId pf.amountCents

/-- A refund or a payout has a local row of another amount. -/
def Drifted : Prop :=
  (∃ pf ∈ history.refunds, refundTable.Differs s pf.gatewayRefundId pf.amountCents) ∨
    ∃ pf ∈ history.payouts, payoutTable.Differs s pf.gatewayPayoutId pf.amountCents

/-- A complete transaction has no local row of its amount, or a refund or a payout has none. -/
def Lacking : Prop :=
  (∃ pf ∈ history.transactions, pf.status = "COMPLETE" ∧
    ¬transactionTable.Has s pf.pfPaymentId pf.amountCents) ∨
  (∃ pf ∈ history.refunds, ¬refundTable.Known s pf.gatewayRefundId) ∨
    ∃ pf ∈ history.payouts, ¬payoutTable.Known s pf.gatewayPayoutId

variable {history s}

theorem matches_iff (hu : s.GatewayIdsUnique) :
    history.Matches s ↔ ¬history.Lacking s ∧ ¬history.Drifted s := by
  constructor
  · intro h
    refine ⟨?_, ?_⟩
    · rintro (⟨pf, hpf, hstatus, hnot⟩ | ⟨pf, hpf, hnot⟩ | ⟨pf, hpf, hnot⟩)
      · exact hnot (h.transactions pf hpf hstatus)
      · exact hnot (hu.refunds.has_iff.mp (h.refunds pf hpf)).1
      · exact hnot (hu.payouts.has_iff.mp (h.payouts pf hpf)).1
    · rintro (⟨pf, hpf, hother⟩ | ⟨pf, hpf, hother⟩)
      · exact (hu.refunds.has_iff.mp (h.refunds pf hpf)).2 hother
      · exact (hu.payouts.has_iff.mp (h.payouts pf hpf)).2 hother
  · rintro ⟨hlacking, hdrifted⟩
    refine ⟨fun pf hpf hstatus ↦ ?_, fun pf hpf ↦ ?_, fun pf hpf ↦ ?_⟩
    · exact not_not.mp fun hnot ↦ hlacking (.inl ⟨pf, hpf, hstatus, hnot⟩)
    · refine hu.refunds.has_iff.mpr ⟨?_, fun hother ↦ hdrifted (.inl ⟨pf, hpf, hother⟩)⟩
      exact not_not.mp fun hnot ↦ hlacking (.inr (.inl ⟨pf, hpf, hnot⟩))
    · refine hu.payouts.has_iff.mpr ⟨?_, fun hother ↦ hdrifted (.inr ⟨pf, hpf, hother⟩)⟩
      exact not_not.mp fun hnot ↦ hlacking (.inr (.inr ⟨pf, hpf, hnot⟩))

end PayFastDailyHistory

namespace ReconciliationService

/-! ## One lookup -/

/-- The check leaves the store alone, and finds nothing exactly where `Q` holds. -/
def Detects {α : Type} (s : Store) (check : α → Service (Option ReconciliationFinding))
    (Q : α → Prop) : Prop :=
  ∀ (answers : ℕ → HttpOutcome) (pf : α), ∃ finding,
    (check pf).run (.healthy answers) s = ⟨.ok finding, s, .healthy answers, []⟩ ∧
      (finding = none ↔ Q pf)

variable {s : Store}

theorem detects_checkTransaction (hu : transactionTable.Unique s) :
    Detects s checkTransaction fun pf ↦ transactionTable.Has s pf.pfPaymentId pf.amountCents := by
  intro answers pf
  dsimp only
  rw [checkTransaction, run_bind_ok_nil (run_read_healthy _ _ _)]
  generalize hfind : s.transactions.find? _ = found
  change transactionTable.find s pf.pfPaymentId = found at hfind
  cases found with
  | none =>
      refine ⟨_, rfl, iff_of_false (Option.some_ne_none _) ?_⟩
      rintro ⟨r, hr, hrow, -⟩
      exact Bool.false_ne_true ((GatewayTable.known_iff_of_find hfind).mp ⟨r, hr, hrow⟩)
  | some found =>
      refine ⟨_, rfl, ?_⟩
      rw [hu.has_iff_of_find hfind]
      change _ ↔ found.amountCents = pf.amountCents
      split
      · next hother => exact iff_of_false (Option.some_ne_none _) hother
      · next hsame => exact iff_of_true rfl (not_not.mp hsame)

/-- A check that only looks whether there is a row. -/
theorem detects_known {α ρ : Type} (T : GatewayTable ρ) {id : α → String}
    (missing : α → ReconciliationFinding) {check : α → Service (Option ReconciliationFinding)}
    (hcheck : ∀ pf, check pf = Resumption.read (fun s ↦ T.find s (id pf)) >>= fun found ↦
      found.elim (.ret (some (missing pf))) fun _ ↦ .ret none) :
    Detects s check fun pf ↦ T.Known s (id pf) := by
  intro answers pf
  rw [hcheck, run_bind_ok_nil (run_read_healthy _ _ _)]
  dsimp only
  cases hfind : T.find s (id pf) with
  | none =>
      refine ⟨_, rfl, iff_of_false (Option.some_ne_none _) fun h ↦ ?_⟩
      exact Bool.false_ne_true ((GatewayTable.known_iff_of_find hfind).mp h)
  | some found => exact ⟨_, rfl, iff_of_true rfl ((GatewayTable.known_iff_of_find hfind).mpr rfl)⟩

theorem detects_checkRefund :
    Detects s checkRefund fun pf ↦ refundTable.Known s pf.gatewayRefundId := by
  refine detects_known refundTable missingRefund fun pf ↦ congrArg _ (funext fun found ↦ ?_)
  cases found with
  | none => rfl
  | some found => rfl

theorem detects_checkPayout :
    Detects s checkPayout fun pf ↦ payoutTable.Known s pf.gatewayPayoutId := by
  refine detects_known payoutTable missingPayout fun pf ↦ congrArg _ (funext fun found ↦ ?_)
  cases found with
  | none => rfl
  | some found => rfl

/-! ## The loops -/

/-- A loop stops once there are as many findings as may be; it finds nothing if the check finds
nothing in any item. -/
theorem run_checkEach {α : Type} {check : α → Service (Option ReconciliationFinding)} {Q : α → Prop}
    (hcheck : Detects s check Q) (answers : ℕ → HttpOutcome) (items : List α)
    (findings : List ReconciliationFinding) (hroom : findings.length < findingsCap) :
    ∃ found full, (checkEach check items findings).run (.healthy answers) s =
        ⟨.ok (found, full), s, .healthy answers, []⟩ ∧
      found.length ≤ findingsCap ∧ (full = true ↔ found.length = findingsCap) ∧
      (found = [] ↔ findings = [] ∧ ∀ pf ∈ items, Q pf) := by
  induction items generalizing findings with
  | nil =>
      refine ⟨findings, false, rfl, hroom.le, ?_, ?_⟩
      · exact iff_of_false Bool.false_ne_true hroom.ne
      · exact ⟨fun h ↦ ⟨h, fun _ hpf ↦ absurd hpf List.not_mem_nil⟩, And.left⟩
  | cons pf rest ih =>
      obtain ⟨finding, hrun, hnone⟩ := hcheck answers pf
      rw [checkEach, run_bind_ok_nil hrun]
      dsimp only
      have hlength : (findings ++ finding.toList).length ≤ findings.length + 1 := by
        rw [List.length_append]
        cases finding with
        | none => exact Nat.le_succ _
        | some f => exact le_rfl
      have hnil : findings ++ finding.toList = [] ↔ findings = [] ∧ Q pf := by
        rw [List.append_eq_nil_iff, ← hnone, Option.toList_eq_nil_iff]
      split
      · next hfull =>
          have heq : (findings ++ finding.toList).length = findingsCap := by omega
          refine ⟨_, true, rfl, heq.le, iff_of_true rfl heq, ?_⟩
          refine iff_of_false (fun h ↦ ?_) fun h ↦ ?_
          · rw [h] at heq
            cases heq
          · rw [hnil.mpr ⟨h.1, h.2 pf List.mem_cons_self⟩] at heq
            cases heq
      · next hless =>
          obtain ⟨found, full, hrun', hle, hfull, hiff⟩ := ih _ (Nat.lt_of_not_le hless)
          refine ⟨found, full, hrun', hle, hfull, ?_⟩
          rw [hiff, hnil, List.forall_mem_cons, and_assoc]

/-- Alone over a store, the check finds nothing exactly if the history lacks nothing, and never
more than may be found. -/
theorem run_checkPayFastAgainstLocal (hu : transactionTable.Unique s)
    (history : PayFastDailyHistory) (answers : ℕ → HttpOutcome) :
    ∃ found, (checkPayFastAgainstLocal history).run (.healthy answers) s =
        ⟨.ok found, s, .healthy answers, []⟩ ∧
      found.length ≤ findingsCap ∧ (found = [] ↔ ¬history.Lacking s) := by
  have hlacking : ¬history.Lacking s ↔
      (∀ pf ∈ history.transactions.filter fun pf ↦ pf.status = "COMPLETE",
        transactionTable.Has s pf.pfPaymentId pf.amountCents) ∧
      (∀ pf ∈ history.refunds, refundTable.Known s pf.gatewayRefundId) ∧
      ∀ pf ∈ history.payouts, payoutTable.Known s pf.gatewayPayoutId := by
    simp only [PayFastDailyHistory.Lacking, List.mem_filter, decide_eq_true_eq, not_or, not_exists,
      not_and, not_not, and_imp]
  have hroom : ∀ found : List ReconciliationFinding, found.length ≤ findingsCap →
      (false = true ↔ found.length = findingsCap) → found.length < findingsCap :=
    fun found hle hfull ↦ hle.lt_of_ne fun h ↦ Bool.false_ne_true (hfull.mpr h)
  -- a list that is full is not empty
  have hsome : ∀ found : List ReconciliationFinding,
      (true = true ↔ found.length = findingsCap) → found ≠ [] := by
    rintro found hfull rfl
    cases hfull.mp rfl
  rw [hlacking, checkPayFastAgainstLocal]
  obtain ⟨found₁, full₁, hrun₁, hle₁, hfull₁, hnil₁⟩ :=
    run_checkEach (detects_checkTransaction hu) answers
      (history.transactions.filter fun pf ↦ pf.status = "COMPLETE") [] (by decide)
  rw [run_bind_ok_nil hrun₁]
  cases full₁ with
  | true => exact ⟨found₁, rfl, hle₁, iff_of_false (hsome _ hfull₁) fun h ↦
      hsome _ hfull₁ (hnil₁.mpr ⟨rfl, h.1⟩)⟩
  | false =>
      obtain ⟨found₂, full₂, hrun₂, hle₂, hfull₂, hnil₂⟩ :=
        run_checkEach detects_checkRefund answers history.refunds found₁ (hroom _ hle₁ hfull₁)
      change ∃ found,
        Resumption.run (checkEach checkRefund history.refunds found₁ >>= _) _ _ = _ ∧ _
      rw [run_bind_ok_nil hrun₂]
      cases full₂ with
      | true => exact ⟨found₂, rfl, hle₂, iff_of_false (hsome _ hfull₂) fun h ↦
          hsome _ hfull₂ (hnil₂.mpr ⟨hnil₁.mpr ⟨rfl, h.1⟩, h.2.1⟩)⟩
      | false =>
          obtain ⟨found₃, full₃, hrun₃, hle₃, -, hnil₃⟩ :=
            run_checkEach detects_checkPayout answers history.payouts found₂ (hroom _ hle₂ hfull₂)
          change ∃ found,
            Resumption.run (checkEach checkPayout history.payouts found₂ >>= _) _ _ = _ ∧ _
          rw [run_bind_ok_nil hrun₃]
          refine ⟨found₃, rfl, hle₃, ?_⟩
          rw [hnil₃, hnil₂, hnil₁, and_assoc, and_assoc]
          exact and_iff_right rfl

end ReconciliationService

open ReconciliationService

/-- For every history and every store in which the gateway's ids are unique: the check is empty if
and only if everything has its row of the same amount, and never longer than 50, exactly if no
amount of a refund or a payout drifted, or something is lacking besides. -/
theorem crossCheck_complete_iff {s : Store} (hu : s.GatewayIdsUnique)
    (history : PayFastDailyHistory) (answers : ℕ → HttpOutcome) :
    (∃ found, ((checkPayFastAgainstLocal history).run (.healthy answers) s).result = .ok found ∧
      (found = [] ↔ history.Matches s) ∧ found.length ≤ 50) ↔
    ¬history.Drifted s ∨ history.Lacking s := by
  obtain ⟨found, hrun, hle, hnil⟩ := run_checkPayFastAgainstLocal hu.transactions history answers
  have hmatches := history.matches_iff hu
  rw [hrun]
  constructor
  · rintro ⟨found', hfound, hiff, -⟩
    cases hfound
    by_cases hlacking : history.Lacking s
    · exact .inr hlacking
    · exact .inl (hmatches.mp (hiff.mp (hnil.mpr hlacking))).2
  · intro h
    refine ⟨found, rfl, ?_, hle⟩
    rw [hnil, hmatches]
    refine ⟨fun hlacking ↦ ⟨hlacking, h.resolve_right hlacking⟩, And.left⟩

namespace Sample

/-- A refund of 500, of which the local row says 300. -/
def refundHistory : PayFastDailyHistory := ⟨[], [⟨"gr-1", 500⟩], []⟩

def refundRow (amountCents : ℤ) : Refund where
  id := 31
  transactionId := 21
  amountCents := amountCents
  reason := "cancelled"
  initiatedBy := 9
  state := .succeeded
  gatewayRefundId := some "gr-1"
  failureReason := none
  completedAt := some 5
  createdAt := 4

def refundedStore (amountCents : ℤ) : Store :=
  { Store.empty 10 100 [] with
    refunds := [refundRow amountCents] }

theorem refundedStore_unique (amountCents : ℤ) : (refundedStore amountCents).GatewayIdsUnique where
  transactions := fun _ ha ↦ absurd ha List.not_mem_nil
  refunds := fun _ ha _ hb _ _ _ ↦ (List.mem_singleton.mp ha).trans (List.mem_singleton.mp hb).symm
  payouts := fun _ ha ↦ absurd ha List.not_mem_nil

end Sample

/-- The check finds nothing although the amounts differ. -/
theorem drift_undetected :
    ((checkPayFastAgainstLocal Sample.refundHistory).run (.healthy fun _ ↦ .resolved 200 none)
      (Sample.refundedStore 300)).result = .ok [] ∧
    (Sample.refundedStore 300).GatewayIdsUnique ∧
    ¬Sample.refundHistory.Matches (Sample.refundedStore 300) := by
  refine ⟨rfl, Sample.refundedStore_unique 300, fun h ↦ ?_⟩
  obtain ⟨r, hr, -, hcents⟩ := h.refunds _ List.mem_cons_self
  rw [List.mem_singleton.mp hr] at hcents
  exact absurd hcents (by decide)

/-- Where the amounts agree, the check is right to find nothing. -/
theorem crossCheck_complete_sample :
    ∃ found, ((checkPayFastAgainstLocal Sample.refundHistory).run
        (.healthy fun _ ↦ .resolved 200 none) (Sample.refundedStore 500)).result = .ok found ∧
      (found = [] ↔ Sample.refundHistory.Matches (Sample.refundedStore 500)) ∧
      found.length ≤ 50 := by
  refine (crossCheck_complete_iff (Sample.refundedStore_unique 500) Sample.refundHistory
    fun _ ↦ .resolved 200 none).mpr (.inl ?_)
  rintro (⟨pf, hpf, r, hr, -, hother⟩ | ⟨pf, hpf, -⟩)
  · rw [List.mem_singleton.mp hpf, List.mem_singleton.mp hr] at hother
    exact hother rfl
  · exact List.not_mem_nil hpf

end GearshPayments
