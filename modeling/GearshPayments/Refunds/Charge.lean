import Mathlib.Data.List.Induction
import GearshPayments.Payments.ExactlyOnce

/-!
# Which charge a refund goes to

A payment is captured by one commit, which writes the charge and creates the hold
(`Store.CapturedBy`); every other notification of the intent leaves a charge row that has
failed.  A refund finds the charge by the intent of the hold, the most recent one, or by
the id that the caller gives.  Neither lookup looks at the state of the row, so what comes
back is the charge that was captured exactly when the row the lookup leads to has
succeeded (`resolves_captured_iff`).
-/

namespace GearshPayments

open Resumption EscrowService PayFastWebhookService RefundsService

/-! ## Charges and the holds they were captured into -/

namespace Store

/-- The charges of an intent. -/
def chargesOf (s : Store) (paymentIntentId : ℕ) : List Transaction :=
  s.transactions.filter fun t ↦ t.paymentIntentId = paymentIntentId ∧ t.type = .charge

/-- The most recent charge of the intent has succeeded: those recorded before it are older, and
those recorded after it are not newer. -/
def SucceededLast (s : Store) (paymentIntentId : ℕ) : Prop :=
  ∃ before t after, s.chargesOf paymentIntentId = before ++ t :: after ∧ t.state = .succeeded ∧
    (∀ u ∈ before, u.createdAt < t.createdAt) ∧ ∀ u ∈ after, u.createdAt ≤ t.createdAt

def succeededCharges (s : Store) : List Transaction :=
  s.transactions.filter fun t ↦ t.state = .succeeded

/-- The holds as they were captured. -/
def capturedHolds (s : Store) : List EscrowHold := s.escrowHolds.map EscrowHold.asCaptured

/-- The step from `s` to `s'` commits a completed payment: it writes the charge and creates the
hold. -/
def CapturedBy (s s' : Store) (charge : Transaction) (hold : EscrowHold) : Prop :=
  ∃ (args : CommitArgs) (zarFee : ℤ), args.paymentStatus = .complete ∧ args.Captures zarFee s ∧
    s' = args.captured zarFee s ∧ charge = (args.capture zarFee s).charge ∧
    hold.asCaptured = (args.capture zarFee s).hold

/-- What a step does to the captured holds and the charges that have succeeded: nothing, or a
capture. -/
def CapturesOrKeeps (s s' : Store) : Prop :=
  (s'.capturedHolds = s.capturedHolds ∧ s'.succeededCharges = s.succeededCharges) ∨
    ∃ (args : CommitArgs) (zarFee : ℤ), args.paymentStatus = .complete ∧
      args.Captures zarFee s ∧ s' = args.captured zarFee s

theorem CapturedBy.succeeded {s s' : Store} {charge : Transaction} {hold : EscrowHold}
    (h : s.CapturedBy s' charge hold) : charge.state = .succeeded := by
  obtain ⟨args, zarFee, -, -, -, rfl, -⟩ := h
  rfl

theorem CapturedBy.intent {s s' : Store} {charge : Transaction} {hold : EscrowHold}
    (h : s.CapturedBy s' charge hold) : charge.paymentIntentId = hold.paymentIntentId := by
  obtain ⟨args, zarFee, -, -, -, rfl, hh⟩ := h
  exact (congrArg EscrowHold.paymentIntentId hh).symm

/-- Only what was captured of the hold matters. -/
theorem CapturedBy.congr {s s' : Store} {charge : Transaction} {hold hold' : EscrowHold}
    (h : s.CapturedBy s' charge hold) (hh : hold'.asCaptured = hold.asCaptured) :
    s.CapturedBy s' charge hold' := by
  obtain ⟨args, zarFee, hst, hc, hs, ht, hcap⟩ := h
  exact ⟨args, zarFee, hst, hc, hs, ht, hh.trans hcap⟩

theorem capturedHolds_captured (args : CommitArgs) (zarFee : ℤ) (s : Store) :
    (args.captured zarFee s).capturedHolds = s.capturedHolds ++ [(args.capture zarFee s).hold] :=
  List.map_append

theorem succeededCharges_captured (args : CommitArgs) (zarFee : ℤ) (s : Store) :
    (args.captured zarFee s).succeededCharges =
      s.succeededCharges ++ [(args.capture zarFee s).charge] :=
  List.filter_append ..

/-- A captured hold stays. -/
theorem CapturesOrKeeps.mem {s s' : Store} (h : s.CapturesOrKeeps s') {hold : EscrowHold}
    (hm : hold ∈ s.capturedHolds) : hold ∈ s'.capturedHolds := by
  rcases h with ⟨hh, -⟩ | ⟨args, zarFee, -, -, rfl⟩
  · rwa [hh]
  · rw [capturedHolds_captured]
    exact List.mem_append_left _ hm

/-- So does a charge that has succeeded. -/
theorem CapturesOrKeeps.mem_succeeded {s s' : Store} (h : s.CapturesOrKeeps s')
    {charge : Transaction} (hm : charge ∈ s.succeededCharges) : charge ∈ s'.succeededCharges := by
  rcases h with ⟨-, ht⟩ | ⟨args, zarFee, -, -, rfl⟩
  · rwa [ht]
  · rw [succeededCharges_captured]
    exact List.mem_append_left _ hm

theorem mem_capturedHolds {s : Store} {hold : EscrowHold} (h : hold ∈ s.escrowHolds) :
    hold.asCaptured ∈ s.capturedHolds := List.mem_map_of_mem h

/-- An intent has one captured hold at most. -/
theorem CapturedOnce.eq_of_mem {s : Store} {id : ℕ} (h : s.CapturedOnce id)
    {hold hold' : EscrowHold}
    (hm : hold ∈ s.capturedHolds) (hm' : hold' ∈ s.capturedHolds) (hid : hold.paymentIntentId = id)
    (hid' : hold'.paymentIntentId = id) : hold = hold' := by
  obtain ⟨x, hx, rfl⟩ := List.mem_map.mp hm
  obtain ⟨y, hy, rfl⟩ := List.mem_map.mp hm'
  have hx : x ∈ s.holdsOf id := List.mem_filter.mpr ⟨hx, decide_eq_true hid⟩
  have hy : y ∈ s.holdsOf id := List.mem_filter.mpr ⟨hy, decide_eq_true hid'⟩
  cases h with
  | nothing holds _ _ _ =>
      rw [holds] at hx
      exact absurd hx List.not_mem_nil
  | payment holds _ _ _ _ _ _ _ =>
      rw [holds] at hx hy
      rw [List.mem_singleton.mp hx, List.mem_singleton.mp hy]

end Store

/-- The calls that may be pending: a step of each captures or keeps. -/
theorem rules_capturesOrKeeps (business : BusinessConfig) :
    PaymentRules business (fun _ ↦ True) Store.CapturesOrKeeps where
  refl := fun _ _ ↦ .inl ⟨rfl, rfl⟩
  insert := by
    intro s s' row r _ _ _ h
    cases h
    exact .inl ⟨rfl, rfl⟩
  move := by
    intro s s' op hold _ h
    obtain ⟨hold, target, w, entries, hc, -, rfl⟩ := EscrowOp.commits_of_exec_eq h
    refine .inl ⟨?_, rfl⟩
    exact Table.map_update _ (fun x ↦ (EscrowOp.update_of_work hc.work x).2.asCaptured) _
  announce := fun _ _ _ _ _ ↦ .inl ⟨rfl, rfl⟩
  commit := by
    intro s₀ s s' id intent zarAmount fee mPaymentId pfPaymentId paymentStatus traceparent
      tracestate _ _ _ h
    by_cases hst : paymentStatus = .complete
    · rw [commit_of_complete hst] at h
      rcases of_commitComplete_ok h with ⟨-, rfl⟩ | ⟨hc, rfl⟩
      · exact .inl ⟨rfl, rfl⟩
      · exact .inr ⟨_, fee, hst, hc, rfl⟩
    · rw [commit_of_ne hst] at h
      rcases of_commitFailed_ok h with ⟨-, rfl⟩ | ⟨-, -, rfl⟩
      · exact .inl ⟨rfl, rfl⟩
      · refine .inl ⟨rfl, ?_⟩
        rw [Store.succeededCharges, CommitArgs.recorded, List.filter_append]
        exact List.append_nil _
  tick := fun _ _ ↦ .inl ⟨rfl, rfl⟩

/-! ## The history of a charge -/

section History

variable {P : Pool Store PayFastRefundInput HttpOutcome (Service Unit)}

/-- One turn of the run commits the payment that the charge and the hold are of. -/
def CapturedIn (P : Pool Store PayFastRefundInput HttpOutcome (Service Unit))
    (ts : List (Turn HttpOutcome Failure)) (charge : Transaction) (hold : EscrowHold) : Prop :=
  ∃ ts₁ t, ts₁ ++ [t] <+: ts ∧
    (Pool.run next P ts₁).store.CapturedBy (Pool.run next P (ts₁ ++ [t])).store charge hold

theorem CapturedIn.append {ts : List (Turn HttpOutcome Failure)} {charge : Transaction}
    {hold : EscrowHold} (h : CapturedIn P ts charge hold) (ts' : List (Turn HttpOutcome Failure)) :
    CapturedIn P (ts ++ ts') charge hold := by
  obtain ⟨ts₁, t, hp, hc⟩ := h
  exact ⟨ts₁, t, hp.trans (List.prefix_append ts ts'), hc⟩

/-- Every charge that has succeeded was captured, into a hold that is still there. -/
theorem exists_capturedIn (hg : ∀ p ∈ P.threads, Guarantees (fun _ ↦ True) Store.CapturesOrKeeps p)
    (h₀ : P.store.succeededCharges = []) (ts : List (Turn HttpOutcome Failure)) :
    ∀ charge ∈ (Pool.run next P ts).store.succeededCharges,
      ∃ hold ∈ (Pool.run next P ts).store.capturedHolds, CapturedIn P ts charge hold := by
  induction ts using List.reverseRecOn with
  | nil =>
      intro charge hm
      rw [Pool.run, Transition.run_nil, h₀] at hm
      exact absurd hm List.not_mem_nil
  | append_singleton ts t ih =>
      have hlast : Pool.run next P (ts ++ [t]) = Pool.step next (Pool.run next P ts) t :=
        Transition.run_append ..
      have hturn := Pool.guarantees_last (fun _ _ ↦ .inl ⟨rfl, rfl⟩) (fun p _ ↦ keeps_true p) hg
        trivial ts t
      rw [hlast]
      intro charge hm
      have hold_of : ∀ charge ∈ (Pool.run next P ts).store.succeededCharges,
          ∃ hold ∈ (Pool.step next (Pool.run next P ts) t).store.capturedHolds,
            CapturedIn P (ts ++ [t]) charge hold := by
        intro charge hm
        obtain ⟨hold, hh, hc⟩ := ih charge hm
        exact ⟨hold, hturn.mem hh, hc.append [t]⟩
      rcases id hturn with ⟨-, hsame⟩ | ⟨args, zarFee, hst, hc, hs'⟩
      · rw [hsame] at hm
        exact hold_of charge hm
      · rw [hs', Store.succeededCharges_captured] at hm
        rcases List.mem_append.mp hm with hm | hm
        · exact hold_of charge hm
        · refine ⟨(args.capture zarFee (Pool.run next P ts).store).hold, ?_, ts, t,
            List.prefix_rfl, args, zarFee, hst, hc, ?_, List.mem_singleton.mp hm, rfl⟩
          · rw [hs', Store.capturedHolds_captured]
            exact List.mem_append_right _ (List.mem_singleton.mpr rfl)
          · rw [hlast]
            exact hs'

end History

/-! ## What the lookups come to -/

/-- The first of the greatest elements, by what stands before and after it. -/
theorem argmax_eq_some_iff_append {α : Type} [DecidableEq α] (f : α → ℕ) {l : List α} {m : α} :
    l.argmax f = some m ↔ ∃ before after, l = before ++ m :: after ∧
      (∀ u ∈ before, f u < f m) ∧ ∀ u ∈ after, f u ≤ f m := by
  rw [List.argmax_eq_some_iff]
  constructor
  · rintro ⟨hm, hle, hfirst⟩
    obtain ⟨before, after, hl, hnew⟩ := List.eq_append_cons_of_mem hm
    refine ⟨before, after, hl, fun u hu ↦ ?_, fun u hu ↦ ?_⟩
    · by_contra hge
      have hidx := hfirst u (by rw [hl]; exact List.mem_append_left _ hu) (Nat.not_lt.mp hge)
      rw [hl, List.idxOf_append_of_notMem hnew, List.idxOf_append_of_mem hu, List.idxOf_cons_self]
        at hidx
      have hlt := List.idxOf_lt_length_of_mem hu
      omega
    · exact hle u (by rw [hl]; exact List.mem_append_right _ (.tail _ hu))
  · rintro ⟨before, after, rfl, hbefore, hafter⟩
    have hnew : m ∉ before := fun hm ↦ Nat.lt_irrefl _ (hbefore m hm)
    refine ⟨List.mem_append_right _ (.head _), fun u hu ↦ ?_, fun u hu hge ↦ ?_⟩
    · rcases List.mem_append.mp hu with hu | hu
      · exact Nat.le_of_lt (hbefore u hu)
      · rcases List.mem_cons.mp hu with rfl | hu
        · exact le_rfl
        · exact hafter u hu
    · have hout : u ∉ before := fun hm ↦ Nat.not_le_of_lt (hbefore u hm) hge
      rw [List.idxOf_append_of_notMem hnew, List.idxOf_append_of_notMem hout, List.idxOf_cons_self]
      omega

/-- What resolution returned, by the stores that its two lookups found. -/
def Resolves (input : IssueRefundInput) (s₁ s₂ : Store) (hold : EscrowHold)
    (charge : Transaction) : Prop :=
  match input.holdId, input.transactionId with
  | some holdId, _ =>
    s₁.escrowHold? holdId = some hold ∧ s₂.latestCharge hold.paymentIntentId = some charge
  | none, some transactionId =>
    s₁.transaction? transactionId = some charge ∧ charge.type = .charge ∧
      s₂.holdOfIntent charge.paymentIntentId = some hold
  | none, none => False

/-- The row that the lookup of the charge leads to has succeeded. -/
def LooksUpSucceeded (input : IssueRefundInput) (s₁ s₂ : Store) : Prop :=
  match input.holdId, input.transactionId with
  | some holdId, _ => ∃ hold, s₁.escrowHold? holdId = some hold ∧
      s₂.SucceededLast hold.paymentIntentId
  | none, some transactionId => ∃ t, s₁.transaction? transactionId = some t ∧ t.state = .succeeded
  | none, none => False

section Resolution

variable {input : IssueRefundInput} {s₁ s₂ : Store} {hold : EscrowHold} {charge : Transaction}

/-- Resolution is two lookups. -/
theorem resolves_of_next {p : Service (EscrowHold × Transaction)}
    (h₁ : next (resolveHoldAndCharge input) .act s₁ = some (s₁, p, none))
    (h₂ : next p .act s₂ = some (s₂, .ret (hold, charge), none)) :
    Resolves input s₁ s₂ hold charge := by
  unfold resolveHoldAndCharge at h₁
  unfold Resolves
  cases hh : input.holdId with
  | some holdId =>
      simp only [hh, resolveByHold] at h₁ ⊢
      obtain rfl := of_next_read_bind h₁
      cases hf : s₁.escrowHold? holdId with
      | none =>
          rw [hf] at h₂
          cases h₂
      | some found =>
          rw [hf] at h₂
          have hret := of_next_read_bind h₂
          cases hc : s₂.latestCharge found.paymentIntentId with
          | none =>
              rw [hc] at hret
              cases hret
          | some t =>
              rw [hc] at hret
              cases hret
              exact ⟨rfl, hc⟩
  | none =>
      cases ht : input.transactionId with
      | none =>
          simp only [hh, ht] at h₁
          cases h₁
      | some transactionId =>
          simp only [hh, ht, resolveByTransaction] at h₁ ⊢
          obtain rfl := of_next_read_bind h₁
          cases hf : (s₁.transaction? transactionId).filter (·.type = .charge) with
          | none =>
              rw [hf] at h₂
              cases h₂
          | some found =>
              obtain ⟨hfound, htype⟩ := Option.filter_eq_some_iff.mp hf
              rw [hf] at h₂
              have hret := of_next_read_bind h₂
              cases hc : s₂.holdOfIntent found.paymentIntentId with
              | none =>
                  rw [hc] at hret
                  cases hret
              | some found' =>
                  rw [hc] at hret
                  cases hret
                  exact ⟨hfound, of_decide_eq_true htype, hc⟩

/-- What is returned has succeeded when the row looked up has. -/
theorem Resolves.succeeded_iff (h : Resolves input s₁ s₂ hold charge) :
    charge.state = .succeeded ↔ LooksUpSucceeded input s₁ s₂ := by
  unfold Resolves at h
  unfold LooksUpSucceeded
  cases hh : input.holdId with
  | some holdId =>
      rw [hh] at h
      obtain ⟨hf, hc⟩ := h
      obtain ⟨before, after, hl, hbefore, hafter⟩ := (argmax_eq_some_iff_append _).mp hc
      dsimp only
      constructor
      · intro hst
        exact ⟨hold, hf, before, charge, after, hl, hst, hbefore, hafter⟩
      · rintro ⟨hold', hf', before', t, after', hl', hst, hbefore', hafter'⟩
        cases hf.symm.trans hf'
        have hlatest : s₂.latestCharge hold.paymentIntentId = some t :=
          (argmax_eq_some_iff_append _).mpr ⟨before', after', hl', hbefore', hafter'⟩
        cases hc.symm.trans hlatest
        exact hst
  | none =>
      cases ht : input.transactionId with
      | none =>
          rw [hh, ht] at h
          exact absurd h id
      | some transactionId =>
          rw [hh, ht] at h
          obtain ⟨hf, -, -⟩ := h
          dsimp only
          constructor
          · intro hst
            exact ⟨charge, hf, hst⟩
          · rintro ⟨t, hf', hst⟩
            cases hf.symm.trans hf'
            exact hst

/-- The charge is one of the hold's intent, and both were there when they were looked up. -/
theorem Resolves.found (h : Resolves input s₁ s₂ hold charge) :
    (hold ∈ s₁.escrowHolds ∨ hold ∈ s₂.escrowHolds) ∧
      (charge ∈ s₁.transactions ∨ charge ∈ s₂.transactions) ∧
      charge.paymentIntentId = hold.paymentIntentId := by
  unfold Resolves at h
  cases hh : input.holdId with
  | some holdId =>
      rw [hh] at h
      obtain ⟨hf, hc⟩ := h
      obtain ⟨hmem, hprops⟩ := List.mem_filter.mp (List.argmax_mem hc)
      exact ⟨.inl (Table.find_some hf).1, .inr hmem, (of_decide_eq_true hprops).1⟩
  | none =>
      cases ht : input.transactionId with
      | none =>
          rw [hh, ht] at h
          exact absurd h id
      | some transactionId =>
          rw [hh, ht] at h
          obtain ⟨hf, -, hof⟩ := h
          unfold Store.holdOfIntent at hof
          have hintent := List.find?_some hof
          refine ⟨.inr (List.mem_of_find?_eq_some hof), .inl (Table.find_some hf).1, ?_⟩
          exact (of_decide_eq_true hintent).symm

end Resolution

/-! ## The charge that is refunded -/

section Reached

variable (config : SystemConfig) (clock nextId : ℕ) (intents : List PaymentIntent)
  (calls : List PaymentCall)

theorem guarantees_capturesOrKeeps :
    ∀ p ∈ (PaymentCall.pool config clock nextId intents calls).threads,
      Guarantees (fun _ ↦ True) Store.CapturesOrKeeps p := by
  intro p hp
  obtain ⟨c, -, rfl⟩ := List.mem_map.mp hp
  exact c.guarantees (rules_capturesOrKeeps config.business)

/-- What a run has captured is still there when it goes on. -/
theorem mem_captured_of_append (ts ts' : List (Turn HttpOutcome Failure)) :
    let reached := fun ts ↦
      (Pool.run next (PaymentCall.pool config clock nextId intents calls) ts).store
    (∀ hold ∈ (reached ts).capturedHolds, hold ∈ (reached (ts ++ ts')).capturedHolds) ∧
      ∀ charge ∈ (reached ts).succeededCharges,
      charge ∈ (reached (ts ++ ts')).succeededCharges := by
  have hg := guarantees_capturesOrKeeps config clock nextId intents calls
  constructor
  · intro hold hm
    exact Pool.stable_run (fun _ _ ↦ .inl ⟨rfl, rfl⟩) (fun p _ ↦ keeps_true p) hg trivial
      (C := fun s ↦ hold ∈ s.capturedHolds) (fun _ _ hm h ↦ h.mem hm) hm ts'
  · intro charge hm
    exact Pool.stable_run (fun _ _ ↦ .inl ⟨rfl, rfl⟩) (fun p _ ↦ keeps_true p) hg trivial
      (C := fun s ↦ charge ∈ s.succeededCharges) (fun _ _ hm h ↦ h.mem_succeeded hm) hm ts'

/-- Whatever notifications arrive for an intent and whatever happens to its hold, before the
first lookup of a refund's resolution and between the two: the charge that comes back is the one
that was captured into the hold exactly when the row looked up has succeeded. -/
theorem resolves_captured_iff (ts ts' : List (Turn HttpOutcome Failure)) {input : IssueRefundInput}
    {p : Service (EscrowHold × Transaction)} {hold : EscrowHold} {charge : Transaction} :
    let pool := PaymentCall.pool config clock nextId intents calls
    let s₁ := (Pool.run next pool ts).store
    let s₂ := (Pool.run next pool (ts ++ ts')).store
    next (resolveHoldAndCharge input) .act s₁ = some (s₁, p, none) →
      next p .act s₂ = some (s₂, .ret (hold, charge), none) →
        (CapturedIn pool (ts ++ ts') charge hold ↔ LooksUpSucceeded input s₁ s₂) := by
  intro pool s₁ s₂ h₁ h₂
  have hres := resolves_of_next h₁ h₂
  rw [← hres.succeeded_iff]
  constructor
  · rintro ⟨ts₁, t, -, hc⟩
    exact hc.succeeded
  · intro hst
    obtain ⟨hholds, hcharges⟩ := mem_captured_of_append config clock nextId intents calls ts ts'
    obtain ⟨hhold, hcharge, hintent⟩ := hres.found
    have hmem : hold.asCaptured ∈ s₂.capturedHolds := by
      rcases hhold with hm | hm
      · exact hholds _ (Store.mem_capturedHolds hm)
      · exact Store.mem_capturedHolds hm
    have hsucc : charge ∈ s₂.succeededCharges := by
      rcases hcharge with hm | hm
      · exact hcharges _ (List.mem_filter.mpr ⟨hm, decide_eq_true hst⟩)
      · exact List.mem_filter.mpr ⟨hm, decide_eq_true hst⟩
    obtain ⟨hold', hmem', hcap⟩ := exists_capturedIn
      (guarantees_capturesOrKeeps config clock nextId intents calls) rfl (ts ++ ts') charge hsucc
    obtain ⟨cs, hcs⟩ := PaymentCall.capturedAs_run config clock nextId intents calls (ts ++ ts')
    have hone := hcs.capturedOnce hold.paymentIntentId
    have hsame : hold.asCaptured = hold' := by
      refine hone.eq_of_mem hmem hmem' rfl ?_
      obtain ⟨ts₁, t, -, hc⟩ := hcap
      rw [← hintent, hc.intent]
    obtain ⟨ts₁, t, hpre, hc⟩ := hcap
    exact ⟨ts₁, t, hpre, hc.congr (by rw [← hsame]; rfl)⟩

end Reached

namespace Sample

/-- A payment that is completed and, a moment later, reported as failed. -/
def reportedTwice : List PaymentCall :=
  [.intent (notification .complete).call, .tick 1, .intent (notification .failed).call]

/-- The hold of the payment. -/
def heldPayment : EscrowHold := payment.hold 100 11 0

/-- The charge of the second report. -/
def failedCharge : Transaction :=
  (commitArgs intent 1000 (.uuid 1) "pf-1" .failed none none).charge .failed 15 1

end Sample

theorem resolves_captured_iff_sample :
    let pool := PaymentCall.pool Sample.config 0 10 [Sample.intent] Sample.reportedTwice
    let ts : List (Turn HttpOutcome Failure) := [⟨0, .act⟩, ⟨0, .act⟩]
    CapturedIn pool (ts ++ []) (Sample.payment.charge .succeeded 10 0) Sample.heldPayment ↔
      LooksUpSucceeded Sample.input (Pool.run next pool ts).store
        (Pool.run next pool (ts ++ [])).store :=
  resolves_captured_iff Sample.config 0 10 [Sample.intent] Sample.reportedTwice _ [] rfl rfl

/-- The charge that comes back is the failed one, which is the most recent. -/
theorem resolves_failed_charge :
    ¬∀ (config : SystemConfig) (clock nextId : ℕ) (intents : List PaymentIntent)
      (calls : List PaymentCall) (ts ts' : List (Turn HttpOutcome Failure))
      (input : IssueRefundInput) (p : Service (EscrowHold × Transaction)) (hold : EscrowHold)
      (charge : Transaction),
      let pool := PaymentCall.pool config clock nextId intents calls
      let s₁ := (Pool.run next pool ts).store
      let s₂ := (Pool.run next pool (ts ++ ts')).store
      next (resolveHoldAndCharge input) .act s₁ = some (s₁, p, none) →
        next p .act s₂ = some (s₂, .ret (hold, charge), none) →
          CapturedIn pool (ts ++ ts') charge hold := by
  intro h
  obtain ⟨ts₁, t, -, hc⟩ := h Sample.config 0 10 [Sample.intent] Sample.reportedTwice
    [⟨0, .act⟩, ⟨0, .act⟩, ⟨1, .act⟩, ⟨2, .act⟩, ⟨2, .act⟩] [] Sample.input _ Sample.heldPayment
    Sample.failedCharge rfl rfl
  exact absurd hc.succeeded (by decide)

end GearshPayments
