import GearshPayments.System

/-!
# Invariant B beside other work

`checkInvariantB` reads the balance of `ESCROW_LIABILITY` and then the holds, each as it is at
its moment, and compares the two.  In a store whose ledger and holds agree, the comparison finds
a drift exactly when what was booked on the account between the two reads does not come to
nothing (`no_alarm_iff`).
-/

namespace GearshPayments

open Resumption DoubleEntry ReconciliationService

/-- A call beside the check. -/
def EscrowCall.program (config : BusinessConfig) : EscrowCall → Service (List ReconciliationFinding)
  | .capture args zarFee => do
    Resumption.transaction (PayFastWebhookService.commitComplete args zarFee)
    return []
  | .escrow op => do
    discard <| Resumption.transaction (op.exec config)
    return []
  | .tick clock => .atomic (fun s ↦ { s with clock }) fun _ ↦ .ret []

/-- The check, beside any number of calls. -/
def checkPool (config : BusinessConfig) (alertThresholdCents : ℤ) (s : Store)
    (calls : List EscrowCall) :
    Pool Store PayFastRefundInput HttpOutcome (Service (List ReconciliationFinding)) :=
  ⟨s, checkInvariantB alertThresholdCents :: calls.map (·.program config), []⟩

namespace Store

/-- The balance of `ESCROW_LIABILITY` is what the open holds still owe. -/
def LiabilityBalanced (s : Store) : Prop :=
  net .escrowLiability s.postings = ((openHolds s).map EscrowHold.remaining).sum

instance (s : Store) : Decidable s.LiabilityBalanced := by
  unfold LiabilityBalanced
  infer_instance

/-- The postings of the first store are there, and others may have come after them. -/
def Books (s s' : Store) : Prop := s.postings <+: s'.postings

theorem Books.refl (s : Store) : s.Books s := List.prefix_refl _

theorem Books.of_entries {s s' : Store} {es : List LedgerEntry}
    (h : s'.ledgerEntries = s.ledgerEntries ++ es) : s.Books s' := by
  refine ⟨es.map LedgerEntry.toPosting, ?_⟩
  rw [postings, postings, h, List.map_append]

/-- What has been booked on `ESCROW_LIABILITY` from the first store to the second. -/
def bookedSince (s s' : Store) : ℤ :=
  net .escrowLiability (s'.postings.drop s.postings.length)

theorem Books.net_eq {s s' : Store} (h : s.Books s') :
    net .escrowLiability s'.postings = net .escrowLiability s.postings + s.bookedSince s' := by
  obtain ⟨ps, hps⟩ := h
  rw [bookedSince, ← hps, List.drop_left, net_append]

end Store

/-- No call rewrites the ledger. -/
theorem EscrowCall.guarantees_books (config : BusinessConfig) (c : EscrowCall) :
    Guarantees (fun _ ↦ True) Store.Books (c.program config) := by
  cases c with
  | capture args zarFee =>
      refine (guarantees_transaction (fun s _ ↦ .refl s) ?_).bind fun _ ↦ trivial
      intro s _ s' _ h
      rcases PayFastWebhookService.of_commitComplete_ok h with ⟨-, rfl⟩ | ⟨-, rfl⟩
      · exact .refl _
      · exact .of_entries rfl
  | escrow op =>
      refine (guarantees_transaction (fun s _ ↦ .refl s) ?_).discard.bind fun _ ↦ trivial
      intro s _ s' _ h
      obtain ⟨hold, target, w, entries, -, -, rfl⟩ := EscrowOp.commits_of_exec_eq h
      exact .of_entries rfl
  | tick clock => exact ⟨fun s _ ↦ ⟨.of_entries (List.append_nil _).symm, trivial⟩, fun _ ↦ trivial⟩

theorem guarantees_checkInvariantB (alertThresholdCents : ℤ) :
    Guarantees (fun _ ↦ True) Store.Books (checkInvariantB alertThresholdCents) :=
  (guarantees_read (fun s _ ↦ .refl s) _).bind fun _ ↦
    (guarantees_read (fun s _ ↦ .refl s) _).bind fun _ ↦ trivial

/-- A schedule in which the check reads the balance after some turns of the calls, and the holds
after some more. -/
def checkTurns (before between after : List (Turn HttpOutcome Failure)) :
    List (Turn HttpOutcome Failure) :=
  (before ++ ⟨0, .act⟩ :: between) ++ ⟨0, .act⟩ :: after

/-- None of the turns is the check's. -/
def BesideCheck (ts : List (Turn HttpOutcome Failure)) : Prop := ∀ t ∈ ts, t.thread ≠ 0

section Check

variable (config : BusinessConfig) (alertThresholdCents : ℤ) (s : Store) (calls : List EscrowCall)
  {before between after : List (Turn HttpOutcome Failure)}

/-- The store that the check finds when the turns given have passed. -/
def checkStore (ts : List (Turn HttpOutcome Failure)) : Store :=
  (Pool.run next (checkPool config alertThresholdCents s calls) ts).store

/-- What the check returns, from the stores of its two reads. -/
theorem returns_compareB (hbefore : BesideCheck before) (hbetween : BesideCheck between)
    (hafter : BesideCheck after) :
    (Pool.run next (checkPool config alertThresholdCents s calls)
        (checkTurns before between after)).threads[0]? =
      some (.ret (compareB alertThresholdCents
        (computeAccountBalanceCents .escrowLiability
          (checkStore config alertThresholdCents s calls before))
        (openHolds (checkStore config alertThresholdCents s calls
          (before ++ ⟨0, .act⟩ :: between))))) := by
  let P := checkPool config alertThresholdCents s calls
  let P₁ := Pool.run next P before
  have hfirst : P₁.threads[0]? = some (checkInvariantB alertThresholdCents) :=
    Pool.getElem?_run_of_ne next hbefore
  have hlt := (List.getElem?_eq_some_iff.mp hfirst).1
  let P₂ := Pool.run next P (before ++ ⟨0, .act⟩ :: between)
  have hrun : P₂ = Pool.run next (Pool.step next P₁ ⟨0, .act⟩) between := Transition.run_append ..
  have hsecond : P₂.threads[0]? = some (Resumption.read openHolds >>= fun holds ↦
      return compareB alertThresholdCents (computeAccountBalanceCents .escrowLiability P₁.store)
        holds) := by
    rw [hrun, Pool.getElem?_run_of_ne next hbetween, Pool.step_read hfirst]
    exact List.getElem?_set_self hlt
  have hlt' := (List.getElem?_eq_some_iff.mp hsecond).1
  have hrest : Pool.run next P (checkTurns before between after) =
      Pool.run next (Pool.step next P₂ ⟨0, .act⟩) after := Transition.run_append ..
  rw [hrest, Pool.getElem?_run_of_ne next hafter, Pool.step_read hsecond]
  exact List.getElem?_set_self hlt'

/-- What is booked before the first read is still there at the second. -/
theorem books_checkStore : Store.Books (checkStore config alertThresholdCents s calls before)
    (checkStore config alertThresholdCents s calls (before ++ ⟨0, .act⟩ :: between)) := by
  have hstart : ∀ p ∈ (checkPool config alertThresholdCents s calls).threads,
      Guarantees (fun _ ↦ True) Store.Books p := by
    refine List.forall_mem_cons.mpr ⟨guarantees_checkInvariantB alertThresholdCents, fun p hp ↦ ?_⟩
    obtain ⟨c, -, rfl⟩ := List.mem_map.mp hp
    exact c.guarantees_books config
  have hmid := (Pool.guarantees_run Store.Books.refl List.IsPrefix.trans hstart before).2
  rw [checkStore, checkStore, Pool.run, Pool.run, Transition.run_append]
  exact (Pool.guarantees_run Store.Books.refl List.IsPrefix.trans hmid _).1

/-- In a run through stores in which `ESCROW_LIABILITY` is what the open holds owe, invariant B
finds nothing exactly when what is booked on the account between its two reads comes to nothing. -/
theorem no_alarm_iff (hbefore : BesideCheck before) (hbetween : BesideCheck between)
    (hafter : BesideCheck after)
    (hbalanced : Transition.Along (Pool.step next) (fun P _ ↦ P.store.LiabilityBalanced)
      (checkPool config alertThresholdCents s calls) (checkTurns before between after)) :
    (Pool.run next (checkPool config alertThresholdCents s calls)
        (checkTurns before between after)).threads[0]? = some (.ret []) ↔
      (checkStore config alertThresholdCents s calls before).bookedSince
        (checkStore config alertThresholdCents s calls (before ++ ⟨0, .act⟩ :: between)) = 0 := by
  let first := checkStore config alertThresholdCents s calls before
  let second := checkStore config alertThresholdCents s calls (before ++ ⟨0, .act⟩ :: between)
  have hsecond : net .escrowLiability second.postings =
      ((openHolds second).map EscrowHold.remaining).sum :=
    (Transition.Along.append.mp hbalanced).2.1
  have hnet : net .escrowLiability second.postings =
      net .escrowLiability first.postings + first.bookedSince second :=
    (books_checkStore config alertThresholdCents s calls).net_eq
  rw [returns_compareB config alertThresholdCents s calls hbefore hbetween hafter,
    Option.some.injEq, Resumption.ret.injEq, compareB_eq_nil_iff, escrowLiability_balance,
    ← hsecond, hnet]
  exact left_eq_add

end Check

theorem besideCheck_nil : BesideCheck [] := fun _ ht ↦ absurd ht List.not_mem_nil

theorem besideCheck_singleton (i : ℕ) (m : Move HttpOutcome Failure) :
    BesideCheck [⟨i + 1, m⟩] := fun _ ht ↦ by
  rw [List.mem_singleton.mp ht]
  exact Nat.succ_ne_zero i

namespace Sample

/-- A release of the hold of `paid`. -/
def releasingHold : List EscrowCall := [.escrow (.release 11 {})]

/-- A freeze of that hold. -/
def freezing : List EscrowCall := [.escrow (.freeze 11 { reason := "bookings.disputed" })]

end Sample

/-- A release commits between the two reads. -/
theorem alarm_while_releasing :
    ¬∀ (config : BusinessConfig) (alertThresholdCents : ℤ) (s : Store) (calls : List EscrowCall)
      (before between after : List (Turn HttpOutcome Failure)),
      BesideCheck before → BesideCheck between → BesideCheck after →
      Transition.Along (Pool.step next) (fun P _ ↦ P.store.LiabilityBalanced)
        (checkPool config alertThresholdCents s calls) (checkTurns before between after) →
      (Pool.run next (checkPool config alertThresholdCents s calls)
        (checkTurns before between after)).threads[0]? = some (.ret []) := by
  intro h
  have hbalanced : Transition.Along (Pool.step next) (fun P _ ↦ P.store.LiabilityBalanced)
      (checkPool Sample.config.business 0 Sample.paid Sample.releasingHold)
      (checkTurns [] [⟨1, .act⟩] []) := ⟨by decide, by decide, by decide, trivial⟩
  have hrun := h _ _ _ _ _ _ _ besideCheck_nil (besideCheck_singleton 0 _) besideCheck_nil hbalanced
  rw [returns_compareB _ _ _ _ besideCheck_nil (besideCheck_singleton 0 _) besideCheck_nil,
    Option.some.injEq, Resumption.ret.injEq, compareB_eq_nil_iff] at hrun
  exact absurd hrun (by decide)

/-- A freeze, which books nothing, commits between the two reads. -/
theorem no_alarm_iff_sample :
    (Pool.run next (checkPool Sample.config.business 0 Sample.paid Sample.freezing)
      (checkTurns [] [⟨1, .act⟩] [])).threads[0]? = some (.ret []) := by
  refine (no_alarm_iff Sample.config.business 0 Sample.paid Sample.freezing besideCheck_nil
    (besideCheck_singleton 0 _) besideCheck_nil ⟨?_, ?_, ?_, trivial⟩).mpr ?_
  · decide
  · decide
  · decide
  · decide

end GearshPayments
