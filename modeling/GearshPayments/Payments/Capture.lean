import GearshPayments.Payments.Webhook

/-!
# What the two commits of the webhook do

`commitComplete` either captures the payment (`CommitArgs.captured`), or leaves
the store alone because it has seen the same ITN before, or throws;
`commitFailed` either records the failure (`CommitArgs.recorded`) or has seen the
ITN before.
-/

namespace GearshPayments

open EscrowService DoubleEntry

namespace CommitArgs

/-- Some row has the charge's intent, gateway transaction and status already. -/
def Seen (args : CommitArgs) (s : Store) : Prop := ∃ t ∈ s.transactions, args.isDuplicate t = true

/-- The store after a capture. -/
def captured (args : CommitArgs) (zarFee : ℤ) (s : Store) : Store :=
  let txn := args.charge .succeeded s.nextId s.clock
  let hold := args.hold zarFee (s.nextId + 1) s.clock
  let event := escrowEvent hold .held hold.amountCents none (some "PayFast ITN") none (s.nextId + 2)
    s.clock
  { s with
    nextId := s.nextId + 5
    paymentIntents := Table.update PaymentIntent.id args.intentId (args.settle .succeeded)
      s.paymentIntents
    transactions := s.transactions ++ [txn]
    escrowHolds := s.escrowHolds ++ [hold]
    escrowEvents := s.escrowEvents ++ [event]
    ledgerEntries := s.ledgerEntries ++ (args.entries zarFee).map (ledgerEntry hold event s.clock)
    outboxEvents := s.outboxEvents ++
      [OutboxService.row (args.succeededNotice zarFee txn s.clock) (s.nextId + 3) s.clock,
        OutboxService.row (args.heldNotice hold) (s.nextId + 4) s.clock] }

/-- The store after a payment that was not completed. -/
def recorded (args : CommitArgs) (s : Store) : Store :=
  let txn := args.charge .failed s.nextId s.clock
  { s with
    nextId := s.nextId + 2
    paymentIntents := Table.update PaymentIntent.id args.intentId (args.settle .failed)
      s.paymentIntents
    transactions := s.transactions ++ [txn]
    outboxEvents := s.outboxEvents ++
      [OutboxService.row (args.failedNotice txn s.clock) (s.nextId + 1) s.clock] }

/-- The conditions of a capture. -/
structure Captures (args : CommitArgs) (zarFee : ℤ) (s : Store) : Prop where
  sound : Sound (args.entries zarFee)
  unseen : ¬args.Seen s
  intent : (s.paymentIntent? args.intentId).isSome = true
  free : ∀ h ∈ s.escrowHolds, h.bookingId ≠ args.bookingId

/-- The postings of a capture are sound when the fee is within the amount. -/
theorem sound_entries_iff {args : CommitArgs} {zarFee : ℤ} :
    Sound (args.entries zarFee) ↔ 0 ≤ zarFee ∧ zarFee ≤ args.zarAmount := by
  constructor
  · intro h
    have hfee := h.nonneg ⟨.platformRevenue, .credit, zarFee⟩ (by simp [entries])
    have hrest := h.nonneg ⟨.escrowLiability, .credit, args.zarAmount - zarFee⟩
      (by simp [entries])
    exact ⟨hfee, sub_nonneg.mp hrest⟩
  · rintro ⟨hfee, hle⟩
    constructor
    · simp only [entries, List.forall_mem_cons]
      exact ⟨hfee.trans hle, sub_nonneg.mpr hle, hfee, fun _ h ↦ absurd h List.not_mem_nil⟩
    · simp [entries]

theorem Seen.find {args : CommitArgs} {s : Store} (h : args.Seen s) :
    ∃ t, s.transactions.find? args.isDuplicate = some t := by
  obtain ⟨t, ht, hd⟩ := h
  exact Option.isSome_iff_exists.mp (List.find?_isSome.mpr ⟨t, ht, hd⟩)

theorem find_eq_none {args : CommitArgs} {s : Store} (h : ¬args.Seen s) :
    s.transactions.find? args.isDuplicate = none :=
  List.find?_eq_none.mpr fun t ht hd ↦ h ⟨t, ht, hd⟩

/-- A charge that has not been seen is created. -/
theorem createTransaction_charge {args : CommitArgs} {s : Store} (state : TransactionState)
    (h : ¬args.Seen s) (hi : (s.paymentIntent? args.intentId).isSome = true) :
    Tx.createTransaction (args.charge state) s = .ok (args.charge state s.nextId s.clock,
      { s with
        nextId := s.nextId + 1
        transactions := s.transactions ++ [args.charge state s.nextId s.clock] }) :=
  Tx.createTransaction_apply hi fun t ht hd ↦ h ⟨t, ht, decide_eq_true hd⟩

end CommitArgs

namespace PayFastWebhookService

open CommitArgs

theorem writeCapture_apply {args : CommitArgs} {zarFee : ℤ} {s : Store}
    (hu : ¬args.Seen s) (hi : (s.paymentIntent? args.intentId).isSome = true)
    (hf : ∀ h ∈ s.escrowHolds, h.bookingId ≠ args.bookingId) :
    writeCapture args zarFee s = .ok ((), args.captured zarFee s) := by
  obtain ⟨i, hi'⟩ := Option.isSome_iff_exists.mp hi
  let txn := args.charge .succeeded s.nextId s.clock
  let s₁ : Store := { s with nextId := s.nextId + 1, transactions := s.transactions ++ [txn] }
  let s₂ : Store :=
    { s₁ with
      paymentIntents := Table.update PaymentIntent.id args.intentId (args.settle .succeeded)
        s.paymentIntents }
  have h₁ : Tx.createTransaction (args.charge .succeeded) s = .ok (txn, s₁) :=
    createTransaction_charge .succeeded hu hi
  have h₂ : Tx.updatePaymentIntent args.intentId (args.settle .succeeded) s₁ =
      .ok (args.settle .succeeded i, s₂) := Tx.updatePaymentIntent_apply hi'
  have h₃ : Tx.createEscrowHold (args.hold zarFee) s₂ = _ := Tx.createEscrowHold_apply hf
  simp only [writeCapture, Tx.bind_apply, h₁, Tx.discard_apply, h₂, h₃, Except.map, Tx.now_apply,
    Tx.createEscrowEvent_apply, escrowEvent, Option.all_none, if_true,
    Tx.createLedgerEntries_apply, OutboxService.enqueue_apply]
  simp [captured, s₁, s₂, txn, escrowEvent]

theorem writeFailure_apply {args : CommitArgs} {s : Store} (hu : ¬args.Seen s)
    (hi : (s.paymentIntent? args.intentId).isSome = true) :
    writeFailure args s = .ok ((), args.recorded s) := by
  obtain ⟨i, hi'⟩ := Option.isSome_iff_exists.mp hi
  let txn := args.charge .failed s.nextId s.clock
  let s₁ : Store := { s with nextId := s.nextId + 1, transactions := s.transactions ++ [txn] }
  have h₁ : Tx.createTransaction (args.charge .failed) s = .ok (txn, s₁) :=
    createTransaction_charge .failed hu hi
  have h₂ : Tx.updatePaymentIntent args.intentId (args.settle .failed) s₁ = _ :=
    Tx.updatePaymentIntent_apply hi'
  simp only [writeFailure, Tx.bind_apply, h₁, Tx.discard_apply, h₂, Except.map, Tx.now_apply,
    OutboxService.enqueue_apply]
  simp [recorded, s₁, txn]

/-- An ITN whose charge row exists already is acknowledged and changes nothing. -/
theorem commitFailed_of_seen {args : CommitArgs} {s : Store} (h : args.Seen s) :
    commitFailed args s = .ok ((), s) := by
  obtain ⟨t, ht⟩ := h.find
  rw [commitFailed, Tx.bind_apply, Tx.findTransaction_apply, ht]
  rfl

theorem commitFailed_of_not_seen {args : CommitArgs} {s : Store} (h : ¬args.Seen s)
    (hi : (s.paymentIntent? args.intentId).isSome = true) :
    commitFailed args s = .ok ((), args.recorded s) := by
  rw [commitFailed, Tx.bind_apply, Tx.findTransaction_apply, CommitArgs.find_eq_none h]
  exact writeFailure_apply h hi

/-- A failure that returns has either been seen before or is recorded, for an intent
that exists. -/
theorem of_commitFailed_ok {args : CommitArgs} {s s' : Store}
    (h : commitFailed args s = .ok ((), s')) :
    (args.Seen s ∧ s' = s) ∨
      (¬args.Seen s ∧ (s.paymentIntent? args.intentId).isSome = true ∧ s' = args.recorded s) := by
  by_cases hu : args.Seen s
  · rw [commitFailed_of_seen hu] at h
    cases h
    exact .inl ⟨hu, rfl⟩
  · have hi : (s.paymentIntent? args.intentId).isSome = true := by
      rw [commitFailed, Tx.bind_apply, Tx.findTransaction_apply, CommitArgs.find_eq_none hu] at h
      obtain ⟨txn, s₁, h₁, -⟩ := Tx.of_bind_ok h
      cases hn : s.paymentIntent? args.intentId with
      | some i => rfl
      | none => simp [Tx.createTransaction, charge, hn] at h₁
    rw [commitFailed_of_not_seen hu hi] at h
    cases h
    exact .inr ⟨hu, hi, rfl⟩

/-- The checks before the transaction pass exactly for sound entries. -/
theorem commitComplete_checked {args : CommitArgs} {zarFee : ℤ} {s : Store}
    (hs : Sound (args.entries zarFee)) :
    commitComplete args zarFee s = match s.transactions.find? args.isDuplicate with
      | some _ => .ok ((), s)
      | none => writeCapture args zarFee s := by
  have hneg : ¬args.zarAmount - zarFee < 0 :=
    not_lt.mpr (sub_nonneg.mpr (sound_entries_iff.mp hs).2)
  have hb := LedgerService.assertBalanced_eq_ok_iff.mpr hs
  simp only [commitComplete, if_neg hneg, Tx.bind_apply, Tx.liftM_apply, hb, Except.map,
    Tx.findTransaction_apply]
  cases s.transactions.find? args.isDuplicate <;> rfl

theorem commitComplete_of_seen {args : CommitArgs} {zarFee : ℤ} {s : Store}
    (hs : Sound (args.entries zarFee)) (h : args.Seen s) :
    commitComplete args zarFee s = .ok ((), s) := by
  obtain ⟨t, ht⟩ := h.find
  rw [commitComplete_checked hs, ht]

theorem commitComplete_of_captures {args : CommitArgs} {zarFee : ℤ} {s : Store}
    (h : args.Captures zarFee s) :
    commitComplete args zarFee s = .ok ((), args.captured zarFee s) := by
  rw [commitComplete_checked h.sound, CommitArgs.find_eq_none h.unseen]
  exact writeCapture_apply h.unseen h.intent h.free

theorem sound_of_commitComplete_ok {args : CommitArgs} {zarFee : ℤ} {s s' : Store}
    (h : commitComplete args zarFee s = .ok ((), s')) : Sound (args.entries zarFee) := by
  by_cases hneg : args.zarAmount - zarFee < 0
  · simp only [commitComplete, if_pos hneg, Tx.bind_apply, Tx.throw_apply] at h
    cases h
  · simp only [commitComplete, if_neg hneg] at h
    obtain ⟨u, s₁, hb, -⟩ := Tx.of_bind_ok h
    rw [Tx.liftM_apply] at hb
    cases ha : LedgerService.assertBalanced (args.entries zarFee) with
    | error e => rw [ha] at hb; cases hb
    | ok u => exact LedgerService.assertBalanced_eq_ok_iff.mp ha

/-- The writes of a capture go through only for an intent that exists and a booking
without a hold. -/
theorem of_writeCapture_ok {args : CommitArgs} {zarFee : ℤ} {s s' : Store}
    (hu : ¬args.Seen s) (h : writeCapture args zarFee s = .ok ((), s')) :
    (s.paymentIntent? args.intentId).isSome = true ∧
      ∀ h ∈ s.escrowHolds, h.bookingId ≠ args.bookingId := by
  obtain ⟨txn, s₁, h₁, h⟩ := Tx.of_bind_ok h
  have hi : (s.paymentIntent? args.intentId).isSome = true := by
    cases hn : s.paymentIntent? args.intentId with
    | some i => rfl
    | none => simp [Tx.createTransaction, charge, hn] at h₁
  refine ⟨hi, ?_⟩
  rw [createTransaction_charge .succeeded hu hi] at h₁
  cases h₁
  obtain ⟨u, s₂, h₂, h⟩ := Tx.of_bind_ok h
  obtain ⟨i, hi'⟩ := Option.isSome_iff_exists.mp hi
  have hup : Tx.updatePaymentIntent args.intentId (args.settle .succeeded)
      { s with
        nextId := s.nextId + 1
        transactions := s.transactions ++ [args.charge .succeeded s.nextId s.clock] } = _ :=
    Tx.updatePaymentIntent_apply hi'
  rw [Tx.discard_apply, hup] at h₂
  cases h₂
  obtain ⟨now, s₃, h₃, h⟩ := Tx.of_bind_ok h
  cases h₃
  obtain ⟨hold, s₄, h₄, -⟩ := Tx.of_bind_ok h
  intro x hx hb
  cases h₄.symm.trans (Tx.createEscrowHold_error hx hb)

/-- A capture that returns has either seen the ITN before or captured it. -/
theorem of_commitComplete_ok {args : CommitArgs} {zarFee : ℤ} {s s' : Store}
    (h : commitComplete args zarFee s = .ok ((), s')) :
    (args.Seen s ∧ s' = s) ∨ (args.Captures zarFee s ∧ s' = args.captured zarFee s) := by
  have hs := sound_of_commitComplete_ok h
  by_cases hu : args.Seen s
  · rw [commitComplete_of_seen hs hu] at h
    cases h
    exact .inl ⟨hu, rfl⟩
  · rw [commitComplete_checked hs, CommitArgs.find_eq_none hu] at h
    obtain ⟨hi, hf⟩ := of_writeCapture_ok hu h
    rw [writeCapture_apply hu hi hf] at h
    cases h
    exact .inr ⟨⟨hs, hu, hi, hf⟩, rfl⟩

end PayFastWebhookService

end GearshPayments
