import GearshPayments.Fx.Conversion
import GearshPayments.Payments.OneRate

/-!
# Captures at one rate

A lock that nobody disturbs converts the total and the fee of an intent at one rate.  Bankers'
rounding is monotone, and additive up to one cent: the fee is a part of the amount, so that the
capture is never refused as an imbalance, and the hold is what the subtotal comes to, give or
take a cent (`capture_splits_cleanly`).
-/

namespace GearshPayments

open Resumption PaymentIntentsService PayFastWebhookService DoubleEntry

/-! ## The check of the ledger -/

namespace Tx

/-- A sequence that threw threw in its first step or in its second. -/
theorem of_bind_error {α β : Type} {x : Tx α} {f : α → Tx β} {s : Store} {e : Failure}
    (h : (x >>= f) s = .error e) :
    x s = .error e ∨ ∃ a s', x s = .ok (a, s') ∧ f a s' = .error e := by
  rw [bind_apply] at h
  cases hx : x s with
  | error e' =>
      rw [hx] at h
      cases h
      exact .inl rfl
  | ok r =>
      rw [hx] at h
      exact .inr ⟨r.1, r.2, rfl, h⟩

end Tx

/-- The writes of a capture are refused by the database only. -/
theorem code_of_writeCapture {args : CommitArgs} {zarFee : ℤ} {s : Store} {e : Failure}
    (h : writeCapture args zarFee s = .error e) : e.code? = none := by
  obtain h | ⟨txn, s₁, -, h⟩ := Tx.of_bind_error h
  · unfold Tx.createTransaction at h
    dsimp only at h
    split at h
    · cases h
      rfl
    · split at h
      · cases h
        rfl
      · cases h
  obtain h | ⟨_, s₂, -, h⟩ := Tx.of_bind_error h
  · rw [Tx.discard_apply, Tx.updatePaymentIntent] at h
    split at h
    · cases h
      rfl
    · cases h
  obtain h | ⟨heldAt, s₃, -, h⟩ := Tx.of_bind_error h
  · cases h
  obtain h | ⟨hold, s₄, -, h⟩ := Tx.of_bind_error h
  · unfold Tx.createEscrowHold at h
    dsimp only at h
    split at h
    · cases h
      rfl
    · cases h
  obtain h | ⟨event, s₅, -, h⟩ := Tx.of_bind_error h
  · rw [Tx.createEscrowEvent_apply] at h
    split at h
    · cases h
    · cases h
      rfl
  obtain h | ⟨_, s₆, -, h⟩ := Tx.of_bind_error h
  · cases h
  obtain h | ⟨_, s₇, -, h⟩ := Tx.of_bind_error h
  · cases h
  · cases h

/-- A fee that is a part of the amount is not refused as an imbalance. -/
theorem code_of_commitComplete {args : CommitArgs} {zarFee : ℤ} (hnonneg : 0 ≤ zarFee)
    (hle : zarFee ≤ args.zarAmount) {s : Store} {e : Failure}
    (h : commitComplete args zarFee s = .error e) : e.code? ≠ some .ledgerImbalance := by
  rw [commitComplete_checked (CommitArgs.sound_entries_iff.mpr ⟨hnonneg, hle⟩)] at h
  split at h
  · cases h
  · rw [code_of_writeCapture h]
    exact fun h ↦ by cases h

/-! ## Locking alone -/

theorem exists_effectiveRate {s : Store} {c : Currency} (hne : c ≠ .zar) {rate : ℚ}
    (hrate : s.rateInForce c = some rate) :
    ∃ rateAsOf, s.effectiveRate c .zar = some (rate, rateAsOf) := by
  rw [Store.rateInForce, if_neg hne] at hrate
  unfold Store.effectiveRate
  cases hpin : s.fxRateOverride? c .zar with
  | some o =>
      rw [hpin] at hrate
      cases hrate
      exact ⟨o.updatedAt, rfl⟩
  | none =>
      rw [hpin] at hrate
      obtain ⟨r, hr, rfl⟩ := Option.map_eq_some_iff.mp hrate
      exact ⟨r.asOf, Option.map_eq_some_iff.mpr ⟨r, hr, rfl⟩⟩

/-- A conversion to rand in a store in which nothing changes. -/
theorem run_convertCurrency {s : Store} {c : Currency} {rate : ℚ}
    (hrate : s.rateInForce c = some rate) {amountCents : ℤ}
    (hexact : Decimal.Exact amountCents rate) (answers : ℕ → HttpOutcome) :
    ∃ r, (FxService.convertCurrency amountCents c .zar).run (.healthy answers) s =
        ⟨.ok r, s, .healthy answers, []⟩ ∧ r.rate = rate ∧
      r.amountCents = halfEven (amountCents * rate) := by
  by_cases hzar : c = .zar
  · have hone : rate = 1 := by
      rw [Store.rateInForce, if_pos hzar] at hrate
      exact (Option.some.inj hrate).symm
    refine ⟨{ amountCents, fromCurrency := c, toCurrency := .zar, rate := 1, rateAsOf := s.clock },
      ?_, hone.symm, ?_⟩
    · rw [FxService.convertCurrency, if_pos hzar]
      rfl
    · rw [hone, mul_one, halfEven_intCast]
  · obtain ⟨rateAsOf, heffective⟩ := exists_effectiveRate hzar hrate
    exact ⟨_, FxService.run_convertCurrency hzar heffective amountCents answers, rfl,
      roundHalfToEven_mul hexact⟩

/-- A lock in a store in which nothing changes. -/
theorem run_lock (config : LockConfig) {s : Store} {id user : ℕ} {roles : List String}
    {intent : PaymentIntent} (hfound : s.paymentIntent? id = some intent)
    (howner : intent.userId = user ∨ "ADMIN" ∈ roles)
    (hstate : intent.state = .created ∨ intent.state = .locked) {rate : ℚ}
    (hrate : s.rateInForce intent.currency = some rate)
    (htotal : Decimal.Exact intent.totalCents rate)
    (hfee : Decimal.Exact intent.serviceFeeCents rate) (answers : ℕ → HttpOutcome) :
    ∃ locked lockedFee mPaymentId now,
      ((lock config id user roles).run (.healthy answers) s).store.paymentIntent? id =
        some (lockedRow config locked lockedFee mPaymentId now intent) ∧ locked.rate = rate ∧
      locked.amountCents = halfEven (intent.totalCents * rate) ∧
      lockedFee.amountCents = halfEven (intent.serviceFeeCents * rate) := by
  obtain ⟨locked, hlocked, hlockedRate, hlockedAmount⟩ :=
    run_convertCurrency hrate htotal answers
  obtain ⟨lockedFee, hlockedFee, -, hlockedFeeAmount⟩ := run_convertCurrency hrate hfee answers
  refine ⟨locked, lockedFee, intent.mPaymentId.getD (toString intent.id), s.clock, ?_,
    hlockedRate, hlockedAmount, hlockedFeeAmount⟩
  have hid : intent.id = id := (Table.find_some hfound).2
  have hallowed : ¬(intent.userId ≠ user ∧ "ADMIN" ∉ roles) := by
    rintro ⟨huser, hadmin⟩
    exact howner.elim huser hadmin
  have hlockable : ¬(intent.state ≠ .created ∧ intent.state ≠ .locked) := by
    rintro ⟨hcreated, hnot⟩
    exact hstate.elim hcreated hnot
  have hpassed : (lock config id user roles).run (.healthy answers) s =
      (lockIntent config intent).run (.healthy answers) s := by
    simp only [lock, run_bind, run_read_healthy, Run.andThen, hfound, if_neg hallowed,
      if_neg hlockable]
    rfl
  rw [hpassed, lockIntent, run_bind_ok_nil hlocked, run_bind_ok_nil hlockedFee,
    run_bind_ok_nil (run_read_healthy _ _ _)]
  rw [run_bind_ok_nil (run_transaction rfl (Tx.updatePaymentIntent_apply (by rwa [hid])))]
  show Table.find PaymentIntent.id id (Table.update PaymentIntent.id intent.id _ _) = _
  rw [hid]
  exact Table.find_update_self (f := lockedRow config locked lockedFee _ _) (fun _ ↦ rfl) hfound

/-! ## The split -/

/-- The locked amounts of an intent split cleanly: the fee is a part of the amount, no commit of
them is refused as an imbalance, the hold is within a cent of the subtotal at the rate, and the
fee is what would be derived from the rate. -/
structure SplitsCleanly (i : PaymentIntent) (rate : ℚ) (zarAmount fee : ℤ) : Prop where
  fee_nonneg : 0 ≤ fee
  fee_le : fee ≤ zarAmount
  commit : ∀ args : CommitArgs, args.zarAmount = zarAmount → ∀ s e,
    commitComplete args fee s = .error e → e.code? ≠ some .ledgerImbalance
  hold : ∀ args : CommitArgs, args.zarAmount = zarAmount → ∀ id now,
    |(args.hold fee id now).amountCents - halfEven (i.subtotalCents * rate)| ≤ 1
  derived : deriveZarFee i = .ok fee

/-- The row is that of the intent, with its total and its fee converted at one rate. -/
structure PaymentIntent.ConvertedAt (i intent : PaymentIntent) (rate : ℚ) (zarAmount fee : ℤ) :
    Prop where
  terms : i.SameTerms intent
  subtotal : i.subtotalCents = intent.subtotalCents
  storedRate : i.zarRateLocked = some rate
  storedAmount : i.zarAmountCentsLocked = some zarAmount
  storedFee : i.zarServiceFeeCentsLocked = some fee
  converted : zarAmount = roundHalfToEven (Decimal.mul intent.totalCents rate)
  convertedFee : fee = roundHalfToEven (Decimal.mul intent.serviceFeeCents rate)

section Split

variable {intent : PaymentIntent} {rate : ℚ}

theorem PaymentIntent.ConvertedAt.splitsCleanly {i : PaymentIntent} {zarAmount fee : ℤ}
    (h : i.ConvertedAt intent rate zarAmount fee) (hsubtotal : 0 ≤ intent.subtotalCents)
    (hfee : 0 ≤ intent.serviceFeeCents)
    (htotal : intent.totalCents = intent.subtotalCents + intent.serviceFeeCents) (hpos : 0 < rate)
    (hexactTotal : Decimal.Exact intent.totalCents rate)
    (hexactFee : Decimal.Exact intent.serviceFeeCents rate) :
    SplitsCleanly i rate zarAmount fee := by
  have hamount : halfEven (intent.totalCents * rate) = zarAmount := by
    rw [h.converted, roundHalfToEven_mul hexactTotal]
  have hfeeAmount : halfEven (intent.serviceFeeCents * rate) = fee := by
    rw [h.convertedFee, roundHalfToEven_mul hexactFee]
  have hderived : deriveZarFee i = .ok fee := by
    rw [deriveZarFee, h.storedRate, h.convertedFee, h.terms.serviceFeeCents]
  have hsum : (intent.totalCents * rate : ℚ) =
      intent.subtotalCents * rate + intent.serviceFeeCents * rate := by
    rw [htotal]
    push_cast
    ring
  have hsubtotal' : (0 : ℚ) ≤ intent.subtotalCents * rate :=
    mul_nonneg (by exact_mod_cast hsubtotal) hpos.le
  have hfee' : (0 : ℚ) ≤ intent.serviceFeeCents * rate :=
    mul_nonneg (by exact_mod_cast hfee) hpos.le
  have hnonneg : 0 ≤ fee := by
    rw [← hfeeAmount]
    exact halfEven_nonneg hfee'
  have hle : fee ≤ zarAmount := by
    rw [← hfeeAmount, ← hamount, hsum]
    exact halfEven_mono (le_add_of_nonneg_left hsubtotal')
  refine ⟨hnonneg, hle, ?_, ?_, hderived⟩
  · rintro args hargs s e herror
    exact code_of_commitComplete hnonneg (hle.trans_eq hargs.symm) herror
  · rintro args hargs id now
    have hadd := abs_halfEven_add_sub_le (intent.subtotalCents * rate)
      (intent.serviceFeeCents * rate)
    rw [← hsum, hamount, hfeeAmount] at hadd
    rw [CommitArgs.hold, hargs, h.subtotal]
    rwa [sub_sub, add_comm]

/-- The row that a lock writes in a store in which nothing changes. -/
theorem lock_alone (config : LockConfig) (answers : ℕ → HttpOutcome) {s : Store} {id user : ℕ}
    {roles : List String} (hfound : s.paymentIntent? id = some intent)
    (howner : intent.userId = user ∨ "ADMIN" ∈ roles)
    (hstate : intent.state = .created ∨ intent.state = .locked)
    (hrate : s.rateInForce intent.currency = some rate)
    (htotal : Decimal.Exact intent.totalCents rate)
    (hfee : Decimal.Exact intent.serviceFeeCents rate) :
    ∃ i zarAmount fee,
      ((lock config id user roles).run (.healthy answers) s).store.paymentIntent? id = some i ∧
      i.ConvertedAt intent rate zarAmount fee := by
  obtain ⟨locked, lockedFee, mPaymentId, now, hrow, rfl, hamount, hlockedFee⟩ :=
    run_lock config hfound howner hstate hrate htotal hfee answers
  refine ⟨_, _, _, hrow, ⟨rfl, rfl, rfl⟩, rfl, rfl, rfl, rfl, ?_, ?_⟩
  · exact hamount.trans (roundHalfToEven_mul htotal).symm
  · exact hlockedFee.trans (roundHalfToEven_mul hfee).symm

/-- Every row whose total and fee have been converted at one rate splits cleanly; and such a row is
what `lock` writes while nothing else changes the rate. -/
theorem capture_splits_cleanly (hsubtotal : 0 ≤ intent.subtotalCents)
    (hfee : 0 ≤ intent.serviceFeeCents)
    (htotal : intent.totalCents = intent.subtotalCents + intent.serviceFeeCents) (hpos : 0 < rate)
    (hexactTotal : Decimal.Exact intent.totalCents rate)
    (hexactFee : Decimal.Exact intent.serviceFeeCents rate) :
    (∀ i zarAmount zarFee, i.ConvertedAt intent rate zarAmount zarFee →
      SplitsCleanly i rate zarAmount zarFee) ∧
    ∀ (config : LockConfig) (answers : ℕ → HttpOutcome) (s : Store) (id user : ℕ)
      (roles : List String), s.paymentIntent? id = some intent →
      (intent.userId = user ∨ "ADMIN" ∈ roles) →
      (intent.state = .created ∨ intent.state = .locked) →
      s.rateInForce intent.currency = some rate →
      ∃ i zarAmount zarFee,
        ((lock config id user roles).run (.healthy answers) s).store.paymentIntent? id = some i ∧
        i.ConvertedAt intent rate zarAmount zarFee ∧ SplitsCleanly i rate zarAmount zarFee := by
  have hsplits : ∀ i zarAmount zarFee, i.ConvertedAt intent rate zarAmount zarFee →
      SplitsCleanly i rate zarAmount zarFee := fun i zarAmount zarFee h ↦
    h.splitsCleanly hsubtotal hfee htotal hpos hexactTotal hexactFee
  refine ⟨hsplits, fun config answers s id user roles hfound howner hstate hrate ↦ ?_⟩
  obtain ⟨i, zarAmount, zarFee, hrow, hconverted⟩ :=
    lock_alone config answers hfound howner hstate hrate hexactTotal hexactFee
  exact ⟨i, zarAmount, zarFee, hrow, hconverted, hsplits i zarAmount zarFee hconverted⟩

end Split

/-- The booking in dollars, locked by its client at 18 rand. -/
theorem capture_splits_cleanly_sample :
    ∃ i zarAmount zarFee,
      ((lock ⟨15⟩ 1 3 []).run (.healthy fun _ ↦ .resolved 200 none)
        Sample.atEighteen).store.paymentIntent? 1 = some i ∧
      i.ConvertedAt Sample.dollars 18 zarAmount zarFee ∧
      SplitsCleanly i 18 zarAmount zarFee := by
  have hexactTotal : Decimal.Exact Sample.dollars.totalCents 18 := by decide +kernel
  have hexactFee : Decimal.Exact Sample.dollars.serviceFeeCents 18 := by decide +kernel
  have hsplit := capture_splits_cleanly (by decide) (by decide) (by decide) (by norm_num)
    hexactTotal hexactFee
  exact hsplit.2 ⟨15⟩ _ Sample.atEighteen 1 3 [] rfl (.inl rfl) (.inl rfl) rfl

end GearshPayments
