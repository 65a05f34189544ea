import GearshPayments.Payments.OneRate

/-!
# What is stored for the payment of an intent

A notification is matched with the locked amount of its intent and with its fee.  Locks write both;
the rates, notifications and development completions leave them alone (`Store.KeepsQuotes`).  A
completed payment of the amount is captured for an intent without a hold, if the fee is within the
amount (`captures_of_fee`).
-/

namespace GearshPayments

open Resumption PaymentIntentsService PayFastWebhookService

namespace Store

def quoteOf (s : Store) (id : ℕ) : Option (Option ℤ × Except Failure ℤ) :=
  (s.paymentIntent? id).map PaymentIntent.quote

/-- The fee of the intent is within its locked amount. -/
def FeeWithin (s : Store) (id : ℕ) : Prop :=
  ∃ amount fee, s.quoteOf id = some (some amount, .ok fee) ∧ 0 ≤ fee ∧ fee ≤ amount

/-- The locked amount of the intent. -/
def lockedAmount (s : Store) (id : ℕ) : Option ℤ :=
  (s.paymentIntent? id).bind PaymentIntent.zarAmountCentsLocked

/-- What the columns of the schema and the writes of the service see to: `booking` gives each intent
a booking of its own, holds are for the booking of their intent, there is a hold for every completed
payment, and the merchant reference of an intent is its id. -/
structure Orderly (booking : ℕ → Option ℕ) (s : Store) : Prop where
  intents : ∀ id, (s.paymentIntent? id).map PaymentIntent.bookingId = booking id
  unique : ∀ {id id' b}, booking id = some b → booking id' = some b → id = id'
  holds : ∀ h ∈ s.escrowHolds, booking h.paymentIntentId = some h.bookingId
  charges : ∀ t ∈ s.transactions, t.pfPaymentStatus = some .complete → s.HasHold t.paymentIntentId
  references : ∀ {id i m}, s.paymentIntent? id = some i → i.mPaymentId = some m → m = toString id

theorem lockedAmount_eq (s : Store) (id : ℕ) :
    s.lockedAmount id = (s.quoteOf id).bind Prod.fst := by
  unfold lockedAmount quoteOf
  cases s.paymentIntent? id <;> rfl

end Store

/-! ## What the calls keep -/

namespace Store

variable {booking : ℕ → Option ℕ} {s s' : Store}

/-- Before anything has been captured. -/
theorem Orderly.empty (clock nextId : ℕ) {intents : List PaymentIntent}
    (hbookings : (intents.map PaymentIntent.bookingId).Nodup)
    (hreferences : ∀ i ∈ intents, i.mPaymentId = none) :
    (Store.empty clock nextId intents).Orderly
      fun id ↦ (Table.find PaymentIntent.id id intents).map PaymentIntent.bookingId where
  intents _ := rfl
  unique := by
    intro id id' b h h'
    obtain ⟨i, hi, rfl⟩ := Option.map_eq_some_iff.mp h
    obtain ⟨i', hi', heq⟩ := Option.map_eq_some_iff.mp h'
    obtain ⟨hmem, rfl⟩ := Table.find_some hi
    obtain ⟨hmem', rfl⟩ := Table.find_some hi'
    rw [List.inj_on_of_nodup_map hbookings hmem' hmem heq]
  holds _ hh := absurd hh List.not_mem_nil
  charges _ ht := absurd ht List.not_mem_nil
  references := by
    intro id i m hi hm
    rw [hreferences i (Table.find_some hi).1] at hm
    cases hm

/-- A change of the store that keeps the bookings of intents and all holds, and gives a hold to
every intent of a completed payment. -/
theorem Orderly.of_change (hs : s.Orderly booking)
    (hintents : ∀ id, (s'.paymentIntent? id).map PaymentIntent.bookingId =
      (s.paymentIntent? id).map PaymentIntent.bookingId)
    (hreferences : ∀ id i', s'.paymentIntent? id = some i' → i'.mPaymentId = some (toString id) ∨
      ∃ i, s.paymentIntent? id = some i ∧ i'.mPaymentId = i.mPaymentId)
    (hkept : ∀ h ∈ s.escrowHolds, h ∈ s'.escrowHolds)
    (hholds : ∀ h ∈ s'.escrowHolds, h ∈ s.escrowHolds ∨
      booking h.paymentIntentId = some h.bookingId)
    (hcharges : ∀ t ∈ s'.transactions, t ∈ s.transactions ∨
      (t.pfPaymentStatus = some .complete → s'.HasHold t.paymentIntentId)) :
    s'.Orderly booking where
  intents id := (hintents id).trans (hs.intents id)
  unique := hs.unique
  holds h hh := (hholds h hh).elim (hs.holds h) fun h ↦ h
  charges := by
    intro t ht hcomplete
    rcases hcharges t ht with hold | hnew
    · obtain ⟨h, hh, hid⟩ := hs.charges t hold hcomplete
      exact ⟨h, hkept h hh, hid⟩
    · exact hnew hcomplete
  references := by
    intro id i' m hi' hm
    rcases hreferences id i' hi' with hown | ⟨i, hi, hsame⟩
    · exact Option.some.inj (hm.symm.trans hown)
    · exact hs.references hi (hsame.symm.trans hm)

variable (booking s s') in
/-- The change keeps the quotes of all intents, and their holds. -/
structure KeepsQuotes : Prop where
  orderly : s'.Orderly booking
  quoteOf : ∀ id, s'.quoteOf id = s.quoteOf id
  hasHold : ∀ id, s.HasHold id → s'.HasHold id

theorem Orderly.keepsQuotes_rates (hs : s.Orderly booking) (clock : ℕ)
    (exchangeRates : List ExchangeRate) (fxRateOverrides : List FxRateOverride) :
    KeepsQuotes booking s { s with clock, exchangeRates, fxRateOverrides } where
  orderly := ⟨hs.intents, hs.unique, hs.holds, hs.charges, hs.references⟩
  quoteOf _ := rfl
  hasHold _ h := h

theorem Orderly.keepsQuotes_self (hs : s.Orderly booking) : KeepsQuotes booking s s :=
  ⟨hs, fun _ ↦ rfl, fun _ h ↦ h⟩

/-- Settling an intent keeps the reference of each. -/
theorem reference_settle {args : CommitArgs} {state : IntentState}
    (h : s'.paymentIntents = Table.update PaymentIntent.id args.intentId (args.settle state)
      s.paymentIntents) {id : ℕ} {i' : PaymentIntent} (hi' : s'.paymentIntent? id = some i') :
    ∃ i, s.paymentIntent? id = some i ∧ i'.mPaymentId = i.mPaymentId := by
  have hmap := map_paymentIntent?_update (g := PaymentIntent.mPaymentId)
    (f := args.settle state) (fun _ ↦ rfl) (fun _ ↦ rfl) h id
  rw [hi'] at hmap
  obtain ⟨i, hi, hm⟩ := Option.map_eq_some_iff.mp hmap.symm
  exact ⟨i, hi, hm.symm⟩

theorem keepsQuotes_of_commit (hs : s.Orderly booking) {args : CommitArgs} {fee : ℤ}
    (hbooking : booking args.intentId = some args.bookingId)
    (h : commit args fee s = .ok ((), s')) : KeepsQuotes booking s s' := by
  have hquotes : ∀ {state : IntentState}, s'.paymentIntents =
      Table.update PaymentIntent.id args.intentId (args.settle state) s.paymentIntents →
      ∀ id, s'.quoteOf id = s.quoteOf id :=
    fun {state} hintents ↦ map_paymentIntent?_update (f := args.settle state) (fun _ ↦ rfl)
      (fun _ ↦ rfl) hintents
  by_cases hc : args.paymentStatus = .complete
  · rw [commit_of_complete hc] at h
    rcases of_commitComplete_ok h with ⟨-, rfl⟩ | ⟨-, rfl⟩
    · exact hs.keepsQuotes_self
    · have hkept : ∀ x ∈ s.escrowHolds, x ∈ (args.captured fee s).escrowHolds :=
        fun _ hx ↦ List.mem_append_left _ hx
      refine ⟨hs.of_change (bookingId_settle rfl) (fun id i' hi' ↦ .inr (reference_settle rfl hi'))
        hkept (fun x hx ↦ ?_) (fun t ht ↦ ?_), hquotes rfl, fun id ⟨x, hx, hid⟩ ↦
        ⟨x, hkept x hx, hid⟩⟩
      · rcases List.mem_append.mp hx with hold | hnew
        · exact .inl hold
        · rw [List.mem_singleton.mp hnew]
          exact .inr hbooking
      · rcases List.mem_append.mp ht with hold | hnew
        · exact .inl hold
        · rw [List.mem_singleton.mp hnew]
          exact .inr fun _ ↦ ⟨_, List.mem_append_right _ (List.mem_singleton.mpr rfl), rfl⟩
  · rw [commit_of_ne hc] at h
    rcases of_commitFailed_ok h with ⟨-, rfl⟩ | ⟨-, -, rfl⟩
    · exact hs.keepsQuotes_self
    · refine ⟨hs.of_change (bookingId_settle rfl) (fun id i' hi' ↦ .inr (reference_settle rfl hi'))
        (fun _ hx ↦ hx) (fun _ hx ↦ .inl hx) (fun t ht ↦ ?_), hquotes rfl, fun _ hx ↦ hx⟩
      rcases List.mem_append.mp ht with hold | hnew
      · exact .inl hold
      · rw [List.mem_singleton.mp hnew]
        exact .inr fun hcomplete ↦ absurd (Option.some.inj hcomplete) hc

end Store

section Programs

variable {I : Store → Prop} {G : Store → Store → Prop}

/-- Apart from locks, the calls that change the rates change nothing else. -/
theorem RateCall.guarantees (quotient : ℚ → ℚ → ℚ) (config : LockConfig)
    (hG : ∀ s clock exchangeRates fxRateOverrides, I s →
      G s { s with clock, exchangeRates, fxRateOverrides })
    {call : RateCall} (hcall : ∀ id user roles, call ≠ .lock id user roles) :
    Guarantees I G (call.program quotient config) := by
  have hrefl : ∀ s, I s → G s s := fun s hs ↦ hG s s.clock s.exchangeRates s.fxRateOverrides hs
  cases call with
  | lock id user roles => exact absurd rfl (hcall id user roles)
  | putOverride fromCurrency toCurrency rate =>
      refine (FxService.guarantees_putOverride_of hrefl fun s o s' hs _ h ↦ ?_).discard
      unfold Tx.upsertFxRateOverride at h
      dsimp only at h
      split at h <;> cases h <;> exact hG s s.clock s.exchangeRates _ hs
  | deleteOverride fromCurrency toCurrency =>
      refine FxService.guarantees_deleteOverride_of hrefl fun s s' hs h ↦ ?_
      cases h
      exact hG s s.clock s.exchangeRates _ hs
  | refresh quotes =>
      refine (FxService.guarantees_refresh_of hrefl fun q _ s s' hs h ↦ ?_).discard
      unfold Tx.upsertExchangeRate at h
      split at h <;> cases h <;> exact hG s s.clock _ s.fxRateOverrides hs
  | tick clock =>
      exact ⟨fun s hs ↦ ⟨hG s clock s.exchangeRates s.fxRateOverrides hs, trivial⟩, fun _ ↦ trivial⟩

/-- A notification keeps all quotes. -/
theorem guarantees_keepsQuotes (booking : ℕ → Option ℕ) (payfast : PayFastConfig)
    (call : IntentCall) :
    Guarantees (Store.Orderly booking) (Store.KeepsQuotes booking) (call.program payfast) := by
  have hbooked : ∀ {s : Store} {id : ℕ} {intent : PaymentIntent}, s.Orderly booking →
      s.paymentIntent? id = some intent → booking intent.id = some intent.bookingId := by
    intro s id intent hs hfound
    rw [(Table.find_some hfound).2, ← hs.intents, hfound, Option.map_some]
  have hrefl : ∀ s : Store, s.Orderly booking → Store.KeepsQuotes booking s s :=
    fun _ hs ↦ hs.keepsQuotes_self
  cases call with
  | itn normalised traceparent tracestate =>
      refine guarantees_handle hrefl (fun amount fee hs₀ hfound hs h ↦ ?_) payfast
      exact Store.keepsQuotes_of_commit hs (hbooked hs₀ hfound) h
  | devComplete production intentId callerUserId callerRoles =>
      refine guarantees_devComplete hrefl (fun {s₀ s s' intent amount fee m} hs₀ hfound hs h ↦ ?_)
        production callerUserId callerRoles
      have hcommit := (congrFun (commit_of_complete rfl fee) s).trans h
      exact Store.keepsQuotes_of_commit hs (hbooked hs₀ hfound) hcommit

end Programs

/-! ## What a lock writes -/

/-- The response of a lock, for an intent whose merchant reference is its id. -/
def formOf (config : LockConfig) (intent : PaymentIntent) (locked : ConvertedAmount) (now : ℕ) :
    LockPaymentIntentResponse where
  id := intent.id
  state := .locked
  checkout := checkout intent locked (toString intent.id)
  mPaymentId := toString intent.id
  lockExpiresAt := now + config.fxIntentLockTtlMinutes * 60000

/-- The write of a lock, and the form that it returns. -/
def Quotes (config : LockConfig) (form : LockPaymentIntentResponse) (s s' : Store) : Prop :=
  ∃ (intent : PaymentIntent) (locked lockedFee : ConvertedAmount) (now : ℕ),
    (s.paymentIntent? intent.id).isSome = true ∧
    s' = { s with
      paymentIntents := Table.update PaymentIntent.id intent.id
        (lockedRow config locked lockedFee (toString intent.id) now) s.paymentIntents } ∧
    form = formOf config intent locked now

namespace Quotes

variable {config : LockConfig} {form : LockPaymentIntentResponse} {s s' : Store}

theorem reference (h : Quotes config form s s') : form.checkout.mPaymentId = toString form.id := by
  obtain ⟨intent, locked, lockedFee, now, -, -, rfl⟩ := h
  rfl

theorem clock (h : Quotes config form s s') : s'.clock = s.clock := by
  obtain ⟨intent, locked, lockedFee, now, -, rfl, -⟩ := h
  rfl

theorem hasHold_iff (h : Quotes config form s s') (id : ℕ) : s'.HasHold id ↔ s.HasHold id := by
  obtain ⟨intent, locked, lockedFee, now, -, rfl, -⟩ := h
  exact Iff.rfl

/-- Other intents keep their quotes. -/
theorem quoteOf_of_ne (h : Quotes config form s s') {id : ℕ} (hne : id ≠ form.id) :
    s'.quoteOf id = s.quoteOf id := by
  obtain ⟨intent, locked, lockedFee, now, -, rfl, rfl⟩ := h
  exact congrArg (Option.map _) (Store.paymentIntent?_update_of_ne
    (f := lockedRow config locked lockedFee _ now) (fun _ ↦ rfl) hne rfl)

/-- The amount of the form is stored, and a fee with it. -/
theorem quoteOf_self (h : Quotes config form s s') :
    ∃ amount fee, s'.quoteOf form.id = some (some amount, .ok fee) ∧
      centsToMajorString amount = form.checkout.amountMajorUnits := by
  obtain ⟨intent, locked, lockedFee, now, hsome, rfl, rfl⟩ := h
  obtain ⟨i, hi⟩ := Option.isSome_iff_exists.mp hsome
  refine ⟨locked.amountCents, lockedFee.amountCents, ?_, rfl⟩
  exact congrArg (Option.map _) (Store.paymentIntent?_update_self
    (f := lockedRow config locked lockedFee _ now) (fun _ ↦ rfl) hi rfl)

theorem orderly {booking : ℕ → Option ℕ} (h : Quotes config form s s') (hs : s.Orderly booking) :
    s'.Orderly booking := by
  obtain ⟨intent, locked, lockedFee, now, -, hs', -⟩ := h
  let row := lockedRow config locked lockedFee (toString intent.id) now
  have hintents : s'.paymentIntents =
      Table.update PaymentIntent.id intent.id row s.paymentIntents := by rw [hs']
  have hholds : s'.escrowHolds = s.escrowHolds := by rw [hs']
  have hcharges : s'.transactions = s.transactions := by rw [hs']
  have hkey : ∀ i, (row i).id = i.id := fun _ ↦ rfl
  refine hs.of_change (Store.map_paymentIntent?_update hkey (fun _ ↦ rfl) hintents) ?_ ?_ ?_ ?_
  · intro id i' hi'
    by_cases hid : id = intent.id
    · rw [hid, Store.paymentIntent?, hintents, Table.find_update hkey, if_pos rfl] at hi'
      obtain ⟨i, -, rfl⟩ := Option.map_eq_some_iff.mp hi'
      rw [hid]
      exact .inl rfl
    · rw [Store.paymentIntent?_update_of_ne hkey hid hintents] at hi'
      exact .inr ⟨i', hi', rfl⟩
  · rw [hholds]
    exact fun _ hh ↦ hh
  · rw [hholds]
    exact fun _ hh ↦ .inl hh
  · rw [hcharges]
    exact fun _ ht ↦ .inl ht

end Quotes

/-! ## The capture of a payment -/

section Capture

variable {booking : ℕ → Option ℕ} {s : Store} {itn : NormalisedItn}

/-- The commit of a completed payment, when it has been matched. -/
theorem run_handle {config : PayFastConfig} (hm : itn.merchantId = config.merchantId.getD "")
    (hc : itn.paymentStatus = .complete) (traceparent tracestate : Option String)
    (answers : ℕ → HttpOutcome) (s : Store) :
    (handle config itn traceparent tracestate).run (.healthy answers) s =
      (Resumption.ofExcept (matchIntent itn (s.paymentIntent? itn.mPaymentId)) >>=
        fun (intent, zarAmount, fee) ↦
          Resumption.transaction (commitComplete (commitArgs intent zarAmount (.uuid itn.mPaymentId)
            itn.pfPaymentId itn.paymentStatus traceparent tracestate) fee)).run
        (.healthy answers) s := by
  unfold handle
  dsimp only
  rw [if_neg (not_not.mpr hm), run_bind_ok_nil (run_read_healthy _ answers s)]
  simp only [if_pos hc]

/-- A payment is captured for an intent without a hold, if the fee is within the amount. -/
theorem captures_of_fee (hs : s.Orderly booking) {intent : PaymentIntent}
    (hfound : s.paymentIntent? itn.mPaymentId = some intent) (hfree : ¬s.HasHold itn.mPaymentId)
    (hc : itn.paymentStatus = .complete) {amount fee : ℤ} (hfee : 0 ≤ fee) (hle : fee ≤ amount)
    (traceparent tracestate : Option String) :
    (commitArgs intent amount (.uuid itn.mPaymentId) itn.pfPaymentId itn.paymentStatus traceparent
      tracestate).Captures fee s := by
  have hid : intent.id = itn.mPaymentId := (Table.find_some hfound).2
  have hbooking : booking itn.mPaymentId = some intent.bookingId := by
    rw [← hs.intents, hfound, Option.map_some]
  refine ⟨CommitArgs.sound_entries_iff.mpr ⟨hfee, hle⟩, fun hseen ↦ ?_, ?_,
    fun h hh heq ↦ hfree ⟨h, hh, ?_⟩⟩
  · obtain ⟨t, ht, hintent, -, hstatus⟩ := (seen_commitArgs_iff ..).mp hseen
    have hhold := hs.charges t ht (hstatus.trans (congrArg some hc))
    rw [hintent, hid] at hhold
    exact hfree hhold
  · show (s.paymentIntent? intent.id).isSome = true
    rw [hid, hfound]
    rfl
  · exact hs.unique (hs.holds h hh) (hbooking.trans (congrArg some heq.symm))

end Capture

end GearshPayments
