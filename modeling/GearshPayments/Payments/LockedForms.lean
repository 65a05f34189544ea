import GearshPayments.Payments.ItnAmount
import GearshPayments.Payments.Quotes
import GearshPayments.Resumption.Questions

/-!
# The forms of an intent

Every `lock()` returns a signed form for the amount that it stores, and the time until which the
amount is locked.  The next lock of the intent stores its own amount over it, and a notification is
matched with what is stored.  So a payment with the first form is refused once another amount has
been stored, though the form has not expired (`relock_refuses_form`); it is accepted as long as no
lock stores another amount while a form has not expired (`forms_honoured_iff`).
-/

namespace GearshPayments

open Resumption PaymentIntentsService PayFastWebhookService

/-! ## The calls -/

/-- What happens while an intent is paid for: locks, changes of the rates, and notifications. -/
inductive QuoteCall where
  | rate (call : RateCall)
  | intent (call : IntentCall)

abbrev QuotePool :=
  Pool Store PayFastRefundInput HttpOutcome (Service (Option LockPaymentIntentResponse))

section Calls

variable (quotient : ℚ → ℚ → ℚ) (payfast : PayFastConfig) (config : LockConfig)

/-- A lock returns its response, and the other calls none. -/
def QuoteCall.program : QuoteCall → Service (Option LockPaymentIntentResponse)
  | .rate (.lock intentId callerUserId callerRoles) =>
    some <$> PaymentIntentsService.lock config intentId callerUserId callerRoles
  | .rate call => (fun _ ↦ none) <$> call.program quotient config
  | .intent call => (fun _ ↦ none) <$> call.program payfast

/-- Any number of calls. -/
def QuoteCall.pool (s : Store) (calls : List QuoteCall) : QuotePool :=
  ⟨s, calls.map (·.program quotient payfast config), []⟩

end Calls

/-! ## Forms -/

/-- A lock has returned the form. -/
def Returned (P : QuotePool) (form : LockPaymentIntentResponse) : Prop :=
  ∃ i : ℕ, P.threads[i]? = some (.ret (some form))

/-- A form for the intent that has been returned, before its `lockExpiresAt`. -/
structure Unexpired (id : ℕ) (P : QuotePool) (form : LockPaymentIntentResponse) : Prop where
  returned : Returned P form
  id : form.id = id
  early : P.store.clock < form.lockExpiresAt

/-- The notification of a completed payment with the form. -/
structure NormalisedItn.PaysWith (config : PayFastConfig) (form : LockPaymentIntentResponse)
    (itn : NormalisedItn) : Prop where
  mPaymentId : toString itn.mPaymentId = form.checkout.mPaymentId
  amountGross : itn.amountGross = form.checkout.amountMajorUnits
  merchantId : itn.merchantId = config.merchantId.getD ""
  paymentStatus : itn.paymentStatus = .complete

/-- A payment with the form is accepted, and there is a hold for what has been paid. -/
def Honours (config : PayFastConfig) (form : LockPaymentIntentResponse) (s : Store) : Prop :=
  ∀ itn : NormalisedItn, itn.PaysWith config form → ∀ traceparent tracestate answers,
    let r := (handle config itn traceparent tracestate).run (.healthy answers) s
    r.result = .ok () ∧ ∃ hold ∈ r.store.escrowHolds, hold.paymentIntentId = form.id ∧
      hold.state = .held ∧
      centsToMajorString (hold.amountCents + hold.platformFeeCents) = form.checkout.amountMajorUnits

/-- All forms for the intent that have not expired are honoured, if it has no hold. -/
def HonoursForms (config : PayFastConfig) (id : ℕ) (P : QuotePool) : Prop :=
  ¬P.store.HasHold id → ∀ form, Unexpired id P form → Honours config form P.store

/-- While the intent has no hold, a step stores no other amount for it if there is a form that has
not expired, and leaves the fee within the amount. -/
def KeepsForms (id : ℕ) (P : QuotePool) (t : Turn HttpOutcome Failure) : Prop :=
  ¬P.store.HasHold id →
    (∀ form, Unexpired id P form →
      (Pool.step next P t).store.lockedAmount id = P.store.lockedAmount id) ∧
    ∀ form, Unexpired id (Pool.step next P t) form → (Pool.step next P t).store.FeeWithin id

/-! ## A payment with a form -/

section Payment

variable {booking : ℕ → Option ℕ} {s : Store} {itn : NormalisedItn}

/-- The form stands: its amount is the one that is stored, and the fee is within it. -/
def Stands (form : LockPaymentIntentResponse) (s : Store) : Prop :=
  ∃ amount fee, s.quoteOf form.id = some (some amount, .ok fee) ∧
    centsToMajorString amount = form.checkout.amountMajorUnits ∧ 0 ≤ fee ∧ fee ≤ amount

/-- A form for an intent without a hold is honoured if it stands, and otherwise not. -/
theorem honours_iff {config : PayFastConfig} {form : LockPaymentIntentResponse}
    (hs : s.Orderly booking) (hfree : ¬s.HasHold form.id)
    (hreference : form.checkout.mPaymentId = toString form.id) :
    Honours config form s ↔ Stands form s := by
  constructor
  · intro h
    let itn : NormalisedItn :=
      { pfPaymentId := "", mPaymentId := form.id, paymentStatus := .complete
        amountGross := form.checkout.amountMajorUnits, merchantId := config.merchantId.getD "" }
    obtain ⟨hok, -⟩ := h itn ⟨hreference.symm, rfl, rfl, rfl⟩ none none fun _ ↦ .resolved 200 none
    rw [run_handle rfl rfl] at hok
    cases hmatch : matchIntent itn (s.paymentIntent? itn.mPaymentId) with
    | error e =>
        rw [hmatch] at hok
        cases hok
    | ok r =>
        obtain ⟨intent, amount, fee⟩ := r
        obtain ⟨hfound, hquote, hgross⟩ := of_matchIntent hmatch
        rw [hmatch, ofExcept_ok, ret_bind] at hok
        dsimp only at hok
        cases hcommit : commitComplete (commitArgs intent amount (.uuid itn.mPaymentId)
            itn.pfPaymentId itn.paymentStatus none none) fee s with
        | error e =>
            rw [run_transaction_error rfl hcommit] at hok
            cases hok
        | ok r =>
            have hsound := sound_of_commitComplete_ok hcommit
            refine ⟨amount, fee, ?_, hgross.symm, CommitArgs.sound_entries_iff.mp hsound⟩
            rw [Store.quoteOf, hfound, Option.map_some, hquote]
  · rintro ⟨amount, fee, hquote, hamount, hfee, hle⟩ itn hitn traceparent tracestate answers
    have hid : itn.mPaymentId = form.id :=
      JavaScript.toString_injective (hitn.mPaymentId.trans hreference)
    obtain ⟨intent, hfound, hquote⟩ := Option.map_eq_some_iff.mp hquote
    rw [← hid] at hfound hfree
    have hmatch : matchIntent itn (some intent) = .ok (intent, amount, fee) :=
      matchIntent_of_quote hquote (hitn.amountGross.trans hamount.symm)
    have hcaptures := captures_of_fee hs hfound hfree hitn.paymentStatus hfee hle traceparent
      tracestate
    intro r
    have hr : r = _ :=
      run_handle hitn.merchantId hitn.paymentStatus traceparent tracestate answers s
    rw [hfound, hmatch, ofExcept_ok, ret_bind] at hr
    dsimp only at hr
    rw [run_transaction rfl (commitComplete_of_captures hcaptures)] at hr
    rw [hr]
    refine ⟨rfl, _, List.mem_append_right _ (List.mem_singleton.mpr rfl), ?_, rfl, ?_⟩
    · exact (Table.find_some hfound).2.trans hid
    · show centsToMajorString (amount - fee + fee) = _
      rw [sub_add_cancel, hamount]

end Payment

/-! ## What the threads do -/

/-- A thread has written no quote, or the form is what it returns. -/
def quoting (booking : ℕ → Option ℕ) (config : LockConfig) :
    Monitor Store PayFastRefundInput HttpOutcome (Option LockPaymentIntentResponse) where
  Knows _ s := s.Orderly booking
  Writes v s s' v' := v = none ∧
    ((v' = none ∧ (s.Orderly booking → Store.KeepsQuotes booking s s')) ∨
      ∃ form, v' = some form ∧ Quotes config form s s')
  Asks v _ _ v' := v = none ∧ v' = none

/-- What a thread has written is what it returns. -/
structure ReturnsForm (v : Option LockPaymentIntentResponse)
    (r : Except Failure (Option LockPaymentIntentResponse)) : Prop where
  returns : ∀ form, v = some form ↔ r = .ok (some form)
  reference : ∀ form, v = some form → form.checkout.mPaymentId = toString form.id

theorem ReturnsForm.nothing {r : Except Failure (Option LockPaymentIntentResponse)}
    (h : ∀ form, r ≠ .ok (some form)) : ReturnsForm none r :=
  ⟨fun form ↦ ⟨fun hv ↦ (by cases hv), fun hr ↦ absurd hr (h form)⟩, fun _ hv ↦ (by cases hv)⟩

theorem ReturnsForm.form {form : LockPaymentIntentResponse}
    (h : form.checkout.mPaymentId = toString form.id) :
    ReturnsForm (some form) (.ok (some form)) := by
  refine ⟨fun form' ↦ ?_, fun form' heq ↦ ?_⟩
  · constructor
    · intro heq
      cases heq
      rfl
    · intro heq
      cases heq
      rfl
  · cases heq
    exact h

section Conformance

variable {booking : ℕ → Option ℕ} {config : LockConfig} {α : Type}

theorem quoting_self (s : Store) : (quoting booking config).Writes none s s none :=
  ⟨rfl, .inl ⟨rfl, fun hs ↦ hs.keepsQuotes_self⟩⟩

/-- A program that keeps all quotes writes none. -/
theorem conforms_of_keepsQuotes {p : Service α}
    (hp : Guarantees (Store.Orderly booking) (Store.KeepsQuotes booking) p) :
    Conforms (quoting booking config) p none (Returns none fun _ ↦ True) := by
  have hwrites : ∀ s s' : Store, s.Orderly booking → Store.KeepsQuotes booking s s' →
      (quoting booking config).Writes none s s' none := fun _ _ _ h ↦ ⟨rfl, .inl ⟨rfl, fun _ ↦ h⟩⟩
  have hasks : ∀ q a, True → (quoting booking config).Asks none q a none := fun _ _ _ ↦ ⟨rfl, rfl⟩
  have hconforms : Conforms (quoting booking config) p none fun v _ ↦ v = none :=
    hp.conforms (fun _ hs ↦ hs) hwrites hasks (.of_forall (fun _ ↦ trivial) p)
  exact hconforms.mono fun _ _ h ↦ ⟨h, fun _ _ ↦ trivial⟩

theorem conforms_convertCurrency (amountCents : ℤ) (fromCurrency toCurrency : Currency) :
    Conforms (quoting booking config)
      (FxService.convertCurrency amountCents fromCurrency toCurrency) none
      (Returns none fun _ ↦ True) := by
  have hreads : Guarantees (fun _ ↦ True) Eq
      (FxService.convertCurrency amountCents fromCurrency toCurrency) :=
    guarantees_convertCurrency (fun _ ↦ rfl) _ _ _
  refine conforms_of_keepsQuotes (hreads.mono (fun _ _ ↦ trivial) ?_)
  rintro s s' hs rfl
  exact hs.keepsQuotes_self

theorem conforms_lockIntent {intent : PaymentIntent}
    (hm : intent.mPaymentId.getD (toString intent.id) = toString intent.id) :
    Conforms (quoting booking config) (lockIntent config intent) none
      fun v r ↦ ReturnsForm v (r.map some) := by
  have herror : ∀ e : Failure, ReturnsForm none ((Except.error e : Except Failure
      LockPaymentIntentResponse).map some) := fun e ↦ .nothing fun _ h ↦ by cases h
  unfold lockIntent
  refine (conforms_convertCurrency _ _ _).bind_returns (fun locked _ ↦ ?_) herror
  refine (conforms_convertCurrency _ _ _).bind_returns (fun lockedFee _ ↦ ?_) herror
  refine Conforms.read_bind quoting_self (fun s _ ↦ ?_) herror
  generalize s.clock = now
  dsimp only
  rw [hm]
  -- the form that is returned for the row of the transaction
  let form : PaymentIntent → LockPaymentIntentResponse := fun updated ↦
    ⟨updated.id, updated.state, checkout intent locked (toString intent.id), toString intent.id,
      now + config.fxIntentLockTtlMinutes * 60000⟩
  suffices hwrite : Conforms (quoting booking config) (Resumption.transaction
      (Tx.updatePaymentIntent intent.id
        (lockedRow config locked lockedFee (toString intent.id) now)) : Service PaymentIntent) none
      fun v r ↦ ReturnsForm v ((r.map form).map some) from
    hwrite.bind (fun _ _ h ↦ h) fun _ _ h ↦ h
  refine Conforms.transaction quoting_self ?_ fun e ↦ .nothing fun _ h ↦ by cases h
  intro s updated s' hs h
  cases hfound : s.paymentIntent? intent.id with
  | none =>
      rw [Tx.updatePaymentIntent, hfound] at h
      cases h
  | some i =>
      rw [Tx.updatePaymentIntent_apply hfound] at h
      cases h
      have hform : form (lockedRow config locked lockedFee (toString intent.id) now i) =
          formOf config intent locked now := by
        show LockPaymentIntentResponse.mk i.id _ _ _ _ = _
        rw [(Table.find_some hfound).2]
        rfl
      have hquotes : Quotes config (formOf config intent locked now) s
          { s with
            paymentIntents := Table.update PaymentIntent.id intent.id
              (lockedRow config locked lockedFee (toString intent.id) now) s.paymentIntents } :=
        ⟨intent, locked, lockedFee, now, by rw [hfound]; rfl, rfl, rfl⟩
      refine ⟨some _, ⟨rfl, .inr ⟨_, rfl, hquotes⟩⟩, ?_⟩
      show ReturnsForm _ (.ok (some (form _)))
      rw [hform]
      exact .form hquotes.reference

theorem conforms_lock (id user : ℕ) (roles : List String) :
    Conforms (quoting booking config) (some <$> lock config id user roles) none ReturnsForm := by
  have herror : ∀ e : Failure, ReturnsForm none ((Except.error e : Except Failure
      LockPaymentIntentResponse).map some) := fun e ↦ .nothing fun _ h ↦ by cases h
  refine Conforms.map ?_
  unfold lock
  refine Conforms.read_bind quoting_self (fun s hs ↦ ?_) herror
  cases hfound : s.paymentIntent? id with
  | none => exact herror _
  | some intent =>
      have hm : intent.mPaymentId.getD (toString intent.id) = toString intent.id := by
        cases hm : intent.mPaymentId with
        | none => rfl
        | some m =>
            have hid : intent.id = id := (Table.find_some hfound).2
            rw [Option.getD_some, hid]
            exact hs.references hfound hm
      dsimp only
      split
      · exact herror _
      · split
        · exact herror _
        · exact conforms_lockIntent hm

theorem conforms_program (quotient : ℚ → ℚ → ℚ) (payfast : PayFastConfig) (call : QuoteCall) :
    Conforms (quoting booking config) (call.program quotient payfast config) none ReturnsForm := by
  have hnothing : ∀ {p : Service Unit}, Guarantees (Store.Orderly booking)
      (Store.KeepsQuotes booking) p → Conforms (quoting booking config)
        ((fun _ ↦ none) <$> p : Service (Option LockPaymentIntentResponse)) none ReturnsForm := by
    intro p hp
    refine Conforms.map ((conforms_of_keepsQuotes hp).mono ?_)
    rintro v r ⟨rfl, -⟩
    refine .nothing fun form h ↦ ?_
    cases r with
    | error e => cases h
    | ok u => cases h
  have hrates : ∀ call : RateCall, (∀ id user roles, call ≠ .lock id user roles) →
      Guarantees (Store.Orderly booking) (Store.KeepsQuotes booking)
        (call.program quotient config) :=
    fun call hcall ↦ call.guarantees quotient config
      (fun _ clock exchangeRates fxRateOverrides hs ↦
        hs.keepsQuotes_rates clock exchangeRates fxRateOverrides) hcall
  cases call with
  | rate call =>
      cases call with
      | lock id user roles => exact conforms_lock id user roles
      | putOverride fromCurrency toCurrency rate =>
          exact hnothing (hrates (.putOverride fromCurrency toCurrency rate) fun _ _ _ h ↦
            by cases h)
      | deleteOverride fromCurrency toCurrency =>
          exact hnothing (hrates (.deleteOverride fromCurrency toCurrency) fun _ _ _ h ↦ by cases h)
      | refresh quotes => exact hnothing (hrates (.refresh quotes) fun _ _ _ h ↦ by cases h)
      | tick clock => exact hnothing (hrates (.tick clock) fun _ _ _ h ↦ by cases h)
  | intent call => exact hnothing (guarantees_keepsQuotes booking payfast call)

/-- Once a form has been written, the thread has returned it. -/
theorem ret_of_conforms {p : Service (Option LockPaymentIntentResponse)}
    {form : LockPaymentIntentResponse}
    (h : Conforms (quoting booking config) p (some form) ReturnsForm) {s : Store}
    (hs : s.Orderly booking) : p = .ret (some form) := by
  cases p with
  | ret a =>
      have hok := (ReturnsForm.returns h form).mp rfl
      cases hok
      rfl
  | throw e => cases (ReturnsForm.returns h form).mp rfl
  | atomic act k =>
      obtain ⟨v', hw, -⟩ := h.1 s hs
      cases hw.1
  | ask q k =>
      obtain ⟨v', hx, -⟩ := h (.resolved 200 none)
      cases hx.1

end Conformance

/-! ## Runs -/

/-- The invariant of the pool, with what each thread has written. -/
structure QuoteInvariant (booking : ℕ → Option ℕ) (config : LockConfig) (P : QuotePool)
    (vs : List (Option LockPaymentIntentResponse)) : Prop where
  conforming : Pool.Conforming (quoting booking config) ReturnsForm P.threads vs
  length : vs.length = P.threads.length
  orderly : P.store.Orderly booking

namespace QuoteInvariant

variable {booking : ℕ → Option ℕ} {config : LockConfig} {P : QuotePool}
  {vs : List (Option LockPaymentIntentResponse)}

theorem pool (quotient : ℚ → ℚ → ℚ) (payfast : PayFastConfig) (config : LockConfig) {s : Store}
    (hs : s.Orderly booking) (calls : List QuoteCall) :
    QuoteInvariant booking config (QuoteCall.pool quotient payfast config s calls)
      (calls.map fun _ ↦ none) where
  conforming := by
    intro i p hp
    change (calls.map _)[i]? = some p at hp
    rw [List.getElem?_map] at hp
    obtain ⟨call, hcall, rfl⟩ := Option.map_eq_some_iff.mp hp
    refine ⟨none, ?_, conforms_program quotient payfast call⟩
    rw [List.getElem?_map, hcall]
    rfl
  length := by
    rw [QuoteCall.pool, List.length_map, List.length_map]
  orderly := hs

/-- The forms that have been returned are those that have been written. -/
theorem returned_iff (h : QuoteInvariant booking config P vs) {form : LockPaymentIntentResponse} :
    Returned P form ↔ some form ∈ vs := by
  constructor
  · rintro ⟨i, hi⟩
    obtain ⟨v, hv, hconforms⟩ := h.conforming i _ hi
    have hv' : v = some form := (ReturnsForm.returns hconforms form).mpr rfl
    rw [hv'] at hv
    exact List.mem_of_getElem? hv
  · intro hmem
    obtain ⟨i, hi⟩ := List.mem_iff_getElem?.mp hmem
    have hlt : i < P.threads.length := h.length ▸ (List.getElem?_eq_some_iff.mp hi).1
    obtain ⟨v, hv, hconforms⟩ := h.conforming i _ (List.getElem?_eq_getElem hlt)
    cases hi.symm.trans hv
    refine ⟨i, ?_⟩
    rw [List.getElem?_eq_getElem hlt, ret_of_conforms hconforms h.orderly]

theorem reference (h : QuoteInvariant booking config P vs) {form : LockPaymentIntentResponse}
    (hform : Returned P form) : form.checkout.mPaymentId = toString form.id := by
  obtain ⟨i, hi⟩ := hform
  obtain ⟨v, -, hconforms⟩ := h.conforming i _ hi
  exact ReturnsForm.reference hconforms form ((ReturnsForm.returns hconforms form).mpr rfl)

/-- A step keeps all quotes and returns no form, or it is the write of a lock, which returns the
form that goes with it. -/
theorem step (h : QuoteInvariant booking config P vs) (t : Turn HttpOutcome Failure) :
    (∃ vs', QuoteInvariant booking config (Pool.step next P t) vs') ∧
      ((Store.KeepsQuotes booking P.store (Pool.step next P t).store ∧
          ∀ g, Returned (Pool.step next P t) g ↔ Returned P g) ∨
        ∃ form, Quotes config form P.store (Pool.step next P t).store ∧
          ∀ g, Returned (Pool.step next P t) g ↔ Returned P g ∨ g = form) := by
  obtain ⟨vs', hconforming, hcases⟩ := Pool.conforming_step h.conforming (fun _ _ _ ↦ h.orderly) t
  have hthreads : (Pool.step next P t).threads.length = P.threads.length :=
    Pool.length_threads_run next P [t]
  have hkept : vs' = vs → Store.KeepsQuotes booking P.store (Pool.step next P t).store →
      (∃ vs', QuoteInvariant booking config (Pool.step next P t) vs') ∧
        Store.KeepsQuotes booking P.store (Pool.step next P t).store ∧
          ∀ g, Returned (Pool.step next P t) g ↔ Returned P g := by
    rintro rfl hkeeps
    have hnext : QuoteInvariant booking config (Pool.step next P t) vs' :=
      ⟨hconforming, h.length.trans hthreads.symm, hkeeps.orderly⟩
    exact ⟨⟨vs', hnext⟩, hkeeps, fun g ↦ by rw [hnext.returned_iff, h.returned_iff]⟩
  have hself : vs[t.thread]? = some none → vs.set t.thread none = vs := by
    intro hv
    obtain ⟨hlt, hnone⟩ := List.getElem?_eq_some_iff.mp hv
    rw [← hnone]
    exact List.set_getElem_self hlt
  rcases hcases with ⟨hstore, -, hvs⟩ | ⟨v, v', hv, ⟨rfl, hw⟩, -, hvs⟩ |
    ⟨v, q, a, v', hv, ⟨rfl, rfl⟩, hstore, -, hvs⟩
  · obtain ⟨hinv, hkeeps⟩ := hkept hvs (hstore ▸ h.orderly.keepsQuotes_self)
    exact ⟨hinv, .inl hkeeps⟩
  · rcases hw with ⟨rfl, hkeeps⟩ | ⟨form, rfl, hquotes⟩
    · obtain ⟨hinv, hkeeps⟩ := hkept (hvs.trans (hself hv)) (hkeeps h.orderly)
      exact ⟨hinv, .inl hkeeps⟩
    · have hlength : vs'.length = (Pool.step next P t).threads.length := by
        rw [hvs, List.length_set, h.length, hthreads]
      have hnext : QuoteInvariant booking config (Pool.step next P t) vs' :=
        ⟨hconforming, hlength, hquotes.orderly h.orderly⟩
      refine ⟨⟨vs', hnext⟩, .inr ⟨form, hquotes, fun g ↦ ?_⟩⟩
      rw [hnext.returned_iff, h.returned_iff, hvs]
      obtain ⟨hlt, -⟩ := List.getElem?_eq_some_iff.mp hv
      constructor
      · intro hg
        rcases List.mem_or_eq_of_mem_set hg with hold | heq
        · exact .inl hold
        · exact .inr (Option.some.inj heq)
      · rintro (hold | rfl)
        · -- the thread of the turn had written no form before
          obtain ⟨j, hj⟩ := List.mem_iff_getElem?.mp hold
          have hne : t.thread ≠ j := by
            rintro rfl
            cases hv.symm.trans hj
          refine List.mem_of_getElem? (i := j) ?_
          rw [List.getElem?_set_ne hne, hj]
        · exact List.mem_set hlt (some g)
  · obtain ⟨hinv, hkeeps⟩ := hkept (hvs.trans (hself hv)) (hstore ▸ h.orderly.keepsQuotes_self)
    exact ⟨hinv, .inl hkeeps⟩

theorem run (h : QuoteInvariant booking config P vs) (ts : List (Turn HttpOutcome Failure)) :
    ∃ vs', QuoteInvariant booking config (Pool.run next P ts) vs' :=
  Transition.run_invariant (I := fun P ↦ ∃ vs, QuoteInvariant booking config P vs) (Pool.step next)
    (fun _ t ⟨_, hP⟩ ↦ (hP.step t).1) ⟨vs, h⟩ ts

end QuoteInvariant

/-- All forms for the intent that have not expired stand, if it has no hold. -/
def FormsStand (id : ℕ) (P : QuotePool) : Prop :=
  ¬P.store.HasHold id → ∀ form, Unexpired id P form → Stands form P.store

section Steps

variable {booking : ℕ → Option ℕ} {config : LockConfig} {id : ℕ} {P : QuotePool}
  {vs : List (Option LockPaymentIntentResponse)} {t : Turn HttpOutcome Failure}

theorem honoursForms_iff (payfast : PayFastConfig) (h : QuoteInvariant booking config P vs) :
    HonoursForms payfast id P ↔ FormsStand id P := by
  refine forall_congr' fun hfree ↦ forall_congr' fun form ↦ forall_congr' fun hform ↦ ?_
  refine honours_iff h.orderly ?_ (h.reference hform.returned)
  rw [hform.id]
  exact hfree

/-- A step that changes nothing for the intent, and returns no form for it. -/
theorem formsStand_of_same (hstand : FormsStand id P)
    (htime : P.store.clock ≤ (Pool.step next P t).store.clock)
    (hquote : (Pool.step next P t).store.quoteOf id = P.store.quoteOf id)
    (hhold : P.store.HasHold id → (Pool.step next P t).store.HasHold id)
    (hreturned : ∀ g, g.id = id → Returned (Pool.step next P t) g → Returned P g) :
    FormsStand id (Pool.step next P t) ∧ KeepsForms id P t := by
  have hbefore : ∀ {g}, Unexpired id (Pool.step next P t) g → Unexpired id P g :=
    fun hg ↦ ⟨hreturned _ hg.id hg.returned, hg.id, htime.trans_lt hg.early⟩
  refine ⟨fun hfree g hg ↦ ?_, fun hfree ↦ ⟨fun g _ ↦ ?_, fun g hg ↦ ?_⟩⟩
  · obtain ⟨amount, fee, hstored, hterms⟩ := hstand (fun h ↦ hfree (hhold h)) g (hbefore hg)
    refine ⟨amount, fee, ?_, hterms⟩
    rw [hg.id] at hstored ⊢
    rw [hquote, hstored]
  · rw [Store.lockedAmount_eq, Store.lockedAmount_eq, hquote]
  · obtain ⟨amount, fee, hstored, -, hwithin⟩ := hstand hfree g (hbefore hg)
    refine ⟨amount, fee, ?_, hwithin⟩
    rw [hg.id] at hstored
    rw [hquote, hstored]

/-- The forms still stand after a step exactly if the step keeps them. -/
theorem formsStand_step_iff (h : QuoteInvariant booking config P vs) (hstand : FormsStand id P)
    (htime : P.store.clock ≤ (Pool.step next P t).store.clock) :
    FormsStand id (Pool.step next P t) ↔ KeepsForms id P t := by
  obtain ⟨-, ⟨hkeeps, hreturned⟩ | ⟨form, hquotes, hreturned⟩⟩ := h.step t
  · obtain ⟨hafter, hstep⟩ := formsStand_of_same hstand htime (hkeeps.quoteOf id)
      (hkeeps.hasHold id) fun g _ ↦ (hreturned g).mp
    exact iff_of_true hafter hstep
  · by_cases hid : form.id = id
    · have hclock := hquotes.clock
      have hhold := hquotes.hasHold_iff id
      obtain ⟨amount, fee, hstored, hamount⟩ := hquotes.quoteOf_self
      rw [hid] at hstored
      have hlocked : (Pool.step next P t).store.lockedAmount id = some amount := by
        rw [Store.lockedAmount_eq, hstored]
        rfl
      constructor
      · intro hafter hfree
        have hfree' : ¬(Pool.step next P t).store.HasHold id := fun h ↦ hfree (hhold.mp h)
        refine ⟨fun g hg ↦ ?_, fun g hg ↦ ?_⟩
        · -- the form stands before and after, for amounts with the same numeral
          have hg' : Unexpired id (Pool.step next P t) g :=
            ⟨(hreturned g).mpr (.inl hg.returned), hg.id, hclock.trans_lt hg.early⟩
          obtain ⟨amount', fee', hstored', hamount', hfee', hle'⟩ := hafter hfree' g hg'
          obtain ⟨old, oldFee, hold, holdAmount, holdFee, hole⟩ := hstand hfree g hg
          rw [hg.id] at hstored' hold
          obtain ⟨n, rfl⟩ := Int.eq_ofNat_of_zero_le (hfee'.trans hle')
          obtain ⟨m, rfl⟩ := Int.eq_ofNat_of_zero_le (holdFee.trans hole)
          rw [Store.lockedAmount_eq, Store.lockedAmount_eq, hstored', hold,
            centsToMajorString_inj (hamount'.trans holdAmount.symm)]
          rfl
        · obtain ⟨amount', fee', hstored', -, hwithin⟩ := hafter hfree' g hg
          rw [hg.id] at hstored'
          exact ⟨amount', fee', hstored', hwithin⟩
      · intro hstep hfree' g hg
        have hfree : ¬P.store.HasHold id := fun h ↦ hfree' (hhold.mpr h)
        obtain ⟨hsame, hfee⟩ := hstep hfree
        obtain ⟨amount', fee', hstored', hwithin⟩ := hfee g hg
        cases hstored.symm.trans hstored'
        refine ⟨amount, fee, hg.id ▸ hstored, ?_, hwithin⟩
        rcases (hreturned g).mp hg.returned with hold | rfl
        · have hg' : Unexpired id P g := ⟨hold, hg.id, hclock.symm.trans_lt hg.early⟩
          obtain ⟨old, oldFee, holdStored, holdAmount, -⟩ := hstand hfree g hg'
          rw [hg.id] at holdStored
          have hlocked' := hsame g hg'
          rw [hlocked, Store.lockedAmount_eq, holdStored] at hlocked'
          cases hlocked'
          exact holdAmount
        · exact hamount
    · have hother : ∀ g, g.id = id → Returned (Pool.step next P t) g → Returned P g := by
        intro g hgid hg
        rcases (hreturned g).mp hg with hold | rfl
        · exact hold
        · exact absurd hgid hid
      obtain ⟨hafter, hstep⟩ := formsStand_of_same hstand htime
        (hquotes.quoteOf_of_ne (Ne.symm hid)) (hquotes.hasHold_iff id).mpr hother
      exact iff_of_true hafter hstep

end Steps

/-- In a run of locks, changes of the rates and notifications, all forms for an intent are honoured
until they expire, as long as it has no hold, exactly if no lock stores another amount for it while
a form has not expired, or a fee that is not within the amount. -/
theorem forms_honoured_iff (quotient : ℚ → ℚ → ℚ) (payfast : PayFastConfig) (config : LockConfig)
    {booking : ℕ → Option ℕ} {s : Store} (hs : s.Orderly booking) (calls : List QuoteCall) (id : ℕ)
    {ts : List (Turn HttpOutcome Failure)}
    (htime : Transition.Along (Pool.step next)
      (fun P t ↦ P.store.clock ≤ (Pool.step next P t).store.clock)
      (QuoteCall.pool quotient payfast config s calls) ts) :
    Transition.Along (Pool.step next) (KeepsForms id)
        (QuoteCall.pool quotient payfast config s calls) ts ↔
      ∀ ts', ts' <+: ts → HonoursForms payfast id
        (Pool.run next (QuoteCall.pool quotient payfast config s calls) ts') := by
  have hpool := QuoteInvariant.pool quotient payfast config hs calls
  have hstart : HonoursForms payfast id (QuoteCall.pool quotient payfast config s calls) := by
    intro _ form hform
    obtain ⟨call, -, hnone⟩ := List.mem_map.mp (hpool.returned_iff.mp hform.returned)
    cases hnone
  refine Transition.Along.iff_invariant_of (J := fun P ↦ ∃ vs, QuoteInvariant booking config P vs)
    ?_ ?_ ⟨_, hpool⟩ hstart htime
  · rintro P t - ⟨vs, hP⟩
    exact (hP.step t).1
  · rintro P t ht ⟨vs, hP⟩ hhonours
    obtain ⟨vs', hP'⟩ := (hP.step t).1
    rw [honoursForms_iff payfast hP']
    exact formsStand_step_iff hP ((honoursForms_iff payfast hP).mp hhonours) ht

namespace Sample

theorem orderly_atEighteen : atEighteen.Orderly
    fun id ↦ (Table.find PaymentIntent.id id [dollars]).map PaymentIntent.bookingId :=
  ((Store.Orderly.empty 0 10 (by decide) (by decide)).keepsQuotes_rates 0 atEighteen.exchangeRates
    []).orderly

/-- The client locks, an admin pins the dollar to 20 rand, and the client locks again. -/
def relockCalls : List QuoteCall :=
  [.rate (.lock 1 3 []), .rate (.putOverride .usd .zar 20), .rate (.lock 1 3 [])]

def relockPool : QuotePool := QuoteCall.pool quotient config.payfast ⟨15⟩ atEighteen relockCalls

/-- One after the other. -/
def relockTurns : List (Turn HttpOutcome Failure) :=
  List.replicate 7 ⟨0, .act⟩ ++ ⟨1, .act⟩ :: List.replicate 5 ⟨2, .act⟩

end Sample

/-- A client who pays with the first of two forms, long before it expires, is refused. -/
theorem relock_refuses_form :
    ¬∀ (quotient : ℚ → ℚ → ℚ) (payfast : PayFastConfig) (config : LockConfig)
      (booking : ℕ → Option ℕ) (s : Store), s.Orderly booking → ∀ (calls : List QuoteCall) (id : ℕ)
      (ts : List (Turn HttpOutcome Failure)), Transition.Along (Pool.step next)
        (fun P t ↦ P.store.clock ≤ (Pool.step next P t).store.clock)
        (QuoteCall.pool quotient payfast config s calls) ts →
      HonoursForms payfast id
        (Pool.run next (QuoteCall.pool quotient payfast config s calls) ts) := by
  intro h
  have htime : Transition.Along (Pool.step next)
      (fun P t ↦ P.store.clock ≤ (Pool.step next P t).store.clock) Sample.relockPool
      Sample.relockTurns := by
    refine ⟨?_, ?_, ?_, ?_, ?_, ?_, ?_, ?_, ?_, ?_, ?_, ?_, ?_, trivial⟩
    all_goals exact Nat.le_refl 0
  have hhonours := h Sample.quotient Sample.config.payfast ⟨15⟩ _ Sample.atEighteen
    Sample.orderly_atEighteen Sample.relockCalls 1 Sample.relockTurns htime
  obtain ⟨vs, hinv⟩ := (QuoteInvariant.pool Sample.quotient Sample.config.payfast ⟨15⟩
    Sample.orderly_atEighteen Sample.relockCalls).run Sample.relockTurns
  have hstand := (honoursForms_iff Sample.config.payfast hinv).mp hhonours
  have hfree : ¬(Pool.run next Sample.relockPool Sample.relockTurns).store.HasHold 1 := by
    rintro ⟨hold, hmem, -⟩
    cases hmem
  obtain ⟨amount, fee, hstored, hnumeral, -⟩ := hstand hfree _ ⟨⟨0, rfl⟩, rfl, by decide⟩
  have hlocked : some (roundHalfToEven (Decimal.mul 10000 (rateColumn 20))) = some amount :=
    congrArg (fun quote ↦ quote.bind Prod.fst) hstored
  have hsecond : roundHalfToEven (Decimal.mul 10000 (rateColumn 20)) = (200000 : ℕ) := by
    decide +kernel
  have hfirst : roundHalfToEven (Decimal.mul 10000 18) = (180000 : ℕ) := by decide +kernel
  change centsToMajorString amount = centsToMajorString (roundHalfToEven (Decimal.mul 10000 18))
    at hnumeral
  rw [← Option.some.inj hlocked, hsecond, hfirst] at hnumeral
  cases centsToMajorString_inj hnumeral

/-- A lock that nothing follows. -/
theorem forms_honoured_iff_sample :
    HonoursForms Sample.config.payfast 1
      (Pool.run next (QuoteCall.pool Sample.quotient Sample.config.payfast ⟨15⟩ Sample.atEighteen
        [.rate (.lock 1 3 [])]) (List.replicate 7 ⟨0, .act⟩)) := by
  have htime : Transition.Along (Pool.step next)
      (fun P t ↦ P.store.clock ≤ (Pool.step next P t).store.clock)
      (QuoteCall.pool Sample.quotient Sample.config.payfast ⟨15⟩ Sample.atEighteen
        [.rate (.lock 1 3 [])]) (List.replicate 7 ⟨0, .act⟩) := by
    refine ⟨?_, ?_, ?_, ?_, ?_, ?_, ?_, trivial⟩
    all_goals exact Nat.le_refl 0
  refine (forms_honoured_iff Sample.quotient Sample.config.payfast ⟨15⟩ Sample.orderly_atEighteen
    [.rate (.lock 1 3 [])] 1 htime).mp ?_ _ List.prefix_rfl
  have hnone : ∀ {P : QuotePool} {p : Service (Option LockPaymentIntentResponse)} {form},
      P.threads = [p] → (∀ form, p ≠ .ret (some form)) → ¬Unexpired 1 P form := by
    rintro P p form hthreads hp ⟨⟨i, hi⟩, -, -⟩
    rw [hthreads] at hi
    cases i with
    | zero => exact hp form (Option.some.inj hi)
    | succ i => cases hi
  have hrunning : ∀ {P : QuotePool} {t : Turn HttpOutcome Failure}
      {p p' : Service (Option LockPaymentIntentResponse)}, P.threads = [p] →
      (Pool.step next P t).threads = [p'] → (∀ form, p ≠ .ret (some form)) →
      (∀ form, p' ≠ .ret (some form)) → KeepsForms 1 P t :=
    fun h h' hp hp' _ ↦ ⟨fun _ hform ↦ absurd hform (hnone h hp),
      fun _ hform ↦ absurd hform (hnone h' hp')⟩
  refine ⟨?_, ?_, ?_, ?_, ?_, ?_, ?_, trivial⟩
  rotate_right
  · refine fun _ ↦ ⟨fun _ hform ↦ absurd hform (hnone rfl fun _ h ↦ by cases h), fun _ _ ↦ ?_⟩
    exact ⟨_, _, rfl, by decide +kernel, by decide +kernel⟩
  all_goals exact hrunning rfl rfl (fun _ h ↦ by cases h) fun _ h ↦ by cases h

end GearshPayments