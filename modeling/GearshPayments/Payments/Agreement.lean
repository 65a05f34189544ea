import GearshPayments.System

/-!
# The state of an intent and its hold

Notifications and development completions are handled one after the other, in any
order, repeated or contradictory, each with its own refusals of the database.
`commitComplete` writes the state of the intent together with its hold, so what it
commits keeps the two in agreement; `commitFailed` writes the state alone, and keeps
them in agreement only for an intent without a hold.
-/

namespace GearshPayments

open Resumption PayFastWebhookService

/-- What arrives for payment intents. -/
inductive IntentCall where
  | itn (normalised : NormalisedItn) (traceparent tracestate : Option String)
  | devComplete (production : Bool) (intentId callerUserId : ℕ) (callerRoles : List String)

def IntentCall.program (config : PayFastConfig) : IntentCall → Service Unit
  | .itn normalised traceparent tracestate => handle config normalised traceparent tracestate
  | .devComplete production intentId callerUserId callerRoles =>
    PayFastWebhookService.devComplete production intentId callerUserId callerRoles

/-- What a notification is matched with: the locked amount, and the fee. -/
def PaymentIntent.quote (i : PaymentIntent) : Option ℤ × Except Failure ℤ :=
  (i.zarAmountCentsLocked, zarFee i)

/-! ## What the programs commit -/

namespace PayFastWebhookService

/-- A notification matches the intent that was found for it, and its amount is the locked one. -/
theorem of_matchIntent {found : Option PaymentIntent} {intent : PaymentIntent} {zarAmount fee : ℤ}
    (h : matchIntent normalised found = .ok (intent, zarAmount, fee)) :
    found = some intent ∧ intent.quote = (some zarAmount, .ok fee) ∧
      normalised.amountGross = centsToMajorString zarAmount := by
  cases found with
  | none => cases h
  | some i =>
      rw [matchIntent] at h
      dsimp only at h
      split at h
      · cases h
      · next amount hamount =>
          split at h
          · cases h
          · next hgross =>
              cases hfee : zarFee i with
              | error e =>
                  rw [hfee] at h
                  cases h
              | ok fee' =>
                  rw [hfee] at h
                  cases h
                  refine ⟨rfl, ?_, not_not.mp hgross⟩
                  rw [PaymentIntent.quote, hamount, hfee]

theorem matchIntent_of_quote {intent : PaymentIntent} {zarAmount fee : ℤ}
    (h : intent.quote = (some zarAmount, .ok fee))
    (hgross : normalised.amountGross = centsToMajorString zarAmount) :
    matchIntent normalised (some intent) = .ok (intent, zarAmount, fee) := by
  obtain ⟨hamount, hfee⟩ := Prod.mk.inj h
  rw [matchIntent]
  dsimp only
  split
  · next hnone =>
      rw [hnone] at hamount
      cases hamount
  · next amount hsome =>
      cases hsome.symm.trans hamount
      rw [if_neg (not_not.mpr hgross), hfee]
      rfl

theorem found_of_matchIntent {found : Option PaymentIntent} {intent : PaymentIntent}
    {zarAmount fee : ℤ} (h : matchIntent normalised found = .ok (intent, zarAmount, fee)) :
    found = some intent := (of_matchIntent h).1

/-- The transaction of a notification. -/
def commit (args : CommitArgs) (zarFee : ℤ) : Tx Unit :=
  if args.paymentStatus = .complete then commitComplete args zarFee else commitFailed args

theorem commit_of_complete {args : CommitArgs} (h : args.paymentStatus = .complete) (zarFee : ℤ) :
    commit args zarFee = commitComplete args zarFee := if_pos h

theorem commit_of_ne {args : CommitArgs} (h : args.paymentStatus ≠ .complete) (zarFee : ℤ) :
    commit args zarFee = commitFailed args := if_neg h

theorem seen_commitArgs_iff (intent : PaymentIntent) (zarAmount : ℤ) (mPaymentId : EventValue)
    (pfPaymentId : String) (paymentStatus : PayFastPaymentStatus)
    (traceparent tracestate : Option String) (s : Store) :
    (commitArgs intent zarAmount mPaymentId pfPaymentId paymentStatus traceparent
      tracestate).Seen s ↔ ∃ t ∈ s.transactions, t.paymentIntentId = intent.id ∧
        t.gatewayTxnId = some pfPaymentId ∧ t.pfPaymentStatus = some paymentStatus := by
  constructor
  · rintro ⟨t, ht, hd⟩
    exact ⟨t, ht, of_decide_eq_true hd⟩
  · rintro ⟨t, ht, hd⟩
    exact ⟨t, ht, decide_eq_true hd⟩

section Programs

variable {I : Store → Prop} {G : Store → Store → Prop}

/-- A notification makes one change, for the intent it was matched with. -/
theorem guarantees_handle {normalised : NormalisedItn} (hG : ∀ s, I s → G s s)
    {traceparent tracestate : Option String}
    (hcommit : ∀ {s₀ s s' : Store} {intent : PaymentIntent} (zarAmount fee : ℤ), I s₀ →
      s₀.paymentIntent? normalised.mPaymentId = some intent → I s →
        commit (commitArgs intent zarAmount (.uuid normalised.mPaymentId) normalised.pfPaymentId
          normalised.paymentStatus traceparent tracestate) fee s = .ok ((), s') → G s s')
    (config : PayFastConfig) :
    Guarantees I G (handle config normalised traceparent tracestate) := by
  unfold handle
  dsimp only
  split
  · exact guarantees_throw _
  · refine guarantees_read_bind hG fun s₀ hs₀ ↦ ?_
    cases hm : matchIntent normalised (s₀.paymentIntent? normalised.mPaymentId) with
    | error e => exact guarantees_throw e
    | ok r =>
        obtain ⟨intent, zarAmount, fee⟩ := r
        have hfound := found_of_matchIntent hm
        rw [ofExcept_ok, ret_bind]
        dsimp only
        split
        · rename_i hc
          refine guarantees_transaction hG fun s u s' hs h ↦ hcommit zarAmount fee hs₀ hfound hs ?_
          rw [commit_of_complete hc]
          exact h
        · rename_i hc
          refine guarantees_transaction hG fun s u s' hs h ↦ hcommit zarAmount fee hs₀ hfound hs ?_
          rw [commit_of_ne hc fee]
          exact h

/-- A development completion makes one change, a capture for the intent it has read. -/
theorem guarantees_devComplete {intentId : ℕ} (hG : ∀ s, I s → G s s)
    (hcommit : ∀ {s₀ s s' : Store} {intent : PaymentIntent} {zarAmount fee : ℤ}
      {mPaymentId : EventValue}, I s₀ → s₀.paymentIntent? intentId = some intent → I s →
        commitComplete
          (commitArgs intent zarAmount mPaymentId s!"dev-{s₀.clock}" .complete none none)
          fee s = .ok ((), s') → G s s')
    (production : Bool) (callerUserId : ℕ) (callerRoles : List String) :
    Guarantees I G (devComplete production intentId callerUserId callerRoles) := by
  unfold devComplete
  split
  · exact guarantees_throw _
  · refine guarantees_read_bind hG fun s₀ hs₀ ↦ ?_
    cases hfound : s₀.paymentIntent? intentId with
    | none => exact guarantees_throw _
    | some intent =>
        dsimp only
        split
        · exact guarantees_throw _
        · split
          · trivial
          · split
            · refine (guarantees_ofExcept _).bind fun fee ↦ ?_
              exact guarantees_transaction hG fun s u s' hs h ↦ hcommit hs₀ hfound hs h
            · exact guarantees_throw _

end Programs

end PayFastWebhookService

/-- A call, at a time, with the refusals it meets. -/
structure Arrival where
  call : IntentCall
  clock : ℕ
  env : Env HttpOutcome Failure

/-- The store after a call has been handled. -/
def arrive (config : PayFastConfig) (s : Store) (a : Arrival) : Store :=
  ((a.call.program config).run a.env { s with clock := a.clock }).store

/-- The intent is `SUCCEEDED`. -/
def Store.Succeeded (s : Store) (id : ℕ) : Prop :=
  ∃ i, s.paymentIntent? id = some i ∧ i.state = .succeeded

/-- There is a hold for the intent. -/
def Store.HasHold (s : Store) (id : ℕ) : Prop := ∃ h ∈ s.escrowHolds, h.paymentIntentId = id

def Agrees (id : ℕ) (s : Store) : Prop := s.Succeeded id ↔ s.HasHold id

/-- Before anything has arrived, intents agree that have not succeeded. -/
theorem agrees_empty (clock nextId : ℕ) {intents : List PaymentIntent}
    (h : ∀ i ∈ intents, i.state ≠ .succeeded) (id : ℕ) :
    Agrees id (Store.empty clock nextId intents) := by
  constructor
  · rintro ⟨i, hi, hst⟩
    exact absurd hst (h i (Table.find_some hi).1)
  · rintro ⟨hold, hm, -⟩
    cases hm

/-! ## The two commits -/

section Commits

variable {args : CommitArgs} {s : Store} {id : ℕ}

/-- An update of one intent, seen from another. -/
theorem succeeded_update_of_ne {s s' : Store} {state : IntentState} (hne : args.intentId ≠ id)
    (h : s'.paymentIntents = Table.update PaymentIntent.id args.intentId (args.settle state)
      s.paymentIntents) : s'.Succeeded id ↔ s.Succeeded id := by
  have hsame : s'.paymentIntent? id = s.paymentIntent? id := by
    change Table.find _ _ s'.paymentIntents = _
    rw [h]
    exact Table.find_update_of_ne (f := args.settle state) (fun _ ↦ rfl) hne.symm _
  rw [Store.Succeeded, Store.Succeeded, hsame]

/-- An update of the intent itself. -/
theorem succeeded_update_self {s s' : Store} {state : IntentState}
    (hi : (s.paymentIntent? args.intentId).isSome = true)
    (h : s'.paymentIntents = Table.update PaymentIntent.id args.intentId (args.settle state)
      s.paymentIntents) : s'.Succeeded args.intentId ↔ state = .succeeded := by
  obtain ⟨i, hi⟩ := Option.isSome_iff_exists.mp hi
  have hfound : s'.paymentIntent? args.intentId = some (args.settle state i) := by
    change Table.find _ _ s'.paymentIntents = _
    rw [h]
    exact Table.find_update_self (f := args.settle state) (fun _ ↦ rfl) hi
  constructor
  · rintro ⟨i', hi', hst⟩
    cases hfound.symm.trans hi'
    exact hst
  · intro hst
    exact ⟨_, hfound, hst⟩

/-- A capture keeps the agreement: it writes both sides. -/
theorem agrees_captured {zarFee : ℤ} (hc : args.Captures zarFee s) (h : Agrees id s) :
    Agrees id (args.captured zarFee s) := by
  have hhold : (args.captured zarFee s).HasHold id ↔ s.HasHold id ∨ args.intentId = id := by
    constructor
    · rintro ⟨hold, hm, hid⟩
      rcases List.mem_append.mp hm with hm | hm
      · exact .inl ⟨hold, hm, hid⟩
      · cases List.mem_singleton.mp hm
        exact .inr hid
    · rintro (⟨hold, hm, hid⟩ | hid)
      · exact ⟨hold, List.mem_append_left _ hm, hid⟩
      · exact ⟨_, List.mem_append_right _ (List.mem_singleton.mpr rfl), hid⟩
  rw [Agrees, hhold]
  by_cases hid : args.intentId = id
  · subst hid
    rw [succeeded_update_self hc.intent rfl]
    exact iff_of_true rfl (.inr rfl)
  · rw [succeeded_update_of_ne hid rfl, or_iff_left hid]
    exact h

/-- A failure keeps the agreement unless its intent has a hold. -/
theorem agrees_recorded_iff (hi : (s.paymentIntent? args.intentId).isSome = true)
    (h : Agrees id s) : Agrees id (args.recorded s) ↔ ¬(args.intentId = id ∧ s.HasHold id) := by
  by_cases hid : args.intentId = id
  · subst hid
    have hfailed : ¬(args.recorded s).Succeeded args.intentId :=
      mt (succeeded_update_self hi rfl).mp nofun
    rw [Agrees, iff_false_left hfailed, not_and]
    exact ⟨fun hno _ ↦ hno, fun hno ↦ hno rfl⟩
  · rw [Agrees, succeeded_update_of_ne hid rfl]
    exact iff_of_true h fun hno ↦ hid hno.1

theorem agrees_of_commitComplete {zarFee : ℤ} {s' : Store} (hs : Agrees id s)
    (h : commitComplete args zarFee s = .ok ((), s')) : Agrees id s' := by
  rcases of_commitComplete_ok h with ⟨-, rfl⟩ | ⟨hc, rfl⟩
  · exact hs
  · exact agrees_captured hc hs

/-- A development completion commits nothing but captures. -/
theorem keeps_devComplete (production : Bool) (intentId callerUserId : ℕ)
    (callerRoles : List String) (id : ℕ) :
    Keeps (Agrees id) (devComplete production intentId callerUserId callerRoles) := by
  refine (guarantees_devComplete (fun _ hs ↦ hs) ?_ production callerUserId callerRoles).keeps
  intro s₀ s s' intent zarAmount fee mPaymentId _ _ hs h
  exact agrees_of_commitComplete hs h

end Commits

/-! ## Notifications -/

/-- The notification is recorded as a payment that was not completed: it matches its
intent, it has not been seen, and the database refuses neither the lookup nor the
commit. -/
structure NormalisedItn.Recorded (normalised : NormalisedItn) (config : PayFastConfig)
    (env : Env HttpOutcome Failure) (s : Store) : Prop where
  incomplete : normalised.paymentStatus ≠ .complete
  merchant : normalised.merchantId = config.merchantId.getD ""
  matched : (matchIntent normalised (s.paymentIntent? normalised.mPaymentId)).isOk = true
  unseen : ∀ t ∈ s.transactions, ¬(t.paymentIntentId = normalised.mPaymentId ∧
    t.gatewayTxnId = some normalised.pfPaymentId ∧
    t.pfPaymentStatus = some normalised.paymentStatus)
  found : env.faults 0 = none
  committed : env.faults 1 = none

section Notifications

variable {normalised : NormalisedItn} {config : PayFastConfig} {env : Env HttpOutcome Failure}
  {s : Store} {id : ℕ} {traceparent tracestate : Option String}

/-- A notification of a completed payment commits nothing but captures. -/
theorem keeps_handle (config : PayFastConfig) (hc : normalised.paymentStatus = .complete)
    (traceparent tracestate : Option String) (id : ℕ) :
    Keeps (Agrees id) (handle config normalised traceparent tracestate) := by
  refine (guarantees_handle (fun _ hs ↦ hs) ?_ config).keeps
  intro s₀ s s' intent zarAmount fee _ _ hs h
  rw [commit_of_complete hc] at h
  exact agrees_of_commitComplete hs h

/-- A failure is recorded, or it leaves nothing. -/
theorem store_commitFailed {args : CommitArgs}
    (hi : (s.paymentIntent? args.intentId).isSome = true) (env : Env HttpOutcome Failure) :
    ((env.faults 0 = none ∧ ¬args.Seen s) ∧
      ((transaction (commitFailed args) : Service Unit).run env s).store = args.recorded s) ∨
    (¬(env.faults 0 = none ∧ ¬args.Seen s) ∧
      ((transaction (commitFailed args) : Service Unit).run env s).store = s) := by
  cases h0 : env.faults 0 with
  | some e =>
      rw [run_transaction_refused h0]
      exact .inr ⟨fun h ↦ (by cases h.1), rfl⟩
  | none =>
      by_cases hs : args.Seen s
      · rw [run_transaction h0 (commitFailed_of_seen hs)]
        exact .inr ⟨fun h ↦ h.2 hs, rfl⟩
      · rw [run_transaction h0 (commitFailed_of_not_seen hs hi)]
        exact .inl ⟨⟨rfl, hs⟩, rfl⟩

/-- The time plays no part in it. -/
theorem recorded_tick {clock : ℕ} : normalised.Recorded config env { s with clock } ↔
    normalised.Recorded config env s := by
  constructor
  · rintro ⟨hi, hm, hmatch, hu, h0, h1⟩
    exact ⟨hi, hm, hmatch, hu, h0, h1⟩
  · rintro ⟨hi, hm, hmatch, hu, h0, h1⟩
    exact ⟨hi, hm, hmatch, hu, h0, h1⟩

/-- What a notification of a payment that was not completed leaves: the record of the
failure, or nothing. -/
theorem store_handle (config : PayFastConfig) (env : Env HttpOutcome Failure) (s : Store)
    (traceparent tracestate : Option String) (hi : normalised.paymentStatus ≠ .complete) :
    (∃ args : CommitArgs, normalised.Recorded config env s ∧
      args.intentId = normalised.mPaymentId ∧ (s.paymentIntent? args.intentId).isSome = true ∧
      ((handle config normalised traceparent tracestate).run env s).store = args.recorded s) ∨
    (¬normalised.Recorded config env s ∧
      ((handle config normalised traceparent tracestate).run env s).store = s) := by
  unfold handle
  dsimp only
  by_cases hm : normalised.merchantId = config.merchantId.getD ""
  · rw [if_neg (not_not.mpr hm)]
    cases h0 : env.faults 0 with
    | some e =>
        rw [run_bind_error (run_read_refused h0 _ s)]
        exact .inr ⟨fun hr ↦ (by cases h0.symm.trans hr.found), rfl⟩
    | none =>
        rw [run_bind_ok_nil (run_read h0 _ s)]
        cases hmatch : matchIntent normalised (s.paymentIntent? normalised.mPaymentId) with
        | error e =>
            refine .inr ⟨fun hr ↦ ?_, rfl⟩
            have hok := hr.matched
            rw [hmatch] at hok
            cases hok
        | ok r =>
            obtain ⟨intent, zarAmount, fee⟩ := r
            have hfound := found_of_matchIntent hmatch
            have hid : intent.id = normalised.mPaymentId := (Table.find_some hfound).2
            rw [ofExcept_ok, ret_bind]
            dsimp only
            rw [if_neg hi]
            let args := commitArgs intent zarAmount (.uuid normalised.mPaymentId)
              normalised.pfPaymentId normalised.paymentStatus traceparent tracestate
            have hexists : (s.paymentIntent? args.intentId).isSome = true := by
              change (s.paymentIntent? intent.id).isSome = true
              rw [hid, hfound]
              rfl
            rcases store_commitFailed hexists env.afterAction with
              ⟨⟨h1, hunseen⟩, hstore⟩ | ⟨hno, hstore⟩
            · refine .inl ⟨args, ⟨hi, hm, ?_, fun t ht hdup ↦ hunseen ?_, h0, h1⟩, hid, hexists,
                hstore⟩
              · rw [hmatch]
                rfl
              · exact (seen_commitArgs_iff ..).mpr ⟨t, ht, hid ▸ hdup⟩
            · refine .inr ⟨fun hr ↦ hno ⟨hr.committed, fun hs ↦ ?_⟩, hstore⟩
              obtain ⟨t, ht, hdup⟩ := (seen_commitArgs_iff ..).mp hs
              exact hr.unseen t ht (hid ▸ hdup)
  · rw [if_pos hm]
    exact .inr ⟨fun hr ↦ hm hr.merchant, rfl⟩

/-- A notification keeps the agreement unless it is recorded as a failure for an intent
that has a hold. -/
theorem agrees_handle_iff (config : PayFastConfig) (env : Env HttpOutcome Failure)
    (traceparent tracestate : Option String) (h : Agrees id s) :
    Agrees id ((handle config normalised traceparent tracestate).run env s).store ↔
      ¬(normalised.mPaymentId = id ∧ normalised.Recorded config env s ∧ s.HasHold id) := by
  by_cases hc : normalised.paymentStatus = .complete
  · have hkeeps := (keeps_handle config hc traceparent tracestate id).run h env
    exact iff_of_true hkeeps fun hno ↦ hno.2.1.incomplete hc
  · rcases store_handle config env s traceparent tracestate hc with
      ⟨args, hr, hid, hi, hstore⟩ | ⟨hr, hstore⟩
    · rw [hstore, agrees_recorded_iff hi h, hid]
      exact not_congr ⟨fun h ↦ ⟨h.1, hr, h.2⟩, fun h ↦ ⟨h.1, h.2.2⟩⟩
    · rw [hstore]
      exact iff_of_true h fun hno ↦ hr hno.2.1

end Notifications

/-! ## Runs -/

/-- The call is a notification that is recorded as a failure for the intent, which has a
hold already. -/
def Arrival.Overwrites (config : PayFastConfig) (id : ℕ) (s : Store) (a : Arrival) : Prop :=
  match a.call with
  | .itn normalised _ _ =>
    normalised.mPaymentId = id ∧ normalised.Recorded config a.env s ∧ s.HasHold id
  | .devComplete .. => False

theorem agrees_arrive_iff (config : PayFastConfig) {id : ℕ} (s : Store) (a : Arrival)
    (h : Agrees id s) : Agrees id (arrive config s a) ↔ ¬a.Overwrites config id s := by
  obtain ⟨call, clock, env⟩ := a
  have hs : Agrees id { s with clock } := h
  cases call with
  | itn normalised traceparent tracestate =>
      refine (agrees_handle_iff config env traceparent tracestate hs).trans (not_congr ?_)
      rw [recorded_tick]
      exact Iff.rfl
  | devComplete production intentId callerUserId callerRoles =>
      have hkeeps := (keeps_devComplete production intentId callerUserId callerRoles id).run hs env
      exact iff_of_true hkeeps fun hno ↦ hno

/-- An intent and its holds agree after every call, whatever arrives for whichever
intents, exactly when no notification is recorded as a failure once the intent has a
hold. -/
theorem intent_agrees_iff (config : PayFastConfig) {id : ℕ} {s : Store} (hs : Agrees id s)
    (as : List Arrival) :
    (∀ as', as' <+: as → Agrees id (Transition.run (arrive config) s as')) ↔
      Transition.Along (arrive config) (fun s a ↦ ¬a.Overwrites config id s) s as :=
  (Transition.Along.iff_invariant (fun s a h ↦ agrees_arrive_iff config s a h) hs).symm

namespace Sample

/-- A notification about the intent, undisturbed. -/
def notification (paymentStatus : PayFastPaymentStatus) : Arrival where
  call := .itn
    { pfPaymentId := "pf-1"
      mPaymentId := 1
      paymentStatus
      amountGross := "10.00"
      merchantId := "10000100" } none none
  clock := 0
  env := .healthy pays

/-- Nothing has been paid yet. -/
def unpaid : Store := Store.empty 0 10 [intent]

theorem agrees_unpaid : Agrees 1 unpaid := by
  refine agrees_empty 0 10 (fun i hi ↦ ?_) 1
  cases List.mem_singleton.mp hi
  decide

end Sample

theorem intent_agrees_iff_sample :
    (∀ as', as' <+: [Sample.notification .failed, Sample.notification .complete] →
      Agrees 1 (Transition.run (arrive Sample.config.payfast) Sample.unpaid as')) ↔
    Transition.Along (arrive Sample.config.payfast)
      (fun s a ↦ ¬a.Overwrites Sample.config.payfast 1 s) Sample.unpaid
      [Sample.notification .failed, Sample.notification .complete] :=
  intent_agrees_iff Sample.config.payfast Sample.agrees_unpaid _

/-- A completed payment that is reported as failed afterwards: the hold stays, and the
intent is `FAILED`. -/
theorem intent_disagrees :
    ¬∀ (config : PayFastConfig) (id : ℕ) (s : Store) (as : List Arrival), Agrees id s →
      (∀ a ∈ as, ∃ normalised : NormalisedItn, a.call = .itn normalised none none ∧
        normalised.mPaymentId = id ∧ normalised.merchantId = config.merchantId.getD "" ∧
        (matchIntent normalised (s.paymentIntent? id)).isOk = true) →
      ∀ as', as' <+: as → Agrees id (Transition.run (arrive config) s as') := by
  intro h
  have hagrees := h Sample.config.payfast 1 Sample.unpaid
    [Sample.notification .complete, Sample.notification .failed] Sample.agrees_unpaid
    (by
      intro a ha
      rcases List.mem_pair.mp ha with rfl | rfl
      · exact ⟨_, rfl, rfl, rfl, rfl⟩
      · exact ⟨_, rfl, rfl, rfl, rfl⟩) _ List.prefix_rfl
  have hholds : (Transition.run (arrive Sample.config.payfast) Sample.unpaid
      [Sample.notification .complete, Sample.notification .failed]).escrowHolds =
        [Sample.payment.hold 100 11 0] := rfl
  have hstate : ((Transition.run (arrive Sample.config.payfast) Sample.unpaid
      [Sample.notification .complete, Sample.notification .failed]).paymentIntent? 1).map
        PaymentIntent.state = some .failed := rfl
  obtain ⟨i, hi, hst⟩ := hagrees.mpr
    ⟨Sample.payment.hold 100 11 0, by rw [hholds]; exact .head _, rfl⟩
  rw [hi, Option.map_some, hst] at hstate
  cases hstate

end GearshPayments
