import GearshPayments.Payments.Lock
import GearshPayments.Resumption.Knowledge

/-!
# Creating an intent twice

`payment-intents.service.ts`: `create`.  A booking has one intent.  A second request for it
is answered with the intent that is there, if it is for the same client and the same total
and can still be paid.  The request may find that out before it tries to create its own
intent, or when the unique booking id refuses that; the two tests are written differently and
accept the same intents (`matchesRetry_eq`).  Neither looks at the artist, the currency, the
subtotal or the fee.
-/

namespace GearshPayments

/-- An amount in a request: an integer that is not negative, and a JavaScript number. -/
structure RequestAmount where
  cents : ℕ
  isNumber : number cents = cents
deriving DecidableEq

structure CreatePaymentIntentDto where
  bookingId : ℕ
  clientId : ℕ
  artistId : ℕ
  subtotalCents : RequestAmount
  currency : Currency
  serviceFeeCents : Option RequestAmount
  totalCents : RequestAmount
  clientCurrency : Option Currency
  idempotencyKey : Option String
deriving DecidableEq

structure PaymentIntentView where
  id : ℕ
  bookingId : ℕ
  state : IntentState
  currency : Currency
  clientCurrency : Currency
  subtotalCents : ℤ
  serviceFeeCents : ℤ
  totalCents : ℤ
  quotedZarAmountCents : Option ℤ
  zarAmountCentsLocked : Option ℤ
  zarServiceFeeCentsLocked : Option ℤ
  zarRateLocked : Option ℚ
  zarLockedAt : Option ℕ
  lockExpiresAt : Option ℕ
  createdAt : ℕ
deriving DecidableEq

/-- `config`, as far as `create` reads it. -/
structure CreateConfig where
  serviceFeePercent : ℚ

/-- The intent of a booking. -/
def Store.intentOfBooking? (s : Store) (bookingId : ℕ) : Option PaymentIntent :=
  Table.find PaymentIntent.bookingId bookingId s.paymentIntents

namespace PaymentIntentsService

def deriveServiceFee (config : CreateConfig) (subtotalCents : ℤ) : ℤ :=
  let product := Decimal.mul subtotalCents config.serviceFeePercent
  roundHalfToEven (Decimal.round20 (product / 100))

/-- The fee of a request: what it says, or a share of the subtotal. -/
def serviceFee (config : CreateConfig) (input : CreatePaymentIntentDto) : ℤ :=
  match input.serviceFeeCents with
  | some fee => fee.cents
  | none => deriveServiceFee config input.subtotalCents.cents

def toView (intent : PaymentIntent) : PaymentIntentView where
  id := intent.id
  bookingId := intent.bookingId
  state := intent.state
  currency := intent.currency
  clientCurrency := intent.clientCurrency
  subtotalCents := number intent.subtotalCents
  serviceFeeCents := number intent.serviceFeeCents
  totalCents := number intent.totalCents
  quotedZarAmountCents := intent.quotedZarAmountCents.map number
  zarAmountCentsLocked := intent.zarAmountCentsLocked.map number
  zarServiceFeeCentsLocked := intent.zarServiceFeeCentsLocked.map number
  zarRateLocked := intent.zarRateLocked
  zarLockedAt := intent.zarLockedAt
  lockExpiresAt := intent.lockExpiresAt
  createdAt := intent.createdAt

/-- The row of a request. -/
def createdRow (config : CreateConfig) (input : CreatePaymentIntentDto) (quotedZarAmountCents : ℤ)
    (id createdAt : ℕ) : PaymentIntent where
  id := id
  bookingId := input.bookingId
  userId := input.clientId
  artistId := input.artistId
  subtotalCents := input.subtotalCents.cents
  serviceFeeCents := serviceFee config input
  totalCents := input.totalCents.cents
  currency := input.currency
  clientCurrency := input.clientCurrency.getD input.currency
  pfPaymentId := none
  mPaymentId := none
  state := .created
  quotedZarAmountCents := some quotedZarAmountCents
  zarAmountCentsLocked := none
  zarServiceFeeCentsLocked := none
  zarRateLocked := none
  idempotencyKey := input.idempotencyKey
  createdAt := createdAt

/-- `payments.intent.created`. -/
def createdNotice (row : PaymentIntent) : EnqueueInput where
  aggregateType := "PaymentIntent"
  aggregateId := row.id
  type := .paymentsIntentCreated
  subject := s!"payment-intents/{row.id}"
  data := [("paymentIntentId", .uuid row.id), ("bookingId", .uuid row.bookingId),
    ("clientId", .uuid row.userId), ("artistId", .uuid row.artistId),
    ("totalCents", .cents row.totalCents), ("serviceFeeCents", .cents row.serviceFeeCents),
    ("currency", .currency row.currency)] ++
    (match row.mPaymentId with
      | some mPaymentId => if mPaymentId = "" then [] else [("mPaymentId", .str mPaymentId)]
      | none => []) ++
    [("createdAt", .date row.createdAt)]
  traceparent := none
  tracestate := none

/-- The row and its announcement, in one transaction. -/
def insertIntent (config : CreateConfig) (input : CreatePaymentIntentDto)
    (quotedZarAmountCents : ℤ) :
    Tx PaymentIntent := do
  let row ← Tx.createPaymentIntent (createdRow config input quotedZarAmountCents)
  discard <| OutboxService.enqueue (createdNotice row)
  return row

/-- The intent can still be paid. -/
def payable (state : IntentState) : Bool := state = .created ∨ state = .locked

/-- The test of an intent that was there from the start. -/
def matchesRequest (input : CreatePaymentIntentDto) (existing : PaymentIntent) : Bool :=
  existing.userId = input.clientId ∧ existing.totalCents = input.totalCents.cents ∧
    payable existing.state

/-- The test of an intent that was in the way of a new one. -/
def matchesRetry (input : CreatePaymentIntentDto) (existing : PaymentIntent) : Bool :=
  existing.userId = input.clientId ∧ number existing.totalCents = input.totalCents.cents ∧
    payable existing.state

def alreadyExists (bookingId : ℕ) : Failure :=
  Failure.withDetail .paymentIntentExistsForBooking
    s!"A payment intent already exists for booking {bookingId}."

/-- After a unique constraint has refused the row. -/
def retry (input : CreatePaymentIntentDto) : Service PaymentIntentView := do
  match ← Resumption.read fun s ↦ s.intentOfBooking? input.bookingId with
  | none => throw (alreadyExists input.bookingId)
  | some existing =>
    if matchesRetry input existing then return toView existing
    else throw (alreadyExists input.bookingId)

/-- What remains of a request for a booking without an intent. -/
def createNew (config : CreateConfig) (input : CreatePaymentIntentDto) :
    Service PaymentIntentView := do
  let quoted ← FxService.convertCurrency input.totalCents.cents input.currency .zar
  tryCatchThe Failure
    (toView <$> Resumption.transaction (insertIntent config input quoted.amountCents))
    fun err ↦ if err = .prisma .p2002 then retry input else throw err

def create (config : CreateConfig) (input : CreatePaymentIntentDto) :
    Service PaymentIntentView := do
  if (input.subtotalCents.cents : ℤ) + serviceFee config input ≠ input.totalCents.cents then
    throw (Failure.withDetail .validationFailed
      "totalCents must equal subtotalCents + serviceFeeCents.")
  match ← Resumption.read fun s ↦ s.intentOfBooking? input.bookingId with
  | some existing =>
    if matchesRequest input existing then return toView existing
    else throw (alreadyExists input.bookingId)
  | none => createNew config input

end PaymentIntentsService

open Resumption PaymentIntentsService

/-! ## What becomes of intents -/

/-- The columns that a request fixes. -/
structure PaymentIntent.SameRequest (i i' : PaymentIntent) : Prop where
  id : i'.id = i.id
  bookingId : i'.bookingId = i.bookingId
  userId : i'.userId = i.userId
  totalCents : i'.totalCents = i.totalCents

namespace Store

/-- The totals of intents are JavaScript numbers. -/
def NumberTotals (s : Store) : Prop :=
  ∀ i ∈ s.paymentIntents, number i.totalCents = i.totalCents

/-- The intent of a booking stays what its request made it. -/
structure IntentsKept (s s' : Store) : Prop where
  totals : s.NumberTotals → s'.NumberTotals
  kept : ∀ {bookingId : ℕ} {i : PaymentIntent}, s.intentOfBooking? bookingId = some i →
    ∃ i', s'.intentOfBooking? bookingId = some i' ∧ i.SameRequest i'

namespace IntentsKept

variable {s s' : Store}

theorem of_eq (h : s'.paymentIntents = s.paymentIntents) : s.IntentsKept s' where
  totals := by
    intro hs i hi
    rw [h] at hi
    exact hs i hi
  kept := by
    intro bookingId i hi
    refine ⟨i, ?_, ⟨rfl, rfl, rfl, rfl⟩⟩
    rwa [intentOfBooking?, h]

theorem of_update {id : ℕ} {f : PaymentIntent → PaymentIntent}
    (h : s'.paymentIntents = Table.update PaymentIntent.id id f s.paymentIntents)
    (hf : ∀ i : PaymentIntent, i.SameRequest (f i)) : s.IntentsKept s' where
  totals := by
    intro hs i hi
    rw [h] at hi
    obtain ⟨x, hx, rfl⟩ := Table.mem_update.mp hi
    split
    · rw [(hf x).totalCents]
      exact hs x hx
    · exact hs x hx
  kept := by
    intro bookingId i hi
    have hbooking : ∀ r : PaymentIntent,
        (if r.id = id then f r else r).bookingId = r.bookingId := by
      intro r
      split
      · exact (hf r).bookingId
      · rfl
    have hfind : s'.intentOfBooking? bookingId = (s.intentOfBooking? bookingId).map fun r ↦
        if r.id = id then f r else r := by
      rw [intentOfBooking?, h]
      exact Table.find_map hbooking bookingId s.paymentIntents
    refine ⟨if i.id = id then f i else i, by rw [hfind, hi]; rfl, ?_⟩
    split
    · exact hf i
    · exact ⟨rfl, rfl, rfl, rfl⟩

theorem of_append {i : PaymentIntent} (hi : number i.totalCents = i.totalCents)
    (h : s'.paymentIntents = s.paymentIntents ++ [i]) : s.IntentsKept s' where
  totals := by
    intro hs x hx
    rw [h] at hx
    rcases List.mem_append.mp hx with hx | hx
    · exact hs x hx
    · rw [List.mem_singleton.mp hx]
      exact hi
  kept := by
    intro bookingId x hx
    refine ⟨x, ?_, ⟨rfl, rfl, rfl, rfl⟩⟩
    rw [intentOfBooking?, h, Table.find_append]
    exact congrArg (Option.or · _) hx

theorem refl (s : Store) : s.IntentsKept s := of_eq rfl

end IntentsKept

end Store

theorem LockWrites.intentsKept {id : ℕ} {s s' : Store} (h : LockWrites id s s') :
    s.IntentsKept s' := by
  rcases h with rfl | ⟨config, locked, lockedFee, mPaymentId, now, -, rfl⟩
  · exact .refl _
  · exact .of_update rfl fun _ ↦ ⟨rfl, rfl, rfl, rfl⟩

theorem Settles.intentsKept {s s' : Store} (h : Settles s s') : s.IntentsKept s' := by
  cases h with
  | nothing intents transactions holds => exact .of_eq intents
  | charge settled found intents transactions charged holds =>
      exact .of_update intents fun _ ↦ ⟨rfl, rfl, rfl, rfl⟩

/-- Locks and notifications keep what a request has made of an intent. -/
theorem LockCall.guarantees_intentsKept (config : PayFastConfig) (lockConfig : LockConfig)
    (call : LockCall) :
    Guarantees (fun _ ↦ True) Store.IntentsKept (call.program config lockConfig) := by
  cases call with
  | lock id user roles =>
      exact (guarantees_lock lockConfig id user roles).discard.mono (fun _ h ↦ h)
        fun _ _ _ h ↦ h.intentsKept
  | intent call =>
      exact (guarantees_intentCall config call).mono (fun _ h ↦ h) fun _ _ _ h ↦ h.intentsKept
  | rates clock exchangeRates overrides => exact ⟨fun s _ ↦ ⟨.of_eq rfl, trivial⟩, fun _ ↦ trivial⟩

/-! ## What a request is answered with -/

/-- The view is of the intent of the booking, which is for the client and the total of the
request. -/
structure Answers (input : CreatePaymentIntentDto) (view : PaymentIntentView)
    (s : Store) : Prop where
  intent : ∃ intent, s.intentOfBooking? input.bookingId = some intent ∧ intent.id = view.id ∧
    intent.userId = input.clientId ∧ intent.totalCents = input.totalCents.cents
  bookingId : view.bookingId = input.bookingId
  totalCents : view.totalCents = input.totalCents.cents
  state : view.state = .created ∨ view.state = .locked

theorem Answers.stable {input : CreatePaymentIntentDto} {view : PaymentIntentView} {s s' : Store}
    (h : Answers input view s) (hs : s.IntentsKept s') : Answers input view s' where
  intent := by
    obtain ⟨intent, hfind, hid, huser, htotal⟩ := h.intent
    obtain ⟨intent', hfind', hsame⟩ := hs.kept hfind
    exact ⟨intent', hfind', hsame.id.trans hid, hsame.userId.trans huser,
      hsame.totalCents.trans htotal⟩
  bookingId := h.bookingId
  totalCents := h.totalCents
  state := h.state

namespace PaymentIntentsService

/-- The two tests agree on intents whose total is a JavaScript number. -/
theorem matchesRetry_eq {existing : PaymentIntent}
    (h : number existing.totalCents = existing.totalCents) (input : CreatePaymentIntentDto) :
    matchesRetry input existing = matchesRequest input existing := by
  rw [matchesRetry, matchesRequest, h]

theorem answers_of_matches {input : CreatePaymentIntentDto} {existing : PaymentIntent} {s : Store}
    (hfind : s.intentOfBooking? input.bookingId = some existing)
    (h : matchesRequest input existing = true) : Answers input (toView existing) s where
  intent := by
    obtain ⟨huser, htotal, -⟩ := of_decide_eq_true h
    exact ⟨existing, hfind, rfl, huser, htotal⟩
  bookingId := (Table.find_some hfind).2
  totalCents := by
    have htotal := (of_decide_eq_true h).2.1
    change number existing.totalCents = _
    rw [htotal]
    exact input.totalCents.isNumber
  state := of_decide_eq_true (of_decide_eq_true h).2.2

/-- A new intent is the intent of its booking. -/
theorem answers_of_insertIntent {config : CreateConfig} {input : CreatePaymentIntentDto}
    {quoted : ℤ} {s s' : Store} {intent : PaymentIntent}
    (h : insertIntent config input quoted s = .ok (intent, s')) :
    s.IntentsKept s' ∧ Answers input (toView intent) s' := by
  obtain ⟨row, s₁, hrow, hrest⟩ := Tx.of_bind_ok h
  obtain ⟨u, s₂, hnotice, hret⟩ := Tx.of_bind_ok hrest
  cases hret
  rw [Tx.discard_apply, OutboxService.enqueue_apply] at hnotice
  cases hnotice
  obtain ⟨rfl, hnew, rfl⟩ := Tx.of_createPaymentIntent_ok hrow
  have htotal : number input.totalCents.cents = input.totalCents.cents := input.totalCents.isNumber
  refine ⟨.of_append htotal rfl, ⟨_, ?_, rfl, rfl, rfl⟩, rfl, htotal, .inl rfl⟩
  exact Table.find_append_new hnew

/-! ## Knowing it -/

/-- What every thread knows. -/
def numberTotals : Stable Store.IntentsKept where
  Holds := Store.NumberTotals
  stable _ _ h hs := hs.totals h

/-- What a thread knows that has seen the intent it returns. -/
def answered (input : CreatePaymentIntentDto) (view : PaymentIntentView) :
    Stable Store.IntentsKept where
  Holds s := s.NumberTotals ∧ Answers input view s
  stable _ _ h hs := ⟨hs.totals h.1, h.2.stable hs⟩

/-- The program returns only views that answer the request. -/
abbrev Returning (input : CreatePaymentIntentDto) (p : Service PaymentIntentView) : Prop :=
  Conforms (knowledge Store.IntentsKept) p numberTotals (Justified (Answers input))

section Programs

variable {input : CreatePaymentIntentDto}

theorem returning_throw (e : Failure) : Returning input (.throw e) := Justified.error e

/-- Look for the intent of the booking, and return it if it passes a test that only intents pass
that match. -/
theorem returning_existing (test : PaymentIntent → Bool)
    (htest : ∀ existing : PaymentIntent, number existing.totalCents = existing.totalCents →
      test existing = true → matchesRequest input existing = true)
    {k : Option PaymentIntent → Service PaymentIntentView} (hnone : Returning input (k none))
    (hsome : ∀ existing, k (some existing) = if test existing then .ret (toView existing)
      else .throw (alreadyExists input.bookingId)) :
    Returning input (Resumption.read (fun s ↦ s.intentOfBooking? input.bookingId) >>= k) := by
  refine Conforms.read_bind_to (fun s hs ↦ ?_) fun e ↦ Justified.error e
  cases hfind : s.intentOfBooking? input.bookingId with
  | none => exact ⟨numberTotals, knowledge_same .refl _ s, hnone⟩
  | some existing =>
      rw [hsome]
      by_cases hpass : test existing = true
      · have hnumber := hs existing (Table.find_some hfind).1
        have hanswers := answers_of_matches hfind (htest existing hnumber hpass)
        rw [if_pos hpass]
        refine ⟨answered input (toView existing), fun _ ↦ ⟨.refl s, hs, hanswers⟩, ?_⟩
        exact Justified.ok fun s h ↦ h.2
      · rw [if_neg hpass]
        exact ⟨numberTotals, knowledge_same .refl _ s, returning_throw _⟩

theorem returning_retry : Returning input (retry input) := by
  refine returning_existing (matchesRetry input) (fun existing hnumber hpass ↦ ?_)
    (returning_throw _) fun existing ↦ rfl
  rwa [← matchesRetry_eq hnumber]

theorem returning_createNew (config : CreateConfig) : Returning input (createNew config input) := by
  have hconvert : Conforms (knowledge Store.IntentsKept)
      (FxService.convertCurrency input.totalCents.cents input.currency .zar) numberTotals
      fun K _ ↦ K = numberTotals := by
    refine Guarantees.conforms_knowledge ?_
    exact (guarantees_convertCurrency Store.IntentsKept.refl _ _ _).mono (fun _ _ ↦ trivial)
      fun _ _ _ h ↦ h
  -- a transaction that throws leaves the thread with what it knew before
  have hinsert : ∀ quoted : ConvertedAmount, Conforms (knowledge Store.IntentsKept)
      (toView <$> Resumption.transaction (insertIntent config input quoted.amountCents) :
        Service PaymentIntentView) numberTotals
      fun K r ↦ Justified (Answers input) K r ∧ ∀ e, r = .error e → K = numberTotals := by
    intro quoted
    refine Conforms.map (Conforms.transaction (fun s ↦ knowledge_same .refl _ s) ?_ fun e ↦ ?_)
    · intro s intent s' hs h
      obtain ⟨hkept, hanswers⟩ := answers_of_insertIntent h
      refine ⟨answered input (toView intent), fun hs ↦ ⟨hkept, hkept.totals hs, hanswers⟩, ?_, ?_⟩
      · exact Justified.ok fun s h ↦ h.2
      · exact fun e he ↦ nomatch he
    · exact ⟨Justified.error e, fun _ _ ↦ rfl⟩
  refine hconvert.bind ?_ fun K e hK ↦ Justified.error e
  rintro K quoted rfl
  refine (hinsert quoted).tryCatch (fun K a h ↦ h.1) ?_
  rintro K e ⟨-, hK⟩
  rw [hK e rfl]
  split
  · exact returning_retry
  · exact returning_throw e

theorem returning_create (config : CreateConfig) : Returning input (create config input) := by
  unfold create
  split
  · exact returning_throw _
  · exact returning_existing (matchesRequest input) (fun existing _ h ↦ h)
      (returning_createNew config) fun existing ↦ rfl

end Programs

end PaymentIntentsService

/-! ## Requests side by side -/

/-- A request for an intent, or anything else that happens to intents. -/
inductive CreateCall where
  | create (input : CreatePaymentIntentDto)
  | other (call : LockCall)

/-- Configurations of everything that happens to intents. -/
structure IntentConfig where
  create : CreateConfig
  lock : LockConfig
  payfast : PayFastConfig

/-- The program of a call, which keeps the request with the view it is answered with. -/
def CreateCall.program (config : IntentConfig) :
    CreateCall → Service (Option (CreatePaymentIntentDto × PaymentIntentView))
  | .create input => (fun view ↦ some (input, view)) <$>
    PaymentIntentsService.create config.create input
  | .other call => (fun _ ↦ none) <$> call.program config.payfast config.lock

/-- Any number of calls, over any store. -/
def CreateCall.pool (config : IntentConfig) (s : Store) (calls : List CreateCall) :
    Pool Store PayFastRefundInput HttpOutcome
      (Service (Option (CreatePaymentIntentDto × PaymentIntentView))) :=
  ⟨s, calls.map (·.program config), []⟩

theorem CreateCall.conforms (config : IntentConfig) (call : CreateCall) :
    Conforms (knowledge Store.IntentsKept) (call.program config) numberTotals
      (Justified fun r s ↦ ∀ input view, r = some (input, view) → Answers input view s) := by
  cases call with
  | create input =>
      refine Conforms.map ((returning_create config.create).mono fun K r h ↦ ?_)
      intro a ha s hs input' view ha'
      cases r with
      | error e => cases ha
      | ok v =>
          cases ha
          cases ha'
          exact h view rfl s hs
  | other call =>
      have hkept := call.guarantees_intentsKept config.payfast config.lock
      have hconf := (hkept.mono (fun _ _ ↦ trivial) fun _ _ _ h ↦ h).conforms_knowledge
        (K := numberTotals)
      refine Conforms.map (hconf.mono fun K r _ ↦ ?_)
      intro a ha s _ input view ha'
      cases r with
      | error e => cases ha
      | ok u =>
          cases ha
          cases ha'

/-- However requests for intents, locks and payments interleave, a request that returns is
answered with the intent of its booking, which is for its client and its total; and before or
after a conflict, the same intents answer the same requests. -/
theorem create_idempotent {config : IntentConfig} {s : Store} (hs : s.NumberTotals)
    (calls : List CreateCall) (ts : List (Turn HttpOutcome Failure)) :
    let reached := Pool.run next (CreateCall.pool config s calls) ts
    (∀ (i : ℕ) input view, reached.threads[i]? = some (.ret (some (input, view))) →
      Answers input view reached.store) ∧
    ∀ input, ∀ existing ∈ reached.store.paymentIntents,
      PaymentIntentsService.matchesRetry input existing =
        PaymentIntentsService.matchesRequest input existing := by
  intro reached
  have hconf : ∀ p ∈ (CreateCall.pool config s calls).threads,
      Conforms (knowledge Store.IntentsKept) p numberTotals
        (Justified fun r s ↦ ∀ input view, r = some (input, view) → Answers input view s) := by
    intro p hp
    obtain ⟨call, -, rfl⟩ := List.mem_map.mp hp
    exact call.conforms config
  have hstart : numberTotals.Holds (CreateCall.pool config s calls).store := hs
  obtain ⟨htotals, hreturns⟩ := Pool.returns_run hstart hconf ts
  refine ⟨fun i input view hret ↦ hreturns hret input view rfl, fun input existing hmem ↦ ?_⟩
  exact matchesRetry_eq (htotals existing hmem) input

namespace Sample

/-- Pay a booking of 1000 rand, with a fee of 126 rand. -/
def request : CreatePaymentIntentDto where
  bookingId := 5
  clientId := 7
  artistId := 8
  subtotalCents := ⟨100000, rfl⟩
  currency := .zar
  serviceFeeCents := some ⟨12600, rfl⟩
  totalCents := ⟨112600, rfl⟩
  clientCurrency := none
  idempotencyKey := none

/-- The same booking and the same amount, for another artist and with another fee. -/
def otherRequest : CreatePaymentIntentDto :=
  { request with
    artistId := 9
    subtotalCents := ⟨90000, rfl⟩
    serviceFeeCents := some ⟨22600, rfl⟩ }

def intentConfig : IntentConfig := ⟨⟨12.6⟩, ⟨15⟩, config.payfast⟩

def requests : Pool Store PayFastRefundInput HttpOutcome
    (Service (Option (CreatePaymentIntentDto × PaymentIntentView))) :=
  CreateCall.pool intentConfig (Store.empty 1000 1 []) [.create request, .create otherRequest]

/-- One request after the other. -/
def oneByOne : List (Turn HttpOutcome Failure) :=
  [⟨0, .act⟩, ⟨0, .act⟩, ⟨0, .act⟩, ⟨1, .act⟩]

end Sample

/-- The second request is answered with an intent for another artist, subtotal and fee than its
own. -/
theorem answered_with_other : ∃ view intent,
    (Pool.run next Sample.requests Sample.oneByOne).threads[1]? =
      some (.ret (some (Sample.otherRequest, view))) ∧
    (Pool.run next Sample.requests Sample.oneByOne).store.intentOfBooking? 5 = some intent ∧
    intent.id = view.id ∧ intent.artistId ≠ Sample.otherRequest.artistId ∧
    intent.subtotalCents ≠ Sample.otherRequest.subtotalCents.cents ∧
    intent.serviceFeeCents ≠
      PaymentIntentsService.serviceFee Sample.intentConfig.create Sample.otherRequest :=
  ⟨_, _, rfl, rfl, rfl, by decide, by decide, by decide⟩

/-- The second request is for the same client and the same total. -/
theorem create_idempotent_sample :
    let reached := Pool.run next Sample.requests Sample.oneByOne
    (∀ (i : ℕ) input view, reached.threads[i]? = some (.ret (some (input, view))) →
      Answers input view reached.store) ∧
    ∀ input, ∀ existing ∈ reached.store.paymentIntents,
      PaymentIntentsService.matchesRetry input existing =
        PaymentIntentsService.matchesRequest input existing :=
  create_idempotent (fun _ h ↦ absurd h List.not_mem_nil) _ _

end GearshPayments
