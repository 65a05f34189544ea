import GearshPayments.Payments.Agreement

/-!
# A payment is captured once

Notifications and development completions run side by side, with each other and with
everything that happens to a hold afterwards.  A store then consists, as far as
captures are concerned, of what a list of captures has written
(`Store.CapturedAs`): one hold, one `HELD` event with its three ledger entries and two
announcements each.  Two captures of one intent would be two holds of one booking, so
there is at most one (`Store.CapturedOnce`).

The charge row of a notification stays once it is there, and makes every later
delivery of the notification a no-op, whoever wrote it and whatever happened since.
-/

namespace GearshPayments

open Resumption EscrowService PayFastWebhookService RefundsService

/-! ## The calls -/

/-- What happens to payments and their holds. -/
inductive PaymentCall where
  | intent (call : IntentCall)
  | escrow (op : EscrowOp)
  | refund (input : IssueRefundInput)
  /-- Time passes. -/
  | tick (clock : ℕ)

def PaymentCall.program (config : SystemConfig) : PaymentCall → Service Unit
  | .intent call => call.program config.payfast
  | .escrow op => (ServiceCall.escrow op).program config
  | .refund input => (ServiceCall.refund input).program config
  | .tick clock => (ServiceCall.tick clock).program config

/-- Any number of calls over a store in which nothing has been captured. -/
def PaymentCall.pool (config : SystemConfig) (clock nextId : ℕ) (intents : List PaymentIntent)
    (calls : List PaymentCall) : Pool Store PayFastRefundInput HttpOutcome (Service Unit) :=
  ⟨Store.empty clock nextId intents, calls.map (·.program config), []⟩

/-- What the writes of the calls guarantee.  A commit of the webhook is for an intent
that was read before. -/
structure PaymentRules (business : BusinessConfig) (I : Store → Prop) (G : Store → Store → Prop) :
    Prop extends WriteRules business I G where
  commit : ∀ {s₀ s s' : Store} {id : ℕ} {intent : PaymentIntent} {zarAmount fee : ℤ}
    {mPaymentId : EventValue} {pfPaymentId : String} {paymentStatus : PayFastPaymentStatus}
    {traceparent tracestate : Option String}, I s₀ → s₀.paymentIntent? id = some intent → I s →
      commit (commitArgs intent zarAmount mPaymentId pfPaymentId paymentStatus traceparent
        tracestate) fee s = .ok ((), s') → G s s'
  tick : ∀ {s : Store} (clock : ℕ), I s → G s { s with clock }

theorem PaymentCall.guarantees {config : SystemConfig} {I : Store → Prop}
    {G : Store → Store → Prop} (hr : PaymentRules config.business I G) (c : PaymentCall) :
    Guarantees I G (c.program config) := by
  cases c with
  | intent call =>
      cases call with
      | itn normalised traceparent tracestate =>
          exact guarantees_handle hr.refl (fun _ _ h₀ hf hs h ↦ hr.commit h₀ hf hs h) _
      | devComplete production intentId callerUserId callerRoles =>
          refine guarantees_devComplete hr.refl ?_ production callerUserId callerRoles
          intro s₀ s s' intent zarAmount fee mPaymentId h₀ hf hs h
          exact hr.commit h₀ hf hs ((congrFun (commit_of_complete rfl fee) s).trans h)
  | escrow op => exact (hr.exec op).discard
  | refund input => exact (hr.issueRefund config.payfast input).discard
  | tick clock => exact ⟨fun s hs ↦ ⟨hr.tick clock hs, trivial⟩, fun _ ↦ trivial⟩

/-! ## What captures have written -/

/-- A capture: its arguments, and the counter and the clock it found. -/
structure Capture where
  args : CommitArgs
  zarFee : ℤ
  nextId : ℕ
  clock : ℕ

namespace Capture

variable (c : Capture)

def charge : Transaction := c.args.charge .succeeded c.nextId c.clock

def hold : EscrowHold := c.args.hold c.zarFee (c.nextId + 1) c.clock

def event : EscrowEvent :=
  escrowEvent c.hold .held c.hold.amountCents none (some "PayFast ITN") none (c.nextId + 2) c.clock

def entries : List LedgerEntry :=
  (c.args.entries c.zarFee).map (ledgerEntry c.hold c.event c.clock)

def succeeded : OutboxEvent :=
  OutboxService.row (c.args.succeededNotice c.zarFee c.charge c.clock) (c.nextId + 3) c.clock

def held : OutboxEvent := OutboxService.row (c.args.heldNotice c.hold) (c.nextId + 4) c.clock

end Capture

/-- The capture of a payment in a store. -/
def CommitArgs.capture (args : CommitArgs) (zarFee : ℤ) (s : Store) : Capture :=
  ⟨args, zarFee, s.nextId, s.clock⟩

/-- The hold as it was captured. -/
def EscrowHold.asCaptured (h : EscrowHold) : EscrowHold :=
  { h with
    state := .held
    partiallyRefundedAmountCents := 0
    releasedAt := none
    refundedAt := none
    disputedAt := none }

/-- The operations of `EscrowService` do not change what was captured. -/
theorem EscrowOp.SameTerms.asCaptured {h h' : EscrowHold} (hh : EscrowOp.SameTerms h h') :
    h'.asCaptured = h.asCaptured := by
  simp only [EscrowHold.asCaptured, hh.id, hh.bookingId, hh.paymentIntentId, hh.clientId,
    hh.artistId, hh.amountCents, hh.platformFeeCents, hh.currency, hh.heldAt, hh.createdAt]

namespace Store

def heldEvents (s : Store) : List EscrowEvent := s.escrowEvents.filter fun e ↦ e.type = .held

def noticesOfType (s : Store) (type : PaymentsEventType) : List OutboxEvent :=
  s.outboxEvents.filter fun o ↦ o.eventType = type

/-- Nothing but the captures `cs` has written holds, `HELD` events, their ledger
entries and their announcements, and every capture was for the booking of its
intent. -/
structure CapturedAs (booking : ℕ → Option ℕ) (cs : List Capture) (s : Store) : Prop where
  consistent : s.Consistent
  intents : ∀ id, (s.paymentIntent? id).map PaymentIntent.bookingId = booking id
  booked : ∀ c ∈ cs, booking c.args.intentId = some c.args.bookingId
  sound : ∀ c ∈ cs, DoubleEntry.Sound (c.args.entries c.zarFee)
  fresh : ∀ c ∈ cs, c.nextId + 5 ≤ s.nextId
  holds : s.escrowHolds.map EscrowHold.asCaptured = cs.map Capture.hold
  events : s.heldEvents = cs.map Capture.event
  entries : ∀ c ∈ cs, s.entriesOfEvent c.event.id = c.entries
  charges : ∀ c ∈ cs, c.charge ∈ s.transactions
  succeeded : s.noticesOfType .paymentsSucceeded = cs.map Capture.succeeded
  held : s.noticesOfType .escrowHeld = cs.map Capture.held

end Store

/-- What an update keeps of a row can be looked up as before. -/
theorem Store.map_paymentIntent?_update {β : Type} {s s' : Store} {g : PaymentIntent → β}
    {f : PaymentIntent → PaymentIntent} {id' : ℕ} (hkey : ∀ i, (f i).id = i.id)
    (hg : ∀ i, g (f i) = g i)
    (h : s'.paymentIntents = Table.update PaymentIntent.id id' f s.paymentIntents) (id : ℕ) :
    (s'.paymentIntent? id).map g = (s.paymentIntent? id).map g := by
  change (Table.find _ _ s'.paymentIntents).map _ = _
  rw [h, Table.find_update hkey]
  split
  · rw [Option.map_map]
    exact congrArg (Option.map · _) (funext hg)
  · rfl

/-- A commit of the webhook does not change whose booking an intent is for. -/
theorem Store.bookingId_settle {s s' : Store} {args : CommitArgs} {state : IntentState}
    (h : s'.paymentIntents = Table.update PaymentIntent.id args.intentId (args.settle state)
      s.paymentIntents) (id : ℕ) :
    (s'.paymentIntent? id).map PaymentIntent.bookingId =
      (s.paymentIntent? id).map PaymentIntent.bookingId :=
  Store.map_paymentIntent?_update (f := args.settle state) (fun _ ↦ rfl) (fun _ ↦ rfl) h id

/-- An event that has not been written has no entries. -/
theorem Store.Consistent.entriesOfEvent_eq_nil {s : Store} (hs : s.Consistent) {id : ℕ}
    (h : s.nextId ≤ id) : s.entriesOfEvent id = [] := by
  refine List.filter_eq_nil_iff.mpr fun e he hd ↦ ?_
  have hlt := hs.entries e he
  rw [of_decide_eq_true hd] at hlt
  omega

namespace Store.CapturedAs

variable {booking : ℕ → Option ℕ} {cs : List Capture} {s s' : Store}

theorem empty (clock nextId : ℕ) (intents : List PaymentIntent) :
    (Store.empty clock nextId intents).CapturedAs
      (fun id ↦ (Table.find PaymentIntent.id id intents).map PaymentIntent.bookingId) [] where
  consistent := .empty clock nextId intents
  intents := fun _ ↦ rfl
  booked := fun _ hc ↦ absurd hc List.not_mem_nil
  sound := fun _ hc ↦ absurd hc List.not_mem_nil
  fresh := fun _ hc ↦ absurd hc List.not_mem_nil
  holds := rfl
  events := rfl
  entries := fun _ hc ↦ absurd hc List.not_mem_nil
  charges := fun _ hc ↦ absurd hc List.not_mem_nil
  succeeded := rfl
  held := rfl

/-- A change that captures nothing. -/
theorem frame (hs : s.CapturedAs booking cs) (hc : s'.Consistent) (hn : s.nextId ≤ s'.nextId)
    (hi : ∀ id, (s'.paymentIntent? id).map PaymentIntent.bookingId =
      (s.paymentIntent? id).map PaymentIntent.bookingId)
    (hh : s'.escrowHolds.map EscrowHold.asCaptured = s.escrowHolds.map EscrowHold.asCaptured)
    (he : s'.heldEvents = s.heldEvents)
    (hl : ∀ id < s.nextId, s'.entriesOfEvent id = s.entriesOfEvent id)
    (ht : ∀ t ∈ s.transactions, t ∈ s'.transactions)
    (ho : ∀ type, type = .paymentsSucceeded ∨ type = .escrowHeld →
      s'.noticesOfType type = s.noticesOfType type) : s'.CapturedAs booking cs where
  consistent := hc
  intents := fun id ↦ (hi id).trans (hs.intents id)
  booked := hs.booked
  sound := hs.sound
  fresh := fun c hm ↦ (hs.fresh c hm).trans hn
  holds := hh.trans hs.holds
  events := he.trans hs.events
  entries := by
    intro c hm
    have hlt : c.event.id < s.nextId := by
      have := hs.fresh c hm
      change c.nextId + 2 < s.nextId
      omega
    exact (hl _ hlt).trans (hs.entries c hm)
  charges := fun c hm ↦ ht _ (hs.charges c hm)
  succeeded := (ho _ (.inl rfl)).trans hs.succeeded
  held := (ho _ (.inr rfl)).trans hs.held

/-- A capture for the booking of its intent is one capture more. -/
theorem capture {args : CommitArgs} {zarFee : ℤ} (hs : s.CapturedAs booking cs)
    (hc : args.Captures zarFee s) (hb : booking args.intentId = some args.bookingId)
    (hcons : (args.captured zarFee s).Consistent) :
    (args.captured zarFee s).CapturedAs booking (cs ++ [args.capture zarFee s]) := by
  have hforall {P : Capture → Prop} (h : ∀ c ∈ cs, P c) (hnew : P (args.capture zarFee s)) :
      ∀ c ∈ cs ++ [args.capture zarFee s], P c := by
    intro c hm
    rcases List.mem_append.mp hm with hm | hm
    · exact h c hm
    · rw [List.mem_singleton.mp hm]
      exact hnew
  constructor
  case consistent => exact hcons
  case intents =>
    intro id
    rw [← hs.intents id]
    exact Store.bookingId_settle rfl id
  case booked => exact hforall hs.booked hb
  case sound => exact hforall hs.sound hc.sound
  case fresh => exact hforall (fun c hm ↦ (hs.fresh c hm).trans (Nat.le_add_right _ 5)) le_rfl
  case holds =>
    rw [CommitArgs.captured, List.map_append, List.map_append, hs.holds]
    rfl
  case events =>
    have hold : s.escrowEvents.filter (fun e ↦ e.type = .held) = cs.map Capture.event := hs.events
    rw [Store.heldEvents, CommitArgs.captured, List.filter_append, List.map_append, hold]
    rfl
  case entries =>
    have happend : ∀ id, (args.captured zarFee s).entriesOfEvent id = s.entriesOfEvent id ++
        if s.nextId + 2 = id then (args.capture zarFee s).entries else [] := by
      have hentries : (args.captured zarFee s).ledgerEntries = s.ledgerEntries ++
          (args.entries zarFee).map (ledgerEntry (args.capture zarFee s).hold
            (args.capture zarFee s).event s.clock) := rfl
      exact Store.entriesOfEvent_append hentries
    refine hforall (fun c hm ↦ ?_) ?_
    · have hne : s.nextId + 2 ≠ c.event.id := by
        have := hs.fresh c hm
        change s.nextId + 2 ≠ c.nextId + 2
        omega
      rw [happend, if_neg hne, List.append_nil, hs.entries c hm]
    · change (args.captured zarFee s).entriesOfEvent (s.nextId + 2) = _
      rw [happend, if_pos rfl, hs.consistent.entriesOfEvent_eq_nil (by omega), List.nil_append]
  case charges =>
    refine hforall (fun c hm ↦ List.mem_append_left _ (hs.charges c hm)) ?_
    exact List.mem_append_right _ (List.mem_singleton.mpr rfl)
  case succeeded =>
    have hold : s.outboxEvents.filter (fun o ↦ o.eventType = .paymentsSucceeded) =
      cs.map Capture.succeeded := hs.succeeded
    rw [Store.noticesOfType, CommitArgs.captured, List.filter_append, List.map_append, hold]
    rfl
  case held =>
    have hold : s.outboxEvents.filter (fun o ↦ o.eventType = .escrowHeld) =
      cs.map Capture.held := hs.held
    rw [Store.noticesOfType, CommitArgs.captured, List.filter_append, List.map_append, hold]
    rfl

end Store.CapturedAs

/-- The announcements of a type, after one of another type. -/
theorem Store.noticesOfType_append {s s' : Store} {os : List OutboxEvent} {type : PaymentsEventType}
    (h : s'.outboxEvents = s.outboxEvents ++ os) (ho : ∀ o ∈ os, o.eventType ≠ type) :
    s'.noticesOfType type = s.noticesOfType type := by
  have hnone : os.filter (fun o ↦ o.eventType = type) = [] :=
    List.filter_eq_nil_iff.mpr fun o hm hd ↦ ho o hm (of_decide_eq_true hd)
  rw [noticesOfType, h, List.filter_append, hnone, List.append_nil]
  rfl

namespace Store.CapturedAs

variable {booking : ℕ → Option ℕ} {cs : List Capture} {s s' : Store}

theorem exec (hs : s.CapturedAs booking cs) {config : BusinessConfig} {op : EscrowOp}
    {hold' : EscrowHold} (h : op.exec config s = .ok (hold', s')) : s'.CapturedAs booking cs := by
  have hcons := hs.consistent.exec h
  obtain ⟨hold, target, w, entries, hc, -, rfl⟩ := EscrowOp.commits_of_exec_eq h
  obtain ⟨htype, hnotice⟩ := EscrowOp.types_of_work hc.work
  have hn : s.nextId ≤ (w.commit config hold entries s).nextId := by
    simp only [Writes.commit]
    omega
  refine hs.frame hcons hn (fun _ ↦ rfl) ?_ ?_ (fun id hid ↦ ?_) (fun _ ht ↦ ht) ?_
  · exact Table.map_update _ (fun x ↦ (EscrowOp.update_of_work hc.work x).2.asCaptured) _
  · have hnone : [w.event hold s].filter (fun e ↦ e.type = .held) = [] := by
      refine List.filter_eq_nil_iff.mpr fun e he hd ↦ htype ?_
      rw [List.mem_singleton.mp he] at hd
      exact of_decide_eq_true hd
    rw [Store.heldEvents, Writes.commit, List.filter_append, hnone, List.append_nil]
    rfl
  · have hentries : (w.commit config hold entries s).ledgerEntries = s.ledgerEntries ++
        entries.map (ledgerEntry (w.update hold) (w.event hold s) s.clock) := rfl
    have hne : (w.event hold s).id ≠ id := by
      change s.nextId ≠ id
      omega
    rw [Store.entriesOfEvent_append hentries, if_neg hne, List.append_nil]
  · intro type ht
    refine Store.noticesOfType_append (List.append_assoc ..) fun o hm ↦ ?_
    rcases List.mem_append.mp hm with hm | hm
    · obtain ⟨p, -, rfl⟩ := List.mem_map.mp hm
      rcases ht with rfl | rfl
      · exact fun h ↦ by cases h
      · exact fun h ↦ by cases h
    · rw [List.mem_singleton.mp hm]
      rcases ht with rfl | rfl
      · exact ne_of_mem_of_not_mem hnotice (by decide)
      · exact ne_of_mem_of_not_mem hnotice (by decide)

/-- What a commit of the webhook leaves, for an intent that was read when the same
bookings were known. -/
theorem commit {s₀ : Store} {cs₀ : List Capture} (h₀ : s₀.CapturedAs booking cs₀) {id : ℕ}
    {intent : PaymentIntent} (hf : s₀.paymentIntent? id = some intent)
    (hs : s.CapturedAs booking cs) {zarAmount fee : ℤ} {mPaymentId : EventValue}
    {pfPaymentId : String} {paymentStatus : PayFastPaymentStatus}
    {traceparent tracestate : Option String}
    (h : PayFastWebhookService.commit
      (commitArgs intent zarAmount mPaymentId pfPaymentId paymentStatus
      traceparent tracestate) fee s = .ok ((), s')) : ∃ cs', s'.CapturedAs booking cs' := by
  have hbooked : booking intent.id = some intent.bookingId := by
    rw [← h₀.intents, (Table.find_some hf).2, hf, Option.map_some]
  by_cases hst : paymentStatus = .complete
  · rw [commit_of_complete hst] at h
    have hcons := hs.consistent.commitComplete h
    rcases of_commitComplete_ok h with ⟨-, rfl⟩ | ⟨hc, rfl⟩
    · exact ⟨cs, hs⟩
    · exact ⟨_, hs.capture hc hbooked hcons⟩
  · rw [commit_of_ne hst] at h
    have hcons := hs.consistent.commitFailed h
    rcases of_commitFailed_ok h with ⟨-, rfl⟩ | ⟨-, -, rfl⟩
    · exact ⟨cs, hs⟩
    · refine ⟨cs, hs.frame hcons (Nat.le_add_right _ 2) (Store.bookingId_settle rfl) rfl rfl
        (fun _ _ ↦ rfl) (fun t ht ↦ List.mem_append_left _ ht) ?_⟩
      intro type ht
      refine Store.noticesOfType_append rfl fun o hm ↦ ?_
      rw [List.mem_singleton.mp hm]
      rcases ht with rfl | rfl
      · exact fun h ↦ by cases h
      · exact fun h ↦ by cases h

end Store.CapturedAs

/-- Every call leaves what some captures have written. -/
theorem rules_capturedAs (business : BusinessConfig) (booking : ℕ → Option ℕ) :
    PaymentRules business (fun s ↦ ∃ cs, s.CapturedAs booking cs)
      fun _ s' ↦ ∃ cs, s'.CapturedAs booking cs where
  refl := fun _ hs ↦ hs
  insert := by
    rintro s s' row r ⟨cs, hs⟩ hid hpos h
    have hcons := hs.consistent.createRefund hid hpos h
    cases h
    exact ⟨cs, hs.frame hcons (Nat.le_succ _) (fun _ ↦ rfl) rfl rfl (fun _ _ ↦ rfl)
      (fun _ ht ↦ ht) fun _ _ ↦ rfl⟩
  move := by
    rintro s s' op hold ⟨cs, hs⟩ h
    exact ⟨cs, hs.exec h⟩
  announce := by
    rintro s id f r notice ⟨cs, hs⟩ hf ha hr hn
    have hcons := hs.consistent.announceRefund hf ha hr hn.aggregateId
    refine ⟨cs, hs.frame hcons (Nat.le_succ _) (fun _ ↦ rfl) rfl rfl (fun _ _ ↦ rfl)
      (fun _ ht ↦ ht) fun type ht ↦ ?_⟩
    refine Store.noticesOfType_append rfl fun o hm ↦ ?_
    rw [List.mem_singleton.mp hm]
    change notice.type ≠ type
    rcases hn.type with h | h <;> rcases ht with rfl | rfl <;> rw [h] <;> exact fun h ↦ by cases h
  commit := by
    rintro s₀ s s' id intent zarAmount fee mPaymentId pfPaymentId paymentStatus traceparent
      tracestate ⟨cs₀, h₀⟩ hf ⟨cs, hs⟩ h
    exact h₀.commit hf hs h
  tick := by
    rintro s clock ⟨cs, hs⟩
    exact ⟨cs, hs.frame (hs.consistent.tick clock) le_rfl (fun _ ↦ rfl) rfl rfl (fun _ _ ↦ rfl)
      (fun _ ht ↦ ht) fun _ _ ↦ rfl⟩

theorem PaymentCall.capturedAs_run (config : SystemConfig) (clock nextId : ℕ)
    (intents : List PaymentIntent) (calls : List PaymentCall)
    (ts : List (Turn HttpOutcome Failure)) :
    ∃ cs, (Pool.run next (PaymentCall.pool config clock nextId intents calls) ts).store.CapturedAs
      (fun id ↦ (Table.find PaymentIntent.id id intents).map PaymentIntent.bookingId) cs := by
  have hkeeps : ∀ p ∈ (PaymentCall.pool config clock nextId intents calls).threads, Keeps
      (fun s ↦ ∃ cs, s.CapturedAs (fun id ↦
        (Table.find PaymentIntent.id id intents).map PaymentIntent.bookingId) cs) p := by
    intro p hp
    obtain ⟨c, -, rfl⟩ := List.mem_map.mp hp
    exact (c.guarantees (rules_capturedAs config.business _)).keeps
  exact Pool.keeps_run hkeeps ⟨[], .empty clock nextId intents⟩ ts

/-! ## At most one capture -/

namespace Store

def holdsOf (s : Store) (intentId : ℕ) : List EscrowHold :=
  s.escrowHolds.filter fun h ↦ h.paymentIntentId = intentId

/-- The `HELD` events of the intent's holds. -/
def heldEventsOf (s : Store) (intentId : ℕ) : List EscrowEvent :=
  s.escrowEvents.filter fun e ↦
    e.type = .held ∧ e.holdId ∈ (s.holdsOf intentId).map EscrowHold.id

/-- The `escrow.held` rows of the intent's holds. -/
def heldNoticesOf (s : Store) (intentId : ℕ) : List OutboxEvent :=
  s.outboxEvents.filter fun o ↦
    o.eventType = .escrowHeld ∧ o.aggregateId ∈ (s.holdsOf intentId).map EscrowHold.id

/-- The `payments.succeeded` rows of the intent. -/
def succeededNoticesOf (s : Store) (intentId : ℕ) : List OutboxEvent :=
  s.outboxEvents.filter fun o ↦ o.eventType = .paymentsSucceeded ∧ o.aggregateId = intentId

/-- Nothing has been captured for the intent, or one payment has, with one hold, one
`HELD` event, one announcement of each kind and three ledger entries that balance. -/
inductive CapturedOnce (s : Store) (id : ℕ) : Prop
  | nothing (holds : s.holdsOf id = []) (events : s.heldEventsOf id = [])
    (succeeded : s.succeededNoticesOf id = []) (held : s.heldNoticesOf id = [])
  | payment {hold : EscrowHold} {event : EscrowEvent} {charge : Transaction}
    {succeeded held : OutboxEvent}
    (holds : s.holdsOf id = [hold]) (events : s.heldEventsOf id = [event])
    (succeeded : s.succeededNoticesOf id = [succeeded]) (held : s.heldNoticesOf id = [held])
    (charged : charge ∈ s.transactions ∧ charge.paymentIntentId = id ∧ charge.state = .succeeded)
    (captured : hold.amountCents + hold.platformFeeCents = charge.amountCents)
    (entries : (s.entriesOfEvent event.id).map LedgerEntry.toPosting =
      [⟨.payfastSettlement, .debit, charge.amountCents⟩,
        ⟨.escrowLiability, .credit, hold.amountCents⟩,
        ⟨.platformRevenue, .credit, hold.platformFeeCents⟩])
    (balanced : DoubleEntry.Sound ((s.entriesOfEvent event.id).map LedgerEntry.toPosting))

end Store

namespace Store.CapturedAs

variable {booking : ℕ → Option ℕ} {cs : List Capture} {s : Store}

/-- The captures of an intent. -/
abbrev capturesOf (cs : List Capture) (id : ℕ) : List Capture :=
  cs.filter fun c ↦ c.args.intentId = id

theorem nodup_bookings (hs : s.CapturedAs booking cs) :
    (cs.map fun c ↦ c.args.bookingId).Nodup := by
  have hb := hs.consistent.bookings
  have hmap : s.escrowHolds.map EscrowHold.bookingId = cs.map fun c ↦ c.args.bookingId := by
    calc s.escrowHolds.map EscrowHold.bookingId
        = (s.escrowHolds.map EscrowHold.asCaptured).map EscrowHold.bookingId := by
          rw [List.map_map]
          rfl
      _ = cs.map fun c ↦ c.args.bookingId := by
          rw [hs.holds, List.map_map]
          rfl
  rwa [hmap] at hb

theorem nodup_ids (hs : s.CapturedAs booking cs) : (cs.map fun c ↦ c.hold.id).Nodup := by
  have hd := hs.consistent.conserved.distinct
  have hmap : s.escrowHolds.map EscrowHold.id = cs.map fun c ↦ c.hold.id := by
    calc s.escrowHolds.map EscrowHold.id
        = (s.escrowHolds.map EscrowHold.asCaptured).map EscrowHold.id := by
          rw [List.map_map]
          rfl
      _ = cs.map fun c ↦ c.hold.id := by
          rw [hs.holds, List.map_map]
          rfl
  rwa [hmap] at hd

/-- Two captures of one intent would be for one booking. -/
theorem capturesOf_eq (hs : s.CapturedAs booking cs) (id : ℕ) :
    capturesOf cs id = [] ∨ ∃ c ∈ cs, c.args.intentId = id ∧ capturesOf cs id = [c] := by
  have hmem : ∀ c ∈ capturesOf cs id, c ∈ cs ∧ c.args.intentId = id := fun c hc ↦
    ⟨(List.mem_filter.mp hc).1, of_decide_eq_true (List.mem_filter.mp hc).2⟩
  have hnodup : ((capturesOf cs id).map fun c ↦ c.args.bookingId).Nodup :=
    hs.nodup_bookings.sublist (List.filter_sublist.map _)
  generalize capturesOf cs id = ds at hmem hnodup
  match ds with
  | [] => exact .inl rfl
  | [c] =>
      obtain ⟨hc, hid⟩ := hmem c (.head _)
      exact .inr ⟨c, hc, hid, rfl⟩
  | c :: d :: ds =>
      obtain ⟨hc, hcid⟩ := hmem c (.head _)
      obtain ⟨hd, hdid⟩ := hmem d (.tail _ (.head _))
      have hbook : some c.args.bookingId = some d.args.bookingId := by
        rw [← hs.booked c hc, ← hs.booked d hd, hcid, hdid]
      have hne := (List.nodup_cons.mp hnodup).1
      exact absurd (List.mem_map.mpr ⟨d, .head _, (Option.some.inj hbook).symm⟩) hne

theorem holdsOf_eq (hs : s.CapturedAs booking cs) (id : ℕ) :
    (s.holdsOf id).map EscrowHold.asCaptured = (capturesOf cs id).map Capture.hold := by
  have hfilter := congrArg (List.filter fun h : EscrowHold ↦ h.paymentIntentId = id) hs.holds
  rw [List.filter_map, List.filter_map] at hfilter
  exact hfilter

/-- What is about a hold of the intent is about one of its captures. -/
theorem mem_holdsOf_iff (hs : s.CapturedAs booking cs) {c : Capture} (hc : c ∈ cs) (id : ℕ) :
    c.hold.id ∈ (s.holdsOf id).map EscrowHold.id ↔ c.args.intentId = id := by
  have hids : (s.holdsOf id).map EscrowHold.id = (capturesOf cs id).map fun c ↦ c.hold.id := by
    have := congrArg (List.map EscrowHold.id) (hs.holdsOf_eq id)
    rw [List.map_map, List.map_map] at this
    exact this
  rw [hids]
  constructor
  · intro hm
    obtain ⟨d, hd, hid⟩ := List.mem_map.mp hm
    obtain ⟨hmem, hint⟩ := List.mem_filter.mp hd
    obtain rfl : d = c := List.inj_on_of_nodup_map hs.nodup_ids hmem hc hid
    exact of_decide_eq_true hint
  · intro hint
    exact List.mem_map_of_mem (List.mem_filter.mpr ⟨hc, decide_eq_true hint⟩)

theorem heldEventsOf_eq (hs : s.CapturedAs booking cs) (id : ℕ) :
    s.heldEventsOf id = (capturesOf cs id).map Capture.event := by
  have hsplit : s.heldEventsOf id =
      s.heldEvents.filter fun e ↦ e.holdId ∈ (s.holdsOf id).map EscrowHold.id := by
    rw [Store.heldEvents, List.filter_filter]
    refine List.filter_congr fun e _ ↦ ?_
    rw [Bool.decide_and, Bool.and_comm]
  rw [hsplit, hs.events, List.filter_map]
  refine congrArg _ (List.filter_congr fun c hc ↦ ?_)
  exact decide_eq_decide.mpr (hs.mem_holdsOf_iff hc id)

theorem heldNoticesOf_eq (hs : s.CapturedAs booking cs) (id : ℕ) :
    s.heldNoticesOf id = (capturesOf cs id).map Capture.held := by
  have hsplit : s.heldNoticesOf id = (s.noticesOfType .escrowHeld).filter
      fun o ↦ o.aggregateId ∈ (s.holdsOf id).map EscrowHold.id := by
    rw [Store.noticesOfType, List.filter_filter]
    refine List.filter_congr fun e _ ↦ ?_
    rw [Bool.decide_and, Bool.and_comm]
  rw [hsplit, hs.held, List.filter_map]
  refine congrArg _ (List.filter_congr fun c hc ↦ ?_)
  exact decide_eq_decide.mpr (hs.mem_holdsOf_iff hc id)

theorem succeededNoticesOf_eq (hs : s.CapturedAs booking cs) (id : ℕ) :
    s.succeededNoticesOf id = (capturesOf cs id).map Capture.succeeded := by
  have hsplit : s.succeededNoticesOf id =
      (s.noticesOfType .paymentsSucceeded).filter fun o ↦ o.aggregateId = id := by
    rw [Store.noticesOfType, List.filter_filter]
    refine List.filter_congr fun e _ ↦ ?_
    rw [Bool.decide_and, Bool.and_comm]
  rw [hsplit, hs.succeeded, List.filter_map]
  rfl

theorem capturedOnce (hs : s.CapturedAs booking cs) (id : ℕ) : s.CapturedOnce id := by
  have hholds := hs.holdsOf_eq id
  have hevents := hs.heldEventsOf_eq id
  have hsucceeded := hs.succeededNoticesOf_eq id
  have hheld := hs.heldNoticesOf_eq id
  rcases hs.capturesOf_eq id with h | ⟨c, hc, hid, h⟩
  · rw [h] at hholds hevents hsucceeded hheld
    exact .nothing (List.map_eq_nil_iff.mp hholds) hevents hsucceeded hheld
  · rw [h] at hholds hevents hsucceeded hheld
    obtain ⟨hold, hone, hterms⟩ := List.map_eq_singleton_iff.mp hholds
    have hamount : hold.amountCents = c.args.zarAmount - c.zarFee :=
      congrArg EscrowHold.amountCents hterms
    have hfee : hold.platformFeeCents = c.zarFee := congrArg EscrowHold.platformFeeCents hterms
    have hentries : (s.entriesOfEvent c.event.id).map LedgerEntry.toPosting =
        c.args.entries c.zarFee := by
      rw [hs.entries c hc]
      rfl
    refine .payment hone hevents hsucceeded hheld ⟨hs.charges c hc, hid, rfl⟩ ?_ ?_ ?_
    · rw [hamount, hfee]
      exact sub_add_cancel ..
    · rw [hentries, hamount, hfee]
      rfl
    · rw [hentries]
      exact hs.sound c hc

end Store.CapturedAs

/-! ## Replays -/

/-- The charge row of the notification is there. -/
def NormalisedItn.Committed (normalised : NormalisedItn) (s : Store) : Prop :=
  ∃ t ∈ s.transactions, t.paymentIntentId = normalised.mPaymentId ∧
    t.gatewayTxnId = some normalised.pfPaymentId ∧ t.pfPaymentStatus = some normalised.paymentStatus

namespace PayFastWebhookService

variable {args : CommitArgs} {fee : ℤ} {s s' : Store}

/-- A commit that returns has seen its charge row or has written it. -/
theorem of_commit_ok (h : commit args fee s = .ok ((), s')) :
    args.Seen s' ∧ (∀ t ∈ s.transactions, t ∈ s'.transactions) ∧ (args.Seen s → s' = s) := by
  have hnew (state : TransactionState) : args.isDuplicate (args.charge state s.nextId s.clock) :=
    decide_eq_true ⟨rfl, rfl, rfl⟩
  have hlast (state : TransactionState) : args.charge state s.nextId s.clock ∈
      s.transactions ++ [args.charge state s.nextId s.clock] :=
    List.mem_append_right _ (List.mem_singleton.mpr rfl)
  by_cases hst : args.paymentStatus = .complete
  · rw [commit_of_complete hst] at h
    rcases of_commitComplete_ok h with ⟨hseen, rfl⟩ | ⟨hc, rfl⟩
    · exact ⟨hseen, fun _ ht ↦ ht, fun _ ↦ rfl⟩
    · exact ⟨⟨_, hlast _, hnew _⟩, fun _ ht ↦ List.mem_append_left _ ht,
        fun hseen ↦ absurd hseen hc.unseen⟩
  · rw [commit_of_ne hst] at h
    rcases of_commitFailed_ok h with ⟨hseen, rfl⟩ | ⟨hunseen, -, rfl⟩
    · exact ⟨hseen, fun _ ht ↦ ht, fun _ ↦ rfl⟩
    · exact ⟨⟨_, hlast _, hnew _⟩, fun _ ht ↦ List.mem_append_left _ ht,
        fun hseen ↦ absurd hseen hunseen⟩

/-- The commit of a notification looks for that notification's charge row. -/
theorem seen_iff_committed {normalised : NormalisedItn} {s₀ : Store} {intent : PaymentIntent}
    (hf : s₀.paymentIntent? normalised.mPaymentId = some intent) (zarAmount : ℤ)
    (mPaymentId : EventValue) (traceparent tracestate : Option String) (s : Store) :
    (commitArgs intent zarAmount mPaymentId normalised.pfPaymentId normalised.paymentStatus
      traceparent tracestate).Seen s ↔ normalised.Committed s := by
  rw [seen_commitArgs_iff, (Table.find_some hf).2, NormalisedItn.Committed]

/-- A delivery returns only when the charge row is there. -/
theorem establishes_handle (config : PayFastConfig) (normalised : NormalisedItn)
    (traceparent tracestate : Option String) :
    Establishes (fun _ ↦ True) normalised.Committed
      (handle config normalised traceparent tracestate) := by
  unfold handle
  dsimp only
  split
  · exact establishes_throw _
  · refine establishes_read fun s₀ _ ↦ ?_
    cases hm : matchIntent normalised (s₀.paymentIntent? normalised.mPaymentId) with
    | error e => exact establishes_throw e
    | ok r =>
        obtain ⟨intent, zarAmount, fee⟩ := r
        have hfound := found_of_matchIntent hm
        rw [ofExcept_ok, ret_bind]
        dsimp only
        have hseen := seen_iff_committed hfound zarAmount (.uuid normalised.mPaymentId) traceparent
          tracestate
        split
        · rename_i hst
          refine establishes_transaction fun s u s' _ h ↦ (hseen s').mp ?_
          exact (of_commit_ok ((congrFun (commit_of_complete hst fee) s).trans h)).1
        · rename_i hst
          refine establishes_transaction fun s u s' _ h ↦ (hseen s').mp ?_
          exact (of_commit_ok ((congrFun (commit_of_ne hst fee) s).trans h)).1

/-- A delivery changes nothing once the charge row is there. -/
theorem guarantees_replay (config : PayFastConfig) (normalised : NormalisedItn)
    (traceparent tracestate : Option String) :
    Guarantees (fun _ ↦ True) (fun s s' ↦ normalised.Committed s → s' = s)
      (handle config normalised traceparent tracestate) := by
  refine guarantees_handle (fun _ _ _ ↦ rfl) ?_ config
  intro s₀ s s' intent zarAmount fee _ hf _ h hc
  exact (of_commit_ok h).2.2 ((seen_iff_committed hf ..).mpr hc)

end PayFastWebhookService

/-- No call removes or rewrites a transaction. -/
theorem rules_transactions (business : BusinessConfig) :
    PaymentRules business (fun _ ↦ True)
      fun s s' ↦ ∀ t ∈ s.transactions, t ∈ s'.transactions where
  refl := fun _ _ _ ht ↦ ht
  insert := by
    intro s s' row r _ _ _ h
    cases h
    exact fun _ ht ↦ ht
  move := by
    intro s s' op hold _ h
    obtain ⟨hold, target, w, entries, -, -, rfl⟩ := EscrowOp.commits_of_exec_eq h
    exact fun _ ht ↦ ht
  announce := fun _ _ _ _ _ _ ht ↦ ht
  commit := fun _ _ _ h ↦ (of_commit_ok h).2.1
  tick := fun _ _ _ ht ↦ ht

/-- For every intent, at every point of every interleaving, nothing or one payment has
been captured; a notification whose delivery has returned has its charge row; and from
when that row is there no step of any delivery of the notification changes the store. -/
theorem captured_once (config : SystemConfig) (clock nextId : ℕ) (intents : List PaymentIntent)
    (calls : List PaymentCall) (ts : List (Turn HttpOutcome Failure)) :
    let reached := Pool.run next (PaymentCall.pool config clock nextId intents calls)
    (∀ id, (reached ts).store.CapturedOnce id) ∧
      ∀ (normalised : NormalisedItn) (traceparent tracestate : Option String) (i : ℕ),
        calls[i]? = some (.intent (.itn normalised traceparent tracestate)) →
        ((reached ts).threads[i]? = some (.ret ()) → normalised.Committed (reached ts).store) ∧
        (normalised.Committed (reached ts).store →
          ∀ (later : List (Turn HttpOutcome Failure)) (move : Move HttpOutcome Failure),
            (reached (ts ++ later ++ [⟨i, move⟩])).store = (reached (ts ++ later)).store) := by
  intro reached
  have hgrows : ∀ p ∈ (PaymentCall.pool config clock nextId intents calls).threads,
      Guarantees (fun _ ↦ True)
        (fun s s' : Store ↦ ∀ t ∈ s.transactions, t ∈ s'.transactions) p := by
    intro p hp
    obtain ⟨c, -, rfl⟩ := List.mem_map.mp hp
    exact c.guarantees (rules_transactions config.business)
  have htrue : ∀ p ∈ (PaymentCall.pool config clock nextId intents calls).threads,
      Keeps (fun _ ↦ True) p := fun p _ ↦ keeps_true p
  refine ⟨fun id ↦ ?_, fun normalised traceparent tracestate i hi ↦ ?_⟩
  · obtain ⟨cs, hcs⟩ := PaymentCall.capturedAs_run config clock nextId intents calls ts
    exact hcs.capturedOnce id
  · have hstable : ∀ s s' : Store, normalised.Committed s →
        (∀ t ∈ s.transactions, t ∈ s'.transactions) → normalised.Committed s' := by
      rintro s s' ⟨t, ht, hrow⟩ hsub
      exact ⟨t, hsub t ht, hrow⟩
    have hthread : (PaymentCall.pool config clock nextId intents calls).threads[i]? =
        some (handle config.payfast normalised traceparent tracestate) := by
      change (calls.map _)[i]? = _
      rw [List.getElem?_map, hi]
      rfl
    constructor
    · intro hret
      refine Pool.establishes_run htrue (fun p hp ↦ ?_) trivial hthread
        (establishes_handle config.payfast normalised traceparent tracestate) ts hret
      exact (hgrows p hp).mono (fun _ hs ↦ hs) fun s s' _ hsub hc ↦ hstable s s' hc hsub
    · intro hc later move
      have hlater := Pool.stable_run (fun _ _ _ ht ↦ ht) htrue hgrows trivial hstable hc later
      have hturn := Pool.guarantees_turn (fun _ _ _ ↦ rfl) htrue trivial hthread
        (guarantees_replay config.payfast normalised traceparent tracestate) (ts ++ later)
        (rfl : (⟨i, move⟩ : Turn HttpOutcome Failure).thread = i)
      have happend : reached (ts ++ later ++ [⟨i, move⟩]) =
          Pool.step next (reached (ts ++ later)) ⟨i, move⟩ := Transition.run_append ..
      rw [happend]
      exact hturn hlater

end GearshPayments
