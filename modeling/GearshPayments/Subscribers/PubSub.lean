import GearshPayments.Events.CloudEvent
import GearshPayments.Transition
import Mathlib.Data.List.Count
import Mathlib.Data.List.Nodup
import Mathlib.Data.List.Perm.Subperm

/-!
# The Pub/Sub subscriber

`PubSubSubscriber.onMessage` and `ProcessedEventsService.markIfFirst`: a message
is handed to the handlers that match it, one after the other, each at most once,
and is acknowledged when none of them throws.  The marker that makes a handler run
at most once is committed before the handler runs, and it stays when the handler
throws.

Handlers are of any type.  What a handler does elsewhere is not part of this
module; here it completes or throws, on each delivery as a given pattern says.
-/

namespace GearshPayments

structure ProcessedEvent where
  eventId : ℕ
  consumerName : String
  eventType : String
deriving DecidableEq

/-- Insert the marker, unless the pair of event and consumer has one. -/
def markIfFirst (eventId : ℕ) (consumer eventType : String) (processed : List ProcessedEvent) :
    Bool × List ProcessedEvent :=
  if processed.any fun r ↦ r.eventId = eventId ∧ r.consumerName = consumer then (false, processed)
  else (true, processed ++ [⟨eventId, consumer, eventType⟩])

/-- How a call of a handler ends. -/
inductive CallResult where
  | completed | threw
deriving DecidableEq

/-- What the subscriber answers to a delivery. -/
inductive Verdict where
  | ack | nack
deriving DecidableEq

/-- The registered handlers, each a different object. -/
structure Handlers (H : Type) where
  registered : List H
  consumerName : H → String
  handles : H → String → Bool
  nodup : registered.Nodup

/-- What a delivery reads and leaves: the markers, and the calls made so far. -/
structure Inbox (H : Type) where
  processed : List ProcessedEvent
  calls : List (H × CallResult)

namespace PubSubSubscriber

variable {H : Type} (hs : Handlers H)

/-- The handlers that claim an event. -/
def matched (event : CloudEvent) : List H := hs.registered.filter fun h ↦ hs.handles h event.type

/-- The loop of `onMessage` over the matched handlers, of which `throws` says which
throw on this delivery. -/
def dispatch (event : CloudEvent) (throws : H → Bool) : List H → Inbox H → Verdict × Inbox H
  | [], w => (.ack, w)
  | h :: rest, w =>
    match markIfFirst event.id (hs.consumerName h) event.type w.processed with
    | (false, _) => dispatch event throws rest w
    | (true, processed) =>
      if throws h then (.nack, ⟨processed, w.calls ++ [(h, .threw)]⟩)
      else dispatch event throws rest ⟨processed, w.calls ++ [(h, .completed)]⟩

/-- Handle one delivery of a message. -/
def onMessage (throws : H → Bool) (message : Option RawEnvelope) (w : Inbox H) :
    Verdict × Inbox H :=
  match parseEnvelope message with
  | none => (.nack, w)
  | some event =>
    if (matched hs event).length = 0 then (.ack, w)
    else dispatch hs event throws (matched hs event) w

/-- A message on its way: what its deliveries left, and whether one was acknowledged. -/
structure Subscription (H : Type) where
  inbox : Inbox H
  acked : Bool

/-- The next delivery, unless the message has been acknowledged. -/
def deliver (message : Option RawEnvelope) (s : Subscription H) (throws : H → Bool) :
    Subscription H :=
  if s.acked then s
  else
    let (verdict, inbox) := onMessage hs throws message s.inbox
    ⟨inbox, verdict = .ack⟩

/-- After the first `n` deliveries, with `throws k` on the `k`-th. -/
def afterDeliveries (message : Option RawEnvelope) (throws : ℕ → H → Bool)
    (processed : List ProcessedEvent) (n : ℕ) : Subscription H :=
  Transition.run (deliver hs message) ⟨⟨processed, []⟩, false⟩ ((List.range n).map throws)

/-! ## One delivery -/

variable {hs} {event : CloudEvent} {throws : H → Bool}

/-- The consumer of the handler has a marker for the event. -/
def Marked (hs : Handlers H) (event : CloudEvent) (w : Inbox H) (h : H) : Prop :=
  ∃ r ∈ w.processed, r.eventId = event.id ∧ r.consumerName = hs.consumerName h

/-- A handler whose consumer is marked is skipped. -/
theorem dispatch_of_marked {h : H} {rest : List H} {w : Inbox H} (hm : Marked hs event w h) :
    dispatch hs event throws (h :: rest) w = dispatch hs event throws rest w := by
  have ha : (w.processed.any fun r ↦ r.eventId = event.id ∧ r.consumerName = hs.consumerName h) =
      true := by
    obtain ⟨r, hr, he⟩ := hm
    exact List.any_eq_true.mpr ⟨r, hr, decide_eq_true he⟩
  simp only [dispatch, markIfFirst, ha, if_true]

/-- The inbox after a call of the handler. -/
def called (hs : Handlers H) (event : CloudEvent) (w : Inbox H) (h : H) (r : CallResult) :
    Inbox H :=
  ⟨w.processed ++ [⟨event.id, hs.consumerName h, event.type⟩], w.calls ++ [(h, r)]⟩

/-- A handler whose consumer is not marked is called, and ends the loop if it throws. -/
theorem dispatch_of_not_marked {h : H} {rest : List H} {w : Inbox H}
    (hm : ¬Marked hs event w h) :
    dispatch hs event throws (h :: rest) w =
      if throws h then (.nack, called hs event w h .threw)
      else dispatch hs event throws rest (called hs event w h .completed) := by
  have ha : ¬(w.processed.any fun r ↦ r.eventId = event.id ∧ r.consumerName = hs.consumerName h) =
      true := by
    intro ha
    obtain ⟨r, hr, he⟩ := List.any_eq_true.mp ha
    exact hm ⟨r, hr, of_decide_eq_true he⟩
  simp only [dispatch, markIfFirst, ha]
  rfl

/-- What every delivery keeps: calls were made for different consumers, each of
which is marked. -/
structure Once (hs : Handlers H) (event : CloudEvent) (w : Inbox H) : Prop where
  distinct : (w.calls.map fun c ↦ hs.consumerName c.1).Nodup
  marked : ∀ c ∈ w.calls, Marked hs event w c.1

theorem Marked.call {w : Inbox H} {h : H} (hm : Marked hs event w h) (h' : H) (r : CallResult) :
    Marked hs event (called hs event w h' r) h := by
  obtain ⟨x, hx, he⟩ := hm
  exact ⟨x, List.mem_append_left _ hx, he⟩

theorem marked_call_iff {w : Inbox H} {h h' : H} {r : CallResult} :
    Marked hs event (called hs event w h' r) h ↔
      Marked hs event w h ∨ hs.consumerName h' = hs.consumerName h := by
  constructor
  · rintro ⟨x, hx, he⟩
    rcases List.mem_append.mp hx with hx | hx
    · exact .inl ⟨x, hx, he⟩
    · rw [List.mem_singleton.mp hx] at he
      exact .inr he.2
  · rintro (hm | he)
    · exact hm.call h' r
    · exact ⟨_, List.mem_append_right _ (List.mem_singleton.mpr rfl), rfl, he⟩

theorem Once.call {w : Inbox H} (hw : Once hs event w) {h : H} (hm : ¬Marked hs event w h)
    (r : CallResult) : Once hs event (called hs event w h r) := by
  refine ⟨?_, ?_⟩
  · rw [called, List.map_append]
    refine List.nodup_append.mpr ⟨hw.distinct, by simp, ?_⟩
    intro a ha b hb hab
    obtain ⟨c, hc, rfl⟩ := List.mem_map.mp ha
    obtain ⟨x, hx, he⟩ := hw.marked c hc
    rw [List.map_singleton, List.mem_singleton] at hb
    exact hm ⟨x, hx, he.1, he.2.trans (hab.trans hb)⟩
  · intro c hc
    rcases List.mem_append.mp hc with hc | hc
    · exact (hw.marked c hc).call h r
    · rw [List.mem_singleton.mp hc]
      exact marked_call_iff.mpr (.inr rfl)

/-- What the loop does to an inbox: it keeps `Once`, only adds calls of the handlers
it is given, and adds one when it ends with a nack. -/
theorem dispatch_spec (hl : List H) {w : Inbox H} (hw : Once hs event w) :
    Once hs event (dispatch hs event throws hl w).2 ∧
      w.calls <+: (dispatch hs event throws hl w).2.calls ∧
      (∀ c ∈ (dispatch hs event throws hl w).2.calls, c ∈ w.calls ∨ c.1 ∈ hl) ∧
      ((dispatch hs event throws hl w).1 = .nack →
        w.calls.length < (dispatch hs event throws hl w).2.calls.length) := by
  induction hl generalizing w with
  | nil => exact ⟨hw, List.prefix_rfl, fun c hc ↦ .inl hc, fun h ↦ by cases h⟩
  | cons h rest ih =>
      by_cases hm : Marked hs event w h
      · rw [dispatch_of_marked hm]
        obtain ⟨h₁, h₂, h₃, h₄⟩ := ih hw
        exact ⟨h₁, h₂, fun c hc ↦ (h₃ c hc).imp_right (List.mem_cons_of_mem _), h₄⟩
      · rw [dispatch_of_not_marked hm]
        split
        · refine ⟨hw.call hm _, List.prefix_append _ _, fun c hc ↦ ?_, fun _ ↦ ?_⟩
          · rcases List.mem_append.mp hc with hc | hc
            · exact .inl hc
            · rw [List.mem_singleton.mp hc]
              exact .inr (List.mem_cons_self ..)
          · simp [called]
        · obtain ⟨h₁, h₂, h₃, h₄⟩ := ih (hw.call hm .completed)
          refine ⟨h₁, (List.prefix_append _ _).trans h₂, fun c hc ↦ ?_, fun hn ↦ ?_⟩
          · rcases h₃ c hc with hc | hc
            · rcases List.mem_append.mp hc with hc | hc
              · exact .inl hc
              · rw [List.mem_singleton.mp hc]
                exact .inr (List.mem_cons_self ..)
            · exact .inr (List.mem_cons_of_mem _ hc)
          · have hlen : (called hs event w h .completed).calls.length = w.calls.length + 1 := by
              simp [called]
            have := h₄ hn
            omega

/-- With different consumers, none marked and none of which throws, the loop calls
every handler and ends with an ack. -/
theorem dispatch_of_none_throws {hl : List H} {w : Inbox H}
    (hn : (hl.map hs.consumerName).Nodup) (hm : ∀ h ∈ hl, ¬Marked hs event w h)
    (ht : ∀ h ∈ hl, throws h = false) :
    (dispatch hs event throws hl w).1 = .ack ∧
      (dispatch hs event throws hl w).2.calls = w.calls ++ hl.map fun h ↦ (h, .completed) := by
  induction hl generalizing w with
  | nil => exact ⟨rfl, by simp [dispatch]⟩
  | cons h rest ih =>
      rw [List.map_cons, List.nodup_cons] at hn
      rw [dispatch_of_not_marked (hm h (List.mem_cons_self ..)), ht h (List.mem_cons_self ..)]
      have hm' : ∀ x ∈ rest, ¬Marked hs event (called hs event w h .completed) x := by
        intro x hx hk
        rcases marked_call_iff.mp hk with hk | hk
        · exact hm x (List.mem_cons_of_mem _ hx) hk
        · exact hn.1 (hk ▸ List.mem_map_of_mem hx)
      obtain ⟨h₁, h₂⟩ := ih hn.2 hm' fun x hx ↦ ht x (List.mem_cons_of_mem _ hx)
      refine ⟨h₁, h₂.trans ?_⟩
      simp [called]

/-- With different consumers, none marked, the first handler that throws is called,
and its call throws. -/
theorem dispatch_of_throws {hl : List H} {w : Inbox H} (hn : (hl.map hs.consumerName).Nodup)
    (hm : ∀ h ∈ hl, ¬Marked hs event w h) (ht : ∃ h ∈ hl, throws h = true) :
    ∃ h ∈ hl, (h, .threw) ∈ (dispatch hs event throws hl w).2.calls := by
  induction hl generalizing w with
  | nil => simp at ht
  | cons h rest ih =>
      rw [List.map_cons, List.nodup_cons] at hn
      rw [dispatch_of_not_marked (hm h (List.mem_cons_self ..))]
      by_cases hh : throws h = true
      · rw [if_pos hh]
        exact ⟨h, List.mem_cons_self .., List.mem_append_right _ (List.mem_singleton.mpr rfl)⟩
      · rw [if_neg hh]
        obtain ⟨x, hx, hxt⟩ := ht
        have hxr : x ∈ rest := by
          rcases List.mem_cons.mp hx with rfl | hx
          · exact absurd hxt hh
          · exact hx
        have hm' : ∀ x ∈ rest, ¬Marked hs event (called hs event w h .completed) x := by
          intro x hx hk
          rcases marked_call_iff.mp hk with hk | hk
          · exact hm x (List.mem_cons_of_mem _ hx) hk
          · exact hn.1 (hk ▸ List.mem_map_of_mem hx)
        obtain ⟨t, ht, hc⟩ := ih hn.2 hm' ⟨x, hxr, hxt⟩
        exact ⟨t, List.mem_cons_of_mem _ ht, hc⟩

/-! ## All deliveries -/

variable {message : Option RawEnvelope} {pattern : ℕ → H → Bool} {processed : List ProcessedEvent}

theorem afterDeliveries_succ (n : ℕ) :
    afterDeliveries hs message pattern processed (n + 1) =
      deliver hs message (afterDeliveries hs message pattern processed n) (pattern n) := by
  rw [afterDeliveries, List.range_succ, List.map_append, Transition.run_append]
  rfl

/-- The delivery of a message with an envelope is the loop over the matched handlers. -/
theorem onMessage_eq (hp : parseEnvelope message = some event) (w : Inbox H) :
    onMessage hs throws message w = dispatch hs event throws (matched hs event) w := by
  rw [onMessage, hp]
  dsimp only
  split
  · rename_i h0
    rw [List.length_eq_zero_iff.mp h0]
    rfl
  · rfl

variable (pattern processed)

/-- What all deliveries so far kept, and how many calls they made at least. -/
theorem afterDeliveries_spec (hp : parseEnvelope message = some event) (n : ℕ) :
    Once hs event (afterDeliveries hs message pattern processed n).inbox ∧
      (∀ c ∈ (afterDeliveries hs message pattern processed n).inbox.calls,
        c.1 ∈ matched hs event) ∧
      ((afterDeliveries hs message pattern processed n).acked = true ∨
        n ≤ (afterDeliveries hs message pattern processed n).inbox.calls.length) := by
  induction n with
  | zero =>
      refine ⟨⟨List.nodup_nil, fun c hc ↦ ?_⟩, fun c hc ↦ ?_, .inr (Nat.zero_le _)⟩
      · exact absurd hc List.not_mem_nil
      · exact absurd hc List.not_mem_nil
  | succ n ih =>
      obtain ⟨hw, hsub, hlen⟩ := ih
      rw [afterDeliveries_succ, deliver]
      split
      · rename_i ha
        exact ⟨hw, hsub, .inl ha⟩
      · rename_i ha
        rw [onMessage_eq hp]
        obtain ⟨h₁, -, h₃, h₄⟩ := dispatch_spec (matched hs event) hw
        refine ⟨h₁, fun c hc ↦ (h₃ c hc).elim (hsub c) id, ?_⟩
        have hn := hlen.resolve_left ha
        cases hv : (dispatch hs event (pattern n) (matched hs event)
          (afterDeliveries hs message pattern processed n).inbox).1 with
        | ack => exact .inl (by simp only [hv]; rfl)
        | nack => exact .inr (Nat.lt_of_le_of_lt hn (h₄ hv))

/-- Calls are never forgotten. -/
theorem calls_of_le (hp : parseEnvelope message = some event) {n m : ℕ} (hnm : n ≤ m) :
    (afterDeliveries hs message pattern processed n).inbox.calls <+:
      (afterDeliveries hs message pattern processed m).inbox.calls := by
  induction hnm with
  | refl => exact List.prefix_rfl
  | @step m hnm ih =>
      refine ih.trans ?_
      rw [afterDeliveries_succ, deliver]
      split
      · exact List.prefix_rfl
      · rw [onMessage_eq hp]
        exact (dispatch_spec (matched hs event) (afterDeliveries_spec pattern processed hp m).1).2.1

/-- Every nack spends a handler, so one delivery more than there are matched handlers
acknowledges the message. -/
theorem acked_of_length (hp : parseEnvelope message = some event) :
    (afterDeliveries hs message pattern processed
      ((matched hs event).length + 1)).acked = true := by
  obtain ⟨hw, hsub, hlen⟩ :=
    afterDeliveries_spec pattern processed hp ((matched hs event).length + 1)
  refine hlen.resolve_right fun hle ↦ ?_
  have hnd : ((afterDeliveries hs message pattern processed
      ((matched hs event).length + 1)).inbox.calls.map Prod.fst).Nodup := by
    refine List.Nodup.of_map hs.consumerName ?_
    rw [List.map_map]
    exact hw.distinct
  have hss : (afterDeliveries hs message pattern processed
      ((matched hs event).length + 1)).inbox.calls.map Prod.fst ⊆ matched hs event := by
    intro h hh
    obtain ⟨c, hc, rfl⟩ := List.mem_map.mp hh
    exact hsub c hc
  have := (hnd.subperm hss).length_le
  rw [List.length_map] at this
  omega

variable {pattern processed}

theorem not_marked_of_new (hnew : ∀ r ∈ processed, r.eventId ≠ event.id) (h : H) :
    ¬Marked hs event ⟨processed, []⟩ h :=
  fun ⟨r, hr, he⟩ ↦ hnew r hr he.1

/-- An acknowledged message is delivered no more. -/
theorem afterDeliveries_of_acked {n m : ℕ} (hnm : n ≤ m)
    (ha : (afterDeliveries hs message pattern processed n).acked = true) :
    afterDeliveries hs message pattern processed m =
      afterDeliveries hs message pattern processed n := by
  induction hnm with
  | refl => rfl
  | step _ ih => rw [afterDeliveries_succ, ih, deliver, if_pos ha]

variable [DecidableEq H]

/-- No call of a handler can be joined by another of the same consumer. -/
theorem count_eq_zero_of_mem {w : Inbox H} (hw : Once hs event w) {c : H × CallResult}
    (hc : c ∈ w.calls) {h : H} {r : CallResult} (hn : hs.consumerName c.1 = hs.consumerName h)
    (hne : c ≠ (h, r)) : w.calls.count (h, r) = 0 := by
  refine List.count_eq_zero.mpr fun hm ↦ hne ?_
  exact List.inj_on_of_nodup_map hw.distinct hc hm hn

/-- The condition under which the first delivery does all the work. -/
def SettlesAtOnce (hs : Handlers H) (pattern : ℕ → H → Bool) (event : CloudEvent) : Prop :=
  ((matched hs event).map hs.consumerName).Nodup ∧ ∀ h ∈ matched hs event, pattern 0 h = false

/-- When it does, the message is acknowledged with one completed call of each handler. -/
theorem completed_of_settlesAtOnce (hp : parseEnvelope message = some event)
    (hnew : ∀ r ∈ processed, r.eventId ≠ event.id) (hc : SettlesAtOnce hs pattern event) {n : ℕ}
    (ha : (afterDeliveries hs message pattern processed n).acked = true) {h : H}
    (hh : h ∈ matched hs event) :
    (afterDeliveries hs message pattern processed n).inbox.calls.count (h, .completed) = 1 := by
  obtain ⟨hv, hcalls⟩ :=
    dispatch_of_none_throws hc.1 (fun h _ ↦ not_marked_of_new hnew h) hc.2
  have h1 : afterDeliveries hs message pattern processed 1 =
      ⟨(dispatch hs event (pattern 0) (matched hs event) ⟨processed, []⟩).2, true⟩ := by
    rw [afterDeliveries_succ, deliver, onMessage_eq hp]
    simp [afterDeliveries, Transition.run, hv]
  have hn : 1 ≤ n := by
    rcases Nat.eq_zero_or_pos n with rfl | hn
    · exact absurd ha Bool.false_ne_true
    · exact hn
  rw [afterDeliveries_of_acked hn (by rw [h1]), h1]
  show (dispatch hs event (pattern 0) (matched hs event) ⟨processed, []⟩).2.calls.count _ = 1
  rw [hcalls, List.nil_append]
  refine List.count_eq_one_of_mem ?_ (List.mem_map_of_mem hh)
  exact (hs.nodup.filter _).map fun a b hab ↦ (Prod.mk.inj hab).1

/-- When it does not, some matching handler has not completed exactly once by the time
the message is acknowledged. -/
theorem settlesAtOnce_of_completed (hp : parseEnvelope message = some event)
    (hnew : ∀ r ∈ processed, r.eventId ≠ event.id) {n : ℕ}
    (ha : (afterDeliveries hs message pattern processed n).acked = true)
    (hall : ∀ h ∈ matched hs event,
      (afterDeliveries hs message pattern processed n).inbox.calls.count (h, .completed) = 1) :
    SettlesAtOnce hs pattern event := by
  obtain ⟨hw, -, -⟩ := afterDeliveries_spec pattern processed hp n
  have hmem : ∀ h ∈ matched hs event,
      (h, .completed) ∈ (afterDeliveries hs message pattern processed n).inbox.calls :=
    fun h hh ↦ List.count_pos_iff.mp (by rw [hall h hh]; exact Nat.one_pos)
  -- two handlers of one consumer would both have a call
  have hdist : ((matched hs event).map hs.consumerName).Nodup := by
    refine (hs.nodup.filter _).map_on fun x hx y hy hxy ↦ ?_
    exact (Prod.mk.inj (List.inj_on_of_nodup_map hw.distinct (hmem x hx) (hmem y hy) hxy)).1
  refine ⟨hdist, ?_⟩
  by_contra hthrow
  have ht : ∃ h ∈ matched hs event, pattern 0 h = true := by
    push Not at hthrow
    obtain ⟨h, hh, hne⟩ := hthrow
    exact ⟨h, hh, Bool.eq_true_of_not_eq_false hne⟩
  obtain ⟨t, htm, htc⟩ :=
    dispatch_of_throws hdist (fun h _ ↦ not_marked_of_new hnew h) ht
  have hn : 1 ≤ n := by
    rcases Nat.eq_zero_or_pos n with rfl | hn
    · exact absurd ha Bool.false_ne_true
    · exact hn
  -- the call that threw is there for good, so the handler is never called again
  have hkeep : (t, CallResult.threw) ∈
      (afterDeliveries hs message pattern processed n).inbox.calls := by
    refine (calls_of_le pattern processed hp hn).subset ?_
    rw [afterDeliveries_succ, deliver, onMessage_eq hp]
    exact htc
  have hzero := count_eq_zero_of_mem hw hkeep (h := t) (r := .completed) rfl (by simp)
  rw [hall t htm] at hzero
  exact Nat.one_ne_zero hzero

/-- Acknowledged means that every matching handler has run to completion, once, for
exactly those messages whose matching handlers are different consumers and do not
throw on the first delivery. -/
theorem acked_iff_completed (hs : Handlers H) (message : Option RawEnvelope)
    (pattern : ℕ → H → Bool) (processed : List ProcessedEvent)
    (hnew : ∀ event ∈ parseEnvelope message, ∀ r ∈ processed, r.eventId ≠ event.id) :
    (∀ n, (afterDeliveries hs message pattern processed n).acked = true →
      ∀ event ∈ parseEnvelope message, ∀ h ∈ matched hs event,
        (afterDeliveries hs message pattern processed n).inbox.calls.count (h, .completed) = 1) ↔
    ∀ event ∈ parseEnvelope message, ((matched hs event).map hs.consumerName).Nodup ∧
      ∀ h ∈ matched hs event, pattern 0 h = false := by
  constructor
  · intro hall event hp
    have ha : (afterDeliveries hs message pattern processed
        ((matched hs event).length + 1)).acked = true := acked_of_length pattern processed hp
    exact settlesAtOnce_of_completed hp (hnew event hp) ha (hall _ ha event hp)
  · intro hc n ha event hp h hh
    exact completed_of_settlesAtOnce hp (hnew event hp) (hc event hp) ha hh

/-- A message about a disputed booking. -/
def disputed : RawEnvelope where
  specversion := some "1.0"
  id := some 7
  type := some "bookings.disputed"
  source := some "data-engine"
  subject := some "bookings/1"
  datacontenttype := some "application/json"
  data := some [("bookingId", .uuid 1)]
  traceparent := none
  tracestate := none

/-- The handler of booking events, alone. -/
def bookingHandler : Handlers Unit where
  registered := [()]
  consumerName := fun _ ↦ "payments-escrow-booking"
  handles := fun _ type ↦ type = "bookings.completed" ∨ type = "bookings.cancelled" ∨
    type = "bookings.disputed"
  nodup := List.nodup_singleton _

/-- A message whose handler has never thrown. -/
theorem acked_iff_completed_disputed :
    (∀ n, (afterDeliveries bookingHandler (some disputed) (fun _ _ ↦ false) [] n).acked = true →
      ∀ event ∈ parseEnvelope (some disputed), ∀ h ∈ matched bookingHandler event,
        (afterDeliveries bookingHandler (some disputed) (fun _ _ ↦ false) [] n).inbox.calls.count
          (h, .completed) = 1) ↔
    ∀ event ∈ parseEnvelope (some disputed),
      ((matched bookingHandler event).map bookingHandler.consumerName).Nodup ∧
        ∀ h ∈ matched bookingHandler event, false = false :=
  acked_iff_completed bookingHandler (some disputed) (fun _ _ ↦ false) [] (by simp)

/-- The handler throws on the first delivery only; the second is acknowledged, and
the handler has not run again. -/
theorem acked_without_completion :
    ¬∀ n, (afterDeliveries bookingHandler (some disputed) (fun k _ ↦ k = 0) [] n).acked = true →
      ∀ event ∈ parseEnvelope (some disputed), ∀ h ∈ matched bookingHandler event,
        (afterDeliveries bookingHandler (some disputed) (fun k _ ↦ k = 0) [] n).inbox.calls.count
          (h, .completed) = 1 := by
  intro hall
  have hacked : (afterDeliveries bookingHandler (some disputed) (fun k _ ↦ k = 0) [] 2).acked =
      true := by decide
  have hcalls :
      (afterDeliveries bookingHandler (some disputed) (fun k _ ↦ k = 0) [] 2).inbox.calls =
      [((), .threw)] := by decide
  have hone := hall 2 hacked ⟨7, "bookings.disputed", [("bookingId", .uuid 1)], none, none⟩ rfl ()
    (by decide)
  rw [hcalls] at hone
  exact absurd hone (by decide)

end PubSubSubscriber

end GearshPayments
