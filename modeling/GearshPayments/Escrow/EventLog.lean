import GearshPayments.Escrow.Owed
import Mathlib.Data.List.Forall2

/-!
# The event log and the outbox refine the hold

Consumers see a hold through its events alone: `HoldView.of` is the view they fold out
of the log.  The view is the state of the row, with its running total; every event has
one announcement in the outbox, in the same order and with the same amounts, and the
timestamps of the row tell which kinds of event there have been
(`EscrowHold.Logged`).
-/

namespace GearshPayments

open DoubleEntry EscrowService

/-! ## The view of a consumer -/

/-- What the log says of a hold. -/
structure HoldView where
  state : EscrowState
  partiallyRefundedCents : ℤ
deriving DecidableEq

namespace HoldView

/-- A hold is opened by its first event and by no other. -/
def apply : Option HoldView → EscrowEvent → Option HoldView
  | none, e => if e.type = .held then some ⟨.held, 0⟩ else none
  | some v, e => match e.type with
    | .held => none
    | .released | .resolvedRelease => some { v with state := .released }
    | .refunded | .resolvedRefund => some { v with state := .refunded }
    | .partiallyRefunded =>
      some ⟨.partiallyRefunded, v.partiallyRefundedCents + e.amountCents⟩
    | .frozen => some { v with state := .disputed }

/-- The view folded out of a log. -/
def of (events : List EscrowEvent) : Option HoldView := events.foldl apply none

theorem of_concat (events : List EscrowEvent) (e : EscrowEvent) :
    of (events ++ [e]) = apply (of events) e := by
  rw [of, List.foldl_append]
  rfl

end HoldView

/-- The view that the row gives. -/
def EscrowHold.view (h : EscrowHold) : HoldView := ⟨h.state, h.partiallyRefundedAmountCents⟩

/-! ## Announcements -/

/-- What an event adds to the running total. -/
def EscrowEvent.partialCents (e : EscrowEvent) : ℤ :=
  if e.type = .partiallyRefunded then e.amountCents else 0

/-- The events of a log, each with the running total after it. -/
def withRunning : ℤ → List EscrowEvent → List (EscrowEvent × ℤ)
  | _, [] => []
  | total, e :: es => (e, total + e.partialCents) :: withRunning (total + e.partialCents) es

theorem withRunning_concat (total : ℤ) (es : List EscrowEvent) (e : EscrowEvent) :
    withRunning total (es ++ [e]) = withRunning total es ++
      [(e, total + (es.map EscrowEvent.partialCents).sum + e.partialCents)] := by
  induction es generalizing total with
  | nil => simp [withRunning]
  | cons e' es ih =>
      rw [List.cons_append, withRunning, ih, withRunning, List.map_cons, List.sum_cons, ← add_assoc]
      rfl

/-- The row announces how an amount is split between artist and client, or, where nothing is left
for the artist, it may say nothing of a split. -/
def OutboxEvent.Splits (o : OutboxEvent) (artistCents clientCents : ℤ) : Prop :=
  (o.data.get "splitArtistCents" = none ∧ o.data.get "splitClientCents" = none ∧ artistCents = 0) ∨
    (o.data.get "splitArtistCents" = some (.num artistCents) ∧
      o.data.get "splitClientCents" = some (.num clientCents))

/-- The row announces an event of a hold of that amount, with the running total after it: its type
is that of the event, and so are its amounts, where it has any.  A refund that ends the hold leaves
to the artist what then remains. -/
def OutboxEvent.Announces (o : OutboxEvent) (amountCents : ℤ) (e : EscrowEvent) (running : ℤ) :
    Prop :=
  match e.type with
  | .held => o.eventType = .escrowHeld ∧ o.data.get "amountCents" = some (.num e.amountCents)
  | .released | .resolvedRelease =>
    o.eventType = .escrowReleased ∧ o.data.get "amountCents" = some (.num e.amountCents)
  | .refunded | .resolvedRefund =>
    o.eventType = .escrowRefunded ∧ o.data.get "refundCents" = some (.num e.amountCents) ∧
      o.Splits (amountCents - running - e.amountCents) e.amountCents
  | .partiallyRefunded =>
    o.eventType = .escrowPartiallyRefunded ∧ o.data.get "refundCents" = some (.num e.amountCents) ∧
      o.data.get "runningRefundedCents" = some (.num running)
  | .frozen => o.eventType = .escrowFrozen

/-- Each event of a hold of that amount has its announcement, in order. -/
def Announced (amountCents : ℤ) (events : List EscrowEvent) (notices : List OutboxEvent) : Prop :=
  List.Forall₂ (fun (e : EscrowEvent × ℤ) o ↦ o.Announces amountCents e.1 e.2)
    (withRunning 0 events) notices

theorem Announced.concat {amountCents : ℤ} {events : List EscrowEvent} {notices : List OutboxEvent}
    (h : Announced amountCents events notices) {e : EscrowEvent} {o : OutboxEvent}
    (ho : o.Announces amountCents e
      ((events.map EscrowEvent.partialCents).sum + e.partialCents)) :
    Announced amountCents (events ++ [e]) (notices ++ [o]) := by
  rw [Announced, withRunning_concat, zero_add]
  exact List.rel_append h (.cons ho .nil)

/-! ## One operation -/

/-- An event of one of the kinds has occurred. -/
def HoldRecords.Occurred (r : HoldRecords) (kinds : List EscrowEventType) : Prop :=
  ∃ e ∈ r.events, e.type ∈ kinds

/-- The row of a hold agrees with its log, with what was announced and with what the ledger owes
the artist. -/
structure EscrowHold.Logged (h : EscrowHold) (r : HoldRecords) : Prop where
  view : HoldView.of r.events = some h.view
  running : (r.events.map EscrowEvent.partialCents).sum = h.partiallyRefundedAmountCents
  announced : Announced h.amountCents r.events r.notices
  released : h.releasedAt.isSome = true ↔
    r.Occurred [.released, .resolvedRelease] ∨
      (r.Occurred [.resolvedRefund] ∧ 0 < toArtist r.entries)
  resolved : ∀ e ∈ r.events, e.type = .resolvedRefund →
    toArtist r.entries = h.remaining - e.amountCents
  refunded : h.refundedAt.isSome = true ↔
    r.Occurred [.refunded, .partiallyRefunded, .resolvedRefund]
  disputed : h.disputedAt.isSome = true ↔ r.Occurred [.frozen]
  unreleased : h.state.holdsMoney = true → h.releasedAt = none
  uncredited : h.state.holdsMoney = true → toArtist r.entries = 0
  unresolved : h.state.holdsMoney = true → ¬r.Occurred [.resolvedRefund]

/-- What an operation writes in the row, the log and the outbox agrees, and so does what it pays
out. -/
structure Logs (hold : EscrowHold) (w : Writes) (e : EscrowEvent) (o : OutboxEvent) : Prop where
  view : HoldView.apply (some hold.view) e = some (w.update hold).view
  running : (w.update hold).partiallyRefundedAmountCents =
    hold.partiallyRefundedAmountCents + e.partialCents
  announced : o.Announces hold.amountCents e (w.update hold).partiallyRefundedAmountCents
  released : (w.update hold).releasedAt.isSome = true ↔
    e.type ∈ [EscrowEventType.released, .resolvedRelease] ∨
      (e.type = .resolvedRefund ∧ 0 < w.payout)
  resolved : e.type = .resolvedRefund → w.payout = hold.remaining - e.amountCents
  refunded : (w.update hold).refundedAt.isSome = true ↔ hold.refundedAt.isSome = true ∨
    e.type ∈ [EscrowEventType.refunded, .partiallyRefunded, .resolvedRefund]
  disputed : (w.update hold).disputedAt.isSome = true ↔
    hold.disputedAt.isSome = true ∨ e.type ∈ [EscrowEventType.frozen]
  unreleased : (w.update hold).state.holdsMoney = true →
    (w.update hold).releasedAt = none ∧ e.type ≠ .resolvedRefund

/-- A small amount leaves as it is. -/
theorem cents_of_lt {amount bound : ℤ} (h0 : 0 ≤ amount) (hle : amount ≤ bound)
    (hlt : bound < 2 ^ 53) : EventValue.cents amount = .num amount := by
  rw [EventValue.cents, number_of_natAbs_lt]
  omega

/-- An announcement without the fields of a split leaves nothing to the artist. -/
theorem splits_of_none {o : OutboxEvent} (hartist : o.data.get "splitArtistCents" = none)
    (hclient : o.data.get "splitClientCents" = none) {artistCents : ℤ} (h : artistCents = 0)
    (clientCents : ℤ) : o.Splits artistCents clientCents :=
  .inl ⟨hartist, hclient, h⟩

/-- An event that releases nothing and pays nothing out, for a hold that stays unreleased. -/
theorem unreleased_iff {h : EscrowHold} (hu : h.releasedAt = none) (type : EscrowEventType)
    (ht : type ∉ [EscrowEventType.released, .resolvedRelease]) {payout : ℤ} (hpayout : payout = 0) :
    h.releasedAt.isSome = true ↔ type ∈ [EscrowEventType.released, .resolvedRelease] ∨
      (type = .resolvedRefund ∧ 0 < payout) := by
  refine iff_of_false ?_ ?_
  · rw [hu]
    exact Bool.false_ne_true
  · rintro (h | ⟨-, h⟩)
    · exact ht h
    · exact h.ne' hpayout

namespace EscrowOp.Commits

variable {config : BusinessConfig} {op : EscrowOp} {s : Store} {hold : EscrowHold}
  {target : EscrowState} {w : Writes} {entries : List LedgerEntryInput}

/-- Every operation on a hold that has not been released writes what agrees. -/
theorem logs (hc : op.Commits s hold target w entries) {p : Pot ℤ} (hp : hold.Shows p)
    (hlt : hold.amountCents < 2 ^ 53) (hu : hold.releasedAt = none) (i : ℕ) :
    Logs hold w (w.event hold s) (OutboxService.row w.notice i s.clock) := by
  obtain ⟨h0, hle⟩ := hp.bounds
  have hrem : EventValue.cents hold.remaining = .num hold.remaining :=
    cents_of_lt (sub_nonneg.mpr hle) (sub_le_self _ h0) hlt
  obtain rfl := target_of_legal hc.legal
  have hwork := hc.work
  cases op with
  | release id opts =>
      obtain ⟨-, rfl⟩ := of_guard_ok hwork
      exact {
        view := rfl
        running := (add_zero _).symm
        announced := ⟨rfl, congrArg some hrem⟩
        released := by simp [Writes.event, escrowEvent]
        resolved := fun h ↦ by cases h
        refunded := by simp [Writes.event, escrowEvent]
        disputed := by simp [Writes.event, escrowEvent]
        unreleased := fun h ↦ by cases h }
  | refund id opts =>
      cases hwork
      have hnone : hold.partiallyRefundedAmountCents = 0 := hp.of_held (source_of_legal hc.legal)
      have hshare : hold.amountCents - hold.partiallyRefundedAmountCents - hold.amountCents = 0 := by
        omega
      exact {
        view := rfl
        running := (add_zero _).symm
        announced := ⟨rfl, congrArg some (cents_of_lt (h0.trans hle) le_rfl hlt),
          splits_of_none rfl rfl hshare _⟩
        released := unreleased_iff hu .refunded (by decide) rfl
        resolved := fun h ↦ by cases h
        refunded := by simp [Writes.event, escrowEvent]
        disputed := by simp [Writes.event, escrowEvent]
        unreleased := fun h ↦ by cases h }
  | partialRefund id amount opts =>
      obtain ⟨hmax, rfl⟩ := of_guard_ok hwork
      have hpos : 0 < amount := hc.valid
      exact {
        view := rfl
        running := rfl
        announced := ⟨rfl, congrArg some (cents_of_lt hpos.le (by omega) hlt),
          congrArg some (cents_of_lt (by omega) (not_lt.mp hmax) hlt)⟩
        released := unreleased_iff hu .partiallyRefunded (by decide) rfl
        resolved := fun h ↦ by cases h
        refunded := by simp [Writes.event, escrowEvent]
        disputed := by simp [Writes.event, escrowEvent]
        unreleased := fun _ ↦ ⟨hu, fun h ↦ by cases h⟩ }
  | freeze id opts =>
      cases hwork
      exact {
        view := rfl
        running := (add_zero _).symm
        announced := rfl
        released := unreleased_iff hu .frozen (by decide) rfl
        resolved := fun h ↦ by cases h
        refunded := by simp [Writes.event, escrowEvent]
        disputed := by simp [Writes.event, escrowEvent]
        unreleased := fun _ ↦ ⟨hu, fun h ↦ by cases h⟩ }
  | resolveRelease id opts =>
      cases hwork
      exact {
        view := rfl
        running := (add_zero _).symm
        announced := ⟨rfl, congrArg some hrem⟩
        released := by simp [Writes.event, escrowEvent]
        resolved := fun h ↦ by cases h
        refunded := by simp [Writes.event, escrowEvent]
        disputed := by simp [Writes.event, escrowEvent]
        unreleased := fun h ↦ by cases h }
  | resolveRefund id opts =>
      cases hwork
      exact {
        view := rfl
        running := (add_zero _).symm
        announced := ⟨rfl, congrArg some hrem, splits_of_none rfl rfl (sub_self _) _⟩
        released := unreleased_iff hu .resolvedRefund (by decide) rfl
        resolved := fun _ ↦ (sub_self _).symm
        refunded := by simp [Writes.event, escrowEvent]
        disputed := by simp [Writes.event, escrowEvent]
        unreleased := fun h ↦ by cases h }
  | resolveSplit id artist client opts =>
      obtain ⟨hsum, rfl⟩ := of_guard_ok hwork
      obtain ⟨hartist, hclient⟩ := hc.valid
      have hshare : artist = hold.remaining - client := by
        rw [EscrowHold.remaining]
        omega
      have hartistCents : EventValue.cents artist = .num (hold.remaining - client : ℤ) := by
        rw [← hshare, cents_of_lt hartist (by omega) hlt]
      have hclientCents : EventValue.cents client = .num client :=
        cents_of_lt hclient (by omega) hlt
      exact {
        view := rfl
        running := (add_zero _).symm
        announced := ⟨rfl, congrArg some hclientCents,
          .inr ⟨congrArg some hartistCents, congrArg some hclientCents⟩⟩
        released := by simp [Writes.event, escrowEvent]
        resolved := fun _ ↦ hshare
        refunded := by simp [Writes.event, escrowEvent]
        disputed := by simp [Writes.event, escrowEvent]
        unreleased := fun h ↦ by cases h }

end EscrowOp.Commits

/-! ## All operations -/

theorem HoldRecords.occurred_extend (config : BusinessConfig) (w : Writes) (hold : EscrowHold)
    (entries : List LedgerEntryInput) (s : Store) (r : HoldRecords) (kinds : List EscrowEventType) :
    (w.extend config hold entries s r).Occurred kinds ↔
      r.Occurred kinds ∨ (w.event hold s).type ∈ kinds := by
  constructor
  · rintro ⟨e, he, ht⟩
    rcases List.mem_append.mp he with he | he
    · exact .inl ⟨e, he, ht⟩
    · exact .inr (List.mem_singleton.mp he ▸ ht)
  · rintro (⟨e, he, ht⟩ | ht)
    · exact ⟨e, List.mem_append_left _ he, ht⟩
    · exact ⟨_, List.mem_append_right _ (List.mem_singleton.mpr rfl), ht⟩

/-- Captures and operations keep rows, log and outbox in agreement. -/
theorem logged (config : BusinessConfig) :
    HoldInvariant config fun h r ↦ h.amountCents < 2 ^ 53 → h.Logged r where
  captured := by
    intro args zarFee s hc hlt
    let hold := args.hold zarFee (s.nextId + 1) s.clock
    have h0 : 0 ≤ hold.amountCents :=
      sub_nonneg.mpr (CommitArgs.sound_entries_iff.mp hc.sound).2
    have hcents : EventValue.cents hold.amountCents = .num hold.amountCents :=
      cents_of_lt h0 le_rfl hlt
    have hheld : ∀ e ∈ (args.records zarFee s).events, e.type = .held :=
      List.forall_mem_singleton.mpr rfl
    have hnone : ∀ kinds : List EscrowEventType, EscrowEventType.held ∉ kinds →
        ¬(args.records zarFee s).Occurred kinds := by
      rintro kinds hkinds ⟨e, he, ht⟩
      rw [hheld e he] at ht
      exact hkinds ht
    have hcredit : toArtist (args.records zarFee s).entries = 0 := by
      simp [CommitArgs.records, CommitArgs.entries, toArtist]
    refine ⟨rfl, rfl, .cons ⟨rfl, congrArg some hcents⟩ .nil, ?_, ?_, ?_, ?_, fun _ ↦ rfl,
      fun _ ↦ hcredit, fun _ ↦ hnone _ (by decide)⟩
    · refine iff_of_false Bool.false_ne_true ?_
      rintro (h | ⟨h, -⟩)
      · exact hnone _ (by decide) h
      · exact hnone _ (by decide) h
    · intro e he ht
      rw [hheld e he] at ht
      cases ht
    · exact iff_of_false Bool.false_ne_true (hnone _ (by decide))
    · exact iff_of_false Bool.false_ne_true (hnone _ (by decide))
  committed := by
    intro op s hold target w entries p r hc hp hr hlt
    have hlt' : hold.amountCents < 2 ^ 53 :=
      (EscrowOp.update_of_work hc.work hold).2.amountCents ▸ hlt
    have hr := hr hlt'
    have hparts := hc.parts hp
    have hu : hold.releasedAt = none := hr.unreleased hparts.wasOpen
    have hlogs := hc.logs hp hlt' hu
      (s.nextId + 1 + 2 * (w.queued config hold s).length)
    have hamount : (w.update hold).amountCents = hold.amountCents :=
      (EscrowOp.update_of_work hc.work hold).2.amountCents
    -- what the artist is owed is what this operation pays out
    have hcredit : toArtist (w.extend config hold entries s r).entries = w.payout := by
      change toArtist (r.entries ++ entries) = w.payout
      rw [toArtist_append, hr.uncredited hparts.wasOpen, zero_add, hparts.artist]
    have hresolved := hr.unresolved hparts.wasOpen
    refine ⟨?_, ?_, ?_, ?_, ?_, ?_, ?_, fun h ↦ (hlogs.unreleased h).1, fun h ↦ ?_, fun h ↦ ?_⟩
    · change HoldView.of (r.events ++ [w.event hold s]) = _
      rw [HoldView.of_concat, hr.view, hlogs.view]
    · change ((r.events ++ [w.event hold s]).map EscrowEvent.partialCents).sum = _
      rw [List.map_append, List.sum_append, hr.running, hlogs.running, List.map_cons, List.map_nil,
        List.sum_singleton]
    · rw [hamount]
      refine hr.announced.concat ?_
      rw [hr.running, ← hlogs.running]
      exact hlogs.announced
    · -- nothing was released before, so only this operation counts
      have hno := hr.released
      rw [hu] at hno
      have hkinds := fun h ↦ mt hno.mpr Bool.false_ne_true (.inl h)
      rw [hlogs.released, hcredit, HoldRecords.occurred_extend, HoldRecords.occurred_extend,
        or_iff_right hkinds, or_iff_right hresolved, List.mem_singleton]
    · intro e he ht
      rcases List.mem_append.mp he with he | he
      · exact absurd ⟨e, he, List.mem_singleton.mpr ht⟩ hresolved
      · rw [List.mem_singleton.mp he] at ht ⊢
        have hpartial : (w.event hold s).partialCents = 0 := if_neg (by rw [ht]; decide)
        rw [hcredit, hlogs.resolved ht, EscrowHold.remaining, EscrowHold.remaining, hamount,
          hlogs.running, hpartial, add_zero]
    · rw [hlogs.refunded, HoldRecords.occurred_extend, hr.refunded]
    · rw [hlogs.disputed, HoldRecords.occurred_extend, hr.disputed]
    · rw [hcredit, hparts.stays h]
    · rw [HoldRecords.occurred_extend, or_iff_right hresolved, List.mem_singleton]
      exact (hlogs.unreleased h).2

/-! ## Payouts -/

/-- Payouts have ids of their own, and each is announced once, in their order. -/
structure Store.PayoutsAnnounced (s : Store) : Prop where
  announced : (s.outboxEvents.filter fun o ↦ o.eventType = .escrowPayoutQueued).map
    OutboxEvent.aggregateId = s.payouts.map Payout.id
  fresh : ∀ p ∈ s.payouts, p.id < s.nextId
  distinct : (s.payouts.map Payout.id).Nodup

namespace Store.PayoutsAnnounced

variable {config : BusinessConfig} {s : Store}

theorem empty (clock nextId : ℕ) (intents : List PaymentIntent) :
    (Store.empty clock nextId intents).PayoutsAnnounced where
  announced := rfl
  fresh := fun _ hm ↦ absurd hm List.not_mem_nil
  distinct := List.nodup_nil

/-- What announces no payout and creates none keeps them announced. -/
theorem frame {s' : Store} (hs : s.PayoutsAnnounced) (hn : s.nextId ≤ s'.nextId)
    (hp : s'.payouts = s.payouts) {new : List OutboxEvent}
    (ho : s'.outboxEvents = s.outboxEvents ++ new)
    (hnew : ∀ o ∈ new, o.eventType ≠ .escrowPayoutQueued) : s'.PayoutsAnnounced where
  announced := by
    have hnone : new.filter (fun o ↦ o.eventType = .escrowPayoutQueued) = [] :=
      List.filter_eq_nil_iff.mpr fun o h hd ↦ hnew o h (of_decide_eq_true hd)
    rw [ho, List.filter_append, hnone, List.append_nil, hp]
    exact hs.announced
  fresh := by
    rw [hp]
    exact fun p hm ↦ (hs.fresh p hm).trans_le hn
  distinct := hp ▸ hs.distinct

theorem commit (hs : s.PayoutsAnnounced) {op : EscrowOp} {hold : EscrowHold} {target : EscrowState}
    {w : Writes} {entries : List LedgerEntryInput} (hc : op.Commits s hold target w entries) :
    (w.commit config hold entries s).PayoutsAnnounced := by
  have hids : (w.commit config hold entries s).payouts.map Payout.id =
      s.payouts.map Payout.id ++ (w.queued config hold s).map Payout.id := by
    rw [Writes.commit, List.map_append]
    split
    · rw [List.map_map]
      exact congrArg (· ++ _) (List.map_congr_left fun p _ ↦ id_cancelQueued ..)
    · rfl
  have hqueued : ∀ p ∈ w.queued config hold s, p.id = s.nextId + 1 := by
    intro p hp
    unfold Writes.queued queuedPayouts at hp
    split at hp
    · cases hp
    · rw [List.mem_singleton.mp hp]
      rfl
  have hnext : (w.commit config hold entries s).nextId =
      s.nextId + 1 + 2 * (w.queued config hold s).length + 1 := rfl
  have hmem : ∀ i ∈ (w.commit config hold entries s).payouts.map Payout.id,
      i < (w.commit config hold entries s).nextId := by
    intro i hi
    rw [hids] at hi
    rw [hnext]
    rcases List.mem_append.mp hi with hi | hi
    · obtain ⟨p, hp, rfl⟩ := List.mem_map.mp hi
      have := hs.fresh p hp
      omega
    · obtain ⟨p, hp, rfl⟩ := List.mem_map.mp hi
      have hpos : 0 < (w.queued config hold s).length := List.length_pos_of_mem hp
      rw [hqueued p hp]
      omega
  refine ⟨?_, fun p hp ↦ hmem _ (List.mem_map_of_mem hp), ?_⟩
  · rw [hids, ← hs.announced, Writes.commit, List.filter_append, List.filter_append,
      List.map_append, List.map_append]
    have hrows : (((w.queued config hold s).map fun p ↦
        OutboxService.row (payoutQueued p) (s.nextId + 2) s.clock).filter
          fun o ↦ o.eventType = .escrowPayoutQueued).map OutboxEvent.aggregateId =
        (w.queued config hold s).map Payout.id := by
      rw [List.filter_eq_self.mpr, List.map_map]
      · rfl
      · intro o ho
        obtain ⟨p, -, rfl⟩ := List.mem_map.mp ho
        rfl
    have hnotice (i : ℕ) : [OutboxService.row w.notice i s.clock].filter
        (fun o ↦ o.eventType = .escrowPayoutQueued) = [] := by
      refine List.filter_eq_nil_iff.mpr fun o ho hd ↦ ?_
      rw [List.mem_singleton.mp ho] at hd
      exact ne_of_mem_of_not_mem (EscrowOp.types_of_work hc.work).2 (by decide)
        (of_decide_eq_true hd)
    rw [hrows, hnotice, List.map_nil, List.append_nil]
  · rw [hids]
    refine List.nodup_append.mpr ⟨hs.distinct, ?_, ?_⟩
    · unfold Writes.queued queuedPayouts
      split
      · exact List.nodup_nil
      · exact List.nodup_singleton _
    · intro i hi j hj
      obtain ⟨p, hp, rfl⟩ := List.mem_map.mp hi
      obtain ⟨q, hq, rfl⟩ := List.mem_map.mp hj
      have := hs.fresh p hp
      rw [hqueued q hq]
      omega

theorem capture (hs : s.PayoutsAnnounced) (args : CommitArgs) (zarFee : ℤ) :
    (args.captured zarFee s).PayoutsAnnounced := by
  refine hs.frame (Nat.le_add_right _ 5) rfl rfl fun o ho ↦ ?_
  rcases List.mem_pair.mp ho with rfl | rfl
  · exact fun h ↦ by cases h
  · exact fun h ↦ by cases h

end Store.PayoutsAnnounced

theorem EscrowCall.payoutsAnnounced (config : BusinessConfig) (s : Store) (c : EscrowCall)
    (hs : s.PayoutsAnnounced) : (c.step config s).PayoutsAnnounced := by
  cases c with
  | capture args zarFee =>
      refine Tx.transact_invariant (fun _ s' h ↦ ?_) hs
      rcases PayFastWebhookService.of_commitComplete_ok h with ⟨-, rfl⟩ | ⟨-, rfl⟩
      · exact hs
      · exact hs.capture args zarFee
  | escrow op =>
      refine Tx.transact_invariant (fun _ s' h ↦ ?_) hs
      obtain ⟨hold, target, w, entries, hc, -, rfl⟩ := EscrowOp.commits_of_exec_eq h
      exact hs.commit hc
  | tick clock => exact ⟨hs.announced, hs.fresh, hs.distinct⟩

/-- In every store that captures and operations reach, a hold is what its events fold to, each of
its events has its announcement in the outbox, in the same order and with the same amounts, its
timestamps tell which kinds of event there have been, and every payout has its announcement.  A
refund that ends a dispute counts as a release as well if the ledger owes the artist anything, and
what it announces for the artist is what the ledger owes and the payout pays. -/
theorem events_refine_hold (config : BusinessConfig) (clock nextId : ℕ)
    (intents : List PaymentIntent) (calls : List EscrowCall) :
    let s := Transition.run (EscrowCall.step config) (Store.empty clock nextId intents) calls
    (∀ h ∈ s.escrowHolds, h.amountCents < 2 ^ 53 →
      let artistCents := total .artistPayable .credit (s.entriesOf h.id)
      HoldView.of (s.eventsOf h.id) = some ⟨h.state, h.partiallyRefundedAmountCents⟩ ∧
      Announced h.amountCents (s.eventsOf h.id) (s.noticesOf h.id) ∧
      (h.releasedAt.isSome = true ↔
        (∃ e ∈ s.eventsOf h.id, e.type = .released ∨ e.type = .resolvedRelease) ∨
          (∃ e ∈ s.eventsOf h.id, e.type = .resolvedRefund) ∧ 0 < artistCents) ∧
      (∀ e ∈ s.eventsOf h.id, e.type = .resolvedRefund →
        artistCents = h.amountCents - h.partiallyRefundedAmountCents - e.amountCents) ∧
      artistCents = ((s.payoutsOf h.id).map Payout.amountCents).sum ∧
      (h.refundedAt.isSome = true ↔ ∃ e ∈ s.eventsOf h.id,
        e.type = .refunded ∨ e.type = .partiallyRefunded ∨ e.type = .resolvedRefund) ∧
      (h.disputedAt.isSome = true ↔ ∃ e ∈ s.eventsOf h.id, e.type = .frozen)) ∧
    (s.outboxEvents.filter fun o ↦ o.eventType = .escrowPayoutQueued).map OutboxEvent.aggregateId =
      s.payouts.map Payout.id ∧
    (s.payouts.map Payout.id).Nodup := by
  intro s
  have hpayouts : s.PayoutsAnnounced := Transition.run_invariant _
    (EscrowCall.payoutsAnnounced config) (.empty clock nextId intents) calls
  refine ⟨fun h hm hlt ↦ ?_, hpayouts.announced, hpayouts.distinct⟩
  have hlog := ((logged config).of_run clock nextId intents calls).holds h hm hlt
  have hacc := ((accounted config).of_run clock nextId intents calls).holds h hm
  refine ⟨hlog.view, hlog.announced, hlog.released.trans ?_, hlog.resolved, hacc.payable,
    hlog.refunded.trans ?_, hlog.disputed.trans ?_⟩
  · simp only [HoldRecords.Occurred, List.mem_cons, List.not_mem_nil, or_false]
    rfl
  · simp only [HoldRecords.Occurred, List.mem_cons, List.not_mem_nil, or_false]
    rfl
  · simp only [HoldRecords.Occurred, List.mem_cons, List.not_mem_nil, or_false]
    rfl

end GearshPayments
