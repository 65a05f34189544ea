import GearshPayments.Subscribers.Disputes

/-!
# The order of the events of a dispute

`bookings.disputed` and `disputes.resolved` come from different subscriptions.  Each is
delivered until its handler returns, in any order and with any refusals of the database
in between.  A delivery that the database does not disturb decides how the dispute ends
(`Attempt.next`): after `bookings.disputed` the hold is frozen and the resolution takes
effect (`run_frozen`); after `disputes.resolved` the resolution is dropped as if it had
come too late, and the hold is frozen afterwards (`run_dropped`).
-/

namespace GearshPayments

open Resumption

/-- The two events of a dispute. -/
inductive DisputeEvent where
  | disputed | resolved
deriving DecidableEq, Repr

/-- A delivery of one of the two, at a time, with the refusals it meets. -/
structure Attempt where
  event : DisputeEvent
  clock : ℕ
  answers : ℕ → HttpOutcome
  faults : ℕ → Option String

/-- The database refuses neither the lookup of the hold nor the operation on it. -/
def Attempt.undisturbed (a : Attempt) : Bool := a.faults 0 = none ∧ a.faults 1 = none

/-- The store, and which of the two events have been handled. -/
structure DisputeRun where
  store : Store
  disputed : Bool
  resolved : Bool

/-- One delivery.  An event whose handler has returned is not delivered again. -/
def attempt (config : SystemConfig) (disputed resolved : CloudEvent) (d : DisputeRun)
    (a : Attempt) : DisputeRun :=
  let env := refusals a.answers a.faults
  let s := { d.store with clock := a.clock }
  match a.event with
  | .disputed =>
    if d.disputed then d
    else
      let r := (BookingEventsHandler.handle config disputed).run env s
      { d with
        store := r.store
        disputed := r.result.isOk }
  | .resolved =>
    if d.resolved then d
    else
      let r := (DisputeEventsHandler.handle config resolved).run env s
      { d with
        store := r.store
        resolved := r.result.isOk }

/-! ## The handler of disputes -/

section Disputed

variable {event : CloudEvent} {env : Env HttpOutcome Failure} {s : Store} {hold : EscrowHold}

/-- The handler of `bookings.disputed` on an open hold: undisturbed it freezes the hold and
returns, disturbed it throws. -/
theorem run_disputed (config : SystemConfig) (hdb : OfDatabase env)
    (hv : validateEventPayload event = .ok ())
    (ht : event.type = "bookings.disputed") {bookingId : ℕ}
    (hid : event.data.uuid "bookingId" = .ok bookingId)
    (hb : s.holdOfBooking bookingId = some hold) (hh : s.escrowHold? hold.id = some hold)
    (hopen : hold.state = .held ∨ hold.state = .partiallyRefunded) :
    (env.faults 0 = none ∧ env.faults 1 = none → ∃ s' env',
      (BookingEventsHandler.handle config event).run env s = ⟨.ok (), s', env', []⟩ ∧
        Frozen hold s') ∧
    (¬(env.faults 0 = none ∧ env.faults 1 = none) → ∃ e env',
      (BookingEventsHandler.handle config event).run env s = ⟨.error e, s, env', []⟩) := by
  have hstates : hold.state ≠ .disputed ∧ ¬(hold.state = .released ∨ hold.state = .refunded) := by
    rcases hopen with h | h <;> rw [h] <;> decide
  have hhandle : BookingEventsHandler.handle config event =
      BookingEventsHandler.onDisputed config event.data := by
    unfold BookingEventsHandler.handle
    rw [hv, ht]
    rfl
  rw [hhandle]
  unfold BookingEventsHandler.onDisputed findHoldOfBooking
  rw [hid, ofExcept_ok, ret_bind]
  cases h0 : env.faults 0 with
  | some e =>
      refine ⟨fun h ↦ (by cases h.1), fun _ ↦ ⟨e, env.afterAction, ?_⟩⟩
      exact run_bind_error (run_read_refused h0 _ s)
  | none =>
      rw [run_bind_ok_nil (run_read h0 _ s), hb]
      dsimp only
      rw [if_neg hstates.1, if_neg hstates.2]
      change (_ → ∃ s' env', (call ((EscrowOp.freeze hold.id _).exec config.business)).run _ s = _ ∧
        _) ∧ (_ → ∃ e env', (call ((EscrowOp.freeze hold.id _).exec config.business)).run _ s = _)
      constructor
      · rintro ⟨-, h1⟩
        obtain ⟨hold', s', hx, hfrozen⟩ := exists_freeze config.business hh hopen
          { reason := "bookings.disputed" }
        exact ⟨s', _, call_ok h1 hx, hfrozen⟩
      · intro hno
        have h1 : env.afterAction.faults 0 ≠ none := fun h1 ↦ hno ⟨rfl, h1⟩
        obtain ⟨e, hrun⟩ := call_refused hdb.afterAction h1 _
        exact ⟨e, _, hrun⟩

end Disputed

/-! ## The handler of resolutions, too early -/

namespace DisputeEventsHandler

variable {config : SystemConfig} {event : CloudEvent} {env : Env HttpOutcome Failure} {s : Store}
  {hold : EscrowHold} {r : Resolution}

/-- The amounts of a valid split are not negative. -/
theorem splitCents_nonneg (hv : validateEventPayload event = .ok ())
    (ht : event.type = "disputes.resolved") (hr : Resolution.of? event.data = some .split) :
    0 ≤ (event.data.integer? "splitArtistCents").getD 0 ∧
      0 ≤ (event.data.integer? "splitClientCents").getD 0 := by
  have hsplit : event.data.get "resolution" = some (.str "SPLIT") := by
    have hname := List.find?_some hr
    exact of_decide_eq_true hname
  have hcents : ∀ field, assertSplitCents event.type field event.data = .ok () →
      0 ≤ (event.data.integer? field).getD 0 := by
    intro field h
    unfold assertSplitCents at h
    split at h
    · rename_i hc
      cases hi : event.data.integer? field with
      | none => exact le_refl 0
      | some n =>
          rw [hi] at hc
          exact of_decide_eq_true hc.1
    · cases h
  have hfields : assertFields event.type event.data = .ok () := by
    unfold validateEventPayload at hv
    rw [ht] at hv ⊢
    change (if _ then _ else _) = _ at hv
    split at hv
    · cases hv
    · exact hv
  unfold assertFields at hfields
  rw [if_neg (by rw [ht]; decide), if_neg (by rw [ht]; decide), if_neg (by rw [ht]; decide),
    if_pos ht, hsplit, if_pos rfl] at hfields
  cases henum : assertEnum event.type "resolution" event.data resolutions with
  | error e =>
      rw [henum] at hfields
      cases hfields
  | ok u =>
      rw [henum] at hfields
      cases hartist : assertSplitCents event.type "splitArtistCents" event.data with
      | error e =>
          simp only [hartist] at hfields
          cases hfields
      | ok u' =>
          simp only [hartist] at hfields
          exact ⟨hcents _ hartist, hcents _ hfields⟩

theorem valid_resolutionOp (hv : validateEventPayload event = .ok ())
    (ht : event.type = "disputes.resolved") (hr : Resolution.of? event.data = some r)
    (holdId : ℕ) (opts : ResolveOptions) : (resolutionOp event.data holdId opts r).Valid := by
  cases r with
  | split => exact splitCents_nonneg hv ht hr
  | releaseToArtist => trivial
  | refundToClient => trivial

/-- The lookup of a hold by its id, when the database allows it. -/
theorem run_resolveHold_found (hid : event.data.uuid "escrowHoldId" = .ok hold.id)
    (hh : s.escrowHold? hold.id = some hold) (h0 : env.faults 0 = none) :
    (resolveHold event.data).run env s = ⟨.ok (some hold), s, env.afterAction, []⟩ := by
  unfold resolveHold
  rw [hid, ofExcept_ok, ret_bind, run_bind_ok_nil (run_read h0 _ s), hh]
  rfl

/-- The handler of `disputes.resolved` on an open hold changes nothing; undisturbed it
returns all the same. -/
theorem run_resolved_of_open (config : SystemConfig) (hdb : OfDatabase env)
    (hv : validateEventPayload event = .ok ())
    (ht : event.type = "disputes.resolved") (hr : Resolution.of? event.data = some r)
    (hne : r ≠ .refundToClient) (hid : event.data.uuid "escrowHoldId" = .ok hold.id)
    (hh : s.escrowHold? hold.id = some hold)
    (hopen : hold.state = .held ∨ hold.state = .partiallyRefunded) :
    (env.faults 0 = none ∧ env.faults 1 = none → ∃ env',
      (handle config event).run env s = ⟨.ok (), s, env', []⟩) ∧
    (¬(env.faults 0 = none ∧ env.faults 1 = none) → ∃ e env',
      (handle config event).run env s = ⟨.error e, s, env', []⟩) := by
  have hst : ¬(hold.state = .released ∨ hold.state = .refunded) := by
    rcases hopen with h | h <;> rw [h] <;> decide
  cases h0 : env.faults 0 with
  | some e =>
      refine ⟨fun h ↦ (by cases h.1), fun _ ↦ ⟨e, env.afterAction, ?_⟩⟩
      unfold handle resolveHold
      rw [hv, ofExcept_ok, ret_bind, hid, ofExcept_ok, ret_bind]
      exact run_bind_error (run_bind_error (run_read_refused h0 _ s))
  | none =>
      rw [run_handle hv (run_resolveHold_found hid hh h0) hst, resolve_eq config hold hr hne]
      constructor
      · rintro ⟨-, h1⟩
        have hillegal : ∀ opts, transitions hold.state
            (resolutionOp event.data hold.id opts r).action = none := by
          intro opts
          have hbypass := frozenBypass_resolutionOp event.data hold.id opts r
          generalize (resolutionOp event.data hold.id opts r).action = action at hbypass
          rcases hopen with h | h <;> rw [h] <;> cases action <;> first | rfl | cases hbypass
        obtain ⟨e, hx, hexp⟩ := expected_of_resolutionTx config
          (valid_resolutionOp hv ht hr hold.id) hh hillegal
        rw [call_error h1 hx, if_pos hexp]
        exact ⟨_, rfl⟩
      · intro hno
        have h1 : env.afterAction.faults 0 ≠ none := fun h1 ↦ hno ⟨rfl, h1⟩
        obtain ⟨e, hrun⟩ := call_refused hdb.afterAction h1 _
        exact ⟨e, _, hrun⟩

/-- On a frozen hold the operation of a resolution goes through, if the parts of a split
are what is left of the hold. -/
theorem exists_resolution (config : BusinessConfig) (hv : validateEventPayload event = .ok ())
    (ht : event.type = "disputes.resolved") (hr : Resolution.of? event.data = some r)
    (hne : r ≠ .refundToClient) (hh : s.escrowHold? hold.id = some hold)
    (hd : hold.state = .disputed)
    (hleft : 0 ≤ hold.amountCents - hold.partiallyRefundedAmountCents)
    (hparts : r = .split → (event.data.integer? "splitArtistCents").getD 0 +
      (event.data.integer? "splitClientCents").getD 0 =
        hold.amountCents - hold.partiallyRefundedAmountCents)
    (opts : ResolveOptions) :
    ∃ hold' s', (resolutionOp event.data hold.id opts r).exec config s = .ok (hold', s') := by
  have hvalid := valid_resolutionOp hv ht hr hold.id opts
  cases r with
  | refundToClient => exact absurd rfl hne
  | releaseToArtist =>
      have hlegal : transitions hold.state .resolveRelease = some .released := by
        rw [hd]
        rfl
      have hcommits : (EscrowOp.resolveRelease hold.id opts).Commits s hold .released _ _ :=
        ⟨hvalid, hh, hlegal, rfl, rfl, rfl,
          LedgerService.sound_buildReleaseEntriesForAmount hleft⟩
      exact ⟨_, _, hcommits.exec_eq⟩
  | split =>
      have hsum := hparts rfl
      have hlegal : transitions hold.state .resolveSplit = some .refunded := by
        rw [hd]
        rfl
      have hentries : LedgerService.buildSplitEntries
          ⟨hold.amountCents - hold.partiallyRefundedAmountCents, hold.platformFeeCents⟩ _ _ =
            .ok _ :=
        LedgerService.buildSplitEntries_eq_ok_iff.mpr ⟨hvalid.1, hvalid.2, hsum, rfl⟩
      have hcommits : (resolutionOp event.data hold.id opts .split).Commits s hold .refunded _ _ :=
        ⟨hvalid, hh, hlegal, if_neg (not_not.mpr hsum), rfl, hentries,
          LedgerService.sound_buildSplitEntries hentries⟩
      exact ⟨_, _, hcommits.exec_eq⟩

/-- Undisturbed, the handler of a resolution that can be read returns on a frozen hold. -/
theorem run_resolved_of_frozen (hv : validateEventPayload event = .ok ())
    (ht : event.type = "disputes.resolved") (hr : Resolution.of? event.data = some r)
    (hne : r ≠ .refundToClient) (hid : event.data.uuid "escrowHoldId" = .ok hold.id)
    (hh : s.escrowHold? hold.id = some hold) (hd : hold.state = .disputed)
    (hleft : 0 ≤ hold.amountCents - hold.partiallyRefundedAmountCents)
    (hparts : r = .split → (event.data.integer? "splitArtistCents").getD 0 +
      (event.data.integer? "splitClientCents").getD 0 =
        hold.amountCents - hold.partiallyRefundedAmountCents)
    (hopts : (resolveOptions config event.data).isOk = true)
    (h0 : env.faults 0 = none) (h1 : env.faults 1 = none) :
    ((handle config event).run env s).result = .ok () := by
  have hst : ¬(hold.state = .released ∨ hold.state = .refunded) := by
    rw [hd]
    decide
  rw [run_handle hv (run_resolveHold_found hid hh h0) hst, resolve_eq config hold hr hne]
  cases ho : resolveOptions config event.data with
  | error e =>
      rw [ho] at hopts
      cases hopts
  | ok opts =>
      obtain ⟨hold', s', hx⟩ := exists_resolution config.business hv ht hr hne hh hd hleft hparts
        opts
      have hresolution : resolutionTx config event.data hold.id r s = .ok (hold', s') := by
        rw [resolutionTx, withOptions, ho]
        exact hx
      rw [call_ok h1 hresolution]

end DisputeEventsHandler

/-! ## The two events together -/

open DisputeEventsHandler (Resolution resolveOptions)

/-- A valid pair of events for an open hold.  The resolution asks for no refund, and the
parts of a split are what is left of the hold. -/
structure Dispute (s : Store) (hold : EscrowHold) (disputed resolved : CloudEvent)
    (r : Resolution) : Prop where
  found : s.escrowHold? hold.id = some hold
  opened : hold.state = .held ∨ hold.state = .partiallyRefunded
  disputedType : disputed.type = "bookings.disputed"
  disputedValid : validateEventPayload disputed = .ok ()
  bookingId : disputed.data.uuid "bookingId" = .ok hold.bookingId
  resolvedType : resolved.type = "disputes.resolved"
  resolvedValid : validateEventPayload resolved = .ok ()
  holdId : resolved.data.uuid "escrowHoldId" = .ok hold.id
  resolution : Resolution.of? resolved.data = some r
  noRefund : r ≠ .refundToClient
  parts : r = .split → (resolved.data.integer? "splitArtistCents").getD 0 +
    (resolved.data.integer? "splitClientCents").getD 0 =
      hold.amountCents - hold.partiallyRefundedAmountCents

/-- How far a dispute is. -/
inductive Phase where
  /-- Nothing has been handled. -/
  | opened
  /-- The hold is frozen, and the resolution is still to come. -/
  | frozen
  /-- The resolution has been handled, and nothing has come of it. -/
  | dropped
  /-- Both have been handled, and the hold is as the resolution says. -/
  | settled
  /-- Both have been handled, and the hold is frozen. -/
  | stuck

/-- The hold is in the state. -/
def HoldIs (hold : EscrowHold) (s : Store) (state : EscrowState) : Prop :=
  (s.escrowHold? hold.id).map EscrowHold.state = some state

def InPhase (s : Store) (hold : EscrowHold) (r : Resolution) (d : DisputeRun) : Phase → Prop
  | .opened => d.disputed = false ∧ d.resolved = false ∧ d.store.escrowHolds = s.escrowHolds
  | .frozen => d.disputed = true ∧ d.resolved = false ∧ Frozen hold d.store
  | .dropped => d.disputed = false ∧ d.resolved = true ∧ d.store.escrowHolds = s.escrowHolds
  | .settled => d.disputed = true ∧ d.resolved = true ∧ HoldIs hold d.store r.outcome
  | .stuck => d.disputed = true ∧ d.resolved = true ∧ Frozen hold d.store

theorem Frozen.holdIs {hold : EscrowHold} {s : Store} (h : Frozen hold s) :
    HoldIs hold s .disputed := by
  obtain ⟨hold', hf, hst, -⟩ := h
  rw [HoldIs, hf, Option.map_some, hst]

section Phases

variable {config : SystemConfig} {s : Store} {hold : EscrowHold} {disputed resolved : CloudEvent}
  {r : Resolution} {d : DisputeRun} {a : Attempt}

/-- The hold is as the resolution says in one phase only. -/
theorem InPhase.holdIs_iff (hd : Dispute s hold disputed resolved r) {phase : Phase}
    (h : InPhase s hold r d phase) : HoldIs hold d.store r.outcome ↔ phase = .settled := by
  have hterminal : r.outcome = .released ∨ r.outcome = .refunded := by cases r <;> decide
  have hopen : d.store.escrowHolds = s.escrowHolds → ¬HoldIs hold d.store r.outcome := by
    intro hholds his
    have hf : d.store.escrowHold? hold.id = some hold :=
      (Store.escrowHold?_congr hholds hold.id).trans hd.found
    rw [HoldIs, hf, Option.map_some, Option.some_inj] at his
    rcases hd.opened with ho | ho <;> rcases hterminal with ht | ht <;>
      cases ho.symm.trans (his.trans ht)
  have hfrozen : Frozen hold d.store → ¬HoldIs hold d.store r.outcome := by
    intro hf his
    have hst := Option.some_inj.mp (hf.holdIs.symm.trans his)
    rcases hterminal with ht | ht <;> cases hst.trans ht
  cases phase with
  | opened => exact iff_of_false (hopen h.2.2) nofun
  | frozen => exact iff_of_false (hfrozen h.2.2) nofun
  | dropped => exact iff_of_false (hopen h.2.2) nofun
  | settled => exact iff_of_true h.2.2 rfl
  | stuck => exact iff_of_false (hfrozen h.2.2) nofun

theorem undisturbed_iff (a : Attempt) : a.undisturbed = true ↔
    (refusals a.answers a.faults).faults 0 = none ∧
      (refusals a.answers a.faults).faults 1 = none := by
  simp only [Attempt.undisturbed, decide_eq_true_eq, refusals, Option.map_eq_none_iff]

/-- What a delivery of `bookings.disputed` does while it has not been handled. -/
theorem attempt_of_disputed (he : a.event = .disputed) (hdisp : d.disputed = false) {q}
    (hq : (BookingEventsHandler.handle config disputed).run (refusals a.answers a.faults)
      { d.store with clock := a.clock } = q) :
    attempt config disputed resolved d a =
      { d with
        store := q.store
        disputed := q.result.isOk } := by
  subst hq
  simp only [attempt, he, hdisp, Bool.false_eq_true, if_false]

/-- What a delivery of `disputes.resolved` does while it has not been handled. -/
theorem attempt_of_resolved (he : a.event = .resolved) (hres : d.resolved = false) {q}
    (hq : (DisputeEventsHandler.handle config resolved).run (refusals a.answers a.faults)
      { d.store with clock := a.clock } = q) :
    attempt config disputed resolved d a =
      { d with
        store := q.store
        resolved := q.result.isOk } := by
  subst hq
  simp only [attempt, he, hres, Bool.false_eq_true, if_false]

/-- An event that has been handled is not delivered again. -/
theorem attempt_of_handled (h : match a.event with
      | .disputed => d.disputed = true
      | .resolved => d.resolved = true) : attempt config disputed resolved d a = d := by
  cases he : a.event with
  | disputed =>
      rw [he] at h
      simp only [attempt, he, if_pos h]
  | resolved =>
      rw [he] at h
      simp only [attempt, he, if_pos h]

/-- A delivery of `bookings.disputed` while the holds are as they were. -/
theorem attempt_disputed (config : SystemConfig) (hs : s.Consistent)
    (hd : Dispute s hold disputed resolved r) (hdisp : d.disputed = false)
    (hholds : d.store.escrowHolds = s.escrowHolds) (he : a.event = .disputed) :
    ∃ s', attempt config disputed resolved d a =
        { d with
          store := s'
          disputed := a.undisturbed } ∧
      (a.undisturbed = true → Frozen hold s') ∧
      (a.undisturbed = false → s'.escrowHolds = s.escrowHolds) := by
  have hmem : hold ∈ s.escrowHolds := (Table.find_some hd.found).1
  have hb : Store.holdOfBooking { d.store with clock := a.clock } hold.bookingId = some hold := by
    change Table.find _ _ d.store.escrowHolds = _
    rw [hholds]
    exact (Table.find_eq_some_iff hs.bookings).mpr hmem
  have hh : Store.escrowHold? { d.store with clock := a.clock } hold.id = some hold :=
    (Store.escrowHold?_congr hholds hold.id).trans hd.found
  obtain ⟨hrun, hthrow⟩ := run_disputed config (ofDatabase_refusals a.answers a.faults)
    hd.disputedValid hd.disputedType hd.bookingId hb hh hd.opened
  rw [← undisturbed_iff] at hrun hthrow
  cases hu : a.undisturbed with
  | true =>
      obtain ⟨s', env', hr, hfrozen⟩ := hrun hu
      exact ⟨s', attempt_of_disputed he hdisp hr, fun _ ↦ hfrozen, nofun⟩
  | false =>
      obtain ⟨e, env', hr⟩ := hthrow (Bool.eq_false_iff.mp hu)
      exact ⟨_, attempt_of_disputed he hdisp hr, nofun, fun _ ↦ hholds⟩

/-- The phase after a delivery in the first one: an undisturbed delivery ends it. -/
def Attempt.next (a : Attempt) : Phase :=
  if a.undisturbed then
    match a.event with
    | .disputed => .frozen
    | .resolved => .dropped
  else .opened

theorem attempt_opened (config : SystemConfig) (hs : s.Consistent)
    (hd : Dispute s hold disputed resolved r) (h : InPhase s hold r d .opened) (a : Attempt) :
    InPhase s hold r (attempt config disputed resolved d a) a.next := by
  obtain ⟨hdisp, hres, hholds⟩ := h
  unfold Attempt.next
  cases he : a.event with
  | disputed =>
      obtain ⟨s', hstep, hfrozen, hopened⟩ := attempt_disputed config hs hd hdisp hholds he
      rw [hstep]
      cases hu : a.undisturbed with
      | true => exact ⟨rfl, hres, hfrozen hu⟩
      | false => exact ⟨rfl, hres, hopened hu⟩
  | resolved =>
      have hh : Store.escrowHold? { d.store with clock := a.clock } hold.id = some hold :=
        (Store.escrowHold?_congr hholds hold.id).trans hd.found
      obtain ⟨hreturn, hthrow⟩ := DisputeEventsHandler.run_resolved_of_open config
        (ofDatabase_refusals a.answers a.faults) hd.resolvedValid hd.resolvedType hd.resolution
        hd.noRefund hd.holdId hh hd.opened
      rw [← undisturbed_iff] at hreturn hthrow
      cases hu : a.undisturbed with
      | true =>
          obtain ⟨env', hr⟩ := hreturn hu
          rw [attempt_of_resolved he hres hr]
          exact ⟨hdisp, rfl, hholds⟩
      | false =>
          obtain ⟨e, env', hr⟩ := hthrow (Bool.eq_false_iff.mp hu)
          rw [attempt_of_resolved he hres hr]
          exact ⟨hdisp, rfl, hholds⟩

/-- A delivery of `disputes.resolved` on a frozen hold: the handler throws, or the
resolution takes effect.  Undisturbed, a resolution that can be read takes effect. -/
theorem attempt_resolved (config : SystemConfig) (hs : s.Consistent)
    (hd : Dispute s hold disputed resolved r) (h : InPhase s hold r d .frozen)
    (he : a.event = .resolved) :
    (InPhase s hold r (attempt config disputed resolved d a) .frozen ∧
      ¬((resolveOptions config resolved.data).isOk = true ∧ a.undisturbed = true)) ∨
    ((resolveOptions config resolved.data).isOk = true ∧
      InPhase s hold r (attempt config disputed resolved d a) .settled) := by
  obtain ⟨hdisp, hres, h', hf, hst, hamount, hpart⟩ := h
  have hid : h'.id = hold.id := (Table.find_some hf).2
  have hh : Store.escrowHold? { d.store with clock := a.clock } h'.id = some h' := hid ▸ hf
  have hholdId : resolved.data.uuid "escrowHoldId" = .ok h'.id := hid ▸ hd.holdId
  have hof : DisputeEventsHandler.holdOf resolved.data { d.store with clock := a.clock } =
      some h' := by
    rw [DisputeEventsHandler.holdOf, hholdId]
    dsimp only
    rw [hh]
  have hopen : ¬(h'.state = .released ∨ h'.state = .refunded) := by
    rw [hst]
    decide
  have hleft : 0 ≤ h'.amountCents - h'.partiallyRefundedAmountCents := by
    rw [hamount, hpart]
    exact sub_nonneg.mpr (hs.conserved.bounds (Table.find_some hd.found).1).2
  have hreturns : (resolveOptions config resolved.data).isOk = true ∧ a.undisturbed = true →
      ((DisputeEventsHandler.handle config resolved).run (refusals a.answers a.faults)
        { d.store with clock := a.clock }).result = .ok () := by
    rintro ⟨hopts, hu⟩
    obtain ⟨h0, h1⟩ := (undisturbed_iff a).mp hu
    refine DisputeEventsHandler.run_resolved_of_frozen hd.resolvedValid hd.resolvedType
      hd.resolution hd.noRefund hholdId hh hst hleft ?_ hopts h0 h1
    intro hsplit
    rw [hamount, hpart]
    exact hd.parts hsplit
  have hthrown : ∀ {e env'}, (DisputeEventsHandler.handle config resolved).run
        (refusals a.answers a.faults) { d.store with clock := a.clock } =
          ⟨.error e, { d.store with clock := a.clock }, env', []⟩ →
      InPhase s hold r (attempt config disputed resolved d a) .frozen ∧
        ¬((resolveOptions config resolved.data).isOk = true ∧ a.undisturbed = true) := by
    intro e env' hr
    rw [hr] at hreturns
    rw [attempt_of_resolved he hres hr]
    exact ⟨⟨hdisp, rfl, h', hf, hst, hamount, hpart⟩, fun hno ↦ by cases hreturns hno⟩
  rcases DisputeEventsHandler.run_handle_cases config
    (ofDatabase_refusals a.answers a.faults) hof hopen with ⟨e, env', hr⟩ | ⟨env', hdb, hr⟩
  · exact .inl (hthrown hr)
  · rcases DisputeEventsHandler.resolve_of_disputed config hdb hd.resolution hd.noRefund hh hst with
      ⟨e, env'', hr'⟩ | ⟨h'', s', env'', hr', hf', hst', hopts⟩
    · exact .inl (hthrown (hr.trans hr'))
    · rw [attempt_of_resolved he hres (hr.trans hr')]
      refine .inr ⟨hopts, hdisp, rfl, ?_⟩
      rw [HoldIs, ← hid, hf', Option.map_some, hst']

/-- A frozen hold stays frozen until the resolution takes effect. -/
theorem attempt_frozen (config : SystemConfig) (hs : s.Consistent)
    (hd : Dispute s hold disputed resolved r) (h : InPhase s hold r d .frozen) (a : Attempt) :
    InPhase s hold r (attempt config disputed resolved d a) .frozen ∨
      ((resolveOptions config resolved.data).isOk = true ∧
        InPhase s hold r (attempt config disputed resolved d a) .settled) := by
  cases he : a.event with
  | disputed =>
      rw [attempt_of_handled (by rw [he]; exact h.1)]
      exact .inl h
  | resolved => exact (attempt_resolved config hs hd h he).imp_left And.left

/-- A hold whose resolution was dropped is frozen for good once the dispute is handled. -/
theorem attempt_dropped (config : SystemConfig) (hs : s.Consistent)
    (hd : Dispute s hold disputed resolved r) (h : InPhase s hold r d .dropped) (a : Attempt) :
    InPhase s hold r (attempt config disputed resolved d a) .dropped ∨
      InPhase s hold r (attempt config disputed resolved d a) .stuck := by
  obtain ⟨hdisp, hres, hholds⟩ := h
  cases he : a.event with
  | disputed =>
      obtain ⟨s', hstep, hfrozen, hopened⟩ := attempt_disputed config hs hd hdisp hholds he
      rw [hstep]
      cases hu : a.undisturbed with
      | true => exact .inr ⟨rfl, hres, hfrozen hu⟩
      | false => exact .inl ⟨rfl, hres, hopened hu⟩
  | resolved =>
      rw [attempt_of_handled (by rw [he]; exact hres)]
      exact .inl ⟨hdisp, hres, hholds⟩

/-- Once both events have been handled, nothing is delivered. -/
theorem run_handled (hdisp : d.disputed = true) (hres : d.resolved = true) (as : List Attempt) :
    Transition.run (attempt config disputed resolved) d as = d := by
  refine Transition.run_invariant (attempt config disputed resolved) (I := (· = d)) ?_ rfl as
  rintro _ a rfl
  refine attempt_of_handled ?_
  cases a.event with
  | disputed => exact hdisp
  | resolved => exact hres

/-- A resolution that cannot be read leaves a frozen hold frozen. -/
theorem run_unreadable (hs : s.Consistent) (hd : Dispute s hold disputed resolved r)
    (hopts : (resolveOptions config resolved.data).isOk = false)
    (h : InPhase s hold r d .frozen) (as : List Attempt) :
    InPhase s hold r (Transition.run (attempt config disputed resolved) d as) .frozen := by
  refine Transition.run_invariant (attempt config disputed resolved)
    (I := fun d ↦ InPhase s hold r d .frozen) (fun d a h ↦ ?_) h as
  rcases attempt_frozen config hs hd h a with hnext | ⟨hok, -⟩
  · exact hnext
  · cases hopts.symm.trans hok

/-- Once the hold is frozen, a resolution that can be read takes effect at the latest when
it is delivered undisturbed. -/
theorem run_frozen (hs : s.Consistent) (hd : Dispute s hold disputed resolved r)
    (hopts : (resolveOptions config resolved.data).isOk = true)
    (h : InPhase s hold r d .frozen) {as : List Attempt}
    (hdelivered : ∃ a ∈ as, a.event = .resolved ∧ a.undisturbed = true) :
    InPhase s hold r (Transition.run (attempt config disputed resolved) d as) .settled := by
  induction as generalizing d with
  | nil =>
      obtain ⟨a, ha, -⟩ := hdelivered
      cases ha
  | cons b bs ih =>
      rw [Transition.run_cons]
      obtain ⟨a, ha, he, hu⟩ := hdelivered
      rcases List.mem_cons.mp ha with rfl | ha
      · rcases attempt_resolved config hs hd h he with ⟨-, hno⟩ | ⟨-, hsettled⟩
        · exact absurd ⟨hopts, hu⟩ hno
        · rw [run_handled hsettled.1 hsettled.2.1]
          exact hsettled
      · rcases attempt_frozen config hs hd h b with hstays | ⟨-, hsettled⟩
        · exact ih hstays ⟨a, ha, he, hu⟩
        · rw [run_handled hsettled.1 hsettled.2.1]
          exact hsettled

/-- A run after the resolution was dropped. -/
theorem run_dropped (config : SystemConfig) (hs : s.Consistent)
    (hd : Dispute s hold disputed resolved r) (h : InPhase s hold r d .dropped)
    (as : List Attempt) :
    InPhase s hold r (Transition.run (attempt config disputed resolved) d as) .dropped ∨
      InPhase s hold r (Transition.run (attempt config disputed resolved) d as) .stuck := by
  refine Transition.run_invariant (attempt config disputed resolved)
    (I := fun d ↦ InPhase s hold r d .dropped ∨ InPhase s hold r d .stuck) ?_ (.inl h) as
  rintro d a (h | h)
  · exact attempt_dropped config hs hd h a
  · rw [attempt_of_handled (by cases a.event <;> [exact h.1; exact h.2.1])]
    exact .inr h

/-- A run from the first phase: the first delivery that is undisturbed decides. -/
theorem run_opened (hs : s.Consistent) (hd : Dispute s hold disputed resolved r)
    (h : InPhase s hold r d .opened) {as : List Attempt}
    (hdelivered : ∃ a ∈ as, a.event = .resolved ∧ a.undisturbed = true) :
    HoldIs hold (Transition.run (attempt config disputed resolved) d as).store r.outcome ↔
      (resolveOptions config resolved.data).isOk = true ∧
        (as.find? Attempt.undisturbed).map Attempt.event = some .disputed := by
  induction as generalizing d with
  | nil =>
      obtain ⟨a, ha, -⟩ := hdelivered
      cases ha
  | cons b bs ih =>
      have hnext := attempt_opened config hs hd h b
      rw [Attempt.next] at hnext
      rw [Transition.run_cons]
      obtain ⟨a, ha, he, hu⟩ := hdelivered
      cases hb : b.undisturbed with
      | false =>
          have hmem : a ∈ bs := by
            rcases List.mem_cons.mp ha with rfl | ha
            · cases hb.symm.trans hu
            · exact ha
          rw [hb] at hnext
          rw [List.find?_cons_of_neg (Bool.eq_false_iff.mp hb)]
          exact ih hnext ⟨a, hmem, he, hu⟩
      | true =>
          rw [hb] at hnext
          rw [List.find?_cons_of_pos hb, Option.map_some, Option.some_inj]
          cases hevent : b.event with
          | disputed =>
              have hmem : a ∈ bs := by
                rcases List.mem_cons.mp ha with rfl | ha
                · cases hevent.symm.trans he
                · exact ha
              rw [hevent] at hnext
              cases hopts : (resolveOptions config resolved.data).isOk with
              | false =>
                  have hfrozen := run_unreadable hs hd hopts hnext bs
                  exact iff_of_false (mt (hfrozen.holdIs_iff hd).mp nofun) nofun
              | true =>
                  have hsettled := run_frozen hs hd hopts hnext ⟨a, hmem, he, hu⟩
                  exact iff_of_true ((hsettled.holdIs_iff hd).mpr rfl) ⟨rfl, rfl⟩
          | resolved =>
              rw [hevent] at hnext
              refine iff_of_false (fun his ↦ ?_) (fun hno ↦ by cases hno.2)
              rcases run_dropped config hs hd hnext bs with h | h
              · cases (h.holdIs_iff hd).mp his
              · cases (h.holdIs_iff hd).mp his

end Phases

/-- The two events of a dispute are delivered in any order, with any refusals of the
database, and each until its handler returns.  The hold ends as the resolution says
exactly when the resolution can be read and the first delivery that the database does
not disturb is one of `bookings.disputed`. -/
theorem dispute_settles_iff {config : SystemConfig} {s : Store} (hs : Reachable config s)
    {hold : EscrowHold} {disputed resolved : CloudEvent} {r : Resolution}
    (hd : Dispute s hold disputed resolved r) {as : List Attempt}
    (hdelivered : ∃ a ∈ as, a.event = .resolved ∧ a.undisturbed = true) :
    HoldIs hold (Transition.run (attempt config disputed resolved) ⟨s, false, false⟩ as).store
        r.outcome ↔
      (resolveOptions config resolved.data).isOk = true ∧
        (as.find? Attempt.undisturbed).map Attempt.event = some .disputed := by
  have hstart : InPhase s hold r ⟨s, false, false⟩ .opened := ⟨rfl, rfl, rfl⟩
  exact run_opened hs.consistent hd hstart hdelivered

namespace Sample

/-- The hold of the paid booking. -/
def hold : EscrowHold := payment.hold 100 11 0

/-- A dispute is opened about the paid booking. -/
def disputeOpened : CloudEvent where
  id := 22
  type := "bookings.disputed"
  data := [("bookingId", .uuid 2), ("disputeId", .uuid 20), ("escrowHoldId", .uuid 11),
    ("openedBy", .uuid 3), ("actorRole", .str "CLIENT"), ("subject", .str "late"),
    ("openedAt", .date 0)]
  traceparent := none
  tracestate := none

/-- An undisturbed delivery. -/
def delivery (event : DisputeEvent) : Attempt := ⟨event, 0, pays, fun _ ↦ none⟩

theorem dispute : Dispute paid hold disputeOpened
    (DisputeEventsHandler.sampleEvent .releaseToArtist) .releaseToArtist where
  found := rfl
  opened := .inl rfl
  disputedType := rfl
  disputedValid := rfl
  bookingId := rfl
  resolvedType := rfl
  resolvedValid := rfl
  holdId := rfl
  resolution := rfl
  noRefund := nofun
  parts := nofun

end Sample

theorem dispute_settles_iff_sample :
    HoldIs Sample.hold (Transition.run (attempt Sample.config Sample.disputeOpened
        (DisputeEventsHandler.sampleEvent .releaseToArtist)) ⟨Sample.paid, false, false⟩
        [Sample.delivery .disputed, Sample.delivery .resolved]).store
          Resolution.releaseToArtist.outcome ↔
      (resolveOptions Sample.config
          (DisputeEventsHandler.sampleEvent .releaseToArtist).data).isOk = true ∧
        ([Sample.delivery .disputed, Sample.delivery .resolved].find?
          Attempt.undisturbed).map Attempt.event = some .disputed :=
  dispute_settles_iff Sample.paid_reachable Sample.dispute
    ⟨Sample.delivery .resolved, .tail _ (.head _), rfl, rfl⟩

/-- The resolution is handled first: it is dropped, and the hold stays disputed. -/
theorem dispute_not_settled :
    ¬∀ (config : SystemConfig) (s : Store) (hold : EscrowHold) (disputed resolved : CloudEvent)
      (r : Resolution) (as : List Attempt), Reachable config s →
      Dispute s hold disputed resolved r →
      0 < hold.amountCents - hold.partiallyRefundedAmountCents →
      (Transition.run (attempt config disputed resolved) ⟨s, false, false⟩ as).disputed = true →
      (Transition.run (attempt config disputed resolved) ⟨s, false, false⟩ as).resolved = true →
      HoldIs hold (Transition.run (attempt config disputed resolved) ⟨s, false, false⟩ as).store
        r.outcome := by
  intro h
  have hsettled := h Sample.config Sample.paid Sample.hold Sample.disputeOpened
    (DisputeEventsHandler.sampleEvent .releaseToArtist) .releaseToArtist
    [Sample.delivery .resolved, Sample.delivery .disputed] Sample.paid_reachable Sample.dispute
    (by decide) rfl rfl
  have hstuck : HoldIs Sample.hold (Transition.run (attempt Sample.config Sample.disputeOpened
      (DisputeEventsHandler.sampleEvent .releaseToArtist)) ⟨Sample.paid, false, false⟩
      [Sample.delivery .resolved, Sample.delivery .disputed]).store .disputed := rfl
  cases hstuck.symm.trans hsettled

end GearshPayments
