import GearshPayments.Payouts.Once
import GearshPayments.Resumption.Actions

/-!
# Announcements of payouts

A success or a failure of a payout is announced by the transaction that records it.  The
announcement of a failure does not depend on whether the guarded update of the row matched,
and a success is recorded whatever the state of the row.  So a payout is announced at least
as often as it comes to be failed, or paid, and exactly as often where every record finds the
payout in a state that it moves (`announcements_match_iff`).
-/

namespace GearshPayments

open Resumption

/-- How many events of the type there are about the payout. -/
def Store.noticesAbout (id : ℕ) (type : PaymentsEventType) (s : Store) : ℕ :=
  s.outboxEvents.countP fun o ↦ o.eventType = type ∧ o.aggregateId = id

/-- The payout comes to the state `q`. -/
def Enters (id : ℕ) (q : PayoutState) (s s' : Store) : Prop :=
  s.payoutState id ≠ some q ∧ s'.payoutState id = some q

instance (id : ℕ) (q : PayoutState) (s s' : Store) : Decidable (Enters id q s s') :=
  inferInstanceAs (Decidable (_ ∧ _))

/-- How often the payout comes to the state in a run. -/
def transitionsInto (id : ℕ) (q : PayoutState) (P : EnginePool)
    (ts : List (Turn GatewayReply Failure)) : ℕ :=
  Transition.total (Pool.step next)
    (fun P t ↦ if Enters id q P.store (Pool.step next P t).store then 1 else 0) P ts

/-- The action of a transaction. -/
theorem Tx.actsOnly {α : Type} {t : Tx α} {C : (Store → Store) → Prop} (h : C t.transact) :
    ActsOnly C (transaction t : Engine α) := by
  refine actsOnly_transaction ?_
  convert h using 1
  funext s
  unfold Tx.transact
  cases t s <;> rfl

/-! ## Actions and announcements -/

/-- An action that neither announces that the payout is in the state nor brings it there. -/
structure Silent (id : ℕ) (q : PayoutState) (type : PaymentsEventType) (act : Store → Store) :
    Prop where
  notices : ∀ s, (act s).noticesAbout id type = s.noticesAbout id type
  state : ∀ s, (act s).payoutState id = some q → s.payoutState id = some q

theorem Store.noticesAbout_append {s s' : Store} {o : OutboxEvent}
    (h : s'.outboxEvents = s.outboxEvents ++ [o]) (id : ℕ) (type : PaymentsEventType) :
    s'.noticesAbout id type =
      s.noticesAbout id type + if o.eventType = type ∧ o.aggregateId = id then 1 else 0 := by
  rw [noticesAbout, h, List.countP_append, List.countP_singleton]
  simp only [decide_eq_true_eq]
  rfl

/-- The states in which a payout is neither paid nor given up. -/
def PayoutState.Quiet (q : PayoutState) : Prop := q = .queued ∨ q = .processing ∨ q = .cancelled

/-- An action that announces nothing and brings the payout to a quiet state, if it moves it. -/
structure QuietAction (id : ℕ) (act : Store → Store) : Prop where
  outbox : ∀ s, (act s).outboxEvents = s.outboxEvents
  state : ∀ s, (act s).payoutState id = s.payoutState id ∨
    ∃ q, (act s).payoutState id = some q ∧ q.Quiet

namespace QuietAction

variable {id : ℕ}

theorem silent {act : Store → Store} (h : QuietAction id act) {q : PayoutState} (hq : ¬q.Quiet)
    (type : PaymentsEventType) : Silent id q type act where
  notices := by
    intro s
    rw [Store.noticesAbout, h.outbox]
    rfl
  state := by
    intro s hs
    rcases h.state s with hsame | ⟨q', hq', hquiet⟩
    · exact hsame.symm.trans hs
    · cases hs.symm.trans hq'
      exact absurd hquiet hq

/-- A transaction that throws does nothing. -/
theorem transact {α : Type} {t : Tx α} (houtbox : ∀ s a s', t s = .ok (a, s') →
      s'.outboxEvents = s.outboxEvents)
    (hstate : ∀ s a s', t s = .ok (a, s') → s'.payoutState id = s.payoutState id ∨
      ∃ q, s'.payoutState id = some q ∧ q.Quiet) : QuietAction id t.transact where
  outbox := by
    intro s
    cases h : t s with
    | error e => rw [Tx.transact_error h]
    | ok r =>
        rw [Tx.transact_ok h]
        exact houtbox s r.1 r.2 h
  state := by
    intro s
    cases h : t s with
    | error e =>
        rw [Tx.transact_error h]
        exact .inl rfl
    | ok r =>
        rw [Tx.transact_ok h]
        exact hstate s r.1 r.2 h

end QuietAction

/-- An update that leaves states as they are or makes them quiet. -/
theorem Store.quiet_of_update {s s' : Store} {id k : ℕ} {f : Payout → Payout}
    {g : PayoutState → PayoutState} (hp : s'.payouts = Table.update Payout.id k f s.payouts)
    (hid : ∀ p, (f p).id = p.id) (hst : ∀ p, (f p).state = g p.state)
    (hg : ∀ q, g q = q ∨ (g q).Quiet) :
    s'.payoutState id = s.payoutState id ∨ ∃ q, s'.payoutState id = some q ∧ q.Quiet := by
  rw [payoutState_update hp hid hst]
  split
  · cases s.payoutState id with
    | none => exact .inl rfl
    | some q =>
        rcases hg q with h | h
        · exact .inl (congrArg some h)
        · exact .inr ⟨g q, rfl, h⟩
  · exact .inl rfl

section QuietActions

variable {i : ℕ}

theorem quiet_id : QuietAction i id where
  outbox := fun _ ↦ rfl
  state := fun _ ↦ .inl rfl

theorem quiet_tick (clock : ℕ) : QuietAction i fun s ↦ { s with clock } where
  outbox := fun _ ↦ rfl
  state := fun _ ↦ .inl rfl

theorem quiet_claim (payout : Payout) :
    QuietAction i (PayoutDispatcherJob.claim payout).transact := by
  refine .transact (fun s count s' h ↦ (by cases h; rfl)) fun s count s' h ↦ ?_
  cases h
  have hpayouts := Tx.updateMany_eq_update payout.id (fun p ↦ p.state = .queued)
    (fun p ↦ { p with state := .processing, attemptedAt := some s.clock }) s.payouts
  refine Store.quiet_of_update (g := claimState) hpayouts ?_ ?_ fun q ↦ ?_
  · intro p
    split <;> rfl
  · intro p
    unfold claimState
    split <;> rfl
  · unfold claimState
    split
    · exact .inr (.inr (.inl rfl))
    · exact .inl rfl

theorem quiet_requeue (row : Payout) : QuietAction i (PayoutRetryJob.requeue row).transact := by
  refine .transact (fun s count s' h ↦ (by cases h; rfl)) fun s count s' h ↦ ?_
  cases h
  have hpayouts := Tx.updateMany_eq_update row.id (fun p ↦ p.state = .failed) Payout.requeue
    s.payouts
  refine Store.quiet_of_update (g := requeueState) hpayouts ?_ ?_ fun q ↦ ?_
  · intro p
    split <;> rfl
  · intro p
    unfold requeueState
    split <;> rfl
  · unfold requeueState
    split
    · exact .inr (.inl rfl)
    · exact .inl rfl

/-- An update by id alone. -/
theorem quiet_overwrite {s s' : Store} {k : ℕ} {f : Payout → Payout} {q : PayoutState}
    {row : Payout} (h : Tx.updatePayout k f s = .ok (row, s')) (hid : ∀ p, (f p).id = p.id)
    (hst : ∀ p, (f p).state = q) (hq : q.Quiet) :
    s'.outboxEvents = s.outboxEvents ∧
      (s'.payoutState i = s.payoutState i ∨ ∃ q, s'.payoutState i = some q ∧ q.Quiet) := by
  cases hrow : s.payout? k with
  | none => simp [Tx.updatePayout, hrow] at h
  | some r =>
      rw [Tx.updatePayout_apply hrow] at h
      cases h
      exact ⟨rfl, Store.quiet_of_update (g := fun _ ↦ q) rfl hid hst fun _ ↦ .inr hq⟩

end QuietActions

namespace PayoutDispatcherJob

/-- The transaction in which a failure of the payout is recorded. -/
def RecordsFailure (id : ℕ) (act : Store → Store) : Prop :=
  ∃ payout reason failedAt, payout.id = id ∧ act = (writeFailure payout reason failedAt).transact

/-- The transaction in which a success of the payout is recorded, with the id of the bank
details that were used. -/
def RecordsSuccess (id methodId : ℕ) (act : Store → Store) : Prop :=
  ∃ payout gatewayPayoutId completedAt, payout.id = id ∧
    act = (writeSuccess payout gatewayPayoutId methodId completedAt).transact

/-- A record of a failure announces it, and moves a payout that is queued or in progress. -/
theorem writeFailure_effect (payout : Payout) (reason : String) (failedAt id : ℕ) (s : Store) :
    let s' := (writeFailure payout reason failedAt).transact s
    (∀ type, s'.noticesAbout id type = s.noticesAbout id type +
        if .escrowPayoutFailed = type ∧ payout.id = id then 1 else 0) ∧
      s'.payoutState id =
        if id = payout.id then (s.payoutState id).map failState else s.payoutState id := by
  obtain ⟨s', o, htx, houtbox, htype, hid, hpayouts⟩ : ∃ s' o,
      writeFailure payout reason failedAt s = .ok ((), s') ∧
      s'.outboxEvents = s.outboxEvents ++ [o] ∧ o.eventType = .escrowPayoutFailed ∧
      o.aggregateId = payout.id ∧ s'.payouts = s.payouts.map fun r ↦
        if decide (r.id = payout.id ∧ (r.state = .queued ∨ r.state = .processing)) = true
        then failRow reason failedAt r else r :=
    ⟨_, _, rfl, rfl, rfl, rfl, rfl⟩
  rw [Tx.transact_ok htx]
  constructor
  · intro type
    rw [Store.noticesAbout_append houtbox, htype, hid]
  · rw [Tx.updateMany_eq_update payout.id fun p ↦ p.state = .queued ∨ p.state = .processing]
      at hpayouts
    refine Store.payoutState_update hpayouts ?_ ?_
    · intro p
      split <;> rfl
    · intro p
      unfold failState
      split <;> rfl

/-- The payout and the bank details are there. -/
def Recordable (payout : Payout) (methodId : ℕ) (s : Store) : Prop :=
  (∃ row, s.payout? payout.id = some row) ∧
    ∃ method, Table.find ArtistPayoutMethod.id methodId s.artistPayoutMethods = some method

theorem writeSuccess_cases (payout : Payout) (gatewayPayoutId : String)
    (methodId completedAt : ℕ) (s : Store) :
    let s' := (writeSuccess payout gatewayPayoutId methodId completedAt).transact s
    ¬Recordable payout methodId s ∧ s' = s ∨
      Recordable payout methodId s ∧
        s' = paidStore payout gatewayPayoutId methodId completedAt s := by
  intro s'
  cases h : writeSuccess payout gatewayPayoutId methodId completedAt s with
  | error e =>
      refine .inl ⟨?_, Tx.transact_error h⟩
      rintro ⟨⟨row, hrow⟩, method, hmethod⟩
      cases h.symm.trans (writeSuccess_apply hrow hmethod gatewayPayoutId completedAt)
  | ok r =>
      obtain ⟨row, method, hrow, hmethod, hpaid⟩ := of_writeSuccess_ok h
      exact .inr ⟨⟨⟨row, hrow⟩, method, hmethod⟩, (Tx.transact_ok h).trans hpaid⟩

/-- A record of a success announces it and moves the payout, whatever its state. -/
theorem paidStore_effect (payout : Payout) (gatewayPayoutId : String)
    (methodId completedAt id : ℕ) (s : Store) :
    let s' := paidStore payout gatewayPayoutId methodId completedAt s
    (∀ type, s'.noticesAbout id type = s.noticesAbout id type +
        if .escrowPayoutSucceeded = type ∧ payout.id = id then 1 else 0) ∧
      s'.payoutState id = if id = payout.id then (s.payoutState id).map fun _ ↦ .succeeded
        else s.payoutState id := by
  have houtbox : (paidStore payout gatewayPayoutId methodId completedAt s).outboxEvents =
      s.outboxEvents ++ [OutboxService.row (succeededNotice payout gatewayPayoutId completedAt)
        s.nextId s.clock] := rfl
  constructor
  · exact Store.noticesAbout_append houtbox id
  · exact Store.payoutState_update (g := fun _ ↦ .succeeded) rfl (fun _ ↦ rfl) fun _ ↦ rfl

/-- A record of a failure says nothing of success. -/
theorem silent_writeFailure (payout : Payout) (reason : String) (failedAt id : ℕ) :
    Silent id .succeeded .escrowPayoutSucceeded (writeFailure payout reason failedAt).transact where
  notices := by
    intro s
    rw [(writeFailure_effect payout reason failedAt id s).1, if_neg fun h ↦ by cases h.1]
    rfl
  state := by
    intro s
    rw [(writeFailure_effect payout reason failedAt id s).2]
    split
    · cases s.payoutState id with
      | none => exact fun h ↦ h
      | some q =>
          rw [Option.map_some, failState]
          split
          · exact fun h ↦ by cases h
          · exact fun h ↦ h
    · exact fun h ↦ h

theorem silent_writeSuccess (payout : Payout) (gatewayPayoutId : String)
    (methodId completedAt id : ℕ) : Silent id .failed .escrowPayoutFailed
      (writeSuccess payout gatewayPayoutId methodId completedAt).transact where
  notices := by
    intro s
    rcases writeSuccess_cases payout gatewayPayoutId methodId completedAt s with ⟨-, h⟩ | ⟨-, h⟩
    · rw [h]
    · rw [h, (paidStore_effect payout gatewayPayoutId methodId completedAt id s).1,
        if_neg fun h ↦ by cases h.1]
      rfl
  state := by
    intro s
    rcases writeSuccess_cases payout gatewayPayoutId methodId completedAt s with ⟨-, h⟩ | ⟨-, h⟩
    · rw [h]
      exact fun h ↦ h
    · rw [h, (paidStore_effect payout gatewayPayoutId methodId completedAt id s).2]
      split
      · cases s.payoutState id with
        | none => exact fun h ↦ h
        | some q => exact fun h ↦ by cases h
      · exact fun h ↦ h

end PayoutDispatcherJob

open PayoutDispatcherJob

/-- An action that announces a failure only where it records one, and likewise a success. -/
structure Announces (id : ℕ) (act : Store → Store) : Prop where
  failure : RecordsFailure id act ∨ Silent id .failed .escrowPayoutFailed act
  success : (∃ methodId, RecordsSuccess id methodId act) ∨
    Silent id .succeeded .escrowPayoutSucceeded act

section Announces

variable {id : ℕ} {act : Store → Store}

theorem QuietAction.announces (h : QuietAction id act) : Announces id act where
  failure := .inr (h.silent (by rintro (h | h | h) <;> cases h) _)
  success := .inr (h.silent (by rintro (h | h | h) <;> cases h) _)

theorem announces_writeFailure (payout : Payout) (reason : String) (failedAt id : ℕ) :
    Announces id (writeFailure payout reason failedAt).transact where
  failure := by
    by_cases hid : payout.id = id
    · exact .inl ⟨payout, reason, failedAt, hid, rfl⟩
    · refine .inr ⟨fun s ↦ ?_, fun s ↦ ?_⟩
      · rw [(writeFailure_effect payout reason failedAt id s).1, if_neg fun h ↦ hid h.2]
        rfl
      · rw [(writeFailure_effect payout reason failedAt id s).2, if_neg (Ne.symm hid)]
        exact fun h ↦ h
  success := .inr (silent_writeFailure payout reason failedAt id)

theorem announces_writeSuccess (payout : Payout) (gatewayPayoutId : String)
    (methodId completedAt id : ℕ) :
    Announces id (writeSuccess payout gatewayPayoutId methodId completedAt).transact where
  failure := .inr (silent_writeSuccess payout gatewayPayoutId methodId completedAt id)
  success := by
    by_cases hid : payout.id = id
    · exact .inl ⟨methodId, payout, gatewayPayoutId, completedAt, hid, rfl⟩
    · refine .inr ⟨fun s ↦ ?_, fun s ↦ ?_⟩
      · rcases writeSuccess_cases payout gatewayPayoutId methodId completedAt s with ⟨-, h⟩ | ⟨-, h⟩
        · rw [h]
        · rw [h, (paidStore_effect payout gatewayPayoutId methodId completedAt id s).1,
            if_neg fun h ↦ hid h.2]
          rfl
      · rcases writeSuccess_cases payout gatewayPayoutId methodId completedAt s with ⟨-, h⟩ | ⟨-, h⟩
        · rw [h]
          exact fun h ↦ h
        · rw [h, (paidStore_effect payout gatewayPayoutId methodId completedAt id s).2,
            if_neg (Ne.symm hid)]
          exact fun h ↦ h

section Surplus

variable {n n' : ℕ} {p q : Prop} [Decidable p]

/-- One announcement more, which is one too many unless there has been a transition. -/
theorem surplus_of_announced (hn : n' = n + 1) (hq : q ↔ p) :
    n + (if p then 1 else 0) ≤ n' ∧ (n' = n + (if p then 1 else 0) ↔ q) := by
  rw [hn, hq]
  by_cases hp : p
  · rw [if_pos hp]
    exact ⟨le_rfl, iff_of_true rfl hp⟩
  · rw [if_neg hp]
    exact ⟨Nat.le_succ n, iff_of_false (Nat.succ_ne_self n) hp⟩

/-- Neither an announcement nor a transition. -/
theorem surplus_of_silent (hn : n' = n) (hp : ¬p) (hq : q) :
    n + (if p then 1 else 0) ≤ n' ∧ (n' = n + (if p then 1 else 0) ↔ q) := by
  rw [hn, if_neg hp]
  exact ⟨le_rfl, iff_of_true rfl hq⟩

end Surplus

/-- Failures are announced at least as often as the payout comes to be failed, and as often
exactly where a record of one finds the payout queued or in progress. -/
theorem failure_surplus (h : RecordsFailure id act ∨ Silent id .failed .escrowPayoutFailed act)
    (s : Store) :
    let entered := if Enters id .failed s (act s) then 1 else 0
    s.noticesAbout id .escrowPayoutFailed + entered ≤ (act s).noticesAbout id .escrowPayoutFailed ∧
      ((act s).noticesAbout id .escrowPayoutFailed =
          s.noticesAbout id .escrowPayoutFailed + entered ↔
        (RecordsFailure id act →
          s.payoutState id = some .queued ∨ s.payoutState id = some .processing)) := by
  intro entered
  by_cases hrecords : RecordsFailure id act
  · obtain ⟨payout, reason, failedAt, rfl, rfl⟩ := hrecords
    have heffect := writeFailure_effect payout reason failedAt payout.id s
    have hnotices := heffect.1 .escrowPayoutFailed
    rw [if_pos ⟨rfl, rfl⟩] at hnotices
    have henters : Enters payout.id .failed s ((writeFailure payout reason failedAt).transact s) ↔
        (s.payoutState payout.id = some .queued ∨ s.payoutState payout.id = some .processing) := by
      rw [Enters, heffect.2, if_pos rfl]
      cases s.payoutState payout.id with
      | none => simp
      | some q => cases q <;> simp [failState]
    have hiff : (RecordsFailure payout.id (writeFailure payout reason failedAt).transact →
        s.payoutState payout.id = some .queued ∨ s.payoutState payout.id = some .processing) ↔
        (s.payoutState payout.id = some .queued ∨ s.payoutState payout.id = some .processing) :=
      ⟨fun h ↦ h ⟨payout, reason, failedAt, rfl, rfl⟩, fun h _ ↦ h⟩
    exact surplus_of_announced hnotices (hiff.trans henters.symm)
  · have hsilent := h.resolve_left hrecords
    exact surplus_of_silent (hsilent.notices s) (fun he ↦ he.1 (hsilent.state s he.2))
      fun h ↦ absurd h hrecords

/-- The bank details are still there. -/
def Store.hasMethod (methodId : ℕ) (s : Store) : Prop :=
  ∃ method, Table.find ArtistPayoutMethod.id methodId s.artistPayoutMethods = some method

/-- Successes likewise, where a record of one finds the payout not paid yet. -/
theorem success_surplus (h : (∃ methodId, RecordsSuccess id methodId act) ∨
      Silent id .succeeded .escrowPayoutSucceeded act) (s : Store) :
    let entered := if Enters id .succeeded s (act s) then 1 else 0
    s.noticesAbout id .escrowPayoutSucceeded + entered ≤
        (act s).noticesAbout id .escrowPayoutSucceeded ∧
      ((act s).noticesAbout id .escrowPayoutSucceeded =
          s.noticesAbout id .escrowPayoutSucceeded + entered ↔
        ∀ methodId, RecordsSuccess id methodId act → s.hasMethod methodId →
          s.payoutState id ≠ some .succeeded) := by
  intro entered
  by_cases hrecords : ∃ methodId, RecordsSuccess id methodId act ∧ s.hasMethod methodId ∧
      ∃ row, s.payout? id = some row
  · obtain ⟨methodId, ⟨payout, gatewayPayoutId, completedAt, rfl, rfl⟩, hmethod, row, hrow⟩ :=
      hrecords
    have hpaid : (writeSuccess payout gatewayPayoutId methodId completedAt).transact s =
        paidStore payout gatewayPayoutId methodId completedAt s := by
      obtain ⟨hnot, -⟩ | ⟨-, h⟩ :=
        writeSuccess_cases payout gatewayPayoutId methodId completedAt s
      · exact absurd ⟨⟨row, hrow⟩, hmethod⟩ hnot
      · exact h
    have heffect := paidStore_effect payout gatewayPayoutId methodId completedAt payout.id s
    have hnotices := heffect.1 .escrowPayoutSucceeded
    rw [if_pos ⟨rfl, rfl⟩, ← hpaid] at hnotices
    have henters : Enters payout.id .succeeded s
        ((writeSuccess payout gatewayPayoutId methodId completedAt).transact s) ↔
          s.payoutState payout.id ≠ some .succeeded := by
      rw [Enters, hpaid, heffect.2, if_pos rfl]
      refine and_iff_left ?_
      rw [Store.payoutState, hrow]
      rfl
    have hiff : (∀ methodId', RecordsSuccess payout.id methodId'
        (writeSuccess payout gatewayPayoutId methodId completedAt).transact →
          s.hasMethod methodId' → s.payoutState payout.id ≠ some .succeeded) ↔
            s.payoutState payout.id ≠ some .succeeded :=
      ⟨fun h ↦ h methodId ⟨payout, gatewayPayoutId, completedAt, rfl, rfl⟩ hmethod,
        fun h _ _ _ ↦ h⟩
    exact surplus_of_announced hnotices (hiff.trans henters.symm)
  · -- nothing is recorded
    have hsame : (act s).noticesAbout id .escrowPayoutSucceeded =
          s.noticesAbout id .escrowPayoutSucceeded ∧
        ((act s).payoutState id = some .succeeded → s.payoutState id = some .succeeded) := by
      rcases h with ⟨methodId, payout, gatewayPayoutId, completedAt, rfl, rfl⟩ | hsilent
      · rcases writeSuccess_cases payout gatewayPayoutId methodId completedAt s with
          ⟨-, h⟩ | ⟨⟨hrow, hmethod⟩, -⟩
        · rw [h]
          exact ⟨rfl, fun h ↦ h⟩
        · exact absurd ⟨methodId, ⟨payout, gatewayPayoutId, completedAt, rfl, rfl⟩, hmethod, hrow⟩
            hrecords
      · exact ⟨hsilent.notices s, hsilent.state s⟩
    refine surplus_of_silent hsame.1 (fun he ↦ he.1 (hsame.2 he.2))
      fun methodId hrec hmethod hs ↦ hrecords ?_
    obtain ⟨row, hrow, -⟩ := Option.map_eq_some_iff.mp hs
    exact ⟨methodId, hrec, hmethod, row, hrow⟩

end Announces

/-! ## The programs -/

section Programs

variable {id : ℕ} (config : PayoutsConfig)

theorem actsOnly_persistFailure (payout : Payout) (reason : String) :
    ActsOnly (Announces id) (persistFailure payout reason) :=
  (actsOnly_read quiet_id.announces _).bind fun failedAt ↦
    Tx.actsOnly (announces_writeFailure payout reason failedAt id)

theorem actsOnly_persistSuccess (payout : Payout) (gatewayPayoutId : String) (methodId : ℕ) :
    ActsOnly (Announces id) (persistSuccess payout gatewayPayoutId methodId) :=
  (actsOnly_read quiet_id.announces _).bind fun completedAt ↦
    Tx.actsOnly (announces_writeSuccess payout gatewayPayoutId methodId completedAt id)

theorem actsOnly_attemptPayment (adhoc : AdhocConfig) (input : PayFastAdhocPaymentInput)
    (attempts : ℕ) (lastFailure : Option PayFastAdhocPaymentResult) :
    ActsOnly (Announces id) (attemptPayment adhoc input attempts lastFailure) := by
  induction attempts generalizing lastFailure with
  | zero => trivial
  | succ attempts ih =>
      have hone : ActsOnly (Announces id) (PayFastClient.adhocPayment adhoc input) := by
        unfold PayFastClient.adhocPayment
        split
        · trivial
        · split
          · trivial
          · exact (actsOnly_query _).bind fun _ ↦ trivial
      refine hone.bind fun result ↦ ?_
      split
      · trivial
      · split
        · exact ih _
        · trivial

theorem actsOnly_dispatchOne (payout : Payout) :
    ActsOnly (Announces id) (dispatchOne config payout) := by
  refine (actsOnly_read quiet_id.announces _).bind fun found ↦ ?_
  split
  · exact (actsOnly_persistFailure payout _).bind fun _ ↦ trivial
  · split
    · exact (actsOnly_persistFailure payout _).bind fun _ ↦ trivial
    · refine (Tx.actsOnly (quiet_claim payout).announces).bind fun claimed ↦ ?_
      split
      · trivial
      · refine (actsOnly_read quiet_id.announces _).bind fun decrypted ↦ ?_
        refine (actsOnly_ofExcept _).bind fun accountNumber ↦ ?_
        refine (actsOnly_attemptPayment _ _ _ _).bind fun result ↦ ?_
        split
        · exact (actsOnly_persistFailure payout _).bind fun _ ↦ trivial
        · exact (actsOnly_persistSuccess payout _ _).bind fun _ ↦ trivial

theorem actsOnly_dispatchAll (payouts : List Payout) (result : DispatchTickResult) :
    ActsOnly (Announces id) (dispatchAll config payouts result) := by
  induction payouts generalizing result with
  | nil => trivial
  | cons payout payouts ih =>
      have hone : ActsOnly (Announces id) (some <$> dispatchOne config payout) := by
        rw [map_eq_pure_bind]
        exact (actsOnly_dispatchOne config payout).bind fun _ ↦ trivial
      have hcaught : ActsOnly (Announces id)
          (tryCatchThe Failure (some <$> dispatchOne config payout) fun _ ↦ return none) :=
        hone.tryCatch fun _ ↦ trivial
      exact hcaught.bind fun _ ↦ ih _

theorem actsOnly_requeueAll (now : ℕ) (rows : List Payout) (requeued : ℕ) :
    ActsOnly (Announces id) (PayoutRetryJob.requeueAll now rows requeued) := by
  induction rows generalizing requeued with
  | nil => trivial
  | cons row rows ih =>
      unfold PayoutRetryJob.requeueAll
      split
      · exact ih requeued
      · split
        · exact ih requeued
        · exact (Tx.actsOnly (quiet_requeue row).announces).bind fun _ ↦ ih _

theorem PayoutCall.actsOnly (c : PayoutCall) : ActsOnly (Announces id) (c.program config) := by
  cases c with
  | dispatch =>
      refine ActsOnly.discard ?_
      unfold PayoutDispatcherJob.cron
      split
      · trivial
      · split
        · trivial
        · refine (actsOnly_read quiet_id.announces _).bind fun candidates ↦ ?_
          exact actsOnly_dispatchAll config _ _
  | retryFailed =>
      refine ActsOnly.discard ?_
      unfold PayoutRetryJob.cron
      split
      · trivial
      · refine (actsOnly_read quiet_id.announces _).bind fun rows ↦ ?_
        refine (actsOnly_read quiet_id.announces _).bind fun now ↦ ?_
        exact actsOnly_requeueAll _ _ _
  | retry k =>
      refine ActsOnly.discard ((actsOnly_read quiet_id.announces _).bind fun found ↦ ?_)
      split
      · trivial
      · split
        · trivial
        · split
          · trivial
          · have hwrite : ∀ s row s', Tx.updatePayout k Payout.requeue s = .ok (row, s') →
                s'.outboxEvents = s.outboxEvents ∧ (s'.payoutState id = s.payoutState id ∨
                  ∃ q, s'.payoutState id = some q ∧ q.Quiet) :=
              fun s row s' h ↦ quiet_overwrite h (fun _ ↦ rfl) (fun _ ↦ rfl) (.inl rfl)
            refine Tx.actsOnly (QuietAction.announces (.transact ?_ ?_))
            · exact fun s row s' h ↦ (hwrite s row s' h).1
            · exact fun s row s' h ↦ (hwrite s row s' h).2
  | cancel k reason =>
      refine ActsOnly.discard ((actsOnly_read quiet_id.announces _).bind fun found ↦ ?_)
      split
      · trivial
      · split
        · trivial
        · split
          · trivial
          · have hwrite : ∀ s row s', (do Tx.updatePayout k (Payout.cancel reason (← Tx.now)) :
                Tx Payout) s = .ok (row, s') → s'.outboxEvents = s.outboxEvents ∧
                  (s'.payoutState id = s.payoutState id ∨
                    ∃ q, s'.payoutState id = some q ∧ q.Quiet) := by
              intro s row s' h
              rw [Tx.bind_ok (Tx.now_apply s)] at h
              exact quiet_overwrite h (fun _ ↦ rfl) (fun _ ↦ rfl) (.inr (.inr rfl))
            refine Tx.actsOnly (QuietAction.announces (.transact ?_ ?_))
            · exact fun s row s' h ↦ (hwrite s row s' h).1
            · exact fun s row s' h ↦ (hwrite s row s' h).2
  | tick clock =>
      exact ⟨(quiet_tick clock).announces, fun _ ↦ trivial⟩

end Programs

/-! ## Runs -/

/-- The events about the failures and the successes of the payout that a run has added are as
many as its transitions. -/
structure AnnouncementsMatch (id : ℕ) (P : EnginePool) (ts : List (Turn GatewayReply Failure)) :
    Prop where
  failed : (Pool.run next P ts).store.noticesAbout id .escrowPayoutFailed =
    P.store.noticesAbout id .escrowPayoutFailed + transitionsInto id .failed P ts
  succeeded : (Pool.run next P ts).store.noticesAbout id .escrowPayoutSucceeded =
    P.store.noticesAbout id .escrowPayoutSucceeded + transitionsInto id .succeeded P ts

/-- A turn in which a failure of the payout is recorded finds it queued or in progress, and one
in which a success is recorded finds it not paid yet. -/
structure RecordsInTime (id : ℕ) (P : EnginePool) (t : Turn GatewayReply Failure) : Prop where
  failure : ∀ act, P.action? t = some act → RecordsFailure id act →
    P.store.payoutState id = some .queued ∨ P.store.payoutState id = some .processing
  success : ∀ act methodId, P.action? t = some act → RecordsSuccess id methodId act →
    P.store.hasMethod methodId → P.store.payoutState id ≠ some .succeeded

section Runs

variable {id : ℕ} {P : EnginePool}

/-- What every action keeps to, a turn keeps to. -/
theorem surplus_turn {q : PayoutState} {type : PaymentsEventType} {t : Turn GatewayReply Failure}
    {C : (Store → Store) → Prop} (h : ∀ act, P.action? t = some act →
      let entered := if Enters id q P.store (act P.store) then 1 else 0
      P.store.noticesAbout id type + entered ≤ (act P.store).noticesAbout id type ∧
        ((act P.store).noticesAbout id type = P.store.noticesAbout id type + entered ↔ C act)) :
    let P' := Pool.step next P t
    let entered := if Enters id q P.store P'.store then 1 else 0
    P.store.noticesAbout id type + entered ≤ P'.store.noticesAbout id type ∧
      (P'.store.noticesAbout id type = P.store.noticesAbout id type + entered ↔
        ∀ act, P.action? t = some act → C act) := by
  intro P' entered
  have hstore : P'.store = (P.action? t).elim P.store fun act ↦ act P.store := Pool.store_step P t
  change _ ≤ P'.store.noticesAbout id type ∧ _
  have hentered : entered = if Enters id q P.store P'.store then 1 else 0 := rfl
  cases hact : P.action? t with
  | none =>
      rw [hact, Option.elim_none] at hstore
      rw [hstore, if_neg fun h ↦ h.1 h.2] at hentered
      rw [hentered, hstore]
      exact ⟨le_rfl, iff_of_true rfl fun _ h ↦ by cases h⟩
  | some act =>
      rw [hact, Option.elim_some] at hstore
      rw [hstore] at hentered
      rw [hentered, hstore]
      have hsurplus := h act hact
      refine ⟨hsurplus.1, hsurplus.2.trans ⟨fun h act' hact' ↦ ?_, fun h ↦ h act rfl⟩⟩
      cases hact'
      exact h

variable (config : PayoutsConfig) (s : Store) (calls : List PayoutCall)

theorem PayoutCall.pool_actsOnly :
    ∀ p ∈ (PayoutCall.pool config s calls).threads, ActsOnly (Announces id) p := by
  intro p hp
  obtain ⟨c, -, rfl⟩ := List.mem_map.mp hp
  exact c.actsOnly config

/-- In a run of dispatcher ticks, retry jobs and an admin's retries and cancels the events about
a payout match its transitions exactly if every record of a failure or a success is in time. -/
theorem announcements_match_iff (id : ℕ) (ts : List (Turn GatewayReply Failure)) :
    AnnouncementsMatch id (PayoutCall.pool config s calls) ts ↔
      Transition.Along (Pool.step next) (RecordsInTime id) (PayoutCall.pool config s calls) ts := by
  let I : EnginePool → Prop := fun P ↦ ∀ p ∈ P.threads, ActsOnly (Announces id) p
  have hstart : I (PayoutCall.pool config s calls) := PayoutCall.pool_actsOnly config s calls
  have hI : ∀ P t, I P → I (Pool.step next P t) := fun P t hP ↦ Pool.actsOnly_step hP t
  have hfailure := fun (P : EnginePool) (t : Turn GatewayReply Failure) (hP : I P) ↦
    surplus_turn (t := t) fun act hact ↦
      failure_surplus (Pool.actsOnly_action? hP hact).failure P.store
  have hsuccess := fun (P : EnginePool) (t : Turn GatewayReply Failure) (hP : I P) ↦
    surplus_turn (t := t) fun act hact ↦
      success_surplus (Pool.actsOnly_action? hP hact).success P.store
  have hfailed := Transition.Along.iff_total hI (fun P t hP ↦ (hfailure P t hP).1) hstart ts
  have hsucceeded := Transition.Along.iff_total hI (fun P t hP ↦ (hsuccess P t hP).1) hstart ts
  have hmatch : AnnouncementsMatch id (PayoutCall.pool config s calls) ts ↔ _ ∧ _ :=
    ⟨fun h ↦ ⟨h.failed, h.succeeded⟩, fun h ↦ ⟨h.1, h.2⟩⟩
  have hrecords : ∀ P t, RecordsInTime id P t ↔ _ ∧ _ := fun P t ↦
    ⟨fun h ↦ ⟨h.failure, fun act hact methodId ↦ h.success act methodId hact⟩,
      fun h ↦ ⟨h.1, fun act methodId hact ↦ h.2 act hact methodId⟩⟩
  rw [hmatch, transitionsInto, transitionsInto, ← hfailed, ← hsucceeded, ← Transition.Along.and]
  refine Transition.Along.congr (I := I) (fun P t hP ↦ ?_) (fun P t hP _ ↦ hI P t hP) hstart ts
  rw [(hfailure P t hP).2, (hsuccess P t hP).2, hrecords]

end Runs

namespace Sample

/-- The artist has no bank details. -/
def unbanked : Store := { owing .queued with artistPayoutMethods := [] }

/-- Two ticks have the payout in their batch before either has recorded the failure. -/
def twoTicks : List (Turn GatewayReply Failure) :=
  [⟨0, .act⟩, ⟨1, .act⟩] ++ List.replicate 3 ⟨0, .act⟩ ++ List.replicate 3 ⟨1, .act⟩

end Sample

/-- One transition to failure is announced twice. -/
theorem failure_announced_twice :
    ¬∀ (config : PayoutsConfig) (s : Store) (calls : List PayoutCall) (id : ℕ)
      (ts : List (Turn GatewayReply Failure)),
        AnnouncementsMatch id (PayoutCall.pool config s calls) ts := by
  intro h
  have hmatch := (h Sample.payouts Sample.unbanked [.dispatch, .dispatch] 1 Sample.twoTicks).failed
  have htwo : (Pool.run next (PayoutCall.pool Sample.payouts Sample.unbanked [.dispatch, .dispatch])
      Sample.twoTicks).store.noticesAbout 1 .escrowPayoutFailed = 2 := by decide
  have hone : transitionsInto 1 .failed
      (PayoutCall.pool Sample.payouts Sample.unbanked [.dispatch, .dispatch])
      Sample.twoTicks = 1 := by
    decide
  rw [htwo, hone] at hmatch
  cases hmatch

end GearshPayments
