import GearshPayments.Escrow.Records
import GearshPayments.Payouts.Methods
import GearshPayments.Payouts.Queue

/-!
# The engine

All calls that write the store: those of the services (`System.lean`), of the payout jobs
and the admin, and of the bank details.  What the stores that they reach together satisfy
beyond `Store.Consistent` is about payouts: a payout is queued when its hold is closed, so
the hold of a payout is closed for good, and it has no other payout.
-/

namespace GearshPayments

open Resumption EscrowService

/-- The configuration of the engine, and the encryption of account numbers by the database. -/
structure EngineConfig where
  systemUserId : ℕ
  business : BusinessConfig
  payouts : PayoutsConfig
  encrypt : String → String

/-- What the services see of it. -/
def EngineConfig.system (config : EngineConfig) : SystemConfig where
  systemUserId := config.systemUserId
  payfast := config.payouts.payfast.toPayFastConfig
  business := config.business

inductive EngineCall where
  | service (c : ServiceCall)
  | payout (c : PayoutCall)
  | method (c : PayoutMethodCall)

def EngineCall.program (config : EngineConfig) : EngineCall → Engine Unit
  | .service c => (c.program config.system).toEngine
  | .payout c => c.program config.payouts
  | .method c => c.program config.encrypt

/-- Any number of calls over a store. -/
def EngineCall.pool (config : EngineConfig) (s : Store) (calls : List EngineCall) : EnginePool :=
  ⟨s, calls.map (·.program config), []⟩

/-- What every call does, every thread of the pool does. -/
theorem EngineCall.forall_pool {config : EngineConfig} {motive : Engine Unit → Prop}
    (h : ∀ c : EngineCall, motive (c.program config)) (s : Store) (calls : List EngineCall) :
    ∀ p ∈ (EngineCall.pool config s calls).threads, motive p := by
  intro p hp
  obtain ⟨c, -, rfl⟩ := List.mem_map.mp hp
  exact h c

/-- A store that calls of the engine, interleaved in any way, reach from one that holds nothing
but payment intents. -/
def EngineReachable (config : EngineConfig) (s : Store) : Prop :=
  ∃ (clock nextId : ℕ) (intents : List PaymentIntent) (calls : List EngineCall)
    (schedule : List (Turn GatewayReply Failure)),
    (Pool.run next (EngineCall.pool config (Store.empty clock nextId intents) calls)
      schedule).store = s

/-! ## Payouts of closed holds -/

/-- The hold of a payout is closed and has no other payout. -/
structure Store.PayoutsKept (s : Store) : Prop extends s.PayoutKeys where
  closed : ∀ p ∈ s.payouts, ∃ h ∈ s.escrowHolds, h.id = p.holdId ∧ isTerminal h.state = true
  single : (s.payouts.map Payout.holdId).Nodup

/-- Everything that is known of a store that the engine reaches. -/
structure Store.EngineConsistent (s : Store) : Prop extends s.Consistent where
  payouts : s.PayoutsKept

namespace Store.PayoutsKept

variable {s s' : Store}

/-- A write that does not concern payouts and keeps the holds. -/
theorem frame (hs : s.PayoutsKept) (hp : s'.payouts = s.payouts)
    (hh : ∀ h ∈ s.escrowHolds, h ∈ s'.escrowHolds) (hn : s.nextId ≤ s'.nextId) :
    s'.PayoutsKept where
  distinct := hp ▸ hs.distinct
  fresh := by
    rw [hp]
    exact fun p hm ↦ (hs.fresh p hm).trans_le hn
  closed := by
    rw [hp]
    intro p hm
    obtain ⟨h, hh', hid⟩ := hs.closed p hm
    exact ⟨h, hh h hh', hid⟩
  single := hp ▸ hs.single

/-- The hold of a payout is found, and nothing can be done to it. -/
theorem hold_of_payout (hs : s.PayoutsKept) (hc : s.Conserved) {p : Payout} (hp : p ∈ s.payouts) :
    ∃ h, s.escrowHold? p.holdId = some h ∧ ∀ action, transitions h.state action = none := by
  obtain ⟨h, hm, hid, hclosed⟩ := hs.closed p hp
  refine ⟨h, ?_, transitions_of_isTerminal hclosed⟩
  rw [← hid]
  exact (Table.find_eq_some_iff hc.distinct).mpr hm

theorem payoutWrite (hs : s.PayoutsKept) (h : PayoutWrite s s') : s'.PayoutsKept where
  toPayoutKeys := h.payoutKeys hs.toPayoutKeys
  closed := by
    obtain ⟨f, hf, hpayouts⟩ := h.payouts
    rw [hpayouts, h.escrowHolds]
    intro p hp
    obtain ⟨x, hx, rfl⟩ := List.mem_map.mp hp
    rw [(hf x).holdId]
    exact hs.closed x hx
  single := by
    obtain ⟨f, hf, hpayouts⟩ := h.payouts
    have hholds : s'.payouts.map Payout.holdId = s.payouts.map Payout.holdId := by
      rw [hpayouts, List.map_map]
      exact List.map_congr_left fun p _ ↦ (hf p).holdId
    rw [hholds]
    exact hs.single

end Store.PayoutsKept

/-- Only an operation that closes the hold queues a payout. -/
theorem EscrowOp.terminal_of_payout {op : EscrowOp} {hold : EscrowHold} {target : EscrowState}
    {now : ℕ} {w : Writes} (hw : op.work hold target now = .ok w)
    (hlegal : transitions hold.state op.action = some target) (hpos : ¬w.payout ≤ 0) :
    isTerminal target = true := by
  have htarget := target_of_legal hlegal
  rw [isTerminal_iff, htarget]
  cases op with
  | release => exact .inl rfl
  | resolveRelease => exact .inl rfl
  | resolveRefund => exact .inr rfl
  | refund => exact .inr rfl
  | resolveSplit => exact .inr rfl
  | freeze =>
      cases hw
      exact absurd le_rfl hpos
  | partialRefund =>
      obtain ⟨-, rfl⟩ := of_guard_ok hw
      exact absurd le_rfl hpos

/-- An operation acts on a hold that has no payouts. -/
theorem EscrowOp.Commits.payoutsKept {config : BusinessConfig} {op : EscrowOp} {s : Store}
    {hold : EscrowHold} {target : EscrowState} {w : Writes} {entries : List LedgerEntryInput}
    (hc : op.Commits s hold target w entries) (hs : s.Consistent) (hk : s.PayoutsKept) :
    (w.commit config hold entries s).PayoutsKept := by
  have hne : ∀ p ∈ s.payouts, p.holdId ≠ hold.id := by
    intro p hp hid
    obtain ⟨h, hfound, hillegal⟩ := hk.hold_of_payout hs.conserved hp
    rw [hid, hc.id_eq, hc.found] at hfound
    cases hfound
    exact absurd (hillegal op.action) (by rw [hc.legal]; exact fun h ↦ by cases h)
  have hpayouts : (w.commit config hold entries s).payouts =
      s.payouts ++ w.queued config hold s := by
    rw [Writes.commit]
    dsimp only
    split
    · refine congrArg (· ++ _) ((List.map_congr_left fun p hp ↦ ?_).trans (List.map_id _))
      exact cancelQueued_of_ne (hne p hp) s.clock
    · rfl
  have hupdate := EscrowOp.update_of_work hc.work hold
  have hqueued : ∀ p ∈ w.queued config hold s, p.holdId = hold.id := by
    intro p hp
    rw [mem_queuedPayouts hp]
    exact hupdate.2.id
  refine ⟨(queueWrite_commit w config hold entries s).payoutKeys hk.toPayoutKeys, ?_, ?_⟩
  · rw [hpayouts]
    intro p hp
    rcases List.mem_append.mp hp with hp | hp
    · obtain ⟨h, hm, hid, hclosed⟩ := hk.closed p hp
      refine ⟨h, Table.mem_update.mpr ⟨h, hm, ?_⟩, hid, hclosed⟩
      rw [if_neg (hid ▸ hne p hp)]
    · refine ⟨w.update hold, Table.mem_update.mpr ⟨hold, (Table.find_some hc.found).1, ?_⟩, ?_, ?_⟩
      · rw [if_pos rfl]
      · rw [hqueued p hp]
        exact hupdate.2.id
      · rw [hupdate.1]
        refine EscrowOp.terminal_of_payout hc.work hc.legal fun hle ↦ ?_
        rw [Writes.queued, queuedPayouts, if_pos hle] at hp
        cases hp
  · rw [hpayouts, List.map_append]
    refine List.nodup_append.mpr ⟨hk.single, ?_, fun x hx y hy ↦ ?_⟩
    · have hlen : ((w.queued config hold s).map Payout.holdId).length ≤ 1 := by
        rw [List.length_map]
        exact length_queuedPayouts _ _ _ _ _
      exact List.nodup_iff_getElem?_ne_getElem?.mpr fun i j hij hj ↦ by omega
    · obtain ⟨p, hp, rfl⟩ := List.mem_map.mp hx
      obtain ⟨q, hq, rfl⟩ := List.mem_map.mp hy
      rw [hqueued q hq]
      exact hne p hp

/-! ## Every call keeps them -/

theorem PayoutWrite.consistent {s s' : Store} (h : PayoutWrite s s') (hs : s.Consistent) :
    s'.Consistent := by
  obtain ⟨os, ho, htypes⟩ := h.outbox
  have hledger : s'.ledgerEntries = s.ledgerEntries := by rw [h.rest]
  have hevents : s'.escrowEvents = s.escrowEvents := by rw [h.rest]
  refine hs.extend (hs.conserved.frame h.escrowHolds hledger h.nextId) (h.escrowHolds ▸ hs.bookings)
    h.nextId ?_ (h.refunds ▸ hs.distinct) ?_ ?_ ?_
  · rw [h.refunds]
    exact fun r hm ↦ .inl ⟨r, hm, rfl, rfl⟩
  · rw [hevents]
    exact fun _ hm ↦ .inl hm
  · rw [hledger]
    exact fun _ hm ↦ .inl hm
  · rw [ho]
    intro o hm
    rcases List.mem_append.mp hm with hm | hm
    · exact .inl hm
    · refine .inr fun ht ↦ ?_
      rcases htypes o hm with h | h
      · cases h.symm.trans ht
      · cases h.symm.trans ht

theorem PayoutWrite.engineConsistent {s s' : Store} (h : PayoutWrite s s')
    (hs : s.EngineConsistent) :
    s'.EngineConsistent :=
  ⟨h.consistent hs.toConsistent, hs.payouts.payoutWrite h⟩

theorem MethodWrite.engineConsistent {s s' : Store} (h : MethodWrite s s')
    (hs : s.EngineConsistent) : s'.EngineConsistent := by
  obtain ⟨hn, hrest⟩ := h
  have hholds : s'.escrowHolds = s.escrowHolds := by rw [hrest]
  have hledger : s'.ledgerEntries = s.ledgerEntries := by rw [hrest]
  have hrefunds : s'.refunds = s.refunds := by rw [hrest]
  have hevents : s'.escrowEvents = s.escrowEvents := by rw [hrest]
  have houtbox : s'.outboxEvents = s.outboxEvents := by rw [hrest]
  refine ⟨hs.toConsistent.extend (hs.conserved.frame hholds hledger hn) (hholds ▸ hs.bookings) hn ?_
    (hrefunds ▸ hs.distinct) ?_ ?_ ?_, hs.payouts.frame (by rw [hrest]) ?_ hn⟩
  · rw [hrefunds]
    exact fun r hm ↦ .inl ⟨r, hm, rfl, rfl⟩
  · rw [hevents]
    exact fun _ hm ↦ .inl hm
  · rw [hledger]
    exact fun _ hm ↦ .inl hm
  · rw [houtbox]
    exact fun _ hm ↦ .inl hm
  · rw [hholds]
    exact fun _ hm ↦ hm

namespace Store.EngineConsistent

variable {s s' : Store}

theorem empty (clock nextId : ℕ) (intents : List PaymentIntent) :
    (Store.empty clock nextId intents).EngineConsistent where
  toConsistent := .empty clock nextId intents
  payouts :=
    { distinct := List.nodup_nil
      fresh := fun _ hm ↦ absurd hm List.not_mem_nil
      closed := fun _ hm ↦ absurd hm List.not_mem_nil
      single := List.nodup_nil }

theorem exec (hs : s.EngineConsistent) {config : BusinessConfig} {op : EscrowOp}
    {hold : EscrowHold} (h : op.exec config s = .ok (hold, s')) : s'.EngineConsistent := by
  refine ⟨hs.toConsistent.exec h, ?_⟩
  obtain ⟨hold, target, w, entries, hc, -, rfl⟩ := EscrowOp.commits_of_exec_eq h
  exact hc.payoutsKept hs.toConsistent hs.payouts

/-- A write of the services that does not concern payouts. -/
theorem frame (hs : s.EngineConsistent) (hc : s'.Consistent) (hp : s'.payouts = s.payouts)
    (hh : ∀ h ∈ s.escrowHolds, h ∈ s'.escrowHolds) (hn : s.nextId ≤ s'.nextId) :
    s'.EngineConsistent :=
  ⟨hc, hs.payouts.frame hp hh hn⟩

end Store.EngineConsistent

theorem writes_engineConsistent (business : BusinessConfig) :
    RefundsService.WriteRules business Store.EngineConsistent fun _ s' ↦ s'.EngineConsistent where
  refl := fun _ hs ↦ hs
  insert := by
    intro s s' row r hs hid hpos h
    have hc := hs.toConsistent.createRefund hid hpos h
    cases h
    exact hs.frame hc rfl (fun _ hm ↦ hm) (Nat.le_succ _)
  move := fun hs h ↦ hs.exec h
  announce := fun hs hf ha hr hn ↦
    hs.frame (hs.toConsistent.announceRefund hf ha hr hn.aggregateId) rfl (fun _ hm ↦ hm)
      (Nat.le_succ _)

theorem ServiceCall.keeps_engine (config : SystemConfig) (c : ServiceCall) :
    Keeps Store.EngineConsistent (c.program config) := by
  cases c with
  | capture args zarFee =>
      refine keeps_transaction fun s u s' hs h ↦ ?_
      have hc := hs.toConsistent.commitComplete h
      rcases PayFastWebhookService.of_commitComplete_ok h with ⟨-, rfl⟩ | ⟨-, rfl⟩
      · exact hs
      · exact hs.frame hc rfl (fun _ hm ↦ List.mem_append_left _ hm) (Nat.le_add_right _ 5)
  | failure args =>
      refine keeps_transaction fun s u s' hs h ↦ ?_
      have hc := hs.toConsistent.commitFailed h
      rcases PayFastWebhookService.of_commitFailed_ok h with ⟨-, rfl⟩ | ⟨-, -, rfl⟩
      · exact hs
      · exact hs.frame hc rfl (fun _ hm ↦ hm) (Nat.le_add_right _ 2)
  | escrow op => exact ((writes_engineConsistent config.business).exec op).keeps.discard
  | refund input =>
      have hwrites := (writes_engineConsistent config.business).issueRefund config.payfast input
      exact hwrites.keeps.discard
  | tick clock =>
      refine ⟨fun s hs ↦ ⟨?_, trivial⟩, fun _ ↦ trivial⟩
      exact hs.frame (hs.toConsistent.tick clock) rfl (fun _ hm ↦ hm) le_rfl

theorem EngineCall.keeps (config : EngineConfig) (c : EngineCall) :
    Keeps Store.EngineConsistent (c.program config) := by
  cases c with
  | service c => exact (c.keeps_engine config.system).relabel
  | payout c =>
      have hg : Guarantees Store.EngineConsistent PayoutWrite (c.program config.payouts) :=
        c.guarantees config.payouts
      exact (hg.mono (fun _ hs ↦ hs) fun _ _ hs h ↦ h.engineConsistent hs).keeps
  | method c =>
      have hg : Guarantees Store.EngineConsistent MethodWrite (c.program config.encrypt) :=
        c.guarantees config.encrypt
      exact (hg.mono (fun _ hs ↦ hs) fun _ _ hs h ↦ h.engineConsistent hs).keeps

theorem EngineCall.engineConsistent (config : EngineConfig) {s : Store} (hs : s.EngineConsistent)
    (calls : List EngineCall) (schedule : List (Turn GatewayReply Failure)) :
    (Pool.run next (EngineCall.pool config s calls) schedule).store.EngineConsistent := by
  have hkeeps : ∀ p ∈ (EngineCall.pool config s calls).threads, Keeps Store.EngineConsistent p :=
    EngineCall.forall_pool (fun c ↦ c.keeps config) s calls
  exact Pool.keeps_run hkeeps hs schedule

theorem EngineReachable.engineConsistent {config : EngineConfig} {s : Store}
    (h : EngineReachable config s) : s.EngineConsistent := by
  obtain ⟨clock, nextId, intents, calls, schedule, rfl⟩ := h
  exact EngineCall.engineConsistent config (.empty clock nextId intents) calls schedule

end GearshPayments
