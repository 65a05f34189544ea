import GearshPayments.Events.Publisher
import GearshPayments.Resumption.Guarantee
import GearshPayments.Resumption.Questions

/-!
# The order of the events of one subject

Events of one subject are published with the subject as the ordering key, and a tick goes
through its batch in the order in which the rows were created.  But it goes on after a row
whose publication failed, and it leaves out the rows that have used up their attempts.
`publishedInOrder_iff` says what this comes to: over any number of ticks the events of every
subject are published in order exactly if no tick publishes an event while an older one of
its subject, not published yet, fails before it in the batch or is out of attempts.
-/

namespace GearshPayments

open Resumption

/-- A publication that succeeded. -/
def PublishReply.accepted (reply : PublishReply) : Bool := reply.isOk

namespace OutboxDispatcher

/-- The outbox, and the ids of the events that the topics have received so far, in order. -/
structure Delivery where
  store : Store
  received : List ℕ

namespace Delivery

/-- The ids of the events that were published successfully. -/
def receivedIn (exchanges : List (PublishRequest × PublishReply)) : List ℕ :=
  (exchanges.filter fun x ↦ x.2.accepted).map fun x ↦ x.1.event.id

theorem receivedIn_cons (x : PublishRequest) (reply : PublishReply)
    (exchanges : List (PublishRequest × PublishReply)) :
    receivedIn ((x, reply) :: exchanges) =
      (if reply.accepted then [x.event.id] else []) ++ receivedIn exchanges := by
  cases reply with
  | ok id => rfl
  | error message => rfl

/-- One tick, in an environment that answers its publications and may refuse its actions on the
database. -/
def tick (config : PubSubConfig) (d : Delivery) (env : Env PublishReply String) : Delivery :=
  let r := (dispatch config).run env d.store
  ⟨r.store, d.received ++ receivedIn r.exchanges⟩

/-- Of two events of one subject, the later is never received before the first time that the
earlier is. -/
def InOrder (d : Delivery) : Prop :=
  ∀ a ∈ d.store.outboxEvents, ∀ b ∈ d.store.outboxEvents, a.subject = b.subject →
    a.createdAt < b.createdAt → b.id ∈ d.received → d.received.idxOf a.id < d.received.idxOf b.id

end Delivery

/-! ## The environment of a batch -/

/-- What remains of the environment after an action; `none` if it was refused. -/
def afterUpdate (env : Env PublishReply String) : Option (Env PublishReply String) :=
  match env.faults 0 with
  | none => some env.afterAction
  | some _ => none

/-- What remains of the environment after a row; `none` if its failure could not be written
down, which ends the tick. -/
def afterRow (env : Env PublishReply String) : Option (Env PublishReply String) :=
  let env' := env.afterAnswer
  match env.answers 0, env'.faults 0 with
  | .ok _, none => some env'.afterAction
  | .ok _, some _ => afterUpdate env'.afterAction
  | .error _, _ => afterUpdate env'

/-- The tick gets to the row of that number in its batch. -/
def reaches : Env PublishReply String → ℕ → Bool
  | _, 0 => true
  | env, n + 1 => match afterRow env with
    | none => false
    | some env' => reaches env' n

theorem reaches_of_le {env : Env PublishReply String} {i j : ℕ} (hij : i ≤ j)
    (h : reaches env j = true) : reaches env i = true := by
  induction i generalizing env j with
  | zero => rfl
  | succ i ih =>
      obtain ⟨j, rfl⟩ := Nat.exists_eq_succ_of_ne_zero (Nat.ne_zero_of_lt hij)
      rw [reaches] at h ⊢
      cases henv : afterRow env with
      | none =>
          rw [henv] at h
          cases h
      | some env' =>
          rw [henv] at h
          exact ih (Nat.le_of_succ_le_succ hij) h

/-- The rows of a batch that are published successfully. -/
def acceptedRows : Env PublishReply String → List OutboxEvent → List OutboxEvent
  | _, [] => []
  | env, row :: rows =>
    (if (env.answers 0).accepted then [row] else []) ++ match afterRow env with
      | none => []
      | some env' => acceptedRows env' rows

theorem answers_afterRow {env env' : Env PublishReply String}
    (h : afterRow env = some env') (n : ℕ) :
    env'.answers n = env.answers (n + 1) := by
  unfold afterRow afterUpdate at h
  dsimp only at h
  split at h
  · cases h
    rfl
  · split at h
    · cases h
      rfl
    · cases h
  · split at h
    · cases h
      rfl
    · cases h

theorem acceptedRows_sublist (env : Env PublishReply String) (rows : List OutboxEvent) :
    (acceptedRows env rows).Sublist rows := by
  induction rows generalizing env with
  | nil => exact List.Sublist.refl _
  | cons row rows ih =>
      rw [acceptedRows]
      have hrest : (match afterRow env with
          | none => []
          | some env' => acceptedRows env' rows).Sublist rows := by
        cases afterRow env with
        | none => exact List.nil_sublist _
        | some env' => exact ih env'
      split
      · exact hrest.cons_cons row
      · exact hrest.cons row

theorem mem_acceptedRows {env : Env PublishReply String} {rows : List OutboxEvent}
    {row : OutboxEvent} :
    row ∈ acceptedRows env rows ↔
      ∃ n, rows[n]? = some row ∧ reaches env n = true ∧ (env.answers n).accepted = true := by
  induction rows generalizing env with
  | nil =>
      constructor
      · intro h
        cases h
      · rintro ⟨n, h, -⟩
        cases h
  | cons x rows ih =>
      rw [acceptedRows, List.mem_append]
      constructor
      · rintro (h | h)
        · split at h
          · rw [List.mem_singleton.mp h]
            exact ⟨0, rfl, rfl, ‹_›⟩
          · cases h
        · cases henv : afterRow env with
          | none =>
              rw [henv] at h
              cases h
          | some env' =>
              rw [henv] at h
              obtain ⟨n, hn, hreach, hok⟩ := ih.mp h
              refine ⟨n + 1, hn, ?_, ?_⟩
              · rw [reaches, henv]
                exact hreach
              · rwa [← answers_afterRow henv]
      · rintro ⟨n, hn, hreach, hok⟩
        cases n with
        | zero =>
            cases hn
            rw [if_pos hok]
            exact .inl List.mem_cons_self
        | succ n =>
            rw [reaches] at hreach
            cases henv : afterRow env with
            | none =>
                rw [henv] at hreach
                cases hreach
            | some env' =>
                rw [henv] at hreach
                refine .inr (ih.mpr ⟨n, hn, hreach, ?_⟩)
                rwa [answers_afterRow henv]

/-! ## What a batch does -/

/-- Nothing but the delivery of rows has changed, and only received events are marked. -/
def Redelivered (marked : ℕ → Prop) (rows rows' : List OutboxEvent) : Prop :=
  ∃ f : OutboxEvent → OutboxEvent, rows' = rows.map f ∧ ∀ row, (f row).id = row.id ∧
    (f row).subject = row.subject ∧ (f row).createdAt = row.createdAt ∧
    ((f row).publishedAt = row.publishedAt ∨ marked row.id)

namespace Redelivered

variable {marked marked' : ℕ → Prop} {rows rows' rows'' : List OutboxEvent}

theorem refl (rows : List OutboxEvent) : Redelivered marked rows rows :=
  ⟨id, (List.map_id rows).symm, fun _ ↦ ⟨rfl, rfl, rfl, .inl rfl⟩⟩

theorem mono (h : Redelivered marked rows rows') (hm : ∀ id, marked id → marked' id) :
    Redelivered marked' rows rows' := by
  obtain ⟨f, hf, hcols⟩ := h
  refine ⟨f, hf, fun row ↦ ?_⟩
  obtain ⟨hid, hsubject, hcreated, hpublished⟩ := hcols row
  exact ⟨hid, hsubject, hcreated, hpublished.imp_right (hm row.id)⟩

theorem trans (h : Redelivered marked rows rows') (h' : Redelivered marked rows' rows'') :
    Redelivered marked rows rows'' := by
  obtain ⟨f, rfl, hf⟩ := h
  obtain ⟨g, rfl, hg⟩ := h'
  refine ⟨g ∘ f, List.map_map, fun row ↦ ?_⟩
  obtain ⟨hid, hsubject, hcreated, hpublished⟩ := hf row
  obtain ⟨hid', hsubject', hcreated', hpublished'⟩ := hg (f row)
  refine ⟨hid'.trans hid, hsubject'.trans hsubject, hcreated'.trans hcreated, ?_⟩
  rcases hpublished' with hsame | hmarked
  · exact hpublished.imp_left hsame.trans
  · exact .inr (hid ▸ hmarked)

/-- An update of one row. -/
theorem update {id : ℕ} {f : OutboxEvent → OutboxEvent} (rows : List OutboxEvent)
    (hf : ∀ row, (f row).id = row.id ∧ (f row).subject = row.subject ∧
      (f row).createdAt = row.createdAt ∧ ((f row).publishedAt = row.publishedAt ∨ marked id)) :
    Redelivered marked rows (Table.update OutboxEvent.id id f rows) := by
  refine ⟨fun row ↦ if row.id = id then f row else row, rfl, fun row ↦ ?_⟩
  dsimp only
  split
  · next hid =>
      rw [hid]
      exact hid ▸ hf row
  · exact ⟨rfl, rfl, rfl, .inl rfl⟩

/-- A row that is there stays there. -/
theorem isSome_find (h : Redelivered marked rows rows') (id : ℕ) :
    (Table.find OutboxEvent.id id rows').isSome = (Table.find OutboxEvent.id id rows).isSome := by
  obtain ⟨f, rfl, hf⟩ := h
  rw [Table.find_map fun row ↦ (hf row).1, Option.isSome_map]

theorem map_id (h : Redelivered marked rows rows') :
    rows'.map OutboxEvent.id = rows.map OutboxEvent.id := by
  obtain ⟨f, rfl, hf⟩ := h
  rw [List.map_map]
  exact List.map_congr_left fun row _ ↦ (hf row).1

end Redelivered

section Batch

variable {config : PubSubConfig} {row : OutboxEvent}
  {env env' : Env PublishReply String} {s : Store}

theorem run_updateOutboxEvent {f : ℕ → OutboxEvent → OutboxEvent}
    (hrow : (Table.find OutboxEvent.id row.id s.outboxEvents).isSome = true)
    (hfault : env.faults 0 = none) :
    (Resumption.transaction (updateOutboxEvent row.id f) : Publisher Unit).run env s =
      ⟨.ok (), { s with
        outboxEvents := Table.update OutboxEvent.id row.id (f s.clock) s.outboxEvents },
        env.afterAction, []⟩ := by
  refine run_transaction hfault ?_
  obtain ⟨r, hr⟩ := Option.isSome_iff_exists.mp hrow
  simp only [updateOutboxEvent, hr]

/-- The row, cut at its publication. -/
theorem dispatchRow_eq (henabled : config.enabled = true) (row : OutboxEvent) :
    ∃ x : PublishRequest, x.event.id = row.id ∧ dispatchRow config row = .ask x fun reply ↦
      match reply with
      | .ok _ => tryCatchThe String (Resumption.transaction (updateOutboxEvent row.id markRow))
          fun message ↦ Resumption.transaction (updateOutboxEvent row.id fun _ ↦ failRow message)
      | .error message =>
          Resumption.transaction (updateOutboxEvent row.id fun _ ↦ failRow message) := by
  obtain ⟨topic, htopic⟩ := Option.isSome_iff_exists.mp (isSome_topicForEventType row.eventType)
  refine ⟨PubSubPublisher.request topic (envelope row), rfl, ?_⟩
  have hne : ¬config.enabled = false := fun h ↦ Bool.false_ne_true (h.symm.trans henabled)
  have htype : topicForEventType (envelope row).type = some topic := htopic
  rw [dispatchRow, PubSubPublisher.publish]
  simp only [htype, if_neg hne]
  refine congrArg (Resumption.ask _) (funext fun reply ↦ ?_)
  cases reply with
  | ok id => rfl
  | error message => rfl

theorem redelivered_markRow (now : ℕ) (rows : List OutboxEvent) :
    Redelivered (· = row.id) rows (Table.update OutboxEvent.id row.id (markRow now) rows) :=
  .update rows fun _ ↦ ⟨rfl, rfl, rfl, .inr rfl⟩

theorem redelivered_failRow {marked : ℕ → Prop} (message : String) (rows : List OutboxEvent) :
    Redelivered marked rows (Table.update OutboxEvent.id row.id (failRow message) rows) :=
  .update rows fun _ ↦ ⟨rfl, rfl, rfl, .inl rfl⟩

/-- A row is published, and marked if this succeeded and the database takes the mark. -/
theorem run_dispatchRow (henabled : config.enabled = true)
    (hrow : (Table.find OutboxEvent.id row.id s.outboxEvents).isSome = true)
    (henv : afterRow env = some env') :
    ∃ rows x, (dispatchRow config row).run env s =
        ⟨.ok (), { s with outboxEvents := rows }, env', [(x, env.answers 0)]⟩ ∧
      x.event.id = row.id ∧
      Redelivered (fun id ↦ id = row.id ∧ (env.answers 0).accepted = true) s.outboxEvents rows := by
  obtain ⟨x, hx, heq⟩ := dispatchRow_eq henabled row
  rw [heq, run_ask]
  cases hreply : env.answers 0 with
  | error message =>
      -- the publication failed, so the failure is written down
      simp only [afterRow, hreply, afterUpdate] at henv
      cases hfault : env.afterAnswer.faults 0 with
      | some e =>
          rw [hfault] at henv
          cases henv
      | none =>
          rw [hfault] at henv
          cases henv
          dsimp only
          rw [run_updateOutboxEvent hrow hfault]
          exact ⟨_, x, rfl, hx, redelivered_failRow message _⟩
  | ok id =>
      simp only [afterRow, hreply] at henv
      cases hfault : env.afterAnswer.faults 0 with
      | none =>
          rw [hfault] at henv
          cases henv
          dsimp only
          rw [run_tryCatch, run_updateOutboxEvent hrow hfault]
          exact ⟨_, x, rfl, hx, (redelivered_markRow _ _).mono fun _ h ↦ ⟨h, rfl⟩⟩
      | some e =>
          -- the mark was refused, so this counts as a failure
          rw [hfault] at henv
          dsimp only [afterUpdate] at henv
          cases hfault' : env.afterAnswer.afterAction.faults 0 with
          | some e' =>
              rw [hfault'] at henv
              cases henv
          | none =>
              rw [hfault'] at henv
              cases henv
              dsimp only
              rw [run_tryCatch, run_transaction_refused hfault]
              dsimp only
              rw [run_updateOutboxEvent hrow hfault']
              exact ⟨_, x, rfl, hx, redelivered_failRow e _⟩

/-- Where not even the failure is written down, the tick ends. -/
theorem run_dispatchRow_error (henabled : config.enabled = true) (henv : afterRow env = none)
    (row : OutboxEvent) (s : Store) :
    ∃ x e env', (dispatchRow config row).run env s = ⟨.error e, s, env', [(x, env.answers 0)]⟩ ∧
      x.event.id = row.id := by
  obtain ⟨x, hx, heq⟩ := dispatchRow_eq henabled row
  rw [heq, run_ask]
  cases hreply : env.answers 0 with
  | error message =>
      simp only [afterRow, hreply, afterUpdate] at henv
      cases hfault : env.afterAnswer.faults 0 with
      | none =>
          rw [hfault] at henv
          cases henv
      | some e =>
          dsimp only
          rw [run_transaction_refused hfault]
          exact ⟨x, e, _, rfl, hx⟩
  | ok id =>
      simp only [afterRow, hreply] at henv
      cases hfault : env.afterAnswer.faults 0 with
      | none =>
          rw [hfault] at henv
          cases henv
      | some e =>
          rw [hfault] at henv
          dsimp only [afterUpdate] at henv
          cases hfault' : env.afterAnswer.afterAction.faults 0 with
          | none =>
              rw [hfault'] at henv
              cases henv
          | some e' =>
              dsimp only
              rw [run_tryCatch, run_transaction_refused hfault]
              dsimp only
              rw [run_transaction_refused hfault']
              exact ⟨x, e', _, rfl, hx⟩

/-- The rows of a batch: what is published, and what becomes of the outbox. -/
theorem run_dispatchRows (henabled : config.enabled = true) (env : Env PublishReply String)
    {rows : List OutboxEvent}
    (hrows : ∀ row ∈ rows, (Table.find OutboxEvent.id row.id s.outboxEvents).isSome = true) :
    Delivery.receivedIn ((dispatchRows config rows).run env s).exchanges =
        (acceptedRows env rows).map OutboxEvent.id ∧
      Redelivered (· ∈ (acceptedRows env rows).map OutboxEvent.id) s.outboxEvents
        ((dispatchRows config rows).run env s).store.outboxEvents := by
  induction rows generalizing env s with
  | nil => exact ⟨rfl, .refl _⟩
  | cons row rows ih =>
      obtain ⟨hrow, hrest⟩ := List.forall_mem_cons.mp hrows
      rw [dispatchRows, acceptedRows]
      cases henv : afterRow env with
      | none =>
          obtain ⟨x, e, env', hrun, hx⟩ := run_dispatchRow_error henabled henv row s
          rw [run_bind_error hrun]
          refine ⟨?_, .refl _⟩
          rw [Delivery.receivedIn_cons, List.map_append, apply_ite (List.map OutboxEvent.id), hx]
          rfl
      | some env' =>
          obtain ⟨rows', x, hrun, hx, hredelivered⟩ := run_dispatchRow henabled hrow henv
          rw [run_bind_ok hrun]
          dsimp only
          have hrows' : ∀ r ∈ rows, (Table.find OutboxEvent.id r.id rows').isSome = true :=
            fun r hr ↦ (hredelivered.isSome_find r.id).trans (hrest r hr)
          obtain ⟨hreceived, hrest'⟩ := @ih { s with outboxEvents := rows' } env' hrows'
          constructor
          · rw [List.singleton_append, Delivery.receivedIn_cons, hreceived, List.map_append,
              apply_ite (List.map OutboxEvent.id), hx]
            rfl
          · refine (hredelivered.mono ?_).trans (hrest'.mono ?_)
            · rintro id ⟨rfl, hok⟩
              rw [if_pos hok]
              exact List.mem_map_of_mem List.mem_cons_self
            · intro id hid
              rw [List.map_append]
              exact List.mem_append_right _ hid

end Batch

/-! ## The batch -/

theorem mem_nextBatch {s : Store} {row : OutboxEvent} (h : row ∈ nextBatch s) :
    row ∈ s.outboxEvents ∧ pending row = true := by
  have hsorted := List.mem_of_mem_take h
  rw [List.mem_insertionSort] at hsorted
  exact List.mem_filter.mp hsorted

theorem nodup_nextBatch {s : Store} (h : (s.outboxEvents.map OutboxEvent.id).Nodup) :
    ((nextBatch s).map OutboxEvent.id).Nodup := by
  have hfilter : ((s.outboxEvents.filter pending).map OutboxEvent.id).Nodup :=
    h.sublist (List.filter_sublist.map _)
  have hsorted : (((s.outboxEvents.filter pending).insertionSort createdBefore).map
      OutboxEvent.id).Nodup :=
    ((List.perm_insertionSort createdBefore _).map OutboxEvent.id).nodup_iff.mpr hfilter
  exact hsorted.sublist ((List.take_sublist _ _).map _)

instance : Std.Total createdBefore := ⟨fun a b ↦ Nat.le_total a.createdAt b.createdAt⟩

instance : IsTrans OutboxEvent createdBefore := ⟨fun _ _ _ h h' ↦ Nat.le_trans h h'⟩

theorem lt_of_createdAt_lt {rows : List OutboxEvent} (h : rows.Pairwise createdBefore)
    {a b : OutboxEvent} {i j : ℕ} (hi : rows[i]? = some a) (hj : rows[j]? = some b)
    (hlt : a.createdAt < b.createdAt) : i < j := by
  obtain ⟨hi', rfl⟩ := List.getElem?_eq_some_iff.mp hi
  obtain ⟨hj', rfl⟩ := List.getElem?_eq_some_iff.mp hj
  rcases Nat.lt_trichotomy i j with h' | rfl | h'
  · exact h'
  · exact absurd hlt (Nat.lt_irrefl _)
  · exact absurd (List.pairwise_iff_getElem.mp h j i hj' hi' h') (Nat.not_le_of_lt hlt)

theorem pairwise_sorted (s : Store) :
    ((s.outboxEvents.filter pending).insertionSort createdBefore).Pairwise createdBefore :=
  List.pairwise_insertionSort createdBefore _

/-- A pending row is in every batch that has a later one, and before it. -/
theorem exists_lt_of_createdAt_lt {s : Store} {a b : OutboxEvent} {j : ℕ} (ha : a ∈ s.outboxEvents)
    (hpending : pending a = true) (hb : (nextBatch s)[j]? = some b)
    (hlt : a.createdAt < b.createdAt) :
    ∃ i, i < j ∧ (nextBatch s)[i]? = some a := by
  have hsorted : a ∈ (s.outboxEvents.filter pending).insertionSort createdBefore :=
    (List.mem_insertionSort _).mpr (List.mem_filter.mpr ⟨ha, hpending⟩)
  obtain ⟨i, hi⟩ := List.mem_iff_getElem?.mp hsorted
  rw [nextBatch, List.getElem?_take] at hb
  split at hb
  · next hj =>
      have hij : i < j := lt_of_createdAt_lt (pairwise_sorted s) hi hb hlt
      refine ⟨i, hij, ?_⟩
      rw [nextBatch, List.getElem?_take, if_pos (hij.trans hj), hi]
  · cases hb

/-- A part of a batch is in the order of creation. -/
theorem idxOf_lt_of_sublist {s : Store} (hn : (s.outboxEvents.map OutboxEvent.id).Nodup)
    {rows : List OutboxEvent} (hrows : rows.Sublist (nextBatch s)) {a b : OutboxEvent}
    (ha : a ∈ rows)
    (hb : b ∈ rows) (hlt : a.createdAt < b.createdAt) :
    (rows.map OutboxEvent.id).idxOf a.id < (rows.map OutboxEvent.id).idxOf b.id := by
  have hpairwise : rows.Pairwise createdBefore :=
    (pairwise_sorted s).sublist (hrows.trans (List.take_sublist _ _))
  have hnodup : (rows.map OutboxEvent.id).Nodup := (nodup_nextBatch hn).sublist (hrows.map _)
  have hindex : ∀ x ∈ rows, rows[(rows.map OutboxEvent.id).idxOf x.id]? = some x := by
    intro x hx
    have hlen : (rows.map OutboxEvent.id).idxOf x.id < (rows.map OutboxEvent.id).length :=
      List.idxOf_lt_length_of_mem (List.mem_map_of_mem hx)
    have hlen' : (rows.map OutboxEvent.id).idxOf x.id < rows.length := by
      rwa [List.length_map] at hlen
    have hid := List.getElem_idxOf hlen
    rw [List.getElem_map] at hid
    rw [List.getElem?_eq_getElem hlen']
    exact congrArg some (List.inj_on_of_nodup_map hnodup (List.getElem_mem hlen') hx hid)
  exact lt_of_createdAt_lt hpairwise (hindex a ha) (hindex b hb) hlt

/-! ## Ticks -/

/-- A tick is the run of its batch, unless the database refuses to read one. -/
theorem run_dispatch (config : PubSubConfig) (env : Env PublishReply String) (s : Store) :
    ((dispatch config).run env s).exchanges = (match env.faults 0 with
      | none => ((dispatchRows config (nextBatch s)).run env.afterAction s).exchanges
      | some _ => []) ∧
    ((dispatch config).run env s).store = match env.faults 0 with
      | none => ((dispatchRows config (nextBatch s)).run env.afterAction s).store
      | some _ => s := by
  rw [dispatch, run_tryCatch]
  cases hfault : env.faults 0 with
  | some e =>
      rw [run_bind_error (run_read_refused hfault nextBatch s)]
      exact ⟨rfl, rfl⟩
  | none =>
      rw [run_bind_ok_nil (run_read hfault nextBatch s)]
      dsimp only
      cases ((dispatchRows config (nextBatch s)).run env.afterAction s).result with
      | ok u => exact ⟨rfl, rfl⟩
      | error e => exact ⟨List.append_nil _, rfl⟩

/-- Only the delivery of rows changes. -/
def KeepsEvents (s s' : Store) : Prop :=
  Redelivered (fun _ ↦ True) s.outboxEvents s'.outboxEvents

theorem guarantees_updateOutboxEvent {id : ℕ} {f : ℕ → OutboxEvent → OutboxEvent}
    (hf : ∀ now row, (f now row).id = row.id ∧ (f now row).subject = row.subject ∧
      (f now row).createdAt = row.createdAt) :
    Guarantees (fun _ ↦ True) KeepsEvents
      (Resumption.transaction (updateOutboxEvent id f) : Publisher Unit) := by
  refine guarantees_transaction (fun s _ ↦ .refl s.outboxEvents) fun s u s' _ h ↦ ?_
  unfold updateOutboxEvent at h
  split at h
  · cases h
  · cases h
    refine .update s.outboxEvents fun row ↦ ?_
    obtain ⟨hid, hsubject, hcreated⟩ := hf s.clock row
    exact ⟨hid, hsubject, hcreated, .inr trivial⟩

theorem guarantees_publish (config : PubSubConfig) (event : OutboundEvent) :
    Guarantees (fun _ ↦ True) KeepsEvents (PubSubPublisher.publish config event) := by
  unfold PubSubPublisher.publish
  split
  · exact guarantees_ret _
  · split
    · exact guarantees_ret _
    · exact Guarantees.bind (guarantees_query _) fun reply ↦
        Guarantees.bind (guarantees_ofExcept reply) fun id ↦ guarantees_ret _

theorem guarantees_dispatchRow (config : PubSubConfig) (row : OutboxEvent) :
    Guarantees (fun _ ↦ True) KeepsEvents (dispatchRow config row) := by
  refine Guarantees.tryCatch ?_ fun message ↦ ?_
  · refine (guarantees_publish config (envelope row)).discard.bind fun _ ↦ ?_
    exact guarantees_updateOutboxEvent fun _ _ ↦ ⟨rfl, rfl, rfl⟩
  · exact guarantees_updateOutboxEvent fun _ _ ↦ ⟨rfl, rfl, rfl⟩

/-- Whatever happens in a tick, only the delivery of rows changes. -/
theorem guarantees_dispatch (config : PubSubConfig) :
    Guarantees (fun _ ↦ True) KeepsEvents (dispatch config) := by
  have hrows : ∀ rows, Guarantees (fun _ ↦ True) KeepsEvents (dispatchRows config rows) := by
    intro rows
    induction rows with
    | nil => exact guarantees_ret _
    | cons row rows ih => exact (guarantees_dispatchRow config row).bind fun _ ↦ ih
  refine Guarantees.tryCatch ?_ fun message ↦ guarantees_ret _
  exact guarantees_read_bind (fun s _ ↦ .refl s.outboxEvents) fun s _ ↦ hrows (nextBatch s)

/-- What is disabled publishes nothing. -/
theorem asksOnly_dispatch {config : PubSubConfig} (h : config.enabled = false) :
    AsksOnly (fun _ ↦ False) (dispatch config) := by
  have hpublish : ∀ event, AsksOnly (fun _ ↦ False) (PubSubPublisher.publish config event) := by
    intro event
    unfold PubSubPublisher.publish
    split
    · exact asksOnly_ret _
    · rw [if_pos h]
      exact asksOnly_ret _
  have hrow : ∀ row, AsksOnly (fun _ ↦ False) (dispatchRow config row) := by
    intro row
    refine AsksOnly.tryCatch ?_ fun message ↦ asksOnly_transaction _
    exact (hpublish (envelope row)).discard.bind fun _ ↦ asksOnly_transaction _
  have hrows : ∀ rows, AsksOnly (fun _ ↦ False) (dispatchRows config rows) := by
    intro rows
    induction rows with
    | nil => exact asksOnly_ret _
    | cons row rows ih => exact (hrow row).bind fun _ ↦ ih
  refine AsksOnly.tryCatch ?_ fun message ↦ asksOnly_ret _
  exact asksOnly_read_bind fun s ↦ hrows (nextBatch s)

namespace Delivery

variable {config : PubSubConfig} {d : Delivery} {env : Env PublishReply String}

/-- Rows have ids of their own, and what is marked as published has been received. -/
structure Consistent (config : PubSubConfig) (d : Delivery) : Prop where
  nodup : (d.store.outboxEvents.map OutboxEvent.id).Nodup
  marked : config.enabled = true →
    ∀ row ∈ d.store.outboxEvents, row.publishedAt ≠ none → row.id ∈ d.received

/-- The events that a tick publishes. -/
def published (d : Delivery) (env : Env PublishReply String) : List OutboxEvent :=
  match env.faults 0 with
  | none => acceptedRows env.afterAction (nextBatch d.store)
  | some _ => []

theorem tick_enabled (henabled : config.enabled = true) (d : Delivery)
    (env : Env PublishReply String) :
    (d.tick config env).received = d.received ++ (d.published env).map OutboxEvent.id ∧
      Redelivered (· ∈ (d.published env).map OutboxEvent.id) d.store.outboxEvents
        (d.tick config env).store.outboxEvents := by
  obtain ⟨hexchanges, hstore⟩ := run_dispatch config env d.store
  have hfound : ∀ row ∈ nextBatch d.store,
      (Table.find OutboxEvent.id row.id d.store.outboxEvents).isSome = true := by
    intro row hrow
    cases hfind : Table.find OutboxEvent.id row.id d.store.outboxEvents with
    | some r => rfl
    | none => exact absurd rfl (Table.find_eq_none.mp hfind row (mem_nextBatch hrow).1)
  simp only [tick, published, hexchanges, hstore]
  cases env.faults 0 with
  | some e => exact ⟨rfl, .refl _⟩
  | none =>
      obtain ⟨hreceived, hredelivered⟩ := run_dispatchRows henabled env.afterAction hfound
      exact ⟨congrArg (d.received ++ ·) hreceived, hredelivered⟩

theorem tick_disabled (hdisabled : config.enabled = false) (d : Delivery)
    (env : Env PublishReply String) : (d.tick config env).received = d.received := by
  have hnone : ((dispatch config).run env d.store).exchanges = [] :=
    List.eq_nil_iff_forall_not_mem.mpr fun x hx ↦ (asksOnly_dispatch hdisabled).run env d.store x hx
  simp only [tick, hnone]
  exact List.append_nil _

theorem redelivered_tick (config : PubSubConfig) (d : Delivery) (env : Env PublishReply String) :
    KeepsEvents d.store (d.tick config env).store :=
  (guarantees_dispatch config).run (fun s ↦ .refl s.outboxEvents) .trans env d.store

theorem Consistent.tick (h : d.Consistent config) (env : Env PublishReply String) :
    (d.tick config env).Consistent config where
  nodup := by
    rw [(redelivered_tick config d env).map_id]
    exact h.nodup
  marked := by
    intro henabled row hrow hmarked
    obtain ⟨hreceived, f, hrows, hf⟩ := tick_enabled henabled d env
    rw [hrows] at hrow
    obtain ⟨row, hrow', rfl⟩ := List.mem_map.mp hrow
    obtain ⟨hid, -, -, hpublished⟩ := hf row
    rw [hreceived, hid]
    rcases hpublished with hsame | hnew
    · exact List.mem_append_left _ (h.marked henabled row hrow' (hsame ▸ hmarked))
    · exact List.mem_append_right _ hnew

/-! ## When a tick keeps the order -/

/-- The tick publishes `b` although `a` has used up its attempts, or fails before it in the
batch. -/
def Overtakes (d : Delivery) (env : Env PublishReply String) (a b : OutboxEvent) : Prop :=
  ∃ j, (nextBatch d.store)[j]? = some b ∧ reaches env.afterAction j = true ∧
    (env.answers j).accepted = true ∧ (maxAttempts ≤ a.attempts ∨
      ∃ i, i < j ∧ (nextBatch d.store)[i]? = some a ∧ (env.answers i).accepted = false)

/-- No event is published past an older one of its subject that nobody has received. -/
def KeepsOrder (config : PubSubConfig) (d : Delivery) (env : Env PublishReply String) : Prop :=
  config.enabled = true → env.faults 0 = none →
    ∀ a ∈ d.store.outboxEvents, ∀ b ∈ d.store.outboxEvents, a.subject = b.subject →
      a.createdAt < b.createdAt → a.id ∉ d.received → ¬d.Overtakes env a b

/-- A row that a tick publishes is one of the rows it gets to. -/
theorem mem_published_iff (h : d.Consistent config) {row : OutboxEvent}
    (hrow : row ∈ d.store.outboxEvents) :
    row.id ∈ (d.published env).map OutboxEvent.id ↔ env.faults 0 = none ∧
      ∃ n, (nextBatch d.store)[n]? = some row ∧ reaches env.afterAction n = true ∧
        (env.answers n).accepted = true := by
  have hmem : row.id ∈ (d.published env).map OutboxEvent.id ↔ row ∈ d.published env := by
    refine ⟨fun hid ↦ ?_, List.mem_map_of_mem⟩
    obtain ⟨r, hr, hid⟩ := List.mem_map.mp hid
    have hr' : r ∈ d.store.outboxEvents := by
      unfold published at hr
      split at hr
      · exact (mem_nextBatch ((acceptedRows_sublist _ _).subset hr)).1
      · cases hr
    rwa [← List.inj_on_of_nodup_map h.nodup hr' hrow hid]
  rw [hmem, published]
  cases env.faults 0 with
  | none =>
      rw [mem_acceptedRows]
      exact ⟨fun h ↦ ⟨rfl, h⟩, fun h ↦ h.2⟩
  | some e => exact ⟨fun h ↦ absurd h List.not_mem_nil, fun h ↦ nomatch h.1⟩

/-- Two events of a tick that goes well come in the order of creation. -/
theorem idxOf_published_lt (h : d.Consistent config) {a b : OutboxEvent}
    (ha : a ∈ d.store.outboxEvents) (hb : b ∈ d.store.outboxEvents)
    (hlt : a.createdAt < b.createdAt)
    (ha' : a.id ∈ (d.published env).map OutboxEvent.id)
    (hb' : b.id ∈ (d.published env).map OutboxEvent.id) :
    ((d.published env).map OutboxEvent.id).idxOf a.id <
      ((d.published env).map OutboxEvent.id).idxOf b.id := by
  obtain ⟨hfault, hna⟩ := (mem_published_iff h ha).mp ha'
  obtain ⟨-, hnb⟩ := (mem_published_iff h hb).mp hb'
  have hpublished : d.published env = acceptedRows env.afterAction (nextBatch d.store) := by
    simp only [published, hfault]
  rw [hpublished]
  exact idxOf_lt_of_sublist h.nodup (acceptedRows_sublist _ _) (mem_acceptedRows.mpr hna)
    (mem_acceptedRows.mpr hnb) hlt

/-- What a tick adds keeps `a` before `b` exactly if it does not bring `b` without `a`. -/
theorem idxOf_append_lt_iff {xs ys : List ℕ} {a b : ℕ}
    (hxs : b ∈ xs → xs.idxOf a < xs.idxOf b) (hys : a ∈ ys → b ∈ ys → ys.idxOf a < ys.idxOf b) :
    (b ∈ xs ++ ys → (xs ++ ys).idxOf a < (xs ++ ys).idxOf b) ↔ (a ∉ xs → b ∈ ys → a ∈ ys) := by
  constructor
  · intro h ha hb
    have hlt := (h (List.mem_append_right _ hb)).trans
      (List.idxOf_lt_length_of_mem (List.mem_append_right xs hb))
    exact (List.mem_append.mp (List.idxOf_lt_length_iff.mp hlt)).resolve_left ha
  · intro h hb
    by_cases hbxs : b ∈ xs
    · have hlt := hxs hbxs
      have ha : a ∈ xs := List.idxOf_lt_length_iff.mp (hlt.trans (List.idxOf_lt_length_of_mem hbxs))
      rwa [List.idxOf_append_of_mem ha, List.idxOf_append_of_mem hbxs]
    · have hbys := (List.mem_append.mp hb).resolve_left hbxs
      rw [List.idxOf_append_of_notMem hbxs]
      by_cases ha : a ∈ xs
      · rw [List.idxOf_append_of_mem ha]
        exact Nat.lt_add_right _ (List.idxOf_lt_length_of_mem ha)
      · rw [List.idxOf_append_of_notMem ha]
        exact Nat.add_lt_add_left (hys (h ha hbys) hbys) _

/-- An event is published without the older one exactly if it overtakes it. -/
theorem not_overtakes_iff (h : d.Consistent config) (henabled : config.enabled = true)
    (hfault : env.faults 0 = none) {a b : OutboxEvent} (ha : a ∈ d.store.outboxEvents)
    (hb : b ∈ d.store.outboxEvents) (hlt : a.createdAt < b.createdAt) (hnew : a.id ∉ d.received) :
    ¬d.Overtakes env a b ↔ (b.id ∈ (d.published env).map OutboxEvent.id →
      a.id ∈ (d.published env).map OutboxEvent.id) := by
  rw [mem_published_iff h ha, mem_published_iff h hb]
  have hunmarked : a.publishedAt = none := by
    by_contra hmarked
    exact hnew (h.marked henabled a ha hmarked)
  constructor
  · rintro hnot ⟨-, j, hj, hreach, hok⟩
    have hattempts : a.attempts < maxAttempts := by
      by_contra hover
      exact hnot ⟨j, hj, hreach, hok, .inl (Nat.le_of_not_lt hover)⟩
    have hpending : pending a = true := decide_eq_true ⟨hunmarked, hattempts⟩
    obtain ⟨i, hij, hi⟩ := exists_lt_of_createdAt_lt ha hpending hj hlt
    refine ⟨hfault, i, hi, reaches_of_le hij.le hreach, ?_⟩
    cases hai : (env.answers i).accepted with
    | true => rfl
    | false => exact absurd ⟨j, hj, hreach, hok, .inr ⟨i, hij, hi, hai⟩⟩ hnot
  · rintro himp ⟨j, hj, hreach, hok, hover⟩
    obtain ⟨-, i, hi, -, haok⟩ := himp ⟨hfault, j, hj, hreach, hok⟩
    rcases hover with hover | ⟨i', -, hi', hfailed⟩
    · have hpending := (mem_nextBatch (List.mem_of_getElem? hi)).2
      exact absurd (of_decide_eq_true hpending).2 (Nat.not_lt_of_le hover)
    · -- a batch has a row only once
      have hnodup := (nodup_nextBatch h.nodup).of_map
      have hlen := (List.getElem?_eq_some_iff.mp hi).1
      have hsame : i = i' := (List.getElem?_inj hlen hnodup).mp (hi.trans hi'.symm)
      rw [hsame, hfailed] at haok
      cases haok

/-- The order does not depend on how the delivery of rows stands. -/
theorem inOrder_congr {s s' : Store} (h : KeepsEvents s s') (received : List ℕ) :
    InOrder ⟨s', received⟩ ↔ InOrder ⟨s, received⟩ := by
  obtain ⟨f, hrows, hf⟩ := h
  simp only [InOrder, hrows, List.forall_mem_map, (hf _).1, (hf _).2.1, (hf _).2.2.1]

theorem tick_inOrder (config : PubSubConfig) (d : Delivery) (env : Env PublishReply String) :
    (d.tick config env).InOrder ↔ InOrder ⟨d.store, (d.tick config env).received⟩ :=
  inOrder_congr (redelivered_tick config d env) _

/-- A tick keeps the order exactly if it overtakes no event. -/
theorem inOrder_tick_iff (h : d.Consistent config) (hd : d.InOrder)
    (env : Env PublishReply String) :
    (d.tick config env).InOrder ↔ d.KeepsOrder config env := by
  rw [tick_inOrder]
  cases henabled : config.enabled with
  | false =>
      rw [tick_disabled henabled]
      exact ⟨fun _ henabled' ↦ absurd (henabled.symm.trans henabled') Bool.false_ne_true,
        fun _ ↦ hd⟩
  | true =>
      rw [(tick_enabled henabled d env).1]
      have hpair : ∀ a ∈ d.store.outboxEvents, ∀ b ∈ d.store.outboxEvents, a.subject = b.subject →
          a.createdAt < b.createdAt →
          ((b.id ∈ d.received ++ (d.published env).map OutboxEvent.id →
            (d.received ++ (d.published env).map OutboxEvent.id).idxOf a.id <
              (d.received ++ (d.published env).map OutboxEvent.id).idxOf b.id) ↔
            (a.id ∉ d.received → b.id ∈ (d.published env).map OutboxEvent.id →
              a.id ∈ (d.published env).map OutboxEvent.id)) :=
        fun a ha b hb hsubject hlt ↦ idxOf_append_lt_iff (hd a ha b hb hsubject hlt)
          (idxOf_published_lt h ha hb hlt)
      constructor
      · intro horder _ hfault a ha b hb hsubject hlt hnew
        exact (not_overtakes_iff h henabled hfault ha hb hlt hnew).mpr
          ((hpair a ha b hb hsubject hlt).mp (horder a ha b hb hsubject hlt) hnew)
      · intro hkeeps a ha b hb hsubject hlt
        refine (hpair a ha b hb hsubject hlt).mpr fun hnew hb' ↦ ?_
        have hfault := ((mem_published_iff h hb).mp hb').1
        exact (not_overtakes_iff h henabled hfault ha hb hlt hnew).mp
          (hkeeps henabled hfault a ha b hb hsubject hlt hnew) hb'

/-- What is out of order stays out of order. -/
theorem inOrder_of_tick (env : Env PublishReply String) (h : (d.tick config env).InOrder) :
    d.InOrder := by
  rw [tick_inOrder] at h
  have hpre : d.received <+: (d.tick config env).received := List.prefix_append _ _
  intro a ha b hb hsubject hlt hreceived
  calc d.received.idxOf a.id ≤ (d.tick config env).received.idxOf a.id := hpre.idxOf_le a.id
    _ < (d.tick config env).received.idxOf b.id :=
      h a ha b hb hsubject hlt (hpre.subset hreceived)
    _ = d.received.idxOf b.id := (hpre.idxOf_eq_of_mem hreceived).symm

end Delivery

open Delivery in
/-- Over any number of ticks, the events of every subject are published in order exactly if no
tick publishes an event past an older one of its subject. -/
theorem publishedInOrder_iff {config : PubSubConfig} {d : Delivery} (h : d.Consistent config)
    (hd : d.InOrder) (ticks : List (Env PublishReply String)) :
    (Transition.run (tick config) d ticks).InOrder ↔
      Transition.Along (tick config) (KeepsOrder config) d ticks := by
  have hstep : ∀ (d : Delivery) env, d.Consistent config ∧ d.InOrder →
      ((d.tick config env).Consistent config ∧ (d.tick config env).InOrder ↔
        d.KeepsOrder config env) := by
    rintro d env ⟨h, hd⟩
    rw [← inOrder_tick_iff h hd env]
    exact ⟨fun h' ↦ h'.2, fun hd' ↦ ⟨h.tick env, hd'⟩⟩
  rw [Transition.Along.iff_invariant (C := KeepsOrder config) hstep ⟨h, hd⟩]
  constructor
  · -- the order at the end is the order at every point before
    rintro hend ls ⟨rest, rfl⟩
    refine ⟨Transition.run_invariant _ (fun _ env h ↦ h.tick env) h ls, ?_⟩
    rw [Transition.run_append] at hend
    generalize Transition.run (tick config) d ls = d' at hend
    induction rest generalizing d' with
    | nil => exact hend
    | cons env rest ih => exact inOrder_of_tick env (ih _ hend)
  · intro hall
    exact (hall ticks List.prefix_rfl).2

namespace Sample

/-- Two events of one hold: its money is held, then released. -/
def backlog : Delivery where
  store := { Store.empty 3000 3 [] with
    outboxEvents := [
      OutboxService.row ⟨"EscrowHold", 1, .escrowHeld, "escrow-holds/1", [], none, none⟩ 1 1000,
      OutboxService.row ⟨"EscrowHold", 1, .escrowReleased, "escrow-holds/1", [], none, none⟩ 2 2000] }
  received := []

/-- Pub/Sub fails once, and then takes what it is given. -/
def flaky : Env PublishReply String :=
  .healthy fun n ↦ if n = 0 then .error "DEADLINE_EXCEEDED" else .ok "message"

theorem consistent_backlog : backlog.Consistent ⟨true⟩ where
  nodup := by decide
  marked := by
    intro _ row hrow hmarked
    rcases List.mem_cons.mp hrow with rfl | hrow
    · exact absurd rfl hmarked
    · rw [List.mem_singleton.mp hrow] at hmarked
      exact absurd rfl hmarked

theorem inOrder_backlog : backlog.InOrder := fun _ _ _ _ _ _ h ↦ absurd h List.not_mem_nil

end Sample

/-- The release of a hold is published and its start is not. -/
theorem overtaken :
    ¬(Transition.run (Delivery.tick ⟨true⟩) Sample.backlog [Sample.flaky]).InOrder := by
  intro h
  have hidx := h _ List.mem_cons_self _ (List.mem_cons_of_mem _ List.mem_cons_self) rfl
    (show (1000 : ℕ) < 2000 by decide) (show 2 ∈ [2] by decide)
  exact absurd (show 1 < 0 from hidx) (by decide)

/-- With a Pub/Sub that takes everything, the two events are received in order. -/
theorem publishedInOrder_iff_sample :
    (Transition.run (Delivery.tick ⟨true⟩) Sample.backlog [.healthy fun _ ↦ .ok "message"]).InOrder ↔
      Transition.Along (Delivery.tick ⟨true⟩) (Delivery.KeepsOrder ⟨true⟩) Sample.backlog
        [.healthy fun _ ↦ .ok "message"] :=
  publishedInOrder_iff Sample.consistent_backlog Sample.inOrder_backlog _

end OutboxDispatcher

end GearshPayments
