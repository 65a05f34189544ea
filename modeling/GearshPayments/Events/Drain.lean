import GearshPayments.Events.Enqueues
import GearshPayments.Events.Order
import GearshPayments.Resumption.Amid
import GearshPayments.Rounds

/-!
# The outbox drains

The dispatcher reads the outbox in the order of creation, so the rows that are pending are a queue
of which the first `batchSize` are served in a tick, and each has `maxAttempts` turns.  Whatever the
calls of `WebCall` add meanwhile and however publishing goes, a row is published or has used up its
attempts after a number of ticks that depends only on how many rows were ahead of it
(`outbox_drains`).
-/

namespace GearshPayments

open Resumption

namespace OutboxDispatcher

/-! ## What the ticks have done to a row -/

/-- The event has been received by its topic. -/
def Accepted (l : List (PublishRequest × PublishReply)) (id : ℕ) : Prop :=
  ∃ x ∈ l, x.1.event.id = id ∧ x.2.accepted = true

/-- How often publishing the event has failed. -/
def rejections (l : List (PublishRequest × PublishReply)) (id : ℕ) : ℕ :=
  l.countP fun x ↦ x.1.event.id = id ∧ x.2.accepted = false

/-- What the exchanges have made of a row; one that was tried is published or has failed once
more. -/
structure Relayed (config : PubSubConfig) (tried : Prop)
    (l : List (PublishRequest × PublishReply)) (row row' : OutboxEvent) : Prop where
  id : row'.id = row.id
  createdAt : row'.createdAt = row.createdAt
  attempts : row'.attempts = row.attempts + rejections l row.id
  published : row'.publishedAt = row.publishedAt ∨
    row'.publishedAt ≠ none ∧ (config.enabled = true → Accepted l row.id)
  progress : tried → row'.publishedAt ≠ none ∨ row.attempts < row'.attempts

/-- What the exchanges have made of the outbox, among what others have added to it. -/
structure Relays (config : PubSubConfig) (tried : ℕ → Prop)
    (l : List (PublishRequest × PublishReply)) (s s' : Store) : Prop where
  clock : s.clock ≤ s'.clock
  nextId : s.nextId ≤ s'.nextId
  outbox : ∃ f rows, s'.outboxEvents = s.outboxEvents.map f ++ rows ∧ NewRows s s' rows ∧
    ∀ row, Relayed config (tried row.id) l row (f row)

section Rows

variable {config : PubSubConfig} {l l' : List (PublishRequest × PublishReply)}
  {row row' row'' : OutboxEvent} {tried tried' : Prop}

theorem rejections_append (id : ℕ) : rejections (l ++ l') id = rejections l id + rejections l' id :=
  List.countP_append

theorem Relayed.refl (config : PubSubConfig) (row : OutboxEvent) :
    Relayed config False [] row row :=
  ⟨rfl, rfl, rfl, .inl rfl, False.elim⟩

theorem Relayed.trans (h : Relayed config tried l row row')
    (h' : Relayed config tried' l' row' row'') :
    Relayed config (tried ∨ tried') (l ++ l') row row'' where
  id := h'.id.trans h.id
  createdAt := h'.createdAt.trans h.createdAt
  attempts := by
    rw [h'.attempts, h.attempts, h.id, rejections_append, Nat.add_assoc]
  published := by
    rcases h'.published with hsame | ⟨hne, haccepted⟩
    · rw [hsame]
      refine h.published.imp_right fun ⟨hne, haccepted⟩ ↦ ⟨hne, fun henabled ↦ ?_⟩
      obtain ⟨x, hx, hid⟩ := haccepted henabled
      exact ⟨x, List.mem_append_left _ hx, hid⟩
    · refine .inr ⟨hne, fun henabled ↦ ?_⟩
      obtain ⟨x, hx, hid⟩ := haccepted henabled
      rw [h.id] at hid
      exact ⟨x, List.mem_append_right _ hx, hid⟩
  progress := by
    have hle := h'.attempts
    rintro (ht | ht)
    · rcases h.progress ht with hne | hlt
      · refine .inl ?_
        rcases h'.published with hsame | ⟨hne', -⟩
        · rwa [hsame]
        · exact hne'
      · exact .inr (by omega)
    · refine (h'.progress ht).imp_right fun hlt ↦ ?_
      have := h.attempts
      omega

theorem Relayed.mono (h : Relayed config tried l row row') (ht : tried' → tried) :
    Relayed config tried' l row row' :=
  { h with progress := fun t ↦ h.progress (ht t) }

end Rows

namespace Relays

variable {config : PubSubConfig} {tried tried' : ℕ → Prop}
  {l l' : List (PublishRequest × PublishReply)} {s s' s'' : Store}

/-- What others add. -/
theorem of_enqueues (h : s.Enqueues s') : Relays config (fun _ ↦ False) [] s s' := by
  obtain ⟨rows, hrows, hnew⟩ := h.outbox
  refine ⟨h.clock, h.nextId, id, rows, ?_, hnew, Relayed.refl config⟩
  rw [List.map_id]
  exact hrows

theorem trans (h : Relays config tried l s s') (h' : Relays config tried' l' s' s'') :
    Relays config (fun id ↦ tried id ∨ tried' id) (l ++ l') s s'' := by
  obtain ⟨f, rows, hrows, hnew, hf⟩ := h.outbox
  obtain ⟨g, rows', hrows', hnew', hg⟩ := h'.outbox
  refine ⟨h.clock.trans h'.clock, h.nextId.trans h'.nextId, g ∘ f, rows.map g ++ rows', ?_, ?_, ?_⟩
  · rw [hrows', hrows, List.map_append, List.map_map, List.append_assoc]
  · exact (hnew.map (fun o ↦ (hg o).id) fun o ↦ (hg o).createdAt).append hnew' h.clock h'.clock
      h.nextId h'.nextId
  · intro row
    have hrow := (hf row).trans (hg (f row))
    rw [(hf row).id] at hrow
    exact hrow

theorem mono (h : Relays config tried l s s') (ht : ∀ id, tried' id → tried id) :
    Relays config tried' l s s' := by
  obtain ⟨f, rows, hrows, hnew, hf⟩ := h.outbox
  exact ⟨h.clock, h.nextId, f, rows, hrows, hnew, fun row ↦ (hf row).mono (ht row.id)⟩

/-- Nothing is removed. -/
theorem exists_row (h : Relays config tried l s s') {row : OutboxEvent}
    (hrow : row ∈ s.outboxEvents) :
    ∃ row' ∈ s'.outboxEvents, Relayed config (tried row.id) l row row' := by
  obtain ⟨f, rows, hrows, -, hf⟩ := h.outbox
  refine ⟨f row, ?_, hf row⟩
  rw [hrows]
  exact List.mem_append_left _ (List.mem_map_of_mem hrow)

theorem subset_ids (h : Relays config tried l s s') :
    s.outboxEvents.map OutboxEvent.id ⊆ s'.outboxEvents.map OutboxEvent.id := by
  intro id hid
  obtain ⟨row, hrow, rfl⟩ := List.mem_map.mp hid
  obtain ⟨row', hrow', hrelayed⟩ := h.exists_row hrow
  exact List.mem_map.mpr ⟨row', hrow', hrelayed.id⟩

/-- The outbox stays in order. -/
theorem ordered (h : Relays config tried l s s') (hs : s.OutboxOrdered) : s'.OutboxOrdered := by
  obtain ⟨f, rows, hrows, hnew, hf⟩ := h.outbox
  have hids : (s.outboxEvents.map f).map OutboxEvent.id = s.outboxEvents.map OutboxEvent.id := by
    rw [List.map_map]
    exact List.map_congr_left fun row _ ↦ (hf row).id
  have hbefore : ∀ o ∈ s.outboxEvents.map f, o.id < s.nextId ∧ o.createdAt ≤ s.clock := by
    intro o ho
    obtain ⟨row, hrow, rfl⟩ := List.mem_map.mp ho
    rw [(hf row).id, (hf row).createdAt]
    exact ⟨hs.handedOut row hrow, hs.past row hrow⟩
  constructor
  case ids =>
    rw [hrows, List.map_append, List.nodup_append, hids]
    refine ⟨hs.ids, hnew.ids.imp fun h ↦ h.ne, fun a ha b hb hab ↦ ?_⟩
    rw [← hids] at ha
    obtain ⟨o, ho, rfl⟩ := List.mem_map.mp ha
    obtain ⟨o', ho', rfl⟩ := List.mem_map.mp hb
    have hlt := (hbefore o ho).1.trans_le (hnew.fresh o' ho').1
    exact hlt.ne hab
  case handedOut =>
    intro o ho
    rw [hrows] at ho
    rcases List.mem_append.mp ho with ho | ho
    · exact (hbefore o ho).1.trans_le h.nextId
    · exact (hnew.fresh o ho).2
  case past =>
    intro o ho
    rw [hrows] at ho
    rcases List.mem_append.mp ho with ho | ho
    · exact (hbefore o ho).2.trans h.clock
    · exact (hnew.times o ho).2
  case sorted =>
    rw [hrows, List.pairwise_append]
    refine ⟨List.pairwise_map.mpr (hs.sorted.imp fun {a b} hab ↦ ?_), hnew.sorted,
      fun a ha b hb ↦ (hbefore a ha).2.trans (hnew.times b hb).1⟩
    rw [createdBefore, (hf a).createdAt, (hf b).createdAt]
    exact hab

end Relays

/-! ## One tick -/

section Tick

variable {config : PubSubConfig} {row : OutboxEvent} {s s' : Store}
  {l : List (PublishRequest × PublishReply)} {r : Except String Unit}

theorem relayed_mark (now : ℕ) (haccepted : config.enabled = true → Accepted l row.id)
    (hrejections : ∀ id, rejections l id = 0) (x : OutboxEvent) :
    Relayed config (x.id = row.id) l x (if x.id = row.id then markRow now x else x) := by
  split
  · next hid =>
      refine ⟨rfl, rfl, (congrArg (x.attempts + ·) (hrejections x.id)).symm, .inr ⟨nofun, ?_⟩,
        fun _ ↦ .inl nofun⟩
      rw [hid]
      exact haccepted
  · next hid =>
      exact ⟨rfl, rfl, (congrArg (x.attempts + ·) (hrejections x.id)).symm, .inl rfl,
        fun h ↦ absurd h hid⟩

theorem relayed_fail (message : String)
    (hrejections : ∀ id, rejections l id = if id = row.id then 1 else 0) (x : OutboxEvent) :
    Relayed config (x.id = row.id) l x (if x.id = row.id then failRow message x else x) := by
  split
  · next hid =>
      refine ⟨rfl, rfl, ?_, .inl rfl, fun _ ↦ .inr (Nat.lt_succ_self _)⟩
      rw [hrejections, if_pos hid]
      rfl
  · next hid =>
      refine ⟨rfl, rfl, ?_, .inl rfl, fun h ↦ absurd h hid⟩
      rw [hrejections, if_neg hid, Nat.add_zero]

/-- The update of a row that is there. -/
theorem amid_updateOutboxEvent {f : ℕ → OutboxEvent → OutboxEvent}
    (hrow : row.id ∈ s.outboxEvents.map OutboxEvent.id)
    (hf : ∀ now x, Relayed config (x.id = row.id) l x (if x.id = row.id then f now x else x))
    {l' : List (PublishRequest × PublishReply)}
    (h : Amid Store.Enqueues (fun _ ↦ False)
      (Resumption.transaction (updateOutboxEvent row.id f) : Publisher Unit) s r l' s') :
    r = .ok () ∧ l' = [] ∧ Relays config (· = row.id) l s s' := by
  obtain ⟨rfl, ⟨s₁, s₂, hbefore, hafter, hdone⟩ | ⟨_, hrefused, -⟩⟩ := h.of_transaction
  case inr => exact hrefused.elim
  obtain ⟨rows, hrows, -⟩ := hbefore.outbox
  obtain ⟨x, hx⟩ : ∃ x, Table.find OutboxEvent.id row.id s₁.outboxEvents = some x := by
    refine Option.ne_none_iff_exists'.mp fun hnone ↦ ?_
    obtain ⟨x, hx, hid⟩ := List.mem_map.mp hrow
    refine Table.find_eq_none.mp hnone x ?_ hid
    rw [hrows]
    exact List.mem_append_left _ hx
  have hupdate : updateOutboxEvent row.id f s₁ = .ok ((), { s₁ with
      outboxEvents := Table.update OutboxEvent.id row.id (f s₁.clock) s₁.outboxEvents }) := by
    simp only [updateOutboxEvent, hx]
  rw [hupdate] at hdone
  rcases hdone with ⟨a, rfl, hok⟩ | ⟨e, -, herror, -⟩
  · cases hok
    refine ⟨rfl, rfl, ?_⟩
    have hchange : Relays config (· = row.id) l s₁ { s₁ with
        outboxEvents := Table.update OutboxEvent.id row.id (f s₁.clock) s₁.outboxEvents } :=
      ⟨le_rfl, le_rfl, _, [], (List.append_nil _).symm, .nil, hf s₁.clock⟩
    have hall := ((Relays.of_enqueues hbefore).trans hchange).trans (.of_enqueues hafter)
    rw [List.nil_append, List.append_nil] at hall
    exact hall.mono fun id hid ↦ .inl (.inr hid)
  · cases herror

/-- Publishing asks at most once, and throws if the topic has not received the event. -/
theorem amid_publish {r : Except String PUnit}
    (h : Amid Store.Enqueues (fun _ ↦ False)
      (discard (PubSubPublisher.publish config (envelope row))) s r l s') :
    s.Enqueues s' ∧
      ((r = .ok ⟨⟩ ∧ (config.enabled = true → Accepted l row.id) ∧ ∀ id, rejections l id = 0) ∨
        ∃ message, r = .error message ∧ ∀ id, rejections l id = if id = row.id then 1 else 0) := by
  obtain ⟨r', hp, rfl⟩ := h.of_discard
  have htopic := isSome_topicForEventType row.eventType
  unfold PubSubPublisher.publish at hp
  split at hp
  · next hnone =>
      rw [show topicForEventType row.eventType.value = none from hnone] at htopic
      cases htopic
  · split at hp
    · next hdisabled =>
        cases hp with
        | ret others =>
            refine ⟨others, .inl ⟨rfl, fun henabled ↦ ?_, fun _ ↦ rfl⟩⟩
            rw [hdisabled] at henabled
            cases henabled
    · cases hp with
      | @ask _ _ reply _ _ _ _ rest =>
          cases reply with
          | ok id =>
              cases rest with
              | ret others =>
                  refine ⟨others, .inl ⟨rfl, fun _ ↦ ⟨_, .head _, rfl, rfl⟩, fun id ↦ ?_⟩⟩
                  simp [rejections, PublishReply.accepted, Except.isOk, Except.toBool]
          | error message =>
              cases rest with
              | throw others =>
                  refine ⟨others, .inr ⟨message, rfl, fun id ↦ ?_⟩⟩
                  simp only [rejections, PubSubPublisher.request, envelope, PublishReply.accepted,
                    List.countP_singleton, eq_comm (a := row.id)]
                  simp [Except.isOk, Except.toBool]

/-- A row is tried, and the tick goes on. -/
theorem amid_dispatchRow (hrow : row.id ∈ s.outboxEvents.map OutboxEvent.id)
    (h : Amid Store.Enqueues (fun _ ↦ False) (dispatchRow config row) s r l s') :
    r = .ok () ∧ Relays config (· = row.id) l s s' := by
  have hmem : ∀ {s₁ : Store}, s.Enqueues s₁ → row.id ∈ s₁.outboxEvents.map OutboxEvent.id :=
    fun hs₁ ↦ (Relays.of_enqueues hs₁ : Relays config _ _ _ _).subset_ids hrow
  have hjoin : ∀ {s₁ : Store} {l}, s.Enqueues s₁ → Relays config (· = row.id) l s₁ s' →
      Relays config (· = row.id) l s s' := by
    intro s₁ l hs₁ hl
    exact ((Relays.of_enqueues hs₁).trans hl).mono fun id hid ↦ .inr hid
  rcases h.of_tryCatch Store.Enqueues.refl with
    ⟨_, rfl, hbody⟩ | ⟨e, l₁, l₂, s₁, hbody, hcatch, rfl⟩
  · -- the publication and the mark took place
    rcases hbody.of_bind Store.Enqueues.refl with ⟨e, hr, -⟩ | ⟨_, l₁, l₂, s₁, hpublish, hmark, rfl⟩
    · cases hr
    · obtain ⟨hs₁, ⟨-, haccepted, hrejections⟩ | ⟨message, hr, -⟩⟩ := amid_publish hpublish
      · obtain ⟨-, rfl, hrelays⟩ := amid_updateOutboxEvent (hmem hs₁)
          (fun now ↦ relayed_mark now haccepted hrejections) hmark
        rw [List.append_nil]
        exact ⟨rfl, hjoin hs₁ hrelays⟩
      · cases hr
  · rcases hbody.of_bind Store.Enqueues.refl with
      ⟨_, hr, hpublish⟩ | ⟨_, l₃, l₄, s₂, hpublish, hmark, rfl⟩
    · -- the publication failed, and the failure is written down
      cases hr
      obtain ⟨hs₁, ⟨hr, -⟩ | ⟨message, -, hrejections⟩⟩ := amid_publish hpublish
      · cases hr
      · obtain ⟨hr, rfl, hrelays⟩ := amid_updateOutboxEvent (hmem hs₁)
          (fun _ ↦ relayed_fail e hrejections) hcatch
        rw [List.append_nil]
        exact ⟨hr, hjoin hs₁ hrelays⟩
    · -- the mark does not fail
      obtain ⟨hs₂, ⟨-, haccepted, hrejections⟩ | ⟨message, hr, -⟩⟩ := amid_publish hpublish
      · obtain ⟨hr, -⟩ := amid_updateOutboxEvent (hmem hs₂)
          (fun now ↦ relayed_mark now haccepted hrejections) hmark
        cases hr
      · cases hr

/-- The rows of a batch are tried one after the other. -/
theorem amid_dispatchRows {rows : List OutboxEvent}
    (hrows : ∀ row ∈ rows, row.id ∈ s.outboxEvents.map OutboxEvent.id)
    (h : Amid Store.Enqueues (fun _ ↦ False) (dispatchRows config rows) s r l s') :
    r = .ok () ∧ Relays config (· ∈ rows.map OutboxEvent.id) l s s' := by
  induction rows generalizing s l with
  | nil =>
      cases h with
      | ret others =>
          exact ⟨rfl, (Relays.of_enqueues others).mono fun _ hid ↦ absurd hid List.not_mem_nil⟩
  | cons row rows ih =>
      obtain ⟨hrow, hrest⟩ := List.forall_mem_cons.mp hrows
      rcases h.of_bind Store.Enqueues.refl with
        ⟨e, -, hfirst⟩ | ⟨_, l₁, l₂, s₁, hfirst, hlater, rfl⟩
      · cases (amid_dispatchRow hrow hfirst).1
      · have hrelays := (amid_dispatchRow hrow hfirst).2
        obtain ⟨hr, hrelays'⟩ := ih (fun x hx ↦ hrelays.subset_ids (hrest x hx)) hlater
        refine ⟨hr, (hrelays.trans hrelays').mono fun id hid ↦ ?_⟩
        rw [List.map_cons] at hid
        exact List.mem_cons.mp hid

/-- A tick reads its batch after others have added rows, and tries all of it. -/
theorem amid_dispatch (h : Amid Store.Enqueues (fun _ ↦ False) (dispatch config) s r l s') :
    ∃ s₁, s.Enqueues s₁ ∧ Relays config (· ∈ (nextBatch s₁).map OutboxEvent.id) l s₁ s' := by
  have hbatch : ∀ {s₁ s₂ s₃ r l}, s₁.Enqueues s₂ →
      Amid Store.Enqueues (fun _ ↦ False) (dispatchRows config (nextBatch s₁)) s₂ r l s₃ →
      r = .ok () ∧ Relays config (· ∈ (nextBatch s₁).map OutboxEvent.id) l s₁ s₃ := by
    intro s₁ s₂ s₃ r l hothers hrows
    have hgrows : Relays config (fun _ ↦ False) [] s₁ s₂ := .of_enqueues hothers
    obtain ⟨hr, hrelays⟩ := amid_dispatchRows (fun row hrow ↦
      hgrows.subset_ids (List.mem_map_of_mem (mem_nextBatch hrow).1)) hrows
    exact ⟨hr, (hgrows.trans hrelays).mono fun id hid ↦ .inr hid⟩
  rcases h.of_tryCatch Store.Enqueues.refl with ⟨_, -, hbody⟩ | ⟨e, l₁, l₂, s₃, hbody, -, rfl⟩
  · rcases hbody.of_bind Store.Enqueues.refl with
      ⟨e, hr, -⟩ | ⟨batch, l₁, l₂, s₂, hread, hrows, rfl⟩
    · cases hr
    · obtain ⟨rfl, ⟨s₁, hbefore, hafter, hr⟩ | ⟨_, hrefused, -⟩⟩ := hread.of_read
      · cases hr
        exact ⟨s₁, hbefore, (hbatch hafter hrows).2⟩
      · exact hrefused.elim
  · rcases hbody.of_bind Store.Enqueues.refl with
      ⟨e', -, hread⟩ | ⟨batch, l₃, l₄, s₂, hread, hrows, rfl⟩
    · obtain ⟨-, ⟨s₁, -, -, hr⟩ | ⟨_, hrefused, -⟩⟩ := hread.of_read
      · cases hr
      · exact hrefused.elim
    · -- no row of the batch throws
      obtain ⟨-, ⟨s₁, -, hafter, hr⟩ | ⟨_, hrefused, -⟩⟩ := hread.of_read
      · cases hr
        cases (hbatch hafter hrows).1
      · exact hrefused.elim

end Tick

/-! ## The queue -/

/-- The rows that are pending, in the order in which they will be tried. -/
def pendingIds (s : Store) : List ℕ := (s.outboxEvents.filter pending).map OutboxEvent.id

/-- How often a row may still be tried. -/
def turnsLeft (s : Store) (id : ℕ) : ℕ :=
  maxAttempts - ((Table.find OutboxEvent.id id s.outboxEvents).map OutboxEvent.attempts).getD 0

section Queue

variable {config : PubSubConfig} {s s₁ s' : Store} {row : OutboxEvent}

theorem pending_iff : pending row = true ↔ row.publishedAt = none ∧ row.attempts < maxAttempts :=
  decide_eq_true_iff

theorem turnsLeft_eq (hs : s.OutboxOrdered) (hrow : row ∈ s.outboxEvents) :
    turnsLeft s row.id = maxAttempts - row.attempts := by
  rw [turnsLeft, (Table.find_eq_some_iff hs.ids).mpr hrow]
  rfl

theorem mem_pendingIds_iff (hs : s.OutboxOrdered) (hrow : row ∈ s.outboxEvents) :
    row.id ∈ pendingIds s ↔ pending row = true := by
  constructor
  · intro h
    obtain ⟨x, hx, hid⟩ := List.mem_map.mp h
    obtain ⟨hmem, hpending⟩ := List.mem_filter.mp hx
    rwa [← List.inj_on_of_nodup_map hs.ids hmem hrow hid]
  · intro h
    exact List.mem_map_of_mem (List.mem_filter.mpr ⟨hrow, h⟩)

/-- The batch is the head of the queue. -/
theorem map_id_nextBatch (hs : s.OutboxOrdered) :
    (nextBatch s).map OutboxEvent.id = (pendingIds s).take batchSize := by
  have hsorted : (s.outboxEvents.filter pending).Pairwise createdBefore :=
    hs.sorted.sublist List.filter_sublist
  rw [nextBatch, hsorted.insertionSort_eq, List.map_take]
  rfl

/-- A tick is a round of the queue. -/
theorem round_of_relays {l : List (PublishRequest × PublishReply)} (hs : s.OutboxOrdered)
    (hbefore : s.Enqueues s₁)
    (h : Relays config (· ∈ (nextBatch s₁).map OutboxEvent.id) l s₁ s') :
    Round batchSize (pendingIds s) (turnsLeft s) (pendingIds s') (turnsLeft s') := by
  have hgrows : Relays config (fun _ ↦ False) [] s s₁ := .of_enqueues hbefore
  have hs₁ := hgrows.ordered hs
  have hall := hgrows.trans h
  have hs' := hall.ordered hs
  obtain ⟨rows₁, hrows₁, -⟩ := hbefore.outbox
  have hbatch : ∀ id ∈ (pendingIds s).take batchSize, id ∈ (nextBatch s₁).map OutboxEvent.id := by
    intro id hid
    have happend : pendingIds s₁ = pendingIds s ++ (rows₁.filter pending).map OutboxEvent.id := by
      rw [pendingIds, hrows₁, List.filter_append, List.map_append]
      rfl
    rw [map_id_nextBatch hs₁, happend, List.take_append]
    exact List.mem_append_left _ hid
  constructor
  case order =>
    obtain ⟨f, rows, hrows, hnew, hf⟩ := hall.outbox
    refine ⟨((s.outboxEvents.map f).filter pending).map OutboxEvent.id,
      (rows.filter pending).map OutboxEvent.id, ?_, ?_, ?_⟩
    · rw [pendingIds, hrows, List.filter_append, List.map_append]
    · have hid : OutboxEvent.id ∘ f = OutboxEvent.id := funext fun row ↦ (hf row).id
      rw [List.filter_map, List.map_map, hid]
      refine (List.monotone_filter_right _ fun row hrow ↦ ?_).map _
      obtain ⟨hnone, hlt⟩ := pending_iff.mp hrow
      refine pending_iff.mpr ⟨?_, ?_⟩
      · rcases (hf row).published with hsame | ⟨hne, -⟩
        · exact hsame.symm.trans hnone
        · exact absurd hnone hne
      · have := (hf row).attempts
        omega
    · intro id hid hold
      obtain ⟨o, ho, rfl⟩ := List.mem_map.mp hid
      obtain ⟨o', ho', heq⟩ := List.mem_map.mp hold
      have hfresh := (hnew.fresh o (List.mem_filter.mp ho).1).1
      have hlt := hs.handedOut o' (List.mem_filter.mp ho').1
      omega
  case served =>
    intro id hid hstays
    have hmem := List.mem_of_mem_take hid
    obtain ⟨row, hrow, rfl⟩ := List.mem_map.mp hmem
    obtain ⟨hrow, hpending⟩ := List.mem_filter.mp hrow
    obtain ⟨row', hrow', hrelayed⟩ := hall.exists_row hrow
    have hpending' : pending row' = true := by
      rwa [← mem_pendingIds_iff hs' hrow', hrelayed.id]
    have hlt := (pending_iff.mp hpending).2
    have hleft' : turnsLeft s' row.id = maxAttempts - row'.attempts := by
      rw [← hrelayed.id, turnsLeft_eq hs' hrow']
    rw [turnsLeft_eq hs hrow, hleft']
    rcases hrelayed.progress (.inr (hbatch _ hid)) with hne | hmore
    · exact absurd (pending_iff.mp hpending').1 hne
    · omega

end Queue

/-! ## Any number of ticks -/

/-- The row has been published, and its topic has received it; or it has failed as often as it
may. -/
structure Settled (config : PubSubConfig) (l : List (PublishRequest × PublishReply))
    (row row' : OutboxEvent) : Prop where
  id : row'.id = row.id
  attempts : row'.attempts = row.attempts + rejections l row.id
  outcome : (row'.publishedAt ≠ none ∧ (config.enabled = true → Accepted l row.id)) ∨
    maxAttempts ≤ row'.attempts

section Ticks

variable {config : PubSubConfig} {n : ℕ} {s s' : Store} {l : List (PublishRequest × PublishReply)}

/-- What all ticks together have made of the outbox. -/
theorem relays_of_times
    (h : Amid Store.Enqueues (fun _ ↦ False) (times (dispatch config) n) s (.ok ()) l s') :
    Relays config (fun _ ↦ False) l s s' := by
  refine Amid.times_induct (T := fun s l s' ↦ Relays config (fun _ ↦ False) l s s')
    Store.Enqueues.refl (fun h ↦ .of_enqueues h) (fun h h' ↦ ?_) (fun hround ↦ ?_) h
  · exact (h.trans h').mono fun _ hid ↦ .inl hid
  · obtain ⟨s₁, hbefore, hrelays⟩ := amid_dispatch hround
    exact ((Relays.of_enqueues hbefore).trans hrelays).mono fun _ hid ↦ .inl hid

theorem settled_of_times
    (h : Amid Store.Enqueues (fun _ ↦ False) (times (dispatch config) n) s (.ok ()) l s')
    (hs : s.OutboxOrdered) {row : OutboxEvent} {r : ℕ}
    (hr : (s.outboxEvents.filter pending)[r]? = some row)
    (hn : maxAttempts * (r / batchSize + 1) ≤ n) :
    ∃ row' ∈ s'.outboxEvents, Settled config l row row' := by
  obtain ⟨hrow, hpending⟩ := List.mem_filter.mp (List.mem_of_getElem? hr)
  obtain ⟨row', hrow', hrelayed⟩ := (relays_of_times h).exists_row hrow
  have hs' := (relays_of_times h).ordered hs
  refine ⟨row', hrow', hrelayed.id, hrelayed.attempts, ?_⟩
  -- a row that is published by the ticks has been received
  have hpublished : row'.publishedAt ≠ none →
      row'.publishedAt ≠ none ∧ (config.enabled = true → Accepted l row.id) := by
    intro hne
    rcases hrelayed.published with hsame | h
    · exact absurd (hsame.trans (pending_iff.mp hpending).1) hne
    · exact h
  refine Or.imp_left hpublished ?_
  obtain ⟨st, rfl, hlast, hrounds⟩ := h.of_times Store.Enqueues.refl
  have hbetween : ∀ {j k : ℕ}, j ≤ k → k ≤ n →
      ∃ l, Relays config (fun _ ↦ False) l (st j) (st k) := by
    intro j k hjk
    induction hjk with
    | refl => exact fun _ ↦ ⟨[], .of_enqueues (.refl _)⟩
    | @step k hjk ih =>
        intro hk
        obtain ⟨l₁, h₁⟩ := ih (by omega)
        obtain ⟨l₂, hround⟩ := hrounds k (by omega)
        obtain ⟨s₁, hbefore, h₂⟩ := amid_dispatch hround
        exact ⟨_, (h₁.trans ((Relays.of_enqueues hbefore).trans h₂)).mono fun _ hid ↦ .inl hid⟩
  have hordered : ∀ k ≤ n, (st k).OutboxOrdered := by
    intro k hk
    obtain ⟨l, h⟩ := hbetween (Nat.zero_le k) hk
    exact h.ordered hs
  have hqueue : Rounds batchSize maxAttempts n (fun k ↦ pendingIds (st k))
      fun k ↦ turnsLeft (st k) := by
    constructor
    case round =>
      intro k hk
      obtain ⟨l, hround⟩ := hrounds k hk
      obtain ⟨s₁, hbefore, h⟩ := amid_dispatch hround
      exact round_of_relays (hordered k hk.le) hbefore h
    case nodup =>
      intro k hk
      exact (hordered k hk).ids.sublist (List.filter_sublist.map _)
    case left_pos =>
      intro k hk id hid
      obtain ⟨x, hx, rfl⟩ := List.mem_map.mp hid
      obtain ⟨hx, hpending⟩ := List.mem_filter.mp hx
      have hlt := (pending_iff.mp hpending).2
      rw [turnsLeft_eq (hordered k hk) hx]
      omega
    case left_le => exact fun k _ id _ ↦ Nat.sub_le ..
  have hindex : (pendingIds (st 0)).idxOf row.id < batchSize * (r / batchSize + 1) := by
    have hget : (pendingIds (st 0))[r]? = some row.id := by
      rw [pendingIds, List.getElem?_map, hr]
      rfl
    obtain ⟨hlt, hget⟩ := List.getElem?_eq_some_iff.mp hget
    have hidx := (hqueue.nodup 0 (Nat.zero_le n)).idxOf_getElem r hlt
    rw [hget] at hidx
    rw [hidx]
    exact Nat.lt_mul_div_succ r (by decide)
  obtain ⟨j, hj, hout⟩ := hqueue.exists_out (k := 0) (by omega) hindex
  rw [Nat.zero_add] at hout
  -- from when the row is out of the queue it stays out
  obtain ⟨l₁, h₁⟩ := hbetween (Nat.zero_le j) (by omega)
  obtain ⟨l₂, h₂⟩ := hbetween (show j ≤ n by omega) le_rfl
  obtain ⟨x, hx, hrelayed₁⟩ := h₁.exists_row hrow
  obtain ⟨y, hy, hrelayed₂⟩ := (h₂.trans (Relays.of_enqueues hlast)).exists_row hx
  have hsame : y = row' := List.inj_on_of_nodup_map hs'.ids hy hrow'
    (hrelayed₂.id.trans (hrelayed₁.id.trans hrelayed.id.symm))
  subst hsame
  have hnot : ¬(x.publishedAt = none ∧ x.attempts < maxAttempts) := by
    rw [← pending_iff, ← mem_pendingIds_iff (hordered j (by omega)) hx, hrelayed₁.id]
    exact hout
  by_cases hx' : x.publishedAt = none
  · have hmost : maxAttempts ≤ x.attempts := Nat.le_of_not_lt fun h ↦ hnot ⟨hx', h⟩
    refine .inr (hmost.trans ?_)
    have := hrelayed₂.attempts
    omega
  · refine .inl ?_
    rcases hrelayed₂.published with hsame | ⟨hne, -⟩
    · rwa [hsame]
    · exact hne

end Ticks

/-! ## The updates keep the order -/

theorem guarantees_dispatchRow_ordered (config : PubSubConfig) (row : OutboxEvent) :
    Guarantees (fun _ ↦ True) (fun s s' : Store ↦ s.OutboxOrdered → s'.OutboxOrdered)
      (dispatchRow config row) := by
  have hupdate : ∀ f : ℕ → OutboxEvent → OutboxEvent,
      (∀ now o, (f now o).id = o.id ∧ (f now o).createdAt = o.createdAt) →
      Guarantees (fun _ ↦ True) (fun s s' : Store ↦ s.OutboxOrdered → s'.OutboxOrdered)
        (Resumption.transaction (updateOutboxEvent row.id f) : Publisher Unit) := by
    intro f hf
    refine guarantees_transaction (fun _ _ h ↦ h) fun s u s' _ h hs ↦ ?_
    unfold updateOutboxEvent at h
    split at h
    · cases h
    · cases h
      refine hs.map (fun o ↦ ?_) fun o ↦ ?_
      · split
        · exact (hf s.clock o).1
        · rfl
      · split
        · exact (hf s.clock o).2
        · rfl
  have hpublish : Guarantees (fun _ ↦ True) (fun s s' : Store ↦ s.OutboxOrdered → s'.OutboxOrdered)
      (PubSubPublisher.publish config (envelope row)) := by
    unfold PubSubPublisher.publish
    split
    · exact guarantees_ret _
    · split
      · exact guarantees_ret _
      · exact Guarantees.bind (guarantees_query _) fun reply ↦
          Guarantees.bind (guarantees_ofExcept reply) fun id ↦ guarantees_ret _
  refine Guarantees.tryCatch (hpublish.discard.bind fun _ ↦ ?_) fun message ↦ ?_
  · exact hupdate _ fun _ _ ↦ ⟨rfl, rfl⟩
  · exact hupdate _ fun _ _ ↦ ⟨rfl, rfl⟩

theorem guarantees_ticks_ordered (config : PubSubConfig) (n : ℕ) :
    Guarantees (fun _ ↦ True) (fun s s' : Store ↦ s.OutboxOrdered → s'.OutboxOrdered)
      (times (dispatch config) n) := by
  have hrows : ∀ rows, Guarantees (fun _ ↦ True)
      (fun s s' : Store ↦ s.OutboxOrdered → s'.OutboxOrdered) (dispatchRows config rows) := by
    intro rows
    induction rows with
    | nil => exact guarantees_ret _
    | cons row rows ih => exact (guarantees_dispatchRow_ordered config row).bind fun _ ↦ ih
  induction n with
  | zero => exact guarantees_ret _
  | succ n ih =>
      refine Guarantees.bind (Guarantees.tryCatch ?_ fun _ ↦ guarantees_ret _) fun _ ↦ ih
      exact guarantees_read_bind (fun _ _ h ↦ h) fun s _ ↦ hrows (nextBatch s)

end OutboxDispatcher

/-! ## Beside the engine -/

inductive RelayRequest where
  | publish (request : PublishRequest)
  | outbound (request : OutboundRequest)

inductive RelayReply where
  | publish (reply : PublishReply)
  | outbound (reply : OutboundReply)

/-- The reply, as the publisher reads it. -/
def RelayReply.toPublish : RelayReply → PublishReply
  | .publish reply => reply
  | .outbound _ => .error ""

/-- The reply, as the engine and its webhook read it. -/
def RelayReply.toOutbound : RelayReply → OutboundReply
  | .outbound reply => reply
  | .publish _ => .validate .rejected

/-- A program of the engine, of its webhook or of its dispatcher. -/
abbrev Relay := Resumption Store RelayRequest RelayReply Failure

/-- An error is its message to the dispatcher. -/
def Publisher.toRelay {α : Type} (message : Failure → String) (p : Publisher α) : Relay α :=
  (p.relabel RelayRequest.publish RelayReply.toPublish).relabelErrors Failure.database message

def Web.toRelay {α : Type} (p : Web α) : Relay α :=
  p.relabel RelayRequest.outbound RelayReply.toOutbound

/-- What was published. -/
def publications (l : List (RelayRequest × RelayReply)) : List (PublishRequest × PublishReply) :=
  l.filterMap fun x ↦ match x.1 with
    | .publish request => some (request, x.2.toPublish)
    | .outbound _ => none

theorem publications_eq {l : List (RelayRequest × RelayReply)}
    {l' : List (PublishRequest × PublishReply)}
    (h : List.Forall₂ (fun x y ↦ x.1 = .publish y.1 ∧ x.2.toPublish = y.2) l l') :
    publications l = l' := by
  induction h with
  | nil => rfl
  | @cons x y l l' hxy _ ih =>
      obtain ⟨request, reply⟩ := x
      obtain ⟨request', reply'⟩ := y
      dsimp only at hxy
      obtain ⟨rfl, rfl⟩ := hxy
      exact congrArg ((request', reply.toPublish) :: ·) ih

/-- The ticks of the dispatcher, which never overlap, beside any number of calls. -/
def relayPool (runtime : Runtime) (config : WebConfig) (pubsub : PubSubConfig)
    (message : Failure → String) (clock nextId : ℕ) (intents : List PaymentIntent) (ticks : ℕ)
    (calls : List WebCall) : Pool Store RelayRequest RelayReply (Relay Unit) where
  store := Store.empty clock nextId intents
  threads := Publisher.toRelay message (times (OutboxDispatcher.dispatch pubsub) ticks) ::
    calls.map fun c ↦ Web.toRelay (c.program runtime config)
  log := []

/-- Time does not go back. -/
def TimeRuns (P : Pool Store RelayRequest RelayReply (Relay Unit)) (t : Turn RelayReply Failure) :
    Prop :=
  P.store.clock ≤ (Pool.step next P t).store.clock

instance decidableTimeRuns (P : Pool Store RelayRequest RelayReply (Relay Unit))
    (t : Turn RelayReply Failure) : Decidable (TimeRuns P t) :=
  inferInstanceAs (Decidable (_ ≤ _))

section Drain

open OutboxDispatcher

variable (runtime : Runtime) (config : WebConfig) (pubsub : PubSubConfig)
  (message : Failure → String) (clock nextId : ℕ) (intents : List PaymentIntent) (ticks : ℕ)
  (calls : List WebCall)

/-- What a turn of a thread does to the outbox while time does not go back; the dispatcher is the
first thread. -/
def OutboxTurn (i : ℕ) (s s' : Store) : Prop :=
  s.clock ≤ s'.clock → (i ≠ 0 → s.Enqueues s') ∧ (s.OutboxOrdered → s'.OutboxOrdered)

theorem outboxTurn_refl (i : ℕ) (s : Store) : OutboxTurn i s s :=
  fun _ ↦ ⟨fun _ ↦ .refl s, id⟩

theorem guarantees_relayPool (i : ℕ) (p : Relay Unit)
    (hp : (relayPool runtime config pubsub message clock nextId intents ticks calls).threads[i]? =
      some p) :
    Guarantees (fun _ ↦ True) (OutboxTurn i) p := by
  cases i with
  | zero =>
      cases hp
      refine ((guarantees_ticks_ordered pubsub ticks).relabel.relabelErrors).mono (fun _ h ↦ h) ?_
      exact fun s s' _ h _ ↦ ⟨fun h₀ ↦ absurd rfl h₀, h⟩
  | succ i =>
      obtain ⟨c, -, rfl⟩ := List.mem_map.mp (List.mem_of_getElem? hp)
      refine c.guarantees_enqueues.relabel.mono (fun _ h ↦ h) fun s s' _ h hclock ↦ ?_
      have henqueues := h hclock
      exact ⟨fun _ ↦ henqueues, (Relays.of_enqueues henqueues : Relays pubsub _ _ _ _).ordered⟩

end Drain

/-- If time does not go back and the database carries out what the dispatcher asks of it, a row
with `r` pending rows ahead of it is published or has failed `maxAttempts` times once
`maxAttempts * (r / batchSize + 1)` more ticks are over, whatever the engine does meanwhile. -/
theorem outbox_drains (runtime : Runtime) (config : WebConfig) (pubsub : PubSubConfig)
    (message : Failure → String) (clock nextId : ℕ) (intents : List PaymentIntent) (ticks n : ℕ)
    (calls : List WebCall) (ts₁ ts₂ : List (Turn RelayReply Failure)) :
    let start := relayPool runtime config pubsub message clock nextId intents ticks calls
    let P₁ := Pool.run next start ts₁
    let P₂ := Pool.run next start (ts₁ ++ ts₂)
    Transition.Along (Pool.step next) TimeRuns start (ts₁ ++ ts₂) →
    P₁.threads[0]? = some (Publisher.toRelay message (times (OutboxDispatcher.dispatch pubsub) n)) →
    (∀ t ∈ ts₂, t.thread = 0 → ∀ e, t.move ≠ .refuse e) →
    P₂.threads[0]? = some (.ret ()) →
    ∃ l, Pool.exchanges P₂.log 0 = Pool.exchanges P₁.log 0 ++ l ∧
      ∀ (r : ℕ) (row : OutboxEvent),
        (P₁.store.outboxEvents.filter OutboxDispatcher.pending)[r]? = some row →
        OutboxDispatcher.maxAttempts * (r / OutboxDispatcher.batchSize + 1) ≤ n →
        ∃ row' ∈ P₂.store.outboxEvents,
          OutboxDispatcher.Settled pubsub (publications l) row row' := by
  intro start P₁ P₂ htime hticks hrefused hend
  obtain ⟨htime₁, htime₂⟩ := Transition.Along.append.mp htime
  have hP₂ : P₂ = Pool.run next P₁ ts₂ := Transition.run_append ..
  rw [hP₂] at hend ⊢
  -- the order holds all along, and every thread keeps to its part
  let Inv (P : Pool Store RelayRequest RelayReply (Relay Unit)) : Prop :=
    P.store.OutboxOrdered ∧ ∀ (i : ℕ) p, P.threads[i]? = some p →
      Guarantees (fun _ ↦ True) (OutboxTurn i) p
  have hstep : ∀ P t, TimeRuns P t → Inv P → Inv (Pool.step next P t) := by
    rintro P t htime ⟨hs, hg⟩
    obtain ⟨hg', hturn⟩ := Pool.guarantees_each_step outboxTurn_refl hg t
    exact ⟨(hturn htime).2 hs, hg'⟩
  have hinv : Inv P₁ := htime₁.run_invariant hstep ⟨Store.outboxOrdered_empty clock nextId intents,
    guarantees_relayPool runtime config pubsub message clock nextId intents ticks calls⟩
  have hbeside : Transition.Along (Pool.step next)
      (Pool.Beside Store.Enqueues (fun _ ↦ False) 0) P₁ ts₂ := by
    have hboth := Transition.Along.and.mpr ⟨htime₂, Transition.Along.of_mem hrefused⟩
    refine hboth.of_invariant (fun P t h ↦ hstep P t h.1) (fun P t h hP ↦ ?_) hinv
    unfold Pool.Beside
    split
    · next ht => exact h.2 ht
    · next ht => exact ((Pool.guarantees_each_step outboxTurn_refl hP.2 t).2 h.1).1 ht
  obtain ⟨l, hrun, hlog⟩ :=
    Pool.amid_run Store.Enqueues.refl .trans hticks hbeside (r := .ok ()) hend
  refine ⟨l, hlog, fun r row hr hn ↦ ?_⟩
  obtain ⟨r', hrun, hr'⟩ := hrun.of_relabelErrors (F := fun _ ↦ False) fun _ ↦ id
  obtain ⟨l', hrun, hl⟩ := hrun.of_relabel
  cases r' with
  | error e => cases hr'
  | ok u =>
      rw [publications_eq hl]
      exact OutboxDispatcher.settled_of_times hrun hinv.1 hr hn

namespace Sample

/-- A payment, and ten ticks of the dispatcher. -/
def relayed : Pool Store RelayRequest RelayReply (Relay Unit) :=
  relayPool runtime web ⟨true⟩ (fun _ ↦ "") 0 10 [intent] 10
    [.itn (itnRequest itnSignature)]

/-- The form carries its signature. -/
theorem relayed_eq : relayed =
    { relayPool runtime web ⟨true⟩ (fun _ ↦ "") 0 10 [intent] 10 [] with
      threads := (relayPool runtime web ⟨true⟩ (fun _ ↦ "") 0 10 [intent] 10 []).threads ++
        [Web.toRelay (checked itnSignature)] } := by
  rw [← program_itnRequest (.inl rfl)]
  rfl

/-- The payment is committed. -/
def formArrives : List (Turn RelayReply Failure) :=
  [⟨1, .answer (.outbound (.validate (.resolved (some "VALID"))))⟩, ⟨1, .act⟩, ⟨1, .act⟩]

/-- The first tick publishes the two events, and the others find nothing. -/
def tenTicks : List (Turn RelayReply Failure) :=
  [⟨0, .act⟩, ⟨0, .answer (.publish (.ok "1"))⟩, ⟨0, .act⟩, ⟨0, .answer (.publish (.ok "2"))⟩,
    ⟨0, .act⟩] ++ List.replicate 9 ⟨0, .act⟩

end Sample

theorem outbox_drains_sample :
    ∃ l,
      Pool.exchanges (Pool.run next Sample.relayed (Sample.formArrives ++ Sample.tenTicks)).log 0 =
        Pool.exchanges (Pool.run next Sample.relayed Sample.formArrives).log 0 ++ l ∧
      ∀ (r : ℕ) (row : OutboxEvent),
        ((Pool.run next Sample.relayed Sample.formArrives).store.outboxEvents.filter
          OutboxDispatcher.pending)[r]? = some row →
        OutboxDispatcher.maxAttempts * (r / OutboxDispatcher.batchSize + 1) ≤ 10 →
        ∃ row' ∈ (Pool.run next Sample.relayed
            (Sample.formArrives ++ Sample.tenTicks)).store.outboxEvents,
          OutboxDispatcher.Settled ⟨true⟩ (publications l) row row' := by
  refine outbox_drains Sample.runtime Sample.web ⟨true⟩ (fun _ ↦ "") 0 10 [Sample.intent] 10 10
    [.itn (Sample.itnRequest Sample.itnSignature)] Sample.formArrives Sample.tenTicks
    ?_ ?_ ?_ (eq_some_ret ?_)
  · show Transition.Along _ TimeRuns Sample.relayed _
    rw [Sample.relayed_eq]
    decide +kernel
  · exact Pool.getElem?_run_of_ne next (by decide)
  · intro t ht _ e he
    rcases List.mem_append.mp ht with ht | ht
    · simp only [List.mem_cons, List.not_mem_nil, or_false] at ht
      rcases ht with rfl | rfl | rfl | rfl | rfl
      all_goals cases he
    · cases List.eq_of_mem_replicate ht
      cases he
  · show (Pool.run next Sample.relayed _).threads[0]?.any hasReturned = true
    rw [Sample.relayed_eq]
    decide +kernel

end GearshPayments
