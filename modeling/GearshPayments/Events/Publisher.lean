import GearshPayments.Events.Outbox
import GearshPayments.JavaScript.Date
import GearshPayments.Refunds.Service
import Mathlib.Data.List.Sort

/-!
# Publishing the outbox

`pubsub.publisher.ts` and `outbox.dispatcher.ts`: a tick of the dispatcher reads the next
rows of the outbox that are not published, publishes them one after the other, and writes
down of each whether that succeeded.  An error is its message here, which is all that the
dispatcher looks at.
-/

namespace GearshPayments

/-- CloudEvents `source` for this engine. -/
def eventSource : String := "gearsh-payments-engine"

def eventTopicPrefix : List (String × String) :=
  [("payments.", "payment-events"), ("escrow.", "escrow-events")]

def topicForEventType (eventType : String) : Option String :=
  (eventTopicPrefix.find? fun m ↦ m.1.toList.isPrefixOf eventType.toList).map Prod.snd

/-- Every type that the engine publishes is routed. -/
theorem isSome_topicForEventType (type : PaymentsEventType) :
    (topicForEventType type.value).isSome = true := by
  cases type
  all_goals rfl

/-- The envelope of an event that is published. -/
structure OutboundEvent where
  specversion : String
  id : ℕ
  type : String
  source : String
  subject : String
  time : List Char
  datacontenttype : String
  dataschema : String
  data : EventData
  traceparent : String
  tracestate : String
deriving DecidableEq

structure PubSubConfig where
  enabled : Bool

/-- A call of `publishMessage` on a topic. -/
structure PublishRequest where
  topic : String
  event : OutboundEvent
  attributes : List (String × String)
  orderingKey : String

/-- The id of the message, or the message of the error. -/
abbrev PublishReply := Except String String

/-- A program that publishes. -/
abbrev Publisher := Resumption Store PublishRequest PublishReply String

namespace PubSubPublisher

def attributes (event : OutboundEvent) : List (String × String) :=
  [("ce-id", toString event.id), ("ce-type", event.type), ("ce-source", event.source),
    ("ce-specversion", event.specversion), ("ce-subject", event.subject),
    ("ce-time", String.ofList event.time)] ++
  (if event.traceparent = "" then [] else [("ce-traceparent", event.traceparent)]) ++
  if event.tracestate = "" then [] else [("ce-tracestate", event.tracestate)]

def request (topic : String) (event : OutboundEvent) : PublishRequest where
  topic := topic
  event := event
  attributes := attributes event
  orderingKey := event.subject

/-- Publish one envelope to the topic of its type: the id of the message, or `none` when
publishing is disabled or the type is not routed.  After an error the client resumes the
ordering key, so that the next message of the subject is not refused because of this one. -/
def publish (config : PubSubConfig) (event : OutboundEvent) : Publisher (Option String) :=
  match topicForEventType event.type with
  | none => return none
  | some topic =>
    if config.enabled = false then return none
    else do
      let reply ← Resumption.query (request topic event)
      some <$> Resumption.ofExcept reply

end PubSubPublisher

namespace OutboxDispatcher

def batchSize : ℕ := 50

def maxAttempts : ℕ := 10

def createdBefore (a b : OutboxEvent) : Prop := a.createdAt ≤ b.createdAt

instance : DecidableRel createdBefore :=
    fun a b ↦ inferInstanceAs (Decidable (a.createdAt ≤ b.createdAt))

/-- A row that the next tick may publish. -/
def pending (row : OutboxEvent) : Bool := row.publishedAt = none ∧ row.attempts < maxAttempts

/-- The rows that the next tick reads. -/
def nextBatch (s : Store) : List OutboxEvent :=
  ((s.outboxEvents.filter pending).insertionSort createdBefore).take batchSize

def envelope (row : OutboxEvent) : OutboundEvent where
  specversion := "1.0"
  id := row.id
  type := row.eventType.value
  source := eventSource
  subject := row.subject
  time := JavaScript.Date.toISOString row.createdAt
  datacontenttype := "application/json"
  dataschema := row.dataschema
  data := row.data
  traceparent := row.traceparent
  tracestate := row.tracestate

/-- `outboxEvent.update`. -/
def updateOutboxEvent (id : ℕ) (f : ℕ → OutboxEvent → OutboxEvent) :
    StateT Store (Except String) Unit := fun s ↦
  match Table.find OutboxEvent.id id s.outboxEvents with
  | none => .error "Record to update not found."
  | some _ => .ok ((),
      { s with outboxEvents := Table.update OutboxEvent.id id (f s.clock) s.outboxEvents })

def markRow (now : ℕ) (row : OutboxEvent) : OutboxEvent :=
  { row with
    publishedAt := some now
    lastError := none }

def failRow (message : String) (row : OutboxEvent) : OutboxEvent :=
  { row with
    attempts := row.attempts + 1
    lastError := some (RefundsService.truncate message 1000) }

/-- One row: publish it and mark it; where one of the two fails, count the attempt. -/
def dispatchRow (config : PubSubConfig) (row : OutboxEvent) : Publisher Unit :=
  tryCatchThe String
    (do
      discard <| PubSubPublisher.publish config (envelope row)
      Resumption.transaction (updateOutboxEvent row.id markRow))
    fun message ↦ Resumption.transaction (updateOutboxEvent row.id fun _ ↦ failRow message)

/-- The loop over the batch. -/
def dispatchRows (config : PubSubConfig) : List OutboxEvent → Publisher Unit
  | [] => return ()
  | row :: rows => do
    dispatchRow config row
    dispatchRows config rows

/-- One tick.  An error that no row's handler has caught ends it. -/
def dispatch (config : PubSubConfig) : Publisher Unit :=
  tryCatchThe String
    (do
      let batch ← Resumption.read nextBatch
      dispatchRows config batch)
    fun _ ↦ return ()

end OutboxDispatcher

end GearshPayments
