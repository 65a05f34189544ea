import GearshPayments.Numbers
import GearshPayments.Store.Tx

/-!
# The outbox

`OutboxService.enqueue`: one row per event, written by the transaction that
changes the state the event is about.
-/

namespace GearshPayments

structure EnqueueInput where
  aggregateType : String
  aggregateId : ℕ
  type : PaymentsEventType
  subject : String
  data : EventData
  traceparent : Option String
  tracestate : Option String
deriving DecidableEq

namespace OutboxService

/-- The row an input becomes. -/
def row (input : EnqueueInput) (id : ℕ) (createdAt : ℕ) : OutboxEvent where
  id := id
  aggregateType := input.aggregateType
  aggregateId := input.aggregateId
  eventType := input.type
  subject := input.subject
  dataschema := dataSchemaUri input.type
  data := input.data
  traceparent := input.traceparent.getD ""
  tracestate := input.tracestate.getD ""
  createdAt := createdAt
  publishedAt := none
  attempts := 0
  lastError := none

def enqueue (input : EnqueueInput) : Tx ℕ := Tx.createOutboxEvent (row input)

@[simp] theorem enqueue_apply (input : EnqueueInput) (s : Store) :
    enqueue input s = .ok (s.nextId,
      { s with
        nextId := s.nextId + 1
        outboxEvents := s.outboxEvents ++ [row input s.nextId s.clock] }) := rfl

end OutboxService

namespace EventValue

/-- `Number(amount)` in the data of an event. -/
def cents (amount : ℤ) : EventValue := .num (number amount)

/-- The name of the currency, as the database enumeration spells it. -/
def currency : Currency → EventValue
  | .zar => .str "ZAR"
  | .usd => .str "USD"
  | .gbp => .str "GBP"
  | .ngn => .str "NGN"
  | .kes => .str "KES"
  | .ghs => .str "GHS"
  | .aud => .str "AUD"
  | .cad => .str "CAD"

end EventValue

end GearshPayments
