import GearshPayments.Expiring
import GearshPayments.Idempotency.Service
import GearshPayments.Subscribers.PubSub

/-!
# Redis and the markers

What the guards, the subscriber and the idempotency service share: the time, Redis, whose entries
expire, and the table of processed events.  Everything is a program here whose actions interleave
with those of others and may fail.  What a request does once it is let through, and what the
handlers of booking and dispute events do, is asked of the outside.
-/

namespace GearshPayments

/-- What is stored in Redis: a plain text, or a response as JSON. -/
inductive RedisValue where
  | text (s : String)
  | response (stored : StoredResponse)
deriving DecidableEq

/-- The value counts as true; an empty text does not. -/
def RedisValue.truthy : RedisValue → Bool
  | .text s => s ≠ ""
  | .response _ => true

structure Backend where
  /-- The time in milliseconds. -/
  clock : ℕ
  redis : Expiring String RedisValue
  processed : List ProcessedEvent

inductive BackendRequest where
  /-- Run the work of a request. -/
  | work (endpoint userId requestBody : String)
  /-- Run the handler of a consumer. -/
  | handle (consumer : String) (event : CloudEvent)
deriving DecidableEq

inductive BackendReply where
  | work (result : Except Failure WorkResult)
  | handled (result : Except Failure Unit)

/-- The reply to a piece of work. -/
def BackendReply.toWork : BackendReply → Except Failure WorkResult
  | .work result => result
  | .handled _ => .error (.database "")

/-- The reply of a handler. -/
def BackendReply.toHandled : BackendReply → Except Failure Unit
  | .handled result => result
  | .work _ => .error (.database "")

abbrev Serving (α : Type) := Resumption Backend BackendRequest BackendReply Failure α

namespace Redis

def get (key : String) : Serving (Option RedisValue) :=
  Resumption.read fun s ↦ s.redis.get s.clock key

/-- The state after `SET key value EX ttl`. -/
def stored (key : String) (value : RedisValue) (ttlSeconds : ℕ) (s : Backend) : Backend :=
  { s with redis := s.redis.set key value (s.clock + ttlSeconds * 1000) }

def set (key : String) (value : RedisValue) (ttlSeconds : ℕ) : Serving Unit :=
  Resumption.transaction fun s ↦ .ok ((), stored key value ttlSeconds s)

end Redis

namespace ProcessedEventsService

/-- The insertion of a marker, which fails on a second one. -/
def markIfFirst (eventId : ℕ) (consumer eventType : String) : Serving Bool :=
  Resumption.transaction fun s ↦
    .ok ((GearshPayments.markIfFirst eventId consumer eventType s.processed).1,
      { s with
        processed := (GearshPayments.markIfFirst eventId consumer eventType s.processed).2 })

end ProcessedEventsService

/-- Time passes. -/
def elapse (ms : ℕ) : Serving Unit :=
  Resumption.transaction fun s ↦ .ok ((), { s with clock := s.clock + ms })

end GearshPayments
