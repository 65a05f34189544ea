import GearshPayments.Store.Schema

/-!
# CloudEvents envelopes

The envelope of an inbound event, and the check that a Pub/Sub message carries
one (`PubSubSubscriber.parseEnvelope`).
-/

namespace GearshPayments

/-- The envelope, as far as the subscriber and its handlers read it. -/
structure CloudEvent where
  id : ℕ
  type : String
  data : EventData
  traceparent : Option String
  tracestate : Option String
deriving DecidableEq

/-- The object a message's data parses to.  A field is `none` when it is absent or
`null`, and `id` and `type` also when they are no strings. -/
structure RawEnvelope where
  specversion : Option String
  id : Option ℕ
  type : Option String
  source : Option String
  subject : Option String
  datacontenttype : Option String
  data : Option EventData
  traceparent : Option String
  tracestate : Option String

/-- The envelope in a message; the message is `none` when its data is not a JSON
object. -/
def parseEnvelope (message : Option RawEnvelope) : Option CloudEvent := do
  let obj ← message
  let specversion ← obj.specversion
  let id ← obj.id
  let type ← obj.type
  let _ ← obj.source
  let _ ← obj.subject
  let _ ← obj.datacontenttype
  let data ← obj.data
  if specversion ≠ "1.0" then none
  else some { id, type, data, traceparent := obj.traceparent, tracestate := obj.tracestate }

end GearshPayments
