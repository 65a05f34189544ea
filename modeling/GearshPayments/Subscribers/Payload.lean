import GearshPayments.Events.CloudEvent
import GearshPayments.Numbers
import GearshPayments.Problem

/-!
# Inbound payloads

`payload-schemas.ts`: which fields an inbound event must have, and which values some
of them may take.  The data of an event is an object here, as the envelope's check
leaves it.
-/

namespace GearshPayments

namespace EventValue

/-- `String(value)`.  Identifiers and instants read as the numbers they are kept as. -/
def text : EventValue → String
  | .null => "null"
  | .num n => numberText n
  | .str s => s
  | .uuid id => toString id
  | .date t => toString t

end EventValue

namespace EventData

/-- `String(data[field])`. -/
def text (data : EventData) (field : String) : String :=
  match data.get field with
  | some value => value.text
  | none => "undefined"

/-- `data[field]`, where it is an integer. -/
def integer? (data : EventData) (field : String) : Option ℤ :=
  match data.get field with
  | some (.num n) => if n.den = 1 then some n.num else none
  | _ => none

end EventData

def refundPolicies : List String := ["FULL_REFUND", "PARTIAL_REFUND", "NO_REFUND"]

def cancellationActorRoles : List String := ["CLIENT", "ARTIST", "ADMIN", "SYSTEM"]

def disputeActorRoles : List String := ["CLIENT", "ARTIST", "ADMIN"]

def completionReasons : List String := ["AUTO_COMPLETE", "MANUAL_ADMIN", "CLIENT_CONFIRMED"]

def resolutions : List String := ["RELEASE_TO_ARTIST", "REFUND_TO_CLIENT", "SPLIT"]

/-- The required fields, by event type. -/
def required : List (String × List String) :=
  [("bookings.completed",
      ["bookingId", "clientId", "artistId", "serviceId", "escrowHoldId", "startAt", "endAt",
        "totalCents", "currency", "completedAt", "completionReason"]),
    ("bookings.cancelled",
      ["bookingId", "clientId", "artistId", "cancelledBy", "actorRole", "reason", "refundPolicy",
        "cancelledAt"]),
    ("bookings.disputed",
      ["bookingId", "disputeId", "escrowHoldId", "openedBy", "actorRole", "subject", "openedAt"]),
    ("disputes.resolved",
      ["disputeId", "bookingId", "escrowHoldId", "resolution", "resolvedBy", "resolvedAt"]),
    ("auth.session.revoked", ["userId"])]

/-- The field is absent or `null`. -/
def isMissing (data : EventData) (field : String) : Bool :=
  match data.get field with
  | none | some .null => true
  | some _ => false

def assertEnum (eventType field : String) (data : EventData) (allowed : List String) :
    Except Failure Unit :=
  let options := "|".intercalate allowed
  let value := data.text field
  let refused := Failure.payload s!"{eventType}: {field} must be one of {options}, got {value}"
  match data.get field with
  | some (.str s) => if s ∈ allowed then .ok () else .error refused
  | _ => .error refused

/-- The check of one component of a split. -/
def assertSplitCents (eventType field : String) (data : EventData) : Except Failure Unit :=
  if (data.integer? field).all (0 ≤ ·) ∧ (data.integer? field).isSome then .ok ()
  else .error (.payload
    s!"{eventType}: {field} must be a non-negative integer when resolution=SPLIT")

/-- The checks of single fields, by event type. -/
def assertFields (type : String) (data : EventData) : Except Failure Unit :=
  if type = "bookings.completed" then
    assertEnum type "completionReason" data completionReasons
  else if type = "bookings.cancelled" then do
    assertEnum type "refundPolicy" data refundPolicies
    assertEnum type "actorRole" data cancellationActorRoles
    if data.get "refundPolicy" = some (.str "PARTIAL_REFUND") ∧
        ¬((data.integer? "partialRefundCents").any (0 < ·)) then
      throw (Failure.payload
        s!"{type}: partialRefundCents must be a positive integer when refundPolicy=PARTIAL_REFUND")
  else if type = "bookings.disputed" then
    assertEnum type "actorRole" data disputeActorRoles
  else if type = "disputes.resolved" then do
    assertEnum type "resolution" data resolutions
    if data.get "resolution" = some (.str "SPLIT") then
      assertSplitCents type "splitArtistCents" data
      assertSplitCents type "splitClientCents" data
  else .ok ()

/-- Validate the data of an event.  Types that nobody here consumes are not validated. -/
def validateEventPayload (event : CloudEvent) : Except Failure Unit :=
  match required.lookup event.type with
  | none => .ok ()
  | some fields =>
    let missing := fields.filter (isMissing event.data)
    let names := ", ".intercalate missing
    if missing.length > 0 then
      .error (.payload s!"{event.type}: missing required field(s): {names}")
    else assertFields event.type event.data

end GearshPayments
