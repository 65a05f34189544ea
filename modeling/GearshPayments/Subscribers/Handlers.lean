import GearshPayments.Subscribers.Payload
import GearshPayments.System

/-!
# The handlers of booking and dispute events

`booking-events.handler.ts` and `dispute-events.handler.ts`: look the hold up, skip it
in some of its states, and call the escrow or the refunds service; an error that says
that the hold was not in a state for the call is taken for a duplicate and dropped.
What is logged is left out, and with it the comparison of the hold with the id that a
booking event carries.
-/

namespace GearshPayments

/-- The error of a transition that the hold does not allow. -/
def isExpectedTerminalTransition (err : Failure) : Bool :=
  err.code? = some .escrowIllegalTransition ∨ err.code? = some .escrowFrozen ∨
    err.code? = some .illegalTransition

/-- The `catch` of every handler. -/
def ignoreExpected (p : Service Unit) : Service Unit :=
  tryCatchThe Failure p fun err ↦ if isExpectedTerminalTransition err then return else throw err

namespace EventData

/-- An identifier in a query. -/
def uuid (data : EventData) (field : String) : Except Failure ℕ :=
  match data.get field with
  | some (.uuid id) => .ok id
  | _ => .error (.prisma .p2023)

/-- A text that may be absent or `null`. -/
def note (data : EventData) (field : String) : Except Failure (Option String) :=
  match data.get field with
  | none | some .null => .ok none
  | some (.num _) => .error (.prisma .p2023)
  | some value => .ok (some value.text)

end EventData

/-- The hold of a booking. -/
def Store.holdOfBooking (s : Store) (bookingId : ℕ) : Option EscrowHold :=
  Table.find EscrowHold.bookingId bookingId s.escrowHolds

/-- Look a hold up by its booking. -/
def findHoldOfBooking (data : EventData) : Service (Option EscrowHold) := do
  let bookingId ← Resumption.ofExcept (data.uuid "bookingId")
  Resumption.read fun s ↦ s.holdOfBooking bookingId

namespace DisputeEventsHandler

inductive Resolution where
  | releaseToArtist | refundToClient | split
deriving DecidableEq, Repr

namespace Resolution

def name : Resolution → String
  | releaseToArtist => "RELEASE_TO_ARTIST"
  | refundToClient => "REFUND_TO_CLIENT"
  | split => "SPLIT"

/-- `data.resolution`. -/
def of? (data : EventData) : Option Resolution :=
  [releaseToArtist, refundToClient, split].find? fun r ↦
    data.get "resolution" = some (.str r.name)

end Resolution

def handles (eventType : String) : Bool := eventType = "disputes.resolved"

/-- The payload's hold id, or else its booking id. -/
def resolveHold (data : EventData) : Service (Option EscrowHold) := do
  let holdId ← Resumption.ofExcept (data.uuid "escrowHoldId")
  match ← Resumption.read fun s ↦ s.escrowHold? holdId with
  | some hold => return some hold
  | none => findHoldOfBooking data

/-- `data.resolvedBy ?? config.systemUserId`. -/
def resolvedBy (config : SystemConfig) (data : EventData) : Except Failure ℕ :=
  if isMissing data "resolvedBy" then .ok config.systemUserId else data.uuid "resolvedBy"

def resolveOptions (config : SystemConfig) (data : EventData) : Except Failure ResolveOptions := do
  let actorId ← resolvedBy config data
  let resolutionNotes ← data.note "resolutionNotes"
  return { actorId := some actorId, resolutionNotes }

/-- An operation with the options of a resolution.  The database looks at them when the
operation writes its event, after the checks of the operation. -/
def withOptions (config : SystemConfig) (data : EventData)
    (op : ResolveOptions → Tx EscrowHold) : Tx EscrowHold :=
  match resolveOptions config data with
  | .ok opts => op opts
  | .error e => do
    discard <| op {}
    throw e

/-- A refund on behalf of `resolvedBy`.  The database looks at the identifier when the row
of the refund is inserted, after the checks of the refund. -/
def issueRefundBy (config : SystemConfig) (data : EventData) (input : ℕ → IssueRefundInput) :
    Service Unit :=
  match resolvedBy config data with
  | .ok actorId =>
    discard <| RefundsService.issueRefund config.payfast config.business (input actorId)
  | .error e => do
    let (hold, chargeTxn) ← RefundsService.resolveHoldAndCharge (input config.systemUserId)
    discard <| Resumption.ofExcept
      (RefundsService.planRefund (input config.systemUserId) hold chargeTxn)
    Resumption.statement
    throw e

/-- The call that the resolution asks for. -/
def resolve (config : SystemConfig) (data : EventData) (hold : EscrowHold) : Service Unit :=
  match Resolution.of? data with
  | some .releaseToArtist =>
    discard <| Resumption.transaction <| withOptions config data fun opts ↦
      EscrowService.resolveRelease config.business hold.id opts
  | some .refundToClient =>
    issueRefundBy config data fun actorId ↦
      { holdId := some hold.id
        full := some true
        faultParty := .artist
        reason := "dispute-resolved-refund"
        actorId }
  | some .split =>
    let splitArtistCents := (data.integer? "splitArtistCents").getD 0
    let splitClientCents := (data.integer? "splitClientCents").getD 0
    discard <| Resumption.transaction <| withOptions config data fun opts ↦
      EscrowService.resolveSplit config.business hold.id splitArtistCents splitClientCents opts
  | none => return

def handle (config : SystemConfig) (event : CloudEvent) : Service Unit := do
  Resumption.ofExcept (validateEventPayload event)
  match ← resolveHold event.data with
  | none => return
  | some hold =>
    if hold.state = .released ∨ hold.state = .refunded then return
    else ignoreExpected (resolve config event.data hold)

end DisputeEventsHandler

namespace BookingEventsHandler

def handles (eventType : String) : Bool :=
  eventType = "bookings.completed" ∨ eventType = "bookings.cancelled" ∨
    eventType = "bookings.disputed"

/-- `bookings.completed`: release. -/
def onCompleted (config : SystemConfig) (data : EventData) : Service Unit := do
  match ← findHoldOfBooking data with
  | none => return
  | some hold =>
    if hold.state ≠ .held ∧ hold.state ≠ .partiallyRefunded then return
    else
      ignoreExpected <| discard <| Resumption.transaction
        (EscrowService.release config.business hold.id
          { note := some "auto-release: bookings.completed" })

/-- The refund or release that the policy of a cancellation asks for. -/
def applyRefundPolicy (config : SystemConfig) (data : EventData) (hold : EscrowHold) :
    Service Unit :=
  let isArtist : Bool := data.get "actorRole" = some (.str "ARTIST")
  if data.get "refundPolicy" = some (.str "FULL_REFUND") then
    discard <| RefundsService.issueRefund config.payfast config.business
      { holdId := some hold.id
        full := some true
        faultParty := if isArtist then .artist else .client
        reason := if isArtist then "booking-cancelled-artist-fault"
          else "booking-cancelled-client-tiered"
        actorId := config.systemUserId }
  else if data.get "refundPolicy" = some (.str "PARTIAL_REFUND") then
    discard <| RefundsService.issueRefund config.payfast config.business
      { holdId := some hold.id
        refundCents := some ((data.integer? "partialRefundCents").getD 0)
        faultParty := .client
        reason := "booking-cancelled-partial"
        actorId := config.systemUserId }
  else if data.get "refundPolicy" = some (.str "NO_REFUND") then
    discard <| Resumption.transaction (EscrowService.release config.business hold.id
      { note := some "no-refund cancellation: artist keeps full payment" })
  else return

/-- `bookings.cancelled`: refund or release. -/
def onCancelled (config : SystemConfig) (data : EventData) : Service Unit := do
  match ← findHoldOfBooking data with
  | none => return
  | some hold => ignoreExpected (applyRefundPolicy config data hold)

/-- `bookings.disputed`: freeze. -/
def onDisputed (config : SystemConfig) (data : EventData) : Service Unit := do
  match ← findHoldOfBooking data with
  | none => return
  | some hold =>
    if hold.state = .disputed then return
    else if hold.state = .released ∨ hold.state = .refunded then return
    else
      ignoreExpected <| discard <| Resumption.transaction
        (EscrowService.freeze config.business hold.id { reason := "bookings.disputed" })

def handle (config : SystemConfig) (event : CloudEvent) : Service Unit := do
  Resumption.ofExcept (validateEventPayload event)
  if event.type = "bookings.completed" then onCompleted config event.data
  else if event.type = "bookings.cancelled" then onCancelled config event.data
  else if event.type = "bookings.disputed" then onDisputed config event.data
  else return

end BookingEventsHandler

end GearshPayments
