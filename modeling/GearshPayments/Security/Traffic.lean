import GearshPayments.Idempotency.Timed
import GearshPayments.Security.Guards
import GearshPayments.Subscribers.Handlers

/-!
# Messages and requests

The programs that share Redis and the markers: the deliveries of inbound events, with the handler
of revoked sessions (`auth-session-revoked.handler.ts`) as it is and the other handlers asked of
the outside, and the requests that pass the guards and then the idempotency service.
-/

namespace GearshPayments

def AuthSessionRevokedHandler.minTtlSeconds : ℕ := 60

/-- For how many seconds a revoked session is denied. -/
abbrev SecurityConfig.ttl (config : SecurityConfig) : ℕ :=
  max AuthSessionRevokedHandler.minTtlSeconds config.accessTtlSeconds

namespace AuthSessionRevokedHandler

def handles (eventType : String) : Bool := eventType = "auth.session.revoked"

/-- The session to deny, unless the event is about all sessions of the user. -/
def sid (data : EventData) : Option String :=
  match data.get "sid" with
  | none | some .null => none
  | some (.num n) => if n = 0 then none else some (EventValue.num n).text
  | some value => if value.text = "" then none else some value.text

def handle (config : SecurityConfig) (event : CloudEvent) : Serving Unit := do
  Resumption.ofExcept (validateEventPayload event)
  match sid event.data with
  | none => return ()
  | some sid => Redis.set (sessionDenylistPrefix ++ sid) (.text "1") config.ttl

end AuthSessionRevokedHandler

structure EventHandler where
  consumerName : String
  handles : String → Bool
  handle : CloudEvent → Serving Unit

/-- A handler that works elsewhere. -/
def EventHandler.elsewhere (consumerName : String) (handles : String → Bool) : EventHandler where
  consumerName := consumerName
  handles := handles
  handle := fun event ↦ do
    let reply ← Resumption.query (.handle consumerName event)
    Resumption.ofExcept reply.toHandled

/-- The registered handlers. -/
def eventHandlers (config : SecurityConfig) : List EventHandler :=
  [⟨"payments-auth-session-revoked", AuthSessionRevokedHandler.handles,
      AuthSessionRevokedHandler.handle config⟩,
    .elsewhere "payments-escrow-booking" BookingEventsHandler.handles,
    .elsewhere "payments-escrow-dispute" DisputeEventsHandler.handles]

namespace PubSubSubscriber

/-- The loop over the matched handlers. -/
def dispatchTo (event : CloudEvent) : List EventHandler → Serving Unit
  | [] => return ()
  | handler :: rest => do
    let first ← ProcessedEventsService.markIfFirst event.id handler.consumerName event.type
    if first then handler.handle event
    dispatchTo event rest

/-- One delivery of a message. -/
def receive (config : SecurityConfig) (message : Option RawEnvelope) : Serving Verdict :=
  match parseEnvelope message with
  | none => return .nack
  | some event =>
    let matched := (eventHandlers config).filter (·.handles event.type)
    if matched.length = 0 then return .ack
    else
      tryCatchThe Failure
        (do
          dispatchTo event matched
          return .ack)
        fun _ => return .nack

end PubSubSubscriber

/-- A request that changes something: past the guards of its route, its work is run under its
idempotency key in the name of its user. -/
def mutation (lib : TokenLibrary) (config : SecurityConfig) (sha256 : String → String)
    (route : Route) (req : HttpRequest) : Serving RunResult := do
  let user ← authorize lib config route req
  match user with
  -- reading `sub` of no user is an error of the server
  | none => throw (Failure.ofCode .internalError)
  | some user =>
    let params : RunParams := ⟨req.endpoint, user.sub, req.idempotencyKey, req.requestBody⟩
    TimedIdempotencyService.run sha256 params (workOf params)

/-! ## The pool -/

inductive BackendCall where
  | message (message : Option RawEnvelope)
  | mutation (route : Route) (req : HttpRequest)
  | elapse (ms : ℕ)

/-- What a call ends with. -/
inductive BackendResult where
  | verdict (v : Verdict)
  | response (r : RunResult)
  | elapsed

structure BackendConfig extends SecurityConfig where
  lib : TokenLibrary
  sha256 : String → String

namespace BackendCall

def program (config : BackendConfig) : BackendCall → Serving BackendResult
  | .message m => .verdict <$> PubSubSubscriber.receive config.toSecurityConfig m
  | .mutation route req =>
    .response <$> GearshPayments.mutation config.lib config.toSecurityConfig config.sha256 route req
  | .elapse ms => (fun _ ↦ .elapsed) <$> GearshPayments.elapse ms

/-- Any number of calls, when Redis is empty and nothing has been processed. -/
def pool (config : BackendConfig) (clock : ℕ) (calls : List BackendCall) :
    Resumption.Pool Backend BackendRequest BackendReply (Serving BackendResult) where
  store := ⟨clock, .empty, []⟩
  threads := calls.map (program config)
  log := []

end BackendCall

namespace Sample

def sessionClaims : RawClaims :=
  ⟨"admin", some ["ADMIN"], some "s-1", "auth", "gearsh", 0, 900, "t-1"⟩

/-- One token, which is good for 900 seconds. -/
def verify (now : ℕ) (token : Option String) : Except TokenInfo RawClaims :=
  if token = some "token" ∧ now < 900000 then .ok sessionClaims
  else .error ⟨"TokenExpiredError", "jwt expired"⟩

def backend : BackendConfig where
  internalServiceToken := none
  accessTtlSeconds := 900
  lib := ⟨verify, fun _ _ ↦ false⟩
  sha256 := id

theorem verify_eq_ok {now : ℕ} {token : Option String} {claims : RawClaims}
    (h : verify now token = .ok claims) : now < 900000 ∧ claims = sessionClaims := by
  unfold verify at h
  split at h
  · next hvalid =>
      cases h
      exact ⟨hvalid.2, rfl⟩
  · cases h

def adminRoute : Route := ⟨false, false, [], true⟩

def adminRequest : HttpRequest :=
  ⟨"POST", some "token", none, "/v1/admin/release", some "k", "{}"⟩

end Sample

end GearshPayments
