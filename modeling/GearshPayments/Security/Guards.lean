import GearshPayments.JavaScript.Text
import GearshPayments.Security.Backend

/-!
# Guards

`jwt.strategy.ts` and the guards in `common/guards`, in the order in which a request passes them:
the guard of service routes, the guard that verifies the access token, the guard of roles, and the
guard of the administration, which also looks the session up among those that were revoked.  The
libraries that verify tokens are a parameter.
-/

namespace GearshPayments

open JavaScript

/-- The claims of an access token. -/
structure RawClaims where
  sub : String
  roles : Option (List String)
  sid : Option String
  iss : String
  aud : String
  /-- Seconds since the epoch, as `exp`. -/
  iat : ℕ
  exp : ℕ
  jti : String

structure AuthUser where
  sub : String
  roles : List String
  sid : Option String
  iss : String
  aud : String
  iat : ℕ
  exp : ℕ
  jti : String

/-- What the strategy is told about a token that was refused. -/
structure TokenInfo where
  name : String
  message : String

/-- The verification of tokens at a time in milliseconds: of the access token in a request, if it
has one, with its signature, issuer, audience and expiry, and of internal tokens. -/
structure TokenLibrary where
  verify : ℕ → Option String → Except TokenInfo RawClaims
  verifyInternal : ℕ → String → Bool

/-- What the libraries document. -/
structure TokenLibrary.Lawful (lib : TokenLibrary) : Prop where
  /-- A token is refused from the second of its expiry on. -/
  unexpired : ∀ {now token claims}, lib.verify now token = .ok claims → now / 1000 < claims.exp
  /-- The claims of a token do not depend on the time. -/
  claims_eq : ∀ {now now' token claims claims'}, lib.verify now token = .ok claims →
    lib.verify now' token = .ok claims' → claims = claims'

/-- The decorators of a route and of its controller. -/
structure Route where
  isPublic : Bool
  isInternalService : Bool
  roles : List String
  /-- `@UseGuards(AdminGuard)`. -/
  adminOnly : Bool

/-- A request, as far as the guards and the idempotency service read it. -/
structure HttpRequest where
  method : String
  bearer : Option String
  internalServiceToken : Option String
  endpoint : String
  idempotencyKey : Option String
  requestBody : String

structure SecurityConfig where
  internalServiceToken : Option String
  accessTtlSeconds : ℕ

/-- An absent value or an empty text does not count. -/
def present (s : Option String) : Option String := s.filter (· ≠ "")

namespace JwtStrategy

def validate (payload : RawClaims) : AuthUser where
  sub := payload.sub
  roles := payload.roles.getD []
  sid := payload.sid
  iss := payload.iss
  aud := payload.aud
  iat := payload.iat
  exp := payload.exp
  jti := payload.jti

end JwtStrategy

namespace InternalServiceGuard

def canActivate (lib : TokenLibrary) (config : SecurityConfig) (route : Route) (req : HttpRequest) :
    Serving Unit :=
  if route.isInternalService = false then return
  else
    let token := String.ofList (trim (req.internalServiceToken.getD "").toList)
    if token = "" then
      throw (Failure.withDetail .unauthenticated "Missing X-Internal-Service-Token header.")
    else if present config.internalServiceToken = some token then return
    else do
      let now ← Resumption.read Backend.clock
      if lib.verifyInternal now token then return
      else throw (Failure.withDetail .unauthenticated "Invalid X-Internal-Service-Token.")

end InternalServiceGuard

namespace JwtAuthGuard

/-- The user of a verified token, or the problem of one that was refused. -/
def handleRequest : Except TokenInfo RawClaims → Except Failure AuthUser
  | .ok claims => .ok (JwtStrategy.validate claims)
  | .error info =>
    if info.name = "TokenExpiredError" then .error (Failure.ofCode .tokenExpired)
    else .error (Failure.withDetail .unauthenticated info.message)

/-- The user is not looked at on routes that are public or for services. -/
def canActivate (lib : TokenLibrary) (route : Route) (req : HttpRequest) :
    Serving (Option AuthUser) :=
  if route.isPublic ∨ route.isInternalService then return none
  else do
    let now ← Resumption.read Backend.clock
    some <$> Resumption.ofExcept (handleRequest (lib.verify now req.bearer))

end JwtAuthGuard

namespace RolesGuard

def canActivate (required : List String) (user : Option AuthUser) : Except Failure Unit :=
  if required = [] then .ok ()
  else match user with
    | none => .error (Failure.ofCode .unauthenticated)
    | some user =>
      if required.any (· ∈ user.roles) then .ok () else .error (Failure.ofCode .forbidden)

end RolesGuard

/-- Redis key prefix of the sessions that were revoked. -/
def sessionDenylistPrefix : String := "payments:sid:denylist:"

namespace AdminGuard

/-- All of the administration is open to the user. -/
def full (user : AuthUser) : Bool := "ADMIN" ∈ user.roles ∨ "FINANCE" ∈ user.roles

/-- The request only reads, and the user may. -/
def staffRead (method : String) (user : AuthUser) : Bool :=
  method ∈ ["GET", "HEAD"] ∧ ("SUPPORT" ∈ user.roles ∨ "CONTENT_MANAGER" ∈ user.roles)

def revoked : Failure := Failure.withDetail .sessionRevoked "Admin session has been revoked."

/-- The lookup of the session; one that fails lets the request pass. -/
def checkSession (sid : String) : Serving Unit :=
  tryCatchThe Failure
    (do
      let found ← Redis.get (sessionDenylistPrefix ++ sid)
      if found.any RedisValue.truthy then throw revoked)
    fun err ↦ match err with
      | .app e => throw (Failure.app e)
      | _ => return ()

def canActivate (method : String) (user : Option AuthUser) : Serving Unit :=
  match user with
  | none => throw (Failure.ofCode .unauthenticated)
  | some user =>
    if full user = false ∧ staffRead method user = false then throw (Failure.ofCode .adminRequired)
    else match present user.sid with
      | none => return ()
      | some sid => checkSession sid

end AdminGuard

/-- The guards of a route, one after the other. -/
def authorize (lib : TokenLibrary) (config : SecurityConfig) (route : Route) (req : HttpRequest) :
    Serving (Option AuthUser) := do
  InternalServiceGuard.canActivate lib config route req
  let user ← JwtAuthGuard.canActivate lib route req
  Resumption.ofExcept (RolesGuard.canActivate route.roles user)
  if route.adminOnly then AdminGuard.canActivate req.method user
  return user

end GearshPayments
