import GearshPayments.Problem
import GearshPayments.Resumption.Basic
import Mathlib.Logic.Function.Basic

/-!
# The idempotency service

`idempotency.service.ts`: a request that names an idempotency key looks the key up in the
cache; if something is stored there, it is answered from it, and if not, it runs its work
and stores the response.  The time to live of an entry is left out.

The body of a request and the body of a response are given as the JSON texts that
`JSON.stringify` makes of them.
-/

namespace GearshPayments

/-- An entry of the cache. -/
structure StoredResponse where
  bodyHash : String
  status : ℕ
  body : String
deriving DecidableEq

/-- What the wrapped work returns. -/
structure WorkResult where
  status : ℕ
  body : String
deriving DecidableEq

/-- What a request is answered. -/
structure RunResult extends WorkResult where
  replayed : Bool
deriving DecidableEq

structure RunParams where
  endpoint : String
  userId : String
  idempotencyKey : Option String
  /-- `JSON.stringify(requestBody ?? null)`. -/
  requestBody : String

/-- The cache, with a count of the lookups that found nothing and of the executions that were
started, which nobody reads. -/
structure Cache where
  redis : String → Option StoredResponse
  misses : ℕ
  executions : ℕ

/-- A program of a request.  The question is how its work ends. -/
abbrev CacheProgram (α : Type) := Resumption Cache Unit WorkResult Failure α

namespace RedisService

/-- The action of `get`. -/
def lookup (key : String) (s : Cache) : Cache :=
  if s.redis key = none then { s with misses := s.misses + 1 } else s

def get (key : String) : CacheProgram (Option StoredResponse) :=
  .atomic (lookup key) fun
    | .error e => .throw e
    | .ok s => .ret (s.redis key)

/-- The action of `set`. -/
def store (key : String) (stored : StoredResponse) (s : Cache) : Cache :=
  { s with redis := Function.update s.redis key (some stored) }

def set (key : String) (stored : StoredResponse) : CacheProgram Unit :=
  .atomic (store key stored) fun
    | .error e => .throw e
    | .ok _ => .ret ()

end RedisService

/-- Work that succeeds: it starts, and it ends with a result. -/
def work : CacheProgram WorkResult :=
  .atomic (fun s ↦ { s with executions := s.executions + 1 }) fun
    | .error e => .throw e
    | .ok _ => .ask () .ret

namespace IdempotencyService

def key (endpoint userId idempotencyKey : String) : String :=
  s!"idem:{endpoint}:{userId}:{idempotencyKey}"

def mismatch : Failure :=
  Failure.withDetail .idempotencyKeyMismatch
    "This idempotency key was used with a different request body."

/-- Run the work at most once for a key; `sha256` is the digest in hexadecimal digits. -/
def run (sha256 : String → String) (params : RunParams) (work : CacheProgram WorkResult) :
    CacheProgram RunResult := do
  let idempotencyKey := params.idempotencyKey.getD ""
  if idempotencyKey = "" then
    let fresh ← work
    return { fresh with replayed := false }
  let redisKey := key params.endpoint params.userId idempotencyKey
  let bodyHash := sha256 params.requestBody
  match ← RedisService.get redisKey with
  | some stored =>
    if stored.bodyHash ≠ bodyHash then throw mismatch
    return { status := stored.status, body := stored.body, replayed := true }
  | none =>
    let result ← work
    RedisService.set redisKey { bodyHash, status := result.status, body := result.body }
    return { result with replayed := false }

end IdempotencyService

end GearshPayments
