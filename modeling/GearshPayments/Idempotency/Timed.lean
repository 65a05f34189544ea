import GearshPayments.Security.Backend

/-!
# The idempotency service and the time to live of its entries

`idempotency.service.ts` once more, over Redis: an entry is gone a day after it was stored, a
lookup or a write may fail, and so may the work.
-/

namespace GearshPayments

namespace TimedIdempotencyService

def ttlSeconds : ℕ := 24 * 60 * 60

/-- Run the work at most once for a key; `sha256` is the digest in hexadecimal digits. -/
def run (sha256 : String → String) (params : RunParams) (work : Serving WorkResult) :
    Serving RunResult := do
  let idempotencyKey := params.idempotencyKey.getD ""
  if idempotencyKey = "" then
    let fresh ← work
    return { fresh with replayed := false }
  let redisKey := IdempotencyService.key params.endpoint params.userId idempotencyKey
  let bodyHash := sha256 params.requestBody
  match ← Redis.get redisKey with
  -- what is no response has no hash
  | some (.text _) => throw IdempotencyService.mismatch
  | some (.response stored) =>
    if stored.bodyHash ≠ bodyHash then throw IdempotencyService.mismatch
    return { status := stored.status, body := stored.body, replayed := true }
  | none =>
    let result ← work
    Redis.set redisKey (.response { bodyHash, status := result.status, body := result.body })
      ttlSeconds
    return { result with replayed := false }

end TimedIdempotencyService

/-- The work of a request. -/
def workOf (params : RunParams) : Serving WorkResult := do
  let reply ← Resumption.query (.work params.endpoint params.userId params.requestBody)
  Resumption.ofExcept reply.toWork

/-! ## Keys -/

/-- What stands before the first of a separator is told apart from the rest. -/
theorem append_sep_inj {α : Type} {sep : α} {x y r r' : List α} (hx : sep ∉ x) (hy : sep ∉ y)
    (h : x ++ sep :: r = y ++ sep :: r') : x = y ∧ r = r' := by
  induction x generalizing y with
  | nil =>
      cases y with
      | nil => exact ⟨rfl, List.cons_injective h⟩
      | cons b y =>
          obtain ⟨rfl, -⟩ := List.cons.inj h
          exact absurd List.mem_cons_self hy
  | cons a x ih =>
      cases y with
      | nil =>
          obtain ⟨rfl, -⟩ := List.cons.inj h
          exact absurd List.mem_cons_self hx
      | cons b y =>
          obtain ⟨rfl, htail⟩ := List.cons.inj h
          rw [List.mem_cons, not_or] at hx hy
          obtain ⟨rfl, hr⟩ := ih hx.2 hy.2 htail
          exact ⟨rfl, hr⟩

/-- Endpoints and users without a colon are told apart by the keys of their entries. -/
theorem IdempotencyService.key_inj {endpoint endpoint' userId userId' key₁ key₂ : String}
    (he : ':' ∉ endpoint.toList) (he' : ':' ∉ endpoint'.toList) (hu : ':' ∉ userId.toList)
    (hu' : ':' ∉ userId'.toList)
    (h : IdempotencyService.key endpoint userId key₁ =
      IdempotencyService.key endpoint' userId' key₂) :
    endpoint = endpoint' ∧ userId = userId' ∧ key₁ = key₂ := by
  change "idem:" ++ endpoint ++ ":" ++ userId ++ ":" ++ key₁ =
    "idem:" ++ endpoint' ++ ":" ++ userId' ++ ":" ++ key₂ at h
  have hlist := congrArg String.toList h
  simp only [String.toList_append, List.append_assoc] at hlist
  obtain ⟨hendpoint, hrest⟩ := append_sep_inj he he' (List.append_cancel_left hlist)
  obtain ⟨huser, hkey⟩ := append_sep_inj hu hu' hrest
  exact ⟨String.toList_injective hendpoint, String.toList_injective huser,
    String.toList_injective hkey⟩

end GearshPayments
