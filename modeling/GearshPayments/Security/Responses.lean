import GearshPayments.Resumption.History
import GearshPayments.Resumption.Monitor
import GearshPayments.Security.Traffic

/-!
# Where a response comes from

A request under an idempotency key may be answered from Redis, with a response that another
request has stored there.  Whatever shares the server with it, such a response is the result of
work that was done in the name of the same user, for the same endpoint and key, and for a body of
the same hash; every other response is the result of the only work of its request
(`responses_have_origin`).  Both users have passed the guards of their routes (`Authorized`).
-/

namespace GearshPayments

open Resumption

/-- The token of the request belongs to the user, and the route is open to the user. -/
structure Authorized (lib : TokenLibrary) (route : Route) (req : HttpRequest) (user : AuthUser) :
    Prop where
  notPublic : route.isPublic = false
  notInternal : route.isInternalService = false
  token : ∃ now claims, lib.verify now req.bearer = .ok claims ∧ user = JwtStrategy.validate claims
  roles : route.roles = [] ∨ ∃ role ∈ route.roles, role ∈ user.roles
  staff : route.adminOnly = true →
    AdminGuard.full user = true ∨ AdminGuard.staffRead req.method user = true

/-! ## The guards -/

section Guards

variable {V : Type} {M : Monitor Backend BackendRequest BackendReply V} {v : V}
  {lib : TokenLibrary} {config : SecurityConfig} {route : Route} {req : HttpRequest}

theorem conforms_internalServiceGuard (hw : ∀ s, M.Writes v s s v) :
    Conforms M (InternalServiceGuard.canActivate lib config route req) v
      (Returns v fun _ ↦ True) := by
  unfold InternalServiceGuard.canActivate
  split
  · exact .ret_returns trivial
  · dsimp only
    split
    · exact .throw_returns
    · split
      · exact .ret_returns trivial
      · refine .read_bind hw (fun s _ ↦ ?_) fun e ↦ .error e
        split
        · exact .ret_returns trivial
        · exact .throw_returns

theorem conforms_jwtAuthGuard (hw : ∀ s, M.Writes v s s v) :
    Conforms M (JwtAuthGuard.canActivate lib route req) v (Returns v fun user ↦
      ∀ u, user = some u → route.isPublic = false ∧ route.isInternalService = false ∧
        ∃ now claims, lib.verify now req.bearer = .ok claims ∧
          u = JwtStrategy.validate claims) := by
  unfold JwtAuthGuard.canActivate
  split
  · exact .ret_returns nofun
  · next hroute =>
      rw [not_or, Bool.not_eq_true, Bool.not_eq_true] at hroute
      refine .read_bind hw (fun s _ ↦ ?_) fun e ↦ .error e
      rw [map_eq_pure_bind]
      refine .ofExcept_bind (fun u hu ↦ .ret_returns fun u' hu' ↦ ?_) fun e ↦ .error e
      cases hu'
      refine ⟨hroute.1, hroute.2, s.clock, ?_⟩
      cases hverify : lib.verify s.clock req.bearer with
      | ok claims =>
          rw [hverify] at hu
          cases hu
          exact ⟨claims, rfl, rfl⟩
      | error info =>
          rw [hverify, JwtAuthGuard.handleRequest] at hu
          split at hu
          · cases hu
          · cases hu

theorem roles_of_canActivate {required : List String} {user : AuthUser}
    (h : RolesGuard.canActivate required (some user) = .ok ()) :
    required = [] ∨ ∃ role ∈ required, role ∈ user.roles := by
  unfold RolesGuard.canActivate at h
  split at h
  · next hempty => exact .inl hempty
  · dsimp only at h
    split at h
    · next hany =>
        obtain ⟨role, hrole, huser⟩ := List.any_eq_true.mp hany
        exact .inr ⟨role, hrole, of_decide_eq_true huser⟩
    · cases h

theorem conforms_adminGuard (hw : ∀ s, M.Writes v s s v) {method : String}
    {user : Option AuthUser} :
    Conforms M (AdminGuard.canActivate method user) v (Returns v fun _ ↦
      ∀ u, user = some u → AdminGuard.full u = true ∨ AdminGuard.staffRead method u = true) := by
  unfold AdminGuard.canActivate
  split
  · exact .throw_returns
  · next u =>
      split
      · exact .throw_returns
      · next hstaff =>
          have hopen : ∀ u', some u = some u' →
              AdminGuard.full u' = true ∨ AdminGuard.staffRead method u' = true := by
            rintro u' hu'
            cases hu'
            rw [not_and_or, Bool.not_eq_false, Bool.not_eq_false] at hstaff
            exact hstaff
          split
          · exact .ret_returns hopen
          · refine .tryCatch (?_ : Conforms M _ v (Returns v fun _ ↦ True)) ?_ ?_
            · refine .read_bind hw (fun s _ ↦ ?_) fun e ↦ .error e
              split
              · exact .throw_returns
              · exact .ret_returns trivial
            · rintro v' a ⟨rfl, -⟩
              exact .ok hopen
            · rintro v' e ⟨rfl, -⟩
              split
              · exact .throw_returns
              · exact .ret_returns hopen

/-- Whom the guards let through. -/
theorem conforms_authorize (hw : ∀ s, M.Writes v s s v) :
    Conforms M (authorize lib config route req) v
      (Returns v fun user ↦ ∀ u, user = some u → Authorized lib route req u) := by
  unfold authorize
  refine .bind_returns (conforms_internalServiceGuard hw) (fun _ _ ↦ ?_) .error
  refine .bind_returns (conforms_jwtAuthGuard hw) (fun user huser ↦ ?_) .error
  refine .ofExcept_bind (fun _ hroles ↦ ?_) .error
  have hauthorized : ∀ u, user = some u → (route.adminOnly = true →
      AdminGuard.full u = true ∨ AdminGuard.staffRead req.method u = true) →
      Authorized lib route req u := by
    rintro u rfl hstaff
    obtain ⟨hpublic, hinternal, htoken⟩ := huser u rfl
    exact ⟨hpublic, hinternal, htoken, roles_of_canActivate hroles, hstaff⟩
  dsimp only
  split
  · refine .bind_returns (conforms_adminGuard hw) (fun _ hstaff ↦ ?_) .error
    exact .ret_returns fun u hu ↦ hauthorized u hu fun _ ↦ hstaff u hu
  · next hadmin => exact .ret_returns fun u hu ↦ hauthorized u hu fun h ↦ absurd h hadmin

end Guards

/-! ## What a call may do -/

/-- How far a call has got. -/
inductive RequestProgress where
  | start
  /-- A response was found under the key. -/
  | found (key : String) (stored : StoredResponse)
  /-- The work was done in the name of the user. -/
  | worked (user : AuthUser) (reply : BackendReply)

structure Caller where
  call : BackendCall
  progress : RequestProgress

/-- The entry that a request looks up. -/
def HttpRequest.entryKey (req : HttpRequest) (user : AuthUser) : String :=
  IdempotencyService.key req.endpoint user.sub (req.idempotencyKey.getD "")

namespace Caller

/-- Nobody stores a response but the request that has done the work. -/
inductive Writes (config : BackendConfig) : Caller → Backend → Backend → Caller → Prop
  | idle {v : Caller} {s s' : Backend} (kept : ∀ key stored expiry,
      s'.redis.entry key = some (.response stored, expiry) →
      s.redis.entry key = some (.response stored, expiry)) : Writes config v s s' v
  | found {c : BackendCall} {s : Backend} {key : String} {stored : StoredResponse}
      (h : s.redis.get s.clock key = some (.response stored)) :
      Writes config ⟨c, .start⟩ s s ⟨c, .found key stored⟩
  | store {route : Route} {req : HttpRequest} {user : AuthUser} {reply : BackendReply}
      {result : WorkResult} {s : Backend} (h : reply.toWork = .ok result) :
      Writes config ⟨.mutation route req, .worked user reply⟩ s
        (Redis.stored (req.entryKey user)
          (.response ⟨config.sha256 req.requestBody, result.status, result.body⟩)
          TimedIdempotencyService.ttlSeconds s)
        ⟨.mutation route req, .worked user reply⟩

/-- A request asks for its work once, in the name of a user that the guards let through. -/
inductive Asks (config : BackendConfig) :
    Caller → BackendRequest → BackendReply → Caller → Prop
  | handle {m : Option RawEnvelope} {consumer : String} {event : CloudEvent} {a : BackendReply} :
      Asks config ⟨.message m, .start⟩ (.handle consumer event) a ⟨.message m, .start⟩
  | work {route : Route} {req : HttpRequest} {user : AuthUser} {a : BackendReply}
      (h : Authorized config.lib route req user) :
      Asks config ⟨.mutation route req, .start⟩ (.work req.endpoint user.sub req.requestBody) a
        ⟨.mutation route req, .worked user a⟩

def monitor (config : BackendConfig) : Monitor Backend BackendRequest BackendReply Caller where
  Knows _ _ := True
  Writes := Writes config
  Asks := Asks config

/-- The response is the result of the work, or was found. -/
inductive Serves (config : BackendConfig) (req : HttpRequest) (user : AuthUser) :
    RequestProgress → RunResult → Prop
  | fresh {reply : BackendReply} {result : WorkResult} (h : reply.toWork = .ok result) :
      Serves config req user (.worked user reply) { result with replayed := false }
  | replayed {stored : StoredResponse} (hkey : req.idempotencyKey.getD "" ≠ "")
      (hhash : stored.bodyHash = config.sha256 req.requestBody) :
      Serves config req user (.found (req.entryKey user) stored)
        { status := stored.status, body := stored.body, replayed := true }

/-- What a request that returns was answered. -/
def Answers (config : BackendConfig) (v : Caller) (r : Except Failure BackendResult) : Prop :=
  ∀ route req result, v.call = .mutation route req → r = .ok (.response result) →
    ∃ user, Authorized config.lib route req user ∧ Serves config req user v.progress result

variable {config : BackendConfig} {v : Caller}

theorem writes_refl (s : Backend) : Writes config v s s v := .idle fun _ _ _ h ↦ h

/-- What is no response replaces one or leaves all as they are. -/
theorem writes_text (key text : String) (ttl : ℕ) (s : Backend) :
    Writes config v s (Redis.stored key (.text text) ttl s) v := by
  refine .idle fun key' stored expiry hentry ↦ ?_
  rcases Expiring.entry_set_eq_some hentry with ⟨-, hx⟩ | ⟨-, hbefore⟩
  · cases hx
  · exact hbefore

/-! ### Deliveries and the time -/

theorem conforms_handle {m : Option RawEnvelope} {event : CloudEvent} {handler : EventHandler}
    (hmem : handler ∈ eventHandlers config.toSecurityConfig) :
    Conforms (monitor config) (handler.handle event) ⟨.message m, .start⟩
      (Returns ⟨.message m, .start⟩ fun _ ↦ True) := by
  have helsewhere (consumer : String) (handles : String → Bool) :
      Conforms (monitor config) ((EventHandler.elsewhere consumer handles).handle event)
        ⟨.message m, .start⟩ (Returns ⟨.message m, .start⟩ fun _ ↦ True) := by
    intro a
    refine ⟨_, .handle, ?_⟩
    change Conforms _ (Resumption.ofExcept a.toHandled) _ _
    cases a.toHandled with
    | ok _ => exact .ret_returns trivial
    | error e => exact .throw_returns
  simp only [eventHandlers, List.mem_cons, List.not_mem_nil, or_false] at hmem
  rcases hmem with rfl | rfl | rfl
  · refine .ofExcept_bind (fun _ _ ↦ ?_) .error
    split
    · exact .ret_returns trivial
    · refine .transaction writes_refl (fun s _ s' _ h ↦ ?_) .error
      cases h
      exact ⟨_, writes_text _ _ _ s, .ok trivial⟩
  · exact helsewhere _ _
  · exact helsewhere _ _

theorem conforms_dispatchTo {m : Option RawEnvelope} {event : CloudEvent}
    {handlers : List EventHandler} (hsub : handlers ⊆ eventHandlers config.toSecurityConfig) :
    Conforms (monitor config) (PubSubSubscriber.dispatchTo event handlers) ⟨.message m, .start⟩
      (Returns ⟨.message m, .start⟩ fun _ ↦ True) := by
  induction handlers with
  | nil => exact .ret_returns trivial
  | cons handler rest ih =>
      obtain ⟨hmem, hrest⟩ := List.cons_subset.mp hsub
      refine Conforms.bind_returns (P := fun _ ↦ True) ?_ (fun first _ ↦ ?_) .error
      · refine .transaction writes_refl (fun s _ s' _ h ↦ ?_) .error
        cases h
        exact ⟨_, .idle fun _ _ _ h ↦ h, .ok trivial⟩
      · dsimp only
        split
        · exact .bind_returns (conforms_handle hmem) (fun _ _ ↦ ih hrest) .error
        · exact ih hrest

theorem conforms_receive (m : Option RawEnvelope) :
    Conforms (monitor config) (PubSubSubscriber.receive config.toSecurityConfig m)
      ⟨.message m, .start⟩ (Returns ⟨.message m, .start⟩ fun _ ↦ True) := by
  unfold PubSubSubscriber.receive
  split
  · exact .ret_returns trivial
  · dsimp only
    split
    · exact .ret_returns trivial
    · refine .tryCatch ?_ (fun _ _ h ↦ h) ?_
      · refine .bind_returns (conforms_dispatchTo List.filter_sublist.subset) (fun _ _ ↦ ?_) .error
        exact .ret_returns trivial
      · rintro v' e ⟨rfl, -⟩
        exact .ret_returns trivial

/-! ### Requests -/

variable {route : Route} {req : HttpRequest} {user : AuthUser}

theorem conforms_workOf (hauthorized : Authorized config.lib route req user)
    (key : Option String) :
    Conforms (monitor config) (workOf ⟨req.endpoint, user.sub, key, req.requestBody⟩)
      ⟨.mutation route req, .start⟩
      fun v' r ↦ ∃ reply, v' = ⟨.mutation route req, .worked user reply⟩ ∧ r = reply.toWork := by
  intro a
  refine ⟨_, .work hauthorized, ?_⟩
  change Conforms _ (Resumption.ofExcept a.toWork) _ _
  cases hwork : a.toWork with
  | ok result => exact ⟨a, rfl, hwork.symm⟩
  | error e => exact ⟨a, rfl, hwork.symm⟩

theorem conforms_timedRun (hauthorized : Authorized config.lib route req user) :
    let params : RunParams := ⟨req.endpoint, user.sub, req.idempotencyKey, req.requestBody⟩
    Conforms (monitor config) (TimedIdempotencyService.run config.sha256 params (workOf params))
      ⟨.mutation route req, .start⟩
      fun v' r ↦ v'.call = .mutation route req ∧
        ∀ result, r = .ok result → Serves config req user v'.progress result := by
  intro params
  have herror (v' : Caller) (e : Failure) (hv' : v'.call = .mutation route req) :
      v'.call = .mutation route req ∧ ∀ result, (.error e : Except Failure RunResult) = .ok result →
        Serves config req user v'.progress result := ⟨hv', nofun⟩
  unfold TimedIdempotencyService.run
  dsimp only
  split
  · refine .bind (conforms_workOf hauthorized _) ?_ ?_
    · rintro v' result ⟨reply, rfl, hwork⟩
      refine ⟨rfl, fun r hr ↦ ?_⟩
      cases hr
      exact .fresh hwork.symm
    · rintro v' e ⟨reply, rfl, -⟩
      exact herror _ e rfl
  · next hkey =>
      refine .read_bind_to (fun s _ ↦ ?_) fun e ↦ herror _ e rfl
      cases hget : s.redis.get s.clock (IdempotencyService.key req.endpoint user.sub
          (req.idempotencyKey.getD "")) with
      | none =>
          refine ⟨_, writes_refl s, .bind (conforms_workOf hauthorized _) ?_ ?_⟩
          · rintro v' result ⟨reply, rfl, hwork⟩
            have hstore : Conforms (monitor config)
                (Redis.set (req.entryKey user)
                  (.response ⟨config.sha256 req.requestBody, result.status, result.body⟩)
                  TimedIdempotencyService.ttlSeconds)
                ⟨.mutation route req, .worked user reply⟩
                (Returns ⟨.mutation route req, .worked user reply⟩ fun _ ↦ True) := by
              refine .transaction writes_refl (fun s' _ s'' _ h ↦ ?_) .error
              cases h
              exact ⟨_, .store hwork.symm, .ok trivial⟩
            refine hstore.bind_returns (fun _ _ ↦ ⟨rfl, fun r hr ↦ ?_⟩) fun e ↦ herror _ e rfl
            cases hr
            exact .fresh hwork.symm
          · rintro v' e ⟨reply, rfl, -⟩
            exact herror _ e rfl
      | some value =>
          cases value with
          | text t => exact ⟨_, writes_refl s, herror _ _ rfl⟩
          | response stored =>
              refine ⟨_, .found hget, ?_⟩
              dsimp only
              split
              · exact herror _ _ rfl
              · next hhash =>
                  refine ⟨rfl, fun r hr ↦ ?_⟩
                  cases hr
                  exact .replayed hkey (not_not.mp hhash)

/-- What each call is answered. -/
theorem conforms_program (c : BackendCall) :
    Conforms (monitor config) (c.program config) ⟨c, .start⟩ (Answers config) := by
  cases c with
  | message m =>
      refine .map ((conforms_receive m).mono ?_)
      rintro v' r ⟨rfl, -⟩ route req result hcall
      cases hcall
  | elapse ms =>
      refine .map (.transaction writes_refl (fun s _ s' _ h ↦ ?_) fun e ↦ nofun)
      cases h
      refine ⟨⟨.elapse ms, .start⟩, .idle fun _ _ _ h ↦ h, ?_⟩
      rintro route req result hcall
      cases hcall
  | mutation route req =>
      have hmutation : Conforms (monitor config)
          (GearshPayments.mutation config.lib config.toSecurityConfig config.sha256 route req)
          ⟨.mutation route req, .start⟩ fun v' r ↦ v'.call = .mutation route req ∧
            ∀ result, r = .ok result → ∃ user, Authorized config.lib route req user ∧
              Serves config req user v'.progress result := by
        refine .bind_returns (conforms_authorize writes_refl) (fun user huser ↦ ?_)
          fun e ↦ ⟨rfl, nofun⟩
        split
        · exact ⟨rfl, nofun⟩
        · next u =>
            refine (conforms_timedRun (huser u rfl)).mono ?_
            rintro v' r ⟨hcall, hserves⟩
            exact ⟨hcall, fun result hr ↦ ⟨u, huser u rfl, hserves result hr⟩⟩
      refine .map (hmutation.mono ?_)
      rintro v' r ⟨hcall, hserves⟩ route' req' result hcall' hr
      rw [hcall] at hcall'
      cases hcall'
      cases r with
      | error e => cases hr
      | ok result' =>
          cases hr
          exact hserves _ rfl

end Caller

/-! ## Any traffic -/

/-- The call has run the work of its request once, in the name of the user, with the result. -/
structure HasWorked (config : BackendConfig) (calls : List BackendCall)
    (log : List (ℕ × BackendRequest × BackendReply)) (k : ℕ) (req : HttpRequest) (user : AuthUser)
    (result : WorkResult) : Prop where
  call : ∃ route, calls[k]? = some (.mutation route req) ∧ Authorized config.lib route req user
  exchanges : ∃ reply, Pool.exchanges log k =
      [(.work req.endpoint user.sub req.requestBody, reply)] ∧ reply.toWork = .ok result

/-- The response stored under the key comes from a request that has done its work. -/
def Provided (config : BackendConfig) (calls : List BackendCall)
    (log : List (ℕ × BackendRequest × BackendReply)) (key : String) (stored : StoredResponse) :
    Prop :=
  ∃ k req user, HasWorked config calls log k req user ⟨stored.status, stored.body⟩ ∧
    key = req.entryKey user ∧ stored.bodyHash = config.sha256 req.requestBody

/-- What the request has asked. -/
def RequestProgress.exchanges (req : HttpRequest) :
    RequestProgress → List (BackendRequest × BackendReply)
  | .start | .found _ _ => []
  | .worked user reply => [(.work req.endpoint user.sub req.requestBody, reply)]

section Accounting

variable {config : BackendConfig} {calls : List BackendCall} {s s' : Backend} {vs : List Caller}
  {log log' : List (ℕ × BackendRequest × BackendReply)} {key : String} {stored : StoredResponse}
  {i : ℕ} {v v' : Caller}

/-- Two keys that are given and read the same are the same. -/
theorem eq_of_getD_eq {x y : Option String} (h : x.getD "" = y.getD "") (hy : y.getD "" ≠ "") :
    x = y := by
  cases x with
  | none => exact absurd h.symm hy
  | some a =>
      cases y with
      | none => exact absurd rfl hy
      | some b => exact congrArg some h

/-- A request that has done its work asks nothing more. -/
theorem Provided.mono (h : Provided config calls log key stored)
    (hlog : ∀ (k : ℕ) route req, calls[k]? = some (.mutation route req) →
      Pool.exchanges log k ≠ [] → Pool.exchanges log' k = Pool.exchanges log k) :
    Provided config calls log' key stored := by
  obtain ⟨k, req, user, ⟨⟨route, hcall, hauthorized⟩, reply, hexchanges, hreply⟩, hkey⟩ := h
  refine ⟨k, req, user, ⟨⟨route, hcall, hauthorized⟩, reply, ?_, hreply⟩, hkey⟩
  rw [hlog k route req hcall (by rw [hexchanges]; exact List.cons_ne_nil _ _)]
  exact hexchanges

/-- The log agrees with how far the call has got. -/
structure Caller.Accounted (config : BackendConfig) (calls : List BackendCall)
    (log : List (ℕ × BackendRequest × BackendReply)) (i : ℕ) (v : Caller) : Prop where
  call : calls[i]? = some v.call
  exchanges : ∀ route req, v.call = .mutation route req →
    Pool.exchanges log i = v.progress.exchanges req
  authorized : ∀ route req user reply, v = ⟨.mutation route req, .worked user reply⟩ →
    Authorized config.lib route req user
  found : ∀ key stored, v.progress = .found key stored → Provided config calls log key stored

theorem Caller.Accounted.mono (h : v.Accounted config calls log i)
    (hself : Pool.exchanges log' i = Pool.exchanges log i)
    (hlog : ∀ (k : ℕ) route req, calls[k]? = some (.mutation route req) →
      Pool.exchanges log k ≠ [] → Pool.exchanges log' k = Pool.exchanges log k) :
    v.Accounted config calls log' i where
  call := h.call
  exchanges := fun route req hcall ↦ hself.trans (h.exchanges route req hcall)
  authorized := h.authorized
  found := fun key stored hfound ↦ (h.found key stored hfound).mono hlog

/-- All calls are accounted for, and so is every stored response. -/
structure Accounted (config : BackendConfig) (calls : List BackendCall) (s : Backend)
    (vs : List Caller) (log : List (ℕ × BackendRequest × BackendReply)) : Prop where
  callers : ∀ (i : ℕ) v, vs[i]? = some v → v.Accounted config calls log i
  stored : ∀ key stored expiry, s.redis.entry key = some (.response stored, expiry) →
    Provided config calls log key stored

namespace Accounted

theorem start (config : BackendConfig) (clock : ℕ) (calls : List BackendCall) :
    Accounted config calls (BackendCall.pool config clock calls).store
      (calls.map (⟨·, .start⟩)) [] where
  callers := by
    intro i v hv
    rw [List.getElem?_map] at hv
    obtain ⟨c, hc, rfl⟩ := Option.map_eq_some_iff.mp hv
    refine ⟨hc, fun _ _ _ ↦ rfl, fun _ _ _ _ hv ↦ ?_, fun _ _ hfound ↦ ?_⟩
    · cases hv
    · cases hfound
  stored := by
    intro key stored expiry h
    cases h

theorem writes (h : Accounted config calls s vs log) (hi : vs[i]? = some v)
    (hw : Caller.Writes config v s s' v') : Accounted config calls s' (vs.set i v') log := by
  have hsame : vs.set i v = vs := by
    obtain ⟨hlt, rfl⟩ := List.getElem?_eq_some_iff.mp hi
    exact List.set_getElem_self hlt
  have hself := h.callers i v hi
  cases hw with
  | idle kept =>
      rw [hsame]
      exact ⟨h.callers, fun key stored expiry hentry ↦
        h.stored key stored expiry (kept key stored expiry hentry)⟩
  | found hget =>
      obtain ⟨expiry, hentry, -⟩ := Expiring.get_eq_some_iff.mp hget
      refine ⟨Pool.forall_set h.callers ⟨hself.call, hself.exchanges, ?_, ?_⟩, h.stored⟩
      · intro route req user reply hv
        cases hv
      · intro key stored hfound
        cases hfound
        exact h.stored _ _ expiry hentry
  | @store route req user reply result _ hreply =>
      rw [hsame]
      refine ⟨h.callers, fun key stored expiry hentry ↦ ?_⟩
      rcases Expiring.entry_set_eq_some hentry with ⟨rfl, hx⟩ | ⟨-, hbefore⟩
      · cases hx
        exact ⟨i, req, user, ⟨⟨route, hself.call, hself.authorized route req user reply rfl⟩, reply,
          hself.exchanges route req rfl, hreply⟩, rfl, rfl⟩
      · exact h.stored key stored expiry hbefore

theorem asks {q : BackendRequest} {a : BackendReply} (h : Accounted config calls s vs log)
    (hi : vs[i]? = some v) (hx : Caller.Asks config v q a v') :
    Accounted config calls s (vs.set i v') (log ++ [(i, q, a)]) := by
  have hself := h.callers i v hi
  -- the thread that asks is no request that has asked before
  have hlog : ∀ (k : ℕ) route req, calls[k]? = some (.mutation route req) →
      Pool.exchanges log k ≠ [] →
      Pool.exchanges (log ++ [(i, q, a)]) k = Pool.exchanges log k := by
    intro k route req hcall hasked
    refine Pool.exchanges_append_of_ne _ (fun hk ↦ ?_) _
    subst hk
    cases hx with
    | handle => cases hself.call.symm.trans hcall
    | work _ => exact hasked (hself.exchanges _ _ rfl)
  refine ⟨Pool.forall_set_of_ne (fun j w hj hw ↦ ?_) ?_, fun key stored expiry hentry ↦
    (h.stored key stored expiry hentry).mono hlog⟩
  · exact (h.callers j w hw).mono (Pool.exchanges_append_of_ne _ hj _) hlog
  · cases hx with
    | handle =>
        refine ⟨hself.call, fun _ _ hcall ↦ ?_, fun _ _ _ _ hv ↦ ?_, fun _ _ hfound ↦ ?_⟩
        · cases hcall
        · cases hv
        · cases hfound
    | @work route req user _ hauthorized =>
        refine ⟨hself.call, ?_, ?_, ?_⟩
        · rintro route' req' hcall
          cases hcall
          rw [Pool.exchanges_append_self, hself.exchanges route req rfl]
          rfl
        · rintro route' req' user' reply hv
          cases hv
          exact hauthorized
        · rintro key stored hfound
          cases hfound

end Accounted

/-- In any traffic, the calls are accounted for, and what they return is what they were answered. -/
theorem accounted_run (config : BackendConfig) (clock : ℕ) (calls : List BackendCall)
    (ts : List (Turn BackendReply Failure)) :
    ∃ vs, Pool.Conforming (Caller.monitor config) (Caller.Answers config)
        (Pool.run next (BackendCall.pool config clock calls) ts).threads vs ∧
      Accounted config calls (Pool.run next (BackendCall.pool config clock calls) ts).store vs
        (Pool.run next (BackendCall.pool config clock calls) ts).log := by
  refine Pool.conforming_run (D := fun _ _ _ ↦ True) (J := Accounted config calls)
    (fun _ _ ↦ trivial) (fun hJ hi hw _ ↦ hJ.writes hi hw) (fun hJ hi hx ↦ hJ.asks hi hx) ?_
    (.start config clock calls) (.of_forall (fun _ _ ↦ trivial) _ ts)
  intro i p hp
  obtain ⟨c, hc, rfl⟩ := Option.map_eq_some_iff.mp ((List.getElem?_map ..).symm.trans hp)
  refine ⟨⟨c, .start⟩, ?_, Caller.conforms_program c⟩
  rw [List.getElem?_map, hc]
  rfl

end Accounting

/-- Every response is the result of the only work of its request, or, replayed, of that of another
request of the same user, for the same endpoint, with the same key and a body of the same hash. -/
theorem responses_have_origin (config : BackendConfig) (clock : ℕ) (calls : List BackendCall)
    (ts : List (Turn BackendReply Failure))
    (hendpoint : ∀ route req, .mutation route req ∈ calls → ':' ∉ req.endpoint.toList)
    (hsub : ∀ now token claims, config.lib.verify now token = .ok claims →
      ':' ∉ claims.sub.toList) {j : ℕ} {route : Route} {req : HttpRequest} {r : RunResult} :
    let P := Pool.run next (BackendCall.pool config clock calls) ts
    calls[j]? = some (.mutation route req) → P.threads[j]? = some (.ret (.response r)) →
    ∃ user, Authorized config.lib route req user ∧
      (r.replayed = false → HasWorked config calls P.log j req user r.toWorkResult) ∧
      (r.replayed = true → Pool.exchanges P.log j = [] ∧ ∃ k req' user',
        HasWorked config calls P.log k req' user' r.toWorkResult ∧
        req'.endpoint = req.endpoint ∧ user'.sub = user.sub ∧
        req'.idempotencyKey = req.idempotencyKey ∧
        config.sha256 req'.requestBody = config.sha256 req.requestBody) := by
  intro P hj hr
  obtain ⟨vs, hconforming, hcallers, -⟩ := accounted_run config clock calls ts
  obtain ⟨v, hv, hanswers⟩ := hconforming j _ hr
  have hself := hcallers j v hv
  have hcall : v.call = .mutation route req := Option.some.inj (hself.call.symm.trans hj)
  obtain ⟨user, hauthorized, hserves⟩ := hanswers route req r hcall rfl
  have hexchanges := hself.exchanges route req hcall
  refine ⟨user, hauthorized, ?_⟩
  generalize hprogress : v.progress = p at hserves hexchanges
  cases hserves with
  | @fresh reply result hreply =>
      exact ⟨fun _ ↦ ⟨⟨route, hj, hauthorized⟩, reply, hexchanges, hreply⟩, nofun⟩
  | @replayed stored hkey hhash =>
      refine ⟨nofun, fun _ ↦ ⟨hexchanges, ?_⟩⟩
      obtain ⟨k, req', user', hworked, hsame, hhash'⟩ := hself.found _ stored hprogress
      obtain ⟨route', hk, hauthorized'⟩ := hworked.call
      have hcolon : ∀ {route req user}, Authorized config.lib route req user →
          ':' ∉ user.sub.toList := by
        intro route req user h
        obtain ⟨now, claims, hverify, rfl⟩ := h.token
        exact hsub now _ claims hverify
      obtain ⟨he, hu, hk'⟩ := IdempotencyService.key_inj
        (hendpoint route req (List.mem_of_getElem? hj))
        (hendpoint route' req' (List.mem_of_getElem? hk)) (hcolon hauthorized)
        (hcolon hauthorized') hsame
      refine ⟨k, req', user', hworked, he.symm, hu.symm, ?_, hhash'.symm.trans hhash⟩
      exact eq_of_getD_eq hk'.symm hkey

namespace Sample

/-- The request is sent twice. -/
def resent : List BackendCall :=
  [.mutation adminRoute adminRequest, .mutation adminRoute adminRequest]

/-- The first request runs its work, and the second finds the response. -/
def answeredTwice : List (Turn BackendReply Failure) :=
  [⟨0, .act⟩, ⟨0, .act⟩, ⟨0, .act⟩, ⟨0, .answer (.work (.ok ⟨200, "{}"⟩))⟩, ⟨0, .act⟩,
    ⟨1, .act⟩, ⟨1, .act⟩, ⟨1, .act⟩]

end Sample

theorem responses_have_origin_sample :
    let P := Pool.run next (BackendCall.pool Sample.backend 1000 Sample.resent) Sample.answeredTwice
    ∃ user, Authorized Sample.backend.lib Sample.adminRoute Sample.adminRequest user ∧
      (true = false → HasWorked Sample.backend Sample.resent P.log 1 Sample.adminRequest user
        ⟨200, "{}"⟩) ∧
      (true = true → Pool.exchanges P.log 1 = [] ∧ ∃ k req' user',
        HasWorked Sample.backend Sample.resent P.log k req' user' ⟨200, "{}"⟩ ∧
        req'.endpoint = Sample.adminRequest.endpoint ∧ user'.sub = user.sub ∧
        req'.idempotencyKey = Sample.adminRequest.idempotencyKey ∧
        Sample.backend.sha256 req'.requestBody =
          Sample.backend.sha256 Sample.adminRequest.requestBody) := by
  refine responses_have_origin Sample.backend 1000 Sample.resent Sample.answeredTwice ?_ ?_
    (r := ⟨⟨200, "{}"⟩, true⟩) rfl rfl
  · intro route req hmem
    simp only [Sample.resent, List.mem_cons, List.not_mem_nil, or_false, or_self,
      BackendCall.mutation.injEq] at hmem
    obtain ⟨rfl, rfl⟩ := hmem
    decide
  · intro now token claims h
    obtain ⟨-, rfl⟩ := Sample.verify_eq_ok h
    decide

end GearshPayments
