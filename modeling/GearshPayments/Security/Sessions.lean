import GearshPayments.Resumption.Amid
import GearshPayments.Resumption.Barred
import GearshPayments.Security.Traffic

/-!
# Revoked sessions

The handler of `auth.session.revoked` writes the session to a list in Redis that the guard of the
administration reads.  The entry expires, and so do the tokens of the session; as neither outlives
the other, a token that was issued before its session was revoked opens nothing of the
administration from then on (`revoked_session_is_barred`), unless the lookup of the list fails.
-/

namespace GearshPayments

open Resumption

namespace Backend

/-- The session is denied until the instant at least. -/
def Denied (sid : String) (instant : ℕ) (s : Backend) : Prop :=
  s.redis.Lasting (·.truthy = true) (sessionDenylistPrefix ++ sid) instant

/-- No entry of the list outlives the time to live. -/
def DenylistBounded (ttlSeconds : ℕ) (s : Backend) : Prop :=
  ∀ sid v expiry, s.redis.entry (sessionDenylistPrefix ++ sid) = some (v, expiry) →
    expiry ≤ s.clock + ttlSeconds * 1000

/-- What a change does to the list: time may pass, and sessions stay denied for as long as they
were. -/
structure Ages (ttlSeconds : ℕ) (s s' : Backend) : Prop where
  clock : s.clock ≤ s'.clock
  bounded : s.DenylistBounded ttlSeconds → s'.DenylistBounded ttlSeconds
  denied : s.DenylistBounded ttlSeconds → ∀ sid instant, s.Denied sid instant →
    s'.Denied sid instant

namespace Ages

variable {ttlSeconds : ℕ} {s s' s'' : Backend}

theorem refl (s : Backend) : s.Ages ttlSeconds s := ⟨le_rfl, id, fun _ _ _ h ↦ h⟩

theorem trans (h : s.Ages ttlSeconds s') (h' : s'.Ages ttlSeconds s'') : s.Ages ttlSeconds s'' where
  clock := h.clock.trans h'.clock
  bounded := fun hs ↦ h'.bounded (h.bounded hs)
  denied := fun hs sid instant hd ↦
    h'.denied (h.bounded hs) sid instant (h.denied hs sid instant hd)

/-- A change that leaves Redis as it is. -/
theorem of_redis_eq (hclock : s.clock ≤ s'.clock) (hredis : s'.redis = s.redis) :
    s.Ages ttlSeconds s' where
  clock := hclock
  bounded := by
    intro hs sid v expiry hentry
    rw [hredis] at hentry
    have := hs sid v expiry hentry
    omega
  denied := by
    intro _ sid instant hd
    rw [Denied, hredis]
    exact hd

/-- A write that is not to the list, or to it with its time to live. -/
theorem stored {key : String} {value : RedisValue} {ttl : ℕ}
    (h : ∀ sid, key = sessionDenylistPrefix ++ sid → value.truthy = true ∧ ttl = ttlSeconds) :
    s.Ages ttlSeconds (Redis.stored key value ttl s) where
  clock := le_rfl
  bounded := by
    intro hs sid v expiry hentry
    rcases Expiring.entry_set_eq_some hentry with ⟨hkey, hx⟩ | ⟨-, hbefore⟩
    · obtain ⟨-, rfl⟩ := h sid hkey.symm
      cases hx
      exact le_rfl
    · exact hs sid v expiry hbefore
  denied := by
    intro hs sid instant hd
    obtain ⟨v, expiry, hentry, -, hinstant⟩ := id hd
    refine Expiring.Lasting.set hd fun hkey ↦ ?_
    obtain ⟨htruthy, rfl⟩ := h sid hkey
    exact ⟨htruthy, hinstant.trans (hs sid v expiry hentry)⟩

end Ages

end Backend

/-! ## What the calls do to the list -/

/-- The entries of the idempotency service are not of the list. -/
theorem idempotencyKey_ne (endpoint userId idempotencyKey sid : String) :
    IdempotencyService.key endpoint userId idempotencyKey ≠ sessionDenylistPrefix ++ sid := by
  intro h
  change "idem:" ++ endpoint ++ ":" ++ userId ++ ":" ++ idempotencyKey = _ at h
  have hhead := congrArg (fun s : String ↦ s.toList.head?) h
  simp [sessionDenylistPrefix] at hhead

section Guarantee

variable {config : SecurityConfig} {lib : TokenLibrary} {route : Route} {req : HttpRequest}

theorem guarantees_redisGet {G : Backend → Backend → Prop} (hG : ∀ s, G s s) (key : String) :
    Guarantees (fun _ ↦ True) G (Redis.get key) :=
  guarantees_read (fun s _ ↦ hG s) _

theorem guarantees_readClock {G : Backend → Backend → Prop} (hG : ∀ s, G s s) :
    Guarantees (fun _ ↦ True) G (Resumption.read Backend.clock : Serving ℕ) :=
  guarantees_read (fun s _ ↦ hG s) _

/-- The guards change nothing. -/
theorem guarantees_authorize {G : Backend → Backend → Prop} (hG : ∀ s, G s s) :
    Guarantees (fun _ ↦ True) G (authorize lib config route req) := by
  have hinternal : Guarantees (fun _ ↦ True) G
      (InternalServiceGuard.canActivate lib config route req) := by
    unfold InternalServiceGuard.canActivate
    split
    · exact guarantees_ret _
    · dsimp only
      split
      · exact guarantees_throw _
      · split
        · exact guarantees_ret _
        · refine (guarantees_readClock hG).bind fun now ↦ ?_
          split
          · exact guarantees_ret _
          · exact guarantees_throw _
  have hjwt : Guarantees (fun _ ↦ True) G (JwtAuthGuard.canActivate lib route req) := by
    unfold JwtAuthGuard.canActivate
    split
    · exact guarantees_ret _
    · refine (guarantees_readClock hG).bind fun now ↦ ?_
      rw [map_eq_pure_bind]
      exact (guarantees_ofExcept _).bind fun _ ↦ guarantees_ret _
  have hadmin : ∀ user, Guarantees (fun _ ↦ True) G (AdminGuard.canActivate req.method user) := by
    intro user
    unfold AdminGuard.canActivate
    split
    · exact guarantees_throw _
    · split
      · exact guarantees_throw _
      · split
        · exact guarantees_ret _
        · refine Guarantees.tryCatch ((guarantees_redisGet hG _).bind fun found ↦ ?_) fun e ↦ ?_
          · split
            · exact guarantees_throw _
            · exact guarantees_ret _
          · split
            · exact guarantees_throw _
            · exact guarantees_ret _
  unfold authorize
  refine hinternal.bind fun _ ↦ hjwt.bind fun user ↦ (guarantees_ofExcept _).bind fun _ ↦ ?_
  dsimp only
  split
  · exact (hadmin user).bind fun _ ↦ guarantees_ret _
  · exact guarantees_ret _

theorem guarantees_workOf {G : Backend → Backend → Prop} (params : RunParams) :
    Guarantees (fun _ ↦ True) G (workOf params) :=
  (guarantees_query _).bind fun _ ↦ guarantees_ofExcept _

/-- The idempotency service writes its own entries. -/
theorem guarantees_timedRun {G : Backend → Backend → Prop} (hG : ∀ s, G s s)
    {sha256 : String → String} {params : RunParams}
    (hstored : ∀ key stored s, key = IdempotencyService.key params.endpoint params.userId
      (params.idempotencyKey.getD "") →
      G s (Redis.stored key (.response stored) TimedIdempotencyService.ttlSeconds s)) :
    Guarantees (fun _ ↦ True) G (TimedIdempotencyService.run sha256 params (workOf params)) := by
  unfold TimedIdempotencyService.run
  dsimp only
  split
  · exact (guarantees_workOf params).bind fun _ ↦ guarantees_ret _
  · refine (guarantees_redisGet hG _).bind fun found ↦ ?_
    split
    · exact guarantees_throw _
    · split
      · exact guarantees_throw _
      · exact guarantees_ret _
    · refine (guarantees_workOf params).bind fun result ↦
        Guarantees.bind ?_ fun _ ↦ guarantees_ret _
      refine guarantees_transaction (fun s _ ↦ hG s) fun s a s' _ h ↦ ?_
      cases h
      exact hstored _ _ s rfl

/-- What a delivery may do. -/
theorem guarantees_delivery {G : Backend → Backend → Prop} (hG : ∀ s, G s s)
    {message : Option RawEnvelope}
    (hmark : ∀ event handler s, parseEnvelope message = some event →
      handler ∈ eventHandlers config → G s { s with
        processed := (markIfFirst event.id handler.consumerName event.type s.processed).2 })
    (hdeny : ∀ event sid s, parseEnvelope message = some event →
      G s (Redis.stored (sessionDenylistPrefix ++ sid) (.text "1") config.ttl s)) :
    Guarantees (fun _ ↦ True) G (PubSubSubscriber.receive config message) := by
  unfold PubSubSubscriber.receive
  split
  · exact guarantees_ret _
  · next event hevent =>
      have hhandle : ∀ handler ∈ eventHandlers config,
          Guarantees (fun _ ↦ True) G (handler.handle event) := by
        intro handler hmem
        simp only [eventHandlers, List.mem_cons, List.not_mem_nil, or_false] at hmem
        rcases hmem with rfl | rfl | rfl
        · refine (guarantees_ofExcept _).bind fun _ ↦ ?_
          split
          · exact guarantees_ret _
          · refine guarantees_transaction (fun s _ ↦ hG s) fun s a s' _ h ↦ ?_
            cases h
            exact hdeny event _ s hevent
        · exact (guarantees_query _).bind fun _ ↦ guarantees_ofExcept _
        · exact (guarantees_query _).bind fun _ ↦ guarantees_ofExcept _
      have hdispatch : ∀ handlers ⊆ eventHandlers config,
          Guarantees (fun _ ↦ True) G (PubSubSubscriber.dispatchTo event handlers) := by
        intro handlers hsub
        induction handlers with
        | nil => exact guarantees_ret _
        | cons handler rest ih =>
            obtain ⟨hmem, hrest⟩ := List.cons_subset.mp hsub
            refine Guarantees.bind ?_ fun first ↦ ?_
            · refine guarantees_transaction (fun s _ ↦ hG s) fun s a s' _ h ↦ ?_
              cases h
              exact hmark event handler s hevent hmem
            · dsimp only
              split
              · exact (hhandle handler hmem).bind fun _ ↦ ih hrest
              · exact ih hrest
      dsimp only
      split
      · exact guarantees_ret _
      · refine Guarantees.tryCatch ?_ fun _ ↦ guarantees_ret _
        exact (hdispatch _ List.filter_sublist.subset).bind fun _ ↦ guarantees_ret _

end Guarantee

/-! ## A revocation that is acknowledged -/

namespace Backend

/-- The consumer of revocations has a marker for the event. -/
def RevocationMarked (id : ℕ) (s : Backend) : Prop :=
  ∃ r ∈ s.processed, r.eventId = id ∧ r.consumerName = "payments-auth-session-revoked"

/-- What others do while the event is delivered. -/
structure Passes (ttlSeconds id : ℕ) (s s' : Backend) : Prop where
  ages : s.Ages ttlSeconds s'
  unmarked : ¬s.RevocationMarked id → ¬s'.RevocationMarked id

namespace Passes

variable {ttlSeconds id : ℕ} {s s' s'' : Backend}

theorem refl (s : Backend) : s.Passes ttlSeconds id s := ⟨.refl s, fun h ↦ h⟩

theorem trans (h : s.Passes ttlSeconds id s') (h' : s'.Passes ttlSeconds id s'') :
    s.Passes ttlSeconds id s'' :=
  ⟨h.ages.trans h'.ages, fun hs ↦ h'.unmarked (h.unmarked hs)⟩

/-- The marker of another event. -/
theorem mark {eventId : ℕ} (hid : eventId ≠ id) (consumer eventType : String) :
    s.Passes ttlSeconds id
      { s with processed := (markIfFirst eventId consumer eventType s.processed).2 } := by
  refine ⟨.of_redis_eq le_rfl rfl, fun hs ↦ ?_⟩
  rintro ⟨r, hr, hrid, hconsumer⟩
  dsimp only [markIfFirst] at hr
  split at hr
  · exact hs ⟨r, hr, hrid, hconsumer⟩
  · rcases List.mem_append.mp hr with hr | hr
    · exact hs ⟨r, hr, hrid, hconsumer⟩
    · rw [List.mem_singleton.mp hr] at hrid
      exact hid hrid

end Passes

end Backend

section Revocation

variable {config : SecurityConfig} {message : Option RawEnvelope} {event : CloudEvent}
  {sid : String} {s s' : Backend} {F : Failure → Prop} {l : List (BackendRequest × BackendReply)}

theorem matched_revocation (htype : event.type = "auth.session.revoked") :
    (eventHandlers config).filter (·.handles event.type) =
      [⟨"payments-auth-session-revoked", AuthSessionRevokedHandler.handles,
        AuthSessionRevokedHandler.handle config⟩] := by
  rw [htype]
  rfl

/-- A marker is new unless it is there. -/
theorem amid_markIfFirst {r : Except Failure Bool}
    (h : Amid (Backend.Passes config.ttl event.id) F
      (ProcessedEventsService.markIfFirst event.id "payments-auth-session-revoked" event.type) s r l
      s') (hmarked : ¬s.RevocationMarked event.id) :
    s.Ages config.ttl s' ∧ ∀ first, r = .ok first → first = true := by
  obtain ⟨-, ⟨s₁, s₂, hbefore, hafter, ⟨first, rfl, hok⟩ | ⟨e, rfl, herror, -⟩⟩ |
    ⟨e, -, hothers, rfl⟩⟩ := h.of_transaction
  · cases hok
    have hages : s₁.Ages config.ttl { s₁ with processed :=
        (markIfFirst event.id "payments-auth-session-revoked" event.type s₁.processed).2 } :=
      .of_redis_eq le_rfl rfl
    refine ⟨(hbefore.ages.trans hages).trans hafter.ages, fun first h ↦ ?_⟩
    cases h
    have hnone : ¬(s₁.processed.any fun r ↦
        r.eventId = event.id ∧ r.consumerName = "payments-auth-session-revoked") := by
      intro hany
      obtain ⟨r, hr, hmark⟩ := List.any_eq_true.mp hany
      exact hbefore.unmarked hmarked ⟨r, hr, of_decide_eq_true hmark⟩
    rw [markIfFirst, if_neg hnone]
  · cases herror
  · exact ⟨hothers.ages, fun first h ↦ by cases h⟩

/-- A session that was written to the list is denied for the time to live. -/
theorem amid_set {r : Except Failure Unit}
    (h : Amid (Backend.Passes config.ttl event.id) F
      (Redis.set (sessionDenylistPrefix ++ sid) (.text "1") config.ttl) s r l s')
    (hbounded : s.DenylistBounded config.ttl) (hr : r = .ok ()) :
    s'.DenylistBounded config.ttl ∧ s'.Denied sid (s.clock + config.ttl * 1000) := by
  obtain ⟨-, ⟨s₁, s₂, hbefore, hafter, ⟨a, -, hok⟩ | ⟨e, rfl, -⟩⟩ | ⟨e, -, -, rfl⟩⟩ :=
    h.of_transaction
  · cases hok
    have hclock := hbefore.ages.clock
    have hdenied : (Redis.stored (sessionDenylistPrefix ++ sid) (.text "1") config.ttl s₁).Denied
        sid (s.clock + config.ttl * 1000) :=
      Expiring.lasting_set rfl (by omega)
    have hstored : s₁.Ages config.ttl
        (Redis.stored (sessionDenylistPrefix ++ sid) (.text "1") config.ttl s₁) :=
      .stored fun _ _ ↦ ⟨rfl, rfl⟩
    have hafterBounded := hstored.bounded (hbefore.ages.bounded hbounded)
    exact ⟨hafter.ages.bounded hafterBounded, hafter.ages.denied hafterBounded sid _ hdenied⟩
  · cases hr
  · cases hr

/-- A handler that completes has denied the session. -/
theorem denied_of_handle (hsid : AuthSessionRevokedHandler.sid event.data = some sid)
    (h : Amid (Backend.Passes config.ttl event.id) F (AuthSessionRevokedHandler.handle config event)
      s (.ok ()) l s')
    (hbounded : s.DenylistBounded config.ttl) :
    s'.DenylistBounded config.ttl ∧ s'.Denied sid (s.clock + config.ttl * 1000) := by
  rcases h.of_bind Backend.Passes.refl with ⟨e, hr, -⟩ | ⟨_, l₁, l₂, s₁, hvalid, hset, -⟩
  · cases hr
  · obtain ⟨-, -, hbefore⟩ := hvalid.of_ofExcept
    rw [hsid] at hset
    have hdenied := amid_set hset (hbefore.ages.bounded hbounded) rfl
    have hclock := hbefore.ages.clock
    exact ⟨hdenied.1, hdenied.2.mono (by omega)⟩

/-- The first delivery that is acknowledged has denied the session. -/
theorem denied_of_receive (hevent : parseEnvelope message = some event)
    (htype : event.type = "auth.session.revoked")
    (hsid : AuthSessionRevokedHandler.sid event.data = some sid)
    (h : Amid (Backend.Passes config.ttl event.id) F (PubSubSubscriber.receive config message) s
      (.ok .ack) l s')
    (hmarked : ¬s.RevocationMarked event.id) (hbounded : s.DenylistBounded config.ttl) :
    s'.Denied sid (s.clock + config.ttl * 1000) := by
  unfold PubSubSubscriber.receive at h
  rw [hevent] at h
  dsimp only at h
  rw [matched_revocation htype, if_neg (by simp)] at h
  rcases h.of_tryCatch Backend.Passes.refl with ⟨_, -, hbody⟩ | ⟨e, l₁, l₂, s₁, -, hcatch, -⟩
  · rcases hbody.of_bind Backend.Passes.refl with ⟨e, hr, -⟩ | ⟨_, l₁, l₂, s₁, hdispatch, hlast, -⟩
    · cases hr
    · have hend : s₁.Passes config.ttl event.id s' := by
        cases hlast with
        | ret others => exact others
      rcases hdispatch.of_bind Backend.Passes.refl with
        ⟨e, hr, -⟩ | ⟨first, l₃, l₄, s₂, hmark, hrest, -⟩
      · cases hr
      · obtain ⟨hages, hfirst⟩ := amid_markIfFirst hmark hmarked
        cases hfirst first rfl
        rcases hrest.of_bind Backend.Passes.refl with
          ⟨e, hr, -⟩ | ⟨_, l₅, l₆, s₃, hhandle, hnil, -⟩
        · cases hr
        · have hdenied := denied_of_handle hsid hhandle (hages.bounded hbounded)
          have hnil : s₃.Passes config.ttl event.id s₁ := by
            cases hnil with
            | ret others => exact others
          have hclock := hages.clock
          exact (hnil.trans hend).ages.denied hdenied.1 sid _ (hdenied.2.mono (by omega))
  · cases hcatch

end Revocation

/-! ## Requests with a token of the session -/

section Request

variable {lib : TokenLibrary} {config : SecurityConfig} {route : Route} {req : HttpRequest}
  {claims : RawClaims} {sid : String}

/-- The lookup of a session that is denied. -/
theorem barred_checkSession {instant : ℕ} :
    Barred (fun s ↦ s.Denied sid instant ∧ s.clock < instant) (AdminGuard.checkSession sid) := by
  rintro s ⟨hdenied, hclock⟩
  obtain ⟨v, hget, htruthy⟩ := Expiring.Lasting.get hdenied hclock
  have hfound : (s.redis.get s.clock (sessionDenylistPrefix ++ sid)).any RedisValue.truthy := by
    rw [hget]
    exact htruthy
  change Yields _ _ (tryCatchThe Failure
    (if (s.redis.get s.clock (sessionDenylistPrefix ++ sid)).any RedisValue.truthy
      then MonadExcept.throw AdminGuard.revoked else pure ()) _)
  rw [if_pos hfound]
  exact yields_throw _

theorem barred_adminGuard {method : String} {user : AuthUser} (hsid : present user.sid = some sid)
    {instant : ℕ} :
    Barred (fun s ↦ s.Denied sid instant ∧ s.clock < instant)
      (AdminGuard.canActivate method (some user)) := by
  unfold AdminGuard.canActivate
  dsimp only
  split
  · exact yields_throw _
  · rw [hsid]
    exact barred_checkSession

/-- While the session is denied and the token has not expired, the guards of the administration let
nothing through. -/
theorem barred_mutation {sha256 : String → String} (hlib : lib.Lawful)
    (hpublic : route.isPublic = false) (hinternal : route.isInternalService = false)
    (hadmin : route.adminOnly = true) {now : ℕ} (hclaims : lib.verify now req.bearer = .ok claims)
    (hsid : present claims.sid = some sid) {instant : ℕ} :
    Barred (fun s ↦ s.Denied sid instant ∧ s.clock < instant)
      (mutation lib config sha256 route req) := by
  have hservice : Yields (fun s ↦ s.Denied sid instant ∧ s.clock < instant) (fun _ ↦ True)
      (InternalServiceGuard.canActivate lib config route req) := by
    unfold InternalServiceGuard.canActivate
    rw [if_pos hinternal]
    exact yields_ret trivial
  have huser : Yields (fun s ↦ s.Denied sid instant ∧ s.clock < instant)
      (· = some (JwtStrategy.validate claims)) (JwtAuthGuard.canActivate lib route req) := by
    unfold JwtAuthGuard.canActivate
    rw [if_neg (by rw [hpublic, hinternal]; decide)]
    refine Yields.bind (yields_read (T := fun _ ↦ True) fun _ _ ↦ trivial) fun now' _ ↦ ?_
    refine Yields.map (yields_ofExcept fun user huser ↦ ?_) fun user h ↦ congrArg some h
    cases hverify : lib.verify now' req.bearer with
    | ok claims' =>
        rw [hverify] at huser
        cases huser
        rw [hlib.claims_eq hclaims hverify]
    | error info =>
        rw [hverify, JwtAuthGuard.handleRequest] at huser
        split at huser
        · cases huser
        · cases huser
  have hauthorize : Barred (fun s ↦ s.Denied sid instant ∧ s.clock < instant)
      (authorize lib config route req) := by
    refine hservice.bind fun _ _ ↦ huser.bind fun user huser ↦ ?_
    subst huser
    refine Yields.bind (yields_ofExcept (T := fun _ ↦ True) fun _ _ ↦ trivial) fun _ _ ↦ ?_
    rw [if_pos hadmin]
    exact (barred_adminGuard hsid).bind fun _ h ↦ h.elim
  exact hauthorize.bind fun _ h ↦ h.elim

end Request

/-! ## Any traffic -/

/-- The message says that the session is revoked. -/
structure RevokesSession (message : Option RawEnvelope) (event : CloudEvent) (sid : String) :
    Prop where
  parsed : parseEnvelope message = some event
  type : event.type = "auth.session.revoked"
  sid : AuthSessionRevokedHandler.sid event.data = some sid

/-- The request carries a token of the session, with these claims. -/
structure BearsSession (lib : TokenLibrary) (req : HttpRequest) (claims : RawClaims)
    (sid : String) : Prop where
  verified : ∃ now, lib.verify now req.bearer = .ok claims
  sid : present claims.sid = some sid

/-- Only the administration may use the route. -/
structure Route.IsAdministration (route : Route) : Prop where
  notPublic : route.isPublic = false
  notInternal : route.isInternalService = false
  adminOnly : route.adminOnly = true

section Traffic

variable {config : BackendConfig}

/-- A call changes only markers, the list, entries of the idempotency service and the time. -/
theorem BackendCall.guarantees {G : Backend → Backend → Prop} (hG : ∀ s, G s s) (c : BackendCall)
    (hmark : ∀ m event consumer eventType s, c = .message m → parseEnvelope m = some event →
      G s { s with processed := (markIfFirst event.id consumer eventType s.processed).2 })
    (hdeny : ∀ sid s, G s (Redis.stored (sessionDenylistPrefix ++ sid) (.text "1") config.ttl s))
    (hstore : ∀ endpoint userId key stored s, G s (Redis.stored
      (IdempotencyService.key endpoint userId key) (.response stored)
      TimedIdempotencyService.ttlSeconds s))
    (htime : ∀ ms s, G s { s with clock := s.clock + ms }) :
    Guarantees (fun _ ↦ True) G (c.program config) := by
  cases c with
  | message m =>
      exact Guarantees.map (guarantees_delivery hG
        (fun event handler s hevent _ ↦ hmark m event _ _ s rfl hevent) fun _ sid s _ ↦ hdeny sid s)
  | mutation route req =>
      refine Guarantees.map ((guarantees_authorize hG).bind fun user ↦ ?_)
      split
      · exact guarantees_throw _
      · refine guarantees_timedRun hG fun key stored s hkey ↦ ?_
        rw [hkey]
        exact hstore _ _ _ stored s
  | elapse ms =>
      refine Guarantees.map (guarantees_transaction (fun s _ ↦ hG s) fun s a s' _ h ↦ ?_)
      cases h
      exact htime ms s

/-- What every call does to the list. -/
theorem BackendCall.guarantees_ages (c : BackendCall) :
    Guarantees (fun _ ↦ True) (Backend.Ages config.ttl) (c.program config) := by
  refine c.guarantees Backend.Ages.refl (fun _ _ _ _ _ _ _ ↦ ?_) (fun _ _ ↦ ?_)
    (fun _ _ _ _ _ ↦ ?_) fun _ _ ↦ ?_
  · exact .of_redis_eq le_rfl rfl
  · exact .stored fun _ _ ↦ ⟨rfl, rfl⟩
  · exact .stored fun sid h ↦ (idempotencyKey_ne _ _ _ sid h).elim
  · exact .of_redis_eq (Nat.le_add_right _ _) rfl

/-- What a call does that is no delivery of the event. -/
theorem BackendCall.guarantees_passes {id : ℕ} (c : BackendCall)
    (hc : ∀ m event, c = .message m → parseEnvelope m = some event → event.id ≠ id) :
    Guarantees (fun _ ↦ True) (Backend.Passes config.ttl id) (c.program config) := by
  refine c.guarantees Backend.Passes.refl (fun m event _ _ _ hm hevent ↦ ?_) (fun _ _ ↦ ?_)
    (fun _ _ _ _ _ ↦ ?_) fun _ _ ↦ ?_
  · exact .mark (hc m event hm hevent) _ _
  · exact ⟨.stored fun _ _ ↦ ⟨rfl, rfl⟩, fun h ↦ h⟩
  · exact ⟨.stored fun sid h ↦ (idempotencyKey_ne _ _ _ sid h).elim, fun h ↦ h⟩
  · exact ⟨.of_redis_eq (Nat.le_add_right _ _) rfl, fun h ↦ h⟩

/-- The call delivers the event, whichever message it is in. -/
def Delivers (calls : List BackendCall) (id k : ℕ) : Prop :=
  ∃ m event, calls[k]? = some (.message m) ∧ parseEnvelope m = some event ∧ event.id = id

/-- What a delivery of the event keeps to, and what a call that is none keeps to as well. -/
def Observes (config : BackendConfig) (calls : List BackendCall) (id k : ℕ) (s s' : Backend) :
    Prop :=
  s.Ages config.ttl s' ∧ (¬Delivers calls id k → s.Passes config.ttl id s')

theorem Observes.refl (calls : List BackendCall) (id k : ℕ) (s : Backend) :
    Observes config calls id k s s := ⟨.refl s, fun _ ↦ .refl s⟩

/-- A pool of calls, each of which keeps to its part. -/
def Observing (config : BackendConfig) (calls : List BackendCall) (id : ℕ)
    (P : Pool Backend BackendRequest BackendReply (Serving BackendResult)) : Prop :=
  ∀ (k : ℕ) p, P.threads[k]? = some p → Guarantees (fun _ ↦ True) (Observes config calls id k) p

variable {clock id i : ℕ} {calls : List BackendCall}
  {P : Pool Backend BackendRequest BackendReply (Serving BackendResult)}

theorem observing_pool (config : BackendConfig) (clock : ℕ) (calls : List BackendCall) (id : ℕ) :
    Observing config calls id (BackendCall.pool config clock calls) := by
  intro k p hp
  obtain ⟨c, hc, rfl⟩ := Option.map_eq_some_iff.mp ((List.getElem?_map ..).symm.trans hp)
  by_cases hk : Delivers calls id k
  · exact c.guarantees_ages.mono (fun _ h ↦ h) fun _ _ _ h ↦ ⟨h, fun hne ↦ absurd hk hne⟩
  · have hpasses : Guarantees (fun _ ↦ True) (Backend.Passes config.ttl id) (c.program config) := by
      refine c.guarantees_passes ?_
      rintro m event rfl hevent hid
      exact hk ⟨m, event, hc, hevent, hid⟩
    exact hpasses.mono (fun _ h ↦ h) fun _ _ _ h ↦ ⟨h.ages, fun _ ↦ h⟩

namespace Observing

theorem step (h : Observing config calls id P) (t : Turn BackendReply Failure) :
    Observing config calls id (Pool.step next P t) ∧
      Observes config calls id t.thread P.store (Pool.step next P t).store :=
  Pool.guarantees_each_step (fun k s ↦ .refl calls id k s) h t

theorem run (h : Observing config calls id P) (ts : List (Turn BackendReply Failure)) :
    Observing config calls id (Pool.run next P ts) ∧
      P.store.Ages config.ttl (Pool.run next P ts).store := by
  refine Transition.run_invariant (Pool.step next)
    (I := fun P' ↦ Observing config calls id P' ∧ P.store.Ages config.ttl P'.store) ?_
    ⟨h, .refl _⟩ ts
  rintro P' t ⟨hP', hages⟩
  obtain ⟨hstep, hturn⟩ := hP'.step t
  exact ⟨hstep, hages.trans hturn.1⟩

/-- Before the first delivery there is no marker. -/
theorem unmarked (h : Observing config calls id P) (hmarked : ¬P.store.RevocationMarked id)
    {ts : List (Turn BackendReply Failure)} (hts : ∀ t ∈ ts, ¬Delivers calls id t.thread) :
    ¬(Pool.run next P ts).store.RevocationMarked id := by
  have halong : Transition.Along (Pool.step next) (fun _ t ↦ ¬Delivers calls id t.thread) P ts :=
    .of_mem hts
  refine (halong.run_invariant
    (I := fun P' ↦ Observing config calls id P' ∧ ¬P'.store.RevocationMarked id) ?_
    ⟨h, hmarked⟩).2
  rintro P' t ht ⟨hP', hmark⟩
  obtain ⟨hstep, hturn⟩ := hP'.step t
  exact ⟨hstep, (hturn.2 ht).unmarked hmark⟩

/-- The first delivery of a revocation, amid the other calls, denies the session. -/
theorem denied {message : Option RawEnvelope} {event : CloudEvent} {sid : String}
    (h : Observing config calls event.id P) (hrevokes : RevokesSession message event sid)
    (hi : P.threads[i]? = some ((BackendCall.message message).program config))
    (hmarked : ¬P.store.RevocationMarked event.id) (hbounded : P.store.DenylistBounded config.ttl)
    {ts : List (Turn BackendReply Failure)}
    (hts : ∀ t ∈ ts, Delivers calls event.id t.thread → t.thread = i)
    (hacked : (Pool.run next P ts).threads[i]? = some (.ret (.verdict .ack))) :
    (Pool.run next P ts).store.Denied sid (P.store.clock + config.ttl * 1000) := by
  have hbeside : Transition.Along (Pool.step next)
      (Pool.Beside (Backend.Passes config.ttl event.id) (fun _ ↦ True) i) P ts := by
    refine .of_invariant (C := fun _ t ↦ Delivers calls event.id t.thread → t.thread = i)
      (I := Observing config calls event.id) (fun P' t _ hP' ↦ (hP'.step t).1)
      (fun P' t ht hP' ↦ ?_) h (.of_mem hts)
    unfold Pool.Beside
    split
    · exact fun _ _ ↦ trivial
    · next hne => exact (hP'.step t).2.2 fun hdelivers ↦ hne (ht hdelivers)
  obtain ⟨l, hamid, -⟩ :=
    Pool.amid_run Backend.Passes.refl Backend.Passes.trans hi hbeside (r := .ok (.verdict .ack))
      hacked
  obtain ⟨r, hreceive, hr⟩ := hamid.of_map
  cases r with
  | error e => cases hr
  | ok v =>
      cases hr
      exact denied_of_receive hrevokes.parsed hrevokes.type hrevokes.sid hreceive hmarked hbounded

end Observing

theorem denylistBounded_pool (clock : ℕ) (calls : List BackendCall) :
    (BackendCall.pool config clock calls).store.DenylistBounded config.ttl := by
  rintro sid v expiry hentry
  cases hentry

/-- A call that has had no turn is at its start and has asked nothing. -/
theorem BackendCall.waiting (config : BackendConfig) (clock : ℕ) {c : BackendCall}
    (hi : calls[i]? = some c) {ts : List (Turn BackendReply Failure)}
    (hts : ∀ t ∈ ts, t.thread ≠ i) :
    (Pool.run next (pool config clock calls) ts).threads[i]? = some (c.program config) ∧
      Pool.exchanges (Pool.run next (pool config clock calls) ts).log i = [] := by
  refine ⟨(Pool.getElem?_run_of_ne next hts).trans ?_, Pool.exchanges_run_of_ne next hts⟩
  change (calls.map _)[i]? = _
  rw [List.getElem?_map, hi]
  rfl

end Traffic

/-- Once the first delivery of a revocation has been acknowledged, a request for the administration
that carries a token of the session, issued before, does not get past the guards: until the token
expires, and unless the lookup of the list fails, its work is not started and it does not return. -/
theorem revoked_session_is_barred (config : BackendConfig) (hlib : config.lib.Lawful) (clock : ℕ)
    (calls : List BackendCall) (ts₀ ts₁ ts₂ : List (Turn BackendReply Failure)) :
    let P₀ := Pool.run next (BackendCall.pool config clock calls) ts₀
    let P₁ := Pool.run next P₀ ts₁
    let P₂ := Pool.run next P₁ ts₂
    ∀ {i j : ℕ} {message : Option RawEnvelope} {event : CloudEvent} {sid : String} {route : Route}
      {req : HttpRequest} {claims : RawClaims},
    -- the first delivery of the event ends, by itself
    calls[i]? = some (.message message) → RevokesSession message event sid →
    (∀ t ∈ ts₀, ¬Delivers calls event.id t.thread) →
    (∀ t ∈ ts₁, Delivers calls event.id t.thread → t.thread = i) →
    P₁.threads[i]? = some (.ret (.verdict .ack)) →
    -- then the request arrives
    calls[j]? = some (.mutation route req) → route.IsAdministration →
    BearsSession config.lib req claims sid → claims.iat * 1000 ≤ P₀.store.clock →
    claims.exp ≤ claims.iat + config.accessTtlSeconds → (∀ t ∈ ts₀ ++ ts₁, t.thread ≠ j) →
    P₂.store.clock < claims.exp * 1000 →
    (∀ t ∈ ts₂, t.thread = j → ∀ e, t.move ≠ .refuse e) →
    (∀ r, P₂.threads[j]? ≠ some (.ret r)) ∧ Pool.exchanges P₂.log j = [] := by
  intro P₀ P₁ P₂ i j message event sid route req claims hi hrevokes hts₀ hts₁ hacked hj hroute
    hbears hissued hlifetime hbefore hvalid hlookup
  obtain ⟨now, hverify⟩ := hbears.verified
  have hobserving := observing_pool config clock calls event.id
  obtain ⟨hobserving₀, hages₀⟩ := hobserving.run ts₀
  obtain ⟨hobserving₁, hages₁⟩ := hobserving₀.run ts₁
  have hbounded₀ := hages₀.bounded (denylistBounded_pool clock calls)
  have hdenied : P₁.store.Denied sid (P₀.store.clock + config.ttl * 1000) := by
    refine hobserving₀.denied hrevokes
      (BackendCall.waiting config clock hi fun t ht hti ↦ hts₀ t ht ?_).1
      (hobserving.unmarked (fun ⟨r, hr, _⟩ ↦ absurd hr List.not_mem_nil) hts₀) hbounded₀ hts₁ hacked
    rw [hti]
    exact ⟨message, event, hi, hrevokes.parsed, rfl⟩
  -- no token of the session outlives that
  have houtlived : claims.exp * 1000 ≤ P₀.store.clock + config.ttl * 1000 :=
    calc claims.exp * 1000 ≤ (claims.iat + config.accessTtlSeconds) * 1000 :=
          Nat.mul_le_mul_right _ hlifetime
      _ = claims.iat * 1000 + config.accessTtlSeconds * 1000 := Nat.add_mul ..
      _ ≤ P₀.store.clock + config.ttl * 1000 :=
          Nat.add_le_add hissued (Nat.mul_le_mul_right _ (le_max_right _ _))
  have hmutation : Barred (fun s : Backend ↦ s.Denied sid (claims.exp * 1000) ∧
      s.clock < claims.exp * 1000) ((BackendCall.mutation route req).program config) :=
    (barred_mutation hlib hroute.notPublic hroute.notInternal hroute.adminOnly hverify
      hbears.sid).map fun _ h ↦ h
  have hwaiting := BackendCall.waiting config clock hj hbefore
  rw [Pool.run, Transition.run_append] at hwaiting
  have halong : Transition.Along (Pool.step next)
      (fun P t ↦ (P.store.Denied sid (claims.exp * 1000) ∧ P.store.clock < claims.exp * 1000) ∧
        (t.thread = j → ∀ e, t.move ≠ .refuse e)) P₁ ts₂ := by
    refine .of_run fun ls₁ t ls₂ hls ↦ ⟨⟨?_, ?_⟩, fun ht ↦ hlookup t ?_ ht⟩
    · have hreached := (hobserving₁.run ls₁).2
      exact (hreached.denied (hages₁.bounded hbounded₀) sid _ hdenied).mono houtlived
    · have hend : Pool.run next (Pool.run next P₁ ls₁) (t :: ls₂) = P₂ :=
        (Transition.run_append ..).symm.trans (congrArg _ hls.symm)
      have hlater := ((hobserving₁.run ls₁).1.run (t :: ls₂)).2.clock
      rw [hend] at hlater
      exact hlater.trans_lt hvalid
    · rw [hls]
      exact List.mem_append_right _ List.mem_cons_self
  obtain ⟨⟨p, hp, hbarred⟩, hlog⟩ := Pool.barred_run hwaiting.1 hmutation halong
  refine ⟨fun r hr ↦ ?_, hlog.trans hwaiting.2⟩
  cases hp.symm.trans hr
  exact hbarred

namespace Sample

/-- Session `s-1` is revoked. -/
def revocation : RawEnvelope where
  specversion := some "1.0"
  id := some 1
  type := some "auth.session.revoked"
  source := some "auth"
  subject := some "s-1"
  datacontenttype := some "application/json"
  data := some [("userId", .str "admin"), ("sid", .str "s-1")]
  traceparent := none
  tracestate := none

def revokedEvent : CloudEvent where
  id := 1
  type := "auth.session.revoked"
  data := [("userId", .str "admin"), ("sid", .str "s-1")]
  traceparent := none
  tracestate := none

def lateRequest : List BackendCall :=
  [.message (some revocation), .mutation adminRoute adminRequest]

/-- The marker and the entry of the list. -/
def delivered : List (Turn BackendReply Failure) := [⟨0, .act⟩, ⟨0, .act⟩]

/-- The verification of the token and the lookup of the session. -/
def refused : List (Turn BackendReply Failure) := [⟨1, .act⟩, ⟨1, .act⟩]

theorem lawful_backend : backend.lib.Lawful where
  unexpired := by
    intro now token claims h
    obtain ⟨hnow, rfl⟩ := verify_eq_ok h
    exact Nat.div_lt_of_lt_mul hnow
  claims_eq := fun h h' ↦ (verify_eq_ok h).2.trans (verify_eq_ok h').2.symm

end Sample

theorem revoked_session_is_barred_sample :
    (∀ r, (Pool.run next (Pool.run next
        (BackendCall.pool Sample.backend 1000 Sample.lateRequest) Sample.delivered)
      Sample.refused).threads[1]? ≠ some (.ret r)) ∧
    Pool.exchanges (Pool.run next (Pool.run next
      (BackendCall.pool Sample.backend 1000 Sample.lateRequest) Sample.delivered)
        Sample.refused).log 1 = [] := by
  refine revoked_session_is_barred Sample.backend Sample.lawful_backend 1000 Sample.lateRequest []
    Sample.delivered Sample.refused (i := 0) (j := 1) rfl
    (⟨rfl, rfl, rfl⟩ : RevokesSession _ Sample.revokedEvent "s-1") nofun ?_ rfl
    rfl ⟨rfl, rfl, rfl⟩ (⟨⟨0, rfl⟩, rfl⟩ : BearsSession _ _ Sample.sessionClaims _) ?_ ?_ ?_ ?_ ?_
  · intro t ht _
    simp only [Sample.delivered, List.mem_cons, List.not_mem_nil, or_false] at ht
    rcases ht with rfl | rfl <;> rfl
  · decide
  · decide
  · decide
  · decide +kernel
  · intro t ht _ e he
    simp only [Sample.refused, List.mem_cons, List.not_mem_nil, or_false] at ht
    rcases ht with rfl | rfl <;> cases he

end GearshPayments
