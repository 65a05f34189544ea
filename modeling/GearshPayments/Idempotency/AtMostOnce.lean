import GearshPayments.Idempotency.Service
import GearshPayments.Resumption.Actions

/-!
# At most once for a key

A request for a key passes through a handful of stages (`Stage`), and the pool of all requests
for it is one of stages over the cache (`StageStep`).  Nothing reserves the key between the
lookup and the write, so a second request that looks the key up before the first has stored
its response runs its work too.  Where that does not happen, the first request to look the key
up is the only one to run its work, and the others are answered from what it stores
(`executed_at_most_once`).
-/

namespace GearshPayments

open Resumption

/-! ## Stages of a request -/

/-- Where a request stands. -/
inductive Stage where
  | fresh
  /-- It has found nothing. -/
  | missed
  | working
  /-- Its work has ended; the response is not stored yet. -/
  | finished (result : WorkResult)
  | served (r : RunResult)
  | rejected

section Stages

variable (sha256 : String → String) (redisKey : String)

/-- The answer from an entry. -/
def replay (body : String) (stored : StoredResponse) : Stage :=
  if stored.bodyHash ≠ sha256 body then .rejected
  else .served { status := stored.status, body := stored.body, replayed := true }

/-- What is stored for a request. -/
def entry (body : String) (result : WorkResult) : StoredResponse where
  bodyHash := sha256 body
  status := result.status
  body := result.body

def save (body : String) (result : WorkResult) : CacheProgram RunResult := do
  RedisService.set redisKey (entry sha256 body result)
  return { result with replayed := false }

/-- What is left of a request at a stage. -/
def Stage.program (body : String) : Stage → CacheProgram RunResult
  | .fresh => do
    match ← RedisService.get redisKey with
    | some stored =>
      if stored.bodyHash ≠ sha256 body then MonadExcept.throw IdempotencyService.mismatch
      return { status := stored.status, body := stored.body, replayed := true }
    | none => work >>= save sha256 redisKey body
  | .missed => work >>= save sha256 redisKey body
  | .working => .ask () (save sha256 redisKey body)
  | .finished result => save sha256 redisKey body result
  | .served r => .ret r
  | .rejected => .throw IdempotencyService.mismatch

/-- A request with a key starts fresh. -/
theorem run_eq_program {endpoint userId idempotencyKey : String} (hkey : idempotencyKey ≠ "")
    (body : String) :
    IdempotencyService.run sha256 ⟨endpoint, userId, some idempotencyKey, body⟩ work =
      Stage.fresh.program sha256 (IdempotencyService.key endpoint userId idempotencyKey) body := by
  unfold IdempotencyService.run
  dsimp only [Option.getD_some]
  rw [if_neg hkey]
  rfl

/-- A step of a request with this body: the stages and caches before and after, and how its
work ended if that is the step. -/
inductive StageStep (body : String) :
    Stage → Cache → Cache → Stage → Option (Unit × WorkResult) → Prop
  | miss {s : Cache} (h : s.redis redisKey = none) :
    StageStep body .fresh s { s with misses := s.misses + 1 } .missed none
  | replay {s : Cache} {stored : StoredResponse} (h : s.redis redisKey = some stored) :
    StageStep body .fresh s s (replay sha256 body stored) none
  | start (s : Cache) :
    StageStep body .missed s { s with executions := s.executions + 1 } .working none
  | finish (s : Cache) (result : WorkResult) :
    StageStep body .working s s (.finished result) (some ((), result))
  | store (s : Cache) (result : WorkResult) :
    StageStep body (.finished result) s (RedisService.store redisKey (entry sha256 body result) s)
      (.served { result with replayed := false }) none

variable {sha256 redisKey}

/-- What a request does next, unless the cache refuses. -/
theorem Stage.step {body : String} {v : Stage} {m : Move WorkResult Failure} {s s' : Cache}
    {p : CacheProgram RunResult} {x : Option (Unit × WorkResult)} (hm : ∀ e, m ≠ .refuse e)
    (h : next (v.program sha256 redisKey body) m s = some (s', p, x)) :
    ∃ v' : Stage, p = v'.program sha256 redisKey body ∧
      StageStep sha256 redisKey body v s s' v' x := by
  cases v with
  | fresh =>
      cases m with
      | refuse e => exact absurd rfl (hm e)
      | answer a => cases h
      | act =>
          cases hs : s.redis redisKey with
          | none =>
              have hlookup : RedisService.lookup redisKey s = { s with misses := s.misses + 1 } :=
                if_pos hs
              simp only [Stage.program, RedisService.get, atomic_bind, next, ret_bind, hs,
                hlookup] at h
              cases h
              exact ⟨.missed, rfl, .miss hs⟩
          | some stored =>
              have hlookup : RedisService.lookup redisKey s = s :=
                if_neg (by rw [hs]; exact fun h ↦ by cases h)
              simp only [Stage.program, RedisService.get, atomic_bind, next, ret_bind, hs,
                hlookup] at h
              cases h
              refine ⟨replay sha256 body stored, ?_, .replay hs⟩
              unfold replay
              split
              · rfl
              · rfl
  | missed =>
      cases m with
      | refuse e => exact absurd rfl (hm e)
      | answer a => cases h
      | act =>
          cases h
          exact ⟨.working, rfl, .start s⟩
  | working =>
      cases m with
      | refuse e => exact absurd rfl (hm e)
      | act => cases h
      | answer a =>
          cases h
          exact ⟨.finished a, rfl, .finish s a⟩
  | finished result =>
      cases m with
      | refuse e => exact absurd rfl (hm e)
      | answer a => cases h
      | act =>
          cases h
          exact ⟨.served _, rfl, .store s result⟩
  | served r => cases m <;> cases h
  | rejected => cases m <;> cases h

end Stages

/-! ## One request runs its work -/

abbrev RequestPool := Pool Cache Unit WorkResult (CacheProgram RunResult)

section Exclusive

variable (sha256 : String → String) (redisKey : String) (bodies : List String)

/-- How far the request `j`, which was the first to look the key up, has come; `stored` is its
result once the response is stored. -/
inductive Progress (j : ℕ) (body : String) :
    Stage → Cache → List (ℕ × Unit × WorkResult) → Option WorkResult → Prop
  | missed {s : Cache} (hs : s.redis redisKey = none) (he : s.executions = 0) :
    Progress j body .missed s [] none
  | working {s : Cache} (hs : s.redis redisKey = none) (he : s.executions = 1) :
    Progress j body .working s [] none
  | finished {s : Cache} (hs : s.redis redisKey = none) (he : s.executions = 1)
    (result : WorkResult) : Progress j body (.finished result) s [(j, (), result)] none
  | stored {s : Cache} {result : WorkResult}
    (hs : s.redis redisKey = some (entry sha256 body result)) (he : s.executions = 1) :
    Progress j body (.served { result with replayed := false }) s [(j, (), result)] (some result)

/-- A request is in hand: it alone has come beyond the lookup, unless its response is stored. -/
structure InHand (s : Cache) (vs : List Stage) (log : List (ℕ × Unit × WorkResult)) (j : ℕ)
    (body : String) (w : Stage) (stored : Option WorkResult) : Prop where
  owner : bodies[j]? = some body
  stage : vs[j]? = some w
  misses : s.misses = 1
  progress : Progress sha256 redisKey j body w s log stored
  others : ∀ i v, i ≠ j → vs[i]? = some v → v = .fresh ∨ ∃ result body', stored = some result ∧
    bodies[i]? = some body' ∧ v = replay sha256 body' (entry sha256 body result)

/-- Nobody has looked the key up. -/
structure Idle (s : Cache) (vs : List Stage) (log : List (ℕ × Unit × WorkResult)) : Prop where
  redis : s.redis redisKey = none
  misses : s.misses = 0
  executions : s.executions = 0
  log : log = []
  stages : ∀ (i : ℕ) v, vs[i]? = some v → v = .fresh

/-- At most one request is in hand. -/
def Exclusive (s : Cache) (vs : List Stage) (log : List (ℕ × Unit × WorkResult)) : Prop :=
  Idle redisKey s vs log ∨ ∃ j body w stored, InHand sha256 redisKey bodies s vs log j body w stored

variable {sha256 redisKey bodies} {s s' : Cache} {vs : List Stage}
  {log : List (ℕ × Unit × WorkResult)} {i : ℕ} {body : String} {v v' : Stage}
  {x : Option (Unit × WorkResult)}

theorem Progress.executions_le {j : ℕ} {w : Stage} {stored : Option WorkResult}
    (h : Progress sha256 redisKey j body w s log stored) : s.executions ≤ 1 := by
  cases h with
  | missed hs he => omega
  | working hs he => omega
  | finished hs he => omega
  | stored hs he => omega

theorem Progress.log_eq {j : ℕ} {w : Stage} {result : WorkResult}
    (h : Progress sha256 redisKey j body w s log (some result)) : log = [(j, (), result)] := by
  cases h
  rfl

/-- The request in hand is served with its own result, and is not rejected. -/
theorem Progress.served {j : ℕ} {r : RunResult} {stored : Option WorkResult}
    (h : Progress sha256 redisKey j body (.served r) s log stored) :
    stored = some r.toWorkResult := by
  cases h
  rfl

theorem Progress.ne_rejected {j : ℕ} {w : Stage} {stored : Option WorkResult}
    (h : Progress sha256 redisKey j body w s log stored) : w ≠ .rejected := by
  cases h <;> exact fun h ↦ by cases h

/-- The entry of the key is that of the request in hand. -/
theorem Progress.entry_of_redis {j : ℕ} {w : Stage} {stored : Option WorkResult}
    (h : Progress sha256 redisKey j body w s log stored) {response : StoredResponse}
    (hs : s.redis redisKey = some response) :
    ∃ result, stored = some result ∧ response = entry sha256 body result := by
  cases h with
  | missed hs' => cases hs'.symm.trans hs
  | working hs' => cases hs'.symm.trans hs
  | finished hs' => cases hs'.symm.trans hs
  | stored hs' he => exact ⟨_, rfl, Option.some.inj (hs.symm.trans hs')⟩

/-- A step from where nobody has looked the key up is the first lookup. -/
theorem Idle.step (h : Idle redisKey s vs log) (hbody : bodies[i]? = some body)
    (hv : vs[i]? = some v) (hstep : StageStep sha256 redisKey body v s s' v' x) :
    Exclusive sha256 redisKey bodies s' (vs.set i v')
      (log ++ x.toList.map fun y ↦ (i, y)) := by
  obtain rfl := h.stages i v hv
  cases hstep with
  | miss hs =>
      refine .inr ⟨i, body, .missed, none, hbody, ?_, ?_, ?_, ?_⟩
      · exact List.getElem?_set_self (List.getElem?_eq_some_iff.mp hv).1
      · show s.misses + 1 = 1
        rw [h.misses]
      · rw [h.log]
        exact .missed hs h.executions
      · intro j w hj hw
        rw [List.getElem?_set_ne hj.symm] at hw
        exact .inl (h.stages j w hw)
  | replay hs => cases h.redis.symm.trans hs

/-- The request in hand takes its next step. -/
theorem InHand.step_own {stored : Option WorkResult}
    (h : InHand sha256 redisKey bodies s vs log i body v stored)
    (hstep : StageStep sha256 redisKey body v s s' v' x) :
    ∃ stored', InHand sha256 redisKey bodies s' (vs.set i v')
      (log ++ x.toList.map fun y ↦ (i, y)) i body v' stored' := by
  have hothers : ∀ stored', (stored' = stored ∨ stored = none) → ∀ k u, k ≠ i →
      (vs.set i v')[k]? = some u → u = .fresh ∨ ∃ result body', stored' = some result ∧
        bodies[k]? = some body' ∧ u = replay sha256 body' (entry sha256 body result) := by
    intro stored' hstored k u hk hu
    rw [List.getElem?_set_ne hk.symm] at hu
    rcases h.others k u hk hu with hfresh | ⟨result, body', hr, hb, hrep⟩
    · exact .inl hfresh
    · rcases hstored with rfl | hnone
      · exact .inr ⟨result, body', hr, hb, hrep⟩
      · cases hnone.symm.trans hr
  have hself : (vs.set i v')[i]? = some v' :=
    List.getElem?_set_self (List.getElem?_eq_some_iff.mp h.stage).1
  have hprogress := h.progress
  cases hprogress with
  | missed hs he =>
      cases hstep
      refine ⟨none, h.owner, hself, h.misses, .working hs ?_, hothers _ (.inl rfl)⟩
      show s.executions + 1 = 1
      rw [he]
  | working hs he =>
      cases hstep
      exact ⟨none, h.owner, hself, h.misses, .finished hs he _, hothers _ (.inl rfl)⟩
  | finished hs he result =>
      cases hstep
      refine ⟨some result, h.owner, hself, h.misses, .stored ?_ he, hothers _ (.inr rfl)⟩
      exact Function.update_self ..
  | stored hs he => cases hstep

/-- A request other than the one in hand, if it takes a step, is fresh; it is answered from the
entry. -/
theorem InHand.step_other {j : ℕ} {b : String} {w : Stage} {stored : Option WorkResult}
    (h : InHand sha256 redisKey bodies s vs log j b w stored) (hij : i ≠ j)
    (hbody : bodies[i]? = some body) (hv : vs[i]? = some v)
    (hstep : StageStep sha256 redisKey body v s s' v' x)
    (hlooks : v = .fresh → s.redis redisKey ≠ none) :
    InHand sha256 redisKey bodies s' (vs.set i v')
      (log ++ x.toList.map fun y ↦ (i, y)) j b w stored := by
  have hfresh : v = .fresh := by
    rcases h.others i v hij hv with hfresh | ⟨result, body', -, -, hrep⟩
    · exact hfresh
    · rw [hrep] at hstep
      unfold replay at hstep
      split at hstep <;> cases hstep
  subst hfresh
  cases hstep with
  | miss hs => exact absurd hs (hlooks rfl)
  | replay hs =>
      obtain ⟨result, hstored, rfl⟩ := h.progress.entry_of_redis hs
      have hothers := Pool.forall_set_of_ne (fun k u _ hu hk ↦ h.others k u hk hu)
        (fun _ ↦ .inr ⟨result, body, hstored, hbody, rfl⟩)
      refine ⟨h.owner, ?_, h.misses, ?_, fun k u hk hu ↦ hothers k u hu hk⟩
      · rw [List.getElem?_set_ne hij]
        exact h.stage
      · rw [Option.toList_none, List.map_nil, List.append_nil]
        exact h.progress

/-- Where a request is in hand, another one does not look the key up in vain. -/
theorem InHand.step {j : ℕ} {b : String} {w : Stage} {stored : Option WorkResult}
    (h : InHand sha256 redisKey bodies s vs log j b w stored) (hbody : bodies[i]? = some body)
    (hv : vs[i]? = some v) (hstep : StageStep sha256 redisKey body v s s' v' x)
    (hlooks : v = .fresh → s.redis redisKey ≠ none) :
    Exclusive sha256 redisKey bodies s' (vs.set i v')
      (log ++ x.toList.map fun y ↦ (i, y)) := by
  by_cases hij : i = j
  · subst hij
    cases hbody.symm.trans h.owner
    cases hv.symm.trans h.stage
    obtain ⟨stored', hown⟩ := h.step_own hstep
    exact .inr ⟨i, body, v', stored', hown⟩
  · exact .inr ⟨j, b, w, stored, h.step_other hij hbody hv hstep hlooks⟩

end Exclusive

/-! ## Runs -/

/-- The work is executed at most once; a request that is served has the body of the request
whose work it was and gets its response, and one that is rejected has another body. -/
structure AtMostOnce (bodies : List String) (P : RequestPool) : Prop where
  once : P.store.executions ≤ 1
  served : ∀ (i : ℕ) r, P.threads[i]? = some (.ret r) → ∃ j result body,
    P.log = [(j, (), result)] ∧ bodies[j]? = some body ∧ bodies[i]? = some body ∧
      r.toWorkResult = result
  rejected : ∀ (i : ℕ) e, P.threads[i]? = some (.throw e) → e = IdempotencyService.mismatch ∧
    ∃ j result body body', P.log = [(j, (), result)] ∧ bodies[j]? = some body ∧
      bodies[i]? = some body' ∧ body ≠ body'

namespace IdempotencyService

/-- Any number of requests for one key over a cache. -/
def pool (sha256 : String → String) (endpoint userId idempotencyKey : String)
    (bodies : List String) (redis : String → Option StoredResponse) : RequestPool where
  store := ⟨redis, 0, 0⟩
  threads := bodies.map fun body ↦
    run sha256 ⟨endpoint, userId, some idempotencyKey, body⟩ work
  log := []

/-- A request that looks the key up in vain is the first to do so. -/
def LooksUpAlone (redisKey : String) (P : RequestPool) (t : Turn WorkResult Failure) : Prop :=
  P.action? t = some (RedisService.lookup redisKey) → P.store.redis redisKey = none →
    P.store.misses = 0

end IdempotencyService

section Runs

variable {sha256 : String → String} {redisKey : String} {bodies : List String} {P : RequestPool}

/-- Every thread is a request at its stage. -/
def AtStages (sha256 : String → String) (redisKey : String) (bodies : List String)
    (ps : List (CacheProgram RunResult)) (vs : List Stage) : Prop :=
  ∀ (i : ℕ) p, ps[i]? = some p → ∃ v body, vs[i]? = some v ∧ bodies[i]? = some body ∧
    p = v.program sha256 redisKey body

/-- A turn is a step of a request. -/
theorem AtStages.step {vs : List Stage} (h : AtStages sha256 redisKey bodies P.threads vs)
    (hP : Exclusive sha256 redisKey bodies P.store vs P.log) {t : Turn WorkResult Failure}
    (hm : ∀ e, t.move ≠ .refuse e) (hlooks : IdempotencyService.LooksUpAlone redisKey P t) :
    ∃ vs', AtStages sha256 redisKey bodies (Pool.step next P t).threads vs' ∧
      Exclusive sha256 redisKey bodies (Pool.step next P t).store vs' (Pool.step next P t).log := by
  rcases Pool.step_cases next P t with hsame | ⟨p, s, p', x, hget, hnext, hstep⟩
  · rw [hsame]
    exact ⟨vs, h, hP⟩
  · obtain ⟨v, body, hv, hbody, rfl⟩ := h _ _ hget
    obtain ⟨v', rfl, hmove⟩ := Stage.step hm hnext
    rw [hstep]
    refine ⟨vs.set t.thread v', Pool.forall_set_of_ne (fun i q hi hq ↦ ?_) ?_, ?_⟩
    · rw [List.getElem?_set_ne hi]
      exact h i q hq
    · exact ⟨v', body, List.getElem?_set_self (List.getElem?_eq_some_iff.mp hv).1, hbody, rfl⟩
    · rcases hP with hidle | ⟨j, b, w, stored, hhand⟩
      · exact hidle.step hbody hv hmove
      · refine hhand.step hbody hv hmove fun hfresh hnone ↦ ?_
        -- it is about to look the key up, and somebody has
        subst hfresh
        have haction : P.action? t = some (RedisService.lookup redisKey) := by
          unfold Pool.action?
          cases hmove' : t.move with
          | refuse e => exact absurd hmove' (hm e)
          | answer a =>
              rw [hmove'] at hnext
              cases hnext
          | act =>
              dsimp only
              rw [hget]
              rfl
        have hzero := hlooks haction hnone
        rw [hhand.misses] at hzero
        cases hzero

theorem Stage.served_of_program {v : Stage} {body : String} {r : RunResult}
    (h : v.program sha256 redisKey body = .ret r) : v = .served r := by
  cases v <;> cases h
  rfl

theorem Stage.rejected_of_program {v : Stage} {body : String} {e : Failure}
    (h : v.program sha256 redisKey body = .throw e) :
    v = .rejected ∧ e = IdempotencyService.mismatch := by
  cases v <;> cases h
  exact ⟨rfl, rfl⟩

/-- Who is served from an entry has the body that was stored. -/
theorem replay_served {b body : String} {result : WorkResult} {r : RunResult}
    (h : replay sha256 body (entry sha256 b result) = .served r) :
    sha256 b = sha256 body ∧ r.toWorkResult = result := by
  unfold replay at h
  split at h
  case isTrue => cases h
  case isFalse heq =>
    cases h
    exact ⟨not_not.mp heq, rfl⟩

/-- Who is rejected has another one. -/
theorem replay_rejected {b body : String} {result : WorkResult}
    (h : replay sha256 body (entry sha256 b result) = .rejected) : b ≠ body := by
  unfold replay at h
  split at h
  case isTrue hne =>
    rintro rfl
    exact hne rfl
  case isFalse => cases h

/-- Where at most one request is in hand, the promise is kept. -/
theorem Exclusive.atMostOnce {vs : List Stage}
    (hhash : ∀ b ∈ bodies, ∀ b' ∈ bodies, sha256 b = sha256 b' → b = b')
    (h : Exclusive sha256 redisKey bodies P.store vs P.log)
    (hthreads : AtStages sha256 redisKey bodies P.threads vs) : AtMostOnce bodies P := by
  constructor
  case once =>
    rcases h with hidle | ⟨j, b, w, stored, hhand⟩
    · rw [hidle.executions]
      exact Nat.zero_le 1
    · exact hhand.progress.executions_le
  case served =>
    intro i r hi
    obtain ⟨v, body, hv, hbody, hprogram⟩ := hthreads i _ hi
    obtain rfl := Stage.served_of_program hprogram.symm
    rcases h with hidle | ⟨j, b, w, stored, hhand⟩
    · cases hidle.stages i _ hv
    · by_cases hij : i = j
      · subst hij
        cases hv.symm.trans hhand.stage
        obtain rfl := hhand.progress.served
        exact ⟨i, _, body, hhand.progress.log_eq, hbody, hbody, rfl⟩
      · rcases hhand.others i _ hij hv with hfresh | ⟨result, body', hstored, hbody', hrep⟩
        · cases hfresh
        · cases hbody.symm.trans hbody'
          subst hstored
          obtain ⟨hsame, hr⟩ := replay_served hrep.symm
          obtain rfl := hhash _ (List.mem_of_getElem? hhand.owner) _
            (List.mem_of_getElem? hbody) hsame
          exact ⟨j, result, b, hhand.progress.log_eq, hhand.owner, hbody, hr⟩
  case rejected =>
    intro i e hi
    obtain ⟨v, body, hv, hbody, hprogram⟩ := hthreads i _ hi
    obtain ⟨rfl, rfl⟩ := Stage.rejected_of_program hprogram.symm
    refine ⟨rfl, ?_⟩
    rcases h with hidle | ⟨j, b, w, stored, hhand⟩
    · cases hidle.stages i _ hv
    · by_cases hij : i = j
      · subst hij
        exact absurd (Option.some.inj (hhand.stage.symm.trans hv)) hhand.progress.ne_rejected
      · rcases hhand.others i _ hij hv with hfresh | ⟨result, body', hstored, hbody', hrep⟩
        · cases hfresh
        · cases hbody.symm.trans hbody'
          subst hstored
          exact ⟨j, result, b, body, hhand.progress.log_eq, hhand.owner, hbody,
            replay_rejected hrep.symm⟩

end Runs

/-- In a run of requests for a key in which no request looks the key up in vain after another
has, the work is executed at most once and every request is answered from that execution. -/
theorem executed_at_most_once {sha256 : String → String} {endpoint userId idempotencyKey : String}
    (hkey : idempotencyKey ≠ "") {bodies : List String}
    (hhash : ∀ b ∈ bodies, ∀ b' ∈ bodies, sha256 b = sha256 b' → b = b')
    {redis : String → Option StoredResponse}
    (hnew : redis (IdempotencyService.key endpoint userId idempotencyKey) = none)
    {ts : List (Turn WorkResult Failure)} (hmoves : ∀ t ∈ ts, ∀ e, t.move ≠ .refuse e)
    (hlooks : Transition.Along (Pool.step next)
      (IdempotencyService.LooksUpAlone (IdempotencyService.key endpoint userId idempotencyKey))
      (IdempotencyService.pool sha256 endpoint userId idempotencyKey bodies redis) ts) :
    AtMostOnce bodies (Pool.run next
      (IdempotencyService.pool sha256 endpoint userId idempotencyKey bodies redis) ts) := by
  let redisKey := IdempotencyService.key endpoint userId idempotencyKey
  let P := IdempotencyService.pool sha256 endpoint userId idempotencyKey bodies redis
  have hstages : AtStages sha256 redisKey bodies P.threads (bodies.map fun _ ↦ .fresh) := by
    intro i p hp
    rw [show P.threads = bodies.map _ from rfl, List.getElem?_map] at hp
    obtain ⟨body, hbody, rfl⟩ := Option.map_eq_some_iff.mp hp
    exact ⟨.fresh, body, by rw [List.getElem?_map, hbody]; rfl, hbody,
      run_eq_program sha256 hkey body⟩
  have hidle : Idle redisKey P.store (bodies.map fun _ ↦ .fresh) P.log := by
    refine ⟨hnew, rfl, rfl, rfl, fun i v hv ↦ ?_⟩
    rw [List.getElem?_map] at hv
    obtain ⟨-, -, rfl⟩ := Option.map_eq_some_iff.mp hv
    rfl
  have hturns : Transition.Along (Pool.step next)
      (fun _ t ↦ ∀ e : Failure, t.move ≠ .refuse e) P ts :=
    .of_run fun ls₁ t ls₂ hts ↦ hmoves t (hts ▸ List.mem_append_right _ (List.mem_cons_self ..))
  obtain ⟨vs, hthreads, hexclusive⟩ := Transition.Along.run_invariant
    (I := fun P ↦ ∃ vs, AtStages sha256 redisKey bodies P.threads vs ∧
      Exclusive sha256 redisKey bodies P.store vs P.log)
    (fun P t ⟨hm, hlook⟩ ⟨vs, h, hP⟩ ↦ h.step hP hm hlook) ⟨_, hstages, .inl hidle⟩
    (Transition.Along.and.mpr ⟨hturns, hlooks⟩)
  exact hexclusive.atMostOnce hhash hthreads

namespace Sample

/-- The digest of the one body of the samples. -/
def sha256 : String → String
  | "null" => "74234e98afe7498fb5daf1f36ac2d78acc339464f950703b8c019892f982b90b"
  | _ => ""

end Sample

/-- A request is sent again after its response was stored. -/
theorem executed_at_most_once_sample :
    AtMostOnce ["null", "null"] (Pool.run next
      (IdempotencyService.pool Sample.sha256 "escrow.release" "u1" "k1" ["null", "null"]
        fun _ ↦ none)
      [⟨0, .act⟩, ⟨0, .act⟩, ⟨0, .answer ⟨200, "1"⟩⟩, ⟨0, .act⟩, ⟨1, .act⟩]) := by
  refine executed_at_most_once (by decide) (by decide) rfl (fun t ht e he ↦ ?_) ?_
  · simp only [List.mem_cons, List.not_mem_nil, or_false] at ht
    rcases ht with rfl | rfl | rfl | rfl | rfl <;> cases he
  · -- the start of the work and the write of the response are no lookups
    refine ⟨fun _ _ ↦ rfl, fun h _ ↦ ?_, fun h _ ↦ (by cases h), fun h _ ↦ ?_, fun _ h ↦ ?_,
      trivial⟩
    · have happly := congrFun (Option.some.inj h) ⟨fun _ ↦ none, 0, 0⟩
      cases congrArg Cache.executions happly
    · have happly := congrFun (Option.some.inj h) ⟨fun _ ↦ none, 0, 0⟩
      cases congrArg Cache.misses happly
    · cases h

/-- Two requests that look the key up before either has stored its response both run their
work. -/
theorem executed_twice :
    ¬∀ (sha256 : String → String) (endpoint userId idempotencyKey : String),
      idempotencyKey ≠ "" → ∀ bodies : List String,
        (∀ b ∈ bodies, ∀ b' ∈ bodies, sha256 b = sha256 b' → b = b') →
          ∀ redis : String → Option StoredResponse,
            redis (IdempotencyService.key endpoint userId idempotencyKey) = none →
              ∀ ts : List (Turn WorkResult Failure), (∀ t ∈ ts, ∀ e, t.move ≠ .refuse e) →
                AtMostOnce bodies (Pool.run next
                  (IdempotencyService.pool sha256 endpoint userId idempotencyKey bodies redis) ts)
    := by
  intro h
  let ts : List (Turn WorkResult Failure) := [⟨0, .act⟩, ⟨1, .act⟩, ⟨0, .act⟩, ⟨1, .act⟩]
  have honce := (h Sample.sha256 "escrow.release" "u1" "k1" (by decide) ["null", "null"]
    (by decide) (fun _ ↦ none) rfl ts (fun t ht e he ↦ ?_)).once
  · have htwo : (Pool.run next (IdempotencyService.pool Sample.sha256 "escrow.release" "u1" "k1"
        ["null", "null"] fun _ ↦ none) ts).store.executions = 2 := by decide
    rw [htwo] at honce
    omega
  · have hact : ∀ t ∈ ts, t.move = .act := by
      intro t ht
      simp only [ts, List.mem_cons, List.not_mem_nil, or_false] at ht
      rcases ht with rfl | rfl | rfl | rfl <;> rfl
    cases (hact t ht).symm.trans he

end GearshPayments
