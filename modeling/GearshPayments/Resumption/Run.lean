import Mathlib.Data.Nat.Notation
import GearshPayments.Resumption.Basic

/-!
# Running a resumption alone

`Resumption.run` runs a program from a store with nobody else acting on it.  The
environment supplies what the program does not decide: the answers to its
questions and, for each atomic action, whether it is refused and with what
error.  `Env.healthy` is the environment that refuses nothing; the run lemmas
with `healthy` in their name are the ones for it.
-/

namespace Resumption

variable {σ Q A ε α β : Type}

/-- What the environment of a run decides: the answers, in the order in which
they are asked for, and the refusals of the atomic actions, in their order. -/
structure Env (A ε : Type) where
  /-- The answer to the `n`-th question. -/
  answers : ℕ → A
  /-- The error with which the `n`-th atomic action is refused, if it is. -/
  faults : ℕ → Option ε

namespace Env

/-- What remains of the environment after an atomic action. -/
def afterAction (env : Env A ε) : Env A ε := { env with faults := fun n ↦ env.faults (n + 1) }

/-- What remains of the environment after a question. -/
def afterAnswer (env : Env A ε) : Env A ε := { env with answers := fun n ↦ env.answers (n + 1) }

/-- The environment that refuses no action. -/
def healthy (answers : ℕ → A) : Env A ε := ⟨answers, fun _ ↦ none⟩

end Env

/-- What a run leaves behind. -/
structure Run (σ Q A ε α : Type) where
  /-- The value returned or the error thrown. -/
  result : Except ε α
  /-- The store at the end. -/
  store : σ
  /-- The part of the environment the run did not use. -/
  env : Env A ε
  /-- The questions asked, each with its answer, in order. -/
  exchanges : List (Q × A)

/-- Run a program alone. -/
def run : Resumption σ Q A ε α → Env A ε → σ → Run σ Q A ε α
  | .ret a, env, s => ⟨.ok a, s, env, []⟩
  | .throw e, env, s => ⟨.error e, s, env, []⟩
  | .atomic act k, env, s => match env.faults 0 with
    | none => (k (.ok s)).run env.afterAction (act s)
    | some e => (k (.error e)).run env.afterAction s
  | .ask q k, env, s =>
    let r := (k (env.answers 0)).run env.afterAnswer s
    { r with exchanges := (q, env.answers 0) :: r.exchanges }

/-- Continue a finished run with a program that depends on the value returned. -/
def Run.andThen (r : Run σ Q A ε α) (f : α → Resumption σ Q A ε β) : Run σ Q A ε β :=
  match r.result with
  | .error e => ⟨.error e, r.store, r.env, r.exchanges⟩
  | .ok a =>
    let r' := (f a).run r.env r.store
    { r' with exchanges := r.exchanges ++ r'.exchanges }

@[simp] theorem run_ret (a : α) (env : Env A ε) (s : σ) :
    (Resumption.ret a : Resumption σ Q A ε α).run env s = ⟨.ok a, s, env, []⟩ := rfl

@[simp] theorem run_throw (e : ε) (env : Env A ε) (s : σ) :
    (Resumption.throw e : Resumption σ Q A ε α).run env s = ⟨.error e, s, env, []⟩ := rfl

@[simp] theorem run_ask (q : Q) (k : A → Resumption σ Q A ε α) (env : Env A ε) (s : σ) :
    (Resumption.ask q k).run env s =
      { (k (env.answers 0)).run env.afterAnswer s with
        exchanges := (q, env.answers 0) ::
          ((k (env.answers 0)).run env.afterAnswer s).exchanges } :=
  rfl

/-- The run of a sequential composition continues the run of its first part. -/
theorem run_bind (p : Resumption σ Q A ε α) (f : α → Resumption σ Q A ε β) (env : Env A ε)
    (s : σ) : (p >>= f).run env s = (p.run env s).andThen f := by
  induction p generalizing env s with
  | ret a => rfl
  | throw e => rfl
  | atomic act k ih =>
      rw [atomic_bind, run, run]
      cases env.faults 0 with
      | none => exact ih _ _ _
      | some e => exact ih _ _ _
  | ask q k ih =>
      rw [ask_bind, run_ask, ih, run_ask]
      simp only [Run.andThen]
      cases ((k (env.answers 0)).run env.afterAnswer s).result <;> rfl

/-- What follows a part that returned runs on from where it ended. -/
theorem run_bind_ok {p : Resumption σ Q A ε α} {f : α → Resumption σ Q A ε β}
    {env env' : Env A ε} {s s' : σ} {a : α} {xs : List (Q × A)}
    (h : p.run env s = ⟨.ok a, s', env', xs⟩) :
    (p >>= f).run env s =
      { (f a).run env' s' with exchanges := xs ++ ((f a).run env' s').exchanges } := by
  rw [run_bind, h]
  rfl

/-- Nothing follows a part that threw. -/
theorem run_bind_error {p : Resumption σ Q A ε α} {f : α → Resumption σ Q A ε β}
    {env env' : Env A ε} {s s' : σ} {e : ε} {xs : List (Q × A)}
    (h : p.run env s = ⟨.error e, s', env', xs⟩) :
    (p >>= f).run env s = ⟨.error e, s', env', xs⟩ := by
  rw [run_bind, h]
  rfl

/-- Where the first part asked nothing. -/
theorem run_bind_ok_nil {p : Resumption σ Q A ε α} {f : α → Resumption σ Q A ε β}
    {env env' : Env A ε} {s s' : σ} {a : α} (h : p.run env s = ⟨.ok a, s', env', []⟩) :
    (p >>= f).run env s = (f a).run env' s' :=
  run_bind_ok h

/-- A handled run is the run itself when it returned, and otherwise continues
with the handler from where the program threw. -/
theorem run_tryCatch (p : Resumption σ Q A ε α) (h : ε → Resumption σ Q A ε α)
    (env : Env A ε) (s : σ) :
    (tryCatchThe ε p h).run env s = match (p.run env s).result with
      | .ok _ => p.run env s
      | .error e =>
        let r := p.run env s
        let r' := (h e).run r.env r.store
        { r' with exchanges := r.exchanges ++ r'.exchanges } := by
  induction p generalizing env s with
  | ret a => rfl
  | throw e => rfl
  | atomic act k ih =>
      rw [tryCatch_atomic, run, run]
      cases env.faults 0 with
      | none => exact ih _ _ _
      | some e => exact ih _ _ _
  | ask q k ih =>
      rw [tryCatch_ask, run_ask, ih, run_ask]
      cases ((k (env.answers 0)).run env.afterAnswer s).result <;> rfl

/-! ## Actions -/

theorem run_read {env : Env A ε} (h : env.faults 0 = none) (f : σ → α) (s : σ) :
    (read f : Resumption σ Q A ε α).run env s = ⟨.ok (f s), s, env.afterAction, []⟩ := by
  simp only [read, run, h]
  rfl

theorem run_read_refused {env : Env A ε} {e : ε} (h : env.faults 0 = some e) (f : σ → α) (s : σ) :
    (read f : Resumption σ Q A ε α).run env s = ⟨.error e, s, env.afterAction, []⟩ := by
  simp only [read, run, h]

theorem run_transaction {env : Env A ε} (h : env.faults 0 = none) {t : StateT σ (Except ε) α}
    {s s' : σ} {a : α} (ht : t s = .ok (a, s')) :
    (transaction t : Resumption σ Q A ε α).run env s = ⟨.ok a, s', env.afterAction, []⟩ := by
  simp only [transaction, run, h, ht]

theorem run_transaction_error {env : Env A ε} (h : env.faults 0 = none)
    {t : StateT σ (Except ε) α} {s : σ} {e : ε} (ht : t s = .error e) :
    (transaction t : Resumption σ Q A ε α).run env s = ⟨.error e, s, env.afterAction, []⟩ := by
  simp only [transaction, run, h, ht]

theorem run_transaction_refused {env : Env A ε} {e : ε} (h : env.faults 0 = some e)
    (t : StateT σ (Except ε) α) (s : σ) :
    (transaction t : Resumption σ Q A ε α).run env s = ⟨.error e, s, env.afterAction, []⟩ := by
  simp only [transaction, run, h]

/-- A program whose value is dropped. -/
theorem run_discard {p : Resumption σ Q A ε α} {env env' : Env A ε} {s s' : σ} {a : α}
    {xs : List (Q × A)} (h : p.run env s = ⟨.ok a, s', env', xs⟩) :
    (discard p : Resumption σ Q A ε PUnit).run env s = ⟨.ok ⟨⟩, s', env', xs⟩ := by
  change (p >>= fun _ ↦ Resumption.ret PUnit.unit).run env s = _
  rw [run_bind_ok h, run_ret, List.append_nil]

theorem run_discard_error {p : Resumption σ Q A ε α} {env env' : Env A ε} {s s' : σ} {e : ε}
    {xs : List (Q × A)} (h : p.run env s = ⟨.error e, s', env', xs⟩) :
    (discard p : Resumption σ Q A ε PUnit).run env s = ⟨.error e, s', env', xs⟩ :=
  run_bind_error h

/-- What is made of a program's value has no part in the store it leaves. -/
theorem store_bind_pure (p : Resumption σ Q A ε α) (f : α → β) (env : Env A ε) (s : σ) :
    ((p >>= fun a ↦ pure (f a)).run env s).store = (p.run env s).store := by
  rw [run_bind, Run.andThen]
  cases (p.run env s).result with
  | error e => rfl
  | ok a => rfl

theorem store_discard (p : Resumption σ Q A ε α) (env : Env A ε) (s : σ) :
    ((discard p : Resumption σ Q A ε PUnit).run env s).store = (p.run env s).store :=
  store_bind_pure p _ env s

/-- A program whose throw is turned into a value runs as it does, and returns. -/
theorem run_tryCatch_none (p : Resumption σ Q A ε α) (env : Env A ε) (s : σ) :
    ∃ outcome, (tryCatchThe ε (some <$> p) fun _ ↦ return none).run env s =
      ⟨.ok outcome, (p.run env s).store, (p.run env s).env, (p.run env s).exchanges⟩ := by
  rw [run_tryCatch, map_eq_pure_bind, run_bind, Run.andThen]
  cases hresult : (p.run env s).result with
  | ok a => exact ⟨some a, congrArg _ (List.append_nil _)⟩
  | error e => exact ⟨none, congrArg _ (List.append_nil _)⟩

/-! ## Actions in a healthy environment -/

@[simp] theorem run_read_healthy (f : σ → α) (answers : ℕ → A) (s : σ) :
    (read f : Resumption σ Q A ε α).run (.healthy answers) s =
      ⟨.ok (f s), s, .healthy answers, []⟩ := rfl

end Resumption
