import Mathlib.Control.Basic

/-!
# Resumptions: programs cut at their atomic actions

An asynchronous program that talks to a shared store and to an outside party is
not a function on stores: between two of its awaits anything may happen.  What
it is, is a *resumption*, the tree of what the program does next: return, throw,
run one atomic action on the store, or ask the outside party a question and wait
for the answer.  The same tree is then run alone (`Resumption/Run.lean`) or
interleaved with others (`Resumption/Pool.lean`).

An atomic action either takes place or is refused by its environment; the
continuation is told which, and in the first case it sees the store the action
started from.  This is enough for transactions, which compute their result and
their effect from that same store (`Resumption.transaction`).

Nothing in this library depends on what the store, the questions or the errors
are.
-/

/-- A program over a store `σ` which may ask questions in `Q`, answered in `A`,
and which ends with a value in `α` or an error in `ε`. -/
inductive Resumption (σ Q A ε α : Type) : Type where
  /-- The program has returned. -/
  | ret (a : α) : Resumption σ Q A ε α
  /-- The program has thrown. -/
  | throw (e : ε) : Resumption σ Q A ε α
  /-- One atomic action on the store.  The continuation receives the store the
  action started from, or the error with which the environment refused it. -/
  | atomic (act : σ → σ) (k : Except ε σ → Resumption σ Q A ε α) : Resumption σ Q A ε α
  /-- A question to the outside party. -/
  | ask (q : Q) (k : A → Resumption σ Q A ε α) : Resumption σ Q A ε α

namespace Resumption

variable {σ Q A ε α β γ : Type}

/-- Sequential composition grafts the second program onto the returns of the
first. -/
def bind : Resumption σ Q A ε α → (α → Resumption σ Q A ε β) → Resumption σ Q A ε β
  | .ret a, f => f a
  | .throw e, _ => .throw e
  | .atomic act k, f => .atomic act fun r ↦ (k r).bind f
  | .ask q k, f => .ask q fun a ↦ (k a).bind f

/-- Handle the errors a program ends with. -/
def tryCatch : Resumption σ Q A ε α → (ε → Resumption σ Q A ε α) → Resumption σ Q A ε α
  | .ret a, _ => .ret a
  | .throw e, h => h e
  | .atomic act k, h => .atomic act fun r ↦ (k r).tryCatch h
  | .ask q k, h => .ask q fun a ↦ (k a).tryCatch h

instance instMonad : Monad (Resumption σ Q A ε) where
  pure := .ret
  bind := bind

instance instMonadExcept : MonadExceptOf ε (Resumption σ Q A ε) where
  throw := .throw
  tryCatch := tryCatch

@[simp] theorem pure_eq (a : α) : (pure a : Resumption σ Q A ε α) = .ret a := rfl

@[simp] theorem throw_eq (e : ε) :
    (MonadExcept.throw e : Resumption σ Q A ε α) = .throw e := rfl

@[simp] theorem throwThe_eq (e : ε) :
    (throwThe ε e : Resumption σ Q A ε α) = .throw e := rfl

@[simp] theorem ret_bind (a : α) (f : α → Resumption σ Q A ε β) :
    (Resumption.ret a : Resumption σ Q A ε α) >>= f = f a := rfl

@[simp] theorem throw_bind (e : ε) (f : α → Resumption σ Q A ε β) :
    (Resumption.throw e : Resumption σ Q A ε α) >>= f = .throw e := rfl

@[simp] theorem atomic_bind (act : σ → σ) (k : Except ε σ → Resumption σ Q A ε α)
    (f : α → Resumption σ Q A ε β) :
    (Resumption.atomic act k) >>= f = .atomic act fun r ↦ k r >>= f := rfl

@[simp] theorem ask_bind (q : Q) (k : A → Resumption σ Q A ε α)
    (f : α → Resumption σ Q A ε β) :
    (Resumption.ask q k) >>= f = .ask q fun a ↦ k a >>= f := rfl

@[simp] theorem tryCatch_ret (a : α) (h : ε → Resumption σ Q A ε α) :
    (tryCatchThe ε (Resumption.ret a : Resumption σ Q A ε α) h) = .ret a := rfl

@[simp] theorem tryCatch_throw (e : ε) (h : ε → Resumption σ Q A ε α) :
    (tryCatchThe ε (Resumption.throw e : Resumption σ Q A ε α) h) = h e := rfl

@[simp] theorem tryCatch_atomic (act : σ → σ) (k : Except ε σ → Resumption σ Q A ε α)
    (h : ε → Resumption σ Q A ε α) :
    (tryCatchThe ε (Resumption.atomic act k) h) =
      .atomic act fun r ↦ tryCatchThe ε (k r) h := rfl

@[simp] theorem tryCatch_ask (q : Q) (k : A → Resumption σ Q A ε α)
    (h : ε → Resumption σ Q A ε α) :
    (tryCatchThe ε (Resumption.ask q k) h) = .ask q fun a ↦ tryCatchThe ε (k a) h := rfl

theorem bind_ret (p : Resumption σ Q A ε α) : p.bind .ret = p := by
  induction p with
  | ret a => rfl
  | throw e => rfl
  | atomic act k ih => exact congrArg (Resumption.atomic act) (funext ih)
  | ask q k ih => exact congrArg (Resumption.ask q) (funext ih)

theorem bind_assoc (p : Resumption σ Q A ε α) (f : α → Resumption σ Q A ε β)
    (g : β → Resumption σ Q A ε γ) :
    (p.bind f).bind g = p.bind fun a ↦ (f a).bind g := by
  induction p with
  | ret a => rfl
  | throw e => rfl
  | atomic act k ih => exact congrArg (Resumption.atomic act) (funext ih)
  | ask q k ih => exact congrArg (Resumption.ask q) (funext ih)

instance instLawfulMonad : LawfulMonad (Resumption σ Q A ε) :=
  LawfulMonad.mk' _ bind_ret (fun _ _ ↦ rfl) bind_assoc

/-! ## Actions on the store -/

/-- A transaction: it commits its whole effect when it succeeds and leaves the
store as it was when it throws. -/
def transaction (t : StateT σ (Except ε) α) : Resumption σ Q A ε α :=
  .atomic
    (fun s ↦ match t s with
      | .ok (_, s') => s'
      | .error _ => s)
    (fun r ↦ match r with
      | .error e => .throw e
      | .ok s => match t s with
        | .ok (a, _) => .ret a
        | .error e => .throw e)

/-- A read of the store, as one atomic action. -/
def read (f : σ → α) : Resumption σ Q A ε α :=
  .atomic id fun r ↦ match r with
    | .error e => .throw e
    | .ok s => .ret (f s)

/-- A statement inside an open transaction whose effect nobody sees before the
commit: it may be refused, but it changes nothing. -/
def statement : Resumption σ Q A ε Unit := read fun _ ↦ ()

/-- Put a question to the outside party. -/
def query (q : Q) : Resumption σ Q A ε A := .ask q .ret

/-- A computation that needs neither store nor outside party. -/
def ofExcept : Except ε α → Resumption σ Q A ε α
  | .ok a => .ret a
  | .error e => .throw e

@[simp] theorem ofExcept_ok (a : α) :
    (ofExcept (.ok a) : Resumption σ Q A ε α) = .ret a := rfl

@[simp] theorem ofExcept_error (e : ε) :
    (ofExcept (.error e) : Resumption σ Q A ε α) = .throw e := rfl

end Resumption
