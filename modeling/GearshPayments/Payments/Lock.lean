import GearshPayments.Payments.ExactlyOnce
import GearshPayments.Payments.Intents

/-!
# Locking beside capturing

`lock()` reads the intent, checks its state, converts two amounts and then writes, by id
and without looking again.  A notification that commits in between has settled the
intent, and the write takes it back to `LOCKED`.  What a lock leaves alone, it leaves
alone in exactly the runs in which no intent has a charge row when a lock writes it.
-/

namespace GearshPayments

open Resumption PaymentIntentsService PayFastWebhookService

/-- What reads or writes an intent while it is being paid for. -/
inductive LockCall where
  | lock (intentId callerUserId : ℕ) (callerRoles : List String)
  | intent (call : IntentCall)
  /-- Time passes and the rates change. -/
  | rates (clock : ℕ) (exchangeRates : List ExchangeRate) (fxRateOverrides : List FxRateOverride)

def LockCall.program (config : PayFastConfig) (lockConfig : LockConfig) : LockCall → Service Unit
  | .lock intentId callerUserId callerRoles =>
    discard <| PaymentIntentsService.lock lockConfig intentId callerUserId callerRoles
  | .intent call => call.program config
  | .rates clock exchangeRates fxRateOverrides =>
    .atomic (fun s ↦ { s with clock, exchangeRates, fxRateOverrides }) fun _ ↦ .ret ()

abbrev ServicePool := Pool Store PayFastRefundInput HttpOutcome (Service Unit)

/-- Any number of calls over a store in which nothing has been captured. -/
def LockCall.pool (config : PayFastConfig) (lockConfig : LockConfig) (clock nextId : ℕ)
    (intents : List PaymentIntent) (calls : List LockCall) : ServicePool :=
  ⟨Store.empty clock nextId intents, calls.map (·.program config lockConfig), []⟩

/-- The columns that a lock fixes. -/
def PaymentIntent.lockedColumns (i : PaymentIntent) : Option ℤ × Option ℤ × Option ℚ :=
  (i.zarAmountCentsLocked, i.zarServiceFeeCentsLocked, i.zarRateLocked)

namespace Store

/-- The intent is in a state from which it can be locked. -/
def Lockable (s : Store) (id : ℕ) : Prop :=
  ∃ i, s.paymentIntent? id = some i ∧ (i.state = .created ∨ i.state = .locked)

/-- A notification or a development completion has been committed for the intent. -/
def Charged (s : Store) (id : ℕ) : Prop := ∃ t ∈ s.transactions, t.paymentIntentId = id

/-- The intent keeps its state unless it could be locked, and with a hold it keeps what
was locked. -/
structure LeavesSettled (id : ℕ) (s s' : Store) : Prop where
  state : ∀ i, s.paymentIntent? id = some i → ¬s.Lockable id →
    (s'.paymentIntent? id).map PaymentIntent.state = some i.state
  captured : s.HasHold id → (s'.paymentIntent? id).map PaymentIntent.lockedColumns =
    (s.paymentIntent? id).map PaymentIntent.lockedColumns

end Store

/-- The step, if it is one of a lock, leaves settled intents alone. -/
def LockSafe (calls : List LockCall) (P : ServicePool) (t : Turn HttpOutcome Failure) : Prop :=
  ∀ id user roles, calls[t.thread]? = some (.lock id user roles) →
    P.store.LeavesSettled id (Pool.step next P t).store

/-- The step, if it is one of a lock and changes the store, finds no charge row of its
intent. -/
def LockUncharged (calls : List LockCall) (P : ServicePool) (t : Turn HttpOutcome Failure) : Prop :=
  ∀ id user roles, calls[t.thread]? = some (.lock id user roles) →
    (Pool.step next P t).store ≠ P.store → ¬P.store.Charged id

/-! ## What the threads do -/

/-- A lock writes the row of its intent, once it is there. -/
def LockWrites (id : ℕ) (s s' : Store) : Prop :=
  s' = s ∨ ∃ config locked lockedFee mPaymentId now,
    (s.paymentIntent? id).isSome = true ∧ s' = { s with
      paymentIntents := Table.update PaymentIntent.id id
        (lockedRow config locked lockedFee mPaymentId now) s.paymentIntents }

/-- The other calls touch intents, charges and holds only to settle an intent. -/
inductive Settles (s s' : Store) : Prop
  | nothing (intents : s'.paymentIntents = s.paymentIntents)
    (transactions : s'.transactions = s.transactions) (holds : s'.escrowHolds = s.escrowHolds)
  | charge {args : CommitArgs} {state : IntentState} {t : Transaction}
    (settled : state = .succeeded ∨ state = .failed)
    (found : (s.paymentIntent? args.intentId).isSome = true)
    (intents : s'.paymentIntents =
      Table.update PaymentIntent.id args.intentId (args.settle state) s.paymentIntents)
    (transactions : s'.transactions = s.transactions ++ [t])
    (charged : t.paymentIntentId = args.intentId)
    (holds : ∀ h ∈ s'.escrowHolds, h ∈ s.escrowHolds ∨ h.paymentIntentId = args.intentId)

/-- The program has ended. -/
def Ended (p : Service Unit) : Prop := (∃ a, p = .ret a) ∨ ∃ e, p = .throw e

/-- The program is about to read the intent, and ends if it cannot be locked. -/
def Careful (id : ℕ) (p : Service Unit) : Prop :=
  ∃ k, p = .atomic (fun s ↦ s) k ∧ (∀ s, ¬s.Lockable id → Ended (k (.ok s))) ∧
    ∀ e, Ended (k (.error e))

theorem Ended.next {p : Service Unit} (h : Ended p) (m : Move HttpOutcome Failure) (s : Store) :
    next p m s = none := by
  rcases h with ⟨a, rfl⟩ | ⟨e, rfl⟩
  · cases m <;> rfl
  · cases m <;> rfl

theorem Careful.next {id : ℕ} {p p' : Service Unit} (h : Careful id p)
    {m : Move HttpOutcome Failure} {s s' : Store} {x : Option (PayFastRefundInput × HttpOutcome)}
    (hn : next p m s = some (s', p', x)) : s' = s ∧ (s.Lockable id ∨ Ended p') := by
  obtain ⟨k, rfl, hok, herror⟩ := h
  cases m with
  | act =>
      cases hn
      refine ⟨rfl, ?_⟩
      by_cases hl : s.Lockable id
      · exact .inl hl
      · exact .inr (hok s hl)
  | refuse e =>
      cases hn
      exact ⟨rfl, .inr (herror e)⟩
  | answer a => cases hn

theorem guarantees_convertCurrency {G : Store → Store → Prop} (hG : ∀ s, G s s) (amountCents : ℤ)
    (fromCurrency toCurrency : Currency) :
    Guarantees (fun _ ↦ True) G
      (FxService.convertCurrency amountCents fromCurrency toCurrency) := by
  unfold FxService.convertCurrency
  split
  · exact (guarantees_read (fun s _ ↦ hG s) _).bind fun _ ↦ trivial
  · refine (guarantees_read (fun s _ ↦ hG s) _).bind fun r ↦ ?_
    obtain ⟨override, now⟩ := r
    cases override with
    | some o => trivial
    | none =>
        refine (guarantees_read (fun s _ ↦ hG s) _).bind fun rate ↦ ?_
        cases rate with
        | some r => trivial
        | none => trivial

theorem guarantees_lock (lockConfig : LockConfig) (id user : ℕ) (roles : List String) :
    Guarantees (fun _ ↦ True) (LockWrites id) (lock lockConfig id user roles) := by
  have hrefl : ∀ s : Store, LockWrites id s s := fun _ ↦ .inl rfl
  unfold lock
  refine guarantees_read_bind (fun s _ ↦ hrefl s) fun s₀ _ ↦ ?_
  cases hfound : s₀.paymentIntent? id with
  | none => exact guarantees_throw _
  | some intent =>
      have hid : intent.id = id := (Table.find_some hfound).2
      dsimp only
      split
      · exact guarantees_throw _
      · split
        · exact guarantees_throw _
        · refine (guarantees_convertCurrency hrefl ..).bind fun locked ↦ ?_
          refine (guarantees_convertCurrency hrefl ..).bind fun lockedFee ↦ ?_
          refine (guarantees_read (fun s _ ↦ hrefl s) _).bind fun now ↦ ?_
          refine (guarantees_transaction (fun s _ ↦ hrefl s) fun s a s' _ h ↦ ?_).bind
            fun _ ↦ trivial
          rw [hid] at h
          cases hi : s.paymentIntent? id with
          | none => simp [Tx.updatePaymentIntent, hi] at h
          | some i =>
              rw [Tx.updatePaymentIntent_apply hi] at h
              cases h
              exact .inr ⟨lockConfig, locked, lockedFee, _, now, by rw [hi]; rfl, rfl⟩

theorem careful_lock (lockConfig : LockConfig) (id user : ℕ) (roles : List String) :
    Careful id (discard (lock lockConfig id user roles)) := by
  refine ⟨_, rfl, fun s hl ↦ ?_, fun e ↦ .inr ⟨e, rfl⟩⟩
  dsimp only
  cases hfound : s.paymentIntent? id with
  | none => exact .inr ⟨_, rfl⟩
  | some intent =>
      have hstate : intent.state ≠ .created ∧ intent.state ≠ .locked :=
        not_or.mp fun h ↦ hl ⟨intent, hfound, h⟩
      simp only [Resumption.bind]
      by_cases hdenied : intent.userId ≠ user ∧ "ADMIN" ∉ roles
      · rw [if_pos hdenied]
        exact .inr ⟨_, rfl⟩
      · rw [if_neg hdenied, if_pos hstate]
        exact .inr ⟨_, rfl⟩

theorem settles_of_commit_ok {args : CommitArgs} {fee : ℤ} {s s' : Store}
    (h : commit args fee s = .ok ((), s')) : Settles s s' := by
  by_cases hst : args.paymentStatus = .complete
  · rw [commit_of_complete hst] at h
    rcases of_commitComplete_ok h with ⟨-, rfl⟩ | ⟨hc, rfl⟩
    · exact .nothing rfl rfl rfl
    · refine .charge (.inl rfl) hc.intent rfl rfl rfl fun h hm ↦ ?_
      rcases List.mem_append.mp hm with hm | hm
      · exact .inl hm
      · rw [List.mem_singleton.mp hm]
        exact .inr rfl
  · rw [commit_of_ne hst] at h
    rcases of_commitFailed_ok h with ⟨-, rfl⟩ | ⟨-, hi, rfl⟩
    · exact .nothing rfl rfl rfl
    · exact .charge (.inr rfl) hi rfl rfl rfl fun h hm ↦ .inl hm

theorem guarantees_intentCall (config : PayFastConfig) (call : IntentCall) :
    Guarantees (fun _ ↦ True) Settles (call.program config) := by
  have hrefl : ∀ s : Store, True → Settles s s := fun _ _ ↦ .nothing rfl rfl rfl
  cases call with
  | itn normalised traceparent tracestate =>
      exact guarantees_handle hrefl (fun _ _ _ _ _ h ↦ settles_of_commit_ok h) config
  | devComplete production intentId callerUserId callerRoles =>
      refine guarantees_devComplete hrefl ?_ production callerUserId callerRoles
      intro s₀ s s' intent zarAmount fee mPaymentId _ _ _ h
      exact settles_of_commit_ok ((congrFun (commit_of_complete rfl fee) s).trans h)

/-! ## What holds between the steps -/

namespace Store

variable {s s' : Store} {id : ℕ}

theorem lockable_congr (h : s'.paymentIntent? id = s.paymentIntent? id) :
    s'.Lockable id ↔ s.Lockable id := by
  rw [Lockable, Lockable, h]

theorem paymentIntent?_congr (h : s'.paymentIntents = s.paymentIntents) (id : ℕ) :
    s'.paymentIntent? id = s.paymentIntent? id := by
  rw [paymentIntent?, paymentIntent?, h]

/-- An update of one intent, seen from another. -/
theorem paymentIntent?_update_of_ne {f : PaymentIntent → PaymentIntent} {id' : ℕ}
    (hkey : ∀ i, (f i).id = i.id) (hne : id ≠ id')
    (h : s'.paymentIntents = Table.update PaymentIntent.id id' f s.paymentIntents) :
    s'.paymentIntent? id = s.paymentIntent? id := by
  change Table.find _ _ s'.paymentIntents = _
  rw [h]
  exact Table.find_update_of_ne hkey hne _

/-- An update of an intent that is there. -/
theorem paymentIntent?_update_self {f : PaymentIntent → PaymentIntent} {i : PaymentIntent}
    (hkey : ∀ i, (f i).id = i.id) (hi : s.paymentIntent? id = some i)
    (h : s'.paymentIntents = Table.update PaymentIntent.id id f s.paymentIntents) :
    s'.paymentIntent? id = some (f i) := by
  change Table.find _ _ s'.paymentIntents = _
  rw [h]
  exact Table.find_update_self hkey hi

/-- Charges settle intents, and there is no hold without a charge. -/
structure Settled (s : Store) : Prop where
  charged : ∀ id, s.Charged id → ¬s.Lockable id
  holds : ∀ id, s.HasHold id → s.Charged id

theorem Settled.empty (clock nextId : ℕ) (intents : List PaymentIntent) :
    (Store.empty clock nextId intents).Settled where
  charged := by
    rintro id ⟨t, ht, -⟩
    cases ht
  holds := by
    rintro id ⟨h, hm, -⟩
    cases hm

end Store

namespace Settles

variable {s s' : Store}

theorem charged_iff {args : CommitArgs} {t : Transaction} (ht : t.paymentIntentId = args.intentId)
    (h : s'.transactions = s.transactions ++ [t]) (id : ℕ) :
    s'.Charged id ↔ s.Charged id ∨ args.intentId = id := by
  constructor
  · rintro ⟨x, hx, hid⟩
    rw [h] at hx
    rcases List.mem_append.mp hx with hx | hx
    · exact .inl ⟨x, hx, hid⟩
    · rw [List.mem_singleton.mp hx, ht] at hid
      exact .inr hid
  · rintro (⟨x, hx, hid⟩ | hid)
    · exact ⟨x, by rw [h]; exact List.mem_append_left _ hx, hid⟩
    · exact ⟨t, by rw [h]; exact List.mem_append_right _ (.head _), ht.trans hid⟩

/-- The intent that was charged cannot be locked afterwards. -/
theorem not_lockable {args : CommitArgs} {state : IntentState}
    (hst : state = .succeeded ∨ state = .failed)
    (hi : (s.paymentIntent? args.intentId).isSome = true)
    (h : s'.paymentIntents =
      Table.update PaymentIntent.id args.intentId (args.settle state) s.paymentIntents) :
    ¬s'.Lockable args.intentId := by
  obtain ⟨i, hi⟩ := Option.isSome_iff_exists.mp hi
  rintro ⟨x, hx, hstate⟩
  have hself := Store.paymentIntent?_update_self (f := args.settle state) (fun _ ↦ rfl) hi h
  cases hself.symm.trans hx
  have hstate : state = .created ∨ state = .locked := hstate
  rcases hst with rfl | rfl <;> rcases hstate with hc | hc <;> cases hc

theorem settled (h : Settles s s') (hs : s.Settled) : s'.Settled := by
  cases h with
  | nothing intents transactions holds =>
      have hcharged : ∀ id, s'.Charged id ↔ s.Charged id := by
        intro id
        rw [Store.Charged, Store.Charged, transactions]
      constructor
      · intro id hc
        rw [Store.lockable_congr (Store.paymentIntent?_congr intents id)]
        exact hs.charged id ((hcharged id).mp hc)
      · rintro id ⟨x, hm, hid⟩
        rw [holds] at hm
        exact (hcharged id).mpr (hs.holds id ⟨x, hm, hid⟩)
  | @charge args state t settled found intents transactions charged holds =>
      have hcharged := charged_iff charged transactions
      constructor
      · intro id hc
        by_cases hid : args.intentId = id
        · subst hid
          exact not_lockable settled found intents
        · have hsame := Store.paymentIntent?_update_of_ne (f := args.settle state) (fun _ ↦ rfl)
            (Ne.symm hid) intents
          rw [Store.lockable_congr hsame]
          exact hs.charged id (((hcharged id).mp hc).resolve_right hid)
      · rintro id ⟨x, hm, hid⟩
        rcases holds x hm with hm | hm
        · exact (hcharged id).mpr (.inl (hs.holds id ⟨x, hm, hid⟩))
        · exact (hcharged id).mpr (.inr (hm.symm.trans hid))

/-- An intent that can be locked can be locked afterwards or has been charged. -/
theorem lockable_or_charged (h : Settles s s') {id : ℕ} (hs : s.Lockable id ∨ s.Charged id) :
    s'.Lockable id ∨ s'.Charged id := by
  cases h with
  | nothing intents transactions holds =>
      rw [Store.lockable_congr (Store.paymentIntent?_congr intents id),
        Store.Charged, transactions]
      exact hs
  | @charge args state t settled found intents transactions charged holds =>
      have hcharged := charged_iff charged transactions
      by_cases hid : args.intentId = id
      · exact .inr ((hcharged id).mpr (.inr hid))
      · have hsame := Store.paymentIntent?_update_of_ne (f := args.settle state) (fun _ ↦ rfl)
          (Ne.symm hid) intents
        rw [Store.lockable_congr hsame]
        exact hs.imp_right fun hc ↦ (hcharged id).mpr (.inl hc)

end Settles

/-- What a lock writes, where it finds no charge. -/
theorem LockWrites.settled {id : ℕ} {s s' : Store} (h : LockWrites id s s')
    (hc : s' ≠ s → ¬s.Charged id) (hs : s.Settled) :
    s'.Settled ∧ ∀ id', s.Lockable id' ∨ s.Charged id' → s'.Lockable id' ∨ s'.Charged id' := by
  rcases h with rfl | ⟨config, locked, lockedFee, mPaymentId, now, hi, heq⟩
  · exact ⟨hs, fun _ h ↦ h⟩
  · by_cases hne : s' = s
    · subst hne
      exact ⟨hs, fun _ h ↦ h⟩
    · have hfree := hc hne
      have hintents : s'.paymentIntents = Table.update PaymentIntent.id id
          (lockedRow config locked lockedFee mPaymentId now) s.paymentIntents := by rw [heq]
      have hcharged : ∀ id', s'.Charged id' ↔ s.Charged id' := by
        intro id'
        rw [heq]
        exact Iff.rfl
      have hother : ∀ id', id' ≠ id → (s'.Lockable id' ↔ s.Lockable id') := by
        intro id' hid
        exact Store.lockable_congr (Store.paymentIntent?_update_of_ne
          (f := lockedRow config locked lockedFee mPaymentId now) (fun _ ↦ rfl) hid hintents)
      obtain ⟨i, hi⟩ := Option.isSome_iff_exists.mp hi
      have hself := Store.paymentIntent?_update_self (f := lockedRow config locked lockedFee
        mPaymentId now) (fun _ ↦ rfl) hi hintents
      refine ⟨⟨fun id' hc ↦ ?_, ?_⟩, fun id' hor ↦ ?_⟩
      · have hc := (hcharged id').mp hc
        have hid : id' ≠ id := fun e ↦ hfree (e ▸ hc)
        rw [hother id' hid]
        exact hs.charged id' hc
      · rintro id' ⟨x, hm, hid⟩
        rw [heq] at hm
        exact (hcharged id').mpr (hs.holds id' ⟨x, hm, hid⟩)
      · by_cases hid : id' = id
        · subst hid
          exact .inl ⟨_, hself, .inr rfl⟩
        · rw [hother id' hid, hcharged id']
          exact hor

/-- What is known of a thread, whatever it has done so far. -/
def LockCall.Conduct (s : Store) (p : Service Unit) : LockCall → Prop
  | .lock id _ _ => Guarantees (fun _ ↦ True) (LockWrites id) p ∧
      (Careful id p ∨ Ended p ∨ s.Lockable id ∨ s.Charged id)
  | _ => Guarantees (fun _ ↦ True) Settles p

/-- The invariant of the pool. -/
structure LockInvariant (calls : List LockCall) (P : ServicePool) : Prop where
  settled : P.store.Settled
  threads : ∀ (i : ℕ) p, P.threads[i]? = some p → ∃ c : LockCall,
    calls[i]? = some c ∧ c.Conduct P.store p

namespace LockInvariant

variable {calls : List LockCall} {P : ServicePool} {t : Turn HttpOutcome Failure}

theorem pool (config : PayFastConfig) (lockConfig : LockConfig) (clock nextId : ℕ)
    (intents : List PaymentIntent) (calls : List LockCall) :
    LockInvariant calls (LockCall.pool config lockConfig clock nextId intents calls) where
  settled := .empty clock nextId intents
  threads := by
    intro i p hp
    change (calls.map _)[i]? = some p at hp
    rw [List.getElem?_map] at hp
    obtain ⟨c, hc, rfl⟩ := Option.map_eq_some_iff.mp hp
    refine ⟨c, hc, ?_⟩
    cases c with
    | lock id user roles =>
        exact ⟨(guarantees_lock lockConfig id user roles).discard,
          .inl (careful_lock lockConfig id user roles)⟩
    | intent call => exact guarantees_intentCall config call
    | rates clock exchangeRates fxRateOverrides =>
        exact ⟨fun s _ ↦ ⟨.nothing rfl rfl rfl, trivial⟩, fun _ ↦ trivial⟩

/-- A step of a lock leaves settled intents alone exactly if it finds no charge where it
writes. -/
theorem safe_iff (hP : LockInvariant calls P) (t : Turn HttpOutcome Failure) :
    LockSafe calls P t ↔ LockUncharged calls P t := by
  refine forall_congr' fun id ↦ forall_congr' fun user ↦ forall_congr' fun roles ↦
    forall_congr' fun hcall ↦ ?_
  rcases Pool.step_cases next P t with h | ⟨p, s, p', x, hget, hnext, h⟩
  · rw [h]
    exact iff_of_true ⟨fun i hi _ ↦ by rw [hi]; rfl, fun _ ↦ rfl⟩ fun hne ↦ absurd rfl hne
  · rw [h]
    obtain ⟨c, hc, hconduct⟩ := hP.threads _ _ hget
    cases hcall.symm.trans hc
    obtain ⟨hg, hstage⟩ := hconduct
    obtain ⟨hw, -⟩ := hg.next (fun _ _ ↦ .inl rfl) trivial hnext
    rcases hw with rfl | ⟨config, locked, lockedFee, mPaymentId, now, hi, heq⟩
    · exact iff_of_true ⟨fun i hi _ ↦ by rw [hi]; rfl, fun _ ↦ rfl⟩ fun hne ↦ absurd rfl hne
    · obtain ⟨i, hi⟩ := Option.isSome_iff_exists.mp hi
      have hintents : s.paymentIntents = Table.update PaymentIntent.id id
          (lockedRow config locked lockedFee mPaymentId now) P.store.paymentIntents := by rw [heq]
      have hself := Store.paymentIntent?_update_self (f := lockedRow config locked lockedFee
        mPaymentId now) (fun _ ↦ rfl) hi hintents
      constructor
      · intro hsafe _ hcharged
        have hnot := hP.settled.charged id hcharged
        have hstate := hsafe.state i hi hnot
        rw [hself] at hstate
        exact hnot ⟨i, hi, .inr (Option.some.inj hstate).symm⟩
      · intro hfree
        by_cases hsame : s = P.store
        · rw [hsame]
          exact ⟨fun i hi _ ↦ by rw [hi]; rfl, fun _ ↦ rfl⟩
        · have hfree := hfree hsame
          have hlock : P.store.Lockable id := by
            rcases hstage with hcareful | hended | hl | hcharged
            · exact absurd (hcareful.next hnext).1 hsame
            · rw [hended.next] at hnext
              cases hnext
            · exact hl
            · exact absurd hcharged hfree
          exact ⟨fun _ _ hnot ↦ absurd hlock hnot,
            fun hhold ↦ absurd (hP.settled.holds id hhold) hfree⟩

/-- Such steps keep the invariant. -/
theorem step (hP : LockInvariant calls P) (hfree : LockUncharged calls P t) :
    LockInvariant calls (Pool.step next P t) := by
  rcases Pool.step_cases next P t with h | ⟨p, s, p', x, hget, hnext, h⟩
  · rw [h]
    exact hP
  · obtain ⟨c, hc, hconduct⟩ := hP.threads _ _ hget
    -- what the step does to the store, and what is known of its own thread
    have hown : s.Settled ∧
        (∀ id, P.store.Lockable id ∨ P.store.Charged id → s.Lockable id ∨ s.Charged id) ∧
        c.Conduct s p' := by
      cases c with
      | lock id user roles =>
          obtain ⟨hg, hstage⟩ := hconduct
          obtain ⟨hw, hg'⟩ := hg.next (fun _ _ ↦ .inl rfl) trivial hnext
          have hwrites : s ≠ P.store → ¬P.store.Charged id := by
            have := hfree id user roles hc
            rwa [h] at this
          obtain ⟨hsettled, hkeep⟩ := hw.settled hwrites hP.settled
          refine ⟨hsettled, hkeep, hg', ?_⟩
          rcases hstage with hcareful | hended | hor
          · obtain ⟨rfl, hl | he⟩ := hcareful.next hnext
            · exact .inr (.inr (.inl hl))
            · exact .inr (.inl he)
          · rw [hended.next] at hnext
            cases hnext
          · exact .inr (.inr (hkeep id hor))
      | intent call =>
          obtain ⟨hw, hg'⟩ := hconduct.next (fun _ _ ↦ .nothing rfl rfl rfl) trivial hnext
          exact ⟨hw.settled hP.settled, fun _ ↦ hw.lockable_or_charged, hg'⟩
      | rates clock exchangeRates fxRateOverrides =>
          obtain ⟨hw, hg'⟩ := hconduct.next (fun _ _ ↦ .nothing rfl rfl rfl) trivial hnext
          exact ⟨hw.settled hP.settled, fun _ ↦ hw.lockable_or_charged, hg'⟩
    obtain ⟨hsettled, hkeep, hconduct'⟩ := hown
    rw [h]
    refine ⟨hsettled, Pool.forall_set_of_ne (fun i q _ hq ↦ ?_) ⟨c, hc, hconduct'⟩⟩
    obtain ⟨d, hd, hdq⟩ := hP.threads i q hq
    refine ⟨d, hd, ?_⟩
    cases d with
    | lock id user roles => exact ⟨hdq.1, hdq.2.imp_right (Or.imp_right (hkeep id))⟩
    | intent call => exact hdq
    | rates clock exchangeRates fxRateOverrides => exact hdq

end LockInvariant

/-- In a run of locks, notifications, development completions and changes of the rates,
every step of a lock leaves settled intents alone exactly when no lock writes an intent
that has a charge row. -/
theorem lock_safe_iff (config : PayFastConfig) (lockConfig : LockConfig) (clock nextId : ℕ)
    (intents : List PaymentIntent) (calls : List LockCall)
    (ts : List (Turn HttpOutcome Failure)) :
    Transition.Along (Pool.step next) (LockSafe calls)
        (LockCall.pool config lockConfig clock nextId intents calls) ts ↔
      Transition.Along (Pool.step next) (LockUncharged calls)
        (LockCall.pool config lockConfig clock nextId intents calls) ts := by
  have hiff : ∀ P t, LockInvariant calls P → (LockSafe calls P t ↔ LockUncharged calls P t) :=
    fun _ t hP ↦ hP.safe_iff t
  have hstep : ∀ P t, LockInvariant calls P → LockSafe calls P t →
      LockInvariant calls (Pool.step next P t) :=
    fun P t hP hsafe ↦ hP.step ((hiff P t hP).mp hsafe)
  exact Transition.Along.congr hiff hstep
    (LockInvariant.pool config lockConfig clock nextId intents calls) ts

namespace Sample

/-- The intent before its first lock. -/
def fresh : PaymentIntent :=
  { intent with
    state := .created
    mPaymentId := none
    zarAmountCentsLocked := none
    zarServiceFeeCentsLocked := none }

/-- The client presses "Pay" twice and pays. -/
def lockCalls : List LockCall :=
  [.lock 1 3 [], .lock 1 3 [], .intent (notification .complete).call]

/-- The first lock writes, the second has converted its amounts, and the notification
commits. -/
def beforeWrite : List (Turn HttpOutcome Failure) :=
  List.replicate 5 ⟨0, .act⟩ ++ List.replicate 4 ⟨1, .act⟩ ++ List.replicate 2 ⟨2, .act⟩

/-- The pool in which they run. -/
def lockPool : ServicePool := LockCall.pool config.payfast ⟨15⟩ 0 10 [fresh] lockCalls

end Sample

/-- The second lock writes after the payment has been captured. -/
theorem lock_overwrites :
    ¬∀ (config : PayFastConfig) (lockConfig : LockConfig) (clock nextId : ℕ)
      (intents : List PaymentIntent) (calls : List LockCall) (ts : List (Turn HttpOutcome Failure)),
      Transition.Along (Pool.step next) (LockSafe calls)
        (LockCall.pool config lockConfig clock nextId intents calls) ts := by
  intro h
  have hlast := (h Sample.config.payfast ⟨15⟩ 0 10 [Sample.fresh] Sample.lockCalls
    (Sample.beforeWrite ++ [⟨1, .act⟩])).last
  have hsafe := hlast 1 3 [] rfl
  have hbefore : ((Pool.run next Sample.lockPool Sample.beforeWrite).store.paymentIntent? 1).map
      PaymentIntent.state = some .succeeded := rfl
  have hafter : ((Pool.step next (Pool.run next Sample.lockPool Sample.beforeWrite)
      ⟨1, .act⟩).store.paymentIntent? 1).map PaymentIntent.state = some .locked := rfl
  obtain ⟨i, hi, hst⟩ := Option.map_eq_some_iff.mp hbefore
  have hkept := hsafe.state i hi fun hl ↦ ?_
  · rw [hst] at hkept
    cases hkept.symm.trans hafter
  · obtain ⟨x, hx, hstate⟩ := hl
    cases hi.symm.trans hx
    rw [hst] at hstate
    rcases hstate with h | h <;> cases h

end GearshPayments
