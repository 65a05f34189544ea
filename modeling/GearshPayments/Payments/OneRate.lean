import GearshPayments.Fx.Exact
import GearshPayments.Fx.Rates
import GearshPayments.Payments.Lock

/-!
# One rate for a lock

`lock()` converts the total and the fee of an intent one after the other, each at the rate that
is in force when it is looked up, and stores the rate of the total.  Between the first look-up
and the last one the rate can change.  Where it does not, the row that is stored is converted at
the rate that is stored with it (`locked_at_one_rate`).
-/

namespace GearshPayments

open Resumption PaymentIntentsService

/-- What locks intents, and what changes the rates. -/
inductive RateCall where
  | lock (intentId callerUserId : ℕ) (callerRoles : List String)
  | putOverride (fromCurrency toCurrency : Currency) (rate : ℚ)
  | deleteOverride (fromCurrency toCurrency : Currency)
  | refresh (quotes : List ProviderQuote)
  | tick (clock : ℕ)

section Calls

variable (quotient : ℚ → ℚ → ℚ) (config : LockConfig)

def RateCall.program : RateCall → Service Unit
  | .lock intentId callerUserId callerRoles =>
    discard <| PaymentIntentsService.lock config intentId callerUserId callerRoles
  | .putOverride fromCurrency toCurrency rate =>
    discard <| FxService.putOverride fromCurrency toCurrency rate
  | .deleteOverride fromCurrency toCurrency => FxService.deleteOverride fromCurrency toCurrency
  | .refresh quotes => discard <| FxService.refresh quotient quotes
  | .tick clock => .atomic (fun s ↦ { s with clock }) fun _ ↦ .ret ()

/-- Any number of calls over a store with intents and rates. -/
def RateCall.pool (s : Store) (calls : List RateCall) : ServicePool :=
  ⟨s, calls.map (·.program quotient config), []⟩

end Calls

/-! ## Stages of a lock -/

/-- The second half of the conversion, where no override is pinned. -/
def convertAtLatest (amountCents : ℤ) (fromCurrency toCurrency : Currency) (now : ℕ) :
    Service ConvertedAmount := do
  match ← Resumption.read fun s ↦ s.latestRate fromCurrency toCurrency now with
  | some r => return FxService.converted amountCents fromCurrency toCurrency r.rate r.asOf
  | none => MonadExcept.throw (Failure.withDetail .fxRateUnavailable
      s!"No cached rate for {fromCurrency.name} → {toCurrency.name} at or before {now}.")

/-- Where a lock stands. -/
inductive LockStage where
  | fresh (intentId callerUserId : ℕ) (callerRoles : List String)
  | convertingTotal (intent : PaymentIntent)
  /-- No override is pinned for the total. -/
  | ratingTotal (intent : PaymentIntent) (now : ℕ)
  | convertingFee (intent : PaymentIntent) (locked : ConvertedAmount)
  | ratingFee (intent : PaymentIntent) (locked : ConvertedAmount) (now : ℕ)
  | timing (intent : PaymentIntent) (locked lockedFee : ConvertedAmount)
  | writing (intent : PaymentIntent) (locked lockedFee : ConvertedAmount) (now : ℕ)

section Stages

variable (config : LockConfig)

def writeLock (intent : PaymentIntent) (locked lockedFee : ConvertedAmount) (now : ℕ) :
    Service Unit :=
  discard <| Resumption.transaction (Tx.updatePaymentIntent intent.id
    (lockedRow config locked lockedFee (intent.mPaymentId.getD (toString intent.id)) now))

def timeLock (intent : PaymentIntent) (locked lockedFee : ConvertedAmount) : Service Unit := do
  let now ← Resumption.read Store.clock
  writeLock config intent locked lockedFee now

def lockFee (intent : PaymentIntent) (locked : ConvertedAmount) : Service Unit := do
  let lockedFee ← FxService.convertCurrency intent.serviceFeeCents intent.currency .zar
  timeLock config intent locked lockedFee

/-- What is left of a lock at a stage. -/
def LockStage.program : LockStage → Service Unit
  | .fresh intentId callerUserId callerRoles =>
    discard <| lock config intentId callerUserId callerRoles
  | .convertingTotal intent => do
    let locked ← FxService.convertCurrency intent.totalCents intent.currency .zar
    lockFee config intent locked
  | .ratingTotal intent now => do
    let locked ← convertAtLatest intent.totalCents intent.currency .zar now
    lockFee config intent locked
  | .convertingFee intent locked => lockFee config intent locked
  | .ratingFee intent locked now => do
    let lockedFee ← convertAtLatest intent.serviceFeeCents intent.currency .zar now
    timeLock config intent locked lockedFee
  | .timing intent locked lockedFee => timeLock config intent locked lockedFee
  | .writing intent locked lockedFee now => writeLock config intent locked lockedFee now

/-- An intent that has passed the checks is converted. -/
theorem discard_lockIntent (intent : PaymentIntent) :
    discard (lockIntent config intent) = (LockStage.convertingTotal intent).program config := by
  change (lockIntent config intent >>= fun _ ↦ Resumption.ret PUnit.unit) = _
  unfold lockIntent LockStage.program
  rw [LawfulMonad.bind_assoc]
  refine congrArg _ (funext fun locked ↦ ?_)
  unfold lockFee
  rw [LawfulMonad.bind_assoc]
  refine congrArg _ (funext fun lockedFee ↦ ?_)
  unfold timeLock
  rw [LawfulMonad.bind_assoc]
  refine congrArg _ (funext fun now ↦ ?_)
  rw [LawfulMonad.bind_assoc]
  rfl

end Stages

/-! ## Steps of a conversion -/

/-- What a conversion finds at its first read: its result, or the time of which it wants the
latest rate. -/
inductive Converts (amountCents : ℤ) (fromCurrency toCurrency : Currency) (s : Store) :
    ConvertedAmount ⊕ ℕ → Prop
  | same (h : fromCurrency = toCurrency) :
    Converts amountCents fromCurrency toCurrency s
      (.inl { amountCents, fromCurrency, toCurrency, rate := 1, rateAsOf := s.clock })
  | pinned (hne : fromCurrency ≠ toCurrency) {o : FxRateOverride}
    (h : s.fxRateOverride? fromCurrency toCurrency = some o) :
    Converts amountCents fromCurrency toCurrency s
      (.inl (FxService.converted amountCents fromCurrency toCurrency o.rate o.updatedAt))
  | unpinned (hne : fromCurrency ≠ toCurrency)
    (h : s.fxRateOverride? fromCurrency toCurrency = none) :
    Converts amountCents fromCurrency toCurrency s (.inr s.clock)

section Conversion

variable {amountCents : ℤ} {fromCurrency toCurrency : Currency} {s s' : Store} {p : Service Unit}
  {k : ConvertedAmount → Service Unit} {m : Move HttpOutcome Failure}
  {x : Option (PayFastRefundInput × HttpOutcome)}

/-- The first read of a conversion. -/
theorem next_convertCurrency
    (h : next (FxService.convertCurrency amountCents fromCurrency toCurrency >>= k) m s =
      some (s', p, x)) :
    s' = s ∧ (Ended p ∨ ∃ r, Converts amountCents fromCurrency toCurrency s r ∧
      p = r.elim k fun now ↦ convertAtLatest amountCents fromCurrency toCurrency now >>= k) := by
  by_cases hsame : fromCurrency = toCurrency
  · simp only [FxService.convertCurrency, if_pos hsame] at h
    cases m with
    | act =>
        cases h
        exact ⟨rfl, .inr ⟨_, .same hsame, rfl⟩⟩
    | refuse e =>
        cases h
        exact ⟨rfl, .inl (.inr ⟨e, rfl⟩)⟩
    | answer a => cases h
  · simp only [FxService.convertCurrency, if_neg hsame] at h
    cases m with
    | act =>
        cases hpin : s.fxRateOverride? fromCurrency toCurrency with
        | none =>
            simp only [Resumption.read, atomic_bind, ret_bind, next, hpin] at h
            cases h
            exact ⟨rfl, .inr ⟨_, .unpinned hsame hpin, rfl⟩⟩
        | some o =>
            simp only [Resumption.read, atomic_bind, ret_bind, next, hpin] at h
            cases h
            exact ⟨rfl, .inr ⟨_, .pinned hsame hpin, rfl⟩⟩
    | refuse e =>
        cases h
        exact ⟨rfl, .inl (.inr ⟨e, rfl⟩)⟩
    | answer a => cases h

/-- The second read of a conversion. -/
theorem next_convertAtLatest {now : ℕ}
    (h : next (convertAtLatest amountCents fromCurrency toCurrency now >>= k) m s =
      some (s', p, x)) :
    s' = s ∧ (Ended p ∨ ∃ r, s.latestRate fromCurrency toCurrency now = some r ∧
      p = k (FxService.converted amountCents fromCurrency toCurrency r.rate r.asOf)) := by
  cases m with
  | act =>
      unfold convertAtLatest at h
      cases hrate : s.latestRate fromCurrency toCurrency now with
      | none =>
          simp only [Resumption.read, atomic_bind, ret_bind, next, hrate] at h
          cases h
          exact ⟨rfl, .inl (.inr ⟨_, rfl⟩)⟩
      | some r =>
          simp only [Resumption.read, atomic_bind, ret_bind, next, hrate] at h
          cases h
          exact ⟨rfl, .inr ⟨r, rfl, rfl⟩⟩
  | refuse e =>
      cases h
      exact ⟨rfl, .inl (.inr ⟨e, rfl⟩)⟩
  | answer a => cases h

end Conversion

/-! ## The rate in force -/

namespace PaymentIntent

/-- What an intent is for; a lock does not change it. -/
structure SameTerms (i j : PaymentIntent) : Prop where
  currency : i.currency = j.currency
  totalCents : i.totalCents = j.totalCents
  serviceFeeCents : i.serviceFeeCents = j.serviceFeeCents

/-- The fee is a part of the total. -/
def Priced (i : PaymentIntent) : Prop := 0 ≤ i.serviceFeeCents ∧ i.serviceFeeCents ≤ i.totalCents

/-- The locked amounts are the total and the fee at a rate. -/
structure LockedAt (i : PaymentIntent) (rate : ℚ) : Prop where
  amount : i.zarAmountCentsLocked = some (halfEven (i.totalCents * rate))
  fee : i.zarServiceFeeCentsLocked = some (halfEven (i.serviceFeeCents * rate))
  fee_nonneg : 0 ≤ halfEven (i.serviceFeeCents * rate)
  fee_le : halfEven (i.serviceFeeCents * rate) ≤ halfEven (i.totalCents * rate)

/-- An intent with a locked rate is locked at that rate. -/
def AtOneRate (i : PaymentIntent) : Prop := ∀ rate, i.zarRateLocked = some rate → i.LockedAt rate

theorem SameTerms.refl (i : PaymentIntent) : i.SameTerms i := ⟨rfl, rfl, rfl⟩

theorem SameTerms.trans {i j k : PaymentIntent} (h : i.SameTerms j) (h' : j.SameTerms k) :
    i.SameTerms k :=
  ⟨h.currency.trans h'.currency, h.totalCents.trans h'.totalCents,
    h.serviceFeeCents.trans h'.serviceFeeCents⟩

end PaymentIntent

namespace Store

/-- The rate to rand that a conversion uses if nothing changes while it runs. -/
def rateInForce (s : Store) (c : Currency) : Option ℚ :=
  if c = .zar then some 1
  else match s.fxRateOverride? c .zar with
    | some o => some o.rate
    | none => (s.latestRate c .zar s.clock).map ExchangeRate.rate

/-- The products of all amounts with the rates in force have 20 digits at most. -/
def ExactProducts (s : Store) : Prop :=
  ∀ i ∈ s.paymentIntents, ∀ rate, i.currency ≠ .zar → s.rateInForce i.currency = some rate →
    Decimal.Exact i.totalCents rate ∧ Decimal.Exact i.serviceFeeCents rate

/-- The rates of a currency stay: neither its override nor its rates change, and no rate becomes
due. -/
structure RatesStay (c : Currency) (s s' : Store) : Prop where
  pinned : s'.fxRateOverride? c .zar = s.fxRateOverride? c .zar
  latest : ∀ now, s'.latestRate c .zar now = s.latestRate c .zar now
  due : s'.latestRate c .zar s'.clock = s'.latestRate c .zar s.clock

/-- Intents stay, and keep their terms. -/
def KeepsTerms (s s' : Store) : Prop :=
  ∀ id i, s.paymentIntent? id = some i → ∃ i', s'.paymentIntent? id = some i' ∧ i'.SameTerms i

/-- The store has the intent, up to what locks change. -/
def Knows (s : Store) (intent : PaymentIntent) : Prop :=
  ∃ i, s.paymentIntent? intent.id = some i ∧ i.SameTerms intent

/-- No override is pinned, and the latest rate by `now` is the latest there is. -/
structure Unpinned (s : Store) (c : Currency) (now : ℕ) : Prop where
  ne : c ≠ .zar
  pinned : s.fxRateOverride? c .zar = none
  latest : s.latestRate c .zar now = s.latestRate c .zar s.clock

variable {s s' : Store} {c : Currency}

theorem RatesStay.rateInForce (h : RatesStay c s s') : s'.rateInForce c = s.rateInForce c := by
  unfold Store.rateInForce
  rw [h.pinned, h.due, h.latest]

theorem RatesStay.unpinned (h : RatesStay c s s') {now : ℕ} (hs : s.Unpinned c now) :
    s'.Unpinned c now where
  ne := hs.ne
  pinned := h.pinned.trans hs.pinned
  latest := by rw [h.latest, hs.latest, h.due, h.latest]

theorem KeepsTerms.refl (s : Store) : s.KeepsTerms s := fun _ i h ↦ ⟨i, h, .refl i⟩

theorem KeepsTerms.knows (h : s.KeepsTerms s') {intent : PaymentIntent} (hs : s.Knows intent) :
    s'.Knows intent := by
  obtain ⟨i, hi, hterms⟩ := hs
  obtain ⟨i', hi', hterms'⟩ := h _ i hi
  exact ⟨i', hi', hterms'.trans hterms⟩

theorem RatesChange.keepsTerms (h : s.RatesChange s') : s.KeepsTerms s' :=
  fun id i hi ↦ ⟨i, (h.paymentIntent? id).trans hi, .refl i⟩

theorem Unpinned.rateInForce {now : ℕ} (h : s.Unpinned c now) :
    s.rateInForce c = (s.latestRate c .zar now).map ExchangeRate.rate := by
  unfold Store.rateInForce
  rw [if_neg h.ne, h.pinned, h.latest]

theorem mem_of_latestRate {fromCurrency toCurrency : Currency} {now : ℕ} {r : ExchangeRate}
    (h : s.latestRate fromCurrency toCurrency now = some r) : r ∈ s.exchangeRates :=
  List.mem_of_mem_filter (List.argmax_mem h)

theorem ExactProducts.of_knows (h : s.ExactProducts) {intent : PaymentIntent}
    (hi : s.Knows intent) {rate : ℚ} (hne : intent.currency ≠ .zar)
    (hrate : s.rateInForce intent.currency = some rate) :
    Decimal.Exact intent.totalCents rate ∧ Decimal.Exact intent.serviceFeeCents rate := by
  obtain ⟨i, hfind, hterms⟩ := hi
  rw [← hterms.currency] at hne hrate
  rw [← hterms.totalCents, ← hterms.serviceFeeCents]
  exact h i (Table.find_some hfind).1 rate hne hrate

end Store

/-- A conversion at a rate, with an exact product. -/
structure ConvertedAt (s : Store) (amountCents : ℤ) (c : Currency) (r : ConvertedAmount) :
    Prop where
  inForce : s.rateInForce c = some r.rate
  rate_nonneg : 0 ≤ r.rate
  amount : r.amountCents = halfEven (amountCents * r.rate)

/-- Two conversions at the rate in force are conversions at one rate. -/
theorem ConvertedAt.amount_of_same {s : Store} {amountCents amountCents' : ℤ} {c : Currency}
    {r r' : ConvertedAmount} (h : ConvertedAt s amountCents c r)
    (h' : ConvertedAt s amountCents' c r') :
    r'.amountCents = halfEven (amountCents' * r.rate) := by
  have hrate : r.rate = r'.rate := Option.some.inj (h.inForce.symm.trans h'.inForce)
  rw [hrate]
  exact h'.amount

section Conversion

variable {s : Store} {amountCents : ℤ} {c : Currency}

theorem Converts.convertedAt {r : ConvertedAmount} (h : Converts amountCents c .zar s (.inl r))
    (hs : s.RatesNonneg) (hexact : ∀ rate, c ≠ .zar → s.rateInForce c = some rate →
      Decimal.Exact amountCents rate) : ConvertedAt s amountCents c r := by
  cases h with
  | same heq =>
      refine ⟨if_pos heq, zero_le_one, ?_⟩
      rw [mul_one, halfEven_intCast]
  | @pinned hne o ho =>
      have hrate : s.rateInForce c = some o.rate := by
        rw [Store.rateInForce, if_neg hne, ho]
      exact ⟨hrate, hs.fxRateOverrides o (List.mem_of_find?_eq_some ho),
        roundHalfToEven_mul (hexact _ hne hrate)⟩

theorem Converts.unpinned_clock {now : ℕ} (h : Converts amountCents c .zar s (.inr now)) :
    s.Unpinned c now := by
  cases h with
  | unpinned hne hpin => exact ⟨hne, hpin, rfl⟩

theorem Store.Unpinned.convertedAt {now : ℕ} (h : s.Unpinned c now) (hs : s.RatesNonneg)
    (hexact : ∀ rate, c ≠ .zar → s.rateInForce c = some rate → Decimal.Exact amountCents rate)
    {r : ExchangeRate} (hr : s.latestRate c .zar now = some r) :
    ConvertedAt s amountCents c (FxService.converted amountCents c .zar r.rate r.asOf) := by
  have hrate : s.rateInForce c = some r.rate := by
    rw [h.rateInForce, hr, Option.map_some]
  exact ⟨hrate, hs.exchangeRates r (Store.mem_of_latestRate hr),
    roundHalfToEven_mul (hexact _ h.ne hrate)⟩

end Conversion

/-! ## What holds of a lock on its way -/

/-- What is known at a stage. -/
def LockStage.Holds (s : Store) : LockStage → Prop
  | .fresh _ _ _ => True
  | .convertingTotal intent => s.Knows intent
  | .ratingTotal intent now => s.Knows intent ∧ s.Unpinned intent.currency now
  | .convertingFee intent locked =>
    s.Knows intent ∧ ConvertedAt s intent.totalCents intent.currency locked
  | .ratingFee intent locked now =>
    s.Knows intent ∧ ConvertedAt s intent.totalCents intent.currency locked ∧
      s.Unpinned intent.currency now
  | .timing intent locked lockedFee | .writing intent locked lockedFee _ =>
    s.Knows intent ∧ 0 ≤ locked.rate ∧
      locked.amountCents = halfEven (intent.totalCents * locked.rate) ∧
      lockedFee.amountCents = halfEven (intent.serviceFeeCents * locked.rate)

/-- A lock has made its first look-up of a rate to rand, and not its last. -/
inductive BetweenLookUps (config : LockConfig) : Currency → Service Unit → Prop
  | ratingTotal (intent : PaymentIntent) (now : ℕ) :
    BetweenLookUps config intent.currency ((LockStage.ratingTotal intent now).program config)
  | convertingFee (intent : PaymentIntent) (locked : ConvertedAmount) :
    BetweenLookUps config intent.currency ((LockStage.convertingFee intent locked).program config)
  | ratingFee (intent : PaymentIntent) (locked : ConvertedAmount) (now : ℕ) :
    BetweenLookUps config intent.currency
      ((LockStage.ratingFee intent locked now).program config)

theorem ConvertedAt.stay {s s' : Store} {amountCents : ℤ} {c : Currency} {r : ConvertedAmount}
    (h : ConvertedAt s amountCents c r) (hstay : Store.RatesStay c s s') :
    ConvertedAt s' amountCents c r :=
  ⟨hstay.rateInForce.trans h.inForce, h.rate_nonneg, h.amount⟩

section Steps

variable {config : LockConfig} {s s' : Store} {v : LockStage} {m : Move HttpOutcome Failure}
  {p : Service Unit} {x : Option (PayFastRefundInput × HttpOutcome)}

/-- Others do not disturb a lock, if they leave the rates alone while it looks them up. -/
theorem LockStage.Holds.stable (h : v.Holds s) (hterms : s.KeepsTerms s')
    (hstay : ∀ c, BetweenLookUps config c (v.program config) → Store.RatesStay c s s') :
    v.Holds s' := by
  cases v with
  | fresh id user roles => trivial
  | convertingTotal intent => exact hterms.knows h
  | ratingTotal intent now =>
      exact ⟨hterms.knows h.1, (hstay _ (.ratingTotal intent now)).unpinned h.2⟩
  | convertingFee intent locked =>
      exact ⟨hterms.knows h.1, h.2.stay (hstay _ (.convertingFee intent locked))⟩
  | ratingFee intent locked now =>
      have hrates := hstay _ (.ratingFee intent locked now)
      exact ⟨hterms.knows h.1, h.2.1.stay hrates, hrates.unpinned h.2.2⟩
  | timing intent locked lockedFee => exact ⟨hterms.knows h.1, h.2⟩
  | writing intent locked lockedFee now => exact ⟨hterms.knows h.1, h.2⟩

/-- The rows of the intents. -/
def Store.RowsAtOneRate (s : Store) : Prop :=
  ∀ id i, s.paymentIntent? id = some i → i.Priced ∧ i.AtOneRate

theorem next_lock {id user : ℕ} {roles : List String}
    (h : next (discard (lock config id user roles)) m s = some (s', p, x)) :
    s' = s ∧ (Ended p ∨ ∃ intent, s.paymentIntent? id = some intent ∧
      p = (LockStage.convertingTotal intent).program config) := by
  cases m with
  | act =>
      cases h
      refine ⟨rfl, ?_⟩
      dsimp only
      cases hfound : s.paymentIntent? id with
      | none => exact .inl (.inr ⟨_, rfl⟩)
      | some intent =>
          simp only [Resumption.bind]
          by_cases hdenied : intent.userId ≠ user ∧ "ADMIN" ∉ roles
          · rw [if_pos hdenied]
            exact .inl (.inr ⟨_, rfl⟩)
          · by_cases hstate : intent.state ≠ .created ∧ intent.state ≠ .locked
            · rw [if_neg hdenied, if_pos hstate]
              exact .inl (.inr ⟨_, rfl⟩)
            · rw [if_neg hdenied, if_neg hstate]
              exact .inr ⟨intent, rfl, discard_lockIntent config intent⟩
  | refuse e =>
      cases h
      exact ⟨rfl, .inl (.inr ⟨e, rfl⟩)⟩
  | answer a => cases h

/-- The row that a lock writes. -/
theorem lockedRow_atOneRate {i intent : PaymentIntent} (hterms : i.SameTerms intent)
    (hpriced : i.Priced) {locked lockedFee : ConvertedAmount} (hrate : 0 ≤ locked.rate)
    (hamount : locked.amountCents = halfEven (intent.totalCents * locked.rate))
    (hfee : lockedFee.amountCents = halfEven (intent.serviceFeeCents * locked.rate))
    (mPaymentId : String) (now : ℕ) :
    (lockedRow config locked lockedFee mPaymentId now i).AtOneRate := by
  rintro rate hlocked
  cases hlocked
  have hnonneg : (0 : ℚ) ≤ i.serviceFeeCents * locked.rate :=
    mul_nonneg (by exact_mod_cast hpriced.1) hrate
  have hle : (i.serviceFeeCents * locked.rate : ℚ) ≤ i.totalCents * locked.rate :=
    mul_le_mul_of_nonneg_right (by exact_mod_cast hpriced.2) hrate
  rw [← hterms.totalCents] at hamount
  rw [← hterms.serviceFeeCents] at hfee
  exact ⟨congrArg some hamount, congrArg some hfee, halfEven_nonneg hnonneg, halfEven_mono hle⟩

theorem next_writeLock {intent : PaymentIntent} {locked lockedFee : ConvertedAmount} {now : ℕ}
    (hrows : s.RowsAtOneRate) (hv : (LockStage.writing intent locked lockedFee now).Holds s)
    (h : next (writeLock config intent locked lockedFee now) m s = some (s', p, x)) :
    Ended p ∧ s'.RowsAtOneRate ∧ s.KeepsTerms s' ∧ (s.RatesNonneg → s'.RatesNonneg) := by
  obtain ⟨⟨i, hi, hterms⟩, hrate, hamount, hfee⟩ := hv
  let row := lockedRow config locked lockedFee (intent.mPaymentId.getD (toString intent.id)) now
  cases m with
  | act =>
      have htx := Tx.updatePaymentIntent_apply (f := row) hi
      have hstep : s' = { s with
          paymentIntents := Table.update PaymentIntent.id intent.id row s.paymentIntents } ∧
          p = .ret () := by
        unfold writeLock at h
        change some _ = _ at h
        simp only [row] at h htx
        simp only [htx] at h
        cases h
        exact ⟨rfl, rfl⟩
      obtain ⟨rfl, rfl⟩ := hstep
      have hkey : ∀ i, (row i).id = i.id := fun _ ↦ rfl
      refine ⟨.inl ⟨(), rfl⟩, fun id j hj ↦ ?_, fun id j hj ↦ ?_, fun hs ↦ ⟨hs.1, hs.2⟩⟩
      · rw [Store.paymentIntent?, Table.find_update hkey] at hj
        split at hj
        case isTrue hid =>
          obtain ⟨k, hk, rfl⟩ := Option.map_eq_some_iff.mp hj
          have hpriced : k.Priced := (hrows id k hk).1
          rw [hid] at hk
          cases hi.symm.trans hk
          exact ⟨hpriced, lockedRow_atOneRate hterms hpriced hrate hamount hfee _ _⟩
        case isFalse => exact hrows id j hj
      · rw [Store.paymentIntent?, Table.find_update hkey]
        split
        · exact ⟨row j, Option.map_eq_some_iff.mpr ⟨j, hj, rfl⟩, ⟨rfl, rfl, rfl⟩⟩
        · exact ⟨j, hj, .refl j⟩
  | refuse e =>
      cases h
      exact ⟨.inr ⟨e, rfl⟩, hrows, .refl s, id⟩
  | answer a => cases h

/-- A step of a lock, where the products with the rates in force are exact. -/
theorem LockStage.step (hrows : s.RowsAtOneRate) (hrates : s.RatesNonneg)
    (hexact : s.ExactProducts) (hv : v.Holds s)
    (h : next (v.program config) m s = some (s', p, x)) :
    (s'.RowsAtOneRate ∧ s.KeepsTerms s' ∧ s'.RatesNonneg) ∧
      (Ended p ∨ ∃ v' : LockStage, p = v'.program config ∧ v'.Holds s') := by
  have hsame : s' = s → s'.RowsAtOneRate ∧ s.KeepsTerms s' ∧ s'.RatesNonneg := by
    rintro rfl
    exact ⟨hrows, .refl _, hrates⟩
  cases v with
  | fresh id user roles =>
      obtain ⟨rfl, hended | ⟨intent, hfound, rfl⟩⟩ := next_lock h
      · exact ⟨hsame rfl, .inl hended⟩
      · refine ⟨hsame rfl, .inr ⟨.convertingTotal intent, rfl, intent, ?_, .refl intent⟩⟩
        rwa [(Table.find_some hfound).2]
  | convertingTotal intent =>
      obtain ⟨rfl, hended | ⟨r, hr, rfl⟩⟩ := next_convertCurrency h
      · exact ⟨hsame rfl, .inl hended⟩
      · cases r with
        | inl locked =>
            exact ⟨hsame rfl, .inr ⟨.convertingFee intent locked, rfl, hv,
              hr.convertedAt hrates fun rate hne hrate ↦ (hexact.of_knows hv hne hrate).1⟩⟩
        | inr now => exact ⟨hsame rfl, .inr ⟨.ratingTotal intent now, rfl, hv, hr.unpinned_clock⟩⟩
  | ratingTotal intent now =>
      obtain ⟨hknows, hunpinned⟩ := hv
      obtain ⟨rfl, hended | ⟨r, hr, rfl⟩⟩ := next_convertAtLatest h
      · exact ⟨hsame rfl, .inl hended⟩
      · exact ⟨hsame rfl, .inr ⟨.convertingFee intent _, rfl, hknows, hunpinned.convertedAt hrates
          (fun rate hne hrate ↦ (hexact.of_knows hknows hne hrate).1) hr⟩⟩
  | convertingFee intent locked =>
      obtain ⟨hknows, hlocked⟩ := hv
      obtain ⟨rfl, hended | ⟨r, hr, rfl⟩⟩ := next_convertCurrency h
      · exact ⟨hsame rfl, .inl hended⟩
      · cases r with
        | inl lockedFee =>
            have hfee := hr.convertedAt hrates fun rate hne hrate ↦
              (hexact.of_knows hknows hne hrate).2
            exact ⟨hsame rfl, .inr ⟨.timing intent locked lockedFee, rfl, hknows,
              hlocked.rate_nonneg, hlocked.amount, hlocked.amount_of_same hfee⟩⟩
        | inr now =>
            exact ⟨hsame rfl, .inr ⟨.ratingFee intent locked now, rfl, hknows, hlocked,
              hr.unpinned_clock⟩⟩
  | ratingFee intent locked now =>
      obtain ⟨hknows, hlocked, hunpinned⟩ := hv
      obtain ⟨rfl, hended | ⟨r, hr, rfl⟩⟩ := next_convertAtLatest h
      · exact ⟨hsame rfl, .inl hended⟩
      · have hfee := hunpinned.convertedAt hrates
          (fun rate hne hrate ↦ (hexact.of_knows hknows hne hrate).2) hr
        exact ⟨hsame rfl, .inr ⟨.timing intent locked _, rfl, hknows, hlocked.rate_nonneg,
          hlocked.amount, hlocked.amount_of_same hfee⟩⟩
  | timing intent locked lockedFee =>
      cases m with
      | act =>
          cases h
          exact ⟨hsame rfl, .inr ⟨.writing intent locked lockedFee s.clock, rfl, hv⟩⟩
      | refuse e =>
          cases h
          exact ⟨hsame rfl, .inl (.inr ⟨e, rfl⟩)⟩
      | answer a => cases h
  | writing intent locked lockedFee now =>
      obtain ⟨hended, hrows', hterms, hrates'⟩ := next_writeLock hrows hv h
      exact ⟨⟨hrows', hterms, hrates' hrates⟩, .inl hended⟩

end Steps

/-! ## Runs -/

/-- A thread is a lock at a stage, or does no more than change the rates. -/
def Converting (config : LockConfig) (s : Store) (p : Service Unit) : Prop :=
  Guarantees (fun _ ↦ True) Store.RatesChange p ∨
    ∃ v : LockStage, p = v.program config ∧ v.Holds s

/-- The invariant of the pool. -/
structure OneRateInvariant (config : LockConfig) (P : ServicePool) : Prop where
  rows : P.store.RowsAtOneRate
  rates : P.store.RatesNonneg
  threads : ∀ p ∈ P.threads, Converting config P.store p

/-- The step leaves the rates of a currency alone while a lock is between its look-ups of it. -/
def LeavesRates (config : LockConfig) (P : ServicePool) (t : Turn HttpOutcome Failure) : Prop :=
  ∀ p ∈ P.threads, ∀ c, BetweenLookUps config c p →
    Store.RatesStay c P.store (Pool.step next P t).store

theorem Ended.guarantees {p : Service Unit} (h : Ended p) (I : Store → Prop)
    (G : Store → Store → Prop) : Guarantees I G p := by
  obtain ⟨a, rfl⟩ | ⟨e, rfl⟩ := h
  · trivial
  · trivial

theorem converting_program {quotient : ℚ → ℚ → ℚ}
    (hquotient : ∀ b a, 0 < b → 0 < a → 0 ≤ quotient b a) (config : LockConfig) (s : Store)
    (call : RateCall) : Converting config s (call.program quotient config) := by
  cases call with
  | lock id user roles => exact .inr ⟨.fresh id user roles, rfl, trivial⟩
  | putOverride fromCurrency toCurrency rate =>
      exact .inl (FxService.guarantees_putOverride fromCurrency toCurrency rate).discard
  | deleteOverride fromCurrency toCurrency =>
      exact .inl (FxService.guarantees_deleteOverride fromCurrency toCurrency)
  | refresh quotes => exact .inl (FxService.guarantees_refresh hquotient quotes).discard
  | tick clock =>
      exact .inl ⟨fun s _ ↦ ⟨⟨⟨clock, _, _, rfl⟩, fun hs ↦ ⟨hs.1, hs.2⟩⟩, trivial⟩,
        fun _ ↦ trivial⟩

theorem OneRateInvariant.step {config : LockConfig} {P : ServicePool}
    {t : Turn HttpOutcome Failure} (hP : OneRateInvariant config P)
    (hexact : P.store.ExactProducts) (hleaves : LeavesRates config P t) :
    OneRateInvariant config (Pool.step next P t) := by
  rcases Pool.step_cases next P t with h | ⟨p, s, p', x, hget, hnext, h⟩
  · rw [h]
    exact hP
  · -- what the thread of the turn does
    have hown : (s.RowsAtOneRate ∧ P.store.KeepsTerms s ∧ s.RatesNonneg) ∧
        Converting config s p' := by
      rcases hP.threads p (List.mem_of_getElem? hget) with hg | ⟨v, rfl, hv⟩
      · obtain ⟨hchange, hg'⟩ := hg.next (fun s _ ↦ .refl s) trivial hnext
        refine ⟨⟨fun id i hi ↦ ?_, hchange.keepsTerms, hchange.2 hP.rates⟩, .inl hg'⟩
        rw [hchange.paymentIntent?] at hi
        exact hP.rows id i hi
      · obtain ⟨hkept, hended | hstage⟩ := LockStage.step hP.rows hP.rates hexact hv hnext
        · exact ⟨hkept, .inl (hended.guarantees _ _)⟩
        · exact ⟨hkept, .inr hstage⟩
    obtain ⟨⟨hrows, hterms, hrates⟩, hp'⟩ := hown
    have hstay : ∀ q ∈ P.threads, ∀ c, BetweenLookUps config c q → Store.RatesStay c P.store s := by
      intro q hq c hbetween
      have hleft := hleaves q hq c hbetween
      rwa [h] at hleft
    rw [h]
    refine ⟨hrows, hrates, fun q hq ↦ ?_⟩
    rcases List.mem_or_eq_of_mem_set hq with hq | rfl
    · rcases hP.threads q hq with hg | ⟨v, rfl, hv⟩
      · exact .inl hg
      · exact .inr ⟨v, rfl, hv.stable hterms (hstay _ hq)⟩
    · exact hp'

/-- In a run in which the rates to rand stay while a lock looks them up, every locked intent has
its total and its fee converted at the rate that is stored with them. -/
theorem locked_at_one_rate {quotient : ℚ → ℚ → ℚ}
    (hquotient : ∀ b a, 0 < b → 0 < a → 0 ≤ quotient b a) (config : LockConfig) {s : Store}
    (hrows : s.RowsAtOneRate) (hrates : s.RatesNonneg) (calls : List RateCall)
    {ts : List (Turn HttpOutcome Failure)}
    (hexact : Transition.Along (Pool.step next) (fun P _ ↦ P.store.ExactProducts)
      (RateCall.pool quotient config s calls) ts)
    (hleaves : Transition.Along (Pool.step next) (LeavesRates config)
      (RateCall.pool quotient config s calls) ts) {id : ℕ} {i : PaymentIntent}
    (hi : (Pool.run next (RateCall.pool quotient config s calls) ts).store.paymentIntent? id =
      some i) : i.AtOneRate := by
  have hpool : OneRateInvariant config (RateCall.pool quotient config s calls) := by
    refine ⟨hrows, hrates, fun p hp ↦ ?_⟩
    obtain ⟨call, -, rfl⟩ := List.mem_map.mp hp
    exact converting_program hquotient config s call
  have hrun := Transition.Along.run_invariant
    (fun P t hP hinv ↦ OneRateInvariant.step hinv hP.1 hP.2) hpool
    (Transition.Along.and.mpr ⟨hexact, hleaves⟩)
  exact (hrun.rows id i hi).2

namespace Sample

/-- A booking in dollars. -/
def dollars : PaymentIntent :=
  { fresh with
    currency := .usd, subtotalCents := 9000, serviceFeeCents := 1000, totalCents := 10000 }

/-- A dollar is worth 18 rand. -/
def atEighteen : Store :=
  { Store.empty 0 10 [dollars] with
    exchangeRates := [{ fromCurrency := .usd, toCurrency := .zar, rate := 18, asOf := 0 }] }

/-- The client locks, and an admin pins the dollar to 20 rand. -/
def pinCalls : List RateCall := [.lock 1 3 [], .putOverride .usd .zar 20]

/-- Division, to eight decimals. -/
def quotient (b a : ℚ) : ℚ := rateColumn (b / a)

/-- The pin is committed between the conversions of the total and of the fee. -/
def pinBetween : List (Turn HttpOutcome Failure) :=
  List.replicate 3 ⟨0, .act⟩ ++ ⟨1, .act⟩ :: List.replicate 3 ⟨0, .act⟩

theorem quotient_nonneg (b a : ℚ) (hb : 0 < b) (ha : 0 < a) : 0 ≤ quotient b a :=
  rateColumn_nonneg (by positivity)

theorem exactProducts_dollars {s : Store} {rate : ℚ}
    (hterms : s.paymentIntents.map (fun i ↦ (i.currency, i.totalCents, i.serviceFeeCents)) =
      [(.usd, 10000, 1000)]) (hrate : s.rateInForce .usd = some rate)
    (hrates : rate = 18 ∨ rate = 20) : s.ExactProducts := by
  intro i hi rate' _ hrate'
  have hmem := List.mem_map_of_mem (f := fun i ↦ (i.currency, i.totalCents, i.serviceFeeCents)) hi
  rw [hterms, List.mem_singleton] at hmem
  simp only [Prod.mk.injEq] at hmem
  obtain ⟨hcurrency, htotal, hfee⟩ := hmem
  rw [hcurrency] at hrate'
  cases hrate.symm.trans hrate'
  rw [htotal, hfee]
  obtain rfl | rfl := hrates
  · exact ⟨by decide +kernel, by decide +kernel⟩
  · exact ⟨by decide +kernel, by decide +kernel⟩

/-- The pool in which they run. -/
def pinPool : ServicePool := RateCall.pool quotient ⟨15⟩ atEighteen pinCalls

theorem pinBetween_exact : Transition.Along (Pool.step next)
    (fun P _ ↦ P.store.ExactProducts) pinPool pinBetween := by
  refine ⟨?_, ?_, ?_, ?_, ?_, ?_, ?_, trivial⟩
  · exact exactProducts_dollars rfl rfl (.inl rfl)
  · exact exactProducts_dollars rfl rfl (.inl rfl)
  · exact exactProducts_dollars rfl rfl (.inl rfl)
  · exact exactProducts_dollars rfl rfl (.inl rfl)
  · exact exactProducts_dollars rfl rfl (.inr (by decide +kernel))
  · exact exactProducts_dollars rfl rfl (.inr (by decide +kernel))
  · exact exactProducts_dollars rfl rfl (.inr (by decide +kernel))

theorem rowsAtOneRate_atEighteen : atEighteen.RowsAtOneRate := by
  intro id i hi
  rw [List.mem_singleton.mp (Table.find_some hi).1]
  exact ⟨by constructor <;> decide, fun rate h ↦ by cases h⟩

theorem ratesNonneg_atEighteen : atEighteen.RatesNonneg where
  exchangeRates := by
    intro r hr
    rw [List.mem_singleton.mp hr]
    norm_num
  fxRateOverrides := by
    intro o ho
    cases ho

end Sample

/-- The fee is converted at 20 rand for a dollar and stored with a rate of 18. -/
theorem lock_at_two_rates :
    Sample.atEighteen.RowsAtOneRate ∧ Sample.atEighteen.RatesNonneg ∧
      Transition.Along (Pool.step next) (fun P _ ↦ P.store.ExactProducts) Sample.pinPool
        Sample.pinBetween ∧
      ∃ i, (Pool.run next Sample.pinPool Sample.pinBetween).store.paymentIntent? 1 = some i ∧
        ¬ i.AtOneRate := by
  refine ⟨Sample.rowsAtOneRate_atEighteen, Sample.ratesNonneg_atEighteen,
    Sample.pinBetween_exact, _, rfl, fun h ↦ ?_⟩
  have hfee : roundHalfToEven (Decimal.mul 1000 (rateColumn 20)) = halfEven ((1000 : ℚ) * 18) :=
    Option.some.inj (h 18 rfl).fee
  exact absurd hfee (by decide +kernel)

/-- A lock that nobody disturbs. -/
theorem locked_at_one_rate_sample :
    ∃ i, (Pool.run next (RateCall.pool Sample.quotient ⟨15⟩ Sample.atEighteen [.lock 1 3 []])
      (List.replicate 7 ⟨0, .act⟩)).store.paymentIntent? 1 = some i ∧
      i.zarRateLocked = some 18 ∧ i.AtOneRate := by
  refine ⟨_, rfl, rfl, ?_⟩
  refine locked_at_one_rate Sample.quotient_nonneg ⟨15⟩ Sample.rowsAtOneRate_atEighteen
    Sample.ratesNonneg_atEighteen [.lock 1 3 []] ?_ ?_
    (show (Pool.run next (RateCall.pool Sample.quotient ⟨15⟩ Sample.atEighteen [.lock 1 3 []])
      (List.replicate 7 ⟨0, .act⟩)).store.paymentIntent? 1 = some _ from rfl)
  · have hexact : ∀ {P : ServicePool}, P.store.paymentIntents = [Sample.dollars] →
        P.store.rateInForce .usd = some 18 → P.store.ExactProducts := by
      intro P hintents hrate
      exact Sample.exactProducts_dollars (by rw [hintents]; rfl) hrate (.inl rfl)
    exact ⟨hexact rfl rfl, hexact rfl rfl, hexact rfl rfl, hexact rfl rfl, hexact rfl rfl,
      hexact rfl rfl, hexact rfl rfl, trivial⟩
  · have hleaves : ∀ {P : ServicePool} {t : Turn HttpOutcome Failure},
        (∀ c, Store.RatesStay c P.store (Pool.step next P t).store) → LeavesRates ⟨15⟩ P t :=
      fun h _ _ c _ ↦ h c
    refine ⟨hleaves fun c ↦ ?_, hleaves fun c ↦ ?_, hleaves fun c ↦ ?_, hleaves fun c ↦ ?_,
      hleaves fun c ↦ ?_, hleaves fun c ↦ ?_, hleaves fun c ↦ ?_, trivial⟩
    all_goals exact ⟨rfl, fun _ ↦ rfl, rfl⟩

end GearshPayments
