import GearshPayments.Fx.Service
import GearshPayments.Resumption.Guarantee
import GearshPayments.Store.Tx
import Mathlib.Algebra.Order.Round

/-!
# Changing the rates

The other half of `fx.service.ts`: an admin pins the rate of a pair and takes it back, and a cron
writes the quotes of a provider, expanded to all pairs.  Each write is one statement.  A quotient
of two floating-point rates, and what `Prisma.Decimal` makes of it, is an arbitrary function of
the rates.
-/

namespace GearshPayments

/-- One unit of `fromCurrency` is worth `rate` units of `toCurrency`. -/
structure ProviderQuote where
  fromCurrency : Currency
  toCurrency : Currency
  rate : ℚ
  asOf : ℕ
deriving DecidableEq

/-- The rate that a quote replaces. -/
def ProviderQuote.HasKey (q : ProviderQuote) (r : ExchangeRate) : Bool :=
  r.fromCurrency = q.fromCurrency ∧ r.toCurrency = q.toCurrency ∧ r.asOf = q.asOf

/-- The rate that a quote is stored as. -/
def ProviderQuote.row (q : ProviderQuote) : ExchangeRate where
  fromCurrency := q.fromCurrency
  toCurrency := q.toCurrency
  rate := q.rate
  asOf := q.asOf

/-- What the rate columns keep of a rate: eight decimals. -/
def rateColumn (rate : ℚ) : ℚ := (round (rate * 10 ^ 8) : ℤ) / 10 ^ 8

namespace Tx

def upsertFxRateOverride (fromCurrency toCurrency : Currency) (rate : ℚ) :
    Tx FxRateOverride := fun s ↦
  let row : FxRateOverride :=
    { fromCurrency, toCurrency, rate := rateColumn rate, updatedAt := s.clock }
  if (s.fxRateOverride? fromCurrency toCurrency).isSome then
    .ok (row, { s with fxRateOverrides := s.fxRateOverrides.map fun o ↦
      if o.fromCurrency = fromCurrency ∧ o.toCurrency = toCurrency then row else o })
  else .ok (row, { s with fxRateOverrides := s.fxRateOverrides ++ [row] })

/-- `deleteMany`. -/
def deleteFxRateOverrides (fromCurrency toCurrency : Currency) : Tx Unit := fun s ↦
  .ok ((), { s with fxRateOverrides := s.fxRateOverrides.filter fun o ↦
    ¬ (o.fromCurrency = fromCurrency ∧ o.toCurrency = toCurrency) })

/-- The pair and the time of a rate are its key. -/
def upsertExchangeRate (q : ProviderQuote) : Tx Unit := fun s ↦
  if s.exchangeRates.any q.HasKey then
    .ok ((), { s with
      exchangeRates := s.exchangeRates.map fun r ↦
        if q.HasKey r then { r with rate := q.rate } else r })
  else .ok ((), { s with exchangeRates := s.exchangeRates ++ [q.row] })

end Tx

namespace FxService

def supported : List Currency := [.zar, .usd, .gbp, .ngn, .kes, .ghs, .aud, .cad]

/-- Pin the rate of a pair. -/
def putOverride (fromCurrency toCurrency : Currency) (rate : ℚ) : Service FxRateOverride := do
  if fromCurrency = toCurrency then
    throw (Failure.withDetail .validationFailed "Cannot override a currency against itself.")
  if rate ≤ 0 then
    throw (Failure.withDetail .validationFailed "Rate must be positive.")
  Resumption.transaction (Tx.upsertFxRateOverride fromCurrency toCurrency rate)

def deleteOverride (fromCurrency toCurrency : Currency) : Service Unit :=
  Resumption.transaction (Tx.deleteFxRateOverrides fromCurrency toCurrency)

section Refresh

variable (quotient : ℚ → ℚ → ℚ)

/-- The rate of a currency against the base, if it has a positive one; a later quote replaces an
earlier one. -/
def fromBase (anchor : List ProviderQuote) (base a : Currency) : Option ℚ :=
  let rate := if a = base then some 1
    else (anchor.filter fun q ↦ q.toCurrency = a).getLast?.map ProviderQuote.rate
  rate.filter fun r ↦ 0 < r

/-- The quotes of all pairs that follow from quotes against one base. -/
def expandPairs (anchor : List ProviderQuote) : List ProviderQuote :=
  match anchor with
  | [] => []
  | first :: _ =>
    supported.flatMap fun a ↦ match fromBase anchor first.fromCurrency a with
      | none => []
      | some aFromBase => supported.filterMap fun b ↦
        (fromBase anchor first.fromCurrency b).map fun bFromBase ↦
          { fromCurrency := a, toCurrency := b, rate := quotient bFromBase aFromBase,
            asOf := first.asOf }

/-- Write quotes one after the other. -/
def writeQuotes : List ProviderQuote → Service Unit
  | [] => return ()
  | q :: qs => do
    Resumption.transaction (Tx.upsertExchangeRate q)
    writeQuotes qs

/-- Write the quotes of the provider, expanded to all pairs. -/
def refresh (quotes : List ProviderQuote) : Service ℕ := do
  let expanded := expandPairs quotient quotes
  writeQuotes expanded
  return expanded.length

end Refresh

end FxService

/-! ## What the writes keep -/

namespace Store

/-- No rate is negative. -/
structure RatesNonneg (s : Store) : Prop where
  exchangeRates : ∀ r ∈ s.exchangeRates, 0 ≤ r.rate
  fxRateOverrides : ∀ o ∈ s.fxRateOverrides, 0 ≤ o.rate

/-- Nothing changes but the clock and the rates, and none of these becomes negative. -/
def RatesChange (s s' : Store) : Prop :=
  (∃ clock exchangeRates fxRateOverrides,
    s' = { s with clock, exchangeRates, fxRateOverrides }) ∧ (s.RatesNonneg → s'.RatesNonneg)

theorem RatesChange.refl (s : Store) : s.RatesChange s :=
  ⟨⟨s.clock, s.exchangeRates, s.fxRateOverrides, rfl⟩, id⟩

theorem RatesChange.paymentIntent? {s s' : Store} (h : s.RatesChange s') (id : ℕ) :
    s'.paymentIntent? id = s.paymentIntent? id := by
  obtain ⟨⟨_, _, _, rfl⟩, -⟩ := h
  rfl

end Store

theorem rateColumn_nonneg {rate : ℚ} (h : 0 ≤ rate) : 0 ≤ rateColumn rate := by
  have hround : 0 ≤ round (rate * 10 ^ 8) := by
    rw [round_eq]
    exact Int.floor_nonneg.mpr (by positivity)
  have hcast : (0 : ℚ) ≤ (round (rate * 10 ^ 8) : ℤ) := by exact_mod_cast hround
  unfold rateColumn
  positivity

theorem Tx.upsertFxRateOverride_change {fromCurrency toCurrency : Currency} {rate : ℚ}
    (hrate : 0 < rate) {s s' : Store} {o : FxRateOverride}
    (h : upsertFxRateOverride fromCurrency toCurrency rate s = .ok (o, s')) : s.RatesChange s' := by
  have hnonneg : 0 ≤ rateColumn rate := rateColumn_nonneg hrate.le
  unfold upsertFxRateOverride at h
  dsimp only at h
  split at h
  · cases h
    refine ⟨⟨_, _, _, rfl⟩, fun hs ↦ ⟨hs.exchangeRates, ?_⟩⟩
    intro o ho
    obtain ⟨x, hx, rfl⟩ := List.mem_map.mp ho
    split
    · exact hnonneg
    · exact hs.fxRateOverrides x hx
  · cases h
    refine ⟨⟨_, _, _, rfl⟩, fun hs ↦ ⟨hs.exchangeRates, ?_⟩⟩
    intro o ho
    obtain ho | ho := List.mem_append.mp ho
    · exact hs.fxRateOverrides o ho
    · rw [List.mem_singleton.mp ho]
      exact hnonneg

theorem Tx.upsertExchangeRate_change {q : ProviderQuote} (hrate : 0 ≤ q.rate) {s s' : Store}
    (h : upsertExchangeRate q s = .ok ((), s')) : s.RatesChange s' := by
  unfold upsertExchangeRate at h
  split at h
  · cases h
    refine ⟨⟨_, _, _, rfl⟩, fun hs ↦ ⟨?_, hs.fxRateOverrides⟩⟩
    intro r hr
    obtain ⟨x, hx, rfl⟩ := List.mem_map.mp hr
    split
    · exact hrate
    · exact hs.exchangeRates x hx
  · cases h
    refine ⟨⟨_, _, _, rfl⟩, fun hs ↦ ⟨?_, hs.fxRateOverrides⟩⟩
    intro r hr
    obtain hr | hr := List.mem_append.mp hr
    · exact hs.exchangeRates r hr
    · rw [List.mem_singleton.mp hr]
      exact hrate

namespace FxService

open Resumption

section Programs

variable {I : Store → Prop} {G : Store → Store → Prop}

theorem guarantees_putOverride_of (hG : ∀ s, I s → G s s) {fromCurrency toCurrency : Currency}
    {rate : ℚ} (h : ∀ s o s', I s → 0 < rate →
      Tx.upsertFxRateOverride fromCurrency toCurrency rate s = .ok (o, s') → G s s') :
    Guarantees I G (putOverride fromCurrency toCurrency rate) := by
  by_cases hpair : fromCurrency = toCurrency
  · simp only [putOverride, if_pos hpair]
    exact guarantees_throw _
  · by_cases hrate : rate ≤ 0
    · simp only [putOverride, if_neg hpair, if_pos hrate]
      exact guarantees_throw _
    · simp only [putOverride, if_neg hpair, if_neg hrate]
      exact guarantees_transaction hG fun s o s' hs ht ↦ h s o s' hs (not_le.mp hrate) ht

theorem guarantees_deleteOverride_of (hG : ∀ s, I s → G s s) {fromCurrency toCurrency : Currency}
    (h : ∀ s s', I s → Tx.deleteFxRateOverrides fromCurrency toCurrency s = .ok ((), s') → G s s') :
    Guarantees I G (deleteOverride fromCurrency toCurrency) :=
  guarantees_transaction hG fun s _ s' hs ht ↦ h s s' hs ht

theorem guarantees_writeQuotes_of (hG : ∀ s, I s → G s s) {quotes : List ProviderQuote}
    (h : ∀ q ∈ quotes, ∀ s s', I s → Tx.upsertExchangeRate q s = .ok ((), s') → G s s') :
    Guarantees I G (writeQuotes quotes) := by
  induction quotes with
  | nil => exact guarantees_ret _
  | cons q qs ih =>
    obtain ⟨hq, hqs⟩ := List.forall_mem_cons.mp h
    have hwrite : Guarantees I G (transaction (Tx.upsertExchangeRate q) : Service Unit) :=
      guarantees_transaction hG fun s _ s' hs ht ↦ hq s s' hs ht
    exact hwrite.bind fun _ ↦ ih hqs

theorem guarantees_refresh_of (hG : ∀ s, I s → G s s) {quotient : ℚ → ℚ → ℚ}
    {quotes : List ProviderQuote} (h : ∀ q ∈ expandPairs quotient quotes, ∀ s s', I s →
      Tx.upsertExchangeRate q s = .ok ((), s') → G s s') :
    Guarantees I G (refresh quotient quotes) :=
  (guarantees_writeQuotes_of hG h).bind fun _ ↦ guarantees_ret _

end Programs

theorem guarantees_putOverride (fromCurrency toCurrency : Currency) (rate : ℚ) :
    Guarantees (fun _ ↦ True) Store.RatesChange (putOverride fromCurrency toCurrency rate) :=
  guarantees_putOverride_of (fun s _ ↦ .refl s) fun _ _ _ _ hrate h ↦
    Tx.upsertFxRateOverride_change hrate h

theorem guarantees_deleteOverride (fromCurrency toCurrency : Currency) :
    Guarantees (fun _ ↦ True) Store.RatesChange (deleteOverride fromCurrency toCurrency) := by
  refine guarantees_deleteOverride_of (fun s _ ↦ .refl s) fun s s' _ h ↦ ?_
  cases h
  exact ⟨⟨_, _, _, rfl⟩, fun hs ↦
    ⟨hs.exchangeRates, fun o ho ↦ hs.fxRateOverrides o (List.mem_of_mem_filter ho)⟩⟩

theorem fromBase_pos {anchor : List ProviderQuote} {base a : Currency} {r : ℚ}
    (h : fromBase anchor base a = some r) : 0 < r :=
  of_decide_eq_true (Option.filter_eq_some_iff.mp h).2

/-- The rates of the expanded quotes are quotients of positive rates. -/
theorem expandPairs_rate {quotient : ℚ → ℚ → ℚ} {anchor : List ProviderQuote} {q : ProviderQuote}
    (h : q ∈ expandPairs quotient anchor) :
    ∃ b a, 0 < b ∧ 0 < a ∧ q.rate = quotient b a := by
  unfold expandPairs at h
  split at h
  · cases h
  · obtain ⟨a, -, h⟩ := List.mem_flatMap.mp h
    split at h
    · cases h
    · rename_i aFromBase ha
      obtain ⟨b, -, hb⟩ := List.mem_filterMap.mp h
      obtain ⟨bFromBase, hpos, rfl⟩ := Option.map_eq_some_iff.mp hb
      exact ⟨bFromBase, aFromBase, fromBase_pos hpos, fromBase_pos ha, rfl⟩

theorem guarantees_refresh {quotient : ℚ → ℚ → ℚ} (hquotient : ∀ b a, 0 < b → 0 < a →
    0 ≤ quotient b a) (quotes : List ProviderQuote) :
    Guarantees (fun _ ↦ True) Store.RatesChange (refresh quotient quotes) := by
  refine guarantees_refresh_of (fun s _ ↦ .refl s) fun q hq s s' _ h ↦ ?_
  obtain ⟨b, a, hb, ha, hrate⟩ := expandPairs_rate hq
  refine Tx.upsertExchangeRate_change ?_ h
  rw [hrate]
  exact hquotient b a hb ha

end FxService

end GearshPayments
