import GearshPayments.Fx.Rounding
import GearshPayments.PayFast.Client
import Mathlib.Data.List.MinMax

/-!
# Foreign exchange

`fx.service.ts`: the conversion every caller uses.  An admin's override beats the
cached rates of the pair; among these the latest one that is not in the future
counts.
-/

namespace GearshPayments

/-- The name of a currency in messages. -/
def Currency.name : Currency → String
  | .zar => "ZAR"
  | .usd => "USD"
  | .gbp => "GBP"
  | .ngn => "NGN"
  | .kes => "KES"
  | .ghs => "GHS"
  | .aud => "AUD"
  | .cad => "CAD"

structure ConvertedAmount where
  amountCents : ℤ
  fromCurrency : Currency
  toCurrency : Currency
  rate : ℚ
  /-- The time of the rate row used. -/
  rateAsOf : ℕ
deriving DecidableEq

namespace Store

/-- The override of a pair. -/
def fxRateOverride? (s : Store) (fromCurrency toCurrency : Currency) : Option FxRateOverride :=
  s.fxRateOverrides.find? fun o ↦ o.fromCurrency = fromCurrency ∧ o.toCurrency = toCurrency

/-- The latest cached rate of a pair at or before an instant. -/
def latestRate (s : Store) (fromCurrency toCurrency : Currency) (now : ℕ) : Option ExchangeRate :=
  (s.exchangeRates.filter fun r ↦
    r.fromCurrency = fromCurrency ∧ r.toCurrency = toCurrency ∧ r.asOf ≤ now).argmax
      ExchangeRate.asOf

end Store

namespace FxService

/-- The amount at a rate. -/
def converted (amountCents : ℤ) (fromCurrency toCurrency : Currency) (rate : ℚ) (rateAsOf : ℕ) :
    ConvertedAmount :=
  { amountCents := roundHalfToEven (Decimal.mul amountCents rate), fromCurrency, toCurrency, rate,
    rateAsOf }

/-- Convert an amount at the present rate.  Every currency of the schema is
supported. -/
def convertCurrency (amountCents : ℤ) (fromCurrency toCurrency : Currency) :
    Service ConvertedAmount := do
  if fromCurrency = toCurrency then
    let now ← Resumption.read Store.clock
    return { amountCents, fromCurrency, toCurrency, rate := 1, rateAsOf := now }
  let (override, now) ← Resumption.read fun s ↦
    (s.fxRateOverride? fromCurrency toCurrency, s.clock)
  match override with
  | some o => return converted amountCents fromCurrency toCurrency o.rate o.updatedAt
  | none =>
    match ← Resumption.read fun s ↦ s.latestRate fromCurrency toCurrency now with
    | some r => return converted amountCents fromCurrency toCurrency r.rate r.asOf
    | none => throw (Failure.withDetail .fxRateUnavailable
        s!"No cached rate for {fromCurrency.name} → {toCurrency.name} at or before {now}.")

end FxService

end GearshPayments
