import GearshPayments.PayFast.Client
import GearshPayments.Resumption.Relabel

/-!
# Ad-hoc payments

`PayFastClient.adhocPayment` (`payfast.client.ts`): the request that pays an artist,
and how its outcome is classified.  Refunds and ad-hoc payments go to the same
gateway: an `Engine` program may make both kinds of request.
-/

namespace GearshPayments

structure PayFastAdhocPaymentInput where
  accountHolder : String
  bankName : String
  branchCode : String
  accountNumber : String
  accountType : BankAccountType
  amountCents : ℤ
  reference : String
  description : String
deriving DecidableEq

/-- A request to the gateway. -/
inductive GatewayRequest where
  | refund (input : PayFastRefundInput)
  | adhocPayment (input : PayFastAdhocPaymentInput)
deriving DecidableEq

/-- How a request ends. -/
inductive GatewayReply where
  /-- A response with a status that means success, and the `refund_id`, the `payout_id`
  and the `reference` of its body. -/
  | resolved (status : ℕ) (refundId payoutId reference : Option String)
  /-- An error, as in `HttpOutcome`. -/
  | rejected (status : Option ℕ) (body : ResponseBody) (code : AxiosCode) (message : String)
deriving DecidableEq

/-- The outcome, as a refund reads it. -/
def GatewayReply.toRefund : GatewayReply → HttpOutcome
  | .resolved status refundId _ _ => .resolved status refundId
  | .rejected status body code message => .rejected status body code message

/-- A program of the engine: it works on the store and asks the gateway for refunds and
for payments. -/
abbrev Engine := Resumption Store GatewayRequest GatewayReply Failure

/-- A program that asks for refunds only, as a program of the engine. -/
def Service.toEngine {α : Type} (p : Service α) : Engine α :=
  p.relabel GatewayRequest.refund GatewayReply.toRefund

inductive PayFastAdhocPaymentResult where
  | ok (payoutId : String)
  | failed (retriable : Bool) (status : Option ℕ) (reason : String)
deriving DecidableEq

/-- `config.payfast`, as far as ad-hoc payments read it. -/
structure AdhocConfig extends PayFastConfig where
  adhocPaymentUrl : Option String

namespace PayFastClient

/-- What the outcome of an ad-hoc payment is taken for. -/
def classifyAdhoc : GatewayReply → PayFastAdhocPaymentResult
  | .resolved status _ payoutId reference =>
    let payoutId := payoutId.getD (reference.getD "")
    if payoutId = "" then
      .failed false (some status) "PayFast Adhoc Payments returned 200 with no payout_id."
    else .ok payoutId
  | .rejected status body code message =>
    .failed (retriable status code) status (extractFailureReason body message)

def adhocPayment (config : AdhocConfig) (input : PayFastAdhocPaymentInput) :
    Engine PayFastAdhocPaymentResult :=
  if config.enabled = false then
    return .failed false none ("PayFast credentials are not configured. Set PAYFAST_MERCHANT_ID, " ++
      "PAYFAST_MERCHANT_KEY, PAYFAST_PASSPHRASE, PAYFAST_PROCESS_URL and " ++
      "PAYFAST_ADHOC_PAYMENT_URL via Secret Manager.")
  else if config.adhocPaymentUrl.getD "" = "" then
    return .failed false none "PAYFAST_ADHOC_PAYMENT_URL is not configured."
  else do
    let outcome ← Resumption.query (.adhocPayment input)
    return classifyAdhoc outcome

end PayFastClient

end GearshPayments
