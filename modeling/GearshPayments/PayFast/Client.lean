import GearshPayments.PayFast.Forms
import GearshPayments.Problem
import GearshPayments.Resumption.Basic
import GearshPayments.Store.Schema

/-!
# The PayFast client

`PayFastClient.refund` (`payfast.client.ts`): one HTTP request, and how its
outcome is classified.  What is asked of the gateway is the argument of the call:
the address, the body and its signature are functions of it and of the
configuration.
-/

namespace GearshPayments

/-- `config.payfast`, as far as refunds and ITNs read it. -/
structure PayFastConfig where
  enabled : Bool
  refundUrl : Option String
  merchantId : Option String

structure PayFastRefundInput where
  pfPaymentId : String
  amountCents : ℤ
  reason : String
deriving DecidableEq

/-- The body of an error response. -/
inductive ResponseBody where
  | empty
  | text (s : String)
  /-- A JSON object, with its `message` and `error` where these are strings. -/
  | object (message error : Option String)
deriving DecidableEq

/-- The codes of request errors that the client looks at. -/
inductive AxiosCode where
  | econnaborted | etimedout | econnreset | other
deriving DecidableEq

/-- How an HTTP request ends. -/
inductive HttpOutcome where
  /-- A response with a status that means success, and the `refund_id` of its body. -/
  | resolved (status : ℕ) (refundId : Option String)
  /-- An error: the status and body of the response, if there was one, the code and
  the message of the error. -/
  | rejected (status : Option ℕ) (body : ResponseBody) (code : AxiosCode) (message : String)
deriving DecidableEq

/-- A program of this service: it works on the store and asks the gateway for refunds. -/
abbrev Service := Resumption Store PayFastRefundInput HttpOutcome Failure

inductive PayFastRefundResult where
  | ok (refundId : String)
  | failed (retriable : Bool) (status : Option ℕ) (reason : String)
deriving DecidableEq

/-- The length of a string in UTF-16 code units. -/
def utf16Length (s : String) : ℕ := (s.toList.map fun c ↦ if c.toNat < 0x10000 then 1 else 2).sum

/-- A human-readable reason for a failure. -/
def extractFailureReason (data : ResponseBody) (message : String) : String :=
  let fallback := if message = "" then "PayFast refund endpoint failed." else message
  match data with
  | .empty => fallback
  | .text s => if s ≠ "" ∧ utf16Length s < 500 then s else fallback
  | .object (some m) e => if m ≠ "" then m else match e with
    | some e => if e ≠ "" then e else fallback
    | none => fallback
  | .object none (some e) => if e ≠ "" then e else fallback
  | .object none none => fallback

namespace PayFastClient

/-- 5xx, timeouts and network errors are retriable, 4xx is terminal. -/
def retriable (status : Option ℕ) (code : AxiosCode) : Bool :=
  status.all (500 ≤ ·) || code = .econnaborted || code = .etimedout || code = .econnreset

/-- What a request's outcome is taken for. -/
def classify : HttpOutcome → PayFastRefundResult
  | .resolved status refundId =>
    if refundId.getD "" = "" then
      .failed false (some status) "PayFast Refund API returned 200 with no refund_id."
    else .ok (refundId.getD "")
  | .rejected status body code message =>
    .failed (retriable status code) status (extractFailureReason body message)

def refund (config : PayFastConfig) (input : PayFastRefundInput) : Service PayFastRefundResult :=
  if config.enabled = false then
    return .failed false none ("PayFast credentials are not configured. Set PAYFAST_MERCHANT_ID, " ++
      "PAYFAST_MERCHANT_KEY, PAYFAST_PASSPHRASE and PAYFAST_PROCESS_URL via Secret Manager.")
  else if config.refundUrl.getD "" = "" then
    return .failed false none "PAYFAST_REFUND_URL is not configured."
  else do
    let outcome ← Resumption.query input
    return classify outcome

end PayFastClient

end GearshPayments
