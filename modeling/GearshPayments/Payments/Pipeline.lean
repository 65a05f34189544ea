import GearshPayments.Engine
import GearshPayments.PayFast.IpWhitelist
import GearshPayments.PayFast.Signature
import GearshPayments.Payments.ExactlyOnce
import GearshPayments.Payments.ItnAmount
import GearshPayments.Resumption.History

/-!
# The pipeline of the webhook

`PayFastWebhookController.receive` and the whole of `PayFastWebhookService.handle`: whoever posts
a form to the webhook, it reaches the matching with an intent (`handleForm`) only from a
whitelisted address, with the signature of its fields, and after the gateway has been asked
whether it is valid.  The calls of the engine run beside the webhook in one pool, all but the
`create` and `lock` of `PaymentIntentsService` (`WebCall`); there the only payments that are
recorded are those that such a notification, or a development completion, has vouched for
(`payments_authentic`), and no two holds rest on the same call.
-/

namespace GearshPayments

open JavaScript

/-! ## Asking whether a form is valid -/

/-- A call of the gateway's validate endpoint. -/
structure ValidateRequest where
  url : Option String
  body : List (String × String)
deriving DecidableEq

inductive ValidateReply where
  /-- The text of a response, if there is one. -/
  | resolved (data : Option String)
  | rejected
deriving DecidableEq

inductive OutboundRequest where
  | validate (request : ValidateRequest)
  | gateway (request : GatewayRequest)
deriving DecidableEq

inductive OutboundReply where
  | validate (reply : ValidateReply)
  | gateway (reply : GatewayReply)
deriving DecidableEq

/-- The reply, as the validate call reads it. -/
def OutboundReply.toValidate : OutboundReply → ValidateReply
  | .validate reply => reply
  | .gateway _ => .rejected

/-- The reply, as the other calls of the gateway read it. -/
def OutboundReply.toGateway : OutboundReply → GatewayReply
  | .gateway reply => reply
  | .validate _ => .rejected none .empty .other ""

/-- A program of the engine or of its webhook. -/
abbrev Web := Resumption Store OutboundRequest OutboundReply Failure

def Engine.toWeb {α : Type} (p : Engine α) : Web α :=
  p.relabel OutboundRequest.gateway OutboundReply.toGateway

/-- `config`, as far as the webhook reads it. -/
structure WebhookConfig extends PayFastConfig where
  production : Bool
  ipWhitelist : List (List Char)
  passphrase : Option Text
  validateUrl : Option String

/-- What the runtime provides: the digest, `toUpperCase`, and the reading of an identifier. -/
structure Runtime where
  md5 : List UInt8 → Fin 16 → UInt8
  toUpperCase : List Char → List Char
  uuid : List Char → ℕ

theorem text_injective : Function.Injective text := by
  intro s t h
  have hchars := congrArg scalarValues h
  rw [text, text, scalarValues_utf16, scalarValues_utf16] at hchars
  exact String.toList_injective hchars

/-- The fields of a posted form, in the order in which they are enumerated. -/
structure ItnFormParams where
  entries : List (String × String)
  nodup : (entries.map Prod.fst).Nodup

namespace ItnFormParams

variable (params : ItnFormParams)

/-- `params[name]`. -/
def get (name : String) : Option String := params.entries.lookup name

/-- The fields as they are signed; none of them is a number. -/
def signable : SignableParams Empty where
  entries := params.entries.map fun e ↦ (text e.1, .text (text e.2))
  nodup := by
    have hkeys : (params.entries.map fun e ↦ (text e.1, Signable.text (ν := Empty) (text e.2))).map
        Prod.fst = (params.entries.map Prod.fst).map text := by
      rw [List.map_map, List.map_map]
      rfl
    rw [hkeys]
    exact params.nodup.map text_injective

end ItnFormParams

namespace PayFastClient

variable (runtime : Runtime) (config : WebhookConfig)

def verifyItnSignature (params : ItnFormParams) (received : String) : Bool :=
  verifySignature Empty.elim runtime.md5 params.signable (text received) config.passphrase

/-- The test of a response's text. -/
def saysValid (data : Option String) : Bool :=
  "VALID".toList.isPrefixOf (runtime.toUpperCase (trim (data.getD "").toList))

def validateRequest (params : ItnFormParams) : ValidateRequest := ⟨config.validateUrl, params.entries⟩

/-- Ask the gateway whether a form is valid. -/
def validateItn (params : ItnFormParams) : Web Bool := do
  if config.enabled = false then
    throw (Failure.withDetail .payfastUpstreamFailure
      ("PayFast credentials are not configured. Set PAYFAST_MERCHANT_ID, PAYFAST_MERCHANT_KEY, " ++
        "PAYFAST_PASSPHRASE and PAYFAST_PROCESS_URL via Secret Manager."))
  let reply ← Resumption.query (.validate (validateRequest config params))
  match reply.toValidate with
  | .resolved data => return saysValid runtime data
  | .rejected => throw (Failure.withDetail .payfastUpstreamFailure
      "PayFast validate endpoint unreachable.")

end PayFastClient

/-! ## The pipeline -/

structure HandleItnInput where
  params : ItnFormParams
  sourceIp : String
  traceparent : Option String
  tracestate : Option String

namespace PayFastWebhookService

variable (runtime : Runtime) (config : WebhookConfig)

/-- The whole of `handle`. -/
def handleInput (input : HandleItnInput) : Web Unit := do
  let parsed := IpWhitelist.parseIpWhitelist config.ipWhitelist
  if parsed.length = 0 ∨ IpWhitelist.isIpAllowed input.sourceIp.toList parsed = false then
    throw (Failure.withDetail .payfastIpNotWhitelisted
      s!"Source IP {input.sourceIp} is not in PAYFAST_IP_WHITELIST.")
  let receivedSignature := (input.params.get "signature").getD ""
  if PayFastClient.verifyItnSignature runtime config input.params receivedSignature = false then
    throw (Failure.withDetail .payfastSignatureInvalid
      "ITN signature did not match the recomputed signature.")
  let isValid ← PayFastClient.validateItn runtime config input.params
  if isValid = false then
    throw (Failure.withDetail .payfastValidationFailed
      "PayFast /eng/query/validate did not return VALID.")
  (handleForm runtime.toUpperCase runtime.uuid config.toPayFastConfig input.params.get
    input.traceparent input.tracestate).toEngine.toWeb

end PayFastWebhookService

/-- A request, as far as the webhook reads it. -/
structure ItnRequest where
  body : Option ItnFormParams
  ip : Option String
  remoteAddress : Option String
  traceparent : Option String

/-- What the controller makes of a request. -/
def ItnRequest.input (req : ItnRequest) : HandleItnInput where
  params := req.body.getD ⟨[], List.nodup_nil⟩
  sourceIp := req.ip.getD (req.remoteAddress.getD "")
  traceparent := req.traceparent
  tracestate := none

def PayFastWebhookController.receive (runtime : Runtime) (config : WebhookConfig)
    (req : ItnRequest) : Web Unit :=
  PayFastWebhookService.handleInput runtime config req.input

/-! ## The calls beside it -/

structure WebConfig extends EngineConfig where
  production : Bool
  ipWhitelist : List (List Char)
  passphrase : Option Text
  validateUrl : Option String

/-- What the webhook sees of it. -/
def WebConfig.webhook (config : WebConfig) : WebhookConfig where
  toPayFastConfig := config.system.payfast
  production := config.production
  ipWhitelist := config.ipWhitelist
  passphrase := config.passphrase
  validateUrl := config.validateUrl

/-- A call from outside, whoever makes it, or of a job.  The intents are there from the start: the
`create` and the `lock` of `PaymentIntentsService` are not among the calls. -/
inductive WebCall where
  | itn (req : ItnRequest)
  | devComplete (intentId callerUserId : ℕ) (callerRoles : List String)
  | escrow (op : EscrowOp)
  | refund (input : IssueRefundInput)
  | payout (c : PayoutCall)
  | method (c : PayoutMethodCall)

def WebCall.program (runtime : Runtime) (config : WebConfig) : WebCall → Web Unit
  | .itn req => PayFastWebhookController.receive runtime config.webhook req
  | .devComplete intentId callerUserId callerRoles =>
    (PayFastWebhookService.devComplete config.production intentId callerUserId
      callerRoles).toEngine.toWeb
  | .escrow op => ((ServiceCall.escrow op).program config.system).toEngine.toWeb
  | .refund input => ((ServiceCall.refund input).program config.system).toEngine.toWeb
  | .payout c => Engine.toWeb (c.program config.payouts)
  | .method c => Engine.toWeb (c.program config.encrypt)

/-- Any number of calls over a store in which nothing has been paid. -/
def WebCall.pool (runtime : Runtime) (config : WebConfig) (clock nextId : ℕ)
    (intents : List PaymentIntent) (calls : List WebCall) :
    Resumption.Pool Store OutboundRequest OutboundReply (Web Unit) :=
  ⟨Store.empty clock nextId intents, calls.map (·.program runtime config), []⟩

/-! ## What a payment rests on -/

open Resumption

/-- The gateway has been asked about the form, and has called it valid. -/
def Validated (runtime : Runtime) (config : WebhookConfig) (params : ItnFormParams)
    (l : List (OutboundRequest × OutboundReply)) : Prop :=
  ∃ reply data, (.validate (PayFastClient.validateRequest config params), reply) ∈ l ∧
    reply.toValidate = .resolved data ∧ PayFastClient.saysValid runtime data = true

/-- A form that has passed every check, and what it says. -/
structure Vouched (runtime : Runtime) (config : WebhookConfig) (input : HandleItnInput)
    (l : List (OutboundRequest × OutboundReply)) (itn : NormalisedItn) : Prop where
  whitelisted : IpWhitelist.isIpAllowed input.sourceIp.toList
    (IpWhitelist.parseIpWhitelist config.ipWhitelist) = true
  signed : ∃ signature, input.params.get "signature" = some signature ∧
    toLowerCase (text signature) = toLowerCase
      (signParams Empty.elim runtime.md5 input.params.signable config.passphrase)
  validated : Validated runtime config input.params l
  normalised : PayFastWebhookService.normaliseItn runtime.toUpperCase runtime.uuid
    input.params.get = .ok itn
  merchant : itn.merchantId = config.merchantId.getD ""

section Vouching

variable (runtime : Runtime) (config : WebConfig) (l : List (OutboundRequest × OutboundReply))

/-- The call has vouched for the payment that the row records. -/
inductive Records (t : Transaction) : WebCall → Prop
  | itn {req : ItnRequest} {itn : NormalisedItn}
    (vouched : Vouched runtime config.webhook req.input l itn)
    (intent : t.paymentIntentId = itn.mPaymentId) (payment : t.gatewayTxnId = some itn.pfPaymentId)
    (status : t.pfPaymentStatus = some itn.paymentStatus)
    (amount : centsToMajorString t.amountCents = itn.amountGross)
    (state : t.state = if itn.paymentStatus = .complete then .succeeded else .failed) :
    Records t (.itn req)
  | devComplete {intentId callerUserId : ℕ} {callerRoles : List String}
    (development : config.production = false) (intent : t.paymentIntentId = intentId)
    (state : t.state = .succeeded) : Records t (.devComplete intentId callerUserId callerRoles)

/-- The call has vouched for the payment that is held. -/
inductive Funds (h : EscrowHold) : WebCall → Prop
  | itn {req : ItnRequest} {itn : NormalisedItn}
    (vouched : Vouched runtime config.webhook req.input l itn)
    (complete : itn.paymentStatus = .complete) (intent : h.paymentIntentId = itn.mPaymentId)
    (amount : centsToMajorString (h.amountCents + h.platformFeeCents) = itn.amountGross) :
    Funds h (.itn req)
  | devComplete {intentId callerUserId : ℕ} {callerRoles : List String}
    (development : config.production = false) (intent : h.paymentIntentId = intentId)
    (caller : h.clientId = callerUserId ∨ "ADMIN" ∈ callerRoles) :
    Funds h (.devComplete intentId callerUserId callerRoles)

/-- What a call may write, after the exchanges it has had. -/
structure MayRecord (booking : ℕ → Option ℕ) (c : WebCall) (s s' : Store) : Prop where
  transactions : ∀ t ∈ s'.transactions, t ∈ s.transactions ∨ Records runtime config l t c
  holds : ∀ h' ∈ s'.escrowHolds,
    (∃ h ∈ s.escrowHolds, h.asCaptured = h'.asCaptured) ∨ Funds runtime config l h' c
  captured : ∃ cs, s'.CapturedAs booking cs

end Vouching

section Monotone

variable {runtime : Runtime} {config : WebConfig} {l l' : List (OutboundRequest × OutboundReply)}

theorem Vouched.mono {config : WebhookConfig} {input : HandleItnInput} {itn : NormalisedItn}
    (h : Vouched runtime config input l itn) (hl : l ⊆ l') : Vouched runtime config input l' itn := by
  obtain ⟨reply, data, hmem, hdata, hvalid⟩ := h.validated
  exact { h with validated := ⟨reply, data, hl hmem, hdata, hvalid⟩ }

theorem Records.mono {t : Transaction} {c : WebCall} (h : Records runtime config l t c)
    (hl : l ⊆ l') : Records runtime config l' t c := by
  cases h with
  | itn vouched intent payment status amount state =>
      exact .itn (vouched.mono hl) intent payment status amount state
  | devComplete development intent state => exact .devComplete development intent state

theorem Funds.mono {h : EscrowHold} {c : WebCall} (hf : Funds runtime config l h c)
    (hl : l ⊆ l') : Funds runtime config l' h c := by
  cases hf with
  | itn vouched complete intent amount => exact .itn (vouched.mono hl) complete intent amount
  | devComplete development intent caller => exact .devComplete development intent caller

/-- Whose payment a hold is does not change with what happens to it. -/
theorem Funds.of_asCaptured {h h' : EscrowHold} {c : WebCall} (hf : Funds runtime config l h c)
    (hsame : h.asCaptured = h'.asCaptured) : Funds runtime config l h' c := by
  have hintent : h.paymentIntentId = h'.paymentIntentId :=
    (congrArg EscrowHold.paymentIntentId hsame :)
  have hclient : h.clientId = h'.clientId := (congrArg EscrowHold.clientId hsame :)
  have hamount : h.amountCents = h'.amountCents := (congrArg EscrowHold.amountCents hsame :)
  have hfee : h.platformFeeCents = h'.platformFeeCents :=
    (congrArg EscrowHold.platformFeeCents hsame :)
  cases hf with
  | itn vouched complete intent amount =>
      exact .itn vouched complete (hintent ▸ intent) (by rwa [← hamount, ← hfee])
  | devComplete development intent caller =>
      exact .devComplete development (hintent ▸ intent) (hclient ▸ caller)

/-- What a call has vouched for is paid for one intent. -/
theorem Funds.intent_eq {h h' : EscrowHold} {c : WebCall} (hf : Funds runtime config l h c)
    (hf' : Funds runtime config l' h' c) : h.paymentIntentId = h'.paymentIntentId := by
  cases hf with
  | itn vouched _ intent =>
      cases hf' with
      | itn vouched' _ intent' =>
          have hitn := vouched.normalised.symm.trans vouched'.normalised
          rw [intent, intent', Except.ok.inj hitn]
  | devComplete _ intent _ =>
      cases hf' with
      | devComplete _ intent' _ => rw [intent, intent']

theorem MayRecord.mono {booking : ℕ → Option ℕ} {c : WebCall} {s s' : Store}
    (h : MayRecord runtime config l booking c s s') (hl : l ⊆ l') :
    MayRecord runtime config l' booking c s s' where
  transactions := fun t ht ↦ (h.transactions t ht).imp_right fun hr ↦ hr.mono hl
  holds := fun h' hh ↦ (h.holds h' hh).imp_right fun hf ↦ hf.mono hl
  captured := h.captured

end Monotone

/-- An intent has one hold. -/
theorem Store.CapturedAs.hold_unique {booking : ℕ → Option ℕ} {cs : List Capture} {s : Store}
    (hs : s.CapturedAs booking cs) {h h' : EscrowHold} (hh : h ∈ s.escrowHolds)
    (hh' : h' ∈ s.escrowHolds) (hintent : h.paymentIntentId = h'.paymentIntentId) : h = h' := by
  have hmem : h ∈ s.holdsOf h.paymentIntentId := List.mem_filter.mpr ⟨hh, decide_eq_true rfl⟩
  have hmem' : h' ∈ s.holdsOf h.paymentIntentId :=
    List.mem_filter.mpr ⟨hh', decide_eq_true hintent.symm⟩
  cases hs.capturedOnce h.paymentIntentId with
  | nothing hnone =>
      rw [hnone] at hmem
      cases hmem
  | payment hone =>
      rw [hone] at hmem hmem'
      rw [List.mem_singleton.mp hmem, List.mem_singleton.mp hmem']

/-! ## What the calls write -/

namespace PayFastWebhookService

variable {I : Store → Prop} {G : Store → Store → Prop}

/-- A notification makes one change, the commit of the match that it has made. -/
theorem guarantees_handle_of_match {config : PayFastConfig} {itn : NormalisedItn}
    {traceparent tracestate : Option String} (hG : ∀ s, I s → G s s)
    (hcommit : ∀ {s₀ s s' : Store} {intent : PaymentIntent} {zarAmount fee : ℤ}, I s₀ →
      itn.merchantId = config.merchantId.getD "" →
      matchIntent itn (s₀.paymentIntent? itn.mPaymentId) = .ok (intent, zarAmount, fee) → I s →
        commit (commitArgs intent zarAmount (.uuid itn.mPaymentId) itn.pfPaymentId
          itn.paymentStatus traceparent tracestate) fee s = .ok ((), s') → G s s') :
    Guarantees I G (handle config itn traceparent tracestate) := by
  unfold handle
  dsimp only
  split
  · exact guarantees_throw _
  · next hmerchant =>
      refine guarantees_read_bind hG fun s₀ hs₀ ↦ ?_
      cases hm : matchIntent itn (s₀.paymentIntent? itn.mPaymentId) with
      | error e => exact guarantees_throw e
      | ok r =>
          obtain ⟨intent, zarAmount, fee⟩ := r
          rw [ofExcept_ok, ret_bind]
          dsimp only
          split
          · next hc =>
              refine guarantees_transaction hG fun s u s' hs h ↦
                hcommit hs₀ (not_not.mp hmerchant) hm hs ?_
              rw [commit_of_complete hc]
              exact h
          · next hc =>
              refine guarantees_transaction hG fun s u s' hs h ↦
                hcommit hs₀ (not_not.mp hmerchant) hm hs ?_
              rw [commit_of_ne hc fee]
              exact h

/-- A development completion makes one change, for the owner of the intent or an admin, and none
in production. -/
theorem guarantees_devComplete_of_caller {production : Bool} {intentId callerUserId : ℕ}
    {callerRoles : List String} (hG : ∀ s, I s → G s s)
    (hcommit : ∀ {s₀ s s' : Store} {intent : PaymentIntent} {zarAmount fee : ℤ}
      {mPaymentId : EventValue}, I s₀ → production = false →
      s₀.paymentIntent? intentId = some intent →
      intent.userId = callerUserId ∨ "ADMIN" ∈ callerRoles → I s →
        commitComplete
          (commitArgs intent zarAmount mPaymentId s!"dev-{s₀.clock}" .complete none none)
          fee s = .ok ((), s') → G s s') :
    Guarantees I G (devComplete production intentId callerUserId callerRoles) := by
  unfold devComplete
  split
  · exact guarantees_throw _
  · next hproduction =>
      refine guarantees_read_bind hG fun s₀ hs₀ ↦ ?_
      cases hfound : s₀.paymentIntent? intentId with
      | none => exact guarantees_throw _
      | some intent =>
          dsimp only
          split
          · exact guarantees_throw _
          · next hcaller =>
              split
              · trivial
              · split
                · refine (guarantees_ofExcept _).bind fun fee ↦ ?_
                  refine guarantees_transaction hG fun s u s' hs h ↦ hcommit hs₀ ?_ hfound ?_ hs h
                  · exact Bool.eq_false_iff.mpr hproduction
                  · exact (not_and_or.mp hcaller).imp not_not.mp not_not.mp
                · exact guarantees_throw _

end PayFastWebhookService

/-- Nothing was paid. -/
structure Store.SamePayments (s s' : Store) : Prop where
  transactions : s'.transactions = s.transactions
  holds : s'.escrowHolds.map EscrowHold.asCaptured = s.escrowHolds.map EscrowHold.asCaptured

section Writes

variable {runtime : Runtime} {config : WebConfig} {l : List (OutboundRequest × OutboundReply)}
  {booking : ℕ → Option ℕ} {c : WebCall} {s s' : Store}

theorem MayRecord.of_samePayments (h : s.SamePayments s') (hc : ∃ cs, s'.CapturedAs booking cs) :
    MayRecord runtime config l booking c s s' where
  transactions := fun t ht ↦ .inl (h.transactions ▸ ht)
  holds := by
    intro h' hh
    have hmem := List.mem_map_of_mem (f := EscrowHold.asCaptured) hh
    rw [h.holds] at hmem
    obtain ⟨x, hx, hsame⟩ := List.mem_map.mp hmem
    exact .inl ⟨x, hx, hsame⟩
  captured := hc

theorem MayRecord.refl (hs : ∃ cs, s.CapturedAs booking cs) :
    MayRecord runtime config l booking c s s := .of_samePayments ⟨rfl, rfl⟩ hs

/-- A commit writes the row of its payment, and the hold if the payment is complete. -/
theorem MayRecord.of_commit {args : CommitArgs} {fee : ℤ}
    (h : PayFastWebhookService.commit args fee s = .ok ((), s'))
    (hc : ∃ cs, s'.CapturedAs booking cs)
    (hrecords : ∀ id now, Records runtime config l
      (args.charge (if args.paymentStatus = .complete then .succeeded else .failed) id now) c)
    (hfunds : args.paymentStatus = .complete → ∀ id now, Funds runtime config l
      (args.hold fee id now) c) :
    MayRecord runtime config l booking c s s' := by
  by_cases hst : args.paymentStatus = .complete
  · rw [PayFastWebhookService.commit_of_complete hst] at h
    rw [if_pos hst] at hrecords
    rcases PayFastWebhookService.of_commitComplete_ok h with ⟨-, rfl⟩ | ⟨-, rfl⟩
    · exact .refl hc
    · refine ⟨fun t ht ↦ ?_, fun h' hh ↦ ?_, hc⟩
      · rcases List.mem_append.mp ht with ht | ht
        · exact .inl ht
        · rw [List.mem_singleton.mp ht]
          exact .inr (hrecords _ _)
      · rcases List.mem_append.mp hh with hh | hh
        · exact .inl ⟨h', hh, rfl⟩
        · rw [List.mem_singleton.mp hh]
          exact .inr (hfunds hst _ _)
  · rw [PayFastWebhookService.commit_of_ne hst] at h
    rw [if_neg hst] at hrecords
    rcases PayFastWebhookService.of_commitFailed_ok h with ⟨-, rfl⟩ | ⟨-, -, rfl⟩
    · exact .refl hc
    · refine ⟨fun t ht ↦ ?_, fun h' hh ↦ .inl ⟨h', hh, rfl⟩, hc⟩
      rcases List.mem_append.mp ht with ht | ht
      · exact .inl ht
      · rw [List.mem_singleton.mp ht]
        exact .inr (hrecords _ _)

end Writes

/-- The services pay nothing in. -/
theorem rules_samePayments (business : BusinessConfig) (booking : ℕ → Option ℕ) :
    RefundsService.WriteRules business (fun s ↦ ∃ cs, s.CapturedAs booking cs)
      fun s s' ↦ s.SamePayments s' ∧ ∃ cs, s'.CapturedAs booking cs where
  refl := fun _ hs ↦ ⟨⟨rfl, rfl⟩, hs⟩
  insert := by
    intro s s' row r hs hid hpos h
    have hc := (rules_capturedAs business booking).insert hs hid hpos h
    cases h
    exact ⟨⟨rfl, rfl⟩, hc⟩
  move := by
    intro s s' op hold hs h
    have hc := (rules_capturedAs business booking).move hs h
    obtain ⟨hold, target, w, entries, hcommits, -, rfl⟩ := EscrowOp.commits_of_exec_eq h
    refine ⟨⟨rfl, ?_⟩, hc⟩
    exact Table.map_update _ (fun x ↦ (EscrowOp.update_of_work hcommits.work x).2.asCaptured) _
  announce := fun hs hf ha hr hn ↦
    ⟨⟨rfl, rfl⟩, (rules_capturedAs business booking).announce hs hf ha hr hn⟩

theorem PayoutWrite.capturedAs {s s' : Store} (h : PayoutWrite s s') {booking : ℕ → Option ℕ}
    {cs : List Capture} (hs : s.CapturedAs booking cs) : s'.CapturedAs booking cs := by
  obtain ⟨os, ho, htypes⟩ := h.outbox
  have hintents : s'.paymentIntents = s.paymentIntents := by rw [h.rest]
  have hevents : s'.escrowEvents = s.escrowEvents := by rw [h.rest]
  have hledger : s'.ledgerEntries = s.ledgerEntries := by rw [h.rest]
  have htransactions : s'.transactions = s.transactions := by rw [h.rest]
  refine hs.frame (h.consistent hs.consistent) h.nextId (fun id ↦ ?_) (by rw [h.escrowHolds]) ?_
    (fun id _ ↦ ?_) (fun t ht ↦ htransactions ▸ ht) fun type ht ↦ ?_
  · rw [Store.paymentIntent?, hintents, ← Store.paymentIntent?]
  · rw [Store.heldEvents, hevents, ← Store.heldEvents]
  · rw [Store.entriesOfEvent, hledger, ← Store.entriesOfEvent]
  · refine Store.noticesOfType_append ho fun o hm ↦ ?_
    rcases htypes o hm with h | h <;> rcases ht with rfl | rfl <;> rw [h] <;>
      exact fun h ↦ by cases h

theorem MethodWrite.capturedAs {s s' : Store} (h : MethodWrite s s') {booking : ℕ → Option ℕ}
    {cs : List Capture} (hs : s.CapturedAs booking cs) : s'.CapturedAs booking cs := by
  obtain ⟨hn, hrest⟩ := h
  rw [hrest]
  refine hs.frame ?_ hn (fun _ ↦ rfl) rfl rfl (fun _ _ ↦ rfl) (fun _ ht ↦ ht) fun _ _ ↦ rfl
  exact hs.consistent.extend (hs.consistent.conserved.frame rfl rfl hn) hs.consistent.bookings hn
    (fun r hm ↦ .inl ⟨r, hm, rfl, rfl⟩) hs.consistent.distinct (fun _ hm ↦ .inl hm)
    (fun _ hm ↦ .inl hm) fun _ hm ↦ .inl hm

/-- A form with a signature that is accepted carries the signature of its fields. -/
theorem signed_of_verifyItnSignature {runtime : Runtime} {config : WebhookConfig}
    {params : ItnFormParams}
    (h : PayFastClient.verifyItnSignature runtime config params
      ((params.get "signature").getD "") = true) :
    ∃ signature, params.get "signature" = some signature ∧
      toLowerCase (text signature) = toLowerCase
        (signParams Empty.elim runtime.md5 params.signable config.passphrase) := by
  cases hget : params.get "signature" with
  | none =>
      rw [hget] at h
      cases h
  | some signature =>
      rw [hget, Option.getD_some, PayFastClient.verifyItnSignature, verifySignature] at h
      split at h
      · cases h
      · exact ⟨signature, rfl, (safeEquals_iff.mp h).symm⟩

section Calls

variable {runtime : Runtime} {config : WebConfig} {booking : ℕ → Option ℕ}

/-- A call that pays nothing in. -/
theorem guaranteesAfter_of_samePayments {p : Engine Unit} {c : WebCall}
    (hp : Guarantees (fun s ↦ ∃ cs, s.CapturedAs booking cs)
      (fun s s' ↦ s.SamePayments s' ∧ ∃ cs, s'.CapturedAs booking cs) p) :
    GuaranteesAfter (fun s ↦ ∃ cs, s.CapturedAs booking cs)
      (fun l ↦ MayRecord runtime config l booking c) p.toWeb [] := by
  refine .of_guarantees (fun l x s s' h ↦ h.mono (List.subset_append_left l [x])) ?_
  exact (hp.relabel (f := OutboundRequest.gateway) (g := OutboundReply.toGateway)).mono
    (fun _ hs ↦ hs) fun _ _ _ h ↦ .of_samePayments h.1 h.2

/-- What follows the question whether a form is valid may rely on the answer. -/
theorem guaranteesAfter_validateItn {I : Store → Prop}
    {G : List (OutboundRequest × OutboundReply) → Store → Store → Prop}
    {l : List (OutboundRequest × OutboundReply)} {config : WebhookConfig} {params : ItnFormParams}
    {f : Bool → Web Unit}
    (hf : ∀ reply data, reply.toValidate = .resolved data →
      GuaranteesAfter I G (f (PayFastClient.saysValid runtime data))
        (l ++ [(.validate (PayFastClient.validateRequest config params), reply)])) :
    GuaranteesAfter I G (PayFastClient.validateItn runtime config params >>= f) l := by
  unfold PayFastClient.validateItn
  split
  · exact .throw _
  · dsimp only
    rw [LawfulMonad.bind_assoc]
    refine .query_bind fun reply ↦ ?_
    cases hreply : reply.toValidate with
    | rejected => exact .throw _
    | resolved data => exact hf reply data hreply

/-- A form that is vouched for records what it says, and nothing else is recorded. -/
theorem guarantees_handleForm {req : ItnRequest}
    {l : List (OutboundRequest × OutboundReply)}
    (hvouched : ∀ itn, PayFastWebhookService.normaliseItn runtime.toUpperCase runtime.uuid
      req.input.params.get = .ok itn → itn.merchantId = config.webhook.merchantId.getD "" →
        Vouched runtime config.webhook req.input l itn) :
    Guarantees (fun s ↦ ∃ cs, s.CapturedAs booking cs)
      (MayRecord runtime config l booking (.itn req))
      (PayFastWebhookService.handleForm runtime.toUpperCase runtime.uuid
        config.webhook.toPayFastConfig req.input.params.get req.input.traceparent
        req.input.tracestate) := by
  unfold PayFastWebhookService.handleForm
  cases hnorm : PayFastWebhookService.normaliseItn runtime.toUpperCase runtime.uuid
    req.input.params.get with
  | error e => exact guarantees_throw e
  | ok itn =>
      rw [ofExcept_ok, ret_bind]
      refine PayFastWebhookService.guarantees_handle_of_match (fun _ hs ↦ .refl hs) ?_
      rintro s₀ s s' intent zarAmount fee ⟨cs₀, h₀⟩ hmerchant hmatch ⟨cs, hs⟩ h
      have hv := hvouched itn hnorm hmerchant
      obtain ⟨hfound, -, hamount⟩ := PayFastWebhookService.of_matchIntent hmatch
      have hid : intent.id = itn.mPaymentId := (Table.find_some hfound).2
      refine .of_commit h (h₀.commit hfound hs h) ?_ ?_
      · intro id now
        exact .itn hv hid rfl rfl hamount.symm rfl
      · intro hst id now
        refine .itn hv hst hid ?_
        rw [hamount]
        exact congrArg centsToMajorString (sub_add_cancel zarAmount fee)

theorem WebCall.guaranteesAfter (c : WebCall) :
    GuaranteesAfter (fun s ↦ ∃ cs, s.CapturedAs booking cs)
      (fun l ↦ MayRecord runtime config l booking c) (c.program runtime config) [] := by
  cases c with
  | itn req =>
      unfold WebCall.program PayFastWebhookController.receive PayFastWebhookService.handleInput
      dsimp only
      split
      · exact .throw _
      · next hip =>
          split
          · exact .throw _
          · next hsigned =>
              refine guaranteesAfter_validateItn fun reply data hreply ↦ ?_
              split
              · exact .throw _
              · next hvalid =>
                  refine .of_guarantees (fun l x s s' h ↦ h.mono (List.subset_append_left l [x])) ?_
                  refine Guarantees.relabel (Guarantees.relabel
                    (guarantees_handleForm fun itn hnorm hmerchant ↦ ?_))
                  exact
                    { whitelisted := eq_true_of_ne_false (not_or.mp hip).2
                      signed := signed_of_verifyItnSignature (eq_true_of_ne_false hsigned)
                      validated := ⟨reply, data, List.mem_append_right _ (.head _), hreply,
                        eq_true_of_ne_false hvalid⟩
                      normalised := hnorm
                      merchant := hmerchant }
  | devComplete intentId callerUserId callerRoles =>
      refine .of_guarantees (fun l x s s' h ↦ h.mono (List.subset_append_left l [x])) ?_
      refine Guarantees.relabel (Guarantees.relabel ?_)
      refine PayFastWebhookService.guarantees_devComplete_of_caller (fun _ hs ↦ .refl hs) ?_
      rintro s₀ s s' intent zarAmount fee mPaymentId ⟨cs₀, h₀⟩ hproduction hfound hcaller ⟨cs, hs⟩ h
      rw [← PayFastWebhookService.commit_of_complete rfl] at h
      have hid : intent.id = intentId := (Table.find_some hfound).2
      refine .of_commit h (h₀.commit hfound hs h) ?_ ?_
      · intro id now
        exact .devComplete hproduction hid rfl
      · intro _ id now
        exact .devComplete hproduction hid hcaller
  | escrow op =>
      exact guaranteesAfter_of_samePayments
        ((rules_samePayments config.business booking).exec op).discard.relabel
  | refund input =>
      exact guaranteesAfter_of_samePayments
        ((rules_samePayments config.business booking).issueRefund
          config.system.payfast input).discard.relabel
  | payout c =>
      refine guaranteesAfter_of_samePayments ((c.guarantees config.payouts).mono
        (fun _ hs ↦ hs) fun s s' hs h ↦ ⟨⟨by rw [h.rest], by rw [h.escrowHolds]⟩, ?_⟩)
      exact hs.imp fun cs hcs ↦ h.capturedAs hcs
  | method c =>
      refine guaranteesAfter_of_samePayments ((c.guarantees config.encrypt).mono
        (fun _ hs ↦ hs) fun s s' hs h ↦ ⟨⟨by rw [h.rest], by rw [h.rest]⟩, ?_⟩)
      exact hs.imp fun cs hcs ↦ h.capturedAs hcs

end Calls

/-- At every point of every interleaving, a call has vouched for each payment that is recorded:
a form that came from a whitelisted address, was signed over all its fields and had been called
valid by the gateway when the payment was recorded, or, outside production, the completion of
an intent by its owner or an admin; and for each hold another call has. -/
theorem payments_authentic (runtime : Runtime) (config : WebConfig) (clock nextId : ℕ)
    (intents : List PaymentIntent) (calls : List WebCall)
    (ts : List (Turn OutboundReply Failure)) :
    let P := Pool.run next (WebCall.pool runtime config clock nextId intents calls) ts
    (∀ t ∈ P.store.transactions, ∃ i c, calls[i]? = some c ∧
      Records runtime config (Pool.exchanges P.log i) t c) ∧
    ∃ source : EscrowHold → ℕ, Set.InjOn source {h | h ∈ P.store.escrowHolds} ∧
      ∀ h ∈ P.store.escrowHolds, ∃ c, calls[source h]? = some c ∧
        Funds runtime config (Pool.exchanges P.log (source h)) h c := by
  intro P
  let booking (id : ℕ) : Option ℕ :=
    (Table.find PaymentIntent.id id intents).map PaymentIntent.bookingId
  have hthreads : ∀ (i : ℕ) p,
      (WebCall.pool runtime config clock nextId intents calls).threads[i]? = some p →
      GuaranteesAfter (fun s ↦ ∃ cs, s.CapturedAs booking cs)
        (fun l s s' ↦ ∃ c, calls[i]? = some c ∧ MayRecord runtime config l booking c s s') p [] := by
    intro i p hi
    change (calls.map _)[i]? = some p at hi
    rw [List.getElem?_map] at hi
    obtain ⟨c, hc, rfl⟩ := Option.map_eq_some_iff.mp hi
    exact c.guaranteesAfter.mono fun l s s' h ↦ ⟨c, hc, h⟩
  obtain ⟨⟨cs, hcs⟩, hrecords, hfunds⟩ := Pool.history_run
    (J := fun s log ↦
      (∀ t ∈ s.transactions, ∃ i c, calls[i]? = some c ∧
        Records runtime config (Pool.exchanges log i) t c) ∧
      ∀ h ∈ s.escrowHolds, ∃ i c, calls[i]? = some c ∧
        Funds runtime config (Pool.exchanges log i) h c)
    rfl hthreads
    (by
      rintro i l s s' - ⟨c, -, hc⟩
      exact hc.captured)
    (by
      rintro i log s s' - ⟨hrecords, hfunds⟩ ⟨c, hi, hc⟩
      refine ⟨fun t ht ↦ ?_, fun h' hh ↦ ?_⟩
      · rcases hc.transactions t ht with ht | ht
        · exact hrecords t ht
        · exact ⟨i, c, hi, ht⟩
      · rcases hc.holds h' hh with ⟨h, hh, hsame⟩ | hh
        · obtain ⟨j, d, hj, hd⟩ := hfunds h hh
          exact ⟨j, d, hj, hd.of_asCaptured hsame⟩
        · exact ⟨i, c, hi, hh⟩)
    (by
      rintro log x s ⟨hrecords, hfunds⟩
      refine ⟨fun t ht ↦ ?_, fun h hh ↦ ?_⟩
      · obtain ⟨i, c, hi, hr⟩ := hrecords t ht
        exact ⟨i, c, hi, hr.mono (Pool.exchanges_subset_append log x i)⟩
      · obtain ⟨i, c, hi, hf⟩ := hfunds h hh
        exact ⟨i, c, hi, hf.mono (Pool.exchanges_subset_append log x i)⟩)
    ⟨[], Store.CapturedAs.empty clock nextId intents⟩
    ⟨fun _ ht ↦ absurd ht List.not_mem_nil, fun _ hh ↦ absurd hh List.not_mem_nil⟩ ts
  refine ⟨hrecords, ?_⟩
  choose! source hsource using hfunds
  refine ⟨source, fun h hh h' hh' hsame ↦ ?_, hsource⟩
  obtain ⟨c, hc, hf⟩ := hsource h hh
  obtain ⟨c', hc', hf'⟩ := hsource h' hh'
  rw [hsame, hc'] at hc
  cases hc
  exact hcs.hold_unique hh hh' (hf.intent_eq hf')

end GearshPayments
