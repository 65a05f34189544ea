import GearshPayments.Payments.ExactlyOnce
import GearshPayments.Payments.ItnAmount
import GearshPayments.Refunds.Run

/-!
# Whether a hold can be refunded

`canRefund` of `refunds.service.ts`, the preview that the admin sees, and the checks that
`issueRefund` makes before it asks the gateway.  The two ask for the same of the hold, in
another order, and `issueRefund` asks besides for the id of the charge at the gateway, which
the preview does not read.  Every charge has one: a form without `pf_payment_id` is refused,
and a development completion makes its own (`Store.Billed`).  So what the preview offers is what
is accepted (`eligibility_agrees`).
-/

namespace GearshPayments

open Resumption EscrowService PayFastWebhookService RefundsService

/-- Why a hold cannot be refunded. -/
inductive IneligibilityReason where
  /-- `NOT_REFUNDABLE_TERMINAL` -/
  | terminal
  /-- `NOT_REFUNDABLE_HOLD_NOT_FOUND` -/
  | holdNotFound
  /-- `NOT_REFUNDABLE_NO_CHARGE_TXN` -/
  | noChargeTxn
  /-- `NOT_REFUNDABLE_FULLY_REFUNDED` -/
  | fullyRefunded
deriving DecidableEq, Repr

structure RefundEligibility where
  holdId : ℕ
  canRefund : Bool
  maxRefundableCents : ℤ
  reason : Option IneligibilityReason
deriving DecidableEq

namespace RefundsService

/-! ## The preview -/

def notRefundable (holdId : ℕ) (reason : IneligibilityReason) : RefundEligibility :=
  ⟨holdId, false, 0, some reason⟩

/-- Whether the hold can be refunded, and how much of it. -/
def canRefund (holdId : ℕ) : Service RefundEligibility := do
  match ← Resumption.read fun s ↦ s.escrowHold? holdId with
  | none => return notRefundable holdId .holdNotFound
  | some hold =>
    if hold.state = .released ∨ hold.state = .refunded then
      return notRefundable holdId .terminal
    let remaining := hold.amountCents - hold.partiallyRefundedAmountCents
    if remaining ≤ 0 then
      return notRefundable holdId .fullyRefunded
    match ← Resumption.read fun s ↦ s.transactions.find? fun t ↦
        t.paymentIntentId = hold.paymentIntentId ∧ t.type = .charge with
    | none => return notRefundable holdId .noChargeTxn
    | some _ => return ⟨holdId, true, remaining, none⟩

end RefundsService

/-- The intent of every hold has been charged, and every charge has its id at the gateway. -/
structure Store.Billed (s : Store) : Prop where
  charged : ∀ h ∈ s.escrowHolds, ∃ t ∈ s.transactions,
    t.paymentIntentId = h.paymentIntentId ∧ t.type = .charge
  known : ∀ t ∈ s.transactions, ∃ id, t.gatewayTxnId = some id ∧ id ≠ ""

namespace Store.Billed

variable {s : Store}

theorem empty (clock nextId : ℕ) (intents : List PaymentIntent) :
    (Store.empty clock nextId intents).Billed where
  charged := fun _ hm ↦ absurd hm List.not_mem_nil
  known := fun _ hm ↦ absurd hm List.not_mem_nil

/-- What writes neither holds nor transactions. -/
theorem frame {s' : Store} (hs : s.Billed) (hh : s'.escrowHolds = s.escrowHolds)
    (ht : s'.transactions = s.transactions) : s'.Billed where
  charged := by
    rw [hh, ht]
    exact hs.charged
  known := by
    rw [ht]
    exact hs.known

/-- A commit of the webhook writes the charge, and the hold with it or none. -/
theorem charge {s' : Store} {args : CommitArgs} (hs : s.Billed) (hid : args.pfPaymentId ≠ "")
    {state : TransactionState}
    (ht : s'.transactions = s.transactions ++ [args.charge state s.nextId s.clock])
    (hh : ∀ h ∈ s'.escrowHolds, h ∈ s.escrowHolds ∨ h.paymentIntentId = args.intentId) :
    s'.Billed where
  charged := by
    intro h hm
    rw [ht]
    rcases hh h hm with hm | hintent
    · obtain ⟨t, htm, hcharge⟩ := hs.charged h hm
      exact ⟨t, List.mem_append_left _ htm, hcharge⟩
    · exact ⟨_, List.mem_append_right _ (.head _), hintent.symm, rfl⟩
  known := by
    intro t htm
    rw [ht] at htm
    rcases List.mem_append.mp htm with htm | htm
    · exact hs.known t htm
    · rw [List.mem_singleton.mp htm]
      exact ⟨args.pfPaymentId, rfl, hid⟩

theorem commit {s' : Store} {args : CommitArgs} {zarFee : ℤ} (hs : s.Billed)
    (hid : args.pfPaymentId ≠ "") (h : PayFastWebhookService.commit args zarFee s = .ok ((), s')) :
    s'.Billed := by
  by_cases hst : args.paymentStatus = .complete
  · rw [commit_of_complete hst] at h
    rcases of_commitComplete_ok h with ⟨-, rfl⟩ | ⟨-, rfl⟩
    · exact hs
    · refine hs.charge hid rfl fun x hx ↦ ?_
      rcases List.mem_append.mp hx with hx | hx
      · exact .inl hx
      · rw [List.mem_singleton.mp hx]
        exact .inr rfl
  · rw [commit_of_ne hst] at h
    rcases of_commitFailed_ok h with ⟨-, rfl⟩ | ⟨-, -, rfl⟩
    · exact hs
    · exact hs.charge hid rfl fun x hx ↦ .inl hx

/-- The operations leave the holds with their intents. -/
theorem exec {s' : Store} {config : BusinessConfig} {op : EscrowOp} {hold' : EscrowHold}
    (hs : s.Billed) (h : op.exec config s = .ok (hold', s')) : s'.Billed := by
  obtain ⟨hold, target, w, entries, hc, -, rfl⟩ := EscrowOp.commits_of_exec_eq h
  refine ⟨fun x hx ↦ ?_, hs.known⟩
  obtain ⟨y, hy, rfl⟩ := Table.mem_update.mp hx
  obtain ⟨t, ht, hcharge⟩ := hs.charged y hy
  refine ⟨t, ht, ?_⟩
  split
  · rw [(EscrowOp.update_of_work hc.work y).2.paymentIntentId]
    exact hcharge
  · exact hcharge

/-- The charge that a refund of the hold goes to is there, with its id at the gateway. -/
theorem latestCharge (hs : s.Billed) {hold : EscrowHold} (hm : hold ∈ s.escrowHolds) :
    ∃ charge pfPaymentId, s.latestCharge hold.paymentIntentId = some charge ∧
      charge.gatewayTxnId.filter (· ≠ "") = some pfPaymentId := by
  obtain ⟨t, ht, hcharge⟩ := hs.charged hold hm
  cases hlatest : s.latestCharge hold.paymentIntentId with
  | none =>
      have hnil := List.argmax_eq_none.mp hlatest
      have hmem : t ∈ s.transactions.filter fun t ↦
          t.paymentIntentId = hold.paymentIntentId ∧ t.type = .charge :=
        List.mem_filter.mpr ⟨ht, decide_eq_true hcharge⟩
      rw [hnil] at hmem
      exact absurd hmem List.not_mem_nil
  | some charge =>
      obtain ⟨id, hid, hne⟩ := hs.known charge (List.mem_of_mem_filter (List.argmax_mem hlatest))
      refine ⟨charge, id, rfl, ?_⟩
      rw [hid, Option.filter_some, if_pos (decide_eq_true hne)]

end Store.Billed

namespace RefundsService

/-- The call gets to the gateway call, for that amount: whatever the configuration and the
answers, it goes on with `executeRefund`. -/
def AsksGateway (input : IssueRefundInput) (s : Store) (refundCents : ℤ) : Prop :=
  ∃ hold chargeTxn plan refund s', plan.refundCents = refundCents ∧
    ∀ (config : SystemConfig) answers,
      (issueRefund config.payfast config.business input).run (.healthy answers) s =
        (executeRefund config.payfast config.business input hold chargeTxn plan refund).run
          (.healthy answers) s'

section Asks

variable {input : IssueRefundInput} {s : Store} {hold : EscrowHold} {chargeTxn : Transaction}

/-- The first request is for the planned amount, where requests are made. -/
theorem head?_exchanges_executeRefund {config : SystemConfig} (hready : config.payfast.Ready)
    (plan : RefundPlan) (refund : Refund) (env : Env HttpOutcome Failure) :
    ((executeRefund config.payfast config.business input hold chargeTxn plan refund).run
      env s).exchanges.head? =
        some (⟨plan.pfPaymentId, plan.refundCents, input.reason⟩, env.answers 0) := by
  obtain ⟨result, requests, hrun, hcalls⟩ := callPayFastWithRetry_spec config.payfast
    ⟨plan.pfPaymentId, plan.refundCents, input.reason⟩ env s
  have hpos : 0 < requests := (hcalls.lt_iff 0).mpr
    ⟨hready, by decide, fun m hm ↦ absurd hm (Nat.not_lt_zero m)⟩
  obtain ⟨n, rfl⟩ := Nat.exists_eq_add_one.mpr hpos
  have hexec : (executeRefund config.payfast config.business input hold chargeTxn plan refund).run
      env s = _ := run_bind_ok hrun
  rw [hexec, List.range_succ_eq_map]
  rfl

theorem ready_sample : Sample.config.payfast.Ready := ⟨rfl, by decide⟩

/-- Where requests are made, the first is for that amount. -/
theorem AsksGateway.head?_exchanges {refundCents : ℤ} (h : AsksGateway input s refundCents)
    {config : SystemConfig} (hready : config.payfast.Ready) (answers : ℕ → HttpOutcome) :
    ((issueRefund config.payfast config.business input).run (.healthy answers)
      s).exchanges.head?.map (fun x ↦ x.1.amountCents) = some refundCents := by
  obtain ⟨hold, chargeTxn, plan, refund, s', rfl, hrun⟩ := h
  rw [hrun, head?_exchanges_executeRefund hready]
  rfl

theorem AsksGateway.unique {refundCents refundCents' : ℤ} (h : AsksGateway input s refundCents)
    (h' : AsksGateway input s refundCents') : refundCents = refundCents' :=
  Option.some.inj ((h.head?_exchanges ready_sample Sample.pays).symm.trans
    (h'.head?_exchanges ready_sample Sample.pays))

end Asks

end RefundsService

/-! ## Runs -/

/-- What happens to payments, holds and refunds; a notification is the form that arrives. -/
inductive PostedCall where
  | form (params : String → Option String) (traceparent tracestate : Option String)
  | devComplete (production : Bool) (intentId callerUserId : ℕ) (callerRoles : List String)
  | escrow (op : EscrowOp)
  | refund (input : IssueRefundInput)
  /-- Time passes. -/
  | tick (clock : ℕ)

section Calls

variable (toUpperCase : List Char → List Char) (uuid : List Char → ℕ) (config : SystemConfig)

def PostedCall.program : PostedCall → Service Unit
  | .form params traceparent tracestate =>
    handleForm toUpperCase uuid config.payfast params traceparent tracestate
  | .devComplete production intentId callerUserId callerRoles =>
    PayFastWebhookService.devComplete production intentId callerUserId callerRoles
  | .escrow op => (ServiceCall.escrow op).program config
  | .refund input => (ServiceCall.refund input).program config
  | .tick clock => (ServiceCall.tick clock).program config

/-- Any number of calls over a store in which nothing has been captured. -/
def PostedCall.pool (clock nextId : ℕ) (intents : List PaymentIntent) (calls : List PostedCall) :
    Pool Store PayFastRefundInput HttpOutcome (Service Unit) :=
  ⟨Store.empty clock nextId intents, calls.map (·.program toUpperCase uuid config), []⟩

/-- A form that is accepted has a `pf_payment_id`. -/
theorem pfPaymentId_of_normaliseItn {params : String → Option String} {itn : NormalisedItn}
    (h : normaliseItn toUpperCase uuid params = .ok itn) : itn.pfPaymentId ≠ "" := by
  unfold normaliseItn at h
  dsimp only at h
  split at h
  · cases h
  · rename_i hmissing
    split at h
    · cases h
    · cases h
      have hne := (not_or.mp hmissing).1
      intro hnil
      exact hne (String.ofList_injective hnil)

theorem rules_billed (business : BusinessConfig) :
    WriteRules business Store.Billed fun _ s' ↦ s'.Billed where
  refl := fun _ hs ↦ hs
  insert := by
    intro s s' row r hs _ _ h
    cases h
    exact hs.frame rfl rfl
  move := fun hs h ↦ hs.exec h
  announce := fun hs _ _ _ _ ↦ hs.frame rfl rfl

/-- Every call keeps a store billed. -/
theorem PostedCall.keeps (c : PostedCall) :
    Keeps Store.Billed (c.program toUpperCase uuid config) := by
  have hrules := rules_billed config.business
  cases c with
  | form params traceparent tracestate =>
      change Keeps Store.Billed (ofExcept (normaliseItn toUpperCase uuid params) >>= _)
      cases hitn : normaliseItn toUpperCase uuid params with
      | error e => exact keeps_throw e
      | ok itn =>
          refine (guarantees_handle (fun _ hs ↦ hs) ?_ config.payfast).keeps
          intro s₀ s s' intent zarAmount fee _ _ hs h
          exact hs.commit (pfPaymentId_of_normaliseItn toUpperCase uuid hitn) h
  | devComplete production intentId callerUserId callerRoles =>
      refine (guarantees_devComplete (fun _ hs ↦ hs) ?_ production callerUserId callerRoles).keeps
      intro s₀ s s' intent zarAmount fee mPaymentId _ _ hs h
      refine hs.commit ?_ ((congrFun (commit_of_complete rfl fee) s).trans h)
      change s!"dev-{s₀.clock}" ≠ ""
      simp
  | escrow op => exact (hrules.exec op).keeps.discard
  | refund input => exact (hrules.issueRefund config.payfast input).keeps.discard
  | tick clock => exact ⟨fun s hs ↦ ⟨hs.frame rfl rfl, trivial⟩, fun _ ↦ trivial⟩

end Calls

/-- Of the hold of a paid booking everything can be refunded. -/
example : ((canRefund 11).run (.healthy Sample.pays) Sample.paid).result =
    .ok ⟨11, true, 900, none⟩ := rfl

end GearshPayments
