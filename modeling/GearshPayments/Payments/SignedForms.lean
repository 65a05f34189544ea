import GearshPayments.Payments.Pipeline

/-!
# What a signature binds

The signature of a form determines its fields, as long as the digest does not collide: two forms
that are accepted with the same signature say the same (`Accepted.normaliseItn_eq`).  So a form
that was overheard is worth nothing: once its delivery has returned, no request that carries its
signature changes the store, whatever else the request says and whatever the calls of `WebCall` do
in between (`replayed_form_changes_nothing`).
-/

namespace GearshPayments

open JavaScript

/-! ## The digest in hexadecimal digits -/

theorem digitChar_inj {m n : ℕ} (hm : m < 16) (hn : n < 16)
    (h : Nat.digitChar m = Nat.digitChar n) : m = n := by
  have hall : ∀ m n : Fin 16, Nat.digitChar m = Nat.digitChar n → m = n := by decide
  exact congrArg Fin.val (hall ⟨m, hm⟩ ⟨n, hn⟩ h)

theorem prefixCode_hexByte : PrefixCode fun b : UInt8 ↦
    [Nat.digitChar (b.toNat / 16), Nat.digitChar (b.toNat % 16)] where
  ne_nil := fun _ ↦ List.cons_ne_nil _ _
  cancel := by
    intro b c x y h
    obtain ⟨hhigh, htail⟩ := List.cons.inj h
    obtain ⟨hlow, hrest⟩ := List.cons.inj htail
    have hb := b.toNat_lt
    have hc := c.toNat_lt
    have hdiv := digitChar_inj (by omega) (by omega) hhigh
    have hmod := digitChar_inj (by omega) (by omega) hlow
    refine ⟨UInt8.toNat_inj.mp ?_, hrest⟩
    rw [← Nat.div_add_mod b.toNat 16, ← Nat.div_add_mod c.toNat 16, hdiv, hmod]

theorem hexDigest_injective : Function.Injective hexDigest := by
  intro b c h
  have hchars := congrArg scalarValues h
  rw [hexDigest, hexDigest, scalarValues_utf16, scalarValues_utf16] at hchars
  exact List.ofFn_injective (prefixCode_hexByte.flatMap_injective hchars)

theorem toLowerCase_utf16 {cs : List Char} (h : ∀ c ∈ cs, toLowerCase (codeUnits c) = codeUnits c) :
    toLowerCase (utf16 cs) = utf16 cs := by
  induction cs with
  | nil => rfl
  | cons c cs ih =>
      obtain ⟨hc, hcs⟩ := List.forall_mem_cons.mp h
      have happend : toLowerCase (utf16 (c :: cs)) =
          toLowerCase (codeUnits c) ++ toLowerCase (utf16 cs) := by
        rw [utf16, List.flatMap_cons, toLowerCase, List.map_append]
        rfl
      rw [happend, hc, ih hcs]
      rfl

/-- A digest is written in lower case. -/
theorem toLowerCase_hexDigest (bytes : Fin 16 → UInt8) :
    toLowerCase (hexDigest bytes) = hexDigest bytes := by
  have hdigit : ∀ n < 16, toLowerCase (codeUnits (Nat.digitChar n)) = codeUnits (Nat.digitChar n) := by
    decide
  refine toLowerCase_utf16 fun c hc ↦ ?_
  obtain ⟨b, -, hb⟩ := List.mem_flatMap.mp hc
  have hlt := b.toNat_lt
  rcases List.mem_cons.mp hb with rfl | hb
  · exact hdigit _ (by omega)
  · rw [List.mem_singleton.mp hb]
    exact hdigit _ (by omega)

/-! ## Fields that are signed -/

namespace ItnFormParams

variable {params params' : ItnFormParams}

theorem get_eq_some_iff {name value : String} :
    params.get name = some value ↔ (name, value) ∈ params.entries := by
  rw [get, List.lookup_eq_some_iff]
  constructor
  · rintro ⟨l, l', heq, -⟩
    rw [heq]
    exact List.mem_append_right _ (.head _)
  · intro hmem
    obtain ⟨l, l', heq⟩ := List.append_of_mem hmem
    refine ⟨l, l', heq, fun e he ↦ bne_iff_ne.mpr fun hname ↦ ?_⟩
    have hnodup := params.nodup
    rw [heq, List.map_append, List.map_cons] at hnodup
    exact (List.nodup_append.mp hnodup).2.2 e.1 (List.mem_map_of_mem he) name (.head _) hname.symm

/-- The fields that are signed are those that say something, without the signature. -/
theorem remaining_iff {field : Text × Text} :
    params.signable.Remaining Empty.elim field ↔ ∃ name value, params.get name = some value ∧
      name ≠ "signature" ∧ value ≠ "" ∧ field = (text name, text value) := by
  have hmem : ∀ key raw, (key, raw) ∈ params.signable.entries ↔
      ∃ name value, params.get name = some value ∧ key = text name ∧ raw = .text (text value) := by
    intro key raw
    simp only [signable, List.mem_map, Prod.exists, Prod.mk.injEq, get_eq_some_iff]
    grind
  constructor
  · rintro ⟨hkey, hvalue, raw, hentry, hstring⟩
    obtain ⟨name, value, hget, hname, rfl⟩ := (hmem _ _).mp hentry
    have htext : text value = field.2 := Option.some.inj hstring
    refine ⟨name, value, hget, ?_, ?_, Prod.ext hname htext.symm⟩
    · rintro rfl
      exact hkey hname
    · rintro rfl
      exact hvalue htext.symm
  · rintro ⟨name, value, hget, hname, hvalue, rfl⟩
    refine ⟨fun h ↦ hname (text_injective h), fun h ↦ hvalue (text_injective h), _,
      (hmem _ _).mpr ⟨name, value, hget, rfl, rfl⟩, rfl⟩

theorem wellFormed_signable : params.signable.WellFormed Empty.elim := by
  intro field h
  obtain ⟨name, value, -, -, -, rfl⟩ := remaining_iff.mp h
  exact ⟨wellFormed_utf16 _, wellFormed_utf16 _⟩

/-- A field of a form, where a field that is missing counts as empty. -/
theorem getD_eq_of_remaining
    (h : ∀ field, params.signable.Remaining Empty.elim field ↔
      params'.signable.Remaining Empty.elim field)
    {name : String} (hname : name ≠ "signature") :
    (params.get name).getD "" = (params'.get name).getD "" := by
  have hcopy : ∀ {params params' : ItnFormParams}, (∀ field,
      params.signable.Remaining Empty.elim field → params'.signable.Remaining Empty.elim field) →
      (params.get name).getD "" ≠ "" → (params'.get name).getD "" = (params.get name).getD "" := by
    intro params params' h hne
    cases hget : params.get name with
    | none =>
        rw [hget] at hne
        exact absurd rfl hne
    | some value =>
        rw [hget] at hne
        obtain ⟨name', value', hget', -, -, heq⟩ := remaining_iff.mp
          (h _ (remaining_iff.mpr ⟨name, value, hget, hname, hne, rfl⟩))
        obtain ⟨hn, hv⟩ := Prod.ext_iff.mp heq
        rw [text_injective hn, hget', ← text_injective hv]
  by_cases hne : (params.get name).getD "" = ""
  · by_cases hne' : (params'.get name).getD "" = ""
    · rw [hne, hne']
    · exact hcopy (fun field hf ↦ (h field).mpr hf) hne'
  · exact (hcopy (fun field hf ↦ (h field).mp hf) hne).symm

end ItnFormParams

/-- What is normalised of a form are fields that are signed. -/
theorem normaliseItn_congr {toUpperCase : List Char → List Char} {uuid : List Char → ℕ}
    {params params' : String → Option String}
    (h : ∀ name, name ≠ "signature" → (params name).getD "" = (params' name).getD "") :
    PayFastWebhookService.normaliseItn toUpperCase uuid params =
      PayFastWebhookService.normaliseItn toUpperCase uuid params' := by
  have hfield : ∀ name, name ≠ "signature" →
      PayFastWebhookService.field params name = PayFastWebhookService.field params' name :=
    fun name hname ↦ congrArg (fun s : String ↦ trim s.toList) (h name hname)
  unfold PayFastWebhookService.normaliseItn
  rw [hfield _ (by decide), hfield _ (by decide), hfield _ (by decide), hfield _ (by decide),
    hfield _ (by decide)]

/-! ## Forms with one signature -/

namespace PayFastClient

variable (runtime : Runtime) (config : WebhookConfig) (params params' : ItnFormParams)

/-- What is digested for the signature of a form. -/
def digested : List UInt8 :=
  (buildSignatureString Empty.elim params.signable config.passphrase).flatMap String.utf8EncodeChar

/-- The form carries the signature of its fields. -/
def Signed : Prop :=
  verifyItnSignature runtime config params ((params.get "signature").getD "") = true

end PayFastClient

/-- The signature that a form carries; its case does not matter. -/
def ItnFormParams.signature (params : ItnFormParams) : Text :=
  toLowerCase (text ((params.get "signature").getD ""))

section Forms

variable {runtime : Runtime} {config : WebhookConfig} {params params' : ItnFormParams}

theorem PayFastClient.Signed.signature_eq (h : Signed runtime config params) :
    params.signature = hexDigest (runtime.md5 (digested config params)) := by
  obtain ⟨signature, hget, hsigned⟩ := signed_of_verifyItnSignature h
  rw [ItnFormParams.signature, hget, Option.getD_some, hsigned, signParams, toLowerCase_hexDigest]
  rfl

/-- Forms that are accepted with one signature say the same, unless the digest collides. -/
theorem normaliseItn_eq_of_signature (h : PayFastClient.Signed runtime config params)
    (h' : PayFastClient.Signed runtime config params')
    (hsame : params'.signature = params.signature)
    (hmd5 : runtime.md5 (PayFastClient.digested config params') =
      runtime.md5 (PayFastClient.digested config params) →
        PayFastClient.digested config params' = PayFastClient.digested config params) :
    PayFastWebhookService.normaliseItn runtime.toUpperCase runtime.uuid params'.get =
      PayFastWebhookService.normaliseItn runtime.toUpperCase runtime.uuid params.get := by
  rw [h.signature_eq, h'.signature_eq] at hsame
  have hstring : buildSignatureString Empty.elim params'.signable config.passphrase =
      buildSignatureString Empty.elim params.signable config.passphrase :=
    prefixCode_utf8EncodeChar.flatMap_injective (hmd5 (hexDigest_injective hsame))
  refine normaliseItn_congr fun name hname ↦ ItnFormParams.getD_eq_of_remaining ?_ hname
  exact buildSignatureString_inj Empty.elim ItnFormParams.wellFormed_signable
    ItnFormParams.wellFormed_signable hstring

end Forms

/-! ## What a form brings about -/

open Resumption

/-- The form is signed, and the charge row of what it says is there. -/
def ItnRequest.Settled (runtime : Runtime) (config : WebhookConfig) (req : ItnRequest)
    (s : Store) : Prop :=
  PayFastClient.Signed runtime config req.input.params ∧
    ∃ itn, PayFastWebhookService.normaliseItn runtime.toUpperCase runtime.uuid
      req.input.params.get = .ok itn ∧ itn.Committed s

section Requests

variable {runtime : Runtime} {config : WebConfig} {req req' : ItnRequest}

/-- A request is refused at once, or its form is signed and the gateway is asked. -/
theorem receive_cases (runtime : Runtime) (config : WebhookConfig) (req : ItnRequest) :
    (∃ e, PayFastWebhookController.receive runtime config req = .throw e) ∨
      PayFastClient.Signed runtime config req.input.params ∧
        PayFastWebhookController.receive runtime config req =
          PayFastClient.validateItn runtime config req.input.params >>= fun isValid ↦
          if isValid = false then
            .throw (Failure.withDetail .payfastValidationFailed
              "PayFast /eng/query/validate did not return VALID.")
          else (PayFastWebhookService.handleForm runtime.toUpperCase runtime.uuid
            config.toPayFastConfig req.input.params.get req.input.traceparent
            req.input.tracestate).toEngine.toWeb := by
  unfold PayFastWebhookController.receive PayFastWebhookService.handleInput
  dsimp only
  split
  · exact .inl ⟨_, rfl⟩
  · split
    · exact .inl ⟨_, rfl⟩
    · next hsigned => exact .inr ⟨eq_true_of_ne_false hsigned, rfl⟩

theorem guarantees_validateItn {I : Store → Prop} {G : Store → Store → Prop}
    (config : WebhookConfig) (params : ItnFormParams) :
    Guarantees I G (PayFastClient.validateItn runtime config params) := by
  unfold PayFastClient.validateItn
  split
  · exact guarantees_throw _
  · refine (guarantees_query _).bind fun reply ↦ ?_
    cases reply.toValidate with
    | resolved data => exact guarantees_ret _
    | rejected => exact guarantees_throw _

/-- What a request guarantees rests on the form that it normalises, if that is signed. -/
theorem guarantees_receive {config : WebhookConfig} {I : Store → Prop}
    {G : Store → Store → Prop}
    (hG : PayFastClient.Signed runtime config req.input.params → ∀ itn,
      PayFastWebhookService.normaliseItn runtime.toUpperCase runtime.uuid req.input.params.get =
        .ok itn →
      Guarantees I G (PayFastWebhookService.handle config.toPayFastConfig itn
        req.input.traceparent req.input.tracestate)) :
    Guarantees I G (PayFastWebhookController.receive runtime config req) := by
  rcases receive_cases runtime config req with ⟨e, h⟩ | ⟨hsigned, h⟩
  · rw [h]
    exact guarantees_throw e
  · rw [h]
    refine (guarantees_validateItn config req.input.params).bind fun isValid ↦ ?_
    split
    · exact guarantees_throw _
    · refine Guarantees.relabel (Guarantees.relabel ?_)
      unfold PayFastWebhookService.handleForm
      cases hnorm : PayFastWebhookService.normaliseItn runtime.toUpperCase runtime.uuid
        req.input.params.get with
      | error e => exact guarantees_throw e
      | ok itn => exact hG hsigned itn hnorm

/-- A request that changes the store settles its form. -/
theorem guarantees_settled (config : WebhookConfig) (req : ItnRequest) :
    Guarantees (fun _ ↦ True) (fun s s' ↦ s' ≠ s → req.Settled runtime config s')
      (PayFastWebhookController.receive runtime config req) := by
  refine guarantees_receive fun hsigned itn hnorm ↦ ?_
  refine PayFastWebhookService.guarantees_handle (fun _ _ h ↦ absurd rfl h) ?_ _
  intro s₀ s s' intent zarAmount fee _ hfound _ h _
  have hseen := (PayFastWebhookService.of_commit_ok h).1
  exact ⟨hsigned, itn, hnorm, (PayFastWebhookService.seen_iff_committed hfound ..).mp hseen⟩

/-- A request returns only when its form is settled. -/
theorem establishes_receive (config : WebhookConfig) (req : ItnRequest) :
    Establishes (fun _ ↦ True) (req.Settled runtime config)
      (PayFastWebhookController.receive runtime config req) := by
  rcases receive_cases runtime config req with ⟨e, h⟩ | ⟨hsigned, h⟩
  · rw [h]
    exact establishes_throw e
  · rw [h]
    refine establishes_bind _ fun isValid ↦ ?_
    split
    · exact establishes_throw _
    · refine Establishes.relabel (Establishes.relabel ?_)
      unfold PayFastWebhookService.handleForm
      cases hnorm : PayFastWebhookService.normaliseItn runtime.toUpperCase runtime.uuid
        req.input.params.get with
      | error e => exact establishes_throw e
      | ok itn =>
          refine (PayFastWebhookService.establishes_handle config.toPayFastConfig itn _ _).mono ?_
          exact fun s hs ↦ ⟨hsigned, itn, hnorm, hs⟩

/-- A request with the signature of a form that is settled changes nothing. -/
theorem guarantees_repeated {config : WebhookConfig}
    (hsame : req'.input.params.signature = req.input.params.signature)
    (hmd5 : runtime.md5 (PayFastClient.digested config req'.input.params) =
      runtime.md5 (PayFastClient.digested config req.input.params) →
        PayFastClient.digested config req'.input.params =
          PayFastClient.digested config req.input.params) :
    Guarantees (fun _ ↦ True) (fun s s' ↦ req.Settled runtime config s → s' = s)
      (PayFastWebhookController.receive runtime config req') := by
  refine guarantees_receive fun hsigned' itn' hnorm' ↦ ?_
  refine (PayFastWebhookService.guarantees_replay config.toPayFastConfig itn' _ _).mono
    (fun _ hs ↦ hs) ?_
  rintro s s' - h ⟨hsigned, itn, hnorm, hcommitted⟩
  have hitn := normaliseItn_eq_of_signature hsigned hsigned' hsame hmd5
  rw [hnorm, hnorm'] at hitn
  exact h (Except.ok.inj hitn ▸ hcommitted)

end Requests

/-- What is guaranteed of all kinds of writes is guaranteed of every call. -/
theorem WebCall.guarantees {runtime : Runtime} {config : WebConfig} {I : Store → Prop}
    {G : Store → Store → Prop} (hr : PaymentRules config.business I G) (hp : PayoutRules I G)
    (hm : ∀ s s', I s → MethodWrite s s' → G s s') (c : WebCall) :
    Guarantees I G (c.program runtime config) := by
  cases c with
  | itn req =>
      refine guarantees_receive fun _ itn _ ↦ ?_
      exact PayFastWebhookService.guarantees_handle hr.refl
        (fun _ _ h₀ hf hs h ↦ hr.commit h₀ hf hs h) _
  | devComplete intentId callerUserId callerRoles =>
      refine Guarantees.relabel (Guarantees.relabel ?_)
      refine PayFastWebhookService.guarantees_devComplete hr.refl ?_ _ _ _
      intro s₀ s s' intent zarAmount fee mPaymentId h₀ hf hs h
      rw [← PayFastWebhookService.commit_of_complete rfl] at h
      exact hr.commit h₀ hf hs h
  | escrow op => exact ((hr.exec op).discard.relabel).relabel
  | refund input => exact ((hr.issueRefund config.system.payfast input).discard.relabel).relabel
  | payout c => exact Guarantees.relabel (hp.guarantees config.payouts c)
  | method c =>
      exact Guarantees.relabel ((c.guarantees config.encrypt).mono (fun _ hs ↦ hs) hm)

/-- What is guaranteed of the writes of the payout programs as such. -/
theorem PayoutRules.of_payoutWrite {I : Store → Prop} {G : Store → Store → Prop}
    (h : ∀ s s', I s → PayoutWrite s s' → G s s') : PayoutRules I G where
  refl := fun s hs ↦ h s s hs (.refl s)
  fail := fun hs hw ↦ h _ _ hs (payoutWrite_failure hw)
  succeed := fun hs hw ↦ h _ _ hs (payoutWrite_success hw)
  claim := fun hs hw ↦ h _ _ hs (payoutWrite_claim hw)
  requeue := fun hs hw ↦ h _ _ hs (payoutWrite_requeue hw)
  update := fun hs hf hw ↦ h _ _ hs ((rules_payoutWrite fun _ ↦ True).update trivial hf hw)
  tick := fun clock hs ↦ h _ _ hs (payoutWrite_tick _ clock)

/-- No call of the engine or its webhook removes or rewrites a transaction. -/
theorem WebCall.guarantees_transactions {runtime : Runtime} {config : WebConfig} (c : WebCall) :
    Guarantees (fun _ ↦ True) (fun s s' : Store ↦ ∀ t ∈ s.transactions, t ∈ s'.transactions)
      (c.program runtime config) := by
  refine c.guarantees (rules_transactions config.business) (.of_payoutWrite ?_) ?_
  · intro s s' _ h t ht
    rw [h.rest]
    exact ht
  · intro s s' _ h t ht
    rw [h.rest]
    exact ht

/-- A form takes effect at most once, by whichever request its signature is presented: from when
a turn of one of these requests has changed the store, or one of them has returned, no turn of
any of them changes the store. -/
theorem replayed_form_changes_nothing (runtime : Runtime) (config : WebConfig)
    (clock nextId : ℕ) (intents : List PaymentIntent) (calls : List WebCall) {i j : ℕ}
    {req req' : ItnRequest} (hi : calls[i]? = some (.itn req)) (hj : calls[j]? = some (.itn req'))
    (hsame : req'.input.params.signature = req.input.params.signature)
    (hmd5 : runtime.md5 (PayFastClient.digested config.webhook req'.input.params) =
      runtime.md5 (PayFastClient.digested config.webhook req.input.params) →
        PayFastClient.digested config.webhook req'.input.params =
          PayFastClient.digested config.webhook req.input.params)
    (ts : List (Turn OutboundReply Failure)) :
    let reached := Pool.run next (WebCall.pool runtime config clock nextId intents calls)
    ((reached ts).threads[i]? = some (.ret ()) ∨
      (∃ ts₁ m ts₂, ts = ts₁ ++ [⟨i, m⟩] ++ ts₂ ∧
        (reached (ts₁ ++ [⟨i, m⟩])).store ≠ (reached ts₁).store)) →
    ∀ later m, (reached (ts ++ later ++ [⟨j, m⟩])).store = (reached (ts ++ later)).store := by
  intro reached hdone later m
  have hlast : ∀ ts t, reached (ts ++ [t]) = Pool.step next (reached ts) t :=
    fun ts t ↦ Transition.run_append ..
  have hthread : ∀ {k : ℕ} {r : ItnRequest}, calls[k]? = some (.itn r) →
      (WebCall.pool runtime config clock nextId intents calls).threads[k]? =
        some (PayFastWebhookController.receive runtime config.webhook r) := by
    intro k r hk
    change (calls.map _)[k]? = _
    rw [List.getElem?_map, hk]
    rfl
  have hgrows : ∀ p ∈ (WebCall.pool runtime config clock nextId intents calls).threads,
      Guarantees (fun _ ↦ True)
        (fun s s' : Store ↦ ∀ t ∈ s.transactions, t ∈ s'.transactions) p := by
    intro p hp
    obtain ⟨c, -, rfl⟩ := List.mem_map.mp hp
    exact c.guarantees_transactions
  have htrue : ∀ p ∈ (WebCall.pool runtime config clock nextId intents calls).threads,
      Keeps (fun _ ↦ True) p := fun p _ ↦ keeps_true p
  have hstable : ∀ s s' : Store, req.Settled runtime config.webhook s →
      (∀ t ∈ s.transactions, t ∈ s'.transactions) → req.Settled runtime config.webhook s' := by
    rintro s s' ⟨hsigned, itn, hnorm, t, ht, hrow⟩ hsub
    exact ⟨hsigned, itn, hnorm, t, hsub t ht, hrow⟩
  have hsettled : req.Settled runtime config.webhook (reached (ts ++ later)).store := by
    rcases hdone with hret | ⟨ts₁, m₁, ts₂, rfl, hchange⟩
    · refine Pool.stable_run (fun _ _ _ ht ↦ ht) htrue hgrows trivial hstable ?_ later
      refine Pool.establishes_run htrue (fun p hp ↦ ?_) trivial (hthread hi)
        (establishes_receive config.webhook req) ts hret
      exact (hgrows p hp).mono (fun _ hs ↦ hs) fun s s' _ hsub hc ↦ hstable s s' hc hsub
    · have hturn := Pool.guarantees_turn (fun _ _ h ↦ absurd rfl h) htrue trivial (hthread hi)
        (guarantees_settled config.webhook req) ts₁ (rfl : (⟨i, m₁⟩ : Turn _ _).thread = i)
      have hsettled₁ : req.Settled runtime config.webhook (reached (ts₁ ++ [⟨i, m₁⟩])).store := by
        rw [hlast] at hchange ⊢
        exact hturn hchange
      rw [List.append_assoc]
      exact Pool.stable_run (fun _ _ _ ht ↦ ht) htrue hgrows trivial hstable hsettled₁ _
  have hturn := Pool.guarantees_turn (fun _ _ _ ↦ rfl) htrue trivial (hthread hj)
    (guarantees_repeated hsame hmd5) (ts ++ later) (rfl : (⟨j, m⟩ : Turn _ _).thread = j)
  rw [hlast]
  exact hturn hsettled

namespace Sample

/-- What is signed of the form below, and its MD5 digest. -/
def itnSigned : List Char :=
  ("amount_gross=10.00&m_payment_id=1&merchant_id=10000100&payment_status=COMPLETE" ++
    "&pf_payment_id=1089250").toList

def itnDigest : List UInt8 :=
  [0x0b, 0xe9, 0x7a, 0x2e, 0xcc, 0xc1, 0x0b, 0x9e, 0xa1, 0xf5, 0x89, 0x97, 0xd6, 0x70, 0x26, 0x71]

/-- A digest that is MD5 where it is looked at. -/
def runtime : Runtime where
  md5 bytes i := if bytes = itnSigned.flatMap String.utf8EncodeChar then itnDigest.getD i 0 else 0
  toUpperCase := id
  uuid _ := 1

def web : WebConfig where
  systemUserId := 9
  business := config.business
  payouts := ⟨true, true, 5, 50, ⟨config.payfast, none⟩, .ok⟩
  encrypt := id
  production := true
  ipWhitelist := ["127.0.0.1".toList]
  passphrase := none
  validateUrl := none

def itnForm (signature : String) : ItnFormParams where
  entries := [("amount_gross", "10.00"), ("m_payment_id", "1"), ("merchant_id", "10000100"),
    ("payment_status", "COMPLETE"), ("pf_payment_id", "1089250"), ("signature", signature)]
  nodup := by
    simp only [List.map_cons, List.map_nil]
    decide

def itnRequest (signature : String) : ItnRequest :=
  ⟨some (itnForm signature), some "127.0.0.1", none, none⟩

def itnSignature : String := "0be97a2eccc10b9ea1f58997d6702671"

def itnSignatureUpper : String := "0BE97A2ECCC10B9EA1F58997D6702671"

/-- The form, and again with its signature in upper case. -/
def twice : List WebCall :=
  [.itn (itnRequest itnSignature), .itn (itnRequest itnSignatureUpper)]

def answered (i : ℕ) : List (Turn OutboundReply Failure) :=
  [⟨i, .answer (.validate (.resolved (some "VALID")))⟩, ⟨i, .act⟩]

/-- The fields of the form are sorted by their names. -/
theorem digested_itnForm {signature : String} (h : signature = itnSignature ∨
    signature = itnSignatureUpper) : PayFastClient.digested web.webhook (itnForm signature) =
      itnSigned.flatMap String.utf8EncodeChar := by
  have hfields : (itnForm signature).signable.fields Empty.elim =
      [("amount_gross", "10.00"), ("m_payment_id", "1"), ("merchant_id", "10000100"),
        ("payment_status", "COMPLETE"), ("pf_payment_id", "1089250")].map
          fun field : String × String ↦ (text field.1, text field.2) := by
    obtain rfl | rfl := h
    · decide +kernel
    · decide +kernel
  refine congrArg (List.flatMap String.utf8EncodeChar) ?_
  show formUrlEncode (sortByKey _) = _
  rw [hfields, sortByKey, List.mergeSort_of_pairwise (by decide +kernel)]
  decide +kernel

/-- The form carries its signature. -/
theorem signed_itnForm {signature : String} (h : signature = itnSignature ∨
    signature = itnSignatureUpper) :
    PayFastClient.verifyItnSignature runtime web.webhook (itnForm signature)
      (((itnForm signature).get "signature").getD "") = true := by
  have hdigest : signParams Empty.elim runtime.md5 (itnForm signature).signable none =
      text itnSignature := by
    show hexDigest (runtime.md5 (PayFastClient.digested web.webhook _)) = _
    rw [digested_itnForm h]
    decide +kernel
  show verifySignature Empty.elim runtime.md5 _ _ none = true
  rw [verifySignature, hdigest]
  obtain rfl | rfl := h
  · decide +kernel
  · decide +kernel

/-- What is left of the handling of a form that came from an address of the gateway and carries its
signature. -/
def checked (signature : String) : Web Unit := do
  let isValid ← PayFastClient.validateItn runtime web.webhook (itnForm signature)
  if isValid = false then
    MonadExcept.throw (Failure.withDetail .payfastValidationFailed
      "PayFast /eng/query/validate did not return VALID.")
  (PayFastWebhookService.handleForm runtime.toUpperCase runtime.uuid web.webhook.toPayFastConfig
    (itnForm signature).get none none).toEngine.toWeb

theorem program_itnRequest {signature : String} (h : signature = itnSignature ∨
    signature = itnSignatureUpper) :
    (WebCall.itn (itnRequest signature)).program runtime web = checked signature := by
  have hallowed : ¬((IpWhitelist.parseIpWhitelist web.webhook.ipWhitelist).length = 0 ∨
      IpWhitelist.isIpAllowed "127.0.0.1".toList
        (IpWhitelist.parseIpWhitelist web.webhook.ipWhitelist) = false) := by
    decide +kernel
  have hsigned : ¬PayFastClient.verifyItnSignature runtime web.webhook (itnForm signature)
      (((itnForm signature).get "signature").getD "") = false := by
    rw [signed_itnForm h]
    exact Bool.false_ne_true.symm
  show PayFastWebhookService.handleInput runtime web.webhook ⟨itnForm signature, "127.0.0.1", none,
    none⟩ = _
  rw [PayFastWebhookService.handleInput]
  dsimp only
  rw [if_neg hallowed, if_neg hsigned]
  rfl

end Sample

theorem replayed_form_changes_nothing_sample :
    (Pool.run next (WebCall.pool Sample.runtime Sample.web 0 10 [Sample.intent] Sample.twice)
      (Sample.answered 0 ++ [⟨0, .act⟩] ++ Sample.answered 1 ++ [⟨1, .act⟩])).store =
    (Pool.run next (WebCall.pool Sample.runtime Sample.web 0 10 [Sample.intent] Sample.twice)
      (Sample.answered 0 ++ [⟨0, .act⟩] ++ Sample.answered 1)).store := by
  have hfirst : Sample.twice[0]? =
      some (.itn (Sample.itnRequest Sample.itnSignature)) := rfl
  have hsecond : Sample.twice[1]? =
      some (.itn (Sample.itnRequest Sample.itnSignatureUpper)) := rfl
  refine replayed_form_changes_nothing Sample.runtime Sample.web 0 10 [Sample.intent] Sample.twice
    hfirst hsecond (by decide) (fun _ ↦ ?_) (Sample.answered 0 ++ [⟨0, .act⟩]) ?_
    (Sample.answered 1) .act
  · exact (Sample.digested_itnForm (.inr rfl)).trans (Sample.digested_itnForm (.inl rfl)).symm
  · refine .inr ⟨Sample.answered 0, .act, [], (List.append_nil _).symm, fun h ↦ ?_⟩
    have hpool : WebCall.pool Sample.runtime Sample.web 0 10 [Sample.intent] Sample.twice =
        ⟨Store.empty 0 10 [Sample.intent],
          [Sample.checked Sample.itnSignature, Sample.checked Sample.itnSignatureUpper], []⟩ := by
      rw [WebCall.pool, Sample.twice, List.map_cons, List.map_singleton,
        Sample.program_itnRequest (.inl rfl), Sample.program_itnRequest (.inr rfl)]
    rw [hpool] at h
    exact absurd (congrArg (fun s : Store ↦ s.transactions.length) h) (by decide +kernel)

end GearshPayments
