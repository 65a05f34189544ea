import GearshPayments.JavaScript.Number
import GearshPayments.Payments.Webhook
import GearshPayments.Resumption.Run

/-!
# The amount of an ITN

`normaliseItn` and `normaliseAmount` (`payfast-webhook.service.ts`): the fields of the form that
the pipeline depends on, without the white space around them, and the amount brought to two
decimals.  The normalised amount is compared with the locked one as a text.  Decimals after the
second are cut off: what is accepted is worth the locked amount unless one of these is not zero
(`amount_check_exact_iff`).
-/

namespace GearshPayments

open JavaScript

namespace PayFastWebhookService

/-! ## Normalising -/

/-- The test for `-?\d+(\.\d+)?`. -/
def isAmount (raw : List Char) : Bool :=
  let unsigned := match raw with
    | '-' :: cs => cs
    | cs => cs
  IsNumeral (unsigned.takeWhile Char.isDigit) &&
    match unsigned.dropWhile Char.isDigit with
    | [] => true
    | '.' :: cs => IsNumeral cs
    | _ => false

/-- The decimals of an amount, brought to two. -/
def padded (fracPart : List Char) : List Char :=
  if fracPart.length = 0 then ['0', '0']
  else if fracPart.length = 1 then fracPart ++ ['0']
  else fracPart.take 2

def normaliseAmount (raw : List Char) : List Char :=
  if isAmount raw then
    let parts := raw.splitOn '.'
    parts.getD 0 [] ++ '.' :: padded (parts.getD 1 [])
  else raw

/-- A field of the form, without the white space around it. -/
def field (params : String → Option String) (name : String) : List Char :=
  trim ((params name).getD "").toList

def knownStatus? (s : List Char) : Option PayFastPaymentStatus :=
  [.complete, .failed, .pending, .cancelled].find? fun status ↦ status.name.toList = s

section Itn

-- `s.toUpperCase()`, and the id that is written as a uuid
variable (toUpperCase : List Char → List Char) (uuid : List Char → ℕ)

/-- The fields that the pipeline depends on. -/
def normaliseItn (params : String → Option String) : Except Failure NormalisedItn :=
  let pfPaymentId := field params "pf_payment_id"
  let mPaymentId := field params "m_payment_id"
  let statusRaw := toUpperCase (field params "payment_status")
  let amountGross := field params "amount_gross"
  let merchantId := field params "merchant_id"
  if pfPaymentId = [] ∨ mPaymentId = [] ∨ statusRaw = [] ∨ amountGross = [] ∨ merchantId = [] then
    .error (.withDetail .payfastValidationFailed
      ("ITN missing one or more required fields: pf_payment_id, m_payment_id, payment_status, " ++
        "amount_gross, merchant_id."))
  else match knownStatus? statusRaw with
    | none => .error (.withDetail .payfastValidationFailed
        s!"Unknown payment_status: {String.ofList statusRaw}.")
    | some paymentStatus => .ok
        { pfPaymentId := String.ofList pfPaymentId, mPaymentId := uuid mPaymentId, paymentStatus,
          amountGross := String.ofList (normaliseAmount amountGross),
          merchantId := String.ofList merchantId }

/-- Steps 4 and 5 of the pipeline, from the form on. -/
def handleForm (config : PayFastConfig) (params : String → Option String)
    (traceparent tracestate : Option String) : Service Unit := do
  let itn ← Resumption.ofExcept (normaliseItn toUpperCase uuid params)
  handle config itn traceparent tracestate

end Itn

/-- The amount check of `handle`, for a locked amount. -/
def AmountMatches (amountGross : List Char) (zarAmount : ℤ) : Prop :=
  String.ofList (normaliseAmount (trim amountGross)) = centsToMajorString zarAmount

instance (amountGross : List Char) (zarAmount : ℤ) :
    Decidable (AmountMatches amountGross zarAmount) := inferInstanceAs (Decidable (_ = _))

theorem amountGross_normaliseItn {toUpperCase : List Char → List Char} {uuid : List Char → ℕ}
    {params : String → Option String} {itn : NormalisedItn}
    (h : normaliseItn toUpperCase uuid params = .ok itn) :
    itn.amountGross = String.ofList (normaliseAmount (field params "amount_gross")) := by
  unfold normaliseItn at h
  dsimp only at h
  split at h
  · cases h
  · split at h
    · cases h
    · cases h
      rfl

/-- What `handle` makes of the amount of a form. -/
theorem matchIntent_normaliseItn {toUpperCase : List Char → List Char} {uuid : List Char → ℕ}
    {params : String → Option String} {itn : NormalisedItn}
    (h : normaliseItn toUpperCase uuid params = .ok itn) {intent : PaymentIntent} {zarAmount : ℤ}
    (hlocked : intent.zarAmountCentsLocked = some zarAmount) :
    matchIntent itn (some intent) =
      if AmountMatches ((params "amount_gross").getD "").toList zarAmount then
        (zarFee intent).map fun fee ↦ (intent, zarAmount, fee)
      else .error (.withDetail .payfastValidationFailed
        (s!"ITN amount_gross={itn.amountGross} does not match locked amount " ++
          centsToMajorString zarAmount ++ ".")) := by
  have hcheck : AmountMatches ((params "amount_gross").getD "").toList zarAmount ↔
      itn.amountGross = centsToMajorString zarAmount := by
    rw [amountGross_normaliseItn h]
    rfl
  rw [matchIntent, hlocked]
  dsimp only
  split_ifs with hne hmatches hmatches
  · exact absurd (hcheck.mp hmatches) hne
  · rfl
  · cases zarFee intent <;> rfl
  · exact absurd (hcheck.mpr (not_not.mp hne)) hmatches

/-- A form with another amount is refused, and changes nothing. -/
theorem run_handleForm_mismatch {toUpperCase : List Char → List Char} {uuid : List Char → ℕ}
    {config : PayFastConfig} {params : String → Option String} {itn : NormalisedItn}
    (hitn : normaliseItn toUpperCase uuid params = .ok itn) {s : Store} {intent : PaymentIntent}
    (hfound : s.paymentIntent? itn.mPaymentId = some intent) {zarAmount : ℤ}
    (hlocked : intent.zarAmountCentsLocked = some zarAmount)
    (hmismatch : ¬AmountMatches ((params "amount_gross").getD "").toList zarAmount)
    (traceparent tracestate : Option String) (answers : ℕ → HttpOutcome) :
    ∃ detail,
      (handleForm toUpperCase uuid config params traceparent tracestate).run (.healthy answers) s =
        ⟨.error (.withDetail .payfastValidationFailed detail), s, .healthy answers, []⟩ := by
  have hmatch := matchIntent_normaliseItn hitn hlocked
  rw [if_neg hmismatch] at hmatch
  have hform : handleForm toUpperCase uuid config params traceparent tracestate =
      handle config itn traceparent tracestate := by
    rw [handleForm, hitn]
    rfl
  rw [hform]
  unfold handle
  by_cases hmerchant : itn.merchantId ≠ config.merchantId.getD ""
  · rw [if_pos hmerchant]
    exact ⟨_, rfl⟩
  · rw [if_neg hmerchant]
    simp only [Resumption.run_bind, Resumption.run_read_healthy,
      Resumption.Run.andThen, hfound, hmatch]
    exact ⟨_, rfl⟩

/-! ## What is normalised to a numeral -/

theorem dot_notMem {cs : List Char} (h : ∀ c ∈ cs, c.isDigit = true) : '.' ∉ cs :=
  fun hmem ↦ absurd (h _ hmem) (by decide)

/-- A numeral does not begin with a sign. -/
theorem isAmount_eq {cs : List Char} (h : cs.head? ≠ some '-') :
    isAmount cs = (IsNumeral (cs.takeWhile Char.isDigit) &&
      match cs.dropWhile Char.isDigit with
      | [] => true
      | '.' :: cs => IsNumeral cs
      | _ => false) := by
  unfold isAmount
  split
  · exact absurd rfl h
  · rfl

theorem head_ne_of_isNumeral {cs ds : List Char} (h : IsNumeral cs) :
    (cs ++ ds).head? ≠ some '-' := by
  cases cs with
  | nil => exact absurd rfl h.1
  | cons c cs =>
      intro hc
      cases hc
      exact absurd (h.2 '-' List.mem_cons_self) (by decide)

theorem isAmount_numeral {cs : List Char} (h : IsNumeral cs) : isAmount cs = true := by
  have hhead : (cs ++ []).head? ≠ some '-' := head_ne_of_isNumeral h
  rw [List.append_nil] at hhead
  rw [isAmount_eq hhead, List.takeWhile_eq_self_iff.mpr h.2, List.dropWhile_eq_nil_iff.mpr h.2,
    Bool.and_true, decide_eq_true h]

theorem isAmount_decimals {cs ds : List Char} (h : IsNumeral cs) (hds : IsNumeral ds) :
    isAmount (cs ++ '.' :: ds) = true := by
  rw [isAmount_eq (head_ne_of_isNumeral h), List.takeWhile_append_of_pos h.2,
    List.dropWhile_append_of_pos h.2, List.takeWhile_cons_of_neg (by decide),
    List.dropWhile_cons_of_neg (by decide), List.append_nil]
  simp only [decide_eq_true h, decide_eq_true hds, Bool.and_true]

/-- An amount has no point, or one with digits behind it. -/
theorem of_isAmount {raw : List Char} (h : isAmount raw = true) :
    '.' ∉ raw ∨ ∃ cs ds, '.' ∉ cs ∧ IsNumeral ds ∧ raw = cs ++ '.' :: ds := by
  obtain ⟨sign, cs, hraw, hsign, hcs⟩ : ∃ sign cs, raw = sign ++ cs ∧ '.' ∉ sign ∧
      (match cs.dropWhile Char.isDigit with
        | [] => true
        | '.' :: ds => decide (IsNumeral ds)
        | _ => false) = true := by
    unfold isAmount at h
    dsimp only at h
    split at h
    · exact ⟨['-'], _, rfl, by decide, (Bool.and_eq_true_iff.mp h).2⟩
    · exact ⟨[], _, rfl, List.not_mem_nil, (Bool.and_eq_true_iff.mp h).2⟩
  have hdigits : '.' ∉ cs.takeWhile Char.isDigit :=
    dot_notMem fun c hc ↦ List.mem_takeWhile_imp hc
  have hsplit := List.takeWhile_append_dropWhile (p := Char.isDigit) (l := cs)
  split at hcs
  case h_1 hnil =>
    rw [hnil, List.append_nil] at hsplit
    rw [hsplit] at hdigits
    rw [hraw, List.mem_append]
    exact .inl fun hdot ↦ hdot.elim hsign hdigits
  case h_2 ds hds =>
    refine .inr ⟨sign ++ cs.takeWhile Char.isDigit, ds, ?_, of_decide_eq_true hcs, ?_⟩
    · rw [List.mem_append]
      exact fun hdot ↦ hdot.elim hsign hdigits
    · rw [List.append_assoc, ← hds, hsplit, hraw]
  case h_3 => cases hcs

theorem normaliseAmount_whole {cs : List Char} (h : isAmount cs = true) (hdot : '.' ∉ cs) :
    normaliseAmount cs = cs ++ ['.', '0', '0'] := by
  rw [normaliseAmount, if_pos h, List.splitOn_eq_singleton hdot]
  rfl

theorem normaliseAmount_decimals {cs ds : List Char} (h : isAmount (cs ++ '.' :: ds) = true)
    (hcs : '.' ∉ cs) (hds : '.' ∉ ds) :
    normaliseAmount (cs ++ '.' :: ds) = cs ++ '.' :: padded ds := by
  rw [normaliseAmount, if_pos h, List.splitOn_append_cons_self, List.splitOn_eq_singleton hcs,
    List.splitOn_eq_singleton hds]
  rfl

theorem length_padded (ds : List Char) : (padded ds).length = 2 := by
  unfold padded
  split_ifs with hzero hone
  · rfl
  · rw [List.length_append, hone]
    rfl
  · rw [List.length_take]
    omega

/-- What is normalised to a numeral with two decimals: this numeral without zeros at its end, or
with any more digits. -/
theorem normaliseAmount_eq_iff {raw cs : List Char} (hcs : IsNumeral cs) {d e : Char}
    (hd : d.isDigit = true) (he : e.isDigit = true) :
    normaliseAmount raw = cs ++ ['.', d, e] ↔
      (d = '0' ∧ e = '0' ∧ raw = cs) ∨ (e = '0' ∧ raw = cs ++ ['.', d]) ∨
        ∃ ds, (∀ c ∈ ds, c.isDigit = true) ∧ raw = cs ++ ['.', d, e] ++ ds := by
  have hdot := dot_notMem hcs.2
  constructor
  · intro h
    cases hamount : isAmount raw with
    | false =>
        rw [normaliseAmount, hamount] at h
        exact .inr (.inr ⟨[], fun _ hc ↦ absurd hc List.not_mem_nil, by rwa [List.append_nil]⟩)
    | true =>
        obtain hwhole | ⟨int, ds, hint, hds, rfl⟩ := of_isAmount hamount
        · rw [normaliseAmount_whole hamount hwhole] at h
          obtain ⟨hraw, htail⟩ := List.append_inj' h rfl
          cases htail
          exact .inl ⟨rfl, rfl, hraw⟩
        · rw [normaliseAmount_decimals hamount hint (dot_notMem hds.2)] at h
          obtain ⟨rfl, htail⟩ := List.append_inj' h (by rw [List.length_cons, length_padded]; rfl)
          have hpadded : padded ds = [d, e] := (List.cons.inj htail).2
          match ds, hds, hpadded with
          | [], hds, _ => exact absurd rfl hds.1
          | [_], _, hpadded =>
              cases hpadded
              exact .inr (.inl ⟨rfl, rfl⟩)
          | _ :: _ :: rest, hds, hpadded =>
              cases hpadded
              refine .inr (.inr ⟨rest, fun c hc ↦ hds.2 c ?_, ?_⟩)
              · exact List.mem_cons_of_mem _ (List.mem_cons_of_mem _ hc)
              · rw [List.append_assoc]
                rfl
  · rintro (⟨rfl, rfl, rfl⟩ | ⟨rfl, rfl⟩ | ⟨ds, hds, rfl⟩)
    · exact normaliseAmount_whole (isAmount_numeral hcs) hdot
    · have hone : IsNumeral [d] := ⟨List.cons_ne_nil _ _, List.forall_mem_singleton.mpr hd⟩
      exact normaliseAmount_decimals (isAmount_decimals hcs hone) hdot (dot_notMem hone.2)
    · have hmore : IsNumeral (d :: e :: ds) :=
        ⟨List.cons_ne_nil _ _, List.forall_mem_cons.mpr ⟨hd, List.forall_mem_cons.mpr ⟨he, hds⟩⟩⟩
      rw [List.append_assoc]
      exact normaliseAmount_decimals (isAmount_decimals hcs hmore) hdot (dot_notMem hmore.2)

/-! ## The numeral of the locked amount -/

/-- The numeral of an amount that is not negative: its units and two decimals. -/
theorem toList_centsToMajorString (n : ℕ) :
    (centsToMajorString n).toList =
      Nat.toDigits 10 (n / 100) ++ ['.', Nat.digitChar (n % 100 / 10), Nat.digitChar (n % 10)] := by
  have hminor : ∀ m < 100,
      (padMinor m).toList = [Nat.digitChar (m / 10), Nat.digitChar (m % 10)] := by
    decide
  have hmod : n % 100 % 10 = n % 10 := Nat.mod_mod_of_dvd n (by decide)
  have hpos : ¬((n : ℤ) < 0) := not_lt.mpr (Int.natCast_nonneg n)
  have hmajor : (toString (n / 100)).toList = Nat.toDigits 10 (n / 100) := Nat.toList_repr
  rw [centsToMajorString]
  simp only [if_neg hpos, Int.natAbs_natCast, String.toList_append,
    hminor _ (Nat.mod_lt n (by decide)), hmod, hmajor]
  rw [List.append_assoc]
  rfl

/-- The digits of this numeral stand for the cents. -/
theorem numeralValue_cents (n : ℕ) :
    numeralValue (Nat.toDigits 10 (n / 100) ++
      [Nat.digitChar (n % 100 / 10), Nat.digitChar (n % 10)]) = n := by
  have hminor : numeralValue [Nat.digitChar (n % 100 / 10), Nat.digitChar (n % 10)] = n % 100 := by
    rw [numeralValue, Nat.ofDigitChars_cons_digitChar_of_lt_ten (by omega),
      Nat.ofDigitChars_cons_digitChar_of_lt_ten (by omega), Nat.ofDigitChars_nil]
    omega
  rw [numeralValue_append, numeralValue_toDigits, hminor]
  exact Nat.div_add_mod n 100

theorem centsToMajorString_inj {m n : ℕ} (h : centsToMajorString m = centsToMajorString n) :
    m = n := by
  have hlist := congrArg String.toList h
  rw [toList_centsToMajorString, toList_centsToMajorString] at hlist
  obtain ⟨hmajor, hminor⟩ := List.append_inj' hlist rfl
  rw [← numeralValue_cents m, ← numeralValue_cents n, hmajor, (List.cons.inj hminor).2]

/-! ## What is accepted -/

/-- One or more digits, with or without decimals. -/
def IsDecimalNumeral (cs : List Char) : Prop :=
  IsNumeral cs ∨ ∃ int ds, IsNumeral int ∧ IsNumeral ds ∧ cs = int ++ '.' :: ds

/-- A text is a decimal numeral, of the value given. -/
structure StandsFor (cs : List Char) (value : ℚ) : Prop where
  numeral : IsDecimalNumeral cs
  value : Number.decimalValue cs = some value

/-- The numeral of an amount without some of the zeros at its end; the point goes with the second
of them. -/
def IsVariant (zarAmount : ℤ) (cs : List Char) : Prop :=
  (centsToMajorString zarAmount).toList ∈ [cs, cs ++ ['0'], cs ++ ['.', '0', '0']]

/-- The numeral of an amount and more digits, not all of them zeros. -/
def HasExcess (zarAmount : ℤ) (cs : List Char) : Prop :=
  ∃ ds : List Char, (∀ d ∈ ds, d.isDigit = true) ∧ (∃ d ∈ ds, d ≠ '0') ∧
    cs = (centsToMajorString zarAmount).toList ++ ds

theorem isDigit_digitChar {m : ℕ} (h : m < 10) : (Nat.digitChar m).isDigit = true :=
  Nat.isDigit_digitChar.trans (decide_eq_true h)

theorem amountMatches_iff {amountGross : List Char} {n : ℕ} {d e : Char}
    (hd : d = Nat.digitChar (n % 100 / 10)) (he : e = Nat.digitChar (n % 10)) :
    AmountMatches amountGross n ↔
      (d = '0' ∧ e = '0' ∧ trim amountGross = Nat.toDigits 10 (n / 100)) ∨
      (e = '0' ∧ trim amountGross = Nat.toDigits 10 (n / 100) ++ ['.', d]) ∨
        ∃ ds : List Char, (∀ c ∈ ds, c.isDigit = true) ∧
          trim amountGross = Nat.toDigits 10 (n / 100) ++ ['.', d, e] ++ ds := by
  rw [AmountMatches, ← String.toList_inj, String.toList_ofList, toList_centsToMajorString, ← hd,
    ← he]
  refine normaliseAmount_eq_iff (isNumeral_toDigits _) ?_ ?_
  · rw [hd]
    exact isDigit_digitChar (by omega)
  · rw [he]
    exact isDigit_digitChar (by omega)

/-- The value of the numeral of an amount does not change by zeros. -/
theorem decimalValue_append_iff (n : ℕ) {ds : List Char} (hds : ∀ d ∈ ds, d.isDigit = true) :
    Number.decimalValue ((centsToMajorString n).toList ++ ds) = some ((n : ℚ) / 100) ↔
      ∀ d ∈ ds, d = '0' := by
  have hcents := numeralValue_cents n
  have hd : (Nat.digitChar (n % 100 / 10)).isDigit = true := isDigit_digitChar (by omega)
  have he : (Nat.digitChar (n % 10)).isDigit = true := isDigit_digitChar (by omega)
  rw [toList_centsToMajorString]
  generalize Nat.digitChar (n % 100 / 10) = d at *
  generalize Nat.digitChar (n % 10) = e at *
  have hdigits : ∀ c ∈ d :: e :: ds, c.isDigit = true :=
    List.forall_mem_cons.mpr ⟨hd, List.forall_mem_cons.mpr ⟨he, hds⟩⟩
  have hvalue := numeralValue_append (Nat.toDigits 10 (n / 100) ++ [d, e]) ds
  rw [hcents, List.append_assoc] at hvalue
  rw [List.append_assoc]
  have hread := Number.decimalValue_fraction (isNumeral_toDigits (n / 100)) hdigits
  have hpos : (0 : ℚ) < 10 ^ ds.length := by positivity
  have htwo : (10 : ℚ) ^ [d, e].length = 100 := by norm_num
  rw [← numeralValue_eq_zero_iff hds]
  refine (Eq.congr_left hread).trans ?_
  rw [Option.some_inj, show d :: e :: ds = [d, e] ++ ds from rfl, hvalue, List.length_append,
    pow_add, htwo, div_eq_div_iff (by positivity) (by norm_num)]
  push_cast
  constructor
  · intro h
    have hzero : (numeralValue ds : ℚ) = 0 := by linarith
    exact_mod_cast hzero
  · intro h
    rw [h]
    push_cast
    ring

/-- An accepted amount is a numeral of the locked one, or has more digits. -/
theorem of_amountMatches {amountGross : List Char} {n : ℕ} (h : AmountMatches amountGross n) :
    StandsFor (trim amountGross) (n / 100) ∨
      ∃ ds : List Char, (∀ d ∈ ds, d.isDigit = true) ∧
        trim amountGross = (centsToMajorString n).toList ++ ds := by
  have hcents := numeralValue_cents n
  have hnumeral := isNumeral_toDigits (n / 100)
  have hd : (Nat.digitChar (n % 100 / 10)).isDigit = true := isDigit_digitChar (by omega)
  obtain ⟨hzero, hzero', htrim⟩ | ⟨hzero, htrim⟩ | ⟨ds, hds, htrim⟩ :=
    (amountMatches_iff rfl rfl).mp h
  · rw [hzero, hzero', numeralValue_append] at hcents
    have hvalue : (n : ℚ) / 100 = numeralValue (Nat.toDigits 10 (n / 100)) := by
      have hcast : (n : ℚ) = 100 * numeralValue (Nat.toDigits 10 (n / 100)) := by
        exact_mod_cast hcents.symm
      rw [hcast]
      ring
    rw [htrim, hvalue]
    exact .inl ⟨.inl hnumeral, Number.decimalValue_numeral hnumeral⟩
  · generalize Nat.digitChar (n % 100 / 10) = d at *
    have hone : IsNumeral [d] := ⟨List.cons_ne_nil _ _, List.forall_mem_singleton.mpr hd⟩
    have hsplit := numeralValue_append (Nat.toDigits 10 (n / 100) ++ [d]) ['0']
    rw [hzero] at hcents
    rw [List.append_assoc, List.singleton_append, hcents] at hsplit
    have hvalue : (n : ℚ) / 100 =
        (numeralValue (Nat.toDigits 10 (n / 100) ++ [d]) : ℚ) / 10 ^ [d].length := by
      have hcast : (n : ℚ) = 10 * numeralValue (Nat.toDigits 10 (n / 100) ++ [d]) := by
        exact_mod_cast hsplit
      rw [hcast, List.length_singleton]
      ring
    rw [htrim, hvalue]
    exact .inl ⟨.inr ⟨_, _, hnumeral, hone, rfl⟩, Number.decimalValue_fraction hnumeral hone.2⟩
  · rw [← toList_centsToMajorString] at htrim
    exact .inr ⟨ds, hds, htrim⟩

/-- The numeral of an amount with more digits is accepted. -/
theorem amountMatches_append {amountGross ds : List Char} {n : ℕ}
    (hds : ∀ d ∈ ds, d.isDigit = true)
    (h : trim amountGross = (centsToMajorString n).toList ++ ds) : AmountMatches amountGross n := by
  rw [toList_centsToMajorString] at h
  exact (amountMatches_iff rfl rfl).mpr (.inr (.inr ⟨ds, hds, h⟩))

theorem standsFor_append (n : ℕ) {ds : List Char} (hds : ∀ d ∈ ds, d.isDigit = true)
    (hzero : ∀ d ∈ ds, d = '0') : StandsFor ((centsToMajorString n).toList ++ ds) (n / 100) := by
  have hdecimals :
      IsNumeral (Nat.digitChar (n % 100 / 10) :: Nat.digitChar (n % 10) :: ds) := by
    refine ⟨List.cons_ne_nil _ _, List.forall_mem_cons.mpr ⟨isDigit_digitChar (by omega), ?_⟩⟩
    exact List.forall_mem_cons.mpr ⟨isDigit_digitChar (by omega), hds⟩
  refine ⟨.inr ⟨_, _, isNumeral_toDigits (n / 100), hdecimals, ?_⟩,
    (decimalValue_append_iff n hds).mpr hzero⟩
  rw [toList_centsToMajorString, List.append_assoc]
  rfl

theorem not_isSpace_centsToMajorString (n : ℕ) :
    ∀ c ∈ (centsToMajorString n).toList, isSpace c = false := by
  intro c hc
  rw [toList_centsToMajorString, List.mem_append] at hc
  obtain hc | hc := hc
  · exact isSpace_of_isDigit ((isNumeral_toDigits (n / 100)).2 c hc)
  · simp only [List.mem_cons, List.not_mem_nil, or_false] at hc
    obtain rfl | rfl | rfl := hc
    · decide
    · exact isSpace_of_isDigit (isDigit_digitChar (by omega))
    · exact isSpace_of_isDigit (isDigit_digitChar (by omega))

theorem IsVariant.amountMatches {n : ℕ} {cs : List Char} (h : IsVariant n cs) :
    AmountMatches cs n := by
  have htrim : trim cs = cs := by
    refine trim_of_forall fun c hc ↦ not_isSpace_centsToMajorString n c ?_
    simp only [IsVariant, List.mem_cons, List.not_mem_nil, or_false] at h
    obtain h | h | h := h <;> rw [h]
    · exact hc
    · exact List.mem_append_left _ hc
    · exact List.mem_append_left _ hc
  simp only [IsVariant, List.mem_cons, List.not_mem_nil, or_false] at h
  have hlast : ∀ (int : List Char) (d e : Char), int ++ ['.', d, e] = int ++ ['.', d] ++ [e] := by
    intro int d e
    rw [List.append_assoc]
    rfl
  rw [amountMatches_iff rfl rfl, htrim]
  rw [toList_centsToMajorString] at h
  obtain h | h | h := h
  · exact .inr (.inr ⟨[], fun _ hc ↦ absurd hc List.not_mem_nil, by rw [List.append_nil, h]⟩)
  · rw [hlast] at h
    obtain ⟨h, he⟩ := List.append_inj' h rfl
    exact .inr (.inl ⟨(List.cons.inj he).1, h.symm⟩)
  · obtain ⟨h, hdecimals⟩ := List.append_inj' h rfl
    obtain ⟨hd, he⟩ := List.cons.inj (List.cons.inj hdecimals).2
    exact .inl ⟨hd, (List.cons.inj he).1, h.symm⟩

/-- What the amount check accepts is worth the locked amount, unless it is the numeral of that
amount with more digits that are not all zeros.  The numeral and its variants are accepted, and
nothing is for two amounts. -/
theorem amount_check_exact_iff {zarAmount : ℤ} (hnonneg : 0 ≤ zarAmount) :
    (∀ amountGross,
      (AmountMatches amountGross zarAmount →
        StandsFor (trim amountGross) (zarAmount / 100)) ↔
      ¬HasExcess zarAmount (trim amountGross)) ∧
    (∀ cs, IsVariant zarAmount cs → AmountMatches cs zarAmount) ∧
    ∀ amountGross zarAmount', 0 ≤ zarAmount' → AmountMatches amountGross zarAmount →
      AmountMatches amountGross zarAmount' → zarAmount' = zarAmount := by
  obtain ⟨n, rfl⟩ := Int.eq_ofNat_of_zero_le hnonneg
  refine ⟨fun amountGross ↦ ⟨?_, ?_⟩, fun cs ↦ IsVariant.amountMatches, ?_⟩
  · rintro hexact ⟨ds, hds, ⟨d, hd, hne⟩, htrim⟩
    have hvalue := (hexact (amountMatches_append hds htrim)).value
    rw [htrim] at hvalue
    exact hne ((decimalValue_append_iff n hds).mp hvalue d hd)
  · intro hexcess hmatches
    obtain hstands | ⟨ds, hds, htrim⟩ := of_amountMatches hmatches
    · exact hstands
    · have hzero : ∀ d ∈ ds, d = '0' := by
        intro d hd
        by_contra hne
        exact hexcess ⟨ds, hds, ⟨d, hd, hne⟩, htrim⟩
      rw [htrim]
      exact standsFor_append n hds hzero
  · intro amountGross zarAmount' hnonneg' h h'
    obtain ⟨m, rfl⟩ := Int.eq_ofNat_of_zero_le hnonneg'
    exact congrArg Int.ofNat (centsToMajorString_inj (h'.symm.trans h))

theorem amount_check_exact_sample : AmountMatches ['1', '0', '0'] 10000 := by
  have hcents := toList_centsToMajorString 10000
  refine (amount_check_exact_iff (by decide)).2.1 _ ?_
  show (centsToMajorString (10000 : ℕ)).toList ∈ _
  rw [hcents]
  decide

/-- Nine thousandths of a rand too much are accepted. -/
theorem amount_check_cuts_off :
    AmountMatches ['1', '0', '0', '.', '0', '0', '9'] 10000 ∧
      ¬StandsFor (trim ['1', '0', '0', '.', '0', '0', '9']) (10000 / 100) := by
  have hcents := toList_centsToMajorString 10000
  constructor
  · have hdigit : ∀ d ∈ ['9'], d.isDigit = true := List.forall_mem_singleton.mpr rfl
    refine amountMatches_append (n := 10000) hdigit ?_
    rw [hcents]
    decide
  · intro h
    have hvalue := h.value
    revert hvalue
    decide +kernel

end PayFastWebhookService

end GearshPayments
