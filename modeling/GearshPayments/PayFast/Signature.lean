import GearshPayments.JavaScript.UrlSearchParams
import Mathlib.Data.LawfulXor.Basic
import Mathlib.Data.List.Sort
import Mathlib.Data.List.Nodup

/-!
# The signature of a form

`signature.util.ts` and `buildPayFastForm` (`forms.ts`): the fields of a form are sorted by their
keys, serialised, followed by the passphrase and digested.  The digest is an arbitrary function,
and so is what `String` makes of a number.  What is digested depends on the fields that count and
on nothing else, and determines them (`signature_covers_every_field`).
-/

namespace GearshPayments

open JavaScript

/-! ## Parameters -/

/-- `string | number | undefined | null`, with numbers in `ν`. -/
inductive Signable (ν : Type*) where
  | text (s : Text)
  | number (n : ν)
  | undefined
  | null

/-- A record, by its entries. -/
structure SignableParams (ν : Type*) where
  entries : List (Text × Signable ν)
  nodup : (entries.map Prod.fst).Nodup

variable {ν : Type*} (string : ν → Text)

/-- `String(raw)`, unless there is no value. -/
def Signable.string? : Signable ν → Option Text
  | text s => some s
  | number n => some (string n)
  | undefined | null => none

/-- What one turn of the loop pushes. -/
def pushed (entry : Text × Signable ν) : Option (Text × Text) :=
  if entry.1 = text "signature" then none
  else match entry.2.string? string with
    | none => none
    | some value => if value.length = 0 then none else some (entry.1, value)

/-- The fields that are signed. -/
def SignableParams.fields (params : SignableParams ν) : List (Text × Text) :=
  params.entries.filterMap (pushed string)

/-! ## Signing -/

/-- `a < b ? -1 : a > b ? 1 : 0`; strings are compared by their code units. -/
def compareKeys (a b : Text) : ℤ := if a < b then -1 else if b < a then 1 else 0

def keyLe (p q : Text × Text) : Bool := compareKeys p.1 q.1 ≤ 0

def sortByKey (fields : List (Text × Text)) : List (Text × Text) := fields.mergeSort keyLe

def buildSignatureString (params : SignableParams ν) (passphrase : Option Text) : List Char :=
  let signatureString := formUrlEncode (sortByKey (params.fields string))
  match passphrase with
  | none => signatureString
  | some passphrase =>
    if passphrase.length > 0 then
      signatureString ++ (if signatureString.length > 0 then ['&'] else []) ++
        formUrlEncode [(text "passphrase", passphrase)]
    else signatureString

/-- `digest('hex')`. -/
def hexDigest (bytes : Fin 16 → UInt8) : Text :=
  utf16 ((List.ofFn bytes).flatMap fun b ↦
    [Nat.digitChar (b.toNat / 16), Nat.digitChar (b.toNat % 16)])

section Md5

variable (md5 : List UInt8 → Fin 16 → UInt8)

def signParams (params : SignableParams ν) (passphrase : Option Text) : Text :=
  hexDigest (md5 ((buildSignatureString string params passphrase).flatMap String.utf8EncodeChar))

def safeEquals (a b : Text) : Bool :=
  if a.length ≠ b.length then false
  else (a.zip b).foldl (fun diff (x, y) ↦ diff ||| (x.val ^^^ y.val)) 0 = 0

def verifySignature (params : SignableParams ν) (received : Text) (passphrase : Option Text) :
    Bool :=
  if received = [] then false
  else safeEquals (toLowerCase (signParams string md5 params passphrase)) (toLowerCase received)

end Md5

/-! ## Forms -/

structure BuildPayFastFormInput where
  merchantId : Text
  merchantKey : Text
  passphrase : Option Text
  returnUrl : Text
  cancelUrl : Text
  notifyUrl : Text
  mPaymentId : Text
  amountMajorUnits : Text
  itemName : Text
  itemDescription : Option Text
  nameFirst : Option Text
  nameLast : Option Text
  emailAddress : Option Text

/-- An optional parameter. -/
def Signable.ofOption : Option Text → Signable ν
  | none => undefined
  | some s => text s

/-- The parameters before they are signed. -/
def BuildPayFastFormInput.params (input : BuildPayFastFormInput) : SignableParams ν where
  entries := [
    (text "merchant_id", .text input.merchantId),
    (text "merchant_key", .text input.merchantKey),
    (text "return_url", .text input.returnUrl),
    (text "cancel_url", .text input.cancelUrl),
    (text "notify_url", .text input.notifyUrl),
    (text "m_payment_id", .text input.mPaymentId),
    (text "amount", .text input.amountMajorUnits),
    (text "item_name", .text input.itemName),
    (text "item_description", .ofOption input.itemDescription),
    (text "name_first", .ofOption input.nameFirst),
    (text "name_last", .ofOption input.nameLast),
    (text "email_address", .ofOption input.emailAddress)]
  nodup := by
    simp only [List.map_cons, List.map_nil]
    decide

/-- What one turn of the loop over the parameters copies. -/
def copied (entry : Text × Signable ν) : Option (Text × Signable ν) :=
  match entry.2 with
  | .undefined | .null => none
  | .text s => if s = [] then none else some (entry.1, .text s)
  | .number n => some (entry.1, .text (string n))

/-- A map of entries that keeps the keys keeps their order. -/
theorem keys_filterMap_sublist {σ τ : Type*} {f : Text × σ → Option (Text × τ)}
    (hkey : ∀ e e', f e = some e' → e'.1 = e.1) (l : List (Text × σ)) :
    ((l.filterMap f).map Prod.fst).Sublist (l.map Prod.fst) := by
  induction l with
  | nil => exact .slnil
  | cons e l ih =>
    rw [List.filterMap_cons]
    split
    case h_1 => exact ih.cons _
    case h_2 e' he' =>
      rw [List.map_cons, List.map_cons, hkey e e' he']
      exact ih.cons_cons _

theorem pushed_key {e : Text × Signable ν} {p : Text × Text} (h : pushed string e = some p) :
    p.1 = e.1 := by
  unfold pushed at h
  split at h
  · cases h
  · split at h
    · cases h
    · split at h
      · cases h
      · cases h
        rfl

theorem copied_key {e e' : Text × Signable ν} (h : copied string e = some e') : e'.1 = e.1 := by
  unfold copied at h
  split at h
  · cases h
  · cases h
  · split at h
    · cases h
    · cases h
      rfl
  · cases h
    rfl

theorem signature_notMem_params (input : BuildPayFastFormInput) :
    text "signature" ∉ (input.params (ν := ν)).entries.map Prod.fst := by
  simp only [BuildPayFastFormInput.params, List.map_cons, List.map_nil]
  decide

/-- The parameters that have values, and their signature. -/
def buildPayFastForm (md5 : List UInt8 → Fin 16 → UInt8) (input : BuildPayFastFormInput) :
    SignableParams ν where
  entries := (input.params (ν := ν)).entries.filterMap (copied string) ++
    [(text "signature", .text (signParams string md5 input.params input.passphrase))]
  nodup := by
    have hkeys := keys_filterMap_sublist (fun _ _ ↦ copied_key string)
      (input.params (ν := ν)).entries
    rw [List.map_append, List.map_singleton, ← List.concat_eq_append]
    exact ((input.params (ν := ν)).nodup.sublist hkeys).concat
      fun h ↦ signature_notMem_params input (hkeys.subset h)

/-! ## Sorting -/

theorem keyLe_iff {p q : Text × Text} : keyLe p q = true ↔ p.1 ≤ q.1 := by
  unfold keyLe compareKeys
  rw [decide_eq_true_iff]
  split
  case isTrue hlt => exact iff_of_true (by decide) hlt.le
  case isFalse hnot =>
    split
    case isTrue hlt => exact iff_of_false (by decide) hlt.not_ge
    case isFalse hnot' => exact iff_of_true le_rfl (not_lt.mp hnot')

theorem sortByKey_perm (fields : List (Text × Text)) : (sortByKey fields).Perm fields :=
  List.mergeSort_perm _ _

theorem sortByKey_pairwise (fields : List (Text × Text)) :
    (sortByKey fields).Pairwise fun p q ↦ p.1 ≤ q.1 := by
  have htrans : ∀ p q r, keyLe p q = true → keyLe q r = true → keyLe p r = true := by
    intro p q r hpq hqr
    exact keyLe_iff.mpr ((keyLe_iff.mp hpq).trans (keyLe_iff.mp hqr))
  have htotal : ∀ p q, (keyLe p q || keyLe q p) = true := by
    intro p q
    rw [Bool.or_eq_true, keyLe_iff, keyLe_iff]
    exact le_total p.1 q.1
  exact (List.pairwise_mergeSort htrans htotal fields).imp keyLe_iff.mp

/-- The order of the fields is forgotten by sorting, since no key occurs twice. -/
theorem sortByKey_eq_iff {fields fields' : List (Text × Text)}
    (hnodup : (fields.map Prod.fst).Nodup) :
    sortByKey fields = sortByKey fields' ↔ fields.Perm fields' := by
  constructor
  · intro h
    exact (sortByKey_perm fields).symm.trans (h ▸ sortByKey_perm fields')
  · intro h
    have hperm : (sortByKey fields).Perm (sortByKey fields') :=
      (sortByKey_perm fields).trans (h.trans (sortByKey_perm fields').symm)
    refine hperm.eq_of_pairwise (fun p q hp hq hle hge ↦ ?_) (sortByKey_pairwise fields)
      (sortByKey_pairwise fields')
    exact List.inj_on_of_nodup_map hnodup ((sortByKey_perm fields).mem_iff.mp hp)
      (h.mem_iff.mpr ((sortByKey_perm fields').mem_iff.mp hq)) (le_antisymm hle hge)

/-! ## What is signed -/

theorem SignableParams.nodup_fields (params : SignableParams ν) :
    ((params.fields string).map Prod.fst).Nodup :=
  params.nodup.sublist (keys_filterMap_sublist (fun _ _ ↦ pushed_key string) params.entries)

theorem buildSignatureString_congr {params params' : SignableParams ν}
    (h : (params.fields string).Perm (params'.fields string)) (passphrase : Option Text) :
    buildSignatureString string params passphrase =
      buildSignatureString string params' passphrase := by
  unfold buildSignatureString
  rw [(sortByKey_eq_iff (params.nodup_fields string)).mpr h]

/-- What precedes the passphrase is read back from the whole. -/
theorem append_passphrase_inj {s s' w : List Char}
    (h : s ++ (if s.length > 0 then ['&'] else []) ++ w =
      s' ++ (if s'.length > 0 then ['&'] else []) ++ w) : s = s' := by
  have hcancel := List.append_cancel_right h
  by_cases hs : s = []
  all_goals by_cases hs' : s' = []
  · rw [hs, hs']
  · rw [if_pos (List.length_pos_iff.mpr hs'), hs] at hcancel
    simp at hcancel
  · rw [if_pos (List.length_pos_iff.mpr hs), hs'] at hcancel
    simp at hcancel
  · rw [if_pos (List.length_pos_iff.mpr hs), if_pos (List.length_pos_iff.mpr hs')] at hcancel
    exact List.append_cancel_right hcancel

/-- A field that is neither the signature nor empty, with its value as a string. -/
def SignableParams.Remaining (params : SignableParams ν) (field : Text × Text) : Prop :=
  field.1 ≠ text "signature" ∧ field.2 ≠ [] ∧
    ∃ raw, (field.1, raw) ∈ params.entries ∧ raw.string? string = some field.2

/-- The names and values that remain are well formed. -/
def SignableParams.WellFormed (params : SignableParams ν) : Prop :=
  ∀ field, params.Remaining string field → PairWellFormed field

theorem pushed_eq_some_iff {entry : Text × Signable ν} {field : Text × Text} :
    pushed string entry = some field ↔ field.1 ≠ text "signature" ∧ field.2 ≠ [] ∧
      entry.1 = field.1 ∧ entry.2.string? string = some field.2 := by
  obtain ⟨key, raw⟩ := entry
  obtain ⟨key', value⟩ := field
  simp only [pushed]
  split
  case isTrue hkey =>
    refine iff_of_false (fun h ↦ by cases h) ?_
    rintro ⟨hne, -, rfl, -⟩
    exact hne hkey
  case isFalse hkey =>
    split
    case h_1 hnone => simp [hnone]
    case h_2 value' hsome =>
      rw [hsome]
      split
      case isTrue hempty =>
        refine iff_of_false (fun h ↦ by cases h) ?_
        rintro ⟨-, hne, -, hvalue⟩
        cases hvalue
        exact hne (List.length_eq_zero_iff.mp hempty)
      case isFalse hnonempty =>
        constructor
        · intro h
          cases h
          exact ⟨hkey, fun hnil ↦ hnonempty (List.length_eq_zero_iff.mpr hnil), rfl, rfl⟩
        · rintro ⟨-, -, rfl, hvalue⟩
          cases hvalue
          rfl

theorem SignableParams.mem_fields_iff (params : SignableParams ν) (field : Text × Text) :
    field ∈ params.fields string ↔ params.Remaining string field := by
  simp only [fields, Remaining, List.mem_filterMap, pushed_eq_some_iff, Prod.exists]
  constructor
  · rintro ⟨_, raw, hmem, hkey, hvalue, rfl, hstring⟩
    exact ⟨hkey, hvalue, raw, hmem, hstring⟩
  · rintro ⟨hkey, hvalue, raw, hmem, hstring⟩
    exact ⟨_, raw, hmem, hkey, hvalue, rfl, hstring⟩

/-- The fields that remain are read back from the string that is signed. -/
theorem buildSignatureString_inj {params params' : SignableParams ν}
    (hwell : params.WellFormed string) (hwell' : params'.WellFormed string)
    {passphrase : Option Text}
    (h : buildSignatureString string params passphrase =
      buildSignatureString string params' passphrase) (field : Text × Text) :
    params.Remaining string field ↔ params'.Remaining string field := by
  have hencoded : formUrlEncode (sortByKey (params.fields string)) =
      formUrlEncode (sortByKey (params'.fields string)) := by
    cases passphrase with
    | none => exact h
    | some passphrase =>
      simp only [buildSignatureString] at h
      by_cases hlength : passphrase.length > 0
      · rw [if_pos hlength, if_pos hlength] at h
        exact append_passphrase_inj h
      · rw [if_neg hlength, if_neg hlength] at h
        exact h
  have hsorted : ∀ {ps : SignableParams ν}, ps.WellFormed string →
      ∀ field ∈ sortByKey (ps.fields string), PairWellFormed field :=
    fun hps field hfield ↦ hps field ((SignableParams.mem_fields_iff string _ field).mp
      ((sortByKey_perm _).mem_iff.mp hfield))
  have hperm := (sortByKey_eq_iff (params.nodup_fields string)).mp
    (formUrlEncode_injOn (hsorted hwell) (hsorted hwell') hencoded)
  rw [← SignableParams.mem_fields_iff, ← SignableParams.mem_fields_iff]
  exact hperm.mem_iff

/-- An entry that the signature leaves out. -/
def Ignored (entry : Text × Signable ν) : Prop :=
  entry.1 = text "signature" ∨ entry.2 = .undefined ∨ entry.2 = .null ∨ entry.2 = .text []

theorem pushed_of_ignored {entry : Text × Signable ν} (h : Ignored entry) :
    pushed string entry = none := by
  obtain ⟨key, raw⟩ := entry
  unfold pushed
  split
  case isTrue => rfl
  case isFalse hkey =>
    obtain h | rfl | rfl | rfl := h
    · exact absurd h hkey
    all_goals rfl

/-- Nothing changes if entries are reordered and ignored ones are added. -/
theorem buildSignatureString_of_perm {params params' : SignableParams ν}
    {extra : List (Text × Signable ν)} (hignored : ∀ entry ∈ extra, Ignored entry)
    (h : params'.entries.Perm (extra ++ params.entries)) (passphrase : Option Text) :
    buildSignatureString string params' passphrase =
      buildSignatureString string params passphrase := by
  refine buildSignatureString_congr string ?_ passphrase
  have hextra : extra.filterMap (pushed string) = [] :=
    List.filterMap_eq_nil_iff.mpr fun entry hentry ↦
      pushed_of_ignored string (hignored entry hentry)
  have hfields := h.filterMap (pushed string)
  rw [List.filterMap_append, hextra, List.nil_append] at hfields
  exact hfields

/-! ## Verifying -/

theorem foldl_or_xor_eq_zero_iff (l : List (CodeUnit × CodeUnit)) (diff : ℕ) :
    l.foldl (fun diff (x, y) ↦ diff ||| (x.val ^^^ y.val)) diff = 0 ↔
      diff = 0 ∧ ∀ p ∈ l, p.1 = p.2 := by
  induction l generalizing diff with
  | nil => simp
  | cons p l ih =>
    rw [List.foldl_cons, ih, Nat.or_eq_zero_iff, xor_eq_zero_iff, Fin.val_inj,
      List.forall_mem_cons, and_assoc]

theorem safeEquals_iff {a b : Text} : safeEquals a b = true ↔ a = b := by
  unfold safeEquals
  split
  case isTrue hlength =>
    refine iff_of_false (fun h ↦ by cases h) ?_
    rintro rfl
    exact hlength rfl
  case isFalse hlength =>
    have hzip : a = b ↔ a.length = b.length ∧ ∀ {x y}, (x, y) ∈ a.zip b → x = y := by
      rw [← List.forall₂_iff_zip, List.forall₂_eq_eq_eq]
    rw [decide_eq_true_iff, foldl_or_xor_eq_zero_iff, hzip]
    simp only [Prod.forall, true_and, not_not.mp hlength]

theorem hexDigest_ne_nil (bytes : Fin 16 → UInt8) : hexDigest bytes ≠ [] := by
  intro h
  have hchars := congrArg scalarValues h
  rw [hexDigest, scalarValues_utf16] at hchars
  have hword := List.flatMap_eq_nil_iff.mp hchars (bytes 0) (List.mem_ofFn.mpr ⟨0, rfl⟩)
  cases hword

/-- The form has the fields of the parameters. -/
theorem fields_buildPayFastForm (md5 : List UInt8 → Fin 16 → UInt8)
    (input : BuildPayFastFormInput) :
    (buildPayFastForm (ν := ν) string md5 input).fields string =
      (input.params (ν := ν)).fields string := by
  have hcopied : ∀ entry : Text × Signable ν,
      (copied string entry).bind (pushed string) = pushed string entry := by
    rintro ⟨key, raw⟩
    cases raw with
    | undefined => rw [pushed_of_ignored string (.inr (.inl rfl))]; rfl
    | null => rw [pushed_of_ignored string (.inr (.inr (.inl rfl)))]; rfl
    | number n => rfl
    | text s =>
      by_cases hs : s = []
      · subst hs
        rw [pushed_of_ignored string (.inr (.inr (.inr rfl)))]
        rfl
      · rw [copied]
        simp only [if_neg hs]
        rfl
  unfold SignableParams.fields buildPayFastForm
  simp only [List.filterMap_append, List.filterMap_filterMap, hcopied]
  rw [List.filterMap_cons_none (pushed_of_ignored string (.inl rfl)), List.filterMap_nil,
    List.append_nil]

theorem verifySignature_buildPayFastForm (md5 : List UInt8 → Fin 16 → UInt8)
    (input : BuildPayFastFormInput) :
    ∃ signature, (text "signature", .text signature) ∈
        (buildPayFastForm (ν := ν) string md5 input).entries ∧
      verifySignature string md5 (buildPayFastForm (ν := ν) string md5 input) signature
        input.passphrase = true := by
  refine ⟨_, List.mem_append_right _ (List.mem_singleton_self _), ?_⟩
  have hsame : signParams string md5 (buildPayFastForm (ν := ν) string md5 input)
      input.passphrase = signParams string md5 (input.params (ν := ν)) input.passphrase := by
    rw [signParams, buildSignatureString_congr string (List.Perm.of_eq
      (fields_buildPayFastForm string md5 input)), signParams]
  have hne : signParams string md5 (input.params (ν := ν)) input.passphrase ≠ [] :=
    hexDigest_ne_nil _
  rw [verifySignature, if_neg hne, hsame]
  exact safeEquals_iff.mpr rfl

/-- What is signed does not depend on the order of the entries nor on those that are ignored, and
determines all others; and forms carry the signature by which they are verified. -/
theorem signature_covers_every_field (md5 : List UInt8 → Fin 16 → UInt8)
    (passphrase : Option Text) :
    (∀ (params params' : SignableParams ν) (extra : List (Text × Signable ν)),
      (∀ entry ∈ extra, Ignored entry) → params'.entries.Perm (extra ++ params.entries) →
        buildSignatureString string params' passphrase =
          buildSignatureString string params passphrase) ∧
    (∀ params params' : SignableParams ν, params.WellFormed string → params'.WellFormed string →
      buildSignatureString string params passphrase =
        buildSignatureString string params' passphrase →
      ∀ field, params.Remaining string field ↔ params'.Remaining string field) ∧
    ∀ input : BuildPayFastFormInput,
      ∃ signature, (text "signature", .text signature) ∈
          (buildPayFastForm (ν := ν) string md5 input).entries ∧
        verifySignature string md5 (buildPayFastForm (ν := ν) string md5 input) signature
          input.passphrase = true := by
  refine ⟨?_, ?_, verifySignature_buildPayFastForm string md5⟩
  · intro params params' extra hignored hperm
    exact buildSignatureString_of_perm string hignored hperm passphrase
  · intro params params' hwell hwell' heq
    exact buildSignatureString_inj string hwell hwell' heq

end GearshPayments
