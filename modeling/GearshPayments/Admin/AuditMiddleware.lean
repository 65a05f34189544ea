import GearshPayments.Runs
import GearshPayments.JavaScript.Json

/-!
# Redaction of audited bodies

The audit row of an admin request holds a copy of the request's body.  In the copy the values of
sensitive keys are replaced, runs of eight or more digits are masked in every other string, and a
copy that is too long is replaced by its size and its first characters.
-/

namespace GearshPayments

open JavaScript

variable {ν : Type} (numbers : NumberFormat ν)

/-! ## The middleware -/

def maxAuditBodyBytes : ℕ := 10 * 1024

def sensitiveBodyKeys : List Text :=
  [text "accountnumber", text "password", text "newpassword", text "currentpassword",
    text "token", text "accesstoken", text "refreshtoken", text "fcmtoken",
    text "idempotencykey", text "signature", text "signaturedata", text "passphrase",
    text "authorization"]

/-- `key.toLowerCase()`, as far as it concerns the names above: beyond ASCII only the Kelvin sign
has one of their letters as its lower case. -/
def keyToLowerCase (key : Text) : Text :=
  key.map fun u ↦
    if 'A'.toNat ≤ u.val ∧ u.val ≤ 'Z'.toNat then u + 32
    else if u.val = 0x212A then Fin.ofNat _ 'k'.toNat
    else u

def Sensitive (key : Text) : Prop := keyToLowerCase key ∈ sensitiveBodyKeys

instance (key : Text) : Decidable (Sensitive key) := inferInstanceAs (Decidable (_ ∈ _))

/-- `\d` -/
def isDigit (u : CodeUnit) : Bool := '0'.toNat ≤ u.val ∧ u.val ≤ '9'.toNat

/-- `value.replace(/\d{8,}/g, '[MASKED]')` -/
def maskNumeric (value : Text) : Text := Runs.replaceRuns isDigit 8 (text "[MASKED]") value

mutual

def redactValue : Json ν → Json ν
  | .str s => .str (maskNumeric s)
  | .arr items => .arr (redactItems items)
  | .obj entries => .obj (redactObject entries)
  | value => value

/-- `value.map((v) => redactValue(v))` -/
def redactItems : List (Json ν) → List (Json ν)
  | [] => []
  | v :: vs => redactValue v :: redactItems vs

def redactObject : List (Text × Json ν) → List (Text × Json ν)
  | [] => []
  | (key, value) :: entries =>
    -- this assignment sets the prototype of the copy, and makes no entry
    if key = text "__proto__" then redactObject entries
    else if Sensitive key then (key, .str (text "[REDACTED]")) :: redactObject entries
    else (key, redactValue value) :: redactObject entries

end

/-- Text of JSON never fails to be written: these values have no cycles. -/
def safeStringify (value : Json ν) : Option Text := some (value.stringify numbers)

/-- What is stored in place of a copy that is too long. -/
def truncatedSentinel (serialised : Text) : Json ν :=
  .obj [(text "truncated", .bool true),
    (text "sizeBytes", .num (numbers.ofNat serialised.length)),
    (text "preview", .str (serialised.take 256))]

/-- The copy, or the sentinel. -/
def capped (out : Json ν) : Json ν :=
  match safeStringify numbers out with
  | some serialised =>
    if maxAuditBodyBytes < serialised.length then truncatedSentinel numbers serialised else out
  | none => out

/-- A scalar is stored as text. -/
def redactScalar (s : Text) : Json ν :=
  .str ((maskNumeric s).take maxAuditBodyBytes)

/-- The result and the argument are `none` for `undefined`. -/
def redactBody : Option (Json ν) → Option (Json ν)
  | none | some .null => none
  | some (.bool b) => some (redactScalar (text (if b then "true" else "false")))
  | some (.num n) => some (redactScalar (numbers.toText n))
  | some (.str s) => some (redactScalar s)
  | some (.arr items) => some (capped numbers (.arr (redactItems items)))
  | some (.obj entries) => some (capped numbers (.obj (redactObject entries)))

/-- The copy of this body is too long. -/
def Truncated (body : Json ν) : Prop :=
  maxAuditBodyBytes < ((redactValue body).stringify numbers).length

instance (body : Json ν) : Decidable (Truncated numbers body) :=
  inferInstanceAs (Decidable (_ < _))

variable {numbers}

theorem redactBody_of_isObject {body : Json ν} (h : body.IsObject) :
    redactBody numbers (some body) = some (capped numbers (redactValue body)) := by
  cases body with
  | null => exact h.elim
  | bool b => exact h.elim
  | num n => exact h.elim
  | str s => exact h.elim
  | arr items => rfl
  | obj entries => rfl

theorem capped_redactValue {body : Json ν} (h : ¬Truncated numbers body) :
    capped numbers (redactValue body) = redactValue body :=
  if_neg h

/-! ## Masked strings -/

/-- Eight or more consecutive digits. -/
abbrev HasDigitRun (s : Text) : Prop := Runs.HasRun isDigit 8 s

theorem isDigit_of_filter_eq_nil {s : Text} (h : s.filter isDigit = []) {u : CodeUnit}
    (hu : u ∈ s) : isDigit u = false :=
  Bool.eq_false_iff.mpr (List.filter_eq_nil_iff.mp h u hu)

theorem not_hasDigitRun_of_filter_eq_nil {s : Text} (h : s.filter isDigit = []) :
    ¬HasDigitRun s := by
  rintro ⟨t, ht, hlen, hall⟩
  obtain ⟨u, hu⟩ := List.exists_mem_of_length_pos (Nat.lt_of_lt_of_le (by decide) hlen)
  have hnone := isDigit_of_filter_eq_nil h (ht.subset hu)
  exact Bool.false_ne_true (hnone.symm.trans (hall u hu))

theorem not_hasDigitRun_maskNumeric (s : Text) : ¬HasDigitRun (maskNumeric s) :=
  Runs.not_hasRun_replaceRuns (by decide) (List.cons_ne_nil _ _)
    (fun _ hu ↦ isDigit_of_filter_eq_nil rfl hu) s

theorem maskNumeric_of_not_hasDigitRun {s : Text} (h : ¬HasDigitRun s) : maskNumeric s = s :=
  Runs.replaceRuns_of_not_hasRun h

theorem maskNumeric_maskNumeric (s : Text) : maskNumeric (maskNumeric s) = maskNumeric s :=
  maskNumeric_of_not_hasDigitRun (not_hasDigitRun_maskNumeric s)

/-! ## What the copy depends on -/

/-- The bodies differ in the values of sensitive keys only. -/
abbrev SameButSecrets : Json ν → Json ν → Prop := Json.Agree Sensitive Eq

mutual

theorem redactValue_congr {v w : Json ν} (h : SameButSecrets v w) :
    redactValue v = redactValue w := by
  cases h with
  | null => rfl
  | bool b => rfl
  | num n => rfl
  | str heq => rw [heq]
  | arr hitems =>
      rw [redactValue, redactValue, redactItems_congr hitems]
  | obj hentries =>
      rw [redactValue, redactValue, redactObject_congr hentries]

theorem redactItems_congr {vs ws : List (Json ν)} (h : Json.AgreeItems Sensitive Eq vs ws) :
    redactItems vs = redactItems ws := by
  cases h with
  | nil => rfl
  | cons hv hvs =>
      rw [redactItems, redactItems, redactValue_congr hv, redactItems_congr hvs]

theorem redactObject_congr {es fs : List (Text × Json ν)}
    (h : Json.AgreeEntries Sensitive Eq es fs) : redactObject es = redactObject fs := by
  cases h with
  | nil => rfl
  | hidden v w hkey hes =>
      rw [redactObject, redactObject, redactObject_congr hes, if_pos hkey, if_pos hkey]
  | cons hv hes =>
      rw [redactObject, redactObject, redactValue_congr hv, redactObject_congr hes]

end

/-! ## What the copy is -/

/-- A string without eight consecutive digits is the same in the copy. -/
def KeptString (s t : Text) : Prop := ¬HasDigitRun s → t = s

/-- Outside the values of sensitive keys, the copy has the keys, the nesting and the scalars of
the body, and those of its strings that need no mask. -/
abbrev Kept : Json ν → Json ν → Prop := Json.Agree Sensitive KeptString

mutual

theorem kept_redactValue (v : Json ν) (h : text "__proto__" ∉ v.keys) : Kept v (redactValue v) :=
  match v with
  | .null => .null
  | .bool b => .bool b
  | .num n => .num n
  | .str _ => .str maskNumeric_of_not_hasDigitRun
  | .arr items => .arr (kept_redactItems items h)
  | .obj entries => .obj (kept_redactObject entries h)

theorem kept_redactItems (vs : List (Json ν)) (h : text "__proto__" ∉ Json.keysItems vs) :
    Json.AgreeItems Sensitive KeptString vs (redactItems vs) := by
  match vs with
  | [] => exact .nil
  | v :: vs =>
      rw [Json.keysItems, List.mem_append, not_or] at h
      exact .cons (kept_redactValue v h.1) (kept_redactItems vs h.2)

theorem kept_redactObject (es : List (Text × Json ν)) (h : text "__proto__" ∉ Json.keysEntries es) :
    Json.AgreeEntries Sensitive KeptString es (redactObject es) := by
  match es with
  | [] => exact .nil
  | (key, v) :: es =>
      rw [Json.keysEntries, List.mem_cons, List.mem_append, not_or, not_or] at h
      obtain ⟨hkey, hv, hes⟩ := h
      rw [redactObject, if_neg (Ne.symm hkey)]
      split
      case isTrue hsensitive => exact .hidden v _ hsensitive (kept_redactObject es hes)
      case isFalse => exact .cons (kept_redactValue v hv) (kept_redactObject es hes)

end

mutual

theorem not_hasDigitRun_redactValue (v : Json ν) {s : Text} (h : s ∈ (redactValue v).strings) :
    ¬HasDigitRun s := by
  match v with
  | .null => exact absurd h List.not_mem_nil
  | .bool _ => exact absurd h List.not_mem_nil
  | .num _ => exact absurd h List.not_mem_nil
  | .str t =>
      rw [redactValue, Json.strings, List.mem_singleton] at h
      rw [h]
      exact not_hasDigitRun_maskNumeric t
  | .arr items => exact not_hasDigitRun_redactItems items h
  | .obj entries => exact not_hasDigitRun_redactObject entries h

theorem not_hasDigitRun_redactItems (vs : List (Json ν)) {s : Text}
    (h : s ∈ Json.stringsItems (redactItems vs)) : ¬HasDigitRun s := by
  match vs with
  | [] => exact absurd h List.not_mem_nil
  | v :: vs =>
      rw [redactItems, Json.stringsItems, List.mem_append] at h
      rcases h with h | h
      · exact not_hasDigitRun_redactValue v h
      · exact not_hasDigitRun_redactItems vs h

theorem not_hasDigitRun_redactObject (es : List (Text × Json ν)) {s : Text}
    (h : s ∈ Json.stringsEntries (redactObject es)) : ¬HasDigitRun s := by
  match es with
  | [] => exact absurd h List.not_mem_nil
  | (key, v) :: es =>
      rw [redactObject] at h
      split at h
      case isTrue => exact not_hasDigitRun_redactObject es h
      case isFalse =>
        split at h
        case isTrue =>
          rw [Json.stringsEntries, Json.strings, List.singleton_append, List.mem_cons] at h
          rcases h with rfl | h
          · exact not_hasDigitRun_of_filter_eq_nil rfl
          · exact not_hasDigitRun_redactObject es h
        case isFalse =>
          rw [Json.stringsEntries, List.mem_append] at h
          rcases h with h | h
          · exact not_hasDigitRun_redactValue v h
          · exact not_hasDigitRun_redactObject es h

end

mutual

theorem redactValue_redactValue (v : Json ν) : redactValue (redactValue v) = redactValue v := by
  match v with
  | .null => rfl
  | .bool _ => rfl
  | .num _ => rfl
  | .str s => rw [redactValue, redactValue, maskNumeric_maskNumeric]
  | .arr items => rw [redactValue, redactValue, redactItems_redactItems]
  | .obj entries => rw [redactValue, redactValue, redactObject_redactObject]

theorem redactItems_redactItems (vs : List (Json ν)) :
    redactItems (redactItems vs) = redactItems vs := by
  match vs with
  | [] => rfl
  | v :: vs =>
      rw [redactItems, redactItems, redactValue_redactValue v, redactItems_redactItems vs]

theorem redactObject_redactObject (es : List (Text × Json ν)) :
    redactObject (redactObject es) = redactObject es := by
  match es with
  | [] => rfl
  | (key, v) :: es =>
      rw [redactObject]
      split
      case isTrue => exact redactObject_redactObject es
      case isFalse hkey =>
        split
        case isTrue hsensitive =>
          rw [redactObject, if_neg hkey, if_pos hsensitive, redactObject_redactObject es]
        case isFalse hsensitive =>
          rw [redactObject, if_neg hkey, if_neg hsensitive, redactValue_redactValue v,
            redactObject_redactObject es]

end

theorem isObject_redactValue {v : Json ν} (h : v.IsObject) : (redactValue v).IsObject := by
  cases v with
  | null => exact h
  | bool b => exact h
  | num n => exact h
  | str s => exact h
  | arr items => exact trivial
  | obj entries => exact trivial

/-- Nothing that is stored depends on the values of sensitive keys, not even the size and the
preview of a copy that is too long.  A copy that is not too long is what is stored: it has no eight
consecutive digits in a string, is otherwise the body outside those values, and is its own copy. -/
theorem redactBody_leaksNothing (numbers : NumberFormat ν) :
    (∀ body₁ body₂ : Json ν, SameButSecrets body₁ body₂ →
      redactBody numbers (some body₁) = redactBody numbers (some body₂)) ∧
    ∀ body : Json ν, body.IsObject → text "__proto__" ∉ body.keys → ¬Truncated numbers body →
      ∃ out, redactBody numbers (some body) = some out ∧ (∀ s ∈ out.strings, ¬HasDigitRun s) ∧
        Kept body out ∧ redactBody numbers (some out) = some out := by
  constructor
  · intro body₁ body₂ h
    have hcopy := redactValue_congr h
    cases h with
    | null => rfl
    | bool b => rfl
    | num n => rfl
    | str heq => rw [heq]
    | arr hitems => exact congrArg (fun copy ↦ some (capped numbers copy)) hcopy
    | obj hentries => exact congrArg (fun copy ↦ some (capped numbers copy)) hcopy
  · intro body hobject hproto hshort
    have hagain : ¬Truncated numbers (redactValue body) := by
      rw [Truncated, redactValue_redactValue]
      exact hshort
    refine ⟨redactValue body, ?_, fun s hs ↦ not_hasDigitRun_redactValue body hs,
      kept_redactValue body hproto, ?_⟩
    · rw [redactBody_of_isObject hobject, capped_redactValue hshort]
    · rw [redactBody_of_isObject (isObject_redactValue hobject), capped_redactValue hagain,
        redactValue_redactValue]

/-- Natural numbers as numbers. -/
def Sample.naturals : NumberFormat ℕ where
  ofNat n := n
  isFinite _ := true
  toText n := utf16 (Nat.toDigits 10 n)

def Sample.body (secret : Json ℕ) : Json ℕ :=
  .obj [(text "Password", secret),
    (text "notes", .arr [.str (text "card 4242424242424242"), .num 3])]

theorem Sample.sameButSecrets_body (v w : Json ℕ) :
    SameButSecrets (Sample.body v) (Sample.body w) := by
  refine .obj (.hidden v w (by decide) (.cons (.arr ?_) .nil))
  exact .cons (.str rfl) (.cons (.num 3) .nil)

/-- Two bodies with different passwords leave the same row, which is there and names neither. -/
theorem redactBody_leaksNothing_sample :
    redactBody Sample.naturals (some (Sample.body (.num 7))) =
        redactBody Sample.naturals (some (Sample.body (.str (text "hunter2")))) ∧
      ∃ out, redactBody Sample.naturals (some (Sample.body (.num 7))) = some out ∧
        Kept (Sample.body (.num 7)) out := by
  obtain ⟨hsame, hcopy⟩ := redactBody_leaksNothing Sample.naturals
  have hobject : (Sample.body (.num 7)).IsObject := trivial
  obtain ⟨out, hout, -, hkept, -⟩ := hcopy _ hobject (by decide) (by decide)
  exact ⟨hsame _ _ (Sample.sameButSecrets_body _ _), out, hout, hkept⟩

end GearshPayments
