import GearshPayments.JavaScript.Utf16

/-!
# Buffers

Text as bytes, in UTF-8 and in the alphabet of base64 for URLs, as `Buffer` writes and reads them.
What it makes of bytes that are not UTF-8, and of text that it has not written itself, are
parameters.
-/

namespace JavaScript.Buffer

/-! ## UTF-8 -/

/-- `Buffer.from(s)` -/
def fromText (s : Text) : List UInt8 := (scalarValues s).flatMap String.utf8EncodeChar

/-- `bytes.toString('utf8')` -/
def toText (other : List UInt8 → Text) (bytes : List UInt8) : Text :=
  match bytes.toByteArray.utf8Decode? with
  | some cs => utf16 cs.toList
  | none => other bytes

/-- Well-formed text survives being written and read. -/
theorem toText_fromText (other : List UInt8 → Text) {s : Text} (hs : WellFormed s) :
    toText other (fromText s) = s := by
  have hdecode : (fromText s).toByteArray.utf8Decode? = some (scalarValues s).toArray :=
    List.utf8Decode?_utf8Encode
  rw [toText, hdecode]
  exact hs.utf16_scalarValues

/-! ## Base64 -/

/-- The digit of a number below 64. -/
def digit (n : ℕ) : CodeUnit :=
  Fin.ofNat _ (if n < 26 then 'A'.toNat + n
    else if n < 52 then 'a'.toNat + (n - 26)
    else if n < 62 then '0'.toNat + (n - 52)
    else if n = 62 then '-'.toNat
    else '_'.toNat)

/-- The number of a digit. -/
def value (u : CodeUnit) : ℕ :=
  if 'A'.toNat ≤ u.val ∧ u.val ≤ 'Z'.toNat then u.val - 'A'.toNat
  else if 'a'.toNat ≤ u.val ∧ u.val ≤ 'z'.toNat then u.val - 'a'.toNat + 26
  else if '0'.toNat ≤ u.val ∧ u.val ≤ '9'.toNat then u.val - '0'.toNat + 52
  else if u.val = '-'.toNat then 62
  else 63

theorem value_digit {n : ℕ} (h : n < 64) : value (digit n) = n := by
  have hall : ∀ n : Fin 64, value (digit n) = n := by decide
  exact hall ⟨n, h⟩

/-- `bytes.toString('base64url')`: three bytes are four digits, and there is no padding. -/
def toBase64url : List UInt8 → Text
  | [] => []
  | [a] => [digit (a.toNat / 4), digit (a.toNat % 4 * 16)]
  | [a, b] => [digit (a.toNat / 4), digit (a.toNat % 4 * 16 + b.toNat / 16),
      digit (b.toNat % 16 * 4)]
  | a :: b :: c :: rest =>
    digit (a.toNat / 4) :: digit (a.toNat % 4 * 16 + b.toNat / 16) ::
      digit (b.toNat % 16 * 4 + c.toNat / 64) :: digit (c.toNat % 64) :: toBase64url rest

/-- Read digits, however they came about; a single one is no byte. -/
def readDigits : Text → Option (List UInt8)
  | [] => some []
  | [_] => none
  | [u, v] => some [UInt8.ofNat (value u * 4 + value v / 16)]
  | [u, v, w] => some [UInt8.ofNat (value u * 4 + value v / 16),
      UInt8.ofNat (value v % 16 * 16 + value w / 4)]
  | u :: v :: w :: x :: rest => (readDigits rest).map fun bytes ↦
      UInt8.ofNat (value u * 4 + value v / 16) :: UInt8.ofNat (value v % 16 * 16 + value w / 4) ::
        UInt8.ofNat (value w % 4 * 64 + value x) :: bytes

/-- `Buffer.from(text, 'base64url')`. -/
def fromBase64url (other : Text → List UInt8) (s : Text) : List UInt8 :=
  match readDigits s with
  | some bytes => if toBase64url bytes = s then bytes else other s
  | none => other s

theorem readDigits_toBase64url (bytes : List UInt8) :
    readDigits (toBase64url bytes) = some bytes := by
  induction bytes using toBase64url.induct with
  | case1 => rfl
  | case2 a =>
      have ha := a.toNat_lt
      have hfirst : a.toNat / 4 * 4 + a.toNat % 4 * 16 / 16 = a.toNat := by omega
      rw [toBase64url, readDigits, value_digit (by omega), value_digit (by omega), hfirst,
        UInt8.ofNat_toNat]
  | case3 a b =>
      have ha := a.toNat_lt
      have hb := b.toNat_lt
      have hfirst : a.toNat / 4 * 4 + (a.toNat % 4 * 16 + b.toNat / 16) / 16 = a.toNat := by omega
      have hsecond : (a.toNat % 4 * 16 + b.toNat / 16) % 16 * 16 + b.toNat % 16 * 4 / 4 =
          b.toNat := by omega
      rw [toBase64url, readDigits, value_digit (by omega), value_digit (by omega),
        value_digit (by omega), hfirst, hsecond, UInt8.ofNat_toNat, UInt8.ofNat_toNat]
  | case4 a b c rest ih =>
      have ha := a.toNat_lt
      have hb := b.toNat_lt
      have hc := c.toNat_lt
      have hfirst : a.toNat / 4 * 4 + (a.toNat % 4 * 16 + b.toNat / 16) / 16 = a.toNat := by omega
      have hsecond : (a.toNat % 4 * 16 + b.toNat / 16) % 16 * 16 +
          (b.toNat % 16 * 4 + c.toNat / 64) / 4 = b.toNat := by omega
      have hthird : (b.toNat % 16 * 4 + c.toNat / 64) % 4 * 64 + c.toNat % 64 = c.toNat := by omega
      rw [toBase64url, readDigits, ih, value_digit (by omega), value_digit (by omega),
        value_digit (by omega), value_digit (by omega), hfirst, hsecond, hthird,
        UInt8.ofNat_toNat, UInt8.ofNat_toNat, UInt8.ofNat_toNat, Option.map_some]

/-- Bytes survive being written and read. -/
theorem fromBase64url_toBase64url (other : Text → List UInt8) (bytes : List UInt8) :
    fromBase64url other (toBase64url bytes) = bytes := by
  rw [fromBase64url, readDigits_toBase64url]
  exact if_pos rfl

end JavaScript.Buffer
