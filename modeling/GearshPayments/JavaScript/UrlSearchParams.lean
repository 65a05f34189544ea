import GearshPayments.PrefixCode
import GearshPayments.JavaScript.Utf16

/-!
# `URLSearchParams`

The serialisation of a list of names and values as `application/x-www-form-urlencoded`: both are
encoded in UTF-8, byte by byte, and joined by separators that no encoded byte contains.  A list
of well-formed strings is read back from its serialisation (`formUrlEncode_injOn`).
-/

namespace JavaScript

/-! ## Bytes -/

/-- The characters that stand for themselves. -/
def isUnreserved (c : Char) : Bool := c.isAlphanum ∨ c ∈ ['*', '-', '.', '_']

/-- A hexadecimal digit in upper case. -/
def hexDigit (n : ℕ) : Char := (Nat.digitChar n).toUpper

/-- A byte as it is percent-encoded, a space as a plus. -/
def encodeByte (b : UInt8) : List Char :=
  if b = 0x20 then ['+']
  else if isUnreserved (Char.ofNat b.toNat) then [Char.ofNat b.toNat]
  else ['%', hexDigit (b.toNat / 16), hexDigit (b.toNat % 16)]

/-- The value of a hexadecimal digit in upper case. -/
def hexValue (c : Char) : ℕ := if c.isDigit then c.toNat - '0'.toNat else c.toNat - 'A'.toNat + 10

/-- Reads a percent-encoded byte. -/
def readByte : List Char → Option (UInt8 × List Char)
  | [] => none
  | '+' :: rest => some (0x20, rest)
  | '%' :: high :: low :: rest =>
    some (UInt8.ofNat (16 * hexValue high + hexValue low), rest)
  | c :: rest => some (UInt8.ofNat c.toNat, rest)

theorem hexValue_hexDigit {n : ℕ} (h : n < 16) : hexValue (hexDigit n) = n := by
  have hall : ∀ n : Fin 16, hexValue (hexDigit n) = n := by decide
  exact hall ⟨n, h⟩

theorem toNat_ofNat {n : ℕ} (h : n < 256) : (Char.ofNat n).toNat = n :=
  toNat_charOfNat (by omega)

theorem ne_of_isUnreserved {c d : Char} (hc : isUnreserved c = true)
    (hd : isUnreserved d = false) : c ≠ d := by
  rintro rfl
  rw [hc] at hd
  cases hd

theorem readByte_cons {c : Char} (rest : List Char) (hplus : c ≠ '+') (hpercent : c ≠ '%') :
    readByte (c :: rest) = some (UInt8.ofNat c.toNat, rest) := by
  unfold readByte
  split
  case h_1 h => cases h
  case h_2 h =>
    cases h
    exact absurd rfl hplus
  case h_3 h =>
    cases h
    exact absurd rfl hpercent
  case h_4 h =>
    cases h
    rfl

theorem readByte_encodeByte (b : UInt8) (rest : List Char) :
    readByte (encodeByte b ++ rest) = some (b, rest) := by
  have hb : b.toNat < 256 := b.toNat_lt
  unfold encodeByte
  split
  case isTrue hspace =>
    rw [hspace]
    rfl
  case isFalse =>
    split
    case isTrue hunreserved =>
      have hplus : Char.ofNat b.toNat ≠ '+' := ne_of_isUnreserved hunreserved (by decide)
      have hpercent : Char.ofNat b.toNat ≠ '%' := ne_of_isUnreserved hunreserved (by decide)
      rw [List.singleton_append, readByte_cons rest hplus hpercent, toNat_ofNat hb,
        UInt8.ofNat_toNat]
    case isFalse =>
      have hvalue : 16 * (b.toNat / 16) + b.toNat % 16 = b.toNat := Nat.div_add_mod _ _
      rw [List.cons_append, List.cons_append, List.cons_append, List.nil_append, readByte,
        hexValue_hexDigit (by omega), hexValue_hexDigit (by omega), hvalue, UInt8.ofNat_toNat]

theorem encodeByte_ne_nil (b : UInt8) : encodeByte b ≠ [] := by
  unfold encodeByte
  split <;> [skip; split] <;> exact List.cons_ne_nil _ _

theorem prefixCode_encodeByte : PrefixCode encodeByte :=
  .of_read readByte encodeByte_ne_nil readByte_encodeByte

theorem isUnreserved_hexDigit {n : ℕ} (h : n < 16) : isUnreserved (hexDigit n) = true := by
  have hall : ∀ n : Fin 16, isUnreserved (hexDigit n) = true := by decide
  exact hall ⟨n, h⟩

/-- Reserved characters other than the two marks of an encoded byte are percent-encoded. -/
theorem notMem_encodeByte {sep : Char} (hreserved : isUnreserved sep = false) (hplus : sep ≠ '+')
    (hpercent : sep ≠ '%') (b : UInt8) : sep ∉ encodeByte b := by
  have hb : b.toNat < 256 := b.toNat_lt
  have hne : ∀ c, isUnreserved c = true → sep ≠ c := fun c hc ↦
    (ne_of_isUnreserved hc hreserved).symm
  unfold encodeByte
  split
  case isTrue => simpa using hplus
  case isFalse =>
    split
    case isTrue hunreserved => simpa using hne _ hunreserved
    case isFalse =>
      have hhigh := hne _ (isUnreserved_hexDigit (n := b.toNat / 16) (by omega))
      have hlow := hne _ (isUnreserved_hexDigit (n := b.toNat % 16) (by omega))
      simp [hpercent, hhigh, hlow]

/-! ## Texts -/

theorem prefixCode_utf8EncodeChar : PrefixCode String.utf8EncodeChar where
  ne_nil _ := String.utf8EncodeChar_ne_nil
  cancel := by
    intro c d x y h
    have hchar : c = d := by
      have hbytes := congrArg List.toByteArray h
      rw [List.toByteArray_append, List.toByteArray_append] at hbytes
      have hdecode := congrArg (ByteArray.utf8DecodeChar? · 0) hbytes
      simp only [ByteArray.utf8DecodeChar?_utf8EncodeChar_append] at hdecode
      exact Option.some.inj hdecode
    subst hchar
    exact ⟨rfl, List.append_cancel_left h⟩

/-- A name or a value, in UTF-8 and percent-encoded. -/
def encodeText (s : Text) : List Char :=
  ((scalarValues s).flatMap String.utf8EncodeChar).flatMap encodeByte

theorem encodeText_injOn {s t : Text} (hs : WellFormed s) (ht : WellFormed t)
    (h : encodeText s = encodeText t) : s = t :=
  scalarValues_injOn hs ht (prefixCode_utf8EncodeChar.flatMap_injective
    (prefixCode_encodeByte.flatMap_injective h))

theorem notMem_encodeText {sep : Char} (hreserved : isUnreserved sep = false) (hplus : sep ≠ '+')
    (hpercent : sep ≠ '%') (s : Text) : sep ∉ encodeText s := by
  intro hmem
  obtain ⟨b, -, hb⟩ := List.mem_flatMap.mp hmem
  exact notMem_encodeByte hreserved hplus hpercent b hb

/-! ## Lists of names and values -/

def encodePair (pair : Text × Text) : List Char := encodeText pair.1 ++ '=' :: encodeText pair.2

/-- `new URLSearchParams(…).toString()`. -/
def formUrlEncode (pairs : List (Text × Text)) : List Char :=
  ['&'].intercalate (pairs.map encodePair)

def PairWellFormed (pair : Text × Text) : Prop := WellFormed pair.1 ∧ WellFormed pair.2

theorem encodePair_injOn : {p | PairWellFormed p}.InjOn encodePair := by
  intro p hp q hq h
  have hsep : ∀ s, '=' ∉ encodeText s :=
    notMem_encodeText (by decide) (by decide) (by decide)
  obtain ⟨hname, -, hvalue⟩ := (List.append_cons_inj_of_notMem (hsep _) (hsep _)).mp h
  exact Prod.ext (encodeText_injOn hp.1 hq.1 hname) (encodeText_injOn hp.2 hq.2 hvalue)

theorem encodePair_word (p : Text × Text) : encodePair p ≠ [] ∧ '&' ∉ encodePair p := by
  have hsep : ∀ s, '&' ∉ encodeText s :=
    notMem_encodeText (by decide) (by decide) (by decide)
  constructor
  · simp [encodePair]
  · simp [encodePair, hsep]

/-- Lists of well-formed names and values are told apart by their serialisations. -/
theorem formUrlEncode_injOn :
    {ps | ∀ p ∈ ps, PairWellFormed p}.InjOn formUrlEncode :=
  intercalate_map_injOn encodePair_injOn encodePair_word

end JavaScript
