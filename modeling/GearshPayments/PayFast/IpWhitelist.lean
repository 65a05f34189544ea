import GearshPayments.JavaScript.Number
import Mathlib.Data.BitVec

/-!
# The whitelist of the webhook

`ip-whitelist.ts`: the addresses that may post an ITN are listed as single addresses and as
prefixes of addresses.  An address is 32 bits.  What the code admits is what the list says, and
beyond that what `Number` makes a prefix length of although it is no decimal numeral
(`isIpAllowed_iff`); nothing at all makes zero, so that an entry that ends in its slash admits
every address.
-/

namespace GearshPayments

open JavaScript

/-! ## Addresses -/

/-- The octets of an address, the highest first. -/
def octets (a : BitVec 32) : List ℕ :=
  [a.toNat / 2 ^ 24, a.toNat / 2 ^ 16 % 256, a.toNat / 2 ^ 8 % 256, a.toNat % 256]

/-- The text of an address. -/
def dottedQuad (a : BitVec 32) : List Char :=
  ['.'].intercalate ((octets a).map (Nat.toDigits 10))

/-- The numeral of an octet, without leading zeros. -/
def isOctet (part : List Char) : Bool :=
  numeralValue part ≤ 255 ∧ part = Nat.toDigits 10 (numeralValue part)

/-- `isIP(ip) === 4`. -/
def isIPv4 (ip : List Char) : Bool :=
  (ip.splitOn '.').length = 4 ∧ ∀ part ∈ ip.splitOn '.', isOctet part = true

namespace IpWhitelist

/-- One octet more: `(acc * 256 + n) >>> 0`. -/
def addOctet (acc : BitVec 32) (part : List Char) : Option (BitVec 32) :=
  ((Number.ofText part).integerUpTo 255).map fun n ↦ acc * 256 + BitVec.ofNat 32 n

def ipv4ToInt (ip : List Char) : Option (BitVec 32) :=
  if isIPv4 ip = false then none
  else if (ip.splitOn '.').length ≠ 4 then none
  else (ip.splitOn '.').foldlM addOctet 0

def mappedPrefix : List Char := "::ffff:".toList

def normaliseIp (raw : List Char) : List Char :=
  let trimmed := trim raw
  if mappedPrefix.isPrefixOf trimmed then trimmed.drop mappedPrefix.length else trimmed

inductive ParsedEntry where
  | cidr (network mask : BitVec 32)
  | ip (address : BitVec 32)
deriving DecidableEq

/-- The prefix length that is made of a text. -/
def prefixLength (prefixPart : List Char) : Option ℕ :=
  (Number.ofText prefixPart).integerUpTo 32

/-- `prefix === 0 ? 0 : (0xffffffff << (32 - prefix)) >>> 0`; a shift is by the count modulo 32. -/
def maskOf (length : ℕ) : BitVec 32 :=
  if length = 0 then 0 else BitVec.allOnes 32 <<< ((32 - length) % 32)

def parseEntry (raw : List Char) : Option ParsedEntry :=
  let entry := trim raw
  if entry.length = 0 then none
  else match entry.dropWhile (· ≠ '/') with
    | [] => (ipv4ToInt entry).map .ip
    | _ :: prefixPart => do
      let length ← prefixLength prefixPart
      let ip ← ipv4ToInt (entry.takeWhile (· ≠ '/'))
      let mask := maskOf length
      return .cidr (ip &&& mask) mask

/-- The entries that can be parsed. -/
def parseIpWhitelist (entries : List (List Char)) : List ParsedEntry := entries.filterMap parseEntry

/-- What the loop checks of one entry. -/
def ParsedEntry.matches (candidate : BitVec 32) : ParsedEntry → Bool
  | .ip address => address = candidate
  | .cidr network mask => candidate &&& mask = network

def isIpAllowed (ip : List Char) (parsed : List ParsedEntry) : Bool :=
  match ipv4ToInt (normaliseIp ip) with
  | none => false
  | some candidate => parsed.any (·.matches candidate)

end IpWhitelist

/-! ## Parsing addresses -/

theorem isOctet_iff {part : List Char} :
    isOctet part = true ↔ ∃ n < 256, part = Nat.toDigits 10 n := by
  unfold isOctet
  rw [decide_eq_true_iff]
  constructor
  · rintro ⟨hle, heq⟩
    exact ⟨_, Nat.lt_succ_of_le hle, heq⟩
  · rintro ⟨n, hn, rfl⟩
    rw [numeralValue_toDigits]
    exact ⟨Nat.le_of_lt_succ hn, rfl⟩

theorem octet_lt (a : BitVec 32) : ∀ n ∈ octets a, n < 256 := by
  have hlt : a.toNat < 4294967296 := a.isLt
  intro n hn
  simp only [octets, List.mem_cons, List.not_mem_nil, or_false] at hn
  omega

theorem splitOn_dottedQuad (a : BitVec 32) :
    (dottedQuad a).splitOn '.' = (octets a).map (Nat.toDigits 10) := by
  refine List.splitOn_intercalate '.' (fun part hpart hdot ↦ ?_) (by simp [octets])
  obtain ⟨n, -, rfl⟩ := List.mem_map.mp hpart
  exact absurd ((isNumeral_toDigits n).2 '.' hdot) (by decide)

namespace IpWhitelist

theorem addOctet_toDigits (acc : BitVec 32) {n : ℕ} (hn : n < 256) :
    addOctet acc (Nat.toDigits 10 n) = some (acc * 256 + BitVec.ofNat 32 n) := by
  have hsmall : numeralValue (Nat.toDigits 10 n) < 2 ^ 53 := by
    rw [numeralValue_toDigits]
    omega
  rw [addOctet, Number.ofText_numeral (isNumeral_toDigits n) hsmall, numeralValue_toDigits,
    Number.integerUpTo_natCast (Nat.le_of_lt_succ hn), Option.map_some]

/-- The fold over the parts computes the address. -/
theorem foldlM_addOctet {a b c d : ℕ} (ha : a < 256) (hb : b < 256) (hc : c < 256) (hd : d < 256) :
    ([a, b, c, d].map (Nat.toDigits 10)).foldlM addOctet 0 =
      some (BitVec.ofNat 32 (((a * 256 + b) * 256 + c) * 256 + d)) := by
  simp only [List.map_cons, List.map_nil, List.foldlM_cons, List.foldlM_nil, addOctet_toDigits _ ha,
    addOctet_toDigits _ hb, addOctet_toDigits _ hc, addOctet_toDigits _ hd, Option.bind_eq_bind,
    Option.bind_some, Option.pure_def, Option.some.injEq]
  apply BitVec.eq_of_toNat_eq
  have hzero : (0 : BitVec 32).toNat = 0 := rfl
  have hbase : (256 : BitVec 32).toNat = 256 := rfl
  simp only [BitVec.toNat_add, BitVec.toNat_mul, BitVec.toNat_ofNat, hzero, hbase]
  omega

/-- An address is parsed from its text, and from nothing else. -/
theorem ipv4ToInt_eq_some_iff {ip : List Char} {a : BitVec 32} :
    ipv4ToInt ip = some a ↔ ip = dottedQuad a := by
  constructor
  · intro h
    unfold ipv4ToInt at h
    split at h
    case isTrue => cases h
    case isFalse hip =>
      obtain ⟨hlength, hoctets⟩ := of_decide_eq_true (Bool.of_not_eq_false hip)
      rw [if_neg (not_not.mpr hlength)] at h
      obtain ⟨p, q, r, t, hparts⟩ := List.length_eq_four.mp hlength
      rw [hparts] at h hoctets
      simp only [List.mem_cons, List.not_mem_nil, or_false, forall_eq_or_imp, forall_eq,
        isOctet_iff] at hoctets
      obtain ⟨⟨b₃, h₃, rfl⟩, ⟨b₂, h₂, rfl⟩, ⟨b₁, h₁, rfl⟩, b₀, h₀, rfl⟩ := hoctets
      have hfold := foldlM_addOctet h₃ h₂ h₁ h₀
      rw [List.map_cons, List.map_cons, List.map_cons, List.map_singleton] at hfold
      cases h.symm.trans hfold
      have hoctets : octets (BitVec.ofNat 32 (((b₃ * 256 + b₂) * 256 + b₁) * 256 + b₀)) =
          [b₃, b₂, b₁, b₀] := by
        rw [octets, BitVec.toNat_ofNat, Nat.mod_eq_of_lt (by omega)]
        simp only [List.cons.injEq, and_true]
        omega
      rw [dottedQuad, hoctets]
      exact (List.intercalate_splitOn '.').symm.trans (congrArg _ hparts)
  · rintro rfl
    have hparts := splitOn_dottedQuad a
    have hip : isIPv4 (dottedQuad a) = true := by
      refine decide_eq_true ⟨by rw [hparts]; rfl, fun part hpart ↦ ?_⟩
      rw [hparts] at hpart
      obtain ⟨n, hn, rfl⟩ := List.mem_map.mp hpart
      exact isOctet_iff.mpr ⟨n, octet_lt a n hn, rfl⟩
    have hlt := octet_lt a
    simp only [octets, List.mem_cons, List.not_mem_nil, or_false, forall_eq_or_imp,
      forall_eq] at hlt
    rw [ipv4ToInt, if_neg (by rw [hip]; exact fun h ↦ by cases h), hparts,
      if_neg (by simp [octets]), octets, foldlM_addOctet hlt.1 hlt.2.1 hlt.2.2.1 hlt.2.2.2]
    congr 1
    apply BitVec.eq_of_toNat_eq
    have hsize : a.toNat < 4294967296 := a.isLt
    rw [BitVec.toNat_ofNat]
    omega

/-! ## Masks -/

/-- The highest bits of two addresses agree. -/
def TopBitsAgree (length : ℕ) (a b : BitVec 32) : Prop :=
  a.toNat / 2 ^ (32 - length) = b.toNat / 2 ^ (32 - length)

theorem getLsbD_and_maskOf {length : ℕ} (h : length ≤ 32) (a : BitVec 32) (i : ℕ) :
    (a &&& maskOf length).getLsbD i = (a.getLsbD i && decide (32 - length ≤ i)) := by
  by_cases hi : i < 32
  · unfold maskOf
    split
    case isTrue hzero =>
      have hand : a &&& (0 : BitVec 32) = 0#32 := BitVec.and_zero
      rw [hand, BitVec.getLsbD_zero, decide_eq_false (by omega), Bool.and_false]
    case isFalse hzero =>
      rw [Nat.mod_eq_of_lt (by omega), BitVec.getLsbD_and, BitVec.getLsbD_shiftLeft,
        BitVec.getLsbD_allOnes, decide_eq_true hi, Bool.true_and]
      by_cases hlow : 32 - length ≤ i
      · rw [decide_eq_true hlow, decide_eq_false (by omega), decide_eq_true (by omega)]
        rfl
      · rw [decide_eq_false hlow, decide_eq_true (by omega)]
        rfl
  · rw [BitVec.getLsbD_of_ge _ _ (by omega), BitVec.getLsbD_of_ge a _ (by omega), Bool.false_and]

/-- Two addresses agree under the mask of a length if that many of their highest bits do. -/
theorem and_maskOf_eq_iff {length : ℕ} (h : length ≤ 32) (a b : BitVec 32) :
    a &&& maskOf length = b &&& maskOf length ↔ TopBitsAgree length a b := by
  have hdiv : ∀ x : BitVec 32, x.toNat / 2 ^ (32 - length) = (x >>> (32 - length)).toNat := by
    intro x
    rw [BitVec.toNat_ushiftRight, Nat.shiftRight_eq_div_pow]
  rw [TopBitsAgree, hdiv, hdiv, BitVec.toNat_inj]
  constructor
  · intro heq
    refine BitVec.eq_of_getLsbD_eq fun i _ ↦ ?_
    have hbit := congrArg (fun x ↦ x.getLsbD (32 - length + i)) heq
    simp only [getLsbD_and_maskOf h, Nat.le_add_right, decide_true, Bool.and_true] at hbit
    rw [BitVec.getLsbD_ushiftRight, BitVec.getLsbD_ushiftRight, hbit]
  · intro heq
    refine BitVec.eq_of_getLsbD_eq fun i _ ↦ ?_
    rw [getLsbD_and_maskOf h, getLsbD_and_maskOf h]
    by_cases hlow : 32 - length ≤ i
    · have hbit := congrArg (fun x ↦ x.getLsbD (i - (32 - length))) heq
      simp only [BitVec.getLsbD_ushiftRight, Nat.add_sub_cancel' hlow] at hbit
      rw [hbit]
    · rw [decide_eq_false hlow, Bool.and_false, Bool.and_false]

/-! ## Entries -/

/-- The dotted quad of an address, a slash, and anything. -/
def withPrefix (a : BitVec 32) (prefixPart : List Char) : List Char :=
  dottedQuad a ++ '/' :: prefixPart

/-- An entry covers an address: it is the address, or the address agrees with the one before
the slash in as many bits as are made of what follows it. -/
def Covers (entry : List Char) (a : BitVec 32) : Prop :=
  entry = dottedQuad a ∨ ∃ b prefixPart length, entry = withPrefix b prefixPart ∧
    prefixLength prefixPart = some length ∧ TopBitsAgree length a b

theorem dottedQuad_ne_slash (a : BitVec 32) : ∀ c ∈ dottedQuad a, decide (c ≠ '/') = true := by
  intro c hc
  have hdigits : ∀ n, c ∈ Nat.toDigits 10 n → c ≠ '/' := by
    rintro n hn rfl
    exact absurd ((isNumeral_toDigits n).2 _ hn) (by decide)
  simp only [dottedQuad, octets, List.map_cons, List.map_nil, List.intercalate_cons_cons,
    List.intercalate_singleton, List.mem_append, List.mem_singleton] at hc
  apply decide_eq_true
  obtain (h | rfl) | (h | rfl) | (h | rfl) | h := hc
  all_goals first | exact hdigits _ h | decide

theorem prefixLength_le {prefixPart : List Char} {length : ℕ}
    (h : prefixLength prefixPart = some length) : length ≤ 32 := by
  unfold prefixLength Number.integerUpTo at h
  split at h
  next value _ =>
    split at h
    case isTrue hvalue =>
      obtain ⟨hden, -, hle⟩ := hvalue
      rw [← Rat.coe_int_num_of_den_eq_one hden] at hle
      have hnum : value.num ≤ 32 := by exact_mod_cast hle
      cases h
      omega
    case isFalse => cases h
  · cases h

theorem takeWhile_withPrefix (b : BitVec 32) (prefixPart : List Char) :
    (withPrefix b prefixPart).takeWhile (· ≠ '/') = dottedQuad b := by
  rw [withPrefix, List.takeWhile_append_of_pos (dottedQuad_ne_slash b), List.takeWhile_cons_of_neg
    (by simp), List.append_nil]

theorem dropWhile_withPrefix (b : BitVec 32) (prefixPart : List Char) :
    (withPrefix b prefixPart).dropWhile (· ≠ '/') = '/' :: prefixPart := by
  rw [withPrefix, List.dropWhile_append_of_pos (dottedQuad_ne_slash b), List.dropWhile_cons_of_neg
    (by simp)]

theorem dropWhile_dottedQuad (a : BitVec 32) : (dottedQuad a).dropWhile (· ≠ '/') = [] :=
  List.dropWhile_eq_nil_iff.mpr (dottedQuad_ne_slash a)

theorem dottedQuad_ne_nil (a : BitVec 32) : dottedQuad a ≠ [] := by
  intro h
  have hlength := congrArg List.length (splitOn_dottedQuad a)
  rw [h] at hlength
  cases hlength

theorem parseEntry_dottedQuad {raw : List Char} {a : BitVec 32} (h : trim raw = dottedQuad a) :
    parseEntry raw = some (.ip a) := by
  have hne : (dottedQuad a).length ≠ 0 := fun hlength ↦
    dottedQuad_ne_nil a (List.length_eq_zero_iff.mp hlength)
  simp only [parseEntry, h, if_neg hne, dropWhile_dottedQuad]
  rw [ipv4ToInt_eq_some_iff.mpr rfl, Option.map_some]

theorem parseEntry_withPrefix {raw prefixPart : List Char} {b : BitVec 32}
    (h : trim raw = withPrefix b prefixPart) :
    parseEntry raw =
      (prefixLength prefixPart).map fun n ↦ .cidr (b &&& maskOf n) (maskOf n) := by
  have hne : (withPrefix b prefixPart).length ≠ 0 := by simp [withPrefix]
  simp only [parseEntry, h, if_neg hne, dropWhile_withPrefix, takeWhile_withPrefix,
    ipv4ToInt_eq_some_iff.mpr rfl]
  cases prefixLength prefixPart <;> rfl

/-- An entry is parsed only if it is an address, with or without a prefix length. -/
theorem parseEntry_eq_some {raw : List Char} {entry : ParsedEntry}
    (h : parseEntry raw = some entry) :
    (∃ a, trim raw = dottedQuad a) ∨ ∃ b prefixPart, trim raw = withPrefix b prefixPart := by
  unfold parseEntry at h
  simp only at h
  split at h
  case isTrue => cases h
  case isFalse =>
    split at h
    case h_1 =>
      obtain ⟨a, ha, -⟩ := Option.map_eq_some_iff.mp h
      exact .inl ⟨a, ipv4ToInt_eq_some_iff.mp ha⟩
    case h_2 c prefixPart hdrop =>
      have hslash : '/' = c := by
        have hhead := List.head?_dropWhile_not (· ≠ '/') (trim raw)
        rw [hdrop] at hhead
        exact (not_not.mp (of_decide_eq_false hhead)).symm
      subst hslash
      obtain ⟨length, -, h⟩ := Option.bind_eq_some_iff.mp h
      obtain ⟨b, hb, -⟩ := Option.bind_eq_some_iff.mp h
      refine .inr ⟨b, prefixPart, ?_⟩
      rw [withPrefix, ← ipv4ToInt_eq_some_iff.mp hb, ← hdrop,
        List.takeWhile_append_dropWhile]

/-- What an entry admits is what it covers. -/
theorem matches_parseEntry_iff {raw : List Char} {a : BitVec 32} :
    (∃ entry, parseEntry raw = some entry ∧ entry.matches a = true) ↔ Covers (trim raw) a := by
  constructor
  · rintro ⟨entry, hentry, hmatches⟩
    obtain ⟨b, hb⟩ | ⟨b, prefixPart, hb⟩ := parseEntry_eq_some hentry
    · rw [parseEntry_dottedQuad hb] at hentry
      cases hentry
      rw [← of_decide_eq_true hmatches]
      exact .inl hb
    · rw [parseEntry_withPrefix hb] at hentry
      obtain ⟨length, hlength, rfl⟩ := Option.map_eq_some_iff.mp hentry
      exact .inr ⟨b, prefixPart, length, hb, hlength,
        (and_maskOf_eq_iff (prefixLength_le hlength) a b).mp (of_decide_eq_true hmatches)⟩
  · rintro (h | ⟨b, prefixPart, length, h, hlength, hagree⟩)
    · exact ⟨_, parseEntry_dottedQuad h, decide_eq_true rfl⟩
    · refine ⟨.cidr (b &&& maskOf length) (maskOf length), ?_,
        decide_eq_true ((and_maskOf_eq_iff (prefixLength_le hlength) a b).mpr hagree)⟩
      rw [parseEntry_withPrefix h, hlength, Option.map_some]

/-- An address is admitted if some entry covers it. -/
theorem isIpAllowed_eq_true_iff {ip : List Char} {entries : List (List Char)} :
    isIpAllowed ip (parseIpWhitelist entries) = true ↔
      ∃ a, normaliseIp ip = dottedQuad a ∧ ∃ entry ∈ entries, Covers (trim entry) a := by
  unfold isIpAllowed
  split
  case h_1 hnone =>
    constructor
    · intro h
      cases h
    · rintro ⟨a, ha, -⟩
      rw [ipv4ToInt_eq_some_iff.mpr ha] at hnone
      cases hnone
  case h_2 a ha =>
    rw [List.any_eq_true]
    simp only [parseIpWhitelist, List.mem_filterMap, ← matches_parseEntry_iff]
    constructor
    · rintro ⟨parsed, ⟨entry, hentry, hparsed⟩, hmatches⟩
      exact ⟨a, ipv4ToInt_eq_some_iff.mp ha, entry, hentry, parsed, hparsed, hmatches⟩
    · rintro ⟨a', ha', entry, hentry, parsed, hparsed, hmatches⟩
      cases ha.symm.trans (ipv4ToInt_eq_some_iff.mpr ha')
      exact ⟨parsed, ⟨entry, hentry, hparsed⟩, hmatches⟩

end IpWhitelist

/-! ## What is listed -/

open IpWhitelist

/-- A prefix length as it is published: a decimal numeral from 0 to 32. -/
def IsPrefixLength (prefixPart : List Char) : Prop :=
  IsNumeral prefixPart ∧ numeralValue prefixPart ≤ 32

/-- An entry lists an address: it is the address, or it is an address and a prefix length, and
that many of the highest bits of the two addresses agree. -/
def Lists (entry : List Char) (a : BitVec 32) : Prop :=
  entry = dottedQuad a ∨ ∃ b prefixPart, entry = withPrefix b prefixPart ∧
    IsPrefixLength prefixPart ∧ TopBitsAgree (numeralValue prefixPart) a b

/-- The source address is a dotted quad that some entry lists. -/
def Listed (entries : List (List Char)) (ip : List Char) : Prop :=
  ∃ a, normaliseIp ip = dottedQuad a ∧ ∃ entry ∈ entries, Lists (trim entry) a

/-- The source address is a dotted quad, and some entry covers it by what is no prefix length
although `Number` makes an integer from 0 to 32 of it. -/
def LenientlyCovered (entries : List (List Char)) (ip : List Char) : Prop :=
  ∃ a, normaliseIp ip = dottedQuad a ∧ ∃ entry ∈ entries, ∃ b prefixPart length,
    trim entry = withPrefix b prefixPart ∧ ¬ IsPrefixLength prefixPart ∧
      prefixLength prefixPart = some length ∧ TopBitsAgree length a b

theorem prefixLength_of_isPrefixLength {prefixPart : List Char} (h : IsPrefixLength prefixPart) :
    prefixLength prefixPart = some (numeralValue prefixPart) := by
  obtain ⟨hnumeral, hle⟩ := h
  have hsmall : numeralValue prefixPart < 2 ^ 53 := hle.trans_lt (by decide)
  rw [prefixLength, Number.ofText_numeral hnumeral hsmall, Number.integerUpTo_natCast hle]

theorem covers_iff {entry : List Char} {a : BitVec 32} :
    Covers entry a ↔ Lists entry a ∨ ∃ b prefixPart length, entry = withPrefix b prefixPart ∧
      ¬ IsPrefixLength prefixPart ∧ prefixLength prefixPart = some length ∧
        TopBitsAgree length a b := by
  constructor
  · rintro (h | ⟨b, prefixPart, length, h, hlength, hagree⟩)
    · exact .inl (.inl h)
    · by_cases hprefix : IsPrefixLength prefixPart
      · cases hlength.symm.trans (prefixLength_of_isPrefixLength hprefix)
        exact .inl (.inr ⟨b, prefixPart, h, hprefix, hagree⟩)
      · exact .inr ⟨b, prefixPart, length, h, hprefix, hlength, hagree⟩
  · rintro ((h | ⟨b, prefixPart, h, hprefix, hagree⟩) | ⟨b, prefixPart, length, h, -, hcovers⟩)
    · exact .inl h
    · exact .inr ⟨b, prefixPart, _, h, prefixLength_of_isPrefixLength hprefix, hagree⟩
    · exact .inr ⟨b, prefixPart, length, h, hcovers⟩

/-- What is admitted is what is listed, and what is covered beyond it. -/
theorem isIpAllowed_iff_or {entries : List (List Char)} {ip : List Char} :
    isIpAllowed ip (parseIpWhitelist entries) = true ↔
      Listed entries ip ∨ LenientlyCovered entries ip := by
  rw [isIpAllowed_eq_true_iff]
  simp only [covers_iff, and_or_left, exists_or]
  rfl

/-- The whitelist admits what it lists and nothing else exactly if whatever an entry covers by
what is no prefix length is listed. -/
theorem isIpAllowed_iff (entries : List (List Char)) (ip : List Char) :
    (isIpAllowed ip (parseIpWhitelist entries) = true ↔ Listed entries ip) ↔
      (LenientlyCovered entries ip → Listed entries ip) := by
  rw [isIpAllowed_iff_or]
  constructor
  · intro h hcovered
    exact h.mp (.inr hcovered)
  · intro h
    exact ⟨fun hor ↦ hor.elim id h, .inl⟩

/-- A prefix length that is forgotten is zero, so that the entry admits every address. -/
theorem slash_admits_every_address :
    ¬ (isIpAllowed "9.9.9.9".toList (parseIpWhitelist ["1.2.3.4/".toList]) = true ↔
      Listed ["1.2.3.4/".toList] "9.9.9.9".toList) := by
  have hsource : normaliseIp "9.9.9.9".toList = dottedQuad 0x09090909#32 := by decide
  have hentry : trim "1.2.3.4/".toList = withPrefix 0x01020304#32 [] := by decide
  have hlenient : LenientlyCovered ["1.2.3.4/".toList] "9.9.9.9".toList := by
    refine ⟨_, hsource, _, List.mem_singleton_self _, _, [], 0, hentry, ?_, rfl, rfl⟩
    exact fun hprefix ↦ hprefix.1.1 rfl
  intro hiff
  obtain ⟨a, -, entry, hmem, hlists⟩ := hiff.mp (isIpAllowed_iff_or.mpr (.inr hlenient))
  rw [List.mem_singleton.mp hmem, hentry] at hlists
  -- the entry is no address, and there is no numeral behind its slash
  obtain h | ⟨b, prefixPart, h, hprefix, -⟩ := hlists
  · have hdrop := dropWhile_withPrefix 0x01020304#32 []
    rw [h, dropWhile_dottedQuad] at hdrop
    cases hdrop
  · have hdrop := dropWhile_withPrefix 0x01020304#32 []
    rw [h, dropWhile_withPrefix] at hdrop
    cases hdrop
    exact hprefix.1.1 rfl

end GearshPayments
