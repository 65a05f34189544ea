import GearshPayments.JavaScript.Utf16

/-!
# JSON values

The values that `JSON.parse` makes, and how `JSON.stringify` writes them.  The entries of an
object stand in the order in which `Object.entries` lists them, with distinct keys.  Numbers are
any type, with the text that `String` makes of each of them.
-/

namespace JavaScript

inductive Json (ν : Type) where
  | null
  | bool (b : Bool)
  | num (n : ν)
  | str (s : Text)
  | arr (items : List (Json ν))
  | obj (entries : List (Text × Json ν))
deriving Inhabited

/-- What the language does with numbers. -/
structure NumberFormat (ν : Type) where
  ofNat : ℕ → ν
  isFinite : ν → Bool
  /-- `String(n)`. -/
  toText : ν → Text

/-! ## Strings -/

/-- A hexadecimal digit, in lower case. -/
def hexUnit (n : ℕ) : CodeUnit :=
  Fin.ofNat _ (if n < 10 then '0'.toNat + n else 'a'.toNat + (n - 10))

/-- `\u` and the four digits of a code unit. -/
def unicodeEscape (u : CodeUnit) : Text :=
  utf16 ['\\', 'u'] ++ [hexUnit (u.val / 0x1000), hexUnit (u.val / 0x100 % 0x10),
    hexUnit (u.val / 0x10 % 0x10), hexUnit (u.val % 0x10)]

def IsHighSurrogate (u : CodeUnit) : Prop := 0xD800 ≤ u.val ∧ u.val < 0xDC00

def IsLowSurrogate (u : CodeUnit) : Prop := 0xDC00 ≤ u.val ∧ u.val < 0xE000

instance (u : CodeUnit) : Decidable (IsHighSurrogate u) := inferInstanceAs (Decidable (_ ∧ _))

instance (u : CodeUnit) : Decidable (IsLowSurrogate u) := inferInstanceAs (Decidable (_ ∧ _))

/-- A code unit that is not half of a pair, within a string of JSON. -/
def quoteUnit (u : CodeUnit) : Text :=
  if u.val = 0x08 then utf16 ['\\', 'b']
  else if u.val = 0x09 then utf16 ['\\', 't']
  else if u.val = 0x0A then utf16 ['\\', 'n']
  else if u.val = 0x0C then utf16 ['\\', 'f']
  else if u.val = 0x0D then utf16 ['\\', 'r']
  else if u.val = 0x22 then utf16 ['\\', '"']
  else if u.val = 0x5C then utf16 ['\\', '\\']
  else if u.val < 0x20 ∨ IsHighSurrogate u ∨ IsLowSurrogate u then unicodeEscape u
  else [u]

def quoteUnits : Text → Text
  | [] => []
  | [u] => quoteUnit u
  | u :: v :: rest =>
    if IsHighSurrogate u ∧ IsLowSurrogate v then u :: v :: quoteUnits rest
    else quoteUnit u ++ quoteUnits (v :: rest)

/-- A string of JSON: the text within quotation marks, with escapes. -/
def quote (s : Text) : Text := utf16 ['"'] ++ (quoteUnits s ++ utf16 ['"'])

/-! ## Values -/

namespace Json

variable {ν : Type} (numbers : NumberFormat ν)

mutual

/-- `JSON.stringify(value)`. -/
def stringify : Json ν → Text
  | .null => text "null"
  | .bool b => text (if b then "true" else "false")
  | .num n => if numbers.isFinite n then numbers.toText n else text "null"
  | .str s => quote s
  | .arr items => utf16 ['['] ++ stringifyItems items ++ utf16 [']']
  | .obj entries => utf16 ['{'] ++ stringifyEntries entries ++ utf16 ['}']

def stringifyItems : List (Json ν) → Text
  | [] => []
  | [v] => stringify v
  | v :: vs => stringify v ++ utf16 [','] ++ stringifyItems vs

def stringifyEntries : List (Text × Json ν) → Text
  | [] => []
  | [(key, v)] => quote key ++ utf16 [':'] ++ stringify v
  | (key, v) :: es => quote key ++ utf16 [':'] ++ stringify v ++ utf16 [','] ++ stringifyEntries es

end

variable {numbers}

/-! ## Parts of values -/

mutual

/-- The strings in a value, other than keys. -/
def strings : Json ν → List Text
  | .str s => [s]
  | .arr items => stringsItems items
  | .obj entries => stringsEntries entries
  | _ => []

def stringsItems : List (Json ν) → List Text
  | [] => []
  | v :: vs => strings v ++ stringsItems vs

def stringsEntries : List (Text × Json ν) → List Text
  | [] => []
  | (_, v) :: es => strings v ++ stringsEntries es

end

mutual

/-- The keys of the objects in a value. -/
def keys : Json ν → List Text
  | .arr items => keysItems items
  | .obj entries => keysEntries entries
  | _ => []

def keysItems : List (Json ν) → List Text
  | [] => []
  | v :: vs => keys v ++ keysItems vs

def keysEntries : List (Text × Json ν) → List Text
  | [] => []
  | (key, v) :: es => key :: (keys v ++ keysEntries es)

end

/-- Objects and arrays: `typeof value === 'object'`, other than `null`. -/
def IsObject : Json ν → Prop
  | .arr _ | .obj _ => True
  | _ => False

/-! ## Agreement outside hidden keys -/

section Agreement

variable (hidden : Text → Prop) (R : Text → Text → Prop)

mutual

/-- Two values agree if they have the same keys and the same nesting, and outside the values of
hidden keys they have the same scalars and strings that are related. -/
inductive Agree : Json ν → Json ν → Prop
  | null : Agree .null .null
  | bool (b : Bool) : Agree (.bool b) (.bool b)
  | num (n : ν) : Agree (.num n) (.num n)
  | str {s t : Text} : R s t → Agree (.str s) (.str t)
  | arr {vs ws : List (Json ν)} : AgreeItems vs ws → Agree (.arr vs) (.arr ws)
  | obj {es fs : List (Text × Json ν)} : AgreeEntries es fs → Agree (.obj es) (.obj fs)

inductive AgreeItems : List (Json ν) → List (Json ν) → Prop
  | nil : AgreeItems [] []
  | cons {v w : Json ν} {vs ws : List (Json ν)} :
    Agree v w → AgreeItems vs ws → AgreeItems (v :: vs) (w :: ws)

inductive AgreeEntries : List (Text × Json ν) → List (Text × Json ν) → Prop
  | nil : AgreeEntries [] []
  | hidden {key : Text} (v w : Json ν) {es fs : List (Text × Json ν)} :
    hidden key → AgreeEntries es fs → AgreeEntries ((key, v) :: es) ((key, w) :: fs)
  | cons {key : Text} {v w : Json ν} {es fs : List (Text × Json ν)} :
    Agree v w → AgreeEntries es fs → AgreeEntries ((key, v) :: es) ((key, w) :: fs)

end

end Agreement

end Json

end JavaScript
