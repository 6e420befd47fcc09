import Pokrov.Dart.Text

/-!
# JSON values in Dart

What `jsonDecode` makes of a text, and the text that `jsonEncode` makes of that.
The keys of a map are distinct and stand in the order in which they were set. A
floating-point number is kept as its text.
-/

namespace Dart

inductive Document
  | null
  | bool (value : Bool)
  | int (value : Int)
  | double (value : Text)
  | string (value : Text)
  | list (items : List Document)
  | map (fields : List (Text × Document))

abbrev Fields := List (Text × Document)

namespace Fields

/-- `fields[key]`, where a key that is missing has a null. -/
def get (fields : Fields) (key : String) : Document := (fields.lookup (text key)).getD .null

def keys (fields : Fields) : List Text := fields.map Prod.fst

/-- The keys are those, and no others. -/
def hasKeys (fields : Fields) (expected : List String) : Bool :=
  fields.length = expected.length && fields.keys.all fun key => (expected.map text).contains key

end Fields

def Document.isNull : Document → Bool
  | .null => true
  | _ => false

def Document.isMap : Document → Bool
  | .map _ => true
  | _ => false

/-! ## Text -/

def lowerHexDigit (n : Nat) : UInt16 := if n < 10 then UInt16.ofNat (48 + n) else UInt16.ofNat (87 + n)

/-- The four digits of a unit. -/
def hexFour (u : UInt16) : Text :=
  [lowerHexDigit (u.toNat / 4096), lowerHexDigit (u.toNat / 256 % 16),
    lowerHexDigit (u.toNat / 16 % 16), lowerHexDigit (u.toNat % 16)]

def escapeUnit (u : UInt16) : Text := text "\\u" ++ hexFour u

def isHighSurrogate (u : UInt16) : Bool := 0xD800 ≤ u && u < 0xDC00

def isLowSurrogate (u : UInt16) : Bool := 0xDC00 ≤ u && u < 0xE000

/-- A unit that is not a surrogate, inside a string. -/
def encodeUnit (u : UInt16) : Text :=
  if u = unit '"' ∨ u = unit '\\' then [unit '\\', u]
  else if u = 8 then text "\\b"
  else if u = 9 then text "\\t"
  else if u = 10 then text "\\n"
  else if u = 12 then text "\\f"
  else if u = 13 then text "\\r"
  else if u < 32 then escapeUnit u
  else [u]

/-- A surrogate without its partner is escaped. -/
def encodeUnits : Text → Text
  | [] => []
  | [u] => if isHighSurrogate u || isLowSurrogate u then escapeUnit u else encodeUnit u
  | u :: v :: rest =>
    if isHighSurrogate u && isLowSurrogate v then u :: v :: encodeUnits rest
    else if isHighSurrogate u || isLowSurrogate u then escapeUnit u ++ encodeUnits (v :: rest)
    else encodeUnit u ++ encodeUnits (v :: rest)

def encodeString (s : Text) : Text := unit '"' :: (encodeUnits s ++ [unit '"'])

def encodeInt (n : Int) : Text :=
  (if n < 0 then text "-" else []) ++ text (toString n.natAbs)

mutual

def jsonEncode : Document → Text
  | .null => text "null"
  | .bool value => if value then text "true" else text "false"
  | .int value => encodeInt value
  | .double value => value
  | .string value => encodeString value
  | .list items => unit '[' :: (encodeItems items ++ [unit ']'])
  | .map fields => unit '\x7b' :: (encodeFields fields ++ [unit '\x7d'])

def encodeItems : List Document → Text
  | [] => []
  | [item] => jsonEncode item
  | item :: next :: rest => jsonEncode item ++ unit ',' :: encodeItems (next :: rest)

def encodeFields : Fields → Text
  | [] => []
  | [(key, value)] => encodeString key ++ unit ':' :: jsonEncode value
  | (key, value) :: next :: rest =>
    encodeString key ++ unit ':' :: (jsonEncode value ++ unit ',' :: encodeFields (next :: rest))

end

theorem length_encodeUnit_le (u : UInt16) : (encodeUnit u).length ≤ 6 := by
  unfold encodeUnit escapeUnit
  split_ifs <;> simp [text, hexFour]

theorem length_encodeUnits_le (s : Text) : (encodeUnits s).length ≤ 6 * s.length := by
  have hcode : ∀ u, (escapeUnit u).length = 6 := fun u => rfl
  fun_induction encodeUnits s with
  | case1 => exact Nat.le_refl 0
  | case2 u h => simp [hcode]
  | case3 u h => simpa using length_encodeUnit_le u
  | case4 u v rest hpair ih =>
    simp only [List.length_cons]
    omega
  | case5 u v rest hpair h ih =>
    simp only [List.length_append, hcode, List.length_cons] at ih ⊢
    omega
  | case6 u v rest hpair h ih =>
    have hu := length_encodeUnit_le u
    simp only [List.length_append, List.length_cons] at ih ⊢
    omega

theorem length_encodeString_le (s : Text) : (encodeString s).length ≤ 6 * s.length + 2 := by
  have hunits := length_encodeUnits_le s
  simp only [encodeString, List.length_cons, List.length_append, List.length_nil]
  omega

/-! ## `toString` -/

mutual

/-- `value.toString()`. -/
def toText : Document → Text
  | .null => text "null"
  | .bool value => if value then text "true" else text "false"
  | .int value => encodeInt value
  | .double value => value
  | .string value => value
  | .list items => unit '[' :: (itemsText items ++ [unit ']'])
  | .map fields => unit '\x7b' :: (fieldsText fields ++ [unit '\x7d'])

def itemsText : List Document → Text
  | [] => []
  | [item] => toText item
  | item :: next :: rest => toText item ++ text ", " ++ itemsText (next :: rest)

def fieldsText : Fields → Text
  | [] => []
  | [(key, value)] => key ++ text ": " ++ toText value
  | (key, value) :: next :: rest =>
    key ++ text ": " ++ toText value ++ text ", " ++ fieldsText (next :: rest)

end

end Dart
