import Mathlib.Data.List.Sort

/-!
# JSON text in Python

`json.dumps(value, sort_keys=True, ensure_ascii=True, separators=(',', ':'))`. A
string is a list of code points, a surrogate without its partner among them.
-/

namespace Python

abbrev Str := List Nat

inductive Value
  | none
  | bool (value : Bool)
  | int (value : Int)
  | float (repr : List Char)
  | str (value : Str)
  | list (items : List Value)
  | dict (items : List (Str × Value))

/-- The order of strings, by the first code point in which they differ. -/
def Str.le : Str → Str → Bool
  | [], _ => true
  | _ :: _, [] => false
  | a :: s, b :: t => decide (a < b) || decide (a = b) && Str.le s t

/-- `'\\u{0:04x}'.format(n)`. -/
def escape (n : Nat) : List Char :=
  '\\' :: 'u' :: [n / 4096, n / 256 % 16, n / 16 % 16, n % 16].map Nat.digitChar

/-- What stands for a code point. One beyond 16 bits has two escapes. -/
def encodeChar (n : Nat) : List Char :=
  if n = 0x5c then ['\\', '\\']
  else if n = 0x22 then ['\\', '"']
  else if n = 8 then ['\\', 'b']
  else if n = 12 then ['\\', 'f']
  else if n = 10 then ['\\', 'n']
  else if n = 13 then ['\\', 'r']
  else if n = 9 then ['\\', 't']
  else if 0x20 ≤ n ∧ n ≤ 0x7e then [Char.ofNat n]
  else if n < 0x10000 then escape n
  else escape (0xd800 + (n - 0x10000) / 0x400 % 0x400) ++ escape (0xdc00 + (n - 0x10000) % 0x400)

/-- `py_encode_basestring_ascii`. -/
def encodeStr (s : Str) : List Char := '"' :: (s.flatMap encodeChar ++ ['"'])

/-- `','.join(pieces)`. -/
def joinCommas (pieces : List (List Char)) : List Char := List.intercalate [','] pieces

mutual

def dumps : Value → List Char
  | .none => "null".toList
  | .bool value => if value then "true".toList else "false".toList
  | .int value => (toString value).toList
  | .float repr => repr
  | .str value => encodeStr value
  | .list items => '[' :: (joinCommas (dumpsItems items) ++ [']'])
  | .dict items =>
    '\x7b' :: (joinCommas (((dumpsFields items).insertionSort fun a b => Str.le a.1 b.1 = true).map Prod.snd) ++
      ['\x7d'])

def dumpsItems : List Value → List (List Char)
  | [] => []
  | item :: rest => dumps item :: dumpsItems rest

/-- The items of a dictionary as texts, each with its key. -/
def dumpsFields : List (Str × Value) → List (Str × List Char)
  | [] => []
  | (key, value) :: rest => (key, encodeStr key ++ ':' :: dumps value) :: dumpsFields rest

end

end Python
