import Mathlib.Tactic.Common

/-!
# JSON text

A reader of RFC 8259 text that keeps, next to every value, the exact text it
was read from. Numbers keep their text, strings are decoded, object fields
stay in order with duplicates, so a caller can apply whatever rule its own
JSON library has for them.
-/

namespace Json

/-- Text of a value exactly as it stood in the input. -/
abbrev Raw := List Char

inductive Value
  | null
  | bool (b : Bool)
  | number (text : List Char)
  | string (text : List Char)
  | array (items : List (Raw × Value))
  | object (fields : List (List Char × Raw × Value))

def isSpace (c : Char) : Bool :=
  c = ' ' || c = '\t' || c = '\n' || c = '\r'

def skipSpace (input : List Char) : List Char := input.dropWhile isSpace

def isDigit (c : Char) : Bool := '0' ≤ c && c ≤ '9'

/-- Value of one hexadecimal digit, either case. -/
def hexDigit (c : Char) : Option Nat :=
  if '0' ≤ c && c ≤ '9' then some (c.toNat - '0'.toNat)
  else if 'a' ≤ c && c ≤ 'f' then some (c.toNat - 'a'.toNat + 10)
  else if 'A' ≤ c && c ≤ 'F' then some (c.toNat - 'A'.toNat + 10)
  else none

/-- The code unit of a four-digit escape. -/
def unit (a b c d : Char) : Option Nat := do
  let a ← hexDigit a
  let b ← hexDigit b
  let c ← hexDigit c
  let d ← hexDigit d
  some (((a * 16 + b) * 16 + c) * 16 + d)

def simpleEscape : Char → Option Char
  | '"' => some '"'
  | '\\' => some '\\'
  | '/' => some '/'
  | 'b' => some '\x08'
  | 'f' => some '\x0c'
  | 'n' => some '\n'
  | 'r' => some '\r'
  | 't' => some '\t'
  | _ => none

def isHighSurrogate (n : Nat) : Bool := 0xD800 ≤ n && n < 0xDC00

def isLowSurrogate (n : Nat) : Bool := 0xDC00 ≤ n && n < 0xE000

/-- Reads string text after its opening quote. A surrogate without its partner
becomes U+FFFD, as both Go and Dart decoders do not reject it. -/
def readString : Nat → List Char → Option (List Char × List Char)
  | 0, _ => none
  | _ + 1, [] => none
  | _ + 1, '"' :: rest => some ([], rest)
  | fuel + 1, '\\' :: 'u' :: a :: b :: c :: d :: rest => do
      let n ← unit a b c d
      if isHighSurrogate n then
        match rest with
        | '\\' :: 'u' :: e :: f :: g :: h :: rest' =>
          let m ← unit e f g h
          if isLowSurrogate m then
            let (text, tail) ← readString fuel rest'
            some (Char.ofNat (0x10000 + (n - 0xD800) * 0x400 + (m - 0xDC00)) :: text, tail)
          else
            let (text, tail) ← readString fuel rest
            some ('\uFFFD' :: text, tail)
        | _ =>
          let (text, tail) ← readString fuel rest
          some ('\uFFFD' :: text, tail)
      else if isLowSurrogate n then
        let (text, tail) ← readString fuel rest
        some ('\uFFFD' :: text, tail)
      else
        let (text, tail) ← readString fuel rest
        some (Char.ofNat n :: text, tail)
  | fuel + 1, '\\' :: c :: rest => do
      let c ← simpleEscape c
      let (text, tail) ← readString fuel rest
      some (c :: text, tail)
  | fuel + 1, c :: rest =>
    if c.toNat < 0x20 || c = '\\' then none
    else do
      let (text, tail) ← readString fuel rest
      some (c :: text, tail)

/-- One or more digits. -/
def readDigits (input : List Char) : Option (List Char × List Char) :=
  match input.span isDigit with
  | ([], _) => none
  | (digits, rest) => some (digits, rest)

/-- Integer part: `0`, or digits that do not start with `0`. -/
def readInteger : List Char → Option (List Char × List Char)
  | '0' :: rest => some (['0'], rest)
  | input => readDigits input

def readFraction : List Char → Option (List Char × List Char)
  | '.' :: rest => do
      let (digits, tail) ← readDigits rest
      some ('.' :: digits, tail)
  | input => some ([], input)

def readExponent : List Char → Option (List Char × List Char)
  | c :: rest =>
    if c = 'e' || c = 'E' then
      let (sign, rest) := match rest with
        | '+' :: tail => (['+'], tail)
        | '-' :: tail => (['-'], tail)
        | _ => ([], rest)
      do
        let (digits, tail) ← readDigits rest
        some (c :: sign ++ digits, tail)
    else some ([], c :: rest)
  | [] => some ([], [])

def readNumber (input : List Char) : Option (List Char × List Char) := do
  let (sign, rest) := match input with
    | '-' :: tail => (['-'], tail)
    | _ => ([], input)
  let (integer, rest) ← readInteger rest
  let (fraction, rest) ← readFraction rest
  let (exponent, rest) ← readExponent rest
  some (sign ++ integer ++ fraction ++ exponent, rest)

/-- What was consumed to get from `input` to its suffix `rest`. -/
def consumed (input rest : List Char) : Raw :=
  input.take (input.length - rest.length)

mutual

/-- Reads one value. `depth` bounds the nesting of arrays and objects; `fuel`
only makes the recursion structural and is never short when it is at least
twice the length of the input. -/
def readValue : Nat → Nat → List Char → Option (Value × List Char)
  | 0, _, _ => none
  | fuel + 1, depth, input =>
    match input with
    | 'n' :: 'u' :: 'l' :: 'l' :: rest => some (.null, rest)
    | 't' :: 'r' :: 'u' :: 'e' :: rest => some (.bool true, rest)
    | 'f' :: 'a' :: 'l' :: 's' :: 'e' :: rest => some (.bool false, rest)
    | '"' :: rest => do
        let (text, tail) ← readString (rest.length + 1) rest
        some (.string text, tail)
    | '[' :: rest =>
      match depth with
      | 0 => none
      | depth + 1 =>
        match skipSpace rest with
        | ']' :: tail => some (.array [], tail)
        | body => do
            let (items, tail) ← readItems fuel depth body
            some (.array items, tail)
    | '\x7b' :: rest =>
      match depth with
      | 0 => none
      | depth + 1 =>
        match skipSpace rest with
        | '\x7d' :: tail => some (.object [], tail)
        | body => do
            let (fields, tail) ← readFields fuel depth body
            some (.object fields, tail)
    | _ => do
        let (text, tail) ← readNumber input
        some (.number text, tail)

/-- Array items up to and including the closing bracket. -/
def readItems : Nat → Nat → List Char → Option (List (Raw × Value) × List Char)
  | 0, _, _ => none
  | fuel + 1, depth, input => do
      let (value, rest) ← readValue fuel depth input
      let item := (consumed input rest, value)
      match skipSpace rest with
      | ']' :: tail => some ([item], tail)
      | ',' :: tail =>
        let (items, tail) ← readItems fuel depth (skipSpace tail)
        some (item :: items, tail)
      | _ => none

/-- Object fields up to and including the closing brace. -/
def readFields :
    Nat → Nat → List Char → Option (List (List Char × Raw × Value) × List Char)
  | 0, _, _ => none
  | fuel + 1, depth, '"' :: input => do
      let (key, rest) ← readString (input.length + 1) input
      match skipSpace rest with
      | ':' :: rest =>
        let body := skipSpace rest
        let (value, rest) ← readValue fuel depth body
        let field := (key, consumed body rest, value)
        match skipSpace rest with
        | '\x7d' :: tail => some ([field], tail)
        | ',' :: tail =>
          let (fields, tail) ← readFields fuel depth (skipSpace tail)
          some (field :: fields, tail)
        | _ => none
      | _ => none
  | _ + 1, _, _ => none

end

/-- The value of a whole text, nested at most `depth` deep. -/
def read (depth : Nat) (text : List Char) : Option Value := do
  let (value, rest) ← readValue (2 * text.length + 2) depth (skipSpace text)
  if (skipSpace rest).isEmpty then some value else none

/-! ## Comparing documents -/

mutual

/-- Equality of documents, raw texts included. -/
def Value.same : Value → Value → Bool
  | .null, .null => true
  | .bool a, .bool b => a = b
  | .number a, .number b => a = b
  | .string a, .string b => a = b
  | .array a, .array b => sameItems a b
  | .object a, .object b => sameFields a b
  | _, _ => false

def sameItems : List (Raw × Value) → List (Raw × Value) → Bool
  | [], [] => true
  | (r, v) :: rest, (r', v') :: rest' => decide (r = r') && v.same v' && sameItems rest rest'
  | _, _ => false

def sameFields : List (List Char × Raw × Value) → List (List Char × Raw × Value) → Bool
  | [], [] => true
  | (k, r, v) :: rest, (k', r', v') :: rest' =>
    decide (k = k') && decide (r = r') && v.same v' && sameFields rest rest'
  | _, _ => false

end

mutual

theorem Value.eq_of_same : ∀ {v w : Value}, v.same w = true → v = w
  | .null, .null, _ => rfl
  | .bool a, .bool b, h => by simp_all [Value.same]
  | .number a, .number b, h => by simp_all [Value.same]
  | .string a, .string b, h => by simp_all [Value.same]
  | .array a, .array b, h => by
      rw [Value.same] at h
      rw [eq_of_sameItems h]
  | .object a, .object b, h => by
      rw [Value.same] at h
      rw [eq_of_sameFields h]

theorem eq_of_sameItems : ∀ {xs ys : List (Raw × Value)}, sameItems xs ys = true → xs = ys
  | [], [], _ => rfl
  | (r, v) :: rest, (r', v') :: rest', h => by
      simp only [sameItems, Bool.and_eq_true, decide_eq_true_eq] at h
      rw [h.1.1, Value.eq_of_same h.1.2, eq_of_sameItems h.2]

theorem eq_of_sameFields :
    ∀ {xs ys : List (List Char × Raw × Value)}, sameFields xs ys = true → xs = ys
  | [], [], _ => rfl
  | (k, r, v) :: rest, (k', r', v') :: rest', h => by
      simp only [sameFields, Bool.and_eq_true, decide_eq_true_eq] at h
      rw [h.1.1.1, h.1.1.2, Value.eq_of_same h.1.2, eq_of_sameFields h.2]

end

theorem read_of_same {depth : Nat} {text : List Char} {v : Value}
    (h : (read depth text).any v.same = true) : read depth text = some v := by
  cases hr : read depth text with
  | none => rw [hr] at h; cases h
  | some w =>
    rw [hr] at h
    rw [Value.eq_of_same h]

end Json
