import Mathlib.Data.List.Chain
import Pokrov.Dart.Document

/-!
# The text of JSON values

`jsonDecode` in two steps: a text is a sequence of tokens with space between them,
and the tokens are those of one value. Strings keep their escapes, numbers their
digits and maps their repeated keys until the value is taken, so every text that
stands for a value can be told from the others.
-/

namespace Dart

namespace JsonText

/-! ## Units -/

def isSpace (u : UInt16) : Bool := u = unit ' ' || u = 9 || u = 10 || u = 13

/-- The value of a digit, in either case. -/
def hexValue (u : UInt16) : Option Nat :=
  if isDigit u then some (u.toNat - 48)
  else if between 'a' 'f' u then some (u.toNat - 87)
  else if between 'A' 'F' u then some (u.toNat - 55)
  else none

/-- The unit that a letter after a backslash stands for. -/
def shortUnit (letter : UInt16) : Option UInt16 :=
  if letter = unit '"' ∨ letter = unit '\\' ∨ letter = unit '/' then some letter
  else if letter = unit 'b' then some 8
  else if letter = unit 'f' then some 12
  else if letter = unit 'n' then some 10
  else if letter = unit 'r' then some 13
  else if letter = unit 't' then some 9
  else none

/-! ## Strings -/

/-- What stands for one unit of a string. -/
inductive Piece
  | plain (u : UInt16)
  | short (letter : UInt16)
  | code (a b c d : UInt16)

namespace Piece

def text : Piece → Text
  | plain u => [u]
  | short letter => [Dart.unit '\\', letter]
  | code a b c d => [Dart.unit '\\', Dart.unit 'u', a, b, c, d]

def isValid : Piece → Bool
  | plain u => decide (32 ≤ u ∧ u ≠ Dart.unit '"' ∧ u ≠ Dart.unit '\\')
  | short letter => (shortUnit letter).isSome
  | code a b c d => [a, b, c, d].all fun u => (hexValue u).isSome

def unit : Piece → UInt16
  | plain u => u
  | short letter => (shortUnit letter).getD 0
  | code a b c d =>
    UInt16.ofNat ([a, b, c, d].foldl (fun n u => n * 16 + (hexValue u).getD 0) 0)

end Piece

/-- The units of a string. -/
def units (pieces : List Piece) : Text := pieces.map Piece.unit

/-- Reads a string after its opening quote. -/
def readPieces : Text → Option (List Piece × Text)
  | [] => none
  | u :: rest =>
    if u = unit '"' then some ([], rest)
    else if u = unit '\\' then
      match rest with
      | [] => none
      | letter :: rest =>
        if letter = unit 'u' then
          match rest with
          | a :: b :: c :: d :: rest =>
            if (Piece.code a b c d).isValid then
              (readPieces rest).map fun read => (.code a b c d :: read.1, read.2)
            else none
          | _ => none
        else if (Piece.short letter).isValid then
          (readPieces rest).map fun read => (.short letter :: read.1, read.2)
        else none
    else if u < 32 then none
    else (readPieces rest).map fun read => (.plain u :: read.1, read.2)

/-! ## Numbers -/

def isNumeralUnit (u : UInt16) : Bool :=
  isDigit u || u = unit '-' || u = unit '+' || u = unit '.' || u = unit 'e' || u = unit 'E'

def unsigned : Text → Text
  | [] => []
  | u :: rest => if u = unit '-' then rest else u :: rest

/-- Digits with no zero in front. -/
def isInteger (digits : Text) : Bool :=
  !digits.isEmpty && (decide (digits.head? ≠ some (unit '0')) || decide (digits.length = 1))

def isExponent : Text → Bool
  | [] => true
  | u :: rest =>
    let digits := match rest with
      | [] => []
      | s :: digits => if s = unit '+' ∨ s = unit '-' then digits else s :: digits
    (u = unit 'e' || u = unit 'E') && !digits.isEmpty && digits.all isDigit

def isFraction : Text → Bool
  | [] => true
  | u :: rest =>
    if u = unit '.' then
      !(rest.takeWhile isDigit).isEmpty && isExponent (rest.dropWhile isDigit)
    else isExponent (u :: rest)

def isNumeral (s : Text) : Bool :=
  isInteger ((unsigned s).takeWhile isDigit) && isFraction ((unsigned s).dropWhile isDigit)

/-- The integer that digits stand for, with their sign. -/
def integerOf (s : Text) : Int :=
  if s.head? = some (unit '-') then -(number (unsigned s) : Int) else number s

/-- An integer of 64 bits, or a floating-point number. -/
def numeral (s : Text) : Document :=
  if (unsigned s).all isDigit = true ∧ -2 ^ 63 ≤ integerOf s ∧ integerOf s < 2 ^ 63 then
    .int (integerOf s)
  else .double s

/-! ## Tokens -/

inductive Token
  | openBrace
  | closeBrace
  | openBracket
  | closeBracket
  | comma
  | colon
  | null
  | bool (value : Bool)
  | number (s : Text)
  | string (pieces : List Piece)

namespace Token

def text : Token → Text
  | openBrace => [unit '\x7b']
  | closeBrace => [unit '\x7d']
  | openBracket => [unit '[']
  | closeBracket => [unit ']']
  | comma => [unit ',']
  | colon => [unit ':']
  | null => Dart.text "null"
  | bool value => if value then Dart.text "true" else Dart.text "false"
  | number s => s
  | string pieces => unit '"' :: (pieces.flatMap Piece.text ++ [unit '"'])

def isValid : Token → Bool
  | number s => isNumeral s && s.all isNumeralUnit
  | string pieces => pieces.all Piece.isValid
  | _ => true

def isNumber : Token → Bool
  | number _ => true
  | _ => false

end Token

/-- Reads a word, if the text starts with it. -/
def readWord (token : Token) (input : Text) : Option (Token × Text) :=
  if token.text.isPrefixOf input then some (token, input.drop token.text.length) else none

/-- Reads one token. -/
def readToken : Text → Option (Token × Text)
  | [] => none
  | u :: rest =>
    if u = unit '\x7b' then some (.openBrace, rest)
    else if u = unit '\x7d' then some (.closeBrace, rest)
    else if u = unit '[' then some (.openBracket, rest)
    else if u = unit ']' then some (.closeBracket, rest)
    else if u = unit ',' then some (.comma, rest)
    else if u = unit ':' then some (.colon, rest)
    else if u = unit '"' then (readPieces rest).map fun read => (.string read.1, read.2)
    else if u = unit 'n' then readWord .null (u :: rest)
    else if u = unit 't' then readWord (.bool true) (u :: rest)
    else if u = unit 'f' then readWord (.bool false) (u :: rest)
    else if isNumeral ((u :: rest).takeWhile isNumeralUnit) then
      some (.number ((u :: rest).takeWhile isNumeralUnit), (u :: rest).dropWhile isNumeralUnit)
    else none

/-- The tokens of a text. The fuel is more than there are. -/
def lex : Nat → Text → Option (List Token)
  | 0, _ => none
  | fuel + 1, input =>
    match input.dropWhile isSpace with
    | [] => some []
    | u :: rest =>
      match readToken (u :: rest) with
      | none => none
      | some (token, rest) => (lex fuel rest).map fun tokens => token :: tokens

/-! ## Values -/

/-- A value as it is written, but for the space. -/
inductive Node
  | null
  | bool (value : Bool)
  | number (s : Text)
  | string (pieces : List Piece)
  | list (items : List Node)
  | map (fields : List (List Piece × Node))

mutual

def Node.tokens : Node → List Token
  | .null => [.null]
  | .bool value => [.bool value]
  | .number s => [.number s]
  | .string pieces => [.string pieces]
  | .list items => .openBracket :: (itemTokens items ++ [.closeBracket])
  | .map fields => .openBrace :: (fieldTokens fields ++ [.closeBrace])

def itemTokens : List Node → List Token
  | [] => []
  | [item] => item.tokens
  | item :: next :: rest => item.tokens ++ .comma :: itemTokens (next :: rest)

def fieldTokens : List (List Piece × Node) → List Token
  | [] => []
  | [(key, value)] => .string key :: .colon :: value.tokens
  | (key, value) :: next :: rest =>
    .string key :: .colon :: (value.tokens ++ .comma :: fieldTokens (next :: rest))

end

mutual

/-- Reads one value. The fuel is twice what the value has of tokens, or more. -/
def readNode : Nat → List Token → Option (Node × List Token)
  | 0, _ => none
  | _ + 1, [] => none
  | fuel + 1, token :: rest =>
    match token with
    | .null => some (.null, rest)
    | .bool value => some (.bool value, rest)
    | .number s => some (.number s, rest)
    | .string pieces => some (.string pieces, rest)
    | .openBracket =>
      match rest with
      | .closeBracket :: rest => some (.list [], rest)
      | _ => (readItems fuel rest).map fun read => (.list read.1, read.2)
    | .openBrace =>
      match rest with
      | .closeBrace :: rest => some (.map [], rest)
      | _ => (readFields fuel rest).map fun read => (.map read.1, read.2)
    | _ => none

/-- Items, up to the bracket that closes them. -/
def readItems : Nat → List Token → Option (List Node × List Token)
  | 0, _ => none
  | fuel + 1, input =>
    match readNode fuel input with
    | some (item, .closeBracket :: rest) => some ([item], rest)
    | some (item, .comma :: rest) =>
      (readItems fuel rest).map fun read => (item :: read.1, read.2)
    | _ => none

/-- Fields, up to the brace that closes them. -/
def readFields : Nat → List Token → Option (List (List Piece × Node) × List Token)
  | 0, _ => none
  | fuel + 1, .string key :: .colon :: input =>
    match readNode fuel input with
    | some (value, .closeBrace :: rest) => some ([(key, value)], rest)
    | some (value, .comma :: rest) =>
      (readFields fuel rest).map fun read => ((key, value) :: read.1, read.2)
    | _ => none
  | _ + 1, _ => none

end

/-- The value that tokens are those of. -/
def parse (tokens : List Token) : Option Node :=
  match readNode (2 * tokens.length) tokens with
  | some (node, []) => some node
  | _ => none

/-- A key that is set again keeps its place. -/
def setField (fields : Fields) (key : Text) (value : Document) : Fields :=
  if fields.any fun field => field.1 = key then
    fields.map fun field => if field.1 = key then (key, value) else field
  else fields ++ [(key, value)]

mutual

def Node.value : Node → Document
  | .null => .null
  | .bool value => .bool value
  | .number s => numeral s
  | .string pieces => .string (units pieces)
  | .list items => .list (itemValues items)
  | .map fields => .map (fieldValues [] fields)

def itemValues : List Node → List Document
  | [] => []
  | item :: rest => item.value :: itemValues rest

/-- The fields that are set one after the other. -/
def fieldValues (fields : Fields) : List (List Piece × Node) → Fields
  | [] => fields
  | (key, value) :: rest => fieldValues (setField fields (units key) value.value) rest

end

end JsonText

/-- `jsonDecode`, which throws for a text that is not one value. -/
def jsonDecode (s : Text) : Option Document :=
  (JsonText.lex (s.length + 1) s).bind fun tokens => (JsonText.parse tokens).map JsonText.Node.value

end Dart
