import Mathlib.Data.List.Sort
import Pokrov.Dart.DateTime
import Pokrov.Dart.Document

/-!
# Signed documents

What the contracts of the routing catalog and of the transport manifest share in
`routing_catalog_contract.dart`: the shape of a document, revisions, times and
the canonical text that is signed.
-/

namespace Pokrov.AppShell

open Dart

/-- What is thrown: the failures of the contracts, by their codes, and anything
else. -/
inductive Failure
  | transport (code : String)
  | catalog (code : String)
  | other
deriving DecidableEq

abbrev Try (α : Type) := Except Failure α

def throwCatalog {α : Type} (code : String) : Try α := .error (.catalog code)

def maximumRevision : Int := 9007199254740991

/-- `_keys`. -/
def keys (value : Fields) (expected : List String) : Try Unit :=
  if value.hasKeys expected then .ok () else throwCatalog "catalog_shape_invalid"

/-- `_revision`. -/
def revision : Document → Try Int
  | .int value =>
    if value < 1 ∨ maximumRevision < value then throwCatalog "catalog_revision_invalid"
    else .ok value
  | _ => throwCatalog "catalog_revision_invalid"

/-! ## Times -/

/-- A text with digits where the pattern has a `0`. -/
def matchesPattern (pattern : String) (s : Text) : Bool :=
  s.length = pattern.toList.length &&
    (List.zipWith (fun c u => if c = '0' then isDigit u else u = unit c) pattern.toList s).all id

/-- `value.replaceFirst('Z', '.000Z')` of a text that ends in its only `Z`. -/
def withMilliseconds (value : Text) : Text := value.takeWhile (· ≠ unit 'Z') ++ text ".000Z"

/-- `_time`. -/
def time : Document → Try DateTime
  | .string value =>
    if matchesPattern "0000-00-00T00:00:00Z" value then
      match DateTime.tryParse value with
      | none => .error .other
      | some parsed =>
        if parsed.year < 1 ∨ parsed.toIso8601String ≠ withMilliseconds value then
          throwCatalog "catalog_time_invalid"
        else .ok parsed
    else throwCatalog "catalog_time_invalid"
  | _ => throwCatalog "catalog_time_invalid"

/-! ## Shape -/

/-- `value.abs()`: the least integer of 64 bits is its own opposite. -/
def intAbs (value : Int) : Int := if value = -2 ^ 63 then value else value.natAbs

def isFieldName (key : Text) : Bool :=
  !key.isEmpty && key.all fun u => isLower u || isDigit u || u = unit '_'

mutual

/-- Why `_freeze` refuses a value at a depth. -/
def refusal (depth : Nat) : Document → Option String
  | .null => if 32 < depth then some "catalog_nesting_invalid" else none
  | .bool _ => if 32 < depth then some "catalog_nesting_invalid" else none
  | .string _ => if 32 < depth then some "catalog_nesting_invalid" else none
  | .int value =>
    if 32 < depth then some "catalog_nesting_invalid"
    else if maximumRevision < intAbs value then some "catalog_value_invalid"
    else none
  | .double _ =>
    if 32 < depth then some "catalog_nesting_invalid" else some "catalog_value_invalid"
  | .list items =>
    if 32 < depth then some "catalog_nesting_invalid" else refusalItems (depth + 1) items
  | .map fields =>
    if 32 < depth then some "catalog_nesting_invalid"
    else if (Fields.keys fields).any fun key => !isFieldName key then some "catalog_field_invalid"
    else refusalFields (depth + 1) fields

def refusalItems (depth : Nat) : List Document → Option String
  | [] => none
  | item :: rest => refusal depth item <|> refusalItems depth rest

def refusalFields (depth : Nat) : Fields → Option String
  | [] => none
  | (_, value) :: rest => refusal depth value <|> refusalFields depth rest

end

/-- `_freeze` of a whole value: a copy that nobody else can change. -/
def freeze (value : Document) : Try Document :=
  match refusal 0 value with
  | none => .ok value
  | some code => throwCatalog code

/-! ## Canonical text -/

/-- Everything outside ASCII is escaped. -/
def escapeAll (s : Text) : Text := s.flatMap fun u => if 0x7f ≤ u then escapeUnit u else [u]

/-- Pieces with commas between them. -/
def joinCommas (pieces : List Text) : Text := List.intercalate [unit ','] pieces

mutual

/-- `_canonical`. -/
def canonical : Document → Text
  | .map fields =>
    unit '\x7b' :: (joinCommas (((canonicalFields fields).insertionSort
      fun a b => a.1 ≤ b.1).map Prod.snd) ++ [unit '\x7d'])
  | .list items => unit '[' :: (joinCommas (canonicalItems items) ++ [unit ']'])
  | .null => escapeAll (jsonEncode .null)
  | .bool value => escapeAll (jsonEncode (.bool value))
  | .int value => escapeAll (jsonEncode (.int value))
  | .double value => escapeAll (jsonEncode (.double value))
  | .string value => escapeAll (jsonEncode (.string value))

def canonicalItems : List Document → List Text
  | [] => []
  | item :: rest => canonical item :: canonicalItems rest

/-- The fields as texts, each with its key. -/
def canonicalFields : Fields → List (Text × Text)
  | [] => []
  | (key, value) :: rest =>
    (key, escapeAll (encodeString key) ++ unit ':' :: canonical value) :: canonicalFields rest

end

end Pokrov.AppShell
