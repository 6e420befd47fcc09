import Pokrov.Dart.DateParsing
import Pokrov.Dart.Parsing
import Pokrov.Lib.BitGroups

/-!
# The support diagnostic code

The code that a user reads out to the support. It packs the platform, the route mode, the
connection state, the day, the version and the first digits of the diagnostic id into
bytes, adds a checksum, and writes five bits a symbol. There are three layouts, and the
digit behind `PSD` says which one it is. `toUpperCase` of Dart is a parameter.
-/

namespace Pokrov.SupportBundle

open Dart

/-- What is thrown: `SupportBundleFailure`, or the error of a `DateTime` out of its bounds. -/
inductive Thrown
  | supportBundleFailure (code : Text)
  | dateOutOfRange
deriving DecidableEq

structure SupportDiagnosticCodeFacts where
  platform : Text
  routeMode : Text
  connectionState : Text
  appVersion : Text
  buildNumber : Nat
  diagnosticHashPrefix : Text
  issuedOn : DateTime
  expiresOn : DateTime
  expired : Bool

namespace SupportDiagnosticCode

def alphabet : Text := text "0123456789ABCDEFGHJKMNPQRSTVWXYZ"

def platforms : List Text := [text "android", text "windows"]

def routeModes : List Text :=
  [text "full_tunnel", text "all_except_ru", text "selected_apps", text "excluded_apps",
    text "selective_services"]

def connectionStates : List Text :=
  [text "disconnected", text "connecting", text "verified", text "degraded", text "blocked"]

def invalid {α : Type} : Except Thrown α :=
  .error (.supportBundleFailure (text "support_diagnostic_code_invalid"))

/-! ## Days -/

theorem epoch_bounds : -maxMicroseconds ≤ 1577836800000000 ∧ 1577836800000000 ≤ maxMicroseconds := by
  decide

/-- `DateTime.utc(2020)`. -/
def epoch : DateTime := ⟨1577836800000000, epoch_bounds.1, epoch_bounds.2⟩

def microsecondsPerDay : Int := 86400000000

/-- `DateTime.utc` of the year, the month and the day in UTC. -/
def utcDate (d : DateTime) : Option DateTime :=
  DateTime.ofParts d.date.year d.date.month.toNat d.date.day.toNat 0 0 0 0

/-! ## Symbols -/

/-- `_encodeCrockford`. -/
def encodeCrockford (bytes : List Nat) : Text :=
  ((BitGroups.regroup 8 5 bytes).padded 5).map fun digit => alphabet.getD digit 0

/-- `_decodeCrockford`. -/
def decodeCrockford (value : Text) : Option (List Nat) :=
  match value.mapM fun char => alphabet.idxOf? char with
  | none => none
  | some digits =>
    let pending := BitGroups.regroup 5 8 digits
    if pending.bits ≠ 0 ∧ pending.accumulator ≠ 0 then none else some pending.output

/-- One turn of the inner loop of `_crc8`. -/
def crcShift (crc : Nat) : Nat :=
  if crc &&& 0x80 ≠ 0 then ((crc <<< 1) ^^^ 0x07) &&& 0xff else (crc <<< 1) &&& 0xff

/-- `_crc8`. -/
def crc8 (bytes : List Nat) : Nat := bytes.foldl (fun crc byte => crcShift^[8] (crc ^^^ byte)) 0

/-! ## Encoding -/

/-- `^diag-([0-9a-f]{24})$`, and what is in its group. -/
def matchDiagnosticId (diagnosticId : Text) : Option Text :=
  let hash := diagnosticId.drop 5
  if (text "diag-").isPrefixOf diagnosticId ∧ hash.length = 24 ∧ hash.all isLowerHex then some hash
  else none

/-- `\d+`. -/
def isDigits (s : Text) : Bool := s ≠ [] && s.all isDigit

/-- `^(\d+)\.(\d+)\.(\d+)\+(\d+)$`, and what is in its groups. -/
def matchVersion (appVersion : Text) : Option (List Text × Text) :=
  match appVersion.splitOn (unit '+') with
  | [front, build] =>
    match front.splitOn (unit '.') with
    | [major, minor, patch] =>
      if isDigits major ∧ isDigits minor ∧ isDigits patch ∧ isDigits build then
        some ([major, minor, patch], build)
      else none
    | _ => none
  | _ => none

/-- `int.parse` with radix 16 of the two digits from an index on. -/
def hexByte (hash : Text) (start : Nat) : Nat :=
  ((hash.drop start).take 2).foldl (fun n u => n * 16 + (JsonText.hexValue u).getD 0) 0

/-- The bytes but for the checksum. -/
def rawBytes (platformIndex routeIndex stateIndex days : Nat) (versionParts : List Nat)
    (buildNumber : Nat) (hash : Text) (selective legacy : Bool) : List Nat :=
  [if selective then 0x80 ||| platformIndex <<< 6 ||| routeIndex <<< 3 ||| stateIndex
    else platformIndex <<< 5 ||| routeIndex <<< 3 ||| stateIndex,
    (days >>> 8) &&& 0xff, days &&& 0xff] ++ versionParts ++
    (if legacy then [buildNumber]
      else [(buildNumber >>> 24) &&& 0xff, (buildNumber >>> 16) &&& 0xff,
        (buildNumber >>> 8) &&& 0xff, buildNumber &&& 0xff]) ++
    [hexByte hash 0, hexByte hash 2]

/-- The symbols of the body in groups behind the name of the layout. -/
def write (body : Text) (selective legacy : Bool) : Text :=
  let slice (first last : Nat) : Text := (body.drop first).take (last - first)
  if legacy then
    text "PSD1-" ++ slice 0 4 ++ text "-" ++ slice 4 8 ++ text "-" ++ slice 8 12 ++ text "-" ++
      slice 12 16
  else
    (if selective then text "PSD3" else text "PSD2") ++ text "-" ++ slice 0 4 ++ text "-" ++
      slice 4 8 ++ text "-" ++ slice 8 12 ++ text "-" ++ slice 12 16 ++ text "-" ++ slice 16 21

/-- What `encode` does once all that it packs is in its range. -/
def pack (platformIndex routeIndex stateIndex days : Nat) (versionParts : List Nat)
    (buildNumber : Nat) (hash : Text) (selective : Bool) : Text :=
  let legacy := !selective && decide (buildNumber ≤ 0xff)
  let raw := rawBytes platformIndex routeIndex stateIndex days versionParts buildNumber hash
    selective legacy
  write (encodeCrockford (raw ++ [crc8 raw])) selective legacy

def encode (diagnosticId platform routeMode connectionState appVersion : Text)
    (generatedAt : DateTime) : Except Thrown Text :=
  match matchDiagnosticId diagnosticId, matchVersion appVersion, platforms.idxOf? platform,
      routeModes.idxOf? routeMode, connectionStates.idxOf? connectionState with
  | some hash, some (groups, build), some platformIndex, some routeIndex, some stateIndex =>
    let versionParts := groups.map fun group => (intTryParse group).getD (-1)
    let buildNumber := (intTryParse build).getD (-1)
    if versionParts.any (fun value => value < 0 || 255 < value) || buildNumber < 0 ||
        0x7fffffff < buildNumber then invalid
    else
      match utcDate generatedAt with
      | none => .error .dateOutOfRange
      | some issued =>
        let days := (issued.micros - epoch.micros).tdiv microsecondsPerDay
        if days < 0 ∨ 0xffff < days then invalid
        else
          .ok (pack platformIndex routeIndex stateIndex days.toNat (versionParts.map Int.toNat)
            buildNumber.toNat hash (routeMode = text "selective_services"))
  | _, _, _, _, _ => invalid

/-! ## Decoding -/

/-- `replaceAll(RegExp(r'[\s-]+'), '')`. -/
def strip (value : Text) : Text := value.filter fun u => !(isPatternSpace u || u = unit '-')

/-- The name of a layout and so many symbols of the alphabet. -/
def hasShape (name : Text) (count : Nat) (rawCode : Text) : Bool :=
  name.isPrefixOf rawCode && (rawCode.drop 4).length = count &&
    (rawCode.drop 4).all alphabet.contains

/-- `toRadixString(16).padLeft(2, '0')`. -/
def hexText (n : Nat) : Text :=
  let digits := (Nat.toDigits 16 n).map unit
  List.replicate (2 - digits.length) (unit '0') ++ digits

/-- What `decode` does with the bytes. -/
def unpack (packed : List Nat) (legacy selective : Bool) (now : DateTime) :
    Except Thrown SupportDiagnosticCodeFacts :=
  let byte (i : Nat) : Nat := packed.getD i 0
  let expectedLength := if legacy then 10 else 13
  if packed.length ≠ expectedLength ∨
      crc8 (packed.take (expectedLength - 1)) ≠ byte (expectedLength - 1) then invalid
  else
    let facts := byte 0
    let platformIndex := (facts >>> if selective then 6 else 5) &&& 1
    let routeIndex := (facts >>> 3) &&& if selective then 7 else 3
    let stateIndex := facts &&& 7
    let invalidFormat :=
      if selective then facts &&& 0x80 = 0 ∨ routeIndex ≠ 4 else facts &&& 0xc0 ≠ 0
    if invalidFormat ∨ connectionStates.length ≤ stateIndex then invalid
    else
      match epoch.add (microsecondsPerDay * (byte 1 <<< 8 ||| byte 2 : Nat)) with
      | none => .error .dateOutOfRange
      | some issuedOn =>
        match issuedOn.add (microsecondsPerDay * 14), utcDate now with
        | some expiresOn, some current =>
          let buildNumber :=
            if legacy then byte 6
            else byte 6 <<< 24 ||| byte 7 <<< 16 ||| byte 8 <<< 8 ||| byte 9
          let hashIndex := if legacy then 7 else 10
          if 0x7fffffff < buildNumber then invalid
          else
            .ok {
              platform := platforms.getD platformIndex []
              routeMode := routeModes.getD routeIndex []
              connectionState := connectionStates.getD stateIndex []
              appVersion := JsonText.decimal (byte 3) ++ text "." ++ JsonText.decimal (byte 4) ++
                text "." ++ JsonText.decimal (byte 5)
              buildNumber
              diagnosticHashPrefix := hexText (byte hashIndex) ++ hexText (byte (hashIndex + 1))
              issuedOn, expiresOn
              expired := current.isAfter expiresOn }
        | _, _ => .error .dateOutOfRange

def decode (toUpperCase : Text → Text) (value : Text) (now : DateTime) :
    Except Thrown SupportDiagnosticCodeFacts :=
  let rawCode := strip (toUpperCase value)
  let legacy := hasShape (text "PSD1") 16 rawCode
  let extended := hasShape (text "PSD2") 21 rawCode
  let selective := hasShape (text "PSD3") 21 rawCode
  if !legacy && !extended && !selective then invalid
  else
    match decodeCrockford (rawCode.drop 4) with
    | none => invalid
    | some packed => unpack packed legacy selective now

end SupportDiagnosticCode

end Pokrov.SupportBundle
