import Pokrov.AppShell.TransportManifestTime
import Pokrov.AppShell.TransportManifestVerifier

/-!
# The record of the transport manifest store

The one record that `transport_manifest_store.dart` keeps for a key: how it is
read, what a window of time is held against it, and what takes its place.
-/

namespace Pokrov.AppShell

open Dart

/-- A text that is stored, as its reader takes it: its length, its length in
UTF-8, and what `jsonDecode` makes of it. -/
structure StoredText where
  length : Nat
  bytes : Nat
  decoded : Option Document

def maximumRecordBytes : Nat := 3 * 1024 * 1024

/-- The text of a value, `jsonEncode` of it. -/
def StoredText.of (value : Document) : StoredText :=
  ⟨(jsonEncode value).length, utf8Length (jsonEncode value), some value⟩

/-- A map that `_load` returns. The fields of a clock make it version 2. -/
structure ManifestRecord where
  floor : Document
  manifest : Document
  rollback : Document
  lastObservedAt : Document
  clock : Option (Document × Document)

namespace ManifestRecord

def toDocument (value : ManifestRecord) : Document :=
  match value.clock with
  | none =>
    .map [(text "version", .int 1), (text "manifest", value.manifest),
      (text "rollback", value.rollback), (text "floor", value.floor),
      (text "last_observed_at", value.lastObservedAt)]
  | some (anchor, elapsed) =>
    .map [(text "version", .int 2), (text "manifest", value.manifest),
      (text "rollback", value.rollback), (text "floor", value.floor),
      (text "last_observed_at", value.lastObservedAt), (text "clock_anchor", anchor),
      (text "last_elapsed_ms", elapsed)]

/-- The fields of a map of version 1 or 2. -/
def ofDocument : Document → Option ManifestRecord
  | .map fields =>
    let value (clock : Option (Document × Document)) : ManifestRecord :=
      { floor := Fields.get fields "floor"
        manifest := Fields.get fields "manifest"
        rollback := Fields.get fields "rollback"
        lastObservedAt := Fields.get fields "last_observed_at"
        clock }
    match Fields.get fields "version" with
    | .int 1 =>
      if Fields.hasKeys fields ["version", "floor", "manifest", "rollback", "last_observed_at"] then
        some (value none)
      else none
    | .int 2 =>
      if Fields.hasKeys fields ["version", "floor", "manifest", "rollback", "last_observed_at",
          "clock_anchor", "last_elapsed_ms"] then
        some (value (some (Fields.get fields "clock_anchor", Fields.get fields "last_elapsed_ms")))
      else none
    | _ => none
  | _ => none

/-- A manifest or none, and no authorization without a manifest. -/
def shaped (value : ManifestRecord) : Bool :=
  (value.manifest.isNull || value.manifest.isMap) && (value.rollback.isNull || value.rollback.isMap) &&
    !(value.manifest.isNull && !value.rollback.isNull)

/-- The clock of version 2 against the time that was observed last. -/
def clockAccepted (observed : DateTime) : Option (Document × Document) → Bool
  | none => true
  | some (anchor, elapsed) =>
    match TransportTimeAnchor.fromRecord anchor, elapsed with
    | .ok anchor, .int elapsed =>
      decide ((anchor.receivedElapsedMs : Int) ≤ elapsed ∧ elapsed ≤ maximumElapsedMs) &&
        !observed.isBefore anchor.latestAtReceipt
    | _, _ => false

/-- The time that was observed last. -/
def observedAt (value : ManifestRecord) : Option DateTime :=
  TransportTimeAnchor.storedTime value.lastObservedAt

/-- What `_load` asks of a record. -/
def accepted (audience : Text) (value : ManifestRecord) : Bool :=
  value.shaped &&
    match validateFloor audience value.floor, value.observedAt with
    | .ok floor, some observed =>
      match time (.string floor.lastObservedAt) with
      | .ok floorTime => !observed.isBefore floorTime && clockAccepted observed value.clock
      | .error _ => false
    | _, _ => false

end ManifestRecord

/-- `_load` of what the storage has. An unreadable record is never reset. -/
def loadRecord (audience : Text) : Option StoredText → Try (Option ManifestRecord)
  | none => .ok none
  | some raw =>
    if maximumRecordBytes < raw.length ∨ maximumRecordBytes < raw.bytes then
      throwTransport "transport_cache_invalid"
    else
      match raw.decoded.bind ManifestRecord.ofDocument with
      | none => throwTransport "transport_cache_invalid"
      | some value =>
        if value.accepted audience then .ok (some value)
        else throwTransport "transport_cache_invalid"

/-! ## Windows -/

/-- `_anchor`. -/
def anchorOf (value : ManifestRecord) : Try TransportTimeAnchor :=
  match value.clock with
  | none => throwTransport "transport_clock_anchor_required"
  | some (anchor, _) => TransportTimeAnchor.fromRecord anchor

/-- The same boot as the record's, at an earlier moment of it. -/
def elapsedBack (value : ManifestRecord) (sample : RuntimeBootClockSnapshot) : Try Bool :=
  match value.clock with
  | none => .ok false
  | some (_, elapsed) => do
      let anchor ← anchorOf value
      match elapsed with
      | .int elapsed =>
        return decide (anchor.bootRef = sample.bootRef ∧ (sample.elapsedMilliseconds : Int) < elapsed)
      | _ => .error .other

/-- `_window` of a sample. -/
def windowOf (anchor : TransportTimeAnchor) (prior : Option ManifestRecord)
    (deadline : Option TransportClockDeadline) (sample : RuntimeBootClockSnapshot) :
    Try TransportTimeWindow := do
  match deadline with
  | none => pure ()
  | some deadline => deadline.requireCurrent sample
  let window ← anchor.window sample
  match prior with
  | none => return window
  | some prior =>
    match prior.observedAt with
    | none => .error .other
    | some last =>
      if window.latest.isBefore last then throwTransport "transport_clock_rollback"
      else if ← elapsedBack prior sample then throwTransport "transport_clock_rollback"
      else return window

/-- `_requireLive`. -/
def requireLive (window : TransportTimeWindow) (expires : DateTime) : Try Unit :=
  if window.latest.isBefore expires then .ok () else throwTransport "transport_document_not_current"

/-- What `_observe` writes for a window. -/
def observed (audience : Text) (value : ManifestRecord) (now : TransportTimeWindow) :
    Try ManifestRecord := do
  let floor ← validateFloor audience value.floor
  return { value with
    floor := Floor.toDocument audience { floor with lastObservedAt := floorTime now.latest }
    lastObservedAt := .string now.latest.toIso8601String
    clock := value.clock.map fun (anchor, _) => (anchor, .int now.sample.elapsedMilliseconds) }

/-- What `discardEnvelopes` writes. -/
def discarded (value : ManifestRecord) : ManifestRecord :=
  { value with manifest := .null, rollback := .null }

/-- What `_accept` writes. -/
def committed (audience : Text) (result : TransportAdmission) (anchor : TransportTimeAnchor)
    (commitTime : TransportTimeWindow) : ManifestRecord where
  floor := Floor.toDocument audience
    { result.nextFloor with lastObservedAt := floorTime commitTime.latest }
  manifest := .map result.manifest
  rollback := (result.rollback.map Document.map).getD .null
  lastObservedAt := .string commitTime.latest.toIso8601String
  clock := some (anchor.toRecord, .int commitTime.sample.elapsedMilliseconds)

end Pokrov.AppShell
