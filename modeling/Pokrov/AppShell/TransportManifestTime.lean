import Pokrov.AppShell.TransportContract

/-!
# Trusted time

`transport_manifest_time.dart`: windows of server time that a sample of the boot
clock stands for, by an anchor from an exchange with the server.
-/

namespace Pokrov.AppShell

open Dart

/-- Four digits of a UUID group, and so on. -/
def isUuid (s : Text) : Bool :=
  match pieces (unit '-') s with
  | [a, b, c, d, e] =>
    [a, b, c, d, e].all (fun piece => piece.all isLowerHex) &&
      decide ([a, b, c, d, e].map List.length = [8, 4, 4, 4, 12])
  | _ => false

/-- What follows a text that it starts with. -/
def after (start : String) (s : Text) : Option Text :=
  if (text start).isPrefixOf s then some (s.drop start.length) else none

/-- The boot references of the platforms. -/
def isBootRef (s : Text) : Bool :=
  ((after "android:" s).any fun rest =>
      decide (1 ≤ rest.length ∧ rest.length ≤ 10) && rest.all isDigit) ||
    ((after "windows:" s).any fun rest => decide (rest.length = 32) && rest.all isLowerHex) ||
    ["linux:", "ios:", "macos:"].any fun platform => (after platform s).any isUuid

/-- The largest number of milliseconds in a sample or a record. -/
def maximumElapsedMs : Nat := 9007199254740991

/-- `RuntimeBootClockSnapshot.fromWire` makes no other. -/
structure RuntimeBootClockSnapshot where
  bootRef : Text
  elapsedMilliseconds : Nat
  bootRef_valid : isBootRef bootRef = true
  elapsed_le : elapsedMilliseconds ≤ maximumElapsedMs

structure TransportTimeWindow where
  earliest : DateTime
  latest : DateTime
  sample : RuntimeBootClockSnapshot

/-! ## Deadlines -/

structure TransportClockDeadline where
  bootRef : Text
  startedElapsedMs : Nat
  expiresElapsedMs : Int

namespace TransportClockDeadline

/-- The constructor, on milliseconds that remain. -/
def new (start : RuntimeBootClockSnapshot) (remaining : Int) : Try TransportClockDeadline :=
  if remaining ≤ 1 then throwTransport "transport_budget_exhausted"
  else .ok ⟨start.bootRef, start.elapsedMilliseconds, start.elapsedMilliseconds + remaining - 1⟩

def requireCurrent (deadline : TransportClockDeadline) (sample : RuntimeBootClockSnapshot) : Try Unit :=
  if sample.bootRef ≠ deadline.bootRef ∨ sample.elapsedMilliseconds < deadline.startedElapsedMs ∨
      deadline.expiresElapsedMs ≤ sample.elapsedMilliseconds then
    throwTransport "transport_budget_exhausted"
  else .ok ()

end TransportClockDeadline

/-! ## Anchors -/

/-- No other anchor is made by `fromOnline` or `fromRecord`. -/
structure TransportTimeAnchor where
  bootRef : Text
  receivedElapsedMs : Nat
  earliestAtReceipt : DateTime
  latestAtReceipt : DateTime
  bootRef_valid : isBootRef bootRef = true
  received_le : receivedElapsedMs ≤ maximumElapsedMs
  earliest_le : earliestAtReceipt.micros ≤ latestAtReceipt.micros

namespace TransportTimeAnchor

/-- `Duration(milliseconds: …)` in microseconds. -/
def milliseconds (n : Int) : Int := 1000 * n

/-- From an exchange. A sum that wraps around is no time of a server. -/
def fromOnline (observedAt : DateTime) (sent received : RuntimeBootClockSnapshot) :
    Try TransportTimeAnchor :=
  if sent.bootRef ≠ received.bootRef ∨ received.elapsedMilliseconds < sent.elapsedMilliseconds then
    throwTransport "transport_clock_context_changed"
  else
    match observedAt.add (milliseconds
      (1000 + (received.elapsedMilliseconds - sent.elapsedMilliseconds) + 2)) with
    | none => .error .other
    | some latest =>
      if h : observedAt.micros ≤ latest.micros then
        .ok ⟨received.bootRef, received.elapsedMilliseconds, observedAt, latest,
          received.bootRef_valid, received.elapsed_le, h⟩
      else .error .other

/-- A time whose text is the one that is stored. -/
def storedTime : Document → Option DateTime
  | .string value => (DateTime.tryParse value).filter fun parsed => parsed.toIso8601String = value
  | _ => none

def clockRecordInvalid {α : Type} : Try α := throwTransport "transport_clock_record_invalid"

def fromRecord : Document → Try TransportTimeAnchor
  | .map input =>
    match Fields.get input "boot_ref", Fields.get input "received_elapsed_ms",
        storedTime (Fields.get input "earliest_at_receipt"),
        storedTime (Fields.get input "latest_at_receipt") with
    | .string bootRef, .int elapsed, some earliest, some latest =>
      if input.length ≠ 4 then clockRecordInvalid
      else if h : 0 ≤ elapsed ∧ elapsed.toNat ≤ maximumElapsedMs ∧ isBootRef bootRef = true ∧
          earliest.micros ≤ latest.micros then
        .ok ⟨bootRef, elapsed.toNat, earliest, latest, h.2.2.1, h.2.1, h.2.2.2⟩
      else clockRecordInvalid
    | _, _, _, _ => clockRecordInvalid
  | _ => clockRecordInvalid

def toRecord (anchor : TransportTimeAnchor) : Document :=
  .map [(text "boot_ref", .string anchor.bootRef),
    (text "received_elapsed_ms", .int anchor.receivedElapsedMs),
    (text "earliest_at_receipt", .string anchor.earliestAtReceipt.toIso8601String),
    (text "latest_at_receipt", .string anchor.latestAtReceipt.toIso8601String)]

/-- `at`. A time out of bounds is no time. -/
def window (anchor : TransportTimeAnchor) (sample : RuntimeBootClockSnapshot) :
    Try TransportTimeWindow :=
  if sample.bootRef ≠ anchor.bootRef ∨ sample.elapsedMilliseconds < anchor.receivedElapsedMs then
    throwTransport "transport_clock_context_changed"
  else
    let elapsed := sample.elapsedMilliseconds - anchor.receivedElapsedMs
    match anchor.earliestAtReceipt.add (milliseconds (if 0 < elapsed then elapsed - 1 else 0 : Nat)),
        anchor.latestAtReceipt.add (milliseconds (elapsed + 1 : Nat)) with
    | some earliest, some latest => .ok ⟨earliest, latest, sample⟩
    | _, _ => .error .other

end TransportTimeAnchor

end Pokrov.AppShell
