import Pokrov.Dart.DateParsing
import Pokrov.Dart.JsonWriting
import Pokrov.Lib.Results
import Pokrov.Observability.Event

/-!
# The marker of the previous exit

`crash_marker.dart`: one file that says how the last run ended, what is written into it, and
what `readPrevious` makes of its bytes. A marker is read back as it was written, if its
breadcrumbs are those of events and it has at most 64 KiB.
-/

namespace Pokrov.Observability

open Dart JsonText

/-! ## Breadcrumbs -/

/-- The fields of a breadcrumb that a marker has. -/
structure OperationalBreadcrumb where
  eventId : Text
  occurredAtUtc : DateTime
  name : Text
  outcome : ObservabilityOutcome
  errorCode : Option Text
  generation : Int
  sequence : Int

def OperationalBreadcrumb.fromEvent (event : OperationalEvent) : OperationalBreadcrumb where
  eventId := event.eventId
  occurredAtUtc := event.occurredAtUtc
  name := event.name
  outcome := event.outcome
  errorCode := event.error.map (·.code)
  generation := event.correlation.generation
  sequence := event.correlation.sequence

inductive PreviousExitKind
  | none | clean | unclean | crash | corrupt
deriving DecidableEq

structure PreviousExitReport where
  kind : PreviousExitKind
  runId : Text
  occurredAtUtc : Option DateTime
  errorCode : Option Text
  crashSignature : Option Text
  breadcrumbs : List OperationalBreadcrumb

def PreviousExitReport.absent : PreviousExitReport where
  kind := .none
  runId := []
  occurredAtUtc := none
  errorCode := none
  crashSignature := none
  breadcrumbs := []

/-- The settings of a store, and what of its surroundings it depends on: local times, numbers
with a fraction or an exponent that equal one, and what the privacy guard forbids. -/
structure PreviousExitMarkerStore where
  maximumBreadcrumbs : Nat
  maximum_pos : 1 ≤ maximumBreadcrumbs
  maximum_le : maximumBreadcrumbs ≤ 128
  parseLocal : Text → Option DateTime
  equalsOne : Text → Bool
  containsForbiddenMaterial : Text → Bool

namespace PreviousExitMarkerStore

variable (store : PreviousExitMarkerStore)

/-! ## Writing -/

/-- `_formatUtc`. -/
def formatUtc (value : DateTime) : Text :=
  let formatted := value.toIso8601String
  if formatted.getLast? = some (unit 'Z') then formatted else formatted ++ text "Z"

def optional : Option Text → Document
  | none => .null
  | some value => .string value

/-- `_breadcrumbJson`. -/
def breadcrumbJson (item : OperationalBreadcrumb) : Document :=
  .map [(text "event_id", .string item.eventId),
    (text "occurred_at_utc", .string (formatUtc item.occurredAtUtc)),
    (text "name", .string item.name),
    (text "outcome", .string (text item.outcome.wireValue)),
    (text "error_code", optional item.errorCode),
    (text "generation", .int item.generation),
    (text "sequence", .int item.sequence)]

/-- What is written of a run. -/
structure Marker where
  state : String
  runId : Text
  occurredAt : DateTime
  errorCode : Option Text
  crashSignature : Option Text
  breadcrumbs : List OperationalBreadcrumb

def Marker.json (marker : Marker) : Document :=
  .map [(text "schema_version", .int 1),
    (text "state", .string (text marker.state)),
    (text "run_id", .string marker.runId),
    (text "occurred_at_utc", .string (formatUtc marker.occurredAt)),
    (text "error_code", optional marker.errorCode),
    (text "crash_signature", optional marker.crashSignature),
    (text "breadcrumbs", .list (marker.breadcrumbs.map breadcrumbJson))]

def Marker.encoded (marker : Marker) : Text := jsonEncode marker.json

/-- The newest breadcrumbs, as many as a marker takes. -/
def retained (breadcrumbs : List OperationalBreadcrumb) : List OperationalBreadcrumb :=
  if breadcrumbs.length ≤ store.maximumBreadcrumbs then breadcrumbs
  else breadcrumbs.drop (breadcrumbs.length - store.maximumBreadcrumbs)

/-! ## Reading -/

def asString : Document → Option Text
  | .string value => some value
  | _ => none

def asInt : Document → Option Int
  | .int value => some value
  | _ => none

/-- A string that passes a test, or a null. -/
def asOptional (test : Text → Bool) : Document → Option (Option Text)
  | .null => some none
  | .string value => if test value then some (some value) else none
  | _ => none

/-- `DateTime.parse(value).toUtc()`. -/
def parseUtc (value : Text) : Option DateTime := DateTime.tryParseIn store.parseLocal value

/-- `^[0-9a-f]{16,64}$`. -/
def isSignature (s : Text) : Bool := decide (16 ≤ s.length ∧ s.length ≤ 64) && s.all isLowerHex

def outcomes : List ObservabilityOutcome :=
  [.started, .succeeded, .failed, .cancelled, .superseded, .degraded, .blocked, .observed,
    .notApplicable]

def isKnownCode (code : Text) : Bool := anyOf knownOperationalErrorCodes code

def breadcrumbFields : List String :=
  ["event_id", "occurred_at_utc", "name", "outcome", "error_code", "generation", "sequence"]

/-- The fields of a map with these keys and no others. -/
def fieldsOf (expected : List String) : Document → Option Fields
  | .map fields => if Fields.hasKeys fields expected then some fields else none
  | _ => none

/-- `_parseBreadcrumb`, where a null and an exception have the same end. -/
def parseBreadcrumb (value : Document) : Option OperationalBreadcrumb := do
  let fields ← fieldsOf breadcrumbFields value
  let eventId ← asString (fields.get "event_id")
  let occurredAt ← asString (fields.get "occurred_at_utc")
  let name ← asString (fields.get "name")
  let outcomeName ← asString (fields.get "outcome")
  let generation ← asInt (fields.get "generation")
  let sequence ← asInt (fields.get "sequence")
  guard (isUuid eventId = true)
  guard (isEventName name = true ∧ 0 ≤ generation ∧ 0 ≤ sequence ∧
    occurredAt.getLast? = some (unit 'Z'))
  let outcome ← outcomes.find? fun outcome => text outcome.wireValue = outcomeName
  let errorCode ← asOptional isKnownCode (fields.get "error_code")
  let occurredAtUtc ← store.parseUtc occurredAt
  return ⟨eventId, occurredAtUtc, name, outcome, errorCode, generation, sequence⟩

def kindOf (state : Text) : Option PreviousExitKind :=
  if state = text "clean" then some .clean
  else if state = text "active" then some .unclean
  else if state = text "crash" then some .crash
  else none

def markerFields : List String :=
  ["schema_version", "state", "run_id", "occurred_at_utc", "error_code", "crash_signature",
    "breadcrumbs"]

/-- `value == 1`. -/
def isOne : Document → Bool
  | .int value => value = 1
  | .double value => store.equalsOne value
  | _ => false

def asList : Document → Option (List Document)
  | .list items => some items
  | _ => none

/-- A crash has a code and a signature, another exit has neither. -/
def agrees (kind : PreviousExitKind) (errorCode signature : Option Text) : Bool :=
  if kind = .crash then
    errorCode.any (fun code => (text "CRASH-").isPrefixOf code) && signature.isSome
  else errorCode.isNone && signature.isNone

/-- The report of a file, if it is not corrupt. -/
def readMarker (bytes : List UInt8) : Option PreviousExitReport := do
  guard (bytes.length ≤ 64 * 1024)
  let decoded ← utf8Decode bytes >>= jsonDecode
  let fields ← fieldsOf markerFields decoded
  guard (store.isOne (fields.get "schema_version") = true)
  let state ← asString (fields.get "state")
  let runId ← asString (fields.get "run_id")
  let occurredAt ← asString (fields.get "occurred_at_utc")
  guard (isUuid runId = true)
  let timestamp ← store.parseUtc occurredAt
  let errorCode ← asOptional isKnownCode (fields.get "error_code")
  let signature ← asOptional isSignature (fields.get "crash_signature")
  let raw ← asList (fields.get "breadcrumbs")
  guard (raw.length ≤ store.maximumBreadcrumbs)
  let breadcrumbs ← raw.mapM store.parseBreadcrumb
  let kind ← kindOf state
  guard (agrees kind errorCode signature = true)
  return ⟨kind, runId, some timestamp, errorCode, signature, breadcrumbs⟩

/-- `_corruptReport`. -/
def corruptReport : PreviousExitReport where
  kind := .corrupt
  runId := []
  occurredAtUtc := none
  errorCode := some (text "APP-BOOT-008")
  crashSignature := none
  breadcrumbs := []

/-- `readPrevious`, of the file as it is. -/
def readPrevious : Option (List UInt8) → PreviousExitReport
  | none => .absent
  | some bytes => (store.readMarker bytes).getD corruptReport

/-! ## What is written is read back -/

theorem getLast?_toIso8601String (value : DateTime) :
    value.toIso8601String.getLast? = some (unit 'Z') := by
  rw [DateTime.toIso8601String]
  simp [text]
  decide

theorem formatUtc_eq (value : DateTime) : formatUtc value = value.toIso8601String := by
  rw [formatUtc, if_pos (getLast?_toIso8601String value)]

theorem parseUtc_formatUtc (value : DateTime) : store.parseUtc (formatUtc value) = some value := by
  rw [formatUtc_eq, parseUtc, DateTime.tryParseIn, DateTime.tryParseUtc_toIso8601String]
  rfl

theorem asOptional_optional {test : Text → Bool} {value : Option Text}
    (h : value.all test = true) : asOptional test (optional value) = some value := by
  cases value with
  | none => rfl
  | some value => simpa [optional, asOptional] using h

theorem find_outcome (outcome : ObservabilityOutcome) :
    outcomes.find? (fun other => text other.wireValue = text outcome.wireValue) = some outcome := by
  cases outcome <;> decide

/-- A breadcrumb of an event, with a sequence number of 64 bits. -/
def IsRecorded (item : OperationalBreadcrumb) : Prop :=
  (∃ event, item = .fromEvent event) ∧ item.sequence < 2 ^ 63

variable {item : OperationalBreadcrumb}

/-- What the constructors of an event have checked of its breadcrumb. -/
theorem IsRecorded.checked (h : IsRecorded item) :
    isUuid item.eventId = true ∧ isEventName item.name = true ∧
      item.errorCode.all isKnownCode = true ∧ 0 ≤ item.generation ∧ item.generation < 2 ^ 63 ∧
      0 ≤ item.sequence := by
  obtain ⟨⟨event, rfl⟩, -⟩ := h
  have hevent := event.accepted
  have hcorrelation := event.correlation.accepted
  simp only [OperationalEvent.Arguments.check, Results.bind_eq_ok] at hevent
  simp only [OperationalCorrelation.Arguments.check, Results.bind_eq_ok] at hcorrelation
  obtain ⟨_, heventId, _, _, _, _, _, _, _, hname, _⟩ := hevent
  obtain ⟨_, _, _, _, _, _, _, _, _, _, _, hgeneration, hsequence⟩ := hcorrelation
  have hgeneration := of_decide_eq_true (require_eq_ok.mp hgeneration)
  refine ⟨require_eq_ok.mp heventId, require_eq_ok.mp hname, ?_, hgeneration.1,
    Int.lt_of_le_of_lt hgeneration.2 (by decide), of_decide_eq_true (require_eq_ok.mp hsequence)⟩
  cases herror : event.error with
  | none => simp [OperationalBreadcrumb.fromEvent, herror]
  | some error => simpa [OperationalBreadcrumb.fromEvent, herror, isKnownCode] using error.known

theorem parseBreadcrumb_json (h : IsRecorded item) :
    store.parseBreadcrumb (breadcrumbJson item) = some item := by
  obtain ⟨huuid, hname, hcode, hgeneration, -, hsequence⟩ := h.checked
  have hlast : (formatUtc item.occurredAtUtc).getLast? = some (unit 'Z') := by
    rw [formatUtc_eq]
    exact getLast?_toIso8601String _
  have hcode' := asOptional_optional hcode
  have hoccurred := store.parseUtc_formatUtc item.occurredAtUtc
  have houtcome := find_outcome item.outcome
  have hfields : fieldsOf breadcrumbFields (breadcrumbJson item) =
      some [(text "event_id", .string item.eventId),
        (text "occurred_at_utc", .string (formatUtc item.occurredAtUtc)),
        (text "name", .string item.name),
        (text "outcome", .string (text item.outcome.wireValue)),
        (text "error_code", optional item.errorCode),
        (text "generation", .int item.generation),
        (text "sequence", .int item.sequence)] := rfl
  obtain ⟨fields, hfields', hget⟩ : ∃ fields : Fields,
      fieldsOf breadcrumbFields (breadcrumbJson item) = some fields ∧
      asString (fields.get "event_id") = some item.eventId ∧
      asString (fields.get "occurred_at_utc") = some (formatUtc item.occurredAtUtc) ∧
      asString (fields.get "name") = some item.name ∧
      asString (fields.get "outcome") = some (text item.outcome.wireValue) ∧
      fields.get "error_code" = optional item.errorCode ∧
      asInt (fields.get "generation") = some item.generation ∧
      asInt (fields.get "sequence") = some item.sequence :=
    ⟨_, hfields, rfl, rfl, rfl, rfl, rfl, rfl, rfl⟩
  obtain ⟨h1, h2, h3, h4, h5, h6, h7⟩ := hget
  simp only [parseBreadcrumb, Option.bind_eq_bind, Option.bind_some, Option.pure_def, guard_true,
    hfields', h1, h2, h3, h4, h5, h6, h7, huuid, hname, hgeneration, hsequence, hlast, houtcome,
    hcode', hoccurred, and_self]

/-! ### Markers -/

theorem writable_optional (value : Option Text) : Writable (optional value) := by
  cases value <;> exact trivial

theorem writable_breadcrumbJson (h : IsRecorded item) : Writable (breadcrumbJson item) := by
  obtain ⟨-, -, -, hgeneration, hgeneration', hsequence⟩ := h.checked
  have hsequence' := h.2
  have hkeys : (breadcrumbFields.map text).Nodup := by decide
  exact ⟨hkeys, trivial, trivial, trivial, trivial, writable_optional _, ⟨by omega, hgeneration'⟩,
    ⟨by omega, hsequence'⟩, trivial⟩

/-- A marker that `readPrevious` accepts as far as its kind. -/
structure Marker.IsSound (marker : Marker) (kind : PreviousExitKind) : Prop where
  kind_eq : kindOf (text marker.state) = some kind
  run : isUuid marker.runId = true
  code : marker.errorCode.all isKnownCode = true
  signature : marker.crashSignature.all isSignature = true
  agrees : agrees kind marker.errorCode marker.crashSignature = true
  recorded : ∀ item ∈ marker.breadcrumbs, IsRecorded item

variable {store} {marker : Marker} {kind : PreviousExitKind}

theorem Marker.IsSound.writable (h : marker.IsSound kind) : Writable marker.json := by
  have hkeys : (markerFields.map text).Nodup := by decide
  refine ⟨hkeys, ⟨by decide, by decide⟩, trivial, trivial, trivial, writable_optional _,
    writable_optional _, writableItems_iff.mpr ?_, trivial⟩
  intro item hitem
  obtain ⟨breadcrumb, hbreadcrumb, rfl⟩ := List.mem_map.mp hitem
  exact writable_breadcrumbJson (h.recorded breadcrumb hbreadcrumb)

theorem mapM_parseBreadcrumb (store : PreviousExitMarkerStore) {items : List OperationalBreadcrumb}
    (h : ∀ item ∈ items, IsRecorded item) :
    (items.map breadcrumbJson).mapM store.parseBreadcrumb = some items := by
  induction items with
  | nil => rfl
  | cons item rest ih =>
    have hrest := ih fun other hother => h other (List.mem_cons_of_mem _ hother)
    simp [parseBreadcrumb_json store (h item List.mem_cons_self), hrest]

/-- What was written is read back. -/
theorem Marker.IsSound.readMarker (h : marker.IsSound kind)
    (hlength : marker.breadcrumbs.length ≤ store.maximumBreadcrumbs)
    (hsize : (utf8Encode marker.encoded).length ≤ 64 * 1024) :
    store.readMarker (utf8Encode marker.encoded) = some ⟨kind, marker.runId, some marker.occurredAt,
      marker.errorCode, marker.crashSignature, marker.breadcrumbs⟩ := by
  have hdecoded : utf8Decode (utf8Encode marker.encoded) >>= jsonDecode = some marker.json := by
    rw [Marker.encoded, utf8Decode_jsonEncode h.writable, Option.bind_eq_bind, Option.bind_some,
      jsonDecode_jsonEncode h.writable]
  obtain ⟨fields, hfields, hget⟩ : ∃ fields : Fields,
      fieldsOf markerFields marker.json = some fields ∧
      fields.get "schema_version" = .int 1 ∧
      asString (fields.get "state") = some (text marker.state) ∧
      asString (fields.get "run_id") = some marker.runId ∧
      asString (fields.get "occurred_at_utc") = some (formatUtc marker.occurredAt) ∧
      fields.get "error_code" = optional marker.errorCode ∧
      fields.get "crash_signature" = optional marker.crashSignature ∧
      asList (fields.get "breadcrumbs") = some (marker.breadcrumbs.map breadcrumbJson) :=
    ⟨_, rfl, rfl, rfl, rfl, rfl, rfl, rfl, rfl⟩
  obtain ⟨h1, h2, h3, h4, h5, h6, h7⟩ := hget
  have hcode := asOptional_optional h.code
  have hsignature := asOptional_optional h.signature
  have hoccurred := store.parseUtc_formatUtc marker.occurredAt
  have hbreadcrumbs := mapM_parseBreadcrumb store h.recorded
  simp only [PreviousExitMarkerStore.readMarker, Option.bind_eq_bind, Option.bind_some,
    Option.pure_def, guard_true, hsize, hdecoded, hfields, h1, h2, h3, h4, h5, h6, h7, isOne,
    decide_true, List.length_map, h.run, hcode, hsignature, hoccurred, hlength, hbreadcrumbs,
    h.kind_eq, h.agrees]

end PreviousExitMarkerStore

end Pokrov.Observability
