import Pokrov.Dart.DateParsing
import Pokrov.Dart.Parsing
import Pokrov.Dart.Utf8Decoding
import Pokrov.Observability.Event

/-!
# Legacy journals

`legacy.dart`: the lines of the old runtime journal and of the journal of the Windows service
are translated to operational events. A line is malformed, or it is skipped, or it says what
event to make; the constructors of the event may still throw.
-/

namespace Pokrov.Observability

open Dart

structure LegacyTranslationContext where
  build : OperationalBuildIdentity
  traceId : Text
  runId : Option Text
  attemptId : Option Text
  generation : Int
  firstSequence : Int
  eventIdFactory : Int → Text

/-- SHA-256 in hexadecimal digits, and what a text without a time zone stands for. -/
structure LegacySurroundings where
  sha256 : List UInt8 → Text
  sha256_length : ∀ bytes, (sha256 bytes).length = 64
  sha256_hex : ∀ bytes, (sha256 bytes).all isLowerHex = true
  parseLocal : Text → Option DateTime

/-! ## Lines -/

/-- `LineSplitter`, past some units of a line. -/
def splitFrom (previous : UInt16) (slice : Text) : Text → List Text
  | [] => if slice = [] then [] else [slice]
  | u :: rest =>
    if u = 13 then slice :: splitFrom u [] rest
    else if u = 10 then
      if previous = 13 then splitFrom u [] rest else slice :: splitFrom u [] rest
    else splitFrom u (slice ++ [u]) rest

/-- `LineSplitter().convert`. -/
def lineSplitter (s : Text) : List Text := splitFrom 0 [] s

/-- The bytes up to the last newline. -/
def completePart (bytes : List UInt8) : List UInt8 :=
  (bytes.reverse.dropWhile fun b => b ≠ 10).reverse

def nonEmptyLines (s : Text) : List Text := (lineSplitter s).filter fun line => !line.isEmpty

structure CompleteLines where
  lines : List Text
  truncatedTailIgnored : Bool

/-- `_readCompleteLines`, of a file that may be missing. -/
def readCompleteLines : Option (List UInt8) → CompleteLines
  | none => ⟨[], false⟩
  | some bytes =>
    let complete := completePart bytes
    let truncated := !bytes.isEmpty && decide (complete.length ≠ bytes.length)
    if complete = [] then ⟨[], truncated⟩
    else match utf8Decode complete with
      | some s => ⟨nonEmptyLines s, truncated⟩
      | none => ⟨[], truncated⟩

/-! ## Mappings -/

structure LegacyEventMapping where
  subsystem : String
  phase : String
  stage : String
  succeededName : String
  failedName : String
  errorOrigin : ObservabilityErrorOrigin
  attributeKey : Option String

namespace LegacyEventMapping

def initialization : LegacyEventMapping :=
  ⟨"bootstrap", "bootstrap", "initialize", "bootstrap.phase.completed", "bootstrap.phase.failed",
    .client, none⟩

def profile : LegacyEventMapping :=
  ⟨"connection", "profile", "prepare", "connection.profile.fetch.completed",
    "connection.profile.fetch.failed", .client, none⟩

def coreStart : LegacyEventMapping :=
  ⟨"core", "core", "start", "connection.core.start.completed", "connection.core.start.failed",
    .core, none⟩

def tun : LegacyEventMapping :=
  ⟨"tun", "tun", "start", "connection.tun.create.completed", "connection.tun.create.failed", .host,
    some "interface_ready"⟩

def routes : LegacyEventMapping :=
  ⟨"routing", "routes", "apply", "connection.routes.apply.completed",
    "connection.routes.apply.failed", .host, some "routes_ready"⟩

def dns : LegacyEventMapping :=
  ⟨"dns", "dns", "verify", "connection.probe.dns.completed", "connection.probe.dns.completed",
    .client, some "dns_ready"⟩

def egress : LegacyEventMapping :=
  ⟨"egress", "egress", "verify", "connection.probe.egress.completed",
    "connection.probe.egress.completed", .client, some "egress_ready"⟩

def recovery : LegacyEventMapping :=
  ⟨"recovery", "recovery", "recover", "connection.rollback.completed",
    "connection.rollback.failed", .host, none⟩

def stop : LegacyEventMapping :=
  ⟨"connection", "stop", "stop", "connection.stopped", "connection.rollback.failed", .core, none⟩

def rollbackBegin : LegacyEventMapping :=
  ⟨"recovery", "recovery", "rollback", "connection.rollback.started", "connection.rollback.failed",
    .host, none⟩

end LegacyEventMapping

/-- `_runtimeMappings`. -/
def runtimeMappings : List (String × LegacyEventMapping) :=
  [("initialization", .initialization), ("profile", .profile), ("core_start", .coreStart),
   ("tun", .tun), ("routes", .routes), ("dns", .dns), ("egress", .egress),
   ("recovery", .recovery), ("stop", .stop)]

/-- The mapping of a key. -/
def mappingOf (mappings : List (String × LegacyEventMapping)) (key : Text) :
    Option LegacyEventMapping :=
  (mappings.find? fun entry => text entry.1 = key).map (·.2)

/-- `_serviceMappings`. -/
def serviceMappings : List (String × LegacyEventMapping) :=
  [("runtime_core_start", .coreStart), ("runtime_core_stop", .stop), ("runtime_wintun_start", .tun),
   ("runtime_adapter_apply", .routes), ("runtime_route_apply", .routes),
   ("runtime_dns_apply", .dns), ("runtime_egress_verify", .egress),
   ("runtime_rollback_begin", .rollbackBegin), ("runtime_network_restore", .recovery),
   ("runtime_rollback_complete", .recovery), ("runtime_recovery_required", .recovery)]

/-- `_coreEventMappings`. -/
def coreEventMappings : List (String × LegacyEventMapping) :=
  [("core.runtime.initialize", ⟨"core", "initialization", "initialize", "core.runtime.initialize",
      "core.runtime.initialize", .core, none⟩),
   ("core.runtime.start", ⟨"core", "core_start", "start", "core.runtime.start",
      "core.runtime.start", .core, none⟩),
   ("core.runtime.stop", ⟨"core", "stop", "stop", "core.runtime.stop", "core.runtime.stop", .core,
      none⟩),
   ("core.egress.probe", ⟨"egress", "egress", "verify", "core.egress.probe", "core.egress.probe",
      .core, none⟩)]

def coreEventErrorCodes : List String :=
  ["CORE-003", "CORE-005", "CORE-006", "CORE-008", "TRANSPORT-001", "TRANSPORT-002",
   "TRANSPORT-003", "TRANSPORT-004", "TRANSPORT-005", "TRANSPORT-006", "TRANSPORT-007", "DNS-002",
   "EGRESS-001"]

/-- `_legacyOutcome`. -/
def legacyOutcome (value : Text) : Option ObservabilityOutcome :=
  if value = text "started" then some .started
  else if value = text "succeeded" ∨ value = text "completed" then some .succeeded
  else if value = text "failed" then some .failed
  else if value = text "cancelled" then some .cancelled
  else none

/-- `_serviceOutcome`. -/
def serviceOutcome (value : Text) : Option ObservabilityOutcome :=
  if value = text "attempted" then some .started
  else if value = text "succeeded" ∨ value = text "accepted" then some .succeeded
  else if value = text "failed" ∨ value = text "rejected" then some .failed
  else none

/-- The value of a text in a table of cases. -/
def caseOf (cases : List (String × String)) (otherwise : String) (key : Text) : String :=
  ((cases.find? fun entry => text entry.1 = key).map (·.2)).getD otherwise

/-- `_legacyRuntimeError`. -/
def legacyRuntimeError (event : Text) (failureKind : Option Text) : String :=
  if failureKind = some (text "desktop_tun_egress_probe_failed") then "EGRESS-001"
  else if failureKind = some (text "runtime_stop_failed") then "CORE-008"
  else caseOf [("initialization", "APP-BOOT-008"), ("profile", "CONN-005"),
    ("core_start", "CORE-003"), ("tun", "TUN-001"), ("routes", "ROUTE-001"), ("dns", "DNS-001"),
    ("egress", "EGRESS-001"), ("recovery", "RECON-003"), ("stop", "CORE-008")] "CORE-007" event

/-- `_serviceError`. -/
def serviceError (event status : Text) : String :=
  if status = text "unauthorized" then "WIN-SVC-002"
  else if status = text "unsupported" then "WIN-SVC-004"
  else if status = text "deadline_exceeded" then "WIN-SVC-003"
  else caseOf [("runtime_core_start", "CORE-003"), ("runtime_core_stop", "CORE-003"),
    ("runtime_wintun_start", "WIN-TUN-002"), ("runtime_adapter_apply", "ROUTE-001"),
    ("runtime_route_apply", "ROUTE-001"), ("runtime_dns_apply", "WIN-DNS-001"),
    ("runtime_egress_verify", "EGRESS-001"), ("runtime_rollback_begin", "ROUTE-002"),
    ("runtime_network_restore", "ROUTE-002"), ("runtime_rollback_complete", "ROUTE-002"),
    ("runtime_recovery_required", "RECON-003")] "WIN-SVC-003" event

/-! ## Events -/

/-- The arguments of an event whose correlation and error were not made yet. -/
structure LegacyDraft where
  eventId : Text
  occurredAtUtc : DateTime
  component : String
  subsystem : String
  stage : String
  name : Text
  severity : ObservabilitySeverity
  outcome : ObservabilityOutcome
  correlation : OperationalCorrelation.Arguments
  build : OperationalBuildIdentity
  errorCode : Option Text
  errorOrigin : ObservabilityErrorOrigin
  attributes : Fields

/-- The error of an event, if it has a code. -/
def LegacyDraft.error (draft : LegacyDraft) :
    Except ArgumentError (Option OperationalErrorIdentity) :=
  match draft.errorCode with
  | none => .ok none
  | some code => (OperationalErrorIdentity.new code draft.errorOrigin).map some

/-- The constructors. -/
def LegacyDraft.translate (draft : LegacyDraft) : Except ArgumentError OperationalEvent := do
  let correlation ← OperationalCorrelation.new draft.correlation
  let error ← draft.error
  OperationalEvent.new
    { eventId := draft.eventId
      occurredAtUtc := draft.occurredAtUtc
      component := text draft.component
      subsystem := text draft.subsystem
      stage := text draft.stage
      name := draft.name
      severity := draft.severity
      outcome := draft.outcome
      privacyClass := .localOperational
      correlation := correlation
      build := draft.build
      error := error
      attributes := draft.attributes }

variable (surroundings : LegacySurroundings) (context : LegacyTranslationContext)

/-- `_spanId`. -/
def spanId (value : Text) : Text := (surroundings.sha256 (utf8Encode value)).take 16

/-! ## Runtime records -/

def runtimeKeys : List String :=
  ["at", "platform", "event", "outcome", "phase", "probe", "attempt", "failure_kind", "stop_reason"]

/-- What a record says, if it is not null that `_translateRuntimeRecord` returns. -/
structure RuntimeRecord where
  record : Fields
  event : Text
  mapping : LegacyEventMapping
  outcome : ObservabilityOutcome
  occurredAt : DateTime

/-- `record['at']?.toString() ?? ''`. -/
def timeText (record : Fields) : Text :=
  if (record.get "at").isNull then [] else toText (record.get "at")

def readRuntimeRecord (record : Fields) : Option RuntimeRecord :=
  match record.get "event", record.get "outcome",
    DateTime.tryParseIn surroundings.parseLocal (timeText record) with
  | .string event, .string rawOutcome, some occurredAt => do
      let mapping ← mappingOf runtimeMappings event
      let outcome ← legacyOutcome rawOutcome
      return ⟨record, event, mapping, outcome, occurredAt⟩
  | _, _, _ => none

/-- `record[key] is String ? record[key] : null`. -/
def stringOf (record : Fields) (key : String) : Option Text :=
  match record.get key with
  | .string value => some value
  | _ => none

/-- The number of the attempt, if it is one that is retained. -/
def retryCount (record : Fields) : Fields :=
  match record.get "attempt" with
  | .int attempt => if 0 ≤ attempt ∧ attempt ≤ 100 then [(text "retry_count", .int attempt)] else []
  | _ => []

/-- Whether a part of the runtime is ready. -/
def readiness (mapping : LegacyEventMapping) (failed : Bool) : Fields :=
  match mapping.attributeKey with
  | none => []
  | some key => [(text key, .bool (!failed))]

/-- The event of a runtime record, with its number. -/
def RuntimeRecord.draft (r : RuntimeRecord) (sequence : Int) : LegacyDraft :=
  let failed := decide (r.outcome = .failed)
  { eventId := context.eventIdFactory sequence
    occurredAtUtc := r.occurredAt
    component := if stringOf r.record "platform" = some (text "windows") then "windows_host" else "app"
    subsystem := r.mapping.subsystem
    stage := r.mapping.stage
    name := text (if failed then r.mapping.failedName else r.mapping.succeededName)
    severity := if failed then .error else .info
    outcome := r.outcome
    correlation :=
      { traceId := context.traceId
        spanId := spanId surroundings (r.event ++ text ":" ++ encodeInt sequence)
        parentSpanId := none
        runId := context.runId
        attemptId := context.attemptId
        generation := context.generation
        sequence := sequence }
    build := context.build
    errorCode := if failed then
        some (text (legacyRuntimeError r.event (stringOf r.record "failure_kind")))
      else none
    errorOrigin := r.mapping.errorOrigin
    attributes := (text "phase", .string (text r.mapping.phase)) ::
      (retryCount r.record ++ readiness r.mapping failed) }

/-- What becomes of a line. An event has the next number. -/
inductive LineReading
  | malformed
  | skipped
  | event (draft : Int → LegacyDraft)

/-- A line of the runtime journal. -/
def readRuntimeLine (line : Text) : LineReading :=
  match jsonDecode line with
  | some (.map record) =>
    if record.any (fun field => !(runtimeKeys.map text).contains field.1) then .skipped
    else match readRuntimeRecord surroundings record with
      | none => .skipped
      | some r => .event (r.draft surroundings context)
  | _ => .malformed

/-! ## Records of the Windows service -/

/-- The field at some place of a line, which is there when the line has as many. -/
def fieldAt (fields : List Text) (index : Nat) : Text := (fields[index]?).getD []

/-- A tenth of an integer of 64 bits is a time. -/
theorem tdiv_wrap64_bounds (n : Int) :
    -maxMicroseconds ≤ (wrap64 n).tdiv 10 ∧ (wrap64 n).tdiv 10 ≤ maxMicroseconds := by
  have hrange : -2 ^ 63 ≤ wrap64 n ∧ wrap64 n < 2 ^ 63 := by
    unfold wrap64
    split <;> omega
  have htenth : ((wrap64 n).tdiv 10).natAbs = (wrap64 n).natAbs / 10 := Int.natAbs_tdiv _ 10
  unfold maxMicroseconds
  omega

/-- `_fileTimeTicksToUtc`. -/
def fileTimeTicksToUtc (ticks : Int) : DateTime :=
  ⟨(wrap64 (ticks - 116444736000000000)).tdiv 10, (tdiv_wrap64_bounds _).1, (tdiv_wrap64_bounds _).2⟩

/-- What a service record says, if it is not null that is returned for it. -/
structure ServiceRecord where
  fields : List Text
  mapping : LegacyEventMapping
  outcome : ObservabilityOutcome
  occurredAt : DateTime
  sourceSequence : Int

/-- `_translateWindowsServiceRecord`, as far as it returns null. -/
def readServiceRecord (fields : List Text) (occurredAt : DateTime) (sourceSequence : Int) :
    Option ServiceRecord := do
  let outcome ← serviceOutcome (fieldAt fields 4)
  let mapping ← mappingOf serviceMappings (fieldAt fields 3)
  return ⟨fields, mapping, outcome, occurredAt, sourceSequence⟩

/-- The event of a service record, with its number. -/
def ServiceRecord.draft (r : ServiceRecord) (sequence : Int) : LegacyDraft :=
  let event := fieldAt r.fields 3
  let failed := decide (r.outcome = .failed)
  { eventId := context.eventIdFactory sequence
    occurredAtUtc := r.occurredAt
    component := "windows_service"
    subsystem := r.mapping.subsystem
    stage := r.mapping.stage
    name := text (if failed then r.mapping.failedName else r.mapping.succeededName)
    severity := if failed then .error else .info
    outcome := r.outcome
    correlation :=
      { traceId := if isTrace (fieldAt r.fields 7) then fieldAt r.fields 7 else context.traceId
        spanId := spanId surroundings (event ++ text ":" ++ encodeInt r.sourceSequence)
        parentSpanId := none
        runId := context.runId
        attemptId := context.attemptId
        generation := context.generation
        sequence := sequence }
    build := context.build
    errorCode := if failed then some (text (serviceError event (fieldAt r.fields 6))) else none
    errorOrigin := .host
    attributes := (text "phase", .string (text r.mapping.phase)) :: readiness r.mapping failed }

/-! ## Records of the core -/

/-- What a core record says, if it is not null that is returned for it. -/
structure CoreRecord where
  fields : List Text
  mapping : LegacyEventMapping
  outcome : ObservabilityOutcome
  occurredAt : DateTime
  generation : Int
  sequence : Int
  rawError : Option Text

/-- `_translateCoreEventRecord`, as far as it returns null. -/
def readCoreRecord (fields : List Text) : Option CoreRecord := do
  guard (fields.length = 15 ∧ fieldAt fields 1 = text "1" ∧ fieldAt fields 2 = text "1")
  let rawError := if fieldAt fields 13 = text "none" then none else some (fieldAt fields 13)
  let occurredAt ← DateTime.tryParseIn surroundings.parseLocal (fieldAt fields 3)
  guard (isUuid (fieldAt fields 4) = true ∧ isUuid (fieldAt fields 5) = true)
  let generation ← intTryParse (fieldAt fields 6)
  guard (1 ≤ generation ∧ generation ≤ 0x7fffffff)
  let sequence ← intTryParse (fieldAt fields 7)
  guard (1 ≤ sequence)
  let definition ← mappingOf coreEventMappings (fieldAt fields 8)
  guard (fieldAt fields 9 = text definition.subsystem ∧ fieldAt fields 10 = text definition.stage ∧
    fieldAt fields 14 = text definition.phase)
  let outcome ← legacyOutcome (fieldAt fields 12)
  guard (outcome = .failed ↔ fieldAt fields 11 = text "error")
  guard (outcome ≠ .failed → fieldAt fields 11 = text "info")
  guard (outcome = .failed → rawError.any (anyOf coreEventErrorCodes) = true)
  guard (outcome ≠ .failed → rawError = none)
  return ⟨fields, definition, outcome, occurredAt, generation, sequence, rawError⟩

/-- The name of a phase of the core in the contract. -/
def canonicalPhase (phase : String) : String :=
  if phase = "initialization" then "bootstrap" else if phase = "core_start" then "core" else phase

/-- The event of a core record, with the number that its identifier is made of. -/
def CoreRecord.draft (r : CoreRecord) (eventIdSequence : Int) : LegacyDraft where
  eventId := context.eventIdFactory eventIdSequence
  occurredAtUtc := r.occurredAt
  component := "core"
  subsystem := r.mapping.subsystem
  stage := r.mapping.stage
  name := fieldAt r.fields 8
  severity := if fieldAt r.fields 11 = text "error" then .error else .info
  outcome := r.outcome
  correlation :=
    { traceId := (fieldAt r.fields 4).filter fun u => u ≠ unit '-'
      spanId := spanId surroundings (fieldAt r.fields 8 ++ text ":" ++ encodeInt r.generation ++
        text ":" ++ encodeInt r.sequence)
      parentSpanId := none
      runId := some (fieldAt r.fields 4)
      attemptId := some (fieldAt r.fields 5)
      generation := r.generation
      sequence := r.sequence }
  build := context.build
  errorCode := r.rawError
  errorOrigin := .core
  attributes := [(text "phase", .string (text (canonicalPhase r.mapping.phase)))]

/-- A service record, if the line has as many fields and numbers where they belong. -/
def readServiceFields (fields : List Text) : Option (DateTime × Int) := do
  guard (fields.length = 8 ∧ fieldAt fields 0 = text "POKROV_SERVICE_EVENT_V1")
  let ticks ← intTryParse (fieldAt fields 1)
  let sourceSequence ← intTryParse (fieldAt fields 2)
  guard (0 ≤ sourceSequence)
  return (fileTimeTicksToUtc ticks, sourceSequence)

/-- A line of the journal of the Windows service. -/
def readServiceLine (line : Text) : LineReading :=
  let fields := pieces (unit '|') line
  if fieldAt fields 0 = text "POKROV_CORE_EVENT_V1" then
    match readCoreRecord surroundings fields with
    | none => .skipped
    | some r => .event (r.draft surroundings context)
  else match readServiceFields fields with
    | none => .malformed
    | some (occurredAt, sourceSequence) =>
      match readServiceRecord fields occurredAt sourceSequence with
      | none => .skipped
      | some r => .event (r.draft surroundings context)

/-! ## Journals -/

structure LegacyTranslationResult where
  events : List OperationalEvent
  skippedRecords : Nat
  malformedRecords : Nat
  truncatedTailIgnored : Bool

/-- What the loop has come to. -/
structure LegacyProgress where
  events : List OperationalEvent
  skipped : Nat
  malformed : Nat
  sequence : Int

/-- The body of the loop. An exception ends it. -/
def LegacyProgress.next (p : LegacyProgress) : LineReading → Except ArgumentError LegacyProgress
  | .malformed => .ok { p with malformed := p.malformed + 1 }
  | .skipped => .ok { p with skipped := p.skipped + 1 }
  | .event draft => do
      let translated ← (draft p.sequence).translate
      return { p with events := p.events ++ [translated], sequence := wrap64 (p.sequence + 1) }

def readLines (readLine : Text → LineReading) (file : Option (List UInt8)) :
    Except ArgumentError LegacyTranslationResult := do
  let lines := readCompleteLines file
  let p ← lines.lines.foldlM (fun p line => p.next (readLine line))
    (⟨[], 0, 0, context.firstSequence⟩ : LegacyProgress)
  return ⟨p.events, p.skipped, p.malformed, lines.truncatedTailIgnored⟩

/-- `readRuntimeJsonl`. -/
def readRuntimeJsonl : Option (List UInt8) → Except ArgumentError LegacyTranslationResult :=
  readLines context (readRuntimeLine surroundings context)

/-- `readWindowsServiceJournal`. -/
def readWindowsServiceJournal : Option (List UInt8) → Except ArgumentError LegacyTranslationResult :=
  readLines context (readServiceLine surroundings context)

end Pokrov.Observability
