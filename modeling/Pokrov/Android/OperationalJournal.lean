import Pokrov.Dart.JsonReading
import Pokrov.Lib.Scanning

/-!
# The operational journal

Records of what the Android shell has done, one JSON line each, in a file of a bounded size
and the one before it. The reader takes only the lines of candidate probes, by a pattern.
Kotlin's texts are UTF-16 units like those of Dart.
-/

namespace Pokrov.Android.OperationalJournal

open Dart JsonText Scanning

/-! ## Records -/

/-- A `Long` that is not negative. -/
abbrev Count : Type := { n : Nat // n < 2 ^ 63 }

inductive AndroidOperationalEvent
  | vpnService
  | vpnPermission
  | notificationPermission
  | uplinkSocket
  | networkCallback
  | coreEgressProbe
  | candidateProbe
  | doze
  | appStandby
  | backgroundRestriction
  | mainThreadWatchdog
  | updaterIdentity
  | updaterHandoff
deriving DecidableEq

def AndroidOperationalEvent.wireValue : AndroidOperationalEvent → String
  | .vpnService => "vpn_service"
  | .vpnPermission => "vpn_permission"
  | .notificationPermission => "notification_permission"
  | .uplinkSocket => "uplink_socket"
  | .networkCallback => "network_callback"
  | .coreEgressProbe => "core_egress_probe"
  | .candidateProbe => "candidate_probe"
  | .doze => "doze"
  | .appStandby => "app_standby"
  | .backgroundRestriction => "background_restriction"
  | .mainThreadWatchdog => "main_thread_watchdog"
  | .updaterIdentity => "updater_identity"
  | .updaterHandoff => "updater_handoff"

inductive AndroidOperationalOutcome
  | created | startRequested | sessionStarted | tunEstablished | stopRequested | stopped | revoked
  | destroyed | failed | required | alreadyGranted | granted | denied | available
  | capabilitiesChanged | lost | active | inactive | workingSet | frequent | rare | restricted
  | unknown | enabled | whitelisted | disabled | stalled | verified | rejected | installerOpened
  | storeOpened | permissionRequired
deriving DecidableEq

def AndroidOperationalOutcome.wireValue : AndroidOperationalOutcome → String
  | .created => "created"
  | .startRequested => "start_requested"
  | .sessionStarted => "session_started"
  | .tunEstablished => "tun_established"
  | .stopRequested => "stop_requested"
  | .stopped => "stopped"
  | .revoked => "revoked"
  | .destroyed => "destroyed"
  | .failed => "failed"
  | .required => "required"
  | .alreadyGranted => "already_granted"
  | .granted => "granted"
  | .denied => "denied"
  | .available => "available"
  | .capabilitiesChanged => "capabilities_changed"
  | .lost => "lost"
  | .active => "active"
  | .inactive => "inactive"
  | .workingSet => "working_set"
  | .frequent => "frequent"
  | .rare => "rare"
  | .restricted => "restricted"
  | .unknown => "unknown"
  | .enabled => "enabled"
  | .whitelisted => "whitelisted"
  | .disabled => "disabled"
  | .stalled => "stalled"
  | .verified => "verified"
  | .rejected => "rejected"
  | .installerOpened => "installer_opened"
  | .storeOpened => "store_opened"
  | .permissionRequired => "permission_required"

/-- `ANDROID_OPERATIONAL_OUTCOMES`. -/
def operationalOutcomes : AndroidOperationalEvent → List AndroidOperationalOutcome
  | .vpnService => [.created, .startRequested, .sessionStarted, .tunEstablished, .stopRequested,
      .stopped, .revoked, .destroyed, .failed]
  | .vpnPermission => [.required, .alreadyGranted, .granted, .denied]
  | .notificationPermission => [.required, .alreadyGranted, .granted, .denied]
  | .uplinkSocket => [.granted, .denied]
  | .networkCallback => [.available, .capabilitiesChanged, .lost]
  | .coreEgressProbe => [.required, .verified, .failed, .stalled]
  | .candidateProbe => [.verified, .failed]
  | .doze => [.active, .inactive]
  | .appStandby => [.active, .workingSet, .frequent, .rare, .restricted, .unknown]
  | .backgroundRestriction => [.enabled, .whitelisted, .disabled, .unknown]
  | .mainThreadWatchdog => [.stalled]
  | .updaterIdentity => [.verified, .rejected]
  | .updaterHandoff => [.installerOpened, .storeOpened, .permissionRequired, .failed]

inductive AndroidCandidateProbePhase
  | parseProfile | createInstance | startInstance | selectOutbound | proxyDial | egressCheck
  | tlsHandshake | tlsRead | tlsWrite | tlsProcessing | tlsCertificateVerified | tlsComplete
  | http204 | http64k

namespace AndroidCandidateProbePhase

def wireValue : AndroidCandidateProbePhase → String
  | .parseProfile => "parse_profile"
  | .createInstance => "create_instance"
  | .startInstance => "start_instance"
  | .selectOutbound => "select_outbound"
  | .proxyDial => "proxy_dial"
  | .egressCheck => "egress_check"
  | .tlsHandshake => "tls_handshake"
  | .tlsRead => "tls_read"
  | .tlsWrite => "tls_write"
  | .tlsProcessing => "tls_processing"
  | .tlsCertificateVerified => "tls_certificate_verified"
  | .tlsComplete => "tls_complete"
  | .http204 => "http_204"
  | .http64k => "http_64k"

def values : List AndroidCandidateProbePhase :=
  [.parseProfile, .createInstance, .startInstance, .selectOutbound, .proxyDial, .egressCheck,
    .tlsHandshake, .tlsRead, .tlsWrite, .tlsProcessing, .tlsCertificateVerified, .tlsComplete,
    .http204, .http64k]

end AndroidCandidateProbePhase

/-- A diagnostic whose `init` has not thrown. Its `probeError` is never written. -/
structure AndroidCandidateProbeDiagnostic where
  phase : Option AndroidCandidateProbePhase
  phaseStartedMs : Option Count
  durationMs : Option Count
  parseDurationMs : Option Count
  createDurationMs : Option Count
  certificateDurationMs : Option Count
  phase_eq_null : phase.isNone = phaseStartedMs.isNone
  started_le : ∀ started ∈ phaseStartedMs, ∃ duration ∈ durationMs, started ≤ duration
  setup : parseDurationMs = none ∧ createDurationMs = none ∧ certificateDurationMs = none ∨
    ∃ duration ∈ durationMs, ∃ parse ∈ parseDurationMs, ∃ create ∈ createDurationMs,
      ∃ certificate ∈ certificateDurationMs, create ≤ duration ∧ certificate ≤ create ∧
        parse.1 ≤ duration.1 - create.1

def coreProbeCodes : List String :=
  ["deadline", "cancelled", "runtime_unavailable", "target_unavailable", "connect_failed",
    "dns_failed", "tls_failed", "response_failed", "reflection_unavailable", "other"]

def coreProbeErrorTypes : List String :=
  ["none", "no_such_method", "illegal_access", "security", "linkage", "illegal_state",
    "interrupted", "exception", "other"]

structure AndroidCoreEgressProbeDiagnostic where
  code : String
  errorType : String
  elapsedMs : Count
  attempt : Nat
  code_mem : code ∈ coreProbeCodes
  errorType_mem : errorType ∈ coreProbeErrorTypes
  attempt_mem : 1 ≤ attempt ∧ attempt ≤ 3

def AndroidCoreEgressProbeDiagnostic.stage (d : AndroidCoreEgressProbeDiagnostic) : String :=
  if d.code = "dns_failed" then "dns"
  else if d.code = "connect_failed" then "connect"
  else if d.code = "tls_failed" then "tls"
  else if d.code = "response_failed" then "response"
  else if d.code = "target_unavailable" then "select"
  else if d.code = "runtime_unavailable" ∨ d.code = "reflection_unavailable" then "runtime"
  else "unknown"

/-- A digit for each zero of the shape, and its other letters as they are. -/
def fits : List Char → Text → Bool
  | [], [] => true
  | c :: shape, u :: s => (if c = '0' then isDigit u else u = unit c) && fits shape s
  | _, _ => false

/-- `ANDROID_OPERATIONAL_TIMESTAMP`. -/
def isTimestamp (s : Text) : Bool := fits "0000-00-00T00:00:00.000Z".toList s

/-- A record whose `init` has not thrown. -/
structure AndroidOperationalRecord where
  occurredAtUtc : Text
  sequence : Count
  event : AndroidOperationalEvent
  outcome : AndroidOperationalOutcome
  generation : Option Count
  droppedBefore : Count
  probeSequence : Option Count
  candidateProbe : Option AndroidCandidateProbeDiagnostic
  coreProbe : Option AndroidCoreEgressProbeDiagnostic
  timestamp : isTimestamp occurredAtUtc = true
  sequence_pos : 0 < sequence.1
  generation_pos : ∀ n ∈ generation, 0 < n.1
  outcome_mem : outcome ∈ operationalOutcomes event
  probeSequence_pos : ∀ n ∈ probeSequence, 0 < n.1
  candidate : (probeSequence = none ∧ candidateProbe = none) ∨ event = .candidateProbe
  core : coreProbe = none ∨ event = .coreEgressProbe

/-- `append` of a number that may be null. -/
def appendNumber (n : Option Count) : Text :=
  match n with
  | none => text "null"
  | some n => decimal n.1

/-- A name and its number, where there is one. -/
def appendOptional (name : String) (n : Option Count) : Text :=
  match n with
  | none => []
  | some n => text name ++ decimal n.1

def AndroidCandidateProbeDiagnostic.fields (d : AndroidCandidateProbeDiagnostic) : Text :=
  appendOptional ",\"duration_ms\":" d.durationMs ++
    (match d.phase with
    | none => []
    | some phase =>
      text ",\"phase\":\"" ++ text phase.wireValue ++ text "\",\"phase_started_ms\":" ++
        appendNumber d.phaseStartedMs) ++
    match d.parseDurationMs with
    | none => []
    | some parse =>
      text ",\"parse_duration_ms\":" ++ decimal parse.1 ++ text ",\"create_duration_ms\":" ++
        appendNumber d.createDurationMs ++ text ",\"certificate_duration_ms\":" ++
        appendNumber d.certificateDurationMs

def AndroidCoreEgressProbeDiagnostic.fields (d : AndroidCoreEgressProbeDiagnostic) : Text :=
  text ",\"attempt\":" ++ decimal d.attempt ++ text ",\"stage\":\"" ++ text d.stage ++
    text "\",\"code\":\"" ++ text d.code ++ text "\",\"error_type\":\"" ++ text d.errorType ++
    text "\",\"elapsed_ms\":" ++ decimal d.elapsedMs.1

def AndroidOperationalRecord.toJsonLine (r : AndroidOperationalRecord) : Text :=
  text "\x7b\"schema_version\":1,\"occurred_at_utc\":\"" ++ r.occurredAtUtc ++
    text "\",\"sequence\":" ++ decimal r.sequence.1 ++ text ",\"event\":\"" ++
    text r.event.wireValue ++ text "\",\"outcome\":\"" ++ text r.outcome.wireValue ++ text "\"" ++
    appendOptional ",\"generation\":" r.generation ++ text ",\"dropped_before\":" ++
    decimal r.droppedBefore.1 ++ appendOptional ",\"probe_sequence\":" r.probeSequence ++
    (r.candidateProbe.map (·.fields)).getD [] ++ (r.coreProbe.map (·.fields)).getD [] ++
    text "\x7d"

/-! ## The store -/

def minMaxFileBytes : Nat := 512

def maxRecordBytes : Nat := 1024

def maxCandidateDiagnostics : Nat := 256

def newline : UInt16 := 10

structure AndroidOperationalJournalStore where
  maxFileBytes : Nat
  admitted : minMaxFileBytes ≤ maxFileBytes

/-- What the two files hold, where they are. -/
structure Files where
  currentFile : Option Text
  previousFile : Option Text

/-- Which operations on the files succeed. A write that does not has written nothing. -/
structure Disk where
  deletes : Bool
  renames : Bool
  opens : Bool
  writes : Bool

/-- `rotate`. False is a throw. -/
def rotate (files : Files) (disk : Disk) : Files × Bool :=
  if files.previousFile.isSome ∧ disk.deletes = false then (files, false)
  else
    match files.currentFile with
    | none => (⟨none, none⟩, true)
    | some content =>
      if disk.renames then (⟨none, some content⟩, true) else (⟨some content, none⟩, false)

namespace AndroidOperationalJournalStore

/-- `append`. False is a throw. -/
def append (store : AndroidOperationalJournalStore) (files : Files) (record : AndroidOperationalRecord)
    (disk : Disk) : Files × Bool :=
  let payload := record.toJsonLine ++ [newline]
  if maxRecordBytes < utf8Length payload then (files, false)
  else
    let full := files.currentFile.any fun content =>
      decide (store.maxFileBytes < utf8Length content + utf8Length payload)
    let rotated := if full then rotate files disk else (files, true)
    if rotated.2 = false then rotated
    else if disk.opens = false then (rotated.1, false)
    else
      let content := rotated.1.currentFile.getD []
      if disk.writes then (⟨some (content ++ payload), rotated.1.previousFile⟩, true)
      else (⟨some content, rotated.1.previousFile⟩, false)

end AndroidOperationalJournalStore

/-! ## Reading -/

/-- The lines of a file, each ended by a newline, a carriage return or both. -/
def readLines (pending : Text) (skipLF : Bool) : Text → List Text
  | [] => if pending.isEmpty then [] else [pending]
  | u :: rest =>
    if u = newline then
      if skipLF then readLines pending false rest else pending :: readLines [] false rest
    else if u = 13 then pending :: readLines [] true rest
    else readLines (pending ++ [u]) false rest

/-- `[1-9][0-9]*`. -/
def scanPositive (input : Text) : Option (Text × Text) :=
  match many isDigit input with
  | some (digits, rest) => if digits.head? = some (unit '0') then none else some (digits, rest)
  | none => none

def scanTimestamp (input : Text) : Option (Text × Text) :=
  if isTimestamp (input.take 24) then some (input.take 24, input.drop 24) else none

/-- A literal and what is scanned behind it. -/
def after {α : Type} (name : String) (scan : Text → Option (α × Text)) (input : Text) :
    Option (α × Text) := (literal (text name) input).bind scan

def scanOutcome (input : Text) : Option (String × Text) :=
  match literal (text "verified") input with
  | some rest => some ("verified", rest)
  | none => (literal (text "failed") input).map fun rest => ("failed", rest)

/-- The three durations of the setup. -/
def scanSetup (input : Text) : Option ((Text × Text × Text) × Text) := do
  let (parse, rest) ← after ",\"parse_duration_ms\":" (many isDigit) input
  let (create, rest) ← after ",\"create_duration_ms\":" (many isDigit) rest
  let (certificate, rest) ← after ",\"certificate_duration_ms\":" (many isDigit) rest
  some ((parse, create, certificate), rest)

def isPhaseUnit (u : UInt16) : Bool := isLower u || isDigit u || u = unit '_'

/-- The groups of a line that matches. -/
structure Groups where
  occurredAt : Text
  outcome : String
  duration : Text
  phase : Text
  started : Text
  setup : Option (Text × Text × Text)

/-- What stands in front of the event. -/
def scanHead (line : Text) : Option (Text × Text) := do
  let (occurredAt, rest) ← after "\x7b\"schema_version\":1,\"occurred_at_utc\":\"" scanTimestamp line
  let (_, rest) ← after "\",\"sequence\":" scanPositive rest
  some (occurredAt, rest)

/-- The event of a candidate probe, and what stands in front of its diagnostic. -/
def scanEvent (input : Text) : Option (String × Text) := do
  let (outcome, rest) ← after ",\"event\":\"candidate_probe\",\"outcome\":\"" scanOutcome input
  let rest ← literal (text "\"") rest
  let (_, rest) := optional (after ",\"generation\":" scanPositive) rest
  let (_, rest) ← after ",\"dropped_before\":" (many isDigit) rest
  let (_, rest) := optional (after ",\"probe_sequence\":" scanPositive) rest
  some (outcome, rest)

/-- `CANDIDATE_RECORD.matchEntire`. A class is left as soon as what follows it in the
pattern can begin, so nothing else is ever tried. -/
def matchEntire (line : Text) : Option Groups := do
  let (occurredAt, rest) ← scanHead line
  let (outcome, rest) ← scanEvent rest
  let (duration, rest) ← after ",\"duration_ms\":" (many isDigit) rest
  let (phase, rest) ← after ",\"phase\":\"" (many isPhaseUnit) rest
  let (started, rest) ← after "\",\"phase_started_ms\":" (many isDigit) rest
  let (setup, rest) := optional scanSetup rest
  if rest = text "\x7d" then some { occurredAt, outcome, duration, phase, started, setup } else none

/-- `toLongOrNull` of digits. -/
def toLongOrNull (digits : Text) : Option Nat :=
  if number digits < 2 ^ 63 then some (number digits) else none

/-- A map that the reader returns. Its subsystem is always the candidate probe. -/
structure Diagnostic where
  occurredAt : Text
  stage : String
  outcome : String
  durationMs : Nat
  phaseStartedMs : Nat
  setup : Option (Nat × Nat × Nat)

/-- What the reader checks of the setup. `none` goes on with the next line. -/
def readSetup (duration : Nat) : Option (Text × Text × Text) → Option (Option (Nat × Nat × Nat))
  | none => some none
  | some (parse, create, certificate) =>
    match toLongOrNull parse, toLongOrNull create, toLongOrNull certificate with
    | some parse, some create, some certificate =>
      if duration < create ∨ create < certificate ∨ duration - create < parse then none
      else some (some (parse, create, certificate))
    | _, _, _ => none

/-- The body of the loop over the lines. -/
def readRecord (line : Text) : Option Diagnostic := do
  let groups ← matchEntire line
  let duration ← toLongOrNull groups.duration
  let phase ← AndroidCandidateProbePhase.values.find? fun phase => text phase.wireValue = groups.phase
  let started ← toLongOrNull groups.started
  if duration < started then none
  else
    let setup ← readSetup duration groups.setup
    some {
      occurredAt := groups.occurredAt
      stage := phase.wireValue
      outcome := if groups.outcome = "verified" then "succeeded" else "failed"
      durationMs := duration
      phaseStartedMs := started
      setup }

/-- The loop over the lines of a file. -/
def readContent (records : List Diagnostic) (content : Text) : List Diagnostic :=
  (readLines [] false content).foldl
    (fun records line =>
      match readRecord line with
      | none => records
      | some diagnostic => addLast maxCandidateDiagnostics records diagnostic) records

namespace AndroidOperationalJournalStore

/-- The loop over the files. `none` is a throw. -/
def readFile (store : AndroidOperationalJournalStore) (records : List Diagnostic) :
    Option Text → Option (List Diagnostic)
  | none => some records
  | some content =>
    if store.maxFileBytes < utf8Length content then none else some (readContent records content)

def readCandidateDiagnostics (store : AndroidOperationalJournalStore) (files : Files) :
    Option (List Diagnostic) := do
  let records ← store.readFile [] files.previousFile
  store.readFile records files.currentFile

end AndroidOperationalJournalStore

end Pokrov.Android.OperationalJournal
