import Pokrov.Dart.DateTime
import Pokrov.Observability.AttributePolicy

/-!
# Operational events

`model.dart`: an event with its correlation, its build and the identity of its error. The
constructors check what they are given, so each structure carries that it was accepted.
-/

namespace Pokrov.Observability

open Dart

/-! ## Patterns -/

/-- `_uuidPattern`. -/
def isUuid (s : Text) : Bool :=
  match pieces (unit '-') s with
  | [a, b, c, d, e] =>
    [a, b, c, d, e].all (fun piece => piece.all isLowerHex) &&
      decide ([a, b, c, d, e].map List.length = [8, 4, 4, 4, 12]) &&
      c.head?.any (between '1' '5') &&
      d.head?.any fun u => u = unit '8' || u = unit '9' || u = unit 'a' || u = unit 'b'
  | _ => false

theorem length_of_isUuid {s : Text} (h : isUuid s = true) : s.length = 36 := by
  have hlength := length_pieces (unit '-') s
  unfold isUuid at h
  split at h
  · next a b d e f hpieces =>
    simp only [Bool.and_eq_true, decide_eq_true_eq] at h
    rw [hpieces, h.1.1.2] at hlength
    simp only [List.sum_cons, List.sum_nil, List.length_cons, List.length_nil] at hlength
    omega
  · cases h

/-- `_tracePattern`. -/
def isTrace (s : Text) : Bool := decide (s.length = 32) && s.all isLowerHex

/-- `_spanPattern`. -/
def isSpan (s : Text) : Bool := decide (s.length = 16) && s.all isLowerHex

/-- `[a-z][a-z0-9_]*`. -/
def isNameSegment : Text → Bool
  | [] => false
  | u :: rest => isLower u && rest.all fun v => isLower v || isDigit v || v = unit '_'

/-- `_eventNamePattern`: three to six segments. -/
def isEventName (s : Text) : Bool :=
  let segments := pieces (unit '.') s
  decide (3 ≤ segments.length ∧ segments.length ≤ 6) && segments.all isNameSegment

def isLetterOrDigit (u : UInt16) : Bool := isDigit u || isLower u || isUpper u

/-- Letters, digits and `._+-`. -/
def isTokenUnit (u : UInt16) : Bool :=
  isLetterOrDigit u || [unit '.', unit '_', unit '+', unit '-'].contains u

/-- `_tokenPattern`. -/
def isToken (s : Text) : Bool := decide (1 ≤ s.length ∧ s.length ≤ 32) && s.all isTokenUnit

/-- `_candidatePattern`. -/
def isCandidate (s : Text) : Bool :=
  let label := s.drop 7
  (text "pokrov-").isPrefixOf s && label.head?.any isLetterOrDigit &&
    decide (2 ≤ label.length ∧ label.length ≤ 64) && label.all isTokenUnit

/-- `_gitPattern`. -/
def isGitRevision (s : Text) : Bool := decide (s.length = 40) && s.all isLowerHex

/-- `_architecturePattern`. -/
def isArchitecture (s : Text) : Bool :=
  s.head?.any isLetterOrDigit && decide (s.length ≤ 32) && s.all isTokenUnit

/-- `_requirePattern`, and every other check of one argument. -/
def require (holds : Bool) (name : String) : Except ArgumentError Unit :=
  if holds then .ok () else .error (.value (text name) "")

@[simp] theorem require_eq_ok {holds : Bool} {name : String} :
    require holds name = .ok () ↔ holds = true := by
  cases holds <;> simp [require]

/-! ## Correlations -/

structure OperationalCorrelation.Arguments where
  traceId : Text
  spanId : Text
  parentSpanId : Option Text
  runId : Option Text
  attemptId : Option Text
  generation : Int
  sequence : Int

/-- The checks of the constructor. -/
def OperationalCorrelation.Arguments.check (a : Arguments) : Except ArgumentError Unit := do
  require (isTrace a.traceId) "trace_id"
  require (isSpan a.spanId) "span_id"
  require (a.parentSpanId.all isSpan) "parent_span_id"
  require (a.runId.all isUuid) "run_id"
  require (a.attemptId.all isUuid) "attempt_id"
  require (0 ≤ a.generation ∧ a.generation ≤ 0x7fffffff) "generation"
  require (0 ≤ a.sequence) "sequence"

structure OperationalCorrelation extends OperationalCorrelation.Arguments where
  accepted : toArguments.check = .ok ()

/-! ## Builds -/

structure OperationalBuildIdentity.Arguments where
  appVersion : Text
  buildNumber : Text
  channel : Text
  candidateLabel : Text
  gitRevision : Text
  coreVersion : Option Text
  coreAbi : Option Int
  platform : Text
  architecture : Text

def OperationalBuildIdentity.Arguments.check (a : Arguments) : Except ArgumentError Unit := do
  require (OperationalAttributePolicy.isVersion a.appVersion) "app_version"
  require (isToken a.buildNumber) "build_number"
  require (anyOf ["alpha", "beta", "rc", "stable", "local"] a.channel) "channel"
  require (isCandidate a.candidateLabel) "candidate_label"
  require (isGitRevision a.gitRevision) "git_revision"
  require (a.coreVersion.all OperationalAttributePolicy.isVersion) "core_version"
  require (a.coreAbi.all fun abi => decide (1 ≤ abi)) "core_abi"
  require (anyOf ["android", "windows", "server"] a.platform) "platform"
  require (isArchitecture a.architecture) "architecture"

structure OperationalBuildIdentity extends OperationalBuildIdentity.Arguments where
  accepted : toArguments.check = .ok ()

/-! ## Errors -/

inductive ObservabilityErrorOrigin
  | client | host | core | portal | provider | os | security

/-- `KnownOperationalErrorCodes.values`. -/
def knownOperationalErrorCodes : List String :=
  ["APP-BOOT-001", "APP-BOOT-002", "APP-BOOT-003", "APP-BOOT-004", "APP-BOOT-005", "APP-BOOT-006",
   "APP-BOOT-007", "APP-BOOT-008", "AUTH-001", "AUTH-002", "AUTH-003", "AUTH-004", "AUTH-005",
   "AUTH-006", "API-001", "API-002", "API-003", "API-004", "API-005", "API-006", "API-007",
   "API-008", "API-009", "API-010", "API-011", "ENT-001", "ENT-002", "ENT-003", "ENT-004",
   "CONN-001", "CONN-002", "CONN-003", "CONN-004", "CONN-005", "CONN-006", "CONN-007", "CONN-008",
   "CORE-001", "CORE-002", "CORE-003", "CORE-004", "CORE-005", "CORE-006", "CORE-007", "CORE-008",
   "CORE-009", "TRANSPORT-001", "TRANSPORT-002", "TRANSPORT-003", "TRANSPORT-004",
   "TRANSPORT-005", "TRANSPORT-006", "TRANSPORT-007", "TUN-001", "TUN-002", "TUN-003", "TUN-004",
   "ROUTE-001", "ROUTE-002", "ROUTE-003", "ROUTE-004", "ROUTE-005", "DNS-001", "DNS-002",
   "DNS-003", "DNS-004", "EGRESS-001", "EGRESS-002", "EGRESS-003", "RECON-001", "RECON-002",
   "RECON-003", "WIN-SVC-001", "WIN-SVC-002", "WIN-SVC-003", "WIN-SVC-004", "WIN-SVC-005",
   "WIN-SVC-006", "WIN-TUN-001", "WIN-TUN-002", "WIN-TUN-003", "WIN-DNS-001", "WIN-DNS-002",
   "AND-VPN-001", "AND-VPN-002", "AND-VPN-003", "AND-VPN-004", "AND-VPN-005", "AND-BG-001",
   "AND-BG-002", "AND-BG-003", "AND-UPD-001", "AND-UPD-002", "LNX-SVC-001", "LNX-SVC-002",
   "LNX-IPC-001", "LNX-POLKIT-001", "LNX-NM-001", "LNX-DNS-001", "LNX-NFT-001", "LNX-NFT-002",
   "UPD-001", "UPD-002", "UPD-003", "UPD-004", "UPD-005", "UPD-006", "UPD-007", "CRASH-001",
   "CRASH-002", "CRASH-003", "HANG-001", "HANG-002", "HANG-003", "PERF-001", "PERF-002",
   "PERF-003", "SUP-001", "SUP-002", "SUP-003", "SUP-004", "SUP-005", "SUP-006", "SEC-001",
   "SEC-002", "SEC-003", "SEC-004"]

structure OperationalErrorIdentity where
  code : Text
  origin : ObservabilityErrorOrigin
  known : anyOf knownOperationalErrorCodes code = true

/-- The constructor. -/
def OperationalErrorIdentity.new (code : Text) (origin : ObservabilityErrorOrigin) :
    Except ArgumentError OperationalErrorIdentity :=
  if known : anyOf knownOperationalErrorCodes code = true then .ok ⟨code, origin, known⟩
  else .error (.value (text "code") "Unknown operational error code")

/-! ## Events -/

inductive ObservabilitySeverity
  | trace | debug | info | warn | error | fatal
deriving DecidableEq

inductive ObservabilityOutcome
  | started | succeeded | failed | cancelled | superseded | degraded | blocked | observed
  | notApplicable
deriving DecidableEq

def ObservabilityOutcome.wireValue : ObservabilityOutcome → String
  | .started => "started"
  | .succeeded => "succeeded"
  | .failed => "failed"
  | .cancelled => "cancelled"
  | .superseded => "superseded"
  | .degraded => "degraded"
  | .blocked => "blocked"
  | .observed => "observed"
  | .notApplicable => "not_applicable"

structure OperationalEvent.Arguments where
  eventId : Text
  occurredAtUtc : DateTime
  component : Text
  subsystem : Text
  stage : Text
  name : Text
  severity : ObservabilitySeverity
  outcome : ObservabilityOutcome
  privacyClass : ObservabilityPrivacyClass
  correlation : OperationalCorrelation
  build : OperationalBuildIdentity
  error : Option OperationalErrorIdentity
  attributes : Fields

def components : List String :=
  ["app", "android_host", "windows_host", "windows_service", "core", "portal", "worker"]

def subsystems : List String :=
  ["bootstrap", "auth", "api", "entitlement", "connection", "core", "tun", "routing", "dns",
   "egress", "recovery", "update", "windows_service", "android_host", "crash", "performance",
   "support", "security"]

def stages : List String :=
  ["request", "initialize", "validate", "prepare", "start", "apply", "verify", "commit", "run",
   "retry", "stop", "rollback", "recover", "build", "preview", "upload", "complete"]

/-- What an outcome and the presence of an error ask of each other. -/
def checkOutcome (hasError : Bool) (outcome : ObservabilityOutcome) : Except ArgumentError Unit :=
  if hasError = false ∧ (outcome = .failed ∨ outcome = .blocked) then
    .error (.plain "failed/blocked events require a catalog error")
  else if hasError = true ∧ outcome ≠ .failed ∧ outcome ≠ .blocked ∧ outcome ≠ .degraded then
    .error (.plain "catalog errors require failed/blocked/degraded outcome")
  else .ok ()

def OperationalEvent.Arguments.check (a : Arguments) : Except ArgumentError Unit := do
  require (isUuid a.eventId) "event_id"
  require (anyOf components a.component) "component"
  require (anyOf subsystems a.subsystem) "subsystem"
  require (anyOf stages a.stage) "stage"
  require (isEventName a.name) "name"
  checkOutcome a.error.isSome a.outcome
  OperationalAttributePolicy.validate a.attributes a.privacyClass

structure OperationalEvent extends OperationalEvent.Arguments where
  accepted : toArguments.check = .ok ()

/-- The constructor. -/
def OperationalCorrelation.new (a : Arguments) : Except ArgumentError OperationalCorrelation :=
  match accepted : a.check with
  | .ok () => .ok ⟨a, accepted⟩
  | .error e => .error e

namespace OperationalEvent

/-- The constructor. -/
def new (a : Arguments) : Except ArgumentError OperationalEvent :=
  match accepted : a.check with
  | .ok () => .ok ⟨a, accepted⟩
  | .error e => .error e

theorem new_eq_ok {a : Arguments} {event : OperationalEvent} (h : new a = .ok event) :
    event.toArguments = a := by
  unfold new at h
  split at h
  · cases h
    rfl
  · cases h

theorem exists_new {a : Arguments} (h : a.check = .ok ()) : ∃ event, new a = .ok event := by
  unfold new
  split
  · exact ⟨_, rfl⟩
  · next e he => rw [h] at he; cases he

def isSecurity (event : OperationalEvent) : Bool := decide (event.subsystem = text "security")

def priority (event : OperationalEvent) : Nat :=
  if event.isSecurity = true ∨ event.severity = .fatal then 5
  else match event.severity with
    | .error => 4
    | .warn => 3
    | .info => 2
    | .debug => 1
    | .trace => 0
    | .fatal => 5

theorem priority_le (event : OperationalEvent) : event.priority ≤ 5 := by
  unfold priority
  split
  · exact Nat.le_refl 5
  · split <;> omega

end OperationalEvent

/-! ### A sample -/

def OperationalCorrelation.sample : OperationalCorrelation where
  traceId := text "0123456789abcdef0123456789abcdef"
  spanId := text "0123456789abcdef"
  parentSpanId := none
  runId := none
  attemptId := none
  generation := 0
  sequence := 0
  accepted := rfl

def OperationalBuildIdentity.sample : OperationalBuildIdentity where
  appVersion := text "1.0.0"
  buildNumber := text "1"
  channel := text "stable"
  candidateLabel := text "pokrov-a1"
  gitRevision := text "0123456789abcdef0123456789abcdef01234567"
  coreVersion := none
  coreAbi := none
  platform := text "android"
  architecture := text "arm64"
  accepted := rfl

/-- An event of some severity, with no identifier of a run or of an attempt. -/
def OperationalEvent.sample (severity : ObservabilitySeverity) : OperationalEvent where
  eventId := text "00000000-0000-4000-8000-000000000000"
  occurredAtUtc := ⟨0, by decide, by decide⟩
  component := text "app"
  subsystem := text "core"
  stage := text "run"
  name := text "app.core.run"
  severity := severity
  outcome := .succeeded
  privacyClass := .localOperational
  correlation := .sample
  build := .sample
  error := none
  attributes := []
  accepted := rfl

end Pokrov.Observability
