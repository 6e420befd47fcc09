import Mathlib.Data.List.Infix
import Pokrov.Android.ConnectRequestOwner

/-!
# The runtime state of the Android host

`AndroidRuntimeState`: what the VPN service, the bridge, the probes and the
network callbacks write, each a part of it under one monitor, and the snapshot
that is read from it. What the platform answers is an argument, as are the time
and what Kotlin's `lowercase` makes of a text.
-/

namespace Pokrov.Android

/-! ## Texts -/

/-- `Char.isWhitespace`. -/
def isWhitespace (c : Char) : Bool :=
  let n := c.toNat
  decide (9 ≤ n ∧ n ≤ 13) || decide (28 ≤ n ∧ n ≤ 32) || n = 0xa0 || n = 0x1680 ||
    decide (0x2000 ≤ n ∧ n ≤ 0x200a) || n = 0x2028 || n = 0x2029 || n = 0x202f || n = 0x205f ||
    n = 0x3000

def isNullOrBlank : Option String → Bool
  | none => true
  | some value => value.toList.all isWhitespace

def startsWith (value start : String) : Bool := start.toList.isPrefixOf value.toList

def containsText (value part : String) : Bool := decide (part.toList <:+: value.toList)

/-- `^[0-9a-f]{64}$`. -/
def isSha256Hex (value : String) : Bool :=
  decide (value.toList.length = 64) &&
    value.toList.all fun c => ('0' ≤ c && c ≤ '9') || ('a' ≤ c && c ≤ 'f')

def isRuntimeProfileDigest : Option String → Bool
  | none => false
  | some value => isSha256Hex value

/-- `[0-9]+\.[0-9]+\.[0-9]+`. -/
def isCoreVersion (value : String) : Bool :=
  let parts := value.toList.splitOn '.'
  decide (parts.length = 3) && parts.all fun part => !part.isEmpty && part.all Char.isDigit

namespace AndroidRuntimeSafety

def publicHostFailureMessage (kind : String) : String :=
  if kind = "runtime_initialization_failed" then "POKROV не смог подготовить устройство."
  else if kind ∈ ["runtime_start_after_permission_failed", "runtime_start_failed",
      "runtime_service_start_failed"] then
    "POKROV не смог подключиться на этом устройстве."
  else if kind = "foreground_start_failed" then "POKROV не смог запустить системное подключение."
  else if kind = "runtime_stop_failed" then "POKROV не смог корректно отключиться."
  else if kind = "core_egress_probe_failed" then "POKROV не подтвердил защищенное подключение."
  else if kind = "core_egress_connect_failed" then
    "Не удалось соединиться с сервером проверки через подключение."
  else if kind = "core_egress_tls_failed" then "Не удалось согласовать TLS с сервером проверки."
  else if kind = "core_egress_timeout" then
    "Проверка подключения не завершилась вовремя. Причина не установлена."
  else if kind = "core_egress_probe_unavailable" then
    "POKROV не завершил проверку защищенного подключения. Попробуйте еще раз."
  else if kind = "core_identity_mismatch" then
    "Модуль подключения изменился. Обновите POKROV и повторите подключение."
  else if kind = "connect_deadline" then
    "Время подготовки подключения истекло. Попробуйте подключиться снова."
  else if kind = "profile_identity_mismatch" then
    "Изменение профиля не применено. Обновите настройки подключения POKROV."
  else if kind = "profile_staging_failed" then
    "POKROV не смог подготовить настройки подключения."
  else if kind = "config_apply_failed" then "POKROV не смог применить настройки подключения."
  else if kind = "vpn_permission_denied" then
    "Android не получил разрешение на VPN. Нажмите «Разрешить VPN» и подтвердите системный запрос."
  else if kind = "notification_permission_denied" then
    "Системное уведомление POKROV скрыто в настройках Android."
  else if kind ∈ ["resolver_response_error", "resolver_callback_error", "resolver_timeout",
      "default_network_unavailable"] then
    "POKROV не смог подтвердить DNS-подключение устройства."
  else "POKROV не смог завершить это действие на устройстве."

def publicFailureMessage (kind : String) : String :=
  if startsWith kind "dns_" then
    "POKROV подключил системный VPN, но DNS через защищенный канал не работает."
  else if startsWith kind "vless_" || startsWith kind "reality_" || kind = "tls_handshake_failed" then
    "POKROV подключил системный VPN, но защищенный канал до локации не отвечает."
  else publicHostFailureMessage kind

end AndroidRuntimeSafety

/-! ## What is kept -/

structure AndroidPackagedCoreLocation where
  artifactDirectory : String
  coreBinaryPath : String

structure AndroidRuntimeEnvironment where
  artifactDirectory : String
  coreBinaryPath : String
  baseDirectory : String
  workingDirectory : String
  tempDirectory : String
  configDirectory : String

inductive AndroidRuntimePhase
  | artifactMissing
  | artifactReady
  | initialized
  | configStaged
  | running
deriving DecidableEq

inductive AndroidTunnelTrafficSampleState
  | unavailable
  | warming
  | available
  | reset
  | overflow

structure AndroidTunnelTrafficSnapshot where
  state : AndroidTunnelTrafficSampleState
  uplinkBps : Option Int64 := none
  downlinkBps : Option Int64 := none
  uplinkTotalBytes : Option Int64 := none
  downlinkTotalBytes : Option Int64 := none

structure AndroidAwgSafeDiagnostic where
  code : String
  occurrence : Int

/-- An error, with what `AndroidRuntimeSafety` makes of it. -/
structure Throwable where
  safeFailureSignature : String
  safeCoreFailureHints : String

/-- What reflection finds of the loaded Core, none where a name or a method that it
needs is missing. -/
structure CoreBinding where
  slipstreamConfigured : Bool
  routingCatalogWindowVersion : Option Int
  smartAccessLeaseVersion : Option Int
  routingCatalogControlVersion : Option Int
  smartAccessRuntimeControlVersion : Option Int
  transportCapabilities : Option String
  coreModuleSha256 : Option String
  coreVersion : Option String

structure AndroidRuntimeState where
  environment : Option AndroidRuntimeEnvironment := none
  phase : AndroidRuntimePhase := .artifactMissing
  stagedConfigPath : Option String := none
  lastMessage : String := "POKROV has not checked this device yet."
  lastRunningMessage : Option String := none
  runningSince : Option String := none
  defaultNetworkInterface : Option String := none
  defaultNetworkIndex : Option Int := none
  dnsReady : Bool := false
  vpnValidated : Option Bool := none
  coreEgressValidated : Option Bool := none
  coreEgressValidatedAt : Option String := none
  stagedProfileDigest : Option String := none
  stagedRequiresBoundConnect : Bool := false
  activeProfileDigest : Option String := none
  coreEgressValidationRequired : Bool := true
  routingCatalogWindowVersion : Int := 0
  smartAccessLeaseVersion : Int := 0
  smartAccessRuntimeControlVersion : Int := 0
  routingCatalogControlVersion : Int := 0
  transportCapabilitiesJson : Option String := none
  slipstreamClientReady : Bool := false
  coreModuleSha256 : Option String := none
  coreVersion : Option String := none
  lastFailureKind : Option String := none
  lastFailureSignature : Option String := none
  lastFailureHints : Option String := none
  lastFailureStartupPhase : Option String := none
  lastStopReason : Option String := none
  awgSafeDiagnosticCode : Option String := none
  awgSafeDiagnosticOccurrence : Option Int := none
  localDpiObservationSummary : Option String := none
  ipv4RouteCount : Int := 0
  ipv6RouteCount : Int := 0
  includePackageCount : Int := 0
  excludePackageCount : Int := 0
  systemNotificationWarning : Bool := false
  connectionPending : Bool := false
  tunnelTrafficGeneration : Int64 := 0
  tunnelTraffic : AndroidTunnelTrafficSnapshot := { state := .unavailable }

namespace AndroidRuntimeState

variable (lowercase : String → String) (s : AndroidRuntimeState)

/-! ## Kinds of failures -/

def isResolverFailureKind : Option String → Bool
  | none => false
  | some value => startsWith (lowercase value) "resolver_" || startsWith (lowercase value) "dns_"

def isDefaultNetworkFailureKind : Option String → Bool
  | none => false
  | some value => startsWith (lowercase value) "default_network_"

def isDnsFailureKind (value : Option String) : Bool :=
  isResolverFailureKind lowercase value || isDefaultNetworkFailureKind lowercase value

def shouldPreserveFailureMessage : Bool :=
  ["failed", "denied", "missing", "invalid", "error"].any fun part =>
    containsText (lowercase s.lastMessage) part

/-! ## Traffic -/

def clearTunnelTrafficValues : AndroidRuntimeState :=
  { s with localDpiObservationSummary := none, tunnelTraffic := { state := .unavailable } }

def invalidateTunnelTrafficSession : AndroidRuntimeState :=
  { s with tunnelTrafficGeneration := s.tunnelTrafficGeneration + 1 }.clearTunnelTrafficValues

def beginTunnelTrafficSession (generation : Int64) : AndroidRuntimeState :=
  { s with tunnelTrafficGeneration := generation }.clearTunnelTrafficValues

def updateTunnelTraffic (generation : Int64) (snapshot : AndroidTunnelTrafficSnapshot) :
    AndroidRuntimeState :=
  if generation ≠ s.tunnelTrafficGeneration then s else { s with tunnelTraffic := snapshot }

def endTunnelTrafficSession (generation : Option Int64) : AndroidRuntimeState :=
  if generation.isSome && generation ≠ some s.tunnelTrafficGeneration then s
  else s.invalidateTunnelTrafficSession

def updateLocalDpiObservation (generation : Int64) (summary : Option String) : AndroidRuntimeState :=
  if generation = s.tunnelTrafficGeneration then { s with localDpiObservationSummary := summary } else s

/-! ## The environment -/

def ensureCompiledTransportCapabilities (read : Option String) : AndroidRuntimeState :=
  if s.transportCapabilitiesJson.isSome then s
  else
    { s with
      transportCapabilitiesJson := read.filter fun value =>
        decide (1 ≤ value.toList.length ∧ value.toList.length ≤ 4096) &&
          value.toList.all fun c => decide (32 ≤ c.toNat ∧ c.toNat ≤ 126) }

def environmentOf (packagedCore : AndroidPackagedCoreLocation) (filesDir : String) :
    AndroidRuntimeEnvironment where
  artifactDirectory := packagedCore.artifactDirectory
  coreBinaryPath := packagedCore.coreBinaryPath
  baseDirectory := filesDir ++ "/pokrov-runtime"
  workingDirectory := filesDir ++ "/pokrov-runtime/working"
  tempDirectory := filesDir ++ "/pokrov-runtime/temp"
  configDirectory := filesDir ++ "/pokrov-runtime/working/configs"

/-- The Core that the locator finds, if any, and what is read of its transports. -/
def resolveEnvironment (packagedCore : Option AndroidPackagedCoreLocation) (filesDir : String)
    (capabilities : Option String) : AndroidRuntimeState :=
  match packagedCore with
  | none =>
    { { s with
        environment := none
        slipstreamClientReady := false
        phase := .artifactMissing
        stagedConfigPath := none
        stagedProfileDigest := none
        stagedRequiresBoundConnect := false
        activeProfileDigest := none
        coreEgressValidated := none
        runningSince := none }.invalidateTunnelTrafficSession with
      lastMessage := "В этой сборке для Android нет модуля подключения."
      dnsReady := false
      defaultNetworkInterface := none
      defaultNetworkIndex := none }
  | some core =>
    let s := { s with environment := some (environmentOf core filesDir) }
    let s := s.ensureCompiledTransportCapabilities capabilities
    if s.phase = .artifactMissing then
      { s with
        phase := .artifactReady
        lastMessage := "POKROV found the packaged runtime and can get this device ready." }
    else s

def readRoutingCatalogWindowVersion (binding : CoreBinding) : Int :=
  if binding.routingCatalogWindowVersion = some 1 then 1 else 0

def readSmartAccessLeaseVersion (binding : CoreBinding) : Int :=
  if binding.smartAccessLeaseVersion = some 1 ∧ s.routingCatalogWindowVersion = 1 then 1 else 0

def readRoutingCatalogControlVersion (binding : CoreBinding) : Int :=
  match binding.routingCatalogControlVersion with
  | none => 0
  | some version =>
    if (1 ≤ version ∧ version ≤ 4) ∧ s.routingCatalogWindowVersion = 1 ∧
        (version = 1 ∨ s.smartAccessLeaseVersion = 1) then version
    else 0

def readSmartAccessRuntimeControlVersion (binding : CoreBinding) : Int :=
  if binding.smartAccessRuntimeControlVersion = some 1 ∧ 2 ≤ s.routingCatalogControlVersion then 1
  else 0

/-- `initialize` once the Core is set up. -/
def bound (binding : CoreBinding) : AndroidRuntimeState :=
  let s := { s with routingCatalogWindowVersion := readRoutingCatalogWindowVersion binding }
  let s := { s with smartAccessLeaseVersion := s.readSmartAccessLeaseVersion binding }
  let s := { s with routingCatalogControlVersion := s.readRoutingCatalogControlVersion binding }
  let s := { s with smartAccessRuntimeControlVersion := s.readSmartAccessRuntimeControlVersion binding }
  let s := s.ensureCompiledTransportCapabilities binding.transportCapabilities
  { s with
    slipstreamClientReady := binding.slipstreamConfigured &&
      s.transportCapabilitiesJson.any fun json => containsText json "\"slipstream_vless_v1\""
    coreModuleSha256 := binding.coreModuleSha256.filter isSha256Hex
    coreVersion := binding.coreVersion.filter isCoreVersion
    phase := if s.phase = .running then .running else .initialized
    lastMessage := "POKROV подготовил устройство." }

/-- The set-up gives a binding, or throws. -/
def initializeRuntime (packagedCore : Option AndroidPackagedCoreLocation) (filesDir : String)
    (capabilities : Option String) (setup : Option CoreBinding) : AndroidRuntimeState :=
  let s :=
    { s with
      routingCatalogWindowVersion := 0
      smartAccessLeaseVersion := 0
      smartAccessRuntimeControlVersion := 0
      routingCatalogControlVersion := 0
      transportCapabilitiesJson := none
      slipstreamClientReady := false
      coreModuleSha256 := none
      coreVersion := none }
  let s := s.resolveEnvironment packagedCore filesDir capabilities
  if packagedCore.isNone then s
  else
    match setup with
    | some binding => s.bound binding
    | none =>
      { s with
        slipstreamClientReady := false
        phase := .artifactReady
        connectionPending := false
        lastFailureKind := some "runtime_initialization_failed"
        lastMessage := AndroidRuntimeSafety.publicFailureMessage "runtime_initialization_failed" }

/-! ## The profile -/

def markProfileStaged (path : String) (preserveConnectionPending : Bool)
    (profileDigest : Option String) (requiresBoundConnect : Bool) : AndroidRuntimeState :=
  let staged := profileDigest.filter fun digest => isRuntimeProfileDigest (some digest)
  { s with
    lastFailureSignature := none
    stagedConfigPath := some path
    stagedProfileDigest := staged
    stagedRequiresBoundConnect := requiresBoundConnect
    coreEgressValidated := if s.activeProfileDigest ≠ staged then none else s.coreEgressValidated
    phase := .configStaged
    connectionPending := if preserveConnectionPending then s.connectionPending else false
    lastFailureKind := if s.systemNotificationWarning then s.lastFailureKind else none
    lastStopReason := none
    lastMessage :=
      if s.systemNotificationWarning then
        AndroidRuntimeSafety.publicFailureMessage "notification_permission_denied"
      else "POKROV подготовил профиль для этого устройства." }

def invalidateStagedProfile (expectedDigest : Option String) : AndroidRuntimeState :=
  if expectedDigest.isSome && s.stagedProfileDigest ≠ expectedDigest then s
  else
    let s :=
      { s with
        stagedConfigPath := none
        stagedProfileDigest := none
        stagedRequiresBoundConnect := false
        connectionPending := false }
    if s.phase ≠ .running then
      { s with
        phase := if s.environment.isSome then .initialized else .artifactMissing
        lastMessage := "Настройки POKROV изменены. Перед подключением обновите профиль." }
    else s

def markConnectionRequested : AndroidRuntimeState :=
  { s with
    connectionPending := true
    vpnValidated := none
    coreEgressValidated := none
    awgSafeDiagnosticCode := none
    awgSafeDiagnosticOccurrence := none }.invalidateTunnelTrafficSession

def egressProbeDiagnosticPrefix : String := "egress_probe_"

def recordAwgSafeDiagnostic (diagnostic : AndroidAwgSafeDiagnostic) : AndroidRuntimeState :=
  if (s.awgSafeDiagnosticCode.any fun code => startsWith code egressProbeDiagnosticPrefix) &&
      !startsWith diagnostic.code egressProbeDiagnosticPrefix then s
  else
    { s with
      awgSafeDiagnosticCode := some diagnostic.code
      awgSafeDiagnosticOccurrence := some diagnostic.occurrence }

def cancelPendingConnection : AndroidRuntimeState := { s with connectionPending := false }

def markPermissionRequested : AndroidRuntimeState :=
  { s with
    connectionPending := true
    lastMessage :=
      if s.systemNotificationWarning then
        AndroidRuntimeSafety.publicFailureMessage "notification_permission_denied"
      else "Android просит разрешение, чтобы POKROV мог подключить это устройство." }

/-- It throws where the text is no digest. -/
def bindActiveProfile (profileDigest : String) : Option AndroidRuntimeState :=
  if isRuntimeProfileDigest (some profileDigest) then
    some { s with activeProfileDigest := some profileDigest, coreEgressValidated := none }
  else none

/-! ## Running and stopping -/

def markRunning (message now : String) : AndroidRuntimeState :=
  let s :=
    { s with
      lastFailureSignature := none
      phase := .running
      connectionPending := false
      lastStopReason := none
      runningSince := if isNullOrBlank s.runningSince then some now else s.runningSince
      lastRunningMessage := some message }
  if s.systemNotificationWarning then
    { s with
      lastFailureKind := some "notification_permission_denied"
      lastMessage := AndroidRuntimeSafety.publicFailureMessage "notification_permission_denied" }
  else { s with lastFailureKind := none, lastMessage := message }

/-- The phase that is left once nothing runs. -/
def phaseAtRest : AndroidRuntimePhase :=
  if s.stagedConfigPath.isSome then .configStaged
  else if s.environment.isSome then .initialized
  else .artifactMissing

def markStopRequested (message stopReason : String) : AndroidRuntimeState :=
  { { s with
      activeProfileDigest := none
      connectionPending := false
      phase := s.phaseAtRest
      lastStopReason := some stopReason
      runningSince := none
      vpnValidated := none
      coreEgressValidated := none }.invalidateTunnelTrafficSession with
    lastMessage := message }

/-- The message of a stop that has come to its end. -/
def settleStop (message stopReason : String) : AndroidRuntimeState :=
  if stopReason = "user_requested" then
    { s with lastFailureKind := none, lastFailureSignature := none, lastMessage := message }
  else if message = "POKROV отключен на этом устройстве." ∧
      s.shouldPreserveFailureMessage lowercase = true then s
  else { s with lastMessage := message }

def markStopped (message stopReason : String) : AndroidRuntimeState :=
  { s with
    activeProfileDigest := none
    connectionPending := false
    phase := s.phaseAtRest
    lastStopReason := some stopReason
    runningSince := none
    vpnValidated := none
    coreEgressValidated := none }.invalidateTunnelTrafficSession.settleStop lowercase message stopReason

def markStoppedAfterCoreEgressFailure (failureKind message stopReason : String) :
    AndroidRuntimeState :=
  { { s with
      activeProfileDigest := none
      connectionPending := false
      stagedConfigPath := none
      stagedProfileDigest := none
      stagedRequiresBoundConnect := false
      phase := if s.environment.isSome then .initialized else .artifactMissing
      lastFailureKind := some failureKind
      lastStopReason := some stopReason
      runningSince := none
      vpnValidated := none
      coreEgressValidated := some false }.invalidateTunnelTrafficSession with
    lastMessage := message }

def markFailure (kind message : String) (error : Option Throwable) (startupPhase : Option String) :
    AndroidRuntimeState :=
  let s :=
    { s with
      lastFailureSignature := error.map Throwable.safeFailureSignature
      lastFailureHints := error.map Throwable.safeCoreFailureHints
      lastFailureStartupPhase := startupPhase
      coreEgressValidated := none
      activeProfileDigest := none
      connectionPending := false
      runningSince := none }.invalidateTunnelTrafficSession
  { s with
    phase :=
      if s.environment.isNone then .artifactMissing
      else if s.stagedConfigPath.isSome then .configStaged
      else .initialized
    lastFailureKind := some kind
    lastMessage := message }

def markDegraded (failureKind message : String) : AndroidRuntimeState :=
  { s with
    lastFailureKind := some failureKind
    lastMessage := if s.phase = .running then message else s.lastMessage }

def markConnectionPending : AndroidRuntimeState :=
  { s with
    connectionPending := true
    lastMessage :=
      if s.phase ≠ .running ∧ s.systemNotificationWarning = false then
        "POKROV готовит подключение на этом устройстве."
      else s.lastMessage }

/-! ## Warnings and the network -/

/-- While the tunnel runs, its message again. -/
def runningMessageAgain : String :=
  if s.phase = .running ∧ isNullOrBlank s.lastRunningMessage = false then
    s.lastRunningMessage.getD s.lastMessage
  else s.lastMessage

def markSystemNotificationWarning : AndroidRuntimeState :=
  { s with
    systemNotificationWarning := true
    lastFailureKind := some "notification_permission_denied"
    lastMessage := AndroidRuntimeSafety.publicFailureMessage "notification_permission_denied" }

def clearSystemNotificationWarning : AndroidRuntimeState :=
  if s.systemNotificationWarning = false then s
  else
    { s with
      systemNotificationWarning := false
      lastFailureKind :=
        if s.lastFailureKind = some "notification_permission_denied" then none else s.lastFailureKind
      lastMessage := s.runningMessageAgain }

def recordFailureKind (kind : String) : AndroidRuntimeState := { s with lastFailureKind := some kind }

def markDnsOperational : AndroidRuntimeState :=
  { s with
    lastFailureKind :=
      if isResolverFailureKind lowercase s.lastFailureKind then none else s.lastFailureKind
    lastMessage := if s.dnsReady then s.runningMessageAgain else s.lastMessage }

def updateDefaultNetwork (interfaceName : Option String) (interfaceIndex : Option Int)
    (dnsReady : Bool) : AndroidRuntimeState :=
  { s with
    defaultNetworkInterface := interfaceName
    defaultNetworkIndex := interfaceIndex
    dnsReady := dnsReady
    lastFailureKind :=
      if dnsReady && isDefaultNetworkFailureKind lowercase s.lastFailureKind then none
      else s.lastFailureKind
    lastMessage := if dnsReady then s.runningMessageAgain else s.lastMessage }

def markDnsTransportFailure (failureKind message : String) : AndroidRuntimeState :=
  { s with
    dnsReady := false
    lastFailureKind := some failureKind
    lastMessage := if s.phase = .running then message else s.lastMessage }

def updateVpnValidation (validated : Option Bool) : AndroidRuntimeState :=
  { s with
    vpnValidated := validated
    lastMessage :=
      if validated = some true ∧ isNullOrBlank s.lastFailureKind = true then s.runningMessageAgain
      else s.lastMessage }

/-! ## The proof of egress -/

/-- Whether a proof is one of the profile that runs. -/
def provesActiveProfile : Bool :=
  s.activeProfileDigest.isSome && (s.activeProfileDigest = s.stagedProfileDigest ||
    (decide (s.phase = .running) && s.stagedProfileDigest.isNone && s.stagedConfigPath.isNone))

def coreEgressFailureKinds : List String :=
  ["core_egress_probe_failed", "core_egress_dns_failed", "core_egress_connect_failed",
    "core_egress_tls_failed", "core_egress_timeout", "core_egress_probe_unavailable"]

def updateCoreEgressValidation (validated : Option Bool) (now : String) : AndroidRuntimeState :=
  let proven := if validated = some true then some s.provesActiveProfile else validated
  let s :=
    { s with
      coreEgressValidated := proven
      coreEgressValidatedAt := if proven = some true then some now else none }
  if validated = some true ∧ proven ≠ some true then
    { s with
      lastFailureKind := some "profile_identity_mismatch"
      lastMessage := AndroidRuntimeSafety.publicFailureMessage "profile_identity_mismatch" }
  else
    let s :=
      { s with
        lastFailureKind :=
          if proven = some true ∧ s.phase = AndroidRuntimePhase.running ∧
              s.lastFailureKind.any (coreEgressFailureKinds.contains ·) = true then none
          else s.lastFailureKind }
    { s with
      lastMessage :=
        if validated = some true ∧ isNullOrBlank s.lastFailureKind = true then s.runningMessageAgain
        else s.lastMessage }

def updateCoreEgressRequirement (required : Bool) : AndroidRuntimeState :=
  { s with
    coreEgressValidationRequired := required
    coreEgressValidated := if required then s.coreEgressValidated else none }

def recordTunConfiguration (ipv4RouteCount ipv6RouteCount includePackageCount
    excludePackageCount : Int) : AndroidRuntimeState :=
  { s with ipv4RouteCount, ipv6RouteCount, includePackageCount, excludePackageCount }

/-! ## Reconciliation -/

/-- The parts of a message that the running message replaces. -/
def waitingMessageParts : List String :=
  ["staged", "setup step", "permission requested", "ready to connect", "not checked",
    "подготовил профиль", "подготовил устройство", "просит разрешение", "готов"]

def reconcileActiveRuntime (tunEstablished : Bool) (runningMessage : Option String) :
    AndroidRuntimeState :=
  if tunEstablished = false then
    if s.phase = .running then
      s.markStopped lowercase "POKROV отключен на этом устройстве." "service_destroyed"
    else s
  else if s.phase ≠ .running ∧ s.coreEgressValidated = some false then s
  else
    let resolvedMessage :=
      if isNullOrBlank runningMessage = false then runningMessage.getD ""
      else if isNullOrBlank s.lastRunningMessage = false then s.lastRunningMessage.getD ""
      else "POKROV включен на этом устройстве."
    let s :=
      { s with
        phase := .running
        connectionPending := false
        lastStopReason := none
        lastRunningMessage := some resolvedMessage }
    if s.systemNotificationWarning then
      { s with
        lastFailureKind := some "notification_permission_denied"
        lastMessage := AndroidRuntimeSafety.publicFailureMessage "notification_permission_denied" }
    else if waitingMessageParts.any fun part => containsText (lowercase s.lastMessage) part then
      { s with lastMessage := resolvedMessage }
    else s

/-! ## The snapshot -/

/-- `unknown`, `degraded` or `healthy`. -/
inductive Health
  | unknown
  | degraded
  | healthy
deriving DecidableEq

def currentDnsState : Health :=
  if s.phase ≠ .running then .unknown
  else if isDnsFailureKind lowercase s.lastFailureKind then .degraded
  else if s.dnsReady then .healthy
  else .degraded

def currentUplinkState : Health :=
  if s.phase ≠ .running then .unknown
  else if isDefaultNetworkFailureKind lowercase s.lastFailureKind then .degraded
  else if isNullOrBlank s.defaultNetworkInterface = false ∧
      (s.defaultNetworkIndex.any fun index => decide (0 ≤ index)) = true then .healthy
  else .degraded

def currentHostHealth : Health :=
  if s.phase ≠ .running then .unknown
  else if s.currentDnsState lowercase = .degraded then .degraded
  else if s.currentUplinkState lowercase = .degraded then .degraded
  else if isNullOrBlank s.lastFailureKind = false then .degraded
  else if s.coreEgressValidationRequired = true ∧ s.coreEgressValidated = some false then .degraded
  else if (s.coreEgressValidationRequired = false ∨ s.coreEgressValidated = some true) ∧
      s.currentDnsState lowercase = .healthy ∧ s.currentUplinkState lowercase = .healthy then .healthy
  else if s.vpnValidated = some false then .degraded
  else .unknown

def currentDiagnosticsSummary (hostHealth dnsState uplinkState : Health) : Option String :=
  if s.phase ≠ .running then none
  else
    let network :=
      if isNullOrBlank s.defaultNetworkInterface = false ∧ s.defaultNetworkIndex.isSome = true then
        ["Сеть готова"]
      else if isNullOrBlank s.defaultNetworkInterface = false then ["Сеть определяется"]
      else if uplinkState = .degraded then ["Сеть не определена"]
      else []
    let details := network ++ [if s.dnsReady then "DNS готов" else "DNS ждет"] ++
      (if s.vpnValidated = some false then ["Интернет не подтвержден"] else []) ++
      (if s.coreEgressValidationRequired = true ∧ s.coreEgressValidated = some false then
        ["Выход в интернет не подтвержден"] else []) ++
      ["Правила v4=" ++ toString s.ipv4RouteCount ++ " v6=" ++ toString s.ipv6RouteCount] ++
      s.localDpiObservationSummary.toList ++
      (if 0 < s.includePackageCount ∨ 0 < s.excludePackageCount then
        ["Приложения include=" ++ toString s.includePackageCount ++ " exclude=" ++
          toString s.excludePackageCount] else []) ++
      (if isNullOrBlank s.lastFailureKind = false then
        ["Последняя ошибка " ++ s.lastFailureKind.getD ""] else [])
    if details.isEmpty then
      match hostHealth with
      | .healthy => some "Диагностика Android без замечаний."
      | .degraded =>
        if dnsState = .degraded ∨ uplinkState = .degraded then
          some "Диагностика Android сообщает предупреждение."
        else some "Android завершает проверку после подключения."
      | .unknown => none
    else some (" | ".intercalate details)

/-- The fields of a snapshot that are read from the state and from the owner of the
request. -/
structure Snapshot where
  phase : AndroidRuntimePhase
  transportProofPending : Bool
  transportLeaseActive : Bool
  routingCatalogWindowVersion : Int
  smartAccessLeaseVersion : Int
  smartAccessRuntimeControlVersion : Int
  routingCatalogControlVersion : Int
  transportCapabilitiesJson : Option String
  slipstreamClientReady : Bool
  coreModuleSha256 : Option String
  coreVersion : Option String
  artifactDirectory : Option String
  coreBinaryPath : Option String
  stagedConfigPath : Option String
  stagedProfileDigest : Option String
  effectiveProfileDigest : Option String
  canInitialize : Bool
  canConnect : Bool
  hostHealth : Health
  dnsState : Health
  uplinkState : Health
  hostDiagnosticsSummary : Option String
  defaultNetworkInterface : Option String
  defaultNetworkIndex : Option Int
  dnsReady : Bool
  vpnValidated : Option Bool
  coreEgressValidated : Option Bool
  coreEgressValidationRequired : Bool
  coreEgressValidatedAt : Option String
  lastFailureKind : Option String
  safeFailureSignature : Option String
  safeFailureHints : Option String
  safeFailurePhase : Option String
  lastStopReason : Option String
  safeProtocolDiagnosticCode : Option String
  safeProtocolDiagnosticOccurrence : Option Int
  ipv4RouteCount : Int
  ipv6RouteCount : Int
  includePackageCount : Int
  excludePackageCount : Int
  systemNotificationWarning : Bool
  connectionPending : Bool
  message : String

def snapshot (owner : AndroidConnectRequestOwner) : Snapshot :=
  let hostHealth := s.currentHostHealth lowercase
  let dnsState := s.currentDnsState lowercase
  let uplinkState := s.currentUplinkState lowercase
  let proven := decide (s.phase = .running ∧ s.coreEgressValidated = some true)
  let failed := s.lastFailureKind.isSome
  let signed := s.lastFailureSignature.isSome && failed
  { phase := s.phase
    transportProofPending := owner.proofPending
    transportLeaseActive := owner.leaseActive
    routingCatalogWindowVersion := s.routingCatalogWindowVersion
    smartAccessLeaseVersion := s.smartAccessLeaseVersion
    smartAccessRuntimeControlVersion := s.smartAccessRuntimeControlVersion
    routingCatalogControlVersion := s.routingCatalogControlVersion
    transportCapabilitiesJson := s.transportCapabilitiesJson
    slipstreamClientReady := s.slipstreamClientReady
    coreModuleSha256 := s.coreModuleSha256
    coreVersion := s.coreVersion
    artifactDirectory := s.environment.map AndroidRuntimeEnvironment.artifactDirectory
    coreBinaryPath := s.environment.map AndroidRuntimeEnvironment.coreBinaryPath
    stagedConfigPath := s.stagedConfigPath
    stagedProfileDigest := s.stagedProfileDigest
    effectiveProfileDigest := if proven then s.activeProfileDigest else none
    canInitialize := s.environment.isSome
    canConnect := s.environment.isSome && s.stagedConfigPath.isSome && !s.stagedRequiresBoundConnect
    hostHealth, dnsState, uplinkState
    hostDiagnosticsSummary := s.currentDiagnosticsSummary hostHealth dnsState uplinkState
    defaultNetworkInterface := s.defaultNetworkInterface
    defaultNetworkIndex := s.defaultNetworkIndex
    dnsReady := s.dnsReady
    vpnValidated := s.vpnValidated
    coreEgressValidated := s.coreEgressValidated
    coreEgressValidationRequired := s.coreEgressValidationRequired
    coreEgressValidatedAt := if proven then s.coreEgressValidatedAt else none
    lastFailureKind := s.lastFailureKind
    safeFailureSignature := if failed then s.lastFailureSignature else none
    safeFailureHints := if signed then s.lastFailureHints else none
    safeFailurePhase := if signed then s.lastFailureStartupPhase else none
    lastStopReason := s.lastStopReason
    safeProtocolDiagnosticCode := s.awgSafeDiagnosticCode
    safeProtocolDiagnosticOccurrence := s.awgSafeDiagnosticOccurrence
    ipv4RouteCount := s.ipv4RouteCount
    ipv6RouteCount := s.ipv6RouteCount
    includePackageCount := s.includePackageCount
    excludePackageCount := s.excludePackageCount
    systemNotificationWarning := s.systemNotificationWarning
    connectionPending := s.connectionPending
    message := s.lastMessage }

end AndroidRuntimeState

end Pokrov.Android
