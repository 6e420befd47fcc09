import Pokrov.Windows.Service.Host
import Pokrov.Windows.Service.Recovery

/-!
# The runtime host: connecting and rolling back

The operations of `RuntimeHost` that move the recovery journal or start Core.
`ConnectImpl` is cut at its long steps; every exit of the source is an exit
here, with the same status, text and state.
-/

namespace Pokrov.Windows.Service

open Codec Effects

/-- The host and the recovery object it owns. -/
structure Runtime where
  host : RuntimeHost
  recovery : DurableRuntimeRecovery

abbrev RuntimeAct := Act Machine Runtime

def onHost {α : Type} (m : HostAct α) : RuntimeAct α :=
  confined Runtime.host (fun host s => { s with host }) m

def onRecovery {α : Type} (m : Act Machine DurableRuntimeRecovery α) : RuntimeAct α :=
  zoom Runtime.recovery (fun recovery s => { s with recovery }) m

namespace Runtime

variable (F : Functions)

def fail (status : Status) (failure : String) : RuntimeAct RuntimeResult :=
  onHost (RuntimeHost.fail F status failure)

def snapshot : RuntimeAct RuntimeResult := onHost (RuntimeHost.snapshot F)

def getHost : RuntimeAct RuntimeHost := onHost get

def modifyHost (f : RuntimeHost → RuntimeHost) : RuntimeAct Unit := onHost (modify f)

/-! ## Rolling back -/

/-- What `RecoverPendingRuntime` and `RollbackRuntime` do once there is a
recovery to go through, with their own texts for a Core that does not stop. -/
def rollBack (coreStopFailed : String) : RuntimeAct String := do
  let beginError ← onRecovery DurableRuntimeRecovery.beginRollback
  let stopError ← onHost (ask .coreStop rfl)
  let localDpiStopped ← onHost (do
    if stopError = "" then RuntimeHost.clearWindowsLocalDpiAfterCoreStopped else pure false)
  if beginError ≠ "" then return beginError
  if stopError ≠ "" then return coreStopFailed
  if ¬ localDpiStopped then return "local_dpi_withdraw_failed"
  let networkError ← onRecovery DurableRuntimeRecovery.restoreNetworkState
  if networkError ≠ "" then return networkError
  onRecovery DurableRuntimeRecovery.completeRollback

/-- The result of a rollback, as seen by the caller. -/
def returned (error : String) : RuntimeAct String := do
  onHost (ask (.mark (.rolledBack error)) rfl)
  return error

def recoverPendingRuntime : RuntimeAct String := do
  let _ ← onHost (RuntimeHost.withdrawTelegramWS [])
  let _ ← onHost RuntimeHost.executorStop
  let s ← get
  if ¬ s.host.parts.recovery then return ← returned "recovery_unavailable"
  if ¬ s.recovery.requiresRecovery then return ← returned ""
  returned (← rollBack "recovery_core_stop_failed")

def rollbackRuntime : RuntimeAct String := do
  let _ ← onHost (RuntimeHost.readLocalDpiRuntimeObservation F)
  let _ ← onHost (RuntimeHost.withdrawTelegramWS [])
  let _ ← onHost RuntimeHost.executorStop
  if ¬ (← getHost).parts.recovery then
    onHost (do
      if (← ask .coreStop rfl) = "" then
        let _ ← RuntimeHost.clearWindowsLocalDpiAfterCoreStopped)
    return ← returned "recovery_unavailable"
  returned (← rollBack "core_stop_failed")

/-- The rollback of an attempt to connect. Some of the exits also withdraw what
the attempt has claimed. -/
def rollBackAttempt (withdraw : Bool) : RuntimeAct String := do
  let error ← rollbackRuntime F
  modifyHost fun host =>
    { host with
      effectiveProfileDigest := if withdraw then [] else host.effectiveProfileDigest
      coreEgressValidated := if withdraw then false else host.coreEgressValidated
      phase := if error = "" then .configStaged else .recoveryRequired }
  return error

def rollBackAndFail (withdraw : Bool) (failure : String) : RuntimeAct RuntimeResult := do
  let error ← rollBackAttempt F withdraw
  fail F .notReady (if error = "" then failure else error)

/-! ## Initialize and stage -/

def initializeRuntime : RuntimeAct RuntimeResult := do
  let host ← getHost
  if host.initialized then return ← snapshot F
  if ¬ host.parts.core ∨ ¬ host.parts.runtimeRoot then return ← fail F .notReady "core_missing"
  if ¬ (← onHost (ask .prepareDirectories rfl)) then
    return ← fail F .notReady "runtime_directory_failed"
  modifyHost fun host => { host with profilePath := true }
  let error ← onHost (ask .coreInitialize rfl)
  if error ≠ "" then return ← fail F .notReady error
  modifyHost fun host => { host with initialized := true, phase := .initialized }
  let recoveryError ← recoverPendingRuntime
  if recoveryError ≠ "" then
    modifyHost fun host => { host with phase := .recoveryRequired }
    return ← fail F .notReady recoveryError
  onHost (do
    modify fun host => { host with failure := "" }
    let parts := (← get).parts
    let localDpiReady ← (do
      if ¬ parts.catalogTrustEnabled ∨ ¬ parts.transitionGuard then return false
      if (← ask (.version .windowsLocalDpiAdmission) rfl) ≠ 1 then return false
      ask .executorAssetsReady rfl)
    let telegramWSReady ← (do
      if ¬ parts.catalogTrustEnabled then return false
      return (← ask (.version .telegramWSAdmission) rfl) = 1)
    modify fun host => { host with localDpiReady, telegramWSReady })
  snapshot F

def recoverOnStartup : RuntimeAct RuntimeResult := do
  let s ← get
  if ¬ s.host.parts.recovery ∨ ¬ s.recovery.requiresRecovery then return ← snapshot F
  initializeRuntime F

/-- `StageProfile` once the host is initialized. -/
def stageInitialized (body : Bytes) (requiresBoundConnect : Bool) : HostAct RuntimeResult := do
  let host ← get
  if host.phase = .running ∨ host.phase = .recoveryRequired ∨ body.length < 4 ∨
      (body[0]? ≠ some '0'.toUInt8 ∧ body[0]? ≠ some '1'.toUInt8) ∨ body[1]? ≠ some newline then
    return ← RuntimeHost.fail F .invalid "profile_request_invalid"
  let profileDigest := F.profileDigest body
  if profileDigest = [] then return ← RuntimeHost.fail F .notReady "profile_identity_failed"
  match F.parseProfilePayload (body.drop 2) with
  | none => return ← RuntimeHost.fail F .invalid "profile_payload_invalid"
  | some (parsed, ruleSets) =>
    let slot := if ruleSets = [] then 0 else if host.bundledRuleSetSlot = 1 then 2 else 1
    let profile := if slot = 0 then parsed else F.replaceRuleSetSlot slot parsed
    if ¬ F.isValidUtf8JsonObject profile then
      return ← RuntimeHost.fail F .invalid "profile_payload_invalid"
    match ← (do
      if slot = 0 then return some []
      ask (.writeBundledRuleSets slot ruleSets) rfl) with
    | none => return ← RuntimeHost.fail F .notReady "profile_write_failed"
    | some paths =>
      if ¬ (← RuntimeHost.secureFiles paths) then
        RuntimeHost.cleanupBundledRuleSets slot
        return ← RuntimeHost.fail F .notReady "profile_security_failed"
      match F.stripWindowsLocalDpiMetadata profile with
      | none =>
        RuntimeHost.cleanupBundledRuleSets slot
        return ← RuntimeHost.fail F .invalid "profile_payload_invalid"
      | some (runtimeCopy, requestsLocalDpi, requestsTelegramWS) =>
        let profileError ← RuntimeHost.writeProfileAtomically runtimeCopy
        if profileError ≠ "" then
          RuntimeHost.cleanupBundledRuleSets slot
          return ← RuntimeHost.fail F .notReady profileError
        onlyIf (host.bundledRuleSetSlot ≠ 0 ∧ host.bundledRuleSetSlot ≠ slot)
          (RuntimeHost.cleanupBundledRuleSets host.bundledRuleSetSlot)
        modify fun host =>
          { host with
            disableMemoryLimit := body[0]? = some '1'.toUInt8
            bundledRuleSetSlot := slot
            stagedProfileDigest := profileDigest
            originalStagedConfig := profile
            stagedRuntimeConfig := runtimeCopy
            localDpiRequested := requestsLocalDpi
            telegramWSRequested := requestsTelegramWS
            requiresBoundConnect
            effectiveProfileDigest := []
            profileStaged := true
            phase := .configStaged
            failure := "" }
        ask (.mark .staged) rfl
        RuntimeHost.snapshot F

def stageProfile (body : Bytes) (requiresBoundConnect : Bool) : RuntimeAct RuntimeResult := do
  if ¬ (← getHost).initialized then
    let initialized ← initializeRuntime F
    if initialized.status ≠ .ok then return initialized
    onHost (stageInitialized F body requiresBoundConnect)
  else onHost (stageInitialized F body requiresBoundConnect)

/-! ## Connecting -/

/-- The arguments of `ConnectImpl`. A bound connect also checks the deadline of
its target. -/
structure ConnectOperation where
  expectedProfileDigest : Bytes
  expectedCoreDigest : Bytes
  finishTransitionGuard : Bool
  localDpiNetwork : Option CandidateNetworkContext
  target : Option BoundConnectTarget

variable (op : ConnectOperation)

def checkInterruption : HostAct OperationInterruption := do
  let pending ← ask (.interrupted .owner) (quiet_interrupted .owner)
  if pending ≠ .none then return pending
  match op.target with
  | none => return .none
  | some target =>
    if ← ask (.connectDeadlineCurrent target) rfl then return .none
    return .deadlineExceeded

/-- The lambda `interruption`. -/
def interruption (rollback : Bool) : RuntimeAct (Option RuntimeResult) := do
  let reason ← onHost (checkInterruption op)
  let identityMismatch ← onHost (do
    if op.expectedCoreDigest = [] then return false
    return (← ask .coreModuleSHA256 quiet_coreModuleSHA256) ≠ op.expectedCoreDigest)
  if reason = .none ∧ ¬ identityMismatch then return none
  let refused : RuntimeAct RuntimeResult :=
    if identityMismatch then fail F .notReady "core_identity_mismatch"
    else if reason = .deadlineExceeded then
      fail F .deadlineExceeded
        (if op.expectedCoreDigest = [] then "deadline_exceeded" else "connect_deadline")
    else fail F .notReady "operation_cancelled"
  if ¬ rollback then return some (← refused)
  let error ← rollBackAttempt F true
  if error ≠ "" then return some (← fail F .notReady error)
  return some (← refused)

/-- Telegram rows are prepared only on a physical interface; signed metadata
stays in for the composition with local DPI. -/
def prepareTelegramWS (config : Bytes) : HostAct Bytes := do
  let host ← get
  match op.localDpiNetwork with
  | none => return config
  | some network =>
    if ¬ host.telegramWSRequested ∨ ¬ host.telegramWSReady ∨ network.bindInterface = [] then
      return config
    let encoded ← ask (.prepareTelegramWSProfile config network.bindInterface) rfl
    match F.readWindowsTelegramWSPreparation encoded with
    | none => return config
    | some prepared =>
      if (← ask .coreModuleSHA256 quiet_coreModuleSHA256) = [] then return config
      let coreDigest ← ask .coreModuleSHA256 quiet_coreModuleSHA256
      modify fun host =>
        { host with
          telegramWSPreparation := some prepared
          telegramWSOriginalDigest := host.stagedProfileDigest
          telegramWSCoreDigest := coreDigest }
      return prepared.profile

/-- The prepared configuration, or nothing when the guard did not start. -/
def prepareWindowsLocalDpi (config : Bytes) : HostAct (Option Bytes) := do
  let host ← get
  match op.localDpiNetwork with
  | none => return some config
  | some network =>
    if ¬ host.localDpiRequested ∨ ¬ host.localDpiReady ∨ network.bindInterface = [] then
      return some config
    let encoded ← ask (.prepareWindowsLocalDpiProfile config network.bindInterface) rfl
    match F.readWindowsLocalDpiPreparation encoded with
    | none => return some config
    | some prepared =>
      if (← ask .coreModuleSHA256 quiet_coreModuleSHA256) = [] then return some config
      let guarded ← (do
        if ← RuntimeHost.transitionGuardArmed then return true
        return (← ask .guardStart rfl) = "")
      if ¬ guarded then return none
      let coreDigest ← ask .coreModuleSHA256 quiet_coreModuleSHA256
      modify fun host =>
        { host with
          localDpiPreparation := some prepared
          localDpiDisabled := false
          localDpiProfileDigest := host.stagedProfileDigest
          localDpiCoreDigest := coreDigest }
      return some prepared.profile

/-- The profile that Core will read, once something was prepared. -/
def writePreparedProfile (config : Bytes) : HostAct (Option RuntimeResult) := do
  let host ← get
  if host.telegramWSPreparation = none ∧ host.localDpiPreparation = none then return none
  match F.stripWindowsLocalDpiMetadata config with
  | none => return some (← RuntimeHost.fail F .invalid "profile_payload_invalid")
  | some (finalProfile, _) =>
    let writeError ← RuntimeHost.writeProfileAtomically finalProfile
    if writeError ≠ "" then return some (← RuntimeHost.fail F .notReady writeError)
    match host.telegramWSPreparation with
    | none => return none
    | some preparation =>
      let digest := F.profileDigest finalProfile
      modify fun host =>
        { host with
          telegramWSPreparation := some { preparation with profile := finalProfile }
          telegramWSPreparedDigest := digest }
      if digest = [] then
        return some (← RuntimeHost.fail F .notReady "profile_identity_failed")
      return none

/-- Everything before the journal is opened. -/
def prepareConnect : HostAct (Option RuntimeResult) := do
  modify fun host =>
    { host with
      localDpiPreparation := none
      firstProviderQaControlConfig := []
      firstProviderQaAdmissionResult := none }
  let writeError ← RuntimeHost.writeProfileAtomically (← get).stagedRuntimeConfig
  if writeError ≠ "" then return some (← RuntimeHost.fail F .notReady writeError)
  modify fun host => { host with telegramWSPreparation := none, telegramWSHolders := [] }
  let config ← prepareTelegramWS F op (← get).originalStagedConfig
  match ← prepareWindowsLocalDpi F op config with
  | none => return some (← RuntimeHost.fail F .notReady "transition_guard_failed")
  | some config => writePreparedProfile F config

/-- Core is started in one of two ways. -/
def startCore : RuntimeAct String := do
  onHost RuntimeHost.markHost
  let host ← getHost
  if op.expectedCoreDigest = [] then perform (I := Machine) (.start host.disableMemoryLimit)
  else perform (I := Machine) (.startInterruptible host.disableMemoryLimit)

/-- An ordinary connect has to prove its egress; a bound one is proven later. -/
def verifyConnected : RuntimeAct (Option RuntimeResult) := do
  if (← getHost).requiresBoundConnect then return none
  let egressFailure ← onHost (RuntimeHost.verifyEgress F false)
  if let some result ← interruption F op true then return some result
  if egressFailure ≠ "" then
    return some (← rollBackAndFail F true (F.safeEgressFailure egressFailure))
  return none

/-- The lambda `local_dpi_owner_current`. -/
def localDpiOwnerCurrent : HostAct Bool := do
  let host ← get
  match host.localDpiPreparation with
  | none => return false
  | some preparation =>
    if (← checkInterruption op) ≠ .none then return false
    if host.stagedProfileDigest ≠ host.localDpiProfileDigest then return false
    if (← ask .coreModuleSHA256 quiet_coreModuleSHA256) ≠ host.localDpiCoreDigest then return false
    ask (.localDpiPreparationCurrent preparation) (quiet_localDpiPreparationCurrent preparation)

/-- The admission that the executor captured for every service. -/
def captureAdmissions : List WindowsLocalDpiService → HostAct (List WindowsLocalDpiService)
  | [] => pure []
  | service :: rest => do
      let id ← ask (.capturedAdmissionID service.outboundTag) rfl
      return { service with capturedAdmissionId := id } :: (← captureAdmissions rest)

def captureServices : HostAct Unit := do
  match (← get).localDpiPreparation with
  | none => return
  | some preparation =>
    let services ← captureAdmissions preparation.services
    modify fun host => { host with localDpiPreparation := some { preparation with services } }

/-- The loop over the strategies, from the one to start with. -/
def tryStrategies (network : CandidateNetworkContext) (how : ExecutorStart) :
    List WindowsLocalDpiStrategy →
      HostAct (Option (WindowsLocalDpiStrategy × List WindowsLocalDpiService))
  | [] => pure none
  | strategy :: rest => do
      if ¬ (← localDpiOwnerCurrent op) then return none
      let services := ((← get).localDpiPreparation.map (·.services)).getD []
      let error ← ask (.executorStart how services network.bindInterface strategy) rfl
      if error ≠ "" then return none
      onlyIf (how = .startPrepared) captureServices
      let services := ((← get).localDpiPreparation.map (·.services)).getD []
      let (admitted, retryable) ← RuntimeHost.proveAndAdmitWindowsLocalDpi network.selectionKey
        network.bindInterface strategy (localDpiOwnerCurrent op) false services
      if admitted ≠ [] then return some (strategy, admitted)
      if ¬ retryable then return none
      tryStrategies network .retryPrepared rest

/-- What became of local DPI in an attempt to connect. -/
inductive DpiOutcome
  | proved (strategy : WindowsLocalDpiStrategy) (admitted : List WindowsLocalDpiService)
  | unproved
  | withdrawFailed
  | expired

/-- The protected fallback is proven before the child takes physical traffic. -/
def proveLocalDpi : HostAct DpiOutcome := do
  let host ← get
  match host.localDpiPreparation, op.localDpiNetwork with
  | some preparation, some network =>
    let strategies := strategyOrder
      (host.localDpiStrategyHints.preferred network.selectionKey preparation.services)
    let proved ← tryStrategies op network .startPrepared strategies
    let withdrawn ← (do if proved = none then RuntimeHost.executorStop else pure true)
    if ¬ withdrawn then return .withdrawFailed
    onlyIf (proved = none) (modify fun host => { host with localDpiDisabled := true })
    if ¬ (← ask (.localDpiPreparationCurrent preparation) (quiet_localDpiPreparationCurrent preparation)) then return .expired
    match proved with
    | none => return .unproved
    | some (strategy, admitted) => return .proved strategy admitted
  | _, _ => return .unproved

/-- The lambda `current` of the Telegram admission. -/
def telegramCurrent : HostAct Bool := do
  let host ← get
  match host.telegramWSPreparation with
  | none => return false
  | some preparation =>
    if (← checkInterruption op) ≠ .none then return false
    if ← RuntimeHost.interrupted .telegram then return false
    if host.stagedProfileDigest ≠ host.telegramWSOriginalDigest then return false
    if (← ask .coreModuleSHA256 quiet_coreModuleSHA256) ≠ host.telegramWSCoreDigest then return false
    if ¬ (← ask (.telegramWSPreparationCurrent preparation)
        (quiet_telegramWSPreparationCurrent preparation)) then return false
    return F.profileDigest preparation.profile = host.telegramWSPreparedDigest

/-- Collects the holders of the prepared services; false when one has none. -/
def collectHolders : List (Bytes × Bytes) → HostAct Bool
  | [] => pure true
  | service :: rest => do
      let id ← ask (.readTelegramWSAdmissionID service.2) rfl
      if id = [] then return false
      modify fun host =>
        { host with telegramWSHolders := host.telegramWSHolders ++ [(service.2, id)] }
      collectHolders rest

def admitHolders : List (Bytes × Bytes) → HostAct Bool
  | [] => pure true
  | holder :: rest => do
      if ¬ (← telegramCurrent F op) then return false
      if (← ask (.readTelegramWSAdmissionID holder.1) rfl) ≠ holder.2 then return false
      if (← ask (.admitTelegramWSAdmission holder.2) rfl) ≠ 1 then return false
      if ¬ (← telegramCurrent F op) then return false
      if (← ask (.readTelegramWSAdmissionID holder.1) rfl) ≠ holder.2 then return false
      admitHolders rest

/-- Losing the Telegram owner only withdraws Telegram. -/
def admitTelegramWS : HostAct Unit := do
  match (← get).telegramWSPreparation with
  | none => return
  | some preparation =>
    let current ← telegramCurrent F op
    let collected ← collectHolders preparation.services
    let holders := (← get).telegramWSHolders
    let admitted ← (do
      -- without an owner no holder is admitted, and without holders nothing fails
      if ¬ (current ∧ collected) then return false
      admitHolders F op holders)
    onlyIf (admitted = false) (do let _ ← RuntimeHost.withdrawTelegramWS [])

/-- The connection is committed; what is left cannot undo it. -/
def finishConnect (outcome : DpiOutcome) : HostAct RuntimeResult := do
  modify fun host =>
    { host with
      effectiveProfileDigest := host.stagedProfileDigest
      coreEgressValidated := !host.requiresBoundConnect
      phase := .running
      failure := "" }
  let unguarded ← (do
    if ¬ op.finishTransitionGuard ∨ ¬ (← get).coreEgressValidated then return true
    if ¬ (← RuntimeHost.transitionGuardArmed) then return true
    return (← RuntimeHost.guardFinish) = "")
  if ¬ unguarded then
    modify fun host => { host with coreEgressValidated := false }
    return ← RuntimeHost.fail F .notReady "transition_guard_failed"
  match outcome, op.localDpiNetwork with
  | .proved strategy admitted, some network =>
    let current ← (localDpiOwnerCurrent op <&&> ask .executorAlive quiet_executorAlive)
    onlyIf (current = true) (modify fun host =>
      { host with
        localDpiActiveStrategy := some (network.selectionKey, strategy)
        localDpiBindInterface := network.bindInterface
        localDpiStrategyHints :=
          host.localDpiStrategyHints.recordSuccess network.selectionKey admitted strategy })
    RuntimeHost.snapshot F
  | _, _ => RuntimeHost.snapshot F

/-- The journal's last two steps and what follows them. -/
def commitConnect (outcome : DpiOutcome) : RuntimeAct RuntimeResult := do
  let verifiedError ← onRecovery (DurableRuntimeRecovery.record .verified)
  if verifiedError ≠ "" then return ← rollBackAndFail F true verifiedError
  if let some result ← interruption F op true then return result
  let committedError ← onRecovery (DurableRuntimeRecovery.record .committed)
  if committedError ≠ "" then return ← rollBackAndFail F true committedError
  if let some result ← interruption F op true then return result
  onHost (admitTelegramWS F op)
  onHost (finishConnect F op outcome)

/-- From the started Core to the commit. -/
def proveConnect : RuntimeAct RuntimeResult := do
  let appliedError ← onRecovery (DurableRuntimeRecovery.record .networkApplied)
  if appliedError ≠ "" then return ← rollBackAndFail F false appliedError
  if let some result ← interruption F op true then return result
  if let some result ← verifyConnected F op then return result
  match ← onHost (proveLocalDpi op) with
  | .withdrawFailed => rollBackAndFail F false "local_dpi_withdraw_failed"
  | .expired => rollBackAndFail F false "local_dpi_catalog_expired"
  | outcome => commitConnect F op outcome

/-- From the opened journal to the started Core. -/
def startConnect : RuntimeAct RuntimeResult := do
  let beginError ← onRecovery DurableRuntimeRecovery.begin
  if beginError ≠ "" then return ← fail F .notReady beginError
  if let some result ← interruption F op true then return result
  let startedError ← onRecovery (DurableRuntimeRecovery.record .coreStarted)
  if startedError ≠ "" then return ← rollBackAndFail F false startedError
  if let some result ← interruption F op true then return result
  if let some result ← interruption F op true then return result
  let startError ← startCore op
  if startError ≠ "" then
    if let some result ← interruption F op true then return result
    return ← rollBackAndFail F false "core_start_failed"
  if let some result ← interruption F op true then return result
  proveConnect F op

def connectImpl : RuntimeAct RuntimeResult := do
  perform (I := Machine) (.mark .connectImpl)
  let host ← getHost
  if ¬ host.initialized ∨ ¬ host.profileStaged then return ← fail F .notReady "profile_not_staged"
  if ¬ isProfileDigest op.expectedProfileDigest ∨
      op.expectedProfileDigest ≠ host.stagedProfileDigest then
    return ← fail F .notReady "profile_identity_mismatch"
  if let some result ← interruption F op false then return result
  let supported ← onHost (do
    if op.expectedCoreDigest = [] then return true
    ask .supportsInterruptibleStart rfl)
  if ¬ supported then return ← fail F .notReady "core_abi_incompatible"
  if host.phase = .running then return ← snapshot F
  if host.phase = .recoveryRequired then return ← fail F .notReady "recovery_required"
  if ¬ host.parts.recovery then return ← fail F .notReady "recovery_unavailable"
  match ← onHost (prepareConnect F op) with
  | some result => return result
  | none => startConnect F op

def connect (expectedProfileDigest : Bytes)
    (localDpiNetwork : Option CandidateNetworkContext) : RuntimeAct RuntimeResult := do
  if (← getHost).requiresBoundConnect then
    return ← fail F .notReady "profile_identity_mismatch"
  connectImpl F
    { expectedProfileDigest, expectedCoreDigest := [], finishTransitionGuard := true
      localDpiNetwork, target := none }

def connectWithIdentity (target : BoundConnectTarget)
    (localDpiNetwork : Option CandidateNetworkContext) : RuntimeAct RuntimeResult := do
  if encodeBoundConnect target = [] then
    return RuntimeHost.answer .invalid "invalid_connect_identity"
  let host ← getHost
  if host.phase = .running ∨ host.phase = .recoveryRequired then
    return RuntimeHost.answer .notReady "runtime_busy"
  connectImpl F
    { expectedProfileDigest := target.profileDigest
      expectedCoreDigest := target.coreModuleSha256
      finishTransitionGuard := true, localDpiNetwork, target := some target }

/-! ## Disconnecting -/

/-- The guard is lifted only on request. -/
def explicitOff (explicitDisconnect : Bool) : HostAct Bool := do
  if ¬ explicitDisconnect ∨ ¬ (← get).parts.transitionGuard then return true
  return (← ask .guardExplicitOff rfl) = ""

/-- The rollback of a connection, and the phase it leaves. -/
def rollBackConnection : RuntimeAct String := do
  let error ← rollbackRuntime F
  modifyHost fun host =>
    { host with
      effectiveProfileDigest := []
      coreEgressValidated := false
      phase := if error = "" then (if host.profileStaged then .configStaged else .initialized)
        else .recoveryRequired }
  return error

def disconnect (explicitDisconnect : Bool) : RuntimeAct RuntimeResult := do
  let host ← getHost
  if ¬ host.initialized ∨ (host.phase ≠ .running ∧ host.phase ≠ .recoveryRequired) then
    if ¬ (← onHost (explicitOff explicitDisconnect)) then
      return ← fail F .notReady "transition_guard_failed"
    return ← snapshot F
  let rollbackError ← rollBackConnection F
  if rollbackError ≠ "" then return ← fail F .notReady rollbackError
  modifyHost fun host => { host with failure := "" }
  if ¬ (← onHost (explicitOff explicitDisconnect)) then
    return ← fail F .notReady "transition_guard_failed"
  snapshot F

def shutdown : RuntimeAct Unit := do
  let _ ← onHost (RuntimeHost.withdrawTelegramWS [])
  let _ ← onHost RuntimeHost.executorStop
  let host ← getHost
  onlyIf (host.parts.core ∧ host.initialized ∧
    (host.phase = .running ∨ host.phase = .recoveryRequired)) (do
      let _ ← rollBackConnection F)

/-! ## Protected handoff -/

def replaceManagedProfile (body : Bytes)
    (localDpiNetwork : Option CandidateNetworkContext) : RuntimeAct RuntimeResult := do
  let host ← getHost
  if ¬ host.parts.transitionGuard ∨ host.requiresBoundConnect then
    return ← fail F .notReady "protected_handoff_unavailable"
  let covered ← onHost (do
    if host.phase = .running then return true
    ask .guardIsArmed quiet_guardIsArmed)
  if ¬ covered then return ← fail F .notReady "protected_handoff_unavailable"
  if (← onHost (ask .guardStart rfl)) ≠ "" then
    return ← fail F .notReady "transition_guard_failed"
  let stopped ← disconnect F false
  if stopped.status ≠ .ok then return stopped
  if ← onHost (RuntimeHost.interrupted .owner) then
    return ← fail F .notReady "operation_cancelled"
  let staged ← stageProfile F body false
  if staged.status ≠ .ok then return staged
  let connected ← connectImpl F
    { expectedProfileDigest := F.profileDigest body, expectedCoreDigest := []
      finishTransitionGuard := false, localDpiNetwork, target := none }
  if connected.status ≠ .ok then return connected
  let host ← getHost
  if host.phase ≠ .running ∨ ¬ host.coreEgressValidated ∨
      host.effectiveProfileDigest ≠ F.profileDigest body then
    return ← fail F .notReady "protected_handoff_unavailable"
  if ← onHost (RuntimeHost.interrupted .owner) then
    let cancelled ← disconnect F false
    if cancelled.status ≠ .ok then return cancelled
    return ← fail F .notReady "operation_cancelled"
  if (← onHost RuntimeHost.guardFinish) ≠ "" then
    modifyHost fun host => { host with coreEgressValidated := false }
    return ← fail F .notReady "transition_guard_failed"
  snapshot F

def cancelProtectedHandoff : RuntimeAct RuntimeResult := do
  if ¬ (← getHost).parts.transitionGuard then
    return ← fail F .notReady "transition_guard_failed"
  if (← onHost (ask .guardStart rfl)) ≠ "" then
    return ← fail F .notReady "transition_guard_failed"
  disconnect F false

/-- The protected stop that also takes the staged bytes back. -/
def stopAndUnstage (result : RuntimeAct RuntimeResult) : RuntimeAct RuntimeResult := do
  let stopped ← cancelProtectedHandoff F
  if stopped.status ≠ .ok then return stopped
  modifyHost fun host => { host with profileStaged := false, stagedProfileDigest := [] }
  result

/-! ## Catalog revocations -/

def revokeRoutingCatalog (profileDigest : Bytes) : RuntimeAct RuntimeResult := do
  if ¬ isProfileDigest profileDigest then
    return RuntimeHost.answer .invalid "invalid_catalog_revocation"
  let host ← getHost
  if ¬ host.runs profileDigest then return RuntimeHost.answer .notReady "catalog_profile_changed"
  if ¬ (← onHost (RuntimeHost.withdrawTelegramWS [])) then
    return ← fail F .notReady "telegram_ws_withdraw_failed"
  if host.localDpiPreparation ≠ none then
    return ← stopAndUnstage F (pure (RuntimeHost.answer .ok "catalog_revoked=1"))
  if ¬ (← onHost RuntimeHost.executorStop) then
    return ← fail F .notReady "local_dpi_withdraw_failed"
  onHost (RuntimeHost.revoke .revokeRoutingCatalog profileDigest "catalog_revoke_unavailable"
    "catalog_revoked=1" "catalog_revoked=0")

def revokeRoutingCatalogService (body : Bytes) : RuntimeAct RuntimeResult := do
  if ¬ isRoutingCatalogServiceRevocation body then
    return RuntimeHost.answer .invalid "invalid_catalog_revocation"
  let profileDigest := substr 0 64 body
  let host ← getHost
  if ¬ host.runs profileDigest then return RuntimeHost.answer .notReady "catalog_profile_changed"
  let serviceId := body.drop 65
  let withdrawn ← onHost (do
    if ((host.telegramWSPreparation.map (·.services)).getD []).any (·.1 = serviceId) then
      RuntimeHost.withdrawTelegramWS serviceId
    else pure true)
  if ¬ withdrawn then return ← fail F .notReady "telegram_ws_withdraw_failed"
  if ((host.localDpiPreparation.map (·.services)).getD []).any (·.serviceId = serviceId) then
    return ← stopAndUnstage F (pure (RuntimeHost.answer .ok "catalog_revoked=1"))
  let stopped ← onHost (do
    if host.localDpiPreparation = none then RuntimeHost.executorStop else pure true)
  if ¬ stopped then return ← fail F .notReady "local_dpi_withdraw_failed"
  onHost (RuntimeHost.revoke (.revokeRoutingCatalogService serviceId) profileDigest
    "catalog_revoke_unavailable" "catalog_revoked=1" "catalog_revoked=0")

/-! ## Maintenance of local DPI -/

/-- The lambda `owner_current` of the maintenance. -/
def maintainedOwnerCurrent (preparation : WindowsLocalDpiPreparation) : HostAct Bool := do
  let host ← get
  if host.phase ≠ .running then return false
  if ← RuntimeHost.interrupted .owner then return false
  if host.effectiveProfileDigest ≠ host.localDpiProfileDigest then return false
  if (← ask .coreModuleSHA256 quiet_coreModuleSHA256) ≠ host.localDpiCoreDigest then return false
  ask (.localDpiPreparationCurrent preparation) (quiet_localDpiPreparationCurrent preparation)

/-- Every holder of this generation has failed in a way that another strategy
may cure. -/
def allRetryable : List WindowsLocalDpiService → HostAct Bool
  | [] => pure true
  | service :: rest => do
      if service.capturedAdmissionId = [] then return false
      if (← ask (.readLocalDpiAdmissionID service.outboundTag) rfl) ≠
          service.capturedAdmissionId then return false
      let encoded ← ask (.readLocalDpiObservation service.capturedAdmissionId) rfl
      match F.readWindowsLocalDpiHolderObservation encoded with
      | none => return false
      | some observation =>
        if ¬ retryableRuntime observation then return false
        allRetryable rest

/-- The one retry with the other strategy. False when the child could be
neither admitted nor withdrawn. -/
def retryStrategy (preparation : WindowsLocalDpiPreparation) (network : Bytes)
    (strategy : WindowsLocalDpiStrategy) : HostAct Bool := do
  let _ ← RuntimeHost.readLocalDpiRuntimeObservation F
  modify fun host => { host with localDpiDisabled := true }
  let bindInterface := (← get).localDpiBindInterface
  let ownerCurrent := maintainedOwnerCurrent preparation
  let startFailure ← ask
    (.executorStart .retryAfterRuntimeFailure preparation.services bindInterface strategy) rfl
  captureServices
  let admitted ← (do
    if startFailure ≠ "" then return []
    let standalone ← (do
      if ¬ (← get).parts.transitionGuard then return false
      return !(← ask .guardIsArmed quiet_guardIsArmed))
    let services := ((← get).localDpiPreparation.map (·.services)).getD []
    return (← RuntimeHost.proveAndAdmitWindowsLocalDpi network bindInterface strategy ownerCurrent
      standalone services).1)
  let current ← (do
    if admitted = [] then return false
    RuntimeHost.current ownerCurrent)
  if current then
    modify fun host =>
      { host with
        localDpiActiveStrategy := some (network, strategy)
        localDpiStrategyHints := host.localDpiStrategyHints.recordSuccess network admitted strategy
        localDpiDisabled := false }
    return true
  RuntimeHost.executorStop

/-- Why a preparation no longer holds: it has expired, or belongs to another Core or profile. -/
def preparationLost (preparation : WindowsLocalDpiPreparation) : HostAct (Option String) := do
  let host ← get
  let expired := !(← ask (.localDpiPreparationCurrent preparation) (quiet_localDpiPreparationCurrent preparation))
  let changed ← (do
    if host.effectiveProfileDigest ≠ host.localDpiProfileDigest then return true
    return (← ask .coreModuleSHA256 quiet_coreModuleSHA256) ≠ host.localDpiCoreDigest)
  if expired then return some "local_dpi_catalog_expired"
  if changed then return some "local_dpi_owner_changed"
  return none

/-- The same after a retry, where the expiry is looked up once more for the text. -/
def preparationLostAfterRetry (preparation : WindowsLocalDpiPreparation) :
    HostAct (Option String) := do
  let host ← get
  let lost ← (do
    if ¬ (← ask (.localDpiPreparationCurrent preparation) (quiet_localDpiPreparationCurrent preparation)) then return true
    if host.effectiveProfileDigest ≠ host.localDpiProfileDigest then return true
    return (← ask .coreModuleSHA256 quiet_coreModuleSHA256) ≠ host.localDpiCoreDigest)
  if ¬ lost then return none
  if ← ask (.localDpiPreparationCurrent preparation) (quiet_localDpiPreparationCurrent preparation) then return some "local_dpi_owner_changed"
  return some "local_dpi_catalog_expired"

/-- A child that cannot be withdrawn ends the connection under the guard. -/
def stopUnwithdrawn : RuntimeAct RuntimeResult := do
  let stopped ← cancelProtectedHandoff F
  if stopped.status ≠ .ok then return stopped
  fail F .notReady "local_dpi_withdraw_failed"

/-- The child is withdrawn when its owner is gone or it has died. -/
def withdrawLostChild : HostAct Bool := do
  if (← get).localDpiDisabled then return true
  let lost ← (do
    if ← RuntimeHost.interrupted .owner then return true
    return !(← ask .executorAlive quiet_executorAlive))
  if ¬ lost then return true
  if ¬ (← RuntimeHost.executorStop) then return false
  modify fun host => { host with localDpiDisabled := true }
  return true

/-- Whether to retry, and with which network and strategy. -/
def retryCandidate (preparation : WindowsLocalDpiPreparation) :
    HostAct (Option (Bytes × WindowsLocalDpiStrategy)) := do
  let host ← get
  if host.localDpiDisabled then return none
  match host.localDpiActiveStrategy with
  | none => return none
  | some (network, strategy) =>
    if ¬ (← allRetryable F preparation.services) then return none
    return some (network, (strategyOrder strategy)[1]?.getD strategy)

def maintainWindowsLocalDpi : RuntimeAct RuntimeResult := do
  let host ← getHost
  match host.localDpiPreparation with
  | none => snapshot F
  | some preparation =>
    if host.phase ≠ .running then return ← snapshot F
    if let some failure ← onHost (preparationLost preparation) then
      return ← stopAndUnstage F (fail F .notReady failure)
    if ¬ (← onHost withdrawLostChild) then return ← stopUnwithdrawn F
    match ← onHost (retryCandidate F preparation) with
    | none => snapshot F
    | some (network, strategy) =>
      if ¬ (← onHost (retryStrategy F preparation network strategy)) then
        return ← stopUnwithdrawn F
      -- a signed window can expire during the fresh proof
      if let some failure ← onHost (preparationLostAfterRetry preparation) then
        return ← stopAndUnstage F (fail F .notReady failure)
      snapshot F

/-! ## Runs -/

/-- What callers ask of a host. -/
inductive Operation
  | recoverOnStartup
  | initializeRuntime
  | stageProfile (body : Bytes) (requiresBoundConnect : Bool)
  | invalidateProfile
  | connect (expectedProfileDigest : Bytes) (network : Option CandidateNetworkContext)
  | connectWithIdentity (target : BoundConnectTarget) (network : Option CandidateNetworkContext)
  | promoteTransportLease (target : TransportLeasePromotion)
  | revokeTransportLease (target : TransportLeaseRevocation)
  | disconnect (explicitDisconnect : Bool)
  | recheckEgress
  | replaceManagedProfile (body : Bytes) (network : Option CandidateNetworkContext)
  | cancelProtectedHandoff
  | maintainWindowsLocalDpi
  | maintainTelegramWS
  | revokeSmartAccessLease (body : Bytes)
  | revokeSmartAccessPolicy (body : Bytes)
  | revokeRoutingCatalog (profileDigest : Bytes)
  | revokeRoutingCatalogService (body : Bytes)
  | renewSmartAccessLease (body : Bytes)
  | configureSmartAccessRuntimeControl (body : Bytes) (renewal qa : Bool)
  | readSmartAccessRestrictions
  | readSmartAccessLeases (profileDigest : Bytes)
  | acknowledgeSmartAccessRestrictions (digest : Bytes)
  | shutdown

/-- The result of an operation; `Shutdown` returns none. -/
def Operation.run : Operation → RuntimeAct (Option RuntimeResult)
  | recoverOnStartup => some <$> Runtime.recoverOnStartup F
  | initializeRuntime => some <$> Runtime.initializeRuntime F
  | stageProfile body requiresBoundConnect => some <$> Runtime.stageProfile F body requiresBoundConnect
  | invalidateProfile => some <$> onHost (RuntimeHost.invalidateProfile F)
  | connect expectedProfileDigest network => some <$> Runtime.connect F expectedProfileDigest network
  | connectWithIdentity target network => some <$> Runtime.connectWithIdentity F target network
  | promoteTransportLease target => some <$> onHost (RuntimeHost.promoteTransportLease F target)
  | revokeTransportLease target => some <$> onHost (RuntimeHost.revokeTransportLease F target)
  | disconnect explicitDisconnect => some <$> Runtime.disconnect F explicitDisconnect
  | recheckEgress => some <$> onHost (RuntimeHost.recheckEgress F)
  | replaceManagedProfile body network => some <$> Runtime.replaceManagedProfile F body network
  | cancelProtectedHandoff => some <$> Runtime.cancelProtectedHandoff F
  | maintainWindowsLocalDpi => some <$> Runtime.maintainWindowsLocalDpi F
  | maintainTelegramWS => some <$> onHost (RuntimeHost.maintainTelegramWS F)
  | revokeSmartAccessLease body => some <$> onHost (RuntimeHost.revokeSmartAccessLease body)
  | revokeSmartAccessPolicy body => some <$> onHost (RuntimeHost.revokeSmartAccessPolicy body)
  | revokeRoutingCatalog profileDigest => some <$> Runtime.revokeRoutingCatalog F profileDigest
  | revokeRoutingCatalogService body => some <$> Runtime.revokeRoutingCatalogService F body
  | renewSmartAccessLease body => some <$> onHost (RuntimeHost.renewSmartAccessLease body)
  | configureSmartAccessRuntimeControl body renewal qa =>
    some <$> onHost (RuntimeHost.configureSmartAccessRuntimeControl F body renewal qa)
  | readSmartAccessRestrictions => some <$> onHost RuntimeHost.readSmartAccessRestrictions
  | readSmartAccessLeases profileDigest =>
    some <$> onHost (RuntimeHost.readSmartAccessLeases profileDigest)
  | acknowledgeSmartAccessRestrictions digest =>
    some <$> onHost (RuntimeHost.acknowledgeSmartAccessRestrictions digest)
  | shutdown => do
      Runtime.shutdown F
      return none

def session : List Operation → RuntimeAct Unit
  | [] => pure ()
  | operation :: rest => do
      let _ ← operation.run F
      session rest

/-- A service that starts, on the journal file it finds. -/
def boot (parts : HostParts) (backend : Bool) (file : Option Bytes) : Runtime :=
  ⟨.new parts, .load backend file⟩

end Runtime

end Pokrov.Windows.Service
