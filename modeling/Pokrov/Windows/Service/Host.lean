import Pokrov.Windows.Service.Frame
import Pokrov.Windows.Service.Machine

/-!
# The runtime host: state and what it does by itself

`RuntimeHost` of `service_runtime.cpp` without its recovery object: the fields,
and the operations that neither change the stage of a connection nor start
Core. They are programs over the quiet part of the machine only.

Profile texts, preparations and observations are read by functions of other
files; they are collected in `Functions` and left open. A runtime snapshot is
named in a result, not spelled out: its text is written from the state and
changes nothing but the strategy hints.
-/

namespace Pokrov.Windows.Service

open Codec Effects

/-! ## State -/

/-- Functions of texts alone that the host calls. -/
structure Functions where
  profileDigest : Bytes → Bytes
  /-- `ParseProfilePayload`: the profile and its rule sets. -/
  parseProfilePayload : Bytes → Option (Bytes × List Bytes)
  /-- `ReplaceAll` of the slot marker by the name of the slot. -/
  replaceRuleSetSlot : Nat → Bytes → Bytes
  isValidUtf8JsonObject : Bytes → Bool
  /-- The runtime copy, and whether local DPI and Telegram are asked for. -/
  stripWindowsLocalDpiMetadata : Bytes → Option (Bytes × Bool × Bool)
  readWindowsTelegramWSPreparation : Bytes → Option WindowsTelegramWSPreparation
  readWindowsLocalDpiPreparation : Bytes → Option WindowsLocalDpiPreparation
  readWindowsLocalDpiHolderObservation : Bytes → Option WindowsLocalDpiHolderObservation
  /-- The target, and the reserve when there is none. -/
  readWindowsSmartAccessProbeTarget : Bytes → Bool → Option Bytes × EgressProbeReserve
  isWindowsFirstProviderQaRuntimeControl : Bytes → Bool
  safeEgressFailure : String → String

inductive ResultBody
  | snapshot
  | text (value : String)
  | bytes (value : Bytes)
deriving DecidableEq

structure RuntimeResult where
  status : Status
  body : ResultBody
deriving DecidableEq

/-- The parts a host is constructed with. -/
structure HostParts where
  core : Bool
  egressProbe : Bool
  recovery : Bool
  transitionGuard : Bool
  runtimeRoot : Bool
  /-- `kWindowsCatalogTrustEnabled`. -/
  catalogTrustEnabled : Bool

/-- `WindowsLocalDpiStrategyHints`: by network and service, the strategy tried
last and whether it failed. -/
abbrev StrategyHints := List ((Bytes × Bytes) × (WindowsLocalDpiStrategy × Bool))

structure RuntimeHost where
  parts : HostParts
  localDpiPreparation : Option WindowsLocalDpiPreparation := none
  localDpiProfileDigest : Bytes := []
  localDpiCoreDigest : Bytes := []
  localDpiStrategyHints : StrategyHints := []
  localDpiActiveStrategy : Option (Bytes × WindowsLocalDpiStrategy) := none
  localDpiBindInterface : Bytes := []
  originalStagedConfig : Bytes := []
  stagedRuntimeConfig : Bytes := []
  localDpiRequested : Bool := false
  localDpiReady : Bool := false
  localDpiDisabled : Bool := false
  telegramWSPreparation : Option WindowsTelegramWSPreparation := none
  telegramWSHolders : List (Bytes × Bytes) := []
  telegramWSOriginalDigest : Bytes := []
  telegramWSPreparedDigest : Bytes := []
  telegramWSCoreDigest : Bytes := []
  telegramWSRequested : Bool := false
  telegramWSReady : Bool := false
  /-- `PrepareDirectories` has set `profile_path_`. -/
  profilePath : Bool := false
  initialized : Bool := false
  profileStaged : Bool := false
  requiresBoundConnect : Bool := false
  stagedProfileDigest : Bytes := []
  effectiveProfileDigest : Bytes := []
  disableMemoryLimit : Bool := false
  bundledRuleSetSlot : Nat := 0
  coreEgressValidated : Bool := false
  firstProviderQaControlConfig : Bytes := []
  firstProviderQaAdmissionResult : Option RuntimeResult := none
  phase : Phase := .artifactMissing
  failure : String := "core_not_initialized"

/-- The constructor. -/
def RuntimeHost.new (parts : HostParts) : RuntimeHost :=
  if parts.core ∧ parts.runtimeRoot then { parts, phase := .artifactReady, failure := "" }
  else { parts }

/-! ## Strategies and their hints -/

/-- `WindowsLocalDpiStrategyOrder`. -/
def strategyOrder : WindowsLocalDpiStrategy → List WindowsLocalDpiStrategy
  | .fakeMultisplitAlt4 => [.fakeMultisplitAlt4, .multidisorderMidsld]
  | .multidisorderMidsld => [.multidisorderMidsld, .fakeMultisplitAlt4]

namespace StrategyHints

/-- An assignment through `Entry`. A full history is cleared before it grows. -/
def assign (hints : StrategyHints) (network service : Bytes)
    (hint : WindowsLocalDpiStrategy × Bool) : StrategyHints :=
  if hints.any (·.1 = (network, service)) then
    hints.map fun entry => if entry.1 = (network, service) then (entry.1, hint) else entry
  else (if hints.length ≥ 256 then [] else hints) ++ [((network, service), hint)]

def recordFailure (hints : StrategyHints) (network service : Bytes)
    (strategy : WindowsLocalDpiStrategy) : StrategyHints :=
  hints.assign network service (strategy, true)

def recordSuccess (hints : StrategyHints) (network : Bytes)
    (services : List WindowsLocalDpiService) (strategy : WindowsLocalDpiStrategy) :
    StrategyHints :=
  services.foldl (fun hints service => hints.assign network service.serviceId (strategy, false))
    hints

/-- The strategy that all hints of one outcome name, if they agree. -/
def agreed (candidates : List WindowsLocalDpiStrategy) : Option WindowsLocalDpiStrategy :=
  match candidates.getLast? with
  | none => none
  | some last => if candidates.all (· = last) then some last else none

def preferred (hints : StrategyHints) (network : Bytes)
    (services : List WindowsLocalDpiService) : WindowsLocalDpiStrategy :=
  let found := services.filterMap fun service =>
    (hints.find? (·.1 = (network, service.serviceId))).map Prod.snd
  let success := (found.filter (!·.2)).map Prod.fst
  let afterFailure := (found.filter (·.2)).map fun hint =>
    match hint.1 with
    | .multidisorderMidsld => WindowsLocalDpiStrategy.fakeMultisplitAlt4
    | .fakeMultisplitAlt4 => .multidisorderMidsld
  match agreed success with
  | some strategy => strategy
  | none => (agreed afterFailure).getD .multidisorderMidsld

end StrategyHints

/-- `WindowsLocalDpiRetryableProof`. -/
def retryableProof (failure : String) : Bool :=
  failure = "local_dpi_control_connect_failed" || failure = "local_dpi_control_tls_failed" ||
    failure = "local_dpi_control_http_failed"

/-- `WindowsLocalDpiRetryableRuntime`. -/
def retryableRuntime (observation : WindowsLocalDpiHolderObservation) : Bool :=
  observation.state = text "failed" &&
    (observation.failureReason = text "early_read" ||
      observation.failureReason = text "early_write" ||
      observation.failureReason = text "connect_timeout_ipv4" ||
      observation.failureReason = text "connect_error_ipv4")

/-! ## Calls and results -/

/-- A program of the host that leaves the journal alone and starts nothing. -/
abbrev HostAct := Act Quiet RuntimeHost

def ask (c : MachineCall) (h : quiet c = true) : HostAct c.Answer := perform (I := Quiet) ⟨c, h⟩

section Quiet

theorem quiet_guardIsArmed : quiet .guardIsArmed = true := rfl

theorem quiet_executorAlive : quiet .executorAlive = true := rfl

theorem quiet_coreModuleSHA256 : quiet .coreModuleSHA256 = true := rfl

theorem quiet_interrupted (who : Interrupter) : quiet (.interrupted who) = true := rfl

theorem quiet_localDpiPreparationCurrent (preparation : WindowsLocalDpiPreparation) :
    quiet (.localDpiPreparationCurrent preparation) = true := rfl

theorem quiet_telegramWSPreparationCurrent (preparation : WindowsTelegramWSPreparation) :
    quiet (.telegramWSPreparationCurrent preparation) = true := rfl

end Quiet

namespace RuntimeHost

/-- `local_dpi_executor_->Stop()`, when there is an executor. -/
def executorStop : HostAct Bool := do
  if (← get).parts.core then ask .executorStop rfl else pure true

def transitionGuardArmed : HostAct Bool := do
  if (← get).parts.transitionGuard then ask .guardIsArmed quiet_guardIsArmed else pure false

def view (host : RuntimeHost) : HostView :=
  ⟨host.phase, host.coreEgressValidated, host.effectiveProfileDigest⟩

def markHost : HostAct Unit := do
  ask (.mark (.host (← get).view)) rfl

/-- `transition_guard_->Finish()`. -/
def guardFinish : HostAct String := do
  markHost
  ask .guardFinish rfl

/-- An interruption check that was not handed over answers `none`. -/
def interrupted (who : Interrupter) : HostAct Bool := do
  return (← ask (.interrupted who) (quiet_interrupted who)) ≠ .none

section Observation

variable (F : Functions)

/-- `WindowsLocalDpiRuntimeObservation`. -/
structure RuntimeObservation where
  services : Nat := 0
  admitted : Nat := 0
  failed : Nat := 0
  withdrawCompleted : Nat := 0
  localHandoffs : Nat := 0
  vpnHandoffs : Nat := 0

def maximumHandoffs : Nat := 9007199254740991

/-- `InvalidateWindowsLocalDpiStrategyHint` for the active strategy. -/
def invalidateStrategyHint (service : WindowsLocalDpiService)
    (value : WindowsLocalDpiHolderObservation) (host : RuntimeHost) : RuntimeHost :=
  match host.localDpiActiveStrategy with
  | none => host
  | some (network, strategy) =>
    if value.state = text "failed" ∨
        (value.failureReason ≠ [] ∧ value.failureReason ≠ text "none") then
      { host with localDpiStrategyHints :=
          host.localDpiStrategyHints.recordFailure network service.serviceId strategy }
    else host

def observeServices :
    List WindowsLocalDpiService → RuntimeObservation → HostAct (Option RuntimeObservation)
  | [], result => pure (some result)
  | service :: rest, result => do
      if service.capturedAdmissionId = [] then return none
      let encoded ← ask (.readLocalDpiObservation service.capturedAdmissionId) rfl
      match F.readWindowsLocalDpiHolderObservation encoded with
      | none => return none
      | some value =>
        if value.localHandoffs.toNat > maximumHandoffs - result.localHandoffs ∨
            value.vpnHandoffs.toNat > maximumHandoffs - result.vpnHandoffs then return none
        modify (invalidateStrategyHint service value)
        observeServices rest
          { services := result.services + 1
            admitted := result.admitted + if value.state = text "ready" then 1 else 0
            failed := result.failed + if value.state = text "failed" then 1 else 0
            withdrawCompleted :=
              result.withdrawCompleted + if value.withdrawCompleted then 1 else 0
            localHandoffs := result.localHandoffs + value.localHandoffs.toNat
            vpnHandoffs := result.vpnHandoffs + value.vpnHandoffs.toNat }

def readLocalDpiRuntimeObservation : HostAct (Option RuntimeObservation) := do
  let host ← get
  match host.localDpiPreparation with
  | none => return none
  | some preparation =>
    if ¬ host.initialized ∨ host.phase ≠ .running ∨
        host.effectiveProfileDigest ≠ host.localDpiProfileDigest then return none
    if (← ask .coreModuleSHA256 quiet_coreModuleSHA256) ≠ host.localDpiCoreDigest then return none
    if ¬ (← ask (.localDpiPreparationCurrent preparation) (quiet_localDpiPreparationCurrent preparation)) then return none
    observeServices F preparation.services {}

/-- The text of a snapshot is not spelled out; reading it updates the hints. -/
def snapshotBody : HostAct ResultBody := do
  let _ ← readLocalDpiRuntimeObservation F
  return .snapshot

def snapshot : HostAct RuntimeResult := do
  return ⟨.ok, ← snapshotBody F⟩

def fail (status : Status) (failure : String) : HostAct RuntimeResult := do
  modify fun host => { host with failure }
  return ⟨status, ← snapshotBody F⟩

end Observation

/-- A result whose body is a text and not a snapshot. -/
def answer (status : Status) (value : String) : RuntimeResult := ⟨status, .text value⟩

/-! ## Profiles on disk -/

def pendingProfilePath : Bytes := text "managed-profile.pending"

def writeProfileAtomically (profile : Bytes) : HostAct String := do
  if ¬ (← ask (.writePendingProfile profile) rfl) then
    ask .deletePendingProfile rfl
    return "profile_write_failed"
  if (← ask (.secureFile pendingProfilePath) rfl) ≠ "" then
    ask .deletePendingProfile rfl
    return "profile_security_failed"
  if ¬ (← ask .moveProfile rfl) then
    ask .deletePendingProfile rfl
    return "profile_write_failed"
  return ""

def cleanupBundledRuleSets (slot : Nat) : HostAct Unit :=
  onlyIf (slot = 1 ∨ slot = 2) (ask (.cleanupBundledRuleSets slot) rfl)

/-- Every written rule set is secured, up to the first that is not. -/
def secureFiles : List Bytes → HostAct Bool
  | [] => pure true
  | path :: rest => do
      if (← ask (.secureFile path) rfl) ≠ "" then return false
      secureFiles rest

/-! ## Telegram -/

/-- The loop of `WithdrawTelegramWS`: the holders kept so far and those ahead. -/
def withdrawHolders (preparation : WindowsTelegramWSPreparation) (serviceId : Bytes) :
    List (Bytes × Bytes) → List (Bytes × Bytes) → HostAct Bool
  | kept, [] => do
      modify fun host => { host with telegramWSHolders := kept }
      return true
  | kept, holder :: rest => do
      if ¬ (serviceId = [] ∨ (serviceId, holder.1) ∈ preparation.services) then
        withdrawHolders preparation serviceId (kept ++ [holder]) rest
      else
        let withdrawn ← (do
          if (← ask (.readTelegramWSAdmissionID holder.1) rfl) ≠ holder.2 then return true
          return 0 ≤ (← ask (.withdrawTelegramWSAdmission holder.2) rfl))
        if ¬ withdrawn then
          modify fun host => { host with telegramWSHolders := kept ++ holder :: rest }
          return false
        withdrawHolders preparation serviceId kept rest

def withdrawTelegramWS (serviceId : Bytes) : HostAct Bool := do
  let host ← get
  match host.telegramWSPreparation with
  | none => return true
  | some preparation => withdrawHolders preparation serviceId [] host.telegramWSHolders

section Profiles

variable (F : Functions)

/-- Whether the prepared Telegram outbounds are still those of this Core and
this profile. -/
def telegramHoldersChanged : List (Bytes × Bytes) → HostAct Bool
  | [] => pure false
  | holder :: rest => do
      if (← ask (.readTelegramWSAdmissionID holder.1) rfl) ≠ holder.2 then return true
      telegramHoldersChanged rest

def maintainTelegramWS : HostAct RuntimeResult := do
  let host ← get
  match host.telegramWSPreparation with
  | none => snapshot F
  | some preparation =>
    if host.phase ≠ .running then return ← snapshot F
    let changed ← (do
      if host.effectiveProfileDigest ≠ host.telegramWSOriginalDigest then return true
      if (← ask .coreModuleSHA256 quiet_coreModuleSHA256) ≠ host.telegramWSCoreDigest then return true
      if F.profileDigest preparation.profile ≠ host.telegramWSPreparedDigest then return true
      telegramHoldersChanged host.telegramWSHolders)
    let lost ← (do
      if changed then return true
      if ¬ (← ask (.telegramWSPreparationCurrent preparation)
          (quiet_telegramWSPreparationCurrent preparation)) then return true
      interrupted .owner)
    if lost then
      if ¬ (← withdrawTelegramWS []) then
        return ← fail F .notReady "telegram_ws_withdraw_failed"
    snapshot F

/-! ## After Core has stopped -/

/-- A later connect prepares afresh and never restarts transformed bytes. -/
def restoreStagedProfile : HostAct Unit := do
  let host ← get
  onlyIf (host.profileStaged ∧ host.stagedRuntimeConfig ≠ []) (do
    let error ← writeProfileAtomically host.stagedRuntimeConfig
    onlyIf (error ≠ "") (modify fun host => { host with profileStaged := false }))

def clearWindowsLocalDpiAfterCoreStopped : HostAct Bool := do
  let stopped ← (do
    if (← get).parts.core then ask .executorStopAfterCoreStopped rfl else pure true)
  if ¬ stopped then return false
  modify fun host =>
    { host with
      localDpiPreparation := none
      localDpiActiveStrategy := none
      localDpiBindInterface := []
      telegramWSPreparation := none
      telegramWSHolders := []
      telegramWSOriginalDigest := []
      telegramWSPreparedDigest := []
      telegramWSCoreDigest := []
      localDpiProfileDigest := []
      localDpiCoreDigest := []
      localDpiDisabled := false }
  restoreStagedProfile
  return true

/-! ## Egress -/

def verifyEgress (periodic : Bool) : HostAct String := do
  let host ← get
  match F.readWindowsSmartAccessProbeTarget host.stagedRuntimeConfig false with
  | (some target, _) =>
    if target = [] then return "profile_payload_invalid"
    if (← ask (.version .smartAccessProbe) rfl) ≠ 1 then return "core_egress_probe_unavailable"
    ask (.probeSmartAccess target periodic) rfl
  | (none, reserve) =>
    if ¬ host.parts.egressProbe then return "core_egress_probe_failed"
    ask (.verifyEgress periodic reserve) rfl

def canRecheckEgress : HostAct Bool := do
  let host ← get
  if host.phase ≠ .running ∨ host.requiresBoundConnect then return false
  return !(← transitionGuardArmed)

def recheckEgress : HostAct RuntimeResult := do
  if ¬ (← canRecheckEgress) then return ← snapshot F
  if (← ask (.interrupted .owner) (quiet_interrupted .owner)) = .cancelled then return ← snapshot F
  let failure ← verifyEgress F true
  let interruption ← ask (.interrupted .owner) (quiet_interrupted .owner)
  if interruption = .cancelled then return ← snapshot F
  if failure ≠ "" ∨ interruption = .deadlineExceeded then
    modify fun host => { host with coreEgressValidated := false }
    return ← fail F .notReady
      (if interruption = .deadlineExceeded ∧ failure ≠ "core_egress_probe_unavailable" then
        "core_egress_timeout" else F.safeEgressFailure failure)
  modify fun host => { host with coreEgressValidated := true, failure := "" }
  snapshot F

/-! ## Operations that keep the connection -/

def invalidateProfile : HostAct RuntimeResult := do
  let host ← get
  if host.phase = .running then return ← fail F .notReady "runtime_running"
  if host.phase = .recoveryRequired then return ← fail F .notReady "recovery_required"
  if ¬ (← executorStop) then return ← fail F .notReady "local_dpi_withdraw_failed"
  onlyIf host.profilePath (ask .deleteProfile rfl)
  cleanupBundledRuleSets host.bundledRuleSetSlot
  modify fun host =>
    { host with
      localDpiPreparation := none
      telegramWSPreparation := none
      telegramWSHolders := []
      originalStagedConfig := []
      stagedRuntimeConfig := []
      localDpiRequested := false
      telegramWSRequested := false
      bundledRuleSetSlot := 0
      profileStaged := false
      requiresBoundConnect := false
      stagedProfileDigest := []
      effectiveProfileDigest := []
      disableMemoryLimit := false
      phase := if host.initialized then .initialized else .artifactReady
      failure := "" }
  snapshot F

def promoteTransportLease (target : TransportLeasePromotion) : HostAct RuntimeResult := do
  let host ← get
  if encodeTransportLeasePromotion target = [] ∨ ¬ host.initialized ∨ host.phase ≠ .running ∨
      ¬ host.requiresBoundConnect ∨ host.effectiveProfileDigest ≠ target.profileDigest then
    return answer .notReady "transport_lease_handoff_unconfirmed"
  if (← ask (.control (.confirmATSLease target)) rfl) ≠ 1 then
    return answer .notReady "transport_lease_handoff_unconfirmed"
  modify fun host => { host with coreEgressValidated := true }
  snapshot F

def revokeTransportLease (target : TransportLeaseRevocation) : HostAct RuntimeResult := do
  let host ← get
  if encodeTransportLeaseRevocation target = [] ∨ ¬ host.initialized ∨ host.phase ≠ .running ∨
      ¬ host.requiresBoundConnect ∨ host.effectiveProfileDigest ≠ target.profileDigest then
    return answer .notReady "transport_lease_revocation_unconfirmed"
  modify fun host => { host with coreEgressValidated := false }
  if (← ask (.control (.revokeATSLease target)) rfl) ≠ 1 then
    return answer .notReady "transport_lease_revocation_unconfirmed"
  snapshot F

end Profiles

/-- Bytes that were revoked or renewed are not staged any more. -/
def unstage (profileDigest : Bytes) (host : RuntimeHost) : RuntimeHost :=
  if host.stagedProfileDigest = profileDigest then
    { host with profileStaged := false, stagedProfileDigest := [] }
  else host

/-- The running profile is the one a request is about. -/
def runs (profileDigest : Bytes) (host : RuntimeHost) : Bool :=
  host.initialized && host.phase = .running && host.effectiveProfileDigest = profileDigest

/-- A revocation by Core, and what follows from its answer. -/
def revoke (control : CoreControl) (profileDigest : Bytes) (unavailable revoked kept : String) :
    HostAct RuntimeResult := do
  let result ← ask (.control control) rfl
  if result ≠ 0 ∧ result ≠ 1 then return answer .notReady unavailable
  onlyIf (result = 1) (modify (unstage profileDigest))
  return answer .ok (if result = 1 then revoked else kept)

def revokeSmartAccessLease (body : Bytes) : HostAct RuntimeResult := do
  match decodeSmartAccessRevocation body with
  | none => return answer .invalid "invalid_smart_access_revocation"
  | some target =>
    if ¬ (← get).runs target.profileDigest then
      return answer .notReady "smart_access_profile_changed"
    revoke (.revokeSmartAccessLease target.leaseId target.terminateActive) target.profileDigest
      "smart_access_revoke_unavailable" "revoked=1" "revoked=0"

def revokeSmartAccessPolicy (body : Bytes) : HostAct RuntimeResult := do
  if ¬ isSmartAccessPolicyRevocation body then
    return answer .invalid "invalid_smart_access_revocation"
  let profileDigest := substr 0 64 body
  if ¬ (← get).runs profileDigest then return answer .notReady "smart_access_profile_changed"
  revoke (.revokeSmartAccessPolicy (body[65]? = some '1'.toUInt8)) profileDigest
    "smart_access_revoke_unavailable" "revoked=1" "revoked=0"

def renewSmartAccessLease (body : Bytes) : HostAct RuntimeResult := do
  match decodeSmartAccessRenewal body with
  | none => return answer .invalid "invalid_smart_access_renewal"
  | some target =>
    if ¬ (← get).runs target.profileDigest then
      return answer .notReady "smart_access_profile_changed"
    if (← ask (.version .routingCatalogControl) rfl) ≠ 4 then
      return answer .unsupported "smart_access_renewal_unsupported"
    -- before the call: the bytes are stale whatever Core answers
    modify (unstage target.profileDigest)
    let result ← ask (.control (.renewSmartAccessLease target)) rfl
    if result ≠ 0 ∧ result ≠ 1 then return answer .notReady "smart_access_renewal_unconfirmed"
    return answer .ok (if result = 1 then "renewed=1" else "renewed=0")

def readSmartAccessRestrictions : HostAct RuntimeResult := do
  if ¬ (← get).initialized then
    return answer .notReady "smart_access_restriction_read_unavailable"
  if (← ask (.version .smartAccessRuntimeControl) rfl) ≠ 1 then
    return answer .notReady "smart_access_restriction_read_unavailable"
  let body ← ask .readSmartAccessRestrictions rfl
  if body = [] ∨ body.length > maxRestrictionSnapshotBodySize then
    return answer .notReady "smart_access_restriction_read_unconfirmed"
  return ⟨.ok, .bytes body⟩

def readSmartAccessLeases (profileDigest : Bytes) : HostAct RuntimeResult := do
  if ¬ isProfileDigest profileDigest then return answer .invalid "invalid_smart_access_profile"
  if ¬ (← get).runs profileDigest then return answer .notReady "smart_access_profile_changed"
  if (← ask (.version .smartAccessRuntimeControl) rfl) ≠ 1 then
    return answer .unsupported "smart_access_lease_read_unsupported"
  let body ← ask .readSmartAccessLeases rfl
  if body = [] ∨ body.length > maxSmartAccessLeasesBodySize then
    return answer .notReady "smart_access_lease_read_unconfirmed"
  return ⟨.ok, .bytes body⟩

def acknowledgeSmartAccessRestrictions (digest : Bytes) : HostAct RuntimeResult := do
  if ¬ isProfileDigest digest then return answer .invalid "smart_access_restriction_ack_invalid"
  if ¬ (← get).initialized then
    return answer .notReady "smart_access_restriction_ack_unavailable"
  if (← ask (.version .smartAccessRuntimeControl) rfl) ≠ 1 then
    return answer .notReady "smart_access_restriction_ack_unavailable"
  let acknowledged ← ask (.control (.acknowledgeSmartAccessRestrictions digest)) rfl
  if acknowledged ≠ 0 ∧ acknowledged ≠ 1 then
    return answer .notReady "smart_access_restriction_ack_unconfirmed"
  return answer .ok (if acknowledged = 1 then "acknowledged=1" else "acknowledged=0")

/-! ## Runtime control -/

section Control

variable (F : Functions)

/-- The one probe of a first-provider admission, and the result kept for it. -/
def admitFirstProvider (config : Bytes) : HostAct RuntimeResult := do
  let stopped : HostAct (Option RuntimeResult) := do
    match ← ask (.interrupted .qa) (quiet_interrupted .qa) with
    | .none => return none
    | .deadlineExceeded => return some (answer .deadlineExceeded "connect_deadline")
    | .cancelled => return some (answer .notReady "operation_cancelled")
  let host ← get
  match ← stopped with
  | some result =>
    onlyIf (host.firstProviderQaAdmissionResult = none) (modify fun host =>
      { host with firstProviderQaControlConfig := config
                  firstProviderQaAdmissionResult := some result })
    return result
  | none =>
    match host.firstProviderQaAdmissionResult with
    | some result => return result
    | none =>
      let failure ← (do
        match (F.readWindowsSmartAccessProbeTarget host.stagedRuntimeConfig true).1 with
        | none => return "core_egress_probe_unavailable"
        | some target =>
          if target = [] then return "profile_payload_invalid"
          if (← ask (.version .smartAccessProbe) rfl) ≠ 1 then
            return "core_egress_probe_unavailable"
          ask (.probeSmartAccess target true) rfl)
      let result ← (do
        if failure ≠ "" then return answer .notReady failure
        return (← stopped).getD (answer .ok "configured=1"))
      modify fun host =>
        { host with firstProviderQaControlConfig := config
                    firstProviderQaAdmissionResult := some result }
      return result

/-- `qa` says whether a first-provider interruption check was handed over. -/
def configureSmartAccessRuntimeControl (body : Bytes) (renewal qa : Bool) :
    HostAct RuntimeResult := do
  if ¬ isSmartAccessRuntimeControl body then
    return answer .invalid "invalid_smart_access_runtime_control"
  let profileDigest := substr 0 64 body
  let host ← get
  if ¬ host.runs profileDigest then return answer .notReady "smart_access_profile_changed"
  if (← ask (.version .smartAccessRuntimeControl) rfl) ≠ 1 then
    return answer .unsupported "smart_access_runtime_control_unsupported"
  let config := body.drop 65
  let qaAdmission : Bool := !renewal && qa && F.isWindowsFirstProviderQaRuntimeControl config
  if qaAdmission ∧ (¬ host.coreEgressValidated ∨ host.requiresBoundConnect) then
    return answer .notReady "core_egress_probe_unavailable"
  if qaAdmission ∧ host.firstProviderQaControlConfig ≠ [] ∧
      host.firstProviderQaControlConfig ≠ config then
    return answer .notReady "smart_access_runtime_control_unconfirmed"
  modify (unstage profileDigest)
  let result ← ask (.control (if renewal then .configureSmartAccessRenewal profileDigest config
    else .configureSmartAccessRuntimeControl profileDigest config)) rfl
  if result ≠ 0 ∧ result ≠ 1 then
    return answer .notReady "smart_access_runtime_control_unconfirmed"
  if result = 1 ∧ qaAdmission then return ← admitFirstProvider F config
  return answer .ok (if result = 1 then "configured=1" else "configured=0")

end Control

/-! ## Proof and admission of local DPI -/

/-- The proof budget of one strategy in milliseconds. -/
def proofBudgetMs : Nat := 10000

/-- What the proofs of one strategy found. -/
structure Proofs where
  anyProof : Bool := false
  transportFailure : Bool := false
  admitted : List WindowsLocalDpiService := []

section Proving

variable (network bindInterface : Bytes) (strategy : WindowsLocalDpiStrategy)
  (ownerCurrent : HostAct Bool) (standalonePermit : Bool) (deadline : Nat)

/-- The owner is current and the child is alive. -/
def current : HostAct Bool := ownerCurrent <&&> ask .executorAlive quiet_executorAlive

def proveServices : List WindowsLocalDpiService → Proofs → HostAct Proofs
  | [], proofs => pure proofs
  | service :: rest, proofs => do
      let now ← ask .tickCount rfl
      if ¬ (← current ownerCurrent) ∨ now ≥ deadline then return proofs
      let timeout := (deadline - now) / (rest.length + 1)
      if timeout = 0 then return proofs
      let verified ← ask
        (.verifyControlHost service.controlHost bindInterface standalonePermit timeout) rfl
      let failure ← (do
        if ← current ownerCurrent then return verified
        if ← ownerCurrent then return "local_dpi_child_failed"
        return "local_dpi_owner_changed")
      if failure ≠ "" then
        onlyIf (retryableProof failure) (modify fun host =>
          { host with localDpiStrategyHints :=
              host.localDpiStrategyHints.recordFailure network service.serviceId strategy })
        proveServices rest
          { proofs with transportFailure := proofs.transportFailure || retryableProof failure }
      else
        let published ← ask (.admitCaptured service.outboundTag) rfl
        proveServices rest
          { proofs with anyProof := true
                        admitted := proofs.admitted ++ if published then [service] else [] }

/-- The admitted services, and whether another strategy is worth a try. -/
def proveAndAdmitWindowsLocalDpi (services : List WindowsLocalDpiService) :
    HostAct (List WindowsLocalDpiService × Bool) := do
  let start ← ask .tickCount rfl
  let proofs ← proveServices network bindInterface strategy ownerCurrent standalonePermit
    (start + proofBudgetMs) services {}
  let retryable ← (do
    if ¬ proofs.transportFailure ∨ proofs.anyProof then return false
    current ownerCurrent)
  if ← current ownerCurrent then return (proofs.admitted, retryable)
  return ([], retryable)

end Proving

end RuntimeHost

end Pokrov.Windows.Service
