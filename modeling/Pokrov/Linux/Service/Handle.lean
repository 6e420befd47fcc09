import Pokrov.Linux.Service.Daemon

/-!
# The Linux daemon: requests and watchers

`Service` of `service_linux.go`, `cancel_connect_linux.go` and
`transport_lease_linux.go`. A program that runs under `mu` has the fields for its
memory; everything else has none.
-/

namespace Pokrov.Linux.Service

open Effects

/-- A program of a thread that holds `mu`. -/
abbrev Locked := Act Daemon Fields

/-- A program of a thread that does not. -/
abbrev Unlocked := Act Daemon Unit

/-- `service.mu.Lock()` up to `service.mu.Unlock()`. -/
def locked {α : Type} (m : Locked α) : Unlocked α := do
  let fields ← perform (I := Daemon) .lock
  let (a, fields') ← (fun u => m fields >>= fun x => .ret (x, u) : Unlocked (α × Fields))
  perform (I := Daemon) (.unlock fields')
  return a

section Calls

variable {σ : Type}

def call (c : DaemonCall) : Act Daemon σ c.Answer := perform (I := Daemon) c

def connectMu (sec : Section) : Act Daemon σ sec.Answer := perform (I := Daemon) (.connectMu sec)

def Peer.alive (peer : Peer) : Act Daemon σ Bool := do
  if peer.pid ≤ 0 ∨ peer.startTime = 0 then return false
  call (.processCurrent peer)

/-- `auth.Authorize`: root needs no policy. -/
def authorize (peer : Peer) : Act Daemon σ Bool := do
  if peer.pid ≤ 0 ∨ peer.startTime = 0 then return false
  if peer.uid = 0 then return true
  call (.checkAuthorization peer)

def cancelledConnectResponse (request : Request) : Cause → Response
  | .deadline => .failure request "connect_deadline" "connect_deadline"
  | .other => .failure request "linux_operation_cancelled" "operation_cancelled"

/-- The response of a connect whose context has ended. -/
def cancelledConnect (context : Option Nat) (request : Request) :
    Act Daemon σ (Option Response) := do
  if ¬ request.isConnect then return none
  match ← call (.contextErr context) with
  | some cause => return some (cancelledConnectResponse request cause)
  | none => return none

/-- The response of a bound connect whose network has changed, once what was
prepared is aborted. -/
def changedNetwork (context : Option Nat) (request : Request)
    (expected : Option ExpectedIdentity) (abort : Act Daemon σ Unit) :
    Act Daemon σ (Option Response) := do
  match expected with
  | none => return none
  | some identity =>
    if ← call (.networkMatches identity.networkContextRef) then return none
    abort
    if let some response ← cancelledConnect context request then return some response
    return some (.failure request "linux_network_context_changed" "network_context_changed")

end Calls

/-! ## Snapshots -/

def runtimeFailure (request : Request) : Locked Response := do
  modify fun f => { f with lastFailure := "linux_runtime_error" }
  return .failure request "linux_runtime_error" "runtime_error"

/-- `CanConnect`. -/
def canConnect (result : HostResult) : Locked Bool := do
  let f ← get
  if ¬ result.hostReady then return false
  if ¬ (← call .profilesExist) then return false
  if ← call .profilesBoundOnly then return false
  return f.transaction = none && !f.recoveryRequired

/-- The transport capabilities, the Core module and the effective profile. -/
def coreTexts (result : HostResult) (phase : Phase) : Locked (String × String × String) := do
  let f ← get
  if ¬ result.hostReady then return ("", "", "")
  match f.core with
  | some core =>
    let capabilities ← call (.coreTransportCapabilities core)
    let module ← call (.coreModuleSHA256 core)
    let profile ← call (.coreProfileSHA256 core)
    return (capabilities, module, profile)
  | none =>
    if phase = .running ∨ f.transaction ≠ none ∨ f.recoveryRequired then return ("", "", "")
    let (capabilities, module) ← call (.inventoryCurrent f.transportInventory)
    return (capabilities, module, "")

def snapshot (result : HostResult) : Locked Snapshot := do
  let f ← get
  let ownership ← call .ownership
  let ready := result.hostReady
  let phase :=
    if ¬ ready then .artifactMissing
    else if f.phase = .artifactMissing then .artifactReady
    else f.phase
  let canConnect ← canConnect result
  let (capabilities, module, profile) ← coreTexts result phase
  let shown :=
    if phase = .running ∧ f.lastFailure = "" then f.health else none
  return {
    phase
    supportsLiveConnect := ready
    canInitialize := result.inMatrix
    canConnect
    messageCode := match shown with
      | some health =>
        if health.dnsReady ∧ health.egressValidated then "connected"
        else if ready then "ready" else "host_unsupported"
      | none => if ready then "ready" else "host_unsupported"
    hostHealth := if ¬ ready ∨ f.lastFailure ≠ "" then "degraded" else "healthy"
    dnsState := match shown with
      | some health => if health.dnsReady then "healthy" else "degraded"
      | none => "unknown"
    uplinkState := match shown with
      | some health => if health.egressValidated then "healthy" else "degraded"
      | none => "unknown"
    dnsReady := shown.map (·.dnsReady)
    coreEgressValidated := shown.map (·.egressValidated)
    lastFailureKind := if ready then f.lastFailure else "linux_host_unsupported"
    lastStopReason := f.lastStop
    connectionPending := f.recoveryRequired || (f.transaction ≠ none && phase ≠ .running)
    transportProofPending :=
      ownership.boundConnectRequestID ≠ "" && !ownership.transportPromoted
    transportLeaseActive := ownership.boundConnectRequestID ≠ "" && ownership.transportPromoted
    hostStack := result.stack
    transportCapabilities := capabilities
    coreModuleSHA256 := module
    stagedProfileDigest := f.stagedProfileDigest
    effectiveProfileDigest := profile }

/-- `protocol.Success` of a fresh snapshot. -/
def succeed (request : Request) : Locked Response := do
  let result ← call .probe
  return .success request (← snapshot result)

/-! ## Stopping and recovering -/

/-- The runtime is gone, and with it its owner. -/
def clearRuntime : Locked Unit := do
  modify fun f => { f with transaction := none, core := none }
  connectMu .releaseBoundConnect

def recoverPending : Locked (Option RecoverError) := do
  match ← call .recoverSystem with
  | .error error =>
    modify fun f =>
      { f with
        recoveryRequired := true, lastFailure := "linux_runtime_error", phase := .configStaged }
    return some error
  | .ok found =>
    modify fun f => { f with recoveryRequired := false }
    if ¬ found then return none
    clearRuntime
    modify fun f => { f with lastFailure := "", lastStop := "runtime_error" }
    let phase := if ← call .profilesExist then .configStaged else .initialized
    modify fun f => { f with phase }
    return none

/-- What `stop` does when the transaction could not be restored. -/
def recoverExited : Locked Bool := do
  match (← get).core with
  | none => return false
  | some core =>
    if ¬ (← call (.coreExited core)) then return false
    if (← recoverPending) ≠ none then return false
    return (← get).transaction = none

/-- `stop`: whether there was no error. -/
def stop : Locked Bool := do
  let f ← get
  match f.transaction with
  | none =>
    if ¬ f.recoveryRequired then return true
    return (← recoverPending) = none
  | some transaction =>
    if ← call (.restore transaction) then
      clearRuntime
      modify fun f => { f with lastFailure := "", phase := .configStaged }
      return true
    if ← recoverExited then return true
    modify fun f => { f with lastFailure := "linux_runtime_error" }
    return false

def settleExitedCore (core : Nat) : Locked Unit := do
  let expired ← call (.coreConnectDeadlineExpired core)
  if ← stop then
    modify fun f =>
      { f with
        lastStop := if expired then "requested" else "runtime_error"
        lastFailure := if expired then "connect_deadline" else "linux_runtime_error" }

/-- The wait of `Recover` for a tunnel that is still there, with the rounds that
its timer leaves. -/
def awaitTunnelGone (error : RecoverError) : Nat → Locked (Option RecoverError)
  | 0 => pure (some error)
  | rounds + 1 => do
      match ← call .observeTunnel with
      | .timeout => return some error
      | .unreadable => return some error
      | .live => awaitTunnelGone error rounds
      | .gone => recoverPending

def recover : Locked (Option RecoverError) := do
  match ← recoverPending with
  | some .liveTunnel => awaitTunnelGone .liveTunnel 50
  | other => return other

def close : Locked Bool := do
  modify fun f => { f with closed := true }
  call .closeNetworkContext
  stop

/-! ## Connecting -/

variable (P : Payloads)

/-- The checks before anything is allocated. -/
def refuseConnect (context : Option Nat) (request : Request)
    (expected : Option ExpectedIdentity) (result : HostResult) : Locked (Option Response) := do
  if let some response ← cancelledConnect context request then return some response
  if ¬ result.hostReady then
    return some (.failure request "linux_host_unsupported" "host_unsupported")
  if let some response ← changedNetwork context request expected (pure ()) then
    return some response
  let f ← get
  match expected with
  | none =>
    if ← call .profilesBoundOnly then
      return some (.failure request "core_identity_mismatch" "core_identity_mismatch")
    return none
  | some identity =>
    let mismatch ← (do
      if ¬ f.boundStageCurrent then return true
      if ¬ (← call .profilesBoundOnly) then return true
      return f.stagedProfileDigest ≠ identity.profileSHA256)
    if mismatch then
      return some (.failure request "core_identity_mismatch" "core_identity_mismatch")
    if f.transaction ≠ none ∨ f.recoveryRequired then
      return some (.failure request "linux_runtime_busy" "runtime_busy")
    return none

/-- The recorder and the transaction. -/
def newTransaction (request : Request) : Locked (Option Nat) := do
  if ¬ (← call (.newRecorder request.requestID (← get).generation)) then return none
  call .newSystemTransaction

def prepareFailure (context : Option Nat) (request : Request) (error : PrepareError) :
    Locked Response := do
  if let some response ← cancelledConnect context request then return response
  match error with
  | .deadline => return .failure request "connect_deadline" "connect_deadline"
  | .identityMismatch =>
    return .failure request "core_identity_mismatch" "core_identity_mismatch"
  | .other => runtimeFailure request

/-- `Execute` has failed. -/
def executeFailure (context : Option Nat) (request : Request) (core : Nat) (restored : Bool) :
    Locked Response := do
  modify fun f => { f with phase := .configStaged, lastFailure := "linux_runtime_error" }
  if ¬ restored then return ← runtimeFailure request
  clearRuntime
  if let some response ← cancelledConnect context request then
    modify fun f => { f with lastFailure := "", lastStop := "requested" }
    return response
  if ← call (.coreConnectDeadlineExpired core) then
    modify fun f => { f with lastFailure := "connect_deadline" }
    return .failure request "connect_deadline" "connect_deadline"
  runtimeFailure request

/-- Whether a connection that has come up is stopped again, and if so whether
its network has changed. -/
def lateRefusal (context : Option Nat) (expected : Option ExpectedIdentity) :
    Locked (Option Bool) := do
  let networkChanged ← (do
    match expected with
    | none => return false
    | some identity =>
      if (← call (.contextErr context)) ≠ none then return false
      return !(← call (.networkMatches identity.networkContextRef)))
  if (← call (.contextErr context)) ≠ none then return some networkChanged
  let expired ← (do
    match expected with
    | none => return false
    | some identity => return !(← call (.deadlineCurrent identity)))
  if expired ∨ networkChanged then return some networkChanged
  return none

/-- Cancellation does not interrupt the restoration. -/
def stopConnected (context : Option Nat) (request : Request) (networkChanged : Bool) :
    Locked Response := do
  if ¬ (← stop) then return ← runtimeFailure request
  modify fun f => { f with lastStop := "requested" }
  if networkChanged then
    modify fun f => { f with lastFailure := "linux_network_context_changed" }
    return .failure request "linux_network_context_changed" "network_context_changed"
  match ← call (.contextErr context) with
  | none => return .failure request "connect_deadline" "connect_deadline"
  | some cause => return cancelledConnectResponse request cause

/-- The connection is up. -/
def finishConnect (context : Option Nat) (request : Request)
    (expected : Option ExpectedIdentity) (result : HostResult) (core : Nat) : Locked Response := do
  modify fun f => { f with phase := .running, lastFailure := "" }
  -- a bound connect has its own proof and is not probed
  let health ← (do
    match expected with
    | none => return (← call (.coreProbe core)).getD {}
    | some _ => return {})
  match ← lateRefusal context expected with
  | some networkChanged => stopConnected context request networkChanged
  | none =>
    modify fun f => { f with health := some health }
    call (.goWatchCore core)
    return .success request (← snapshot result)

/-- From the prepared Core on. -/
def startConnect (context : Option Nat) (peer : Peer) (request : Request)
    (expected : Option ExpectedIdentity) (result : HostResult) (transaction core : Nat) :
    Locked Response := do
  modify fun f => { f with core := some core, transaction := some transaction }
  (match expected with
    | none => pure ()
    | some _ => call (.own request.requestID peer))
  match ← call (.execute transaction core) with
  | .active => finishConnect context request expected result core
  | .restored => executeFailure context request core true
  | .dirty => executeFailure context request core false

/-- From the recorder to the prepared Core. -/
def prepareConnect (context : Option Nat) (peer : Peer) (request : Request)
    (expected : Option ExpectedIdentity) (result : HostResult) : Locked Response := do
  if ¬ (← call .profilesExist) then
    return .failure request "linux_profile_invalid" "profile_invalid"
  match ← newTransaction request with
  | none => runtimeFailure request
  | some transaction =>
    match ← call (.prepare expected) with
    | .error error => prepareFailure context request error
    | .ok core =>
      if let some response ←
          changedNetwork context request expected (call (.abortPrepared core)) then
        return response
      startConnect context peer request expected result transaction core

def connect (context : Option Nat) (peer : Peer) (request : Request)
    (expected : Option ExpectedIdentity) : Locked Response := do
  let result ← call .probe
  if let some response ← refuseConnect context request expected result then return response
  let recovered ← (do
    if ¬ (← get).recoveryRequired then return true
    return (← recoverPending) = none)
  if ¬ recovered then return ← runtimeFailure request
  let f ← get
  if f.transaction ≠ none then
    if f.phase = .running ∧ f.lastFailure = "" then
      return .success request (← snapshot result)
    return ← runtimeFailure request
  prepareConnect context peer request expected result

/-! ## Profiles -/

def stageProfile (request : Request) : Locked Response := do
  let f ← get
  if f.transaction ≠ none ∨ f.recoveryRequired then
    return .failure request "linux_runtime_busy" "runtime_busy"
  let result ← call .probe
  if ¬ result.hostReady then
    return .failure request "linux_host_unsupported" "host_unsupported"
  match P.stage request.payload with
  | none => return .failure request "linux_profile_invalid" "profile_invalid"
  | some stage =>
    let bound := request.action = .stageBoundProfile
    match ← call (.profilesStage stage bound) with
    | none =>
      -- storage may have replaced the profile before it failed
      modify fun f => { f with boundStageCurrent := false }
      return .failure request "linux_profile_invalid" "profile_invalid"
    | some staged =>
      modify fun f =>
        { f with
          generation := staged.generation
          stagedProfileDigest := staged.digest
          boundStageCurrent := bound
          phase := .configStaged
          lastFailure := "" }
      let shown ← snapshot result
      return .success request { shown with messageCode := "profile_staged" }

def invalidateProfile (request : Request) : Locked Response := do
  let f ← get
  if f.transaction ≠ none ∨ f.recoveryRequired then
    return .failure request "linux_runtime_busy" "runtime_busy"
  if ¬ (← call .profilesInvalidate) then
    return .failure request "linux_runtime_error" "runtime_error"
  modify fun f =>
    { f with phase := .initialized, stagedProfileDigest := "", boundStageCurrent := false }
  succeed request

/-! ## Requests under the lock -/

def status (request : Request) : Locked Response := do
  match (← get).core with
  | none => succeed request
  | some core =>
    if ← call (.coreExited core) then
      settleExitedCore core
      succeed request
    else succeed request

def initializeHost (request : Request) : Locked Response := do
  let result ← call .probe
  let f ← get
  let inventory ← (do
    if ¬ result.hostReady ∨ f.core ≠ none ∨ f.transaction ≠ none ∨ f.recoveryRequired then
      return f.transportInventory
    call .readTransportInventory)
  modify fun f =>
    { f with
      transportInventory := inventory
      phase :=
        if ¬ result.hostReady then .artifactMissing
        else if f.phase = .artifactMissing ∨ f.phase = .artifactReady then .initialized
        else f.phase }
  return .success request (← snapshot result)

def disconnect (request : Request) : Locked Response := do
  if ¬ (← stop) then return ← runtimeFailure request
  modify fun f => { f with lastStop := "requested" }
  let phase := if ← call .profilesExist then .configStaged else .initialized
  modify fun f => { f with phase }
  let result ← call .probe
  let shown ← snapshot result
  return .success request { shown with messageCode := "stopped" }

/-- The switch at the end of `Handle`. -/
def handleLocked (context : Option Nat) (peer : Peer) (request : Request)
    (expected : Option ExpectedIdentity) : Locked Response := do
  if (← get).closed then return ← runtimeFailure request
  if let some response ← cancelledConnect context request then return response
  match request.action with
  | .stageProfile | .stageBoundProfile => stageProfile P request
  | .invalidateProfile => invalidateProfile request
  | .connect | .connectWithIdentity => connect context peer request expected
  | .disconnect => disconnect request
  | _ => return .failure request "linux_protocol_invalid" "runtime_error"

/-! ## Transport leases -/

/-- What `promoteTransportLease` requires before it asks Core. -/
def promotable (peer : Peer) (target : TransportLeasePromotion) (f : Fields)
    (ownership : Ownership) (current : Option (Nat × BoundConnectCall)) : Bool :=
  (match current with
    | none => false
    | some (_, c) =>
      !c.stopped && !c.peerLost && c.requestID = target.connectRequestID && c.peer = peer) &&
    !f.closed && f.phase = .running && !ownership.transportPromoted &&
    ownership.transportLeaseRef = "" &&
    ownership.boundConnectRequestID = target.connectRequestID &&
    ownership.boundConnectPeer = peer && f.stagedProfileDigest = target.profileDigest

/-- Whether a Core runs a profile. -/
def coreRuns (core : Nat) (profileDigest : String) : Locked Bool := do
  if ← call (.coreExited core) then return false
  return (← call (.coreProfileSHA256 core)) = profileDigest

/-- Whether the peer is there and on its network. -/
def peerOnNetwork (peer : Peer) (networkRef : String) : Locked Bool := do
  if ¬ (← peer.alive) then return false
  call (.networkMatches networkRef)

def leaseUnavailable (request : Request) : Response :=
  .failure request "linux_transport_lease_unavailable" "runtime_error"

/-- A lost acknowledgement may hide that Core has accepted: the runtime is
restored. -/
def stopUnacknowledged (request : Request) : Locked Response := do
  let _ ← stop
  return leaseUnavailable request

/-- The checks that are made again once Core has promoted. -/
def stillPromotable (peer : Peer) (call' core : Nat) (networkRef : String) : Locked Bool := do
  match ← connectMu (.read call') with
  | none => return false
  | some c =>
    if c.peerLost ∨ c.stopped then return false
    if ¬ (← peer.alive) then return false
    if ← call (.coreExited core) then return false
    call (.networkMatches networkRef)

def promoteLocked (peer : Peer) (request : Request) (target : TransportLeasePromotion) :
    Locked Response := do
  let current ← connectMu .boundConnectCall
  let f ← get
  let ownership ← call .ownership
  match current, f.core with
  | some (call', c), some core =>
    if ¬ promotable peer target f ownership current then return leaseUnavailable request
    if ¬ (← coreRuns core target.profileDigest) then return leaseUnavailable request
    if ¬ (← peerOnNetwork peer c.networkRef) then return leaseUnavailable request
    if ¬ (← call (.promoteATSLease core target)) then return ← stopUnacknowledged request
    if ¬ (← stillPromotable peer call' core c.networkRef) then
      return ← stopUnacknowledged request
    call (.promote target.endpointLeaseRef)
    modify fun f => { f with health := some { dnsReady := true, egressValidated := true } }
    let response ← succeed request
    let handoff := ⟨target.connectRequestID, target.endpointLeaseRef⟩
    return { response with transportLeaseHandoff := some handoff }
  | _, _ => return leaseUnavailable request

def promoteTransportLease (peer : Peer) (request : Request) : Unlocked Response := do
  match P.promotion request.payload with
  | none => return .failure request "linux_protocol_invalid" "runtime_error"
  | some target =>
    if ¬ isTransportConnectRef target.connectRequestID ∨
        ¬ isTransportProfileDigest target.profileDigest ∨
        ¬ isTransportLeaseRef target.endpointLeaseRef then
      return .failure request "linux_protocol_invalid" "runtime_error"
    locked (promoteLocked peer request target)

/-- What `revokeTransportLease` requires before it asks Core. -/
def revocable (peer : Peer) (target : TransportLeaseRevocation) (f : Fields)
    (ownership : Ownership) (current : Option (Nat × BoundConnectCall)) : Bool :=
  (match current with
    | none => false
    | some (_, c) => !c.stopped && c.requestID = target.connectRequestID && c.peer = peer) &&
    !f.closed && f.phase = .running && ownership.transportPromoted &&
    ownership.boundConnectRequestID = target.connectRequestID &&
    ownership.boundConnectPeer = peer && f.stagedProfileDigest = target.profileDigest &&
    ownership.transportLeaseRef = target.endpointLeaseRef

def revokeLocked (peer : Peer) (request : Request) (target : TransportLeaseRevocation)
    (terminateActive : Bool) : Locked Response := do
  let current ← connectMu .boundConnectCall
  let f ← get
  let ownership ← call .ownership
  match f.core with
  | none => return leaseUnavailable request
  | some core =>
    if ¬ revocable peer target f ownership current then return leaseUnavailable request
    if ¬ (← coreRuns core target.profileDigest) then return leaseUnavailable request
    modify fun f => { f with health := some {} }
    let revoked ← (do
      if ¬ (← call (.revokeATSLease core target.profileDigest target.endpointLeaseRef
        terminateActive)) then return false
      return !(← call (.coreExited core)))
    if ¬ revoked then return ← stopUnacknowledged request
    -- the rejecting target stays installed until the stop, but protects nothing
    onlyIf (terminateActive = true) (call .demote)
    let response ← succeed request
    let receipt := ⟨target.connectRequestID, target.endpointLeaseRef, terminateActive⟩
    return { response with transportLeaseRevocation := some receipt }

def revokeTransportLease (peer : Peer) (request : Request) : Unlocked Response := do
  match P.revocation request.payload with
  | none => return .failure request "linux_protocol_invalid" "runtime_error"
  | some target =>
    match target.terminateActive with
    | none => return .failure request "linux_protocol_invalid" "runtime_error"
    | some terminateActive =>
      if ¬ isTransportConnectRef target.connectRequestID ∨
          ¬ isTransportProfileDigest target.profileDigest ∨
          ¬ isTransportLeaseRef target.endpointLeaseRef then
        return .failure request "linux_protocol_invalid" "runtime_error"
      locked (revokeLocked peer request target terminateActive)

/-! ## Cancelling a connect -/

def connectCancellationResponse (request : Request) (connectRequestID : String)
    (settled : Bool) : Response :=
  { requestID := request.requestID, ok := true
    connectCancellation := some ⟨connectRequestID, settled⟩ }

/-- The end of `cancelConnect`, once the call is done. -/
def settleCancelled (peer : Peer) (request : Request) (connectRequestID : String)
    (call' : Nat) : Locked Response := do
  let ownership ← call .ownership
  let stopped ← (do
    if ¬ (ownership.boundConnectRequestID = connectRequestID ∧
        ownership.boundConnectPeer = peer) then return true
    if ¬ (← stop) then return false
    modify fun f => { f with lastStop := "requested" }
    return true)
  if ¬ stopped then return ← runtimeFailure request
  let c ← connectMu (.read call')
  return connectCancellationResponse request connectRequestID ((c.map (·.stopped)).getD false)

def cancelConnect (peer : Peer) (request : Request) : Unlocked Response := do
  match P.strings request.payload with
  | some [("connect_request_id", connectRequestID)] =>
    if ¬ validIdentifier connectRequestID then
      return .failure request "linux_protocol_invalid" "runtime_error"
    match ← connectMu (.cancelConnect peer connectRequestID) with
    | .unknown => return connectCancellationResponse request connectRequestID false
    | .denied =>
      return .failure request "linux_authorization_denied" "authorization_denied"
    | .found call' =>
      if ¬ (← call (.waitDoneOrTimeout call')) then
        return connectCancellationResponse request connectRequestID false
      locked (settleCancelled peer request connectRequestID call')
  | _ => return .failure request "linux_protocol_invalid" "runtime_error"

/-! ## `Handle` -/

/-- Authorization and what follows it. -/
def handleAuthorized (context : Option Nat) (peer : Peer) (request : Request)
    (expected : Option ExpectedIdentity) : Unlocked Response := do
  if let some response ← cancelledConnect context request then return response
  if ¬ (← authorize peer) then
    if let some response ← cancelledConnect context request then return response
    locked (pure ())
    return .failure request "linux_authorization_denied" "authorization_denied"
  locked (handleLocked P context peer request expected)

/-- The `finish` callback. -/
def finishBoundConnect (call' : Nat) (requestID : String) : Unlocked Unit := do
  call (.cancel call')
  locked (connectMu (.finish call' requestID))

def connectWithIdentity (peer : Peer) (request : Request) : Unlocked Response := do
  match P.expectedIdentity request.payload with
  | none => return .failure request "linux_protocol_invalid" "runtime_error"
  | some identity =>
    match ← connectMu
      (.beginBoundConnect peer request.requestID identity.networkContextRef) with
    | .refused unowned =>
      return { Response.failure request "linux_runtime_busy" "runtime_busy" with
        connectCancellation := some ⟨request.requestID, unowned⟩ }
    | .begun call' =>
      let response ← (do
        if let some response ←
            changedNetwork (some call') request (some identity) (pure ()) then
          return response
        handleAuthorized P (some call') peer request (some identity))
      finishBoundConnect call' request.requestID
      return response

def clockSnapshot (request : Request) : Unlocked Response := do
  if P.fieldCount request.payload ≠ some 0 then
    return .failure request "runtime_clock_invalid_request" "runtime_clock_invalid_request"
  match ← call .clock with
  | none => return .failure request "runtime_clock_unavailable" "runtime_clock_unavailable"
  | some now => return { requestID := request.requestID, ok := true, clock := some now }

def readNetworkContext (request : Request) : Unlocked Response := do
  match ← call .readNetworkContext with
  | none =>
    return .failure request "linux_network_context_unavailable" "network_context_unavailable"
  | some ref => return { requestID := request.requestID, ok := true, networkContext := some ref }

def handle (peer : Peer) (request : Request) : Unlocked Response :=
  match request.action with
  | .cancelConnect => cancelConnect P peer request
  | .promoteTransportLease => promoteTransportLease P peer request
  | .revokeTransportLease => revokeTransportLease P peer request
  | .clockSnapshot => clockSnapshot P request
  | .readNetworkContext => readNetworkContext request
  | .status => locked (status request)
  | .initializeHost => locked (initializeHost request)
  | .liveStats => return { requestID := request.requestID, ok := true, stats := some false }
  | .connectWithIdentity => connectWithIdentity P peer request
  | .stageProfile | .stageBoundProfile | .invalidateProfile | .connect | .disconnect =>
    handleAuthorized P none peer request none

/-! ## Watchers -/

/-- The watcher cleans up after a call that it has cancelled. -/
def stopWatched (peer : Peer) (requestID : String) (networkChanged : Bool) : Locked Unit := do
  let ownership ← call .ownership
  if ownership.boundConnectRequestID = requestID ∧ ownership.boundConnectPeer = peer then
    if ← stop then
      modify fun f =>
        { f with
          lastStop := "runtime_error"
          lastFailure := if networkChanged then "linux_network_context_changed"
            else "linux_runtime_error" }

/-- One round of `watchBoundPeer`: whether there is another. -/
def watchBoundPeer (call' : Nat) (peer : Peer) (requestID networkRef : String) :
    Unlocked Bool := do
  call .tick
  if ¬ (← connectMu (.isCurrent call')) then return false
  let peerAlive ← peer.alive
  let current ← (do
    if peerAlive then return true
    connectMu (.losePeer call'))
  if ¬ current then return false
  let networkChanged ← (do
    if ¬ (← call .networkCheckDue) then return false
    return !(← call (.networkMatches networkRef)))
  if peerAlive ∧ ¬ networkChanged then return true
  match ← locked (connectMu (.cancelWatched call' peer requestID networkChanged)) with
  | .gone => return false
  | .kept => return true
  | .cancelled =>
    call (.waitDone call')
    locked (stopWatched peer requestID networkChanged)
    return false

def watchCore (core : Nat) : Unlocked Unit := do
  call (.coreDone core)
  locked (do
    let f ← get
    if f.closed ∨ f.core ≠ some core then return
    settleExitedCore core)

/-! ## The daemon as a system of threads -/

/-- What a thread leaves: its task, and a response when it was a request. -/
structure Reply where
  task : Task
  response : Option Response
deriving DecidableEq

def runTask (task : Task) : Unlocked (Task ⊕ Reply) := do
  match task with
  | .request peer received =>
    let response ← handle P peer received
    return .inr ⟨task, some response⟩
  | .watchBoundPeer call' peer requestID networkRef =>
    if ← watchBoundPeer call' peer requestID networkRef then return .inl task
    return .inr ⟨task, none⟩
  | .watchCore core =>
    watchCore core
    return .inr ⟨task, none⟩
  | .cancelBoundNetwork =>
    connectMu .cancelBoundNetwork
    return .inr ⟨task, none⟩
  | .recover =>
    let _ ← locked recover
    return .inr ⟨task, none⟩
  | .close =>
    let _ ← locked close
    return .inr ⟨task, none⟩

def daemon : System Daemon Shared Task Reply where
  exec := fun thread s e s' => s.allows thread e ∧ s' = s.effect thread e.call
  start := Shared.Starts
  body := fun task => runTask P task () >>= fun x => .ret x.1

/-- `New`, on a store that may hold a profile. -/
def Shared.new (profilesExist : Bool) : Shared :=
  { fields := { phase := if profilesExist then .configStaged else .artifactMissing } }

/-- The states of the daemon that can come up. -/
def Reachable (p : Pool Daemon Shared Task Reply) : Prop :=
  ∃ profilesExist, (daemon P).Run ⟨.new profilesExist, []⟩ p

end Pokrov.Linux.Service
