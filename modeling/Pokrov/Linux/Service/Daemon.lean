import Pokrov.Lib.GoText
import Pokrov.Lib.Pool

/-!
# The Linux daemon: state and locks

What the threads of `Service` share. Fields under `mu` are handed to a thread
that locks it and handed back when it unlocks; nobody else sees them meanwhile.
The four fields of an ownership stay in sight, since `releaseBoundConnect`
changes them under both locks. A section under `connectMu` alone waits for
nothing and is one call.

A pointer to a `boundConnectCall` is an index into the list of all calls ever
begun. Time, Core, the network transaction, the profile store and the host are
calls that the environment answers as it likes. The event journal is written and
never read, and is left out.
-/

namespace Pokrov.Linux.Service

open Effects GoText

/-! ## Requests and responses -/

structure Peer where
  pid : Int
  uid : Nat
  startTime : Nat
deriving DecidableEq

/-- `auth.Peer{}`. -/
def Peer.zero : Peer := ⟨0, 0, 0⟩

def isIdentifierChar (c : Char) : Bool :=
  isAlphanumeric c || c = '_' || c = '.' || c = ':' || c = '-'

/-- `requestIDPattern`, and `journal.ValidIdentifier`. -/
def validIdentifier (value : String) : Bool := matchesClass isIdentifierChar 1 96 value.toList

inductive Action
  | status
  | clockSnapshot
  | readNetworkContext
  | initializeHost
  | stageProfile
  | stageBoundProfile
  | invalidateProfile
  | connect
  | connectWithIdentity
  | cancelConnect
  | promoteTransportLease
  | revokeTransportLease
  | disconnect
  | liveStats
deriving DecidableEq

/-- A request that has passed `Validate`. -/
structure Request where
  requestID : String
  action : Action
  payload : String
  valid : validIdentifier requestID = true
deriving DecidableEq

def Request.isConnect (request : Request) : Bool :=
  request.action = .connect || request.action = .connectWithIdentity

structure HostStack where
  systemd : Bool
  networkManager : Bool
  resolved : Bool
  nftables : Bool
  coreArtifact : Bool
deriving DecidableEq

/-- The fields of `host.Result` that the service reads. -/
structure HostResult where
  stack : HostStack
  inMatrix : Bool

def HostResult.hostReady (result : HostResult) : Bool :=
  result.inMatrix && result.stack.systemd && result.stack.networkManager &&
    result.stack.resolved && result.stack.nftables && result.stack.coreArtifact

inductive Phase
  | artifactMissing
  | artifactReady
  | initialized
  | configStaged
  | running
deriving DecidableEq

structure Health where
  dnsReady : Bool := false
  egressValidated : Bool := false

structure Snapshot where
  phase : Phase
  supportsLiveConnect : Bool
  canInitialize : Bool
  canConnect : Bool
  messageCode : String
  hostHealth : String
  dnsState : String
  uplinkState : String
  dnsReady : Option Bool
  coreEgressValidated : Option Bool
  lastFailureKind : String
  lastStopReason : String
  connectionPending : Bool
  transportProofPending : Bool
  transportLeaseActive : Bool
  hostStack : HostStack
  transportCapabilities : String
  coreModuleSHA256 : String
  stagedProfileDigest : String
  effectiveProfileDigest : String
deriving DecidableEq

structure BootClock where
  bootRef : String
  elapsedMS : Nat
deriving DecidableEq

structure ConnectCancellation where
  connectRequestID : String
  settled : Bool
deriving DecidableEq

structure TransportLeaseHandoff where
  connectRequestID : String
  endpointLeaseRef : String
deriving DecidableEq

/-- The receipt of a revocation. -/
structure TransportLeaseRevocationReceipt where
  connectRequestID : String
  endpointLeaseRef : String
  terminateActive : Bool
deriving DecidableEq

structure Response where
  requestID : String
  ok : Bool
  errorCode : String := ""
  messageCode : String := ""
  snapshot : Option Snapshot := none
  /-- `Stats.Available`. -/
  stats : Option Bool := none
  clock : Option BootClock := none
  networkContext : Option String := none
  connectCancellation : Option ConnectCancellation := none
  transportLeaseHandoff : Option TransportLeaseHandoff := none
  transportLeaseRevocation : Option TransportLeaseRevocationReceipt := none
deriving DecidableEq

namespace Response

def success (request : Request) (snapshot : Snapshot) : Response :=
  { requestID := request.requestID, ok := true, snapshot := some snapshot }

def failure (request : Request) (errorCode messageCode : String) : Response :=
  { requestID := request.requestID, ok := false, errorCode, messageCode }

end Response

/-! ## Payloads -/

structure ExpectedIdentity where
  coreModuleSHA256 : String
  profileSHA256 : String
  networkContextRef : String
  bootRef : String
  startedElapsedMS : Int
  deadlineElapsedMS : Int

structure TransportLeasePromotion where
  connectRequestID : String
  profileDigest : String
  endpointLeaseRef : String
  issuedAt : String
  newFlowsUntil : String
  activeFlowsUntil : String

structure TransportLeaseRevocation where
  connectRequestID : String
  profileDigest : String
  endpointLeaseRef : String
  terminateActive : Option Bool

structure StageRequest where
  profileName : String
  configPayload : String
  routeMode : String
  coreEgressProbeRequired : Bool
  resolvedNodeCode : String

structure Staged where
  digest : String
  generation : Nat

/-- The JSON decoders of the payloads, with the checks that they make on the
shape of the text. -/
structure Payloads where
  /-- `coreprocess.ParseExpectedIdentity`. -/
  expectedIdentity : String → Option ExpectedIdentity
  /-- Six fields, none unknown, and nothing after them. -/
  promotion : String → Option TransportLeasePromotion
  /-- Four fields, none unknown, and nothing after them. -/
  revocation : String → Option TransportLeaseRevocation
  /-- A map of strings, by its entries. -/
  strings : String → Option (List (String × String))
  stage : String → Option StageRequest
  /-- The number of fields of an object. -/
  fieldCount : String → Option Nat

/-- `transportLeaseRefPattern`. -/
def isTransportLeaseRef (value : String) : Bool :=
  match cutPrefix "lease_".toList value.toList with
  | some rest => matchesClass isLowerHex 32 32 rest
  | none => false

/-- `transportConnectRefPattern`. -/
def isTransportConnectRef (value : String) : Bool := matchesClass isLowerHex 32 32 value.toList

/-- `transportProfileDigestPattern`. -/
def isTransportProfileDigest (value : String) : Bool := matchesClass isLowerHex 64 64 value.toList

/-! ## Shared state -/

/-- The invocation of a bound connect. The thread is the one that runs it, and
`cancelledBy` are the peers whose `cancel_connect` has cancelled it. -/
structure BoundConnectCall where
  requestID : String
  peer : Peer
  networkRef : String
  thread : Nat
  cancelled : Bool := false
  cancelledBy : List Peer := []
  done : Bool := false
  stopped : Bool := false
  peerLost : Bool := false

/-- The fields under `mu` that no other lock protects. A pointer to a Core
session, a transaction or an inventory is a number. -/
structure Fields where
  phase : Phase
  generation : Nat := 0
  lastStop : String := ""
  lastFailure : String := ""
  core : Option Nat := none
  transaction : Option Nat := none
  closed : Bool := false
  recoveryRequired : Bool := false
  health : Option Health := none
  transportInventory : Option Nat := none
  stagedProfileDigest : String := ""
  boundStageCurrent : Bool := false

/-- Who owns the runtime. -/
structure Ownership where
  boundConnectRequestID : String := ""
  boundConnectPeer : Peer := .zero
  transportPromoted : Bool := false
  transportLeaseRef : String := ""

/-- What has become of the ownership, in order. -/
inductive Mark
  | owned (requestID : String)
  | promoted (requestID : String)
  | revoked (requestID : String)
  | released (requestID : String)
deriving DecidableEq

/-- What threads may do. A watcher carries the fields of its call that never
change. -/
inductive Task
  | request (peer : Peer) (request : Request)
  | watchBoundPeer (call : Nat) (peer : Peer) (requestID networkRef : String)
  | watchCore (core : Nat)
  | cancelBoundNetwork
  | recover
  | close
deriving DecidableEq

structure Shared where
  /-- The thread that holds `mu`. -/
  mu : Option Nat := none
  /-- The fields under `mu`, as last handed back. -/
  fields : Fields
  ownership : Ownership := {}
  boundConnectCall : Option Nat := none
  calls : List BoundConnectCall := []
  /-- How many sessions, transactions and inventories there have been. -/
  allocated : Nat := 0
  /-- The goroutines that have been spawned and not started. -/
  spawned : List Task := []
  history : List Mark := []

namespace Shared

/-- Assignments to a call. -/
def update (s : Shared) (call : Nat) (f : BoundConnectCall → BoundConnectCall) : Shared :=
  { s with calls := s.calls.modify call f }

/-- The condition `service.boundConnectCall == call && !call.stopped`. -/
def isCurrent (s : Shared) (call : Nat) : Bool :=
  s.boundConnectCall = some call && (s.calls[call]?.map (!·.stopped)).getD false

def isDone (s : Shared) (call : Nat) : Bool := (s.calls[call]?.map (·.done)).getD false

def isCancelled (s : Shared) (call : Nat) : Bool :=
  (s.calls[call]?.map (·.cancelled)).getD false

def cancel (s : Shared) (call : Nat) : Shared := s.update call fun c => { c with cancelled := true }

end Shared

/-! ## Sections under `connectMu` -/

/-- What `beginBoundConnect` returns. -/
inductive Admission
  | begun (call : Nat)
  | refused (unowned : Bool)

/-- What `cancelConnect` finds. -/
inductive CancelLookup
  | unknown
  | denied
  | found (call : Nat)

/-- What a watcher decides about its call. -/
inductive WatchVerdict
  | gone
  | kept
  | cancelled

inductive Section
  | cancelBoundNetwork
  | beginBoundConnect (peer : Peer) (requestID networkRef : String)
  /-- The end of the `finish` callback. -/
  | finish (call : Nat) (requestID : String)
  | isCurrent (call : Nat)
  | losePeer (call : Nat)
  /-- The decision of a watcher. -/
  | cancelWatched (call : Nat) (peer : Peer) (requestID : String) (networkChanged : Bool)
  | releaseBoundConnect
  | cancelConnect (peer : Peer) (requestID : String)
  | boundConnectCall
  | read (call : Nat)
deriving DecidableEq

@[reducible] def Section.Answer : Section → Type
  | cancelBoundNetwork => Unit
  | beginBoundConnect _ _ _ => Admission
  | finish _ _ => Unit
  | isCurrent _ => Bool
  | losePeer _ => Bool
  | cancelWatched _ _ _ _ => WatchVerdict
  | releaseBoundConnect => Unit
  | cancelConnect _ _ => CancelLookup
  | boundConnectCall => Option (Nat × BoundConnectCall)
  | read _ => Option BoundConnectCall

namespace Shared

def cancelBoundNetwork (s : Shared) : Shared :=
  match s.boundConnectCall with
  | some call => if s.isCurrent call then s.cancel call else s
  | none => s

/-- The current call, with its index. -/
def currentCall (s : Shared) : Option (Nat × BoundConnectCall) :=
  s.boundConnectCall.bind fun call => s.calls[call]?.map fun c => (call, c)

/-- Why a new call is not begun, and whether the request is without an owner. -/
def refusal (s : Shared) (requestID : String) : Option Bool :=
  match s.currentCall with
  | none => none
  | some (_, previous) =>
    if previous.requestID = requestID ∨ ¬ previous.stopped then
      some (previous.requestID ≠ requestID)
    else if previous.done then none
    else some true

/-- `beginBoundConnect`, with the watcher that it spawns. -/
def beginBoundConnect (thread : Nat) (peer : Peer) (requestID networkRef : String) (s : Shared) :
    Admission × Shared :=
  match s.refusal requestID with
  | some unowned => (.refused unowned, s)
  | none =>
    let call := s.calls.length
    (.begun call,
      { s with
        calls := s.calls ++ [{ requestID, peer, networkRef, thread }]
        boundConnectCall := some call
        spawned := s.spawned ++ [.watchBoundPeer call peer requestID networkRef] })

def releaseBoundConnect (s : Shared) : Shared :=
  let requestID := s.ownership.boundConnectRequestID
  let stopped := match s.currentCall with
    | some (call, c) =>
      if c.requestID = requestID then s.update call fun c => { c with stopped := true } else s
    | none => s
  { stopped with ownership := {}, history := s.history ++ [.released requestID] }

def cancelConnect (peer : Peer) (requestID : String) (s : Shared) : CancelLookup × Shared :=
  match s.currentCall with
  | none => (.unknown, s)
  | some (call, c) =>
    if c.requestID ≠ requestID then (.unknown, s)
    else if c.peer ≠ peer then (.denied, s)
    else
      (.found call, s.update call fun c =>
        { c with cancelled := true, cancelledBy := c.cancelledBy ++ [peer] })

/-- A promoted call outlives its peer, but not its network. -/
def cancelWatched (call : Nat) (peer : Peer) (requestID : String) (networkChanged : Bool)
    (s : Shared) : WatchVerdict × Shared :=
  let promoted := s.ownership.transportPromoted &&
    s.ownership.boundConnectRequestID = requestID && s.ownership.boundConnectPeer = peer
  if ¬ s.isCurrent call then (.gone, s)
  else if promoted && !networkChanged then (.kept, s)
  else (.cancelled, s.cancel call)

end Shared

/-- What a section answers to a thread and leaves. -/
def Section.run (thread : Nat) (s : Shared) : (sec : Section) → sec.Answer × Shared
  | .cancelBoundNetwork => ((), s.cancelBoundNetwork)
  | .beginBoundConnect peer requestID networkRef =>
    s.beginBoundConnect thread peer requestID networkRef
  | .finish call requestID =>
    let stopped := s.ownership.boundConnectRequestID ≠ requestID
    ((), s.update call fun c => { c with stopped, done := true })
  | .isCurrent call => (s.isCurrent call, s)
  | .losePeer call =>
    if s.isCurrent call then (true, s.update call fun c => { c with peerLost := true })
    else (false, s)
  | .cancelWatched call peer requestID networkChanged =>
    s.cancelWatched call peer requestID networkChanged
  | .releaseBoundConnect => ((), s.releaseBoundConnect)
  | .cancelConnect peer requestID => s.cancelConnect peer requestID
  | .boundConnectCall => (s.currentCall, s)
  | .read call => (s.calls[call]?, s)

/-! ## Calls and answers -/

/-- Why a context has ended. -/
inductive Cause
  | deadline
  | other

inductive PrepareError
  | deadline
  | identityMismatch
  | other

/-- What is left of a transaction after `Execute`. -/
inductive Execution
  | active
  | restored
  | dirty
deriving DecidableEq

inductive RecoverError
  | liveTunnel
  | other
deriving DecidableEq

/-- What the loop of `Recover` sees next. -/
inductive TunnelObservation
  | timeout
  | unreadable
  | live
  | gone

inductive DaemonCall
  | lock
  | unlock (fields : Fields)
  | connectMu (sec : Section)
  | ownership
  | own (requestID : String) (peer : Peer)
  | promote (leaseRef : String)
  | demote
  | cancel (call : Nat)
  | waitDone (call : Nat)
  | waitDoneOrTimeout (call : Nat)
  | goWatchCore (core : Nat)
  | contextErr (context : Option Nat)
  | deadlineCurrent (identity : ExpectedIdentity)
  | tick
  | networkCheckDue
  | networkMatches (ref : String)
  | readNetworkContext
  | closeNetworkContext
  | processCurrent (peer : Peer)
  | checkAuthorization (peer : Peer)
  | probe
  | clock
  | profilesExist
  | profilesBoundOnly
  | profilesStage (request : StageRequest) (bound : Bool)
  | profilesInvalidate
  | newRecorder (requestID : String) (generation : Nat)
  | newSystemTransaction
  | prepare (expected : Option ExpectedIdentity)
  | abortPrepared (core : Nat)
  | execute (transaction core : Nat)
  | restore (transaction : Nat)
  | recoverSystem
  | observeTunnel
  | readTransportInventory
  | inventoryCurrent (inventory : Option Nat)
  | coreDone (core : Nat)
  | coreExited (core : Nat)
  | coreProbe (core : Nat)
  | coreTransportCapabilities (core : Nat)
  | coreModuleSHA256 (core : Nat)
  | coreProfileSHA256 (core : Nat)
  | coreConnectDeadlineExpired (core : Nat)
  | promoteATSLease (core : Nat) (target : TransportLeasePromotion)
  | revokeATSLease (core : Nat) (profileDigest leaseRef : String) (terminateActive : Bool)

/-- An operation that may fail answers whether it has succeeded. -/
@[reducible] def DaemonCall.Answer : DaemonCall → Type
  | lock => Fields
  | unlock _ => Unit
  | connectMu sec => sec.Answer
  | ownership => Ownership
  | own _ _ => Unit
  | promote _ => Unit
  | demote => Unit
  | cancel _ => Unit
  | waitDone _ => Unit
  | waitDoneOrTimeout _ => Bool
  | goWatchCore _ => Unit
  | contextErr _ => Option Cause
  | deadlineCurrent _ => Bool
  | tick => Unit
  | networkCheckDue => Bool
  | networkMatches _ => Bool
  | readNetworkContext => Option String
  | closeNetworkContext => Unit
  | processCurrent _ => Bool
  | checkAuthorization _ => Bool
  | probe => HostResult
  | clock => Option BootClock
  | profilesExist => Bool
  | profilesBoundOnly => Bool
  | profilesStage _ _ => Option Staged
  | profilesInvalidate => Bool
  | newRecorder _ _ => Bool
  | newSystemTransaction => Option Nat
  | prepare _ => Except PrepareError Nat
  | abortPrepared _ => Unit
  | execute _ _ => Execution
  | restore _ => Bool
  | recoverSystem => Except RecoverError Bool
  | observeTunnel => TunnelObservation
  | readTransportInventory => Option Nat
  | inventoryCurrent _ => String × String
  | coreDone _ => Unit
  | coreExited _ => Bool
  | coreProbe _ => Option Health
  | coreTransportCapabilities _ => String
  | coreModuleSHA256 _ => String
  | coreProfileSHA256 _ => String
  | coreConnectDeadlineExpired _ => Bool
  | promoteATSLease _ _ => Bool
  | revokeATSLease _ _ _ _ => Bool

abbrev Daemon : Interface := ⟨DaemonCall, DaemonCall.Answer⟩

/-! ## What a call does to the shared state -/

namespace Shared

/-- The assignments that make a request the owner. -/
def own (requestID : String) (peer : Peer) (s : Shared) : Shared :=
  { s with
    ownership := { s.ownership with
      boundConnectRequestID := requestID, boundConnectPeer := peer, transportPromoted := false }
    history := s.history ++ [.owned requestID] }

def promote (leaseRef : String) (s : Shared) : Shared :=
  { s with
    ownership := { s.ownership with transportPromoted := true, transportLeaseRef := leaseRef }
    history := s.history ++ [.promoted s.ownership.boundConnectRequestID] }

/-- The end of a revocation that terminates. -/
def demote (s : Shared) : Shared :=
  { s with
    ownership := { s.ownership with transportPromoted := false }
    history := s.history ++ [.revoked s.ownership.boundConnectRequestID] }

def effect (thread : Nat) (s : Shared) : DaemonCall → Shared
  | .lock => { s with mu := some thread }
  | .unlock fields => { s with mu := none, fields }
  | .connectMu sec => (sec.run thread s).2
  | .own requestID peer => s.own requestID peer
  | .promote leaseRef => s.promote leaseRef
  | .demote => s.demote
  | .cancel call => s.cancel call
  | .goWatchCore core => { s with spawned := s.spawned ++ [.watchCore core] }
  | .newSystemTransaction | .prepare _ | .readTransportInventory =>
    { s with allocated := s.allocated + 1 }
  | _ => s

/-- The answers that a call may get. A lock is taken when it is free, a wait
ends when the call is done, a cancelled context says so, and what is allocated
is new. -/
def allows (thread : Nat) (s : Shared) : Event Daemon → Prop
  | ⟨.lock, fields⟩ => s.mu = none ∧ fields = s.fields
  | ⟨.connectMu sec, answer⟩ => answer = (sec.run thread s).1
  | ⟨.ownership, ownership⟩ => ownership = s.ownership
  | ⟨.waitDone call, _⟩ => s.isDone call = true
  | ⟨.waitDoneOrTimeout call, finished⟩ => finished = true → s.isDone call = true
  | ⟨.contextErr (some call), cause⟩ => s.isCancelled call = true → cause ≠ none
  | ⟨.newSystemTransaction, transaction⟩ => ∀ t, transaction = some t → t = s.allocated
  | ⟨.prepare _, prepared⟩ => ∀ core, prepared = .ok core → core = s.allocated
  | ⟨.readTransportInventory, inventory⟩ => ∀ t, inventory = some t → t = s.allocated
  | _ => True

/-- A goroutine starts once it is spawned, the rest at any time. -/
inductive Starts (s : Shared) : Task → Shared → Prop
  | request (peer : Peer) (request : Request) : Starts s (.request peer request) s
  | cancelBoundNetwork : Starts s .cancelBoundNetwork s
  | recover : Starts s .recover s
  | close : Starts s .close s
  | spawned {task : Task} (h : task ∈ s.spawned) :
      Starts s task { s with spawned := s.spawned.erase task }

end Shared

end Pokrov.Linux.Service
