import Mathlib.Data.List.Basic

/-!
# Ownership of a connect request on Android

`AndroidConnectRequestOwner`: one request at a time, from the bridge of the UI to
the VPN service. Every operation runs under the owner's monitor; what it hands to
a callback after that is part of its answer. What it asks of the clock and of the
network is answered anew at every reading.
-/

namespace Pokrov.Android

abbrev Request := String

/-- Services and observers of the network are told apart by reference. -/
abbrev Service := Nat

abbrev Network := Nat

structure AndroidConnectDeadline where
  bootRef : String
  startedElapsedMs : Int
  expiresElapsedMs : Int
  expiresAt : Option Int := none
deriving DecidableEq

/-- The answers of the clock and of the network, by the number of the reading
within an operation. -/
structure Readings where
  elapsedRealtime : Nat → Int
  now : Nat → Int
  stopEpoch : Int
  contextGeneration : Option Int
  networkMatches : Nat → Network → String → Bool
  matchesRuntimeNetwork : Network → String → Bool

/-- `isCurrent` at a reading of the clock. -/
def AndroidConnectDeadline.isCurrent (deadline : AndroidConnectDeadline) (env : Readings) (k : Nat) : Bool :=
  decide (deadline.startedElapsedMs ≤ env.elapsedRealtime k ∧
    env.elapsedRealtime k < deadline.expiresElapsedMs) &&
    deadline.expiresAt.all fun expires => decide (env.now k < expires)

structure AndroidConnectRequestOwner where
  current : Option Request := none
  cancelled : Bool := false
  coreDigest : Option String := none
  profileDigest : Option String := none
  deadline : Option AndroidConnectDeadline := none
  promotedUntilElapsed : Option Int := none
  firstProviderQaControlActive : Bool := false
  networkGeneration : Option Int := none
  preparedNetwork : Option Network := none
  preparedNetworkRef : Option String := none
  foregroundStopEpoch : Option Int := none
  networkDetachedFromBridge : Bool := false
  service : Option Service := none
  stopped : Bool := false
  lastStopped : Option Request := none
  proofPending : Bool := false
  leaseActive : Bool := false

namespace AndroidConnectRequestOwner

def isHex (c : Char) : Bool := ('0' ≤ c && c ≤ '9') || ('a' ≤ c && c ≤ 'f')

def valid (value : Request) : Bool := decide (value.toList.length = 32) && value.toList.all isHex

variable (owner : AndroidConnectRequestOwner) (env : Readings)

/-! ## Questions -/

def knows (request : Request) : Bool := owner.current = some request || owner.lastStopped = some request

def blocksStart (request : Option Request) : Bool :=
  owner.coreDigest.isSome && !owner.stopped && owner.current ≠ request

def serviceFor (request : Request) : Option Service :=
  if owner.current = some request ∧ owner.coreDigest.isSome = true ∧ owner.stopped = false then
    owner.service
  else none

def ownsService (service : Service) : Bool := owner.service = some service && !owner.stopped

def isStopped (request : Request) : Bool := owner.lastStopped = some request

def ownsCancellation (request : Request) : Bool := owner.current = some request && owner.cancelled

/-- `networkIsCurrent`, where the network is asked for the k-th time. -/
def networkIsCurrent (k : Nat) : Bool :=
  owner.foregroundStopEpoch.all (fun epoch => epoch = env.stopEpoch) &&
    owner.preparedNetworkRef.all (fun ref =>
      owner.preparedNetwork.any fun network => env.networkMatches k network ref) &&
    owner.networkGeneration.all fun generation => some generation = env.contextGeneration

def ownsStart (request : Request) (expectedCore : Option String) (expectedProfile : String)
    (expectedDeadline : Option AndroidConnectDeadline) : Bool :=
  owner.current = some request && !owner.cancelled && owner.coreDigest = expectedCore &&
    owner.profileDigest.all (fun profile => profile = expectedProfile) &&
    owner.deadline = expectedDeadline &&
    owner.deadline.all (fun deadline => deadline.isCurrent env 0) && owner.networkIsCurrent env 0

def owns (request : Request) : Bool :=
  owner.current = some request && !owner.cancelled &&
    owner.deadline.all (fun deadline => deadline.isCurrent env 0) &&
    owner.promotedUntilElapsed.all (fun promoted => env.elapsedRealtime 1 < promoted) &&
    owner.networkIsCurrent env 0

/-! ## Operations -/

/-- A request takes the place of the one before it. -/
def replaced (request : Request) : AndroidConnectRequestOwner :=
  { current := some request, lastStopped := owner.lastStopped }

/-- `begin`, which throws for a request that is not valid. -/
def begin (request : Request) : AndroidConnectRequestOwner × Option Bool :=
  if valid request = false then (owner, none)
  else if owner.lastStopped = some request then (owner, some false)
  else if owner.coreDigest.isSome = true ∧ owner.stopped = false then (owner, some false)
  else if owner.current = some request then (owner, some !owner.cancelled)
  else (owner.replaced request, some true)

/-- What a request is bound to. -/
structure Binding where
  core : String
  profile : String
  deadline : AndroidConnectDeadline
  network : Network
  networkRef : String
  transportProofRequired : Bool := true

def beginBound (request : Request) (binding : Binding) : AndroidConnectRequestOwner × Option Bool :=
  if valid request = false then (owner, none)
  else if env.networkMatches 0 binding.network binding.networkRef = false then (owner, some false)
  else if owner.lastStopped = some request then (owner, some false)
  else if owner.current = some request then
    (owner, some (!owner.cancelled && !owner.stopped && owner.coreDigest = some binding.core &&
      owner.profileDigest = some binding.profile && owner.deadline = some binding.deadline &&
      binding.deadline.isCurrent env 0 && owner.preparedNetwork = some binding.network &&
      owner.preparedNetworkRef = some binding.networkRef && owner.networkIsCurrent env 1))
  else if owner.coreDigest.isSome = true ∧ owner.stopped = false then (owner, some false)
  else
    ({ owner.replaced request with
        coreDigest := some binding.core
        profileDigest := some binding.profile
        deadline := some binding.deadline
        preparedNetwork := some binding.network
        preparedNetworkRef := some binding.networkRef
        proofPending := binding.transportProofRequired }, some true)

def bindForegroundNetwork (request : Request) (network : Network) (networkRef : String)
    (stopEpoch : Int) : AndroidConnectRequestOwner × Bool :=
  if owner.current ≠ some request ∨ owner.cancelled = true ∨ owner.stopped = true ∨
      stopEpoch ≠ env.stopEpoch ∨ env.networkMatches 0 network networkRef = false then (owner, false)
  else if owner.preparedNetworkRef.isSome = true ∧
      (owner.preparedNetwork ≠ some network ∨ owner.preparedNetworkRef ≠ some networkRef) then
    (owner, false)
  else
    ({ owner with
        preparedNetwork := some network
        preparedNetworkRef := some networkRef
        foregroundStopEpoch := some stopEpoch }, true)

def admitService (request : Request) (service : Service) : AndroidConnectRequestOwner × Bool :=
  if owner.current ≠ some request ∨ owner.cancelled = true ∨ owner.stopped = true ∨
      owner.deadline.any (fun deadline => !deadline.isCurrent env 0) = true ∨
      owner.networkIsCurrent env 0 = false then (owner, false)
  else if owner.coreDigest.isNone = true then (owner, true)
  else if owner.service.isSome = true then (owner, false)
  else ({ owner with service := some service }, true)

def bindNetwork (request : Request) (service : Service) (generation : Int) :
    AndroidConnectRequestOwner × Bool :=
  if owner.current ≠ some request ∨ owner.service ≠ some service ∨ owner.coreDigest.isNone = true ∨
      owner.cancelled = true ∨ owner.stopped = true ∨
      owner.deadline.any (fun deadline => deadline.isCurrent env 0) = false ∨
      env.contextGeneration ≠ some generation ∨
      (owner.preparedNetworkRef.any fun ref =>
        owner.preparedNetwork.any fun network => env.matchesRuntimeNetwork network ref) = false then
    (owner, false)
  else match owner.networkGeneration with
    | some bound => (owner, bound = generation)
    | none => ({ owner with networkGeneration := some generation }, true)

/-- The request is settled, and nothing of it is active any more. -/
def settled (request : Option Request) : AndroidConnectRequestOwner :=
  { owner with stopped := true, lastStopped := request, proofPending := false, leaseActive := false }

def settleBeforeServiceAdmission (request : Request) : AndroidConnectRequestOwner × Bool :=
  if owner.lastStopped = some request then (owner, true)
  else if owner.current ≠ some request ∨ owner.coreDigest.isNone = true ∨ owner.cancelled = false ∨
      owner.service.isSome = true then (owner, false)
  else (owner.settled (some request), true)

/-- With the observer that the service has to close. -/
def serviceStopped (request : Request) (service : Service) :
    AndroidConnectRequestOwner × Bool × Option Network :=
  if owner.current ≠ some request ∨ owner.service ≠ some service then
    (owner, decide (owner.lastStopped = some request), none)
  else
    let detached := if owner.networkDetachedFromBridge then owner.preparedNetwork else none
    ({ owner.settled (some request) with
        cancelled := true
        service := none
        networkDetachedFromBridge := false
        preparedNetwork := if detached.isSome then none else owner.preparedNetwork }, true, detached)

/-- With the request and the service that are to confirm the stop. -/
def bridgeClosing (network : Network) :
    AndroidConnectRequestOwner × Bool × Option (Request × Service) :=
  if owner.preparedNetwork ≠ some network ∨ owner.stopped = true then (owner, false, none)
  else if owner.promotedUntilElapsed.any (fun promoted => env.elapsedRealtime 0 < promoted) = true ∧
      owner.cancelled = false ∧ owner.leaseActive = true then
    ({ owner with networkDetachedFromBridge := true }, true, none)
  else match owner.service with
    | none => ({ owner.settled owner.current with cancelled := true }, false, none)
    | some service =>
      ({ owner with cancelled := true }, false, owner.current.map fun request => (request, service))

def promote (request : Request) (service : Service) (expectedProfile : String)
    (activeUntilElapsed : Int) : AndroidConnectRequestOwner × Bool :=
  if owner.current ≠ some request ∨ owner.service ≠ some service ∨ owner.cancelled = true ∨
      owner.stopped = true ∨ owner.coreDigest.isNone = true ∨
      owner.profileDigest ≠ some expectedProfile ∨
      owner.deadline.any (fun deadline => deadline.isCurrent env 0) = false ∨
      activeUntilElapsed ≤ env.elapsedRealtime 1 ∨ owner.networkIsCurrent env 0 = false then
    (owner, false)
  else
    ({ owner with
        promotedUntilElapsed := some activeUntilElapsed
        deadline := none
        proofPending := false
        leaseActive := true }, true)

def retainFirstProviderQa (request : Request) (service : Service) (expectedProfile : String)
    (expectedDeadline proposed : AndroidConnectDeadline) :
    AndroidConnectRequestOwner × Option AndroidConnectDeadline :=
  if owner.current ≠ some request ∨ owner.service ≠ some service ∨ owner.cancelled = true ∨
      owner.stopped = true ∨ owner.coreDigest.isNone = true ∨
      owner.profileDigest ≠ some expectedProfile ∨ owner.deadline ≠ some expectedDeadline ∨
      expectedDeadline.isCurrent env 0 = false ∨ proposed.isCurrent env 1 = false ∨
      owner.proofPending = true ∨ owner.leaseActive = true ∨ owner.promotedUntilElapsed.isSome = true ∨
      owner.networkIsCurrent env 0 = false then (owner, none)
  else
    -- a later refresh may shorten this one attempt, but never renew it
    let retained := if owner.firstProviderQaControlActive ∧
        expectedDeadline.expiresElapsedMs < proposed.expiresElapsedMs then expectedDeadline else proposed
    ({ owner with deadline := some retained, firstProviderQaControlActive := true }, some retained)

def markTransportLeaseTerminated (request : Request) (service : Service) (expectedProfile : String) :
    AndroidConnectRequestOwner × Bool :=
  if owner.current ≠ some request ∨ owner.service ≠ some service ∨
      owner.profileDigest ≠ some expectedProfile ∨ owner.cancelled = true ∨ owner.stopped = true ∨
      owner.leaseActive = false ∨ owner.networkDetachedFromBridge = true then (owner, false)
  else ({ owner with proofPending := true, leaseActive := false }, true)

def expire (request : Request) : AndroidConnectRequestOwner × Bool :=
  if owner.current ≠ some request ∨ owner.cancelled = true ∨
      owner.deadline.any (fun deadline => !deadline.isCurrent env 0) = false then (owner, false)
  else ({ owner with cancelled := true }, true)

def cancel (request : Request) : AndroidConnectRequestOwner × Bool :=
  if owner.current ≠ some request then (owner, false) else ({ owner with cancelled := true }, true)

def invalidate : AndroidConnectRequestOwner := { owner with cancelled := true }

/-- With the request and the service, if it was admitted, that are to confirm the stop. -/
def cancelIfNetworkChanged : AndroidConnectRequestOwner × Option (Request × Option Service) :=
  if owner.coreDigest.isNone = true ∨ owner.stopped = true ∨ owner.cancelled = true ∨
      owner.networkIsCurrent env 0 = true then (owner, none)
  else ({ owner with cancelled := true }, owner.current.map fun request => (request, owner.service))

end AndroidConnectRequestOwner

end Pokrov.Android
