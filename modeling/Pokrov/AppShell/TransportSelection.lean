import Pokrov.AppShell.TransportManifestTime
import Pokrov.AppShell.TransportManifestVerifier
import Pokrov.Lib.Stateful

/-!
# Selection of a transport

`TransportSelection` of `transport_selection.dart`: what an operation may still
spend of the signed budget, and what it owns. Its methods change the selection
and then may throw. What they ask of the caller, the manifest and the routing
intent is answered anew each time.
-/

namespace Pokrov.AppShell

open Dart

/-- `_transportSelectionFail`. -/
def selectionFailure (reason : String) : Failure := .transport ("transport_selection_" ++ reason)

/-! ## Candidates -/

inductive RouteMode
  | fullTunnel
  | selectedApps
  | excludedApps
  | allExceptRu
  | selectiveServices
deriving DecidableEq

def RouteMode.wireName : RouteMode → String
  | fullTunnel => "fullTunnel"
  | selectedApps => "selectedApps"
  | excludedApps => "excludedApps"
  | allExceptRu => "allExceptRu"
  | selectiveServices => "selectiveServices"

structure TransportCandidate where
  candidateRef : Text
  capabilityRef : Text
  profileRef : Text
  profileRevision : Int
  profileSha256 : Text
  endpointRef : Text
  endpointLeaseRef : Text
  failureDomainRef : Text
  bootstrapSetRef : Text
  probeSetRef : Text
  artifactSha256 : Text
  coreCapabilityRevision : Text
  routePolicyRef : Text
  dnsPolicyRef : Text
  mode : RouteMode
  family : Text
  authorizedFrom : DateTime
  authorizedUntil : DateTime
  activeFlowsUntil : DateTime

namespace TransportCandidate

variable (candidate : TransportCandidate)

/-- The fields of a candidate as one text. -/
def tuple : Text :=
  List.intercalate [unit '|'] [candidate.candidateRef, candidate.capabilityRef, candidate.profileRef,
    encodeInt candidate.profileRevision, candidate.profileSha256, candidate.endpointRef,
    candidate.endpointLeaseRef, candidate.failureDomainRef, candidate.bootstrapSetRef,
    candidate.probeSetRef, candidate.artifactSha256, candidate.coreCapabilityRevision,
    candidate.routePolicyRef, candidate.dnsPolicyRef, text candidate.mode.wireName, candidate.family,
    candidate.authorizedFrom.toIso8601String, candidate.authorizedUntil.toIso8601String,
    candidate.activeFlowsUntil.toIso8601String]

def isDigest (value : Text) : Bool := decide (value.length = 64) && value.all isLowerHex

def families : List Text := [text "ipv4", text "ipv6"]

/-- `_validate`. -/
def validate : Try Unit :=
  if [candidate.candidateRef, candidate.capabilityRef, candidate.profileRef, candidate.endpointRef,
      candidate.endpointLeaseRef, candidate.failureDomainRef, candidate.bootstrapSetRef,
      candidate.probeSetRef, candidate.coreCapabilityRevision, candidate.routePolicyRef,
      candidate.dnsPolicyRef].all isRef = false then .error (selectionFailure "reference_invalid")
  else if isDigest candidate.profileSha256 = false ∨ isDigest candidate.artifactSha256 = false ∨
      candidate.profileRevision < 1 ∨ maximumRevision < candidate.profileRevision ∨
      families.contains candidate.family = false ∨
      candidate.authorizedFrom.isBefore candidate.authorizedUntil = false ∨
      candidate.activeFlowsUntil.isBefore candidate.authorizedUntil = true then
    .error (selectionFailure "binding_invalid")
  else .ok ()

end TransportCandidate

structure TransportProfileQuery where
  platform : Text
  profileRef : Text
  endpointRef : Text
  capabilityRef : Text
  bootstrapSetRef : Text
  probeSetRef : Text
  artifactSha256 : Text
  coreCapabilityRevision : Text
  routePolicyRef : Text
  dnsPolicyRef : Text
  mode : Text
  family : Text

/-! ## Policy -/

inductive TransportSelectionStage
  | profile
  | transport
  | dns
  | payload
  | egress
deriving DecidableEq

inductive TransportChildResource
  | preparation
  | probe
  | tunnel
deriving DecidableEq

inductive TransportAttemptResult
  | pass
  | fail
  | unknown
  | unavailable
  | cancelled
deriving DecidableEq

/-- The budget of a manifest that was verified: none of its numbers is negative. -/
structure TransportBudget where
  maxAttempts : Nat
  maxEndpoints : Nat
  maxConcurrency : Nat
  maxDiagnosticBytes : Nat
  maxRepairs : Nat
  cooldownMs : Nat
  hintsTtlMs : Nat
  stageCapsMs : TransportSelectionStage → Nat

/-- What a selection reads of the admission and of its context, and its deadline. -/
structure SelectionPolicy where
  budget : TransportBudget
  profileRefs : List Text
  capabilityRefs : List Text
  bootstrapSetRefs : List Text
  probeSetRefs : List Text
  kills : Kills
  capabilityBindings : List TransportCapabilityBinding
  lastObservedAt : DateTime
  notBefore : DateTime
  rollbackNotBefore : Option DateTime
  effectiveExpiresAt : DateTime
  deadline : TransportClockDeadline
  hostPlatform : HostPlatform
  artifactSha256 : Text
  coreCapabilityRevision : Text
  routePolicyRef : Text
  dnsPolicyRef : Text
  mode : RouteMode
  families : List Text
  bindings : List TransportCapabilityBinding

namespace SelectionPolicy

variable (policy : SelectionPolicy)

/-- `_eligible`. -/
def eligible (candidate : TransportCandidate) (now : TransportTimeWindow) : Try Bool := do
  candidate.validate
  return policy.profileRefs.contains candidate.profileRef &&
    policy.capabilityRefs.contains candidate.capabilityRef &&
    policy.bootstrapSetRefs.contains candidate.bootstrapSetRef &&
    policy.probeSetRefs.contains candidate.probeSetRef &&
    !policy.kills.profileRefs.contains candidate.profileRef &&
    !policy.kills.endpointRefs.contains candidate.endpointRef &&
    !policy.kills.capabilityRefs.contains candidate.capabilityRef &&
    (policy.bindings.find? fun binding => binding.capabilityRef = candidate.capabilityRef).any
      (fun binding => binding.profileRefs.contains candidate.profileRef) &&
    policy.families.contains candidate.family &&
    decide (candidate.artifactSha256 = policy.artifactSha256) &&
    decide (candidate.coreCapabilityRevision = policy.coreCapabilityRevision) &&
    decide (candidate.routePolicyRef = policy.routePolicyRef) &&
    decide (candidate.dnsPolicyRef = policy.dnsPolicyRef) && decide (candidate.mode = policy.mode) &&
    !now.earliest.isBefore candidate.authorizedFrom && now.latest.isBefore candidate.authorizedUntil

/-- `requirePolicy` of a query. -/
def requirePolicy (query : TransportProfileQuery) : Try Unit :=
  let binding := policy.capabilityBindings.find? fun binding => binding.capabilityRef = query.capabilityRef
  let platform := HostPlatform.values.find? fun item => text item.wireName = query.platform
  if (binding.any fun binding =>
      binding.requiredFeatures.contains .atsLease && binding.profileRefs.contains query.profileRef &&
        decide (binding.coreCapabilityRevision = query.coreCapabilityRevision) &&
        platform.any fun platform => binding.artifacts.contains (platform, query.artifactSha256)) = false ∨
      policy.profileRefs.contains query.profileRef = false ∨
      policy.bootstrapSetRefs.contains query.bootstrapSetRef = false ∨
      policy.probeSetRefs.contains query.probeSetRef = false ∨
      policy.kills.profileRefs.contains query.profileRef = true ∨
      policy.kills.endpointRefs.contains query.endpointRef = true ∨
      policy.kills.capabilityRefs.contains query.capabilityRef = true then
    throwTransport "transport_profile_not_authorized"
  else .ok ()

/-- `_requireQuery`. -/
def requireQuery (query : TransportProfileQuery) : Try Unit := do
  policy.requirePolicy query
  if query.platform ≠ text policy.hostPlatform.wireName ∨ query.artifactSha256 ≠ policy.artifactSha256 ∨
      query.coreCapabilityRevision ≠ policy.coreCapabilityRevision ∨
      query.routePolicyRef ≠ policy.routePolicyRef ∨ query.dnsPolicyRef ≠ policy.dnsPolicyRef ∨
      query.mode ≠ text policy.mode.wireName ∨ policy.families.contains query.family = false ∨
      (policy.bindings.any fun binding => binding.capabilityRef = query.capabilityRef) = false then
    .error (selectionFailure "query_context_mismatch")
  else .ok ()

end SelectionPolicy

/-! ## The selection -/

/-- Permits and owners of a native connection are told apart by number. -/
abbrev Permit := Nat

structure TransportChild where
  resource : TransportChildResource
  deadlineMs : Int
  cancellationRequested : Bool := false

/-- `_TransportNativeConnect`, by the permit of its tunnel. -/
structure TransportNativeConnect where
  permit : Permit
  attemptRef : Text
  deadlineMs : Int
  stopRequested : Bool := false
  promoted : Bool := false

/-- What a proof was made for. -/
structure TransportProofBatch where
  owner : Permit
  attemptRef : Text
  candidateTuple : Text
  allStagesPassed : Bool

structure TransportSelection where
  lastElapsedMs : Int
  lastLatest : DateTime
  closed : Option String := none
  attemptStop : Option String := none
  attemptRef : Option Text := none
  tunnelAttemptRef : Option Text := none
  nativeConnect : Option TransportNativeConnect := none
  proofBatch : Option TransportProofBatch := none
  candidate : Option TransportCandidate := none
  resolvingQuery : Option TransportProfileQuery := none
  attempts : Nat := 0
  repairs : Nat := 0
  bytes : Nat := 0
  nextAttemptMs : Int := 0
  endpoints : List Text := []
  attemptRefs : List Text := []
  children : List (Permit × TransportChild) := []
  /-- The permits that were made. -/
  permits : Nat := 0
  stageDeadlines : List (TransportSelectionStage × Int) := []
  negativeUntil : List (Text × Int) := []

/-- What a check asks of the routing intent, the manifest and the operation. -/
structure Currency where
  routingIntent : Bool
  source : Bool
  operation : Bool

namespace TransportSelection

abbrev Selecting (α : Type) := Stateful TransportSelection Failure α

def fail {α : Type} (reason : String) : Selecting α := .throw (selectionFailure reason)

/-- `if (…) _transportSelectionFail(…)`. -/
def refuse (b : Prop) [Decidable b] (reason : String) : Selecting Unit :=
  if b then fail reason else pure ()

def stopReason (s : TransportSelection) : Option String := s.closed.orElse fun _ => s.attemptStop

def hasChild (s : TransportSelection) (permit : Permit) : Bool :=
  s.children.any fun child => child.1 = permit

/-- The owner of the native connection is told to stop, and so is every child. -/
def stopped (s : TransportSelection) (reason : String) : TransportSelection :=
  { s with
    attemptStop := s.attemptStop.orElse fun _ => some reason
    nativeConnect := s.nativeConnect.map fun owner => { owner with stopRequested := true }
    children := s.children.map fun child => (child.1, { child.2 with cancellationRequested := true }) }

/-- `_stopAttempt`. -/
def stopAttempt (reason : String) : Selecting Unit := .modify (stopped · reason)

def close (s : TransportSelection) (reason : String) : TransportSelection :=
  { s with closed := s.closed.orElse fun _ => some reason }

/-- `cancel`. -/
def cancel (reason : String) : Selecting Unit := do
  .modify (close · reason)
  stopAttempt reason

/-- The selection is cancelled for a reason, which is thrown. -/
def cancelFor (b : Prop) [Decidable b] (reason : String) : Selecting Unit :=
  if b then do
    cancel reason
    fail reason
  else pure ()

def observed (s : TransportSelection) (now : TransportTimeWindow) : TransportSelection :=
  { s with lastElapsedMs := now.sample.elapsedMilliseconds, lastLatest := now.latest }

variable (policy : SelectionPolicy)

/-- A time that goes back, or before what the policy allows. -/
def clockInvalid (s : TransportSelection) (now : TransportTimeWindow) : Prop :=
  now.earliest.isAfter now.latest = true ∨ now.sample.elapsedMilliseconds < s.lastElapsedMs ∨
    now.latest.isBefore s.lastLatest = true ∨ now.latest.isBefore policy.lastObservedAt = true ∨
    now.earliest.isBefore policy.notBefore = true ∨
    (policy.rollbackNotBefore.any fun notBefore => now.earliest.isBefore notBefore) = true

instance (s : TransportSelection) (now : TransportTimeWindow) : Decidable (clockInvalid policy s now) :=
  inferInstanceAs (Decidable (_ ∨ _))

/-- The candidate in hand is not eligible any more. -/
def checkCandidate (now : TransportTimeWindow) : Selecting Unit := do
  let s ← .get
  match s.candidate with
  | none => pure ()
  | some candidate => do
      let eligible ← .lift (policy.eligible candidate now)
      if eligible = false then stopAttempt "candidate_ineligible" else pure ()

/-- A deadline of a child or of the native connection has passed. -/
def late (s : TransportSelection) : Bool :=
  (s.children.any fun child => child.2.deadlineMs ≤ s.lastElapsedMs) ||
    s.nativeConnect.any fun owner => owner.deadlineMs ≤ s.lastElapsedMs

/-- `_check`. -/
def check (current : Currency) (now : TransportTimeWindow) : Selecting Unit := do
  let s ← .get
  refuse (s.closed.isSome = true) "closed"
  cancelFor (current.routingIntent = false) "routing_intent_changed"
  cancelFor (current.source = false) "policy_changed"
  cancelFor (current.operation = false) "context_changed"
  cancelFor (clockInvalid policy s now) "clock_invalid"
  cancelFor ((policy.deadline.requireCurrent now.sample).isOk = false) "deadline"
  .modify (observed · now)
  cancelFor (now.latest.isBefore policy.effectiveExpiresAt = false) "policy_expired"
  checkCandidate policy now
  let s ← .get
  if s.late = true then stopAttempt "stage_deadline" else pure ()

/-- `sample`, once the network and the source have answered. -/
def sample (network : Bool) (source : Option TransportTimeWindow) (current : Currency) :
    Selecting TransportTimeWindow :=
  if network = false then do
    cancel "network_context_changed"
    .throw .other
  else
    match source with
    | none => do
        cancel "policy_unavailable"
        .throw .other
    | some now => do
        .catching (check policy current now) fun failure => do
          cancel "policy_unavailable"
          .throw failure
        return now

/-! ### Attempts -/

def negative (s : TransportSelection) (candidate : TransportCandidate) : Bool :=
  decide (s.lastElapsedMs < (s.negativeUntil.lookup candidate.tuple).getD 0)

/-- The candidates that may be tried, each reference once. -/
def eligibleFrom (s : TransportSelection) (now : TransportTimeWindow) :
    List Text → List TransportCandidate → Try (List TransportCandidate)
  | _, [] => .ok []
  | refs, candidate :: rest =>
    if candidate.candidateRef ∈ refs then .error (selectionFailure "candidate_conflict")
    else do
      let eligible ← policy.eligible candidate now
      let others ← eligibleFrom s now (candidate.candidateRef :: refs) rest
      return if eligible = true ∧ s.negative candidate = false then candidate :: others else others

/-- `shortlist`: the healthy candidate first, the others by their references. -/
def shortlist (candidates : List TransportCandidate) (now : TransportTimeWindow)
    (healthyTuple : Option Text) (current : Currency) : Selecting (List TransportCandidate) := do
  check policy current now
  refuse (1024 < candidates.length) "inventory_too_large"
  let s ← .get
  let eligible ← .lift (eligibleFrom policy s now [] candidates)
  return eligible.insertionSort fun a b =>
    some a.tuple = healthyTuple ∧ some b.tuple ≠ healthyTuple ∨
      (some a.tuple = healthyTuple ↔ some b.tuple = healthyTuple) ∧ a.candidateRef ≤ b.candidateRef

/-- An attempt takes its place in the budget. -/
def reserved (s : TransportSelection) (attemptRef endpointRef : Text) (repair : Bool) :
    TransportSelection :=
  { s with
    attempts := s.attempts + 1
    repairs := if repair then s.repairs + 1 else s.repairs
    endpoints := if s.endpoints.contains endpointRef then s.endpoints else s.endpoints ++ [endpointRef]
    attemptRefs := s.attemptRefs ++ [attemptRef]
    attemptRef := some attemptRef
    candidate := none
    resolvingQuery := none
    proofBatch := none
    attemptStop := none
    stageDeadlines := [] }

/-- `_reserveAttempt`. -/
def reserveAttempt (attemptRef endpointRef : Text) (now : TransportTimeWindow) (repair : Bool)
    (current : Currency) : Selecting Unit := do
  check policy current now
  refuse (isRef attemptRef = false) "reference_invalid"
  let s ← .get
  refuse (s.attemptRef.isSome = true ∨ s.children ≠ [] ∨ s.tunnelAttemptRef.isSome = true) "attempt_owned"
  refuse (attemptRef ∈ s.attemptRefs) "attempt_replay"
  refuse (s.lastElapsedMs < s.nextAttemptMs) "cooldown"
  refuse (policy.budget.maxAttempts ≤ s.attempts) "attempt_limit"
  refuse (endpointRef ∉ s.endpoints ∧ policy.budget.maxEndpoints ≤ s.endpoints.length) "endpoint_limit"
  refuse (repair = true ∧ policy.budget.maxRepairs ≤ s.repairs) "repair_limit"
  .modify (reserved · attemptRef endpointRef repair)

/-- `beginAttempt`, whose two checks are answered one after the other. -/
def beginAttempt (attemptRef : Text) (candidate : TransportCandidate) (now : TransportTimeWindow)
    (repair : Bool) (current current' : Currency) : Selecting Unit := do
  check policy current now
  let eligible ← .lift (policy.eligible candidate now)
  refuse (eligible = false) "candidate_ineligible"
  let s ← .get
  refuse (s.negative candidate = true) "negative_hint"
  reserveAttempt policy attemptRef candidate.endpointRef now repair current'
  .modify fun s => { s with candidate := some candidate }

/-- The reservation of `resolveAndStageProfile`, before its first child. -/
def reserveResolution (attemptRef : Text) (query : TransportProfileQuery) (now : TransportTimeWindow)
    (repair : Bool) (current : Currency) : Selecting Unit := do
  .lift (policy.requireQuery query)
  reserveAttempt policy attemptRef query.endpointRef now repair current
  .modify fun s => { s with resolvingQuery := some query }

/-- The candidate that `resolveAndStageProfile` was answered with takes the place of
its query, while the attempt and its child go on. -/
def resolveCandidate (attemptRef : Text) (permit : Permit) (candidate : TransportCandidate)
    (now : TransportTimeWindow) (operationIsCurrent : Bool) : Selecting Unit :=
  .catching (do
    let s ← .get
    refuse (operationIsCurrent = false ∨ s.stopReason.isSome = true ∨ s.attemptRef ≠ some attemptRef ∨
      s.hasChild permit = false) "resolution_superseded"
    let eligible ← .lift (policy.eligible candidate now)
    refuse (eligible = false) "candidate_ineligible"
    refuse (s.negative candidate = true) "negative_hint"
    .modify fun s => { s with candidate := some candidate, resolvingQuery := none })
    fun failure => do
      stopAttempt "profile_failed"
      .throw failure

/-! ### Children -/

/-- `difference(…).inMilliseconds`. -/
def millisecondsUntil (expires now : DateTime) : Int := (expires.micros - now.micros).tdiv 1000

/-- What a child may be begun for. -/
def requireCandidate (stage : TransportSelectionStage) (resource : TransportChildResource)
    (now : TransportTimeWindow) : Selecting Unit := do
  let s ← .get
  match s.candidate, s.resolvingQuery with
  | none, none => fail "candidate_unresolved"
  | none, some query => do
      refuse (stage ≠ .profile ∨ resource ≠ .preparation) "candidate_unresolved"
      .lift (policy.requireQuery query)
  | some candidate, _ => do
      let eligible ← .lift (policy.eligible candidate now)
      if eligible = false then do
        stopAttempt "candidate_expired"
        fail "candidate_ineligible"
      else pure ()

/-- The deadline of a stage, from its first child on. -/
def stageDeadline (s : TransportSelection) (stage : TransportSelectionStage) : Int :=
  (s.stageDeadlines.lookup stage).getD
    (min policy.deadline.expiresElapsedMs (s.lastElapsedMs + policy.budget.stageCapsMs stage))

/-- The deadline of a child: of its stage, of the policy and of the candidate. -/
def childDeadline (s : TransportSelection) (stage : TransportSelectionStage)
    (now : TransportTimeWindow) : Int :=
  let validity := s.lastElapsedMs + millisecondsUntil policy.effectiveExpiresAt now.latest
  let validity := match s.candidate with
    | none => validity
    | some candidate =>
      min validity (s.lastElapsedMs + millisecondsUntil candidate.authorizedUntil now.latest)
  min (stageDeadline policy s stage) validity

/-- A child is begun under the attempt. -/
def withChild (s : TransportSelection) (attemptRef : Text) (stage : TransportSelectionStage)
    (stageDeadline : Int) (child : TransportChild) : TransportSelection :=
  { s with
    stageDeadlines := (stage, stageDeadline) :: s.stageDeadlines
    tunnelAttemptRef := if child.resource = .tunnel then some attemptRef else s.tunnelAttemptRef
    children := s.children ++ [(s.permits, child)]
    permits := s.permits + 1 }

/-- `beginChild`, which answers with the permit and the time that it leaves. -/
def beginChild (attemptRef : Text) (stage : TransportSelectionStage) (resource : TransportChildResource)
    (now : TransportTimeWindow) (current : Currency) : Selecting (Permit × Int) := do
  check policy current now
  let s ← .get
  refuse (s.attemptRef ≠ some attemptRef) "attempt_mismatch"
  requireCandidate policy stage resource now
  let s ← .get
  refuse (s.attemptStop.isSome = true) "attempt_stopping"
  refuse (policy.budget.maxConcurrency ≤ s.children.length) "concurrency_limit"
  refuse (resource = .tunnel ∧ s.tunnelAttemptRef.isSome = true) "tunnel_owned"
  let deadline := childDeadline policy s stage now
  if deadline ≤ s.lastElapsedMs then do
    stopAttempt "stage_deadline"
    fail "deadline"
  else do
    .modify (withChild · attemptRef stage (stageDeadline policy s stage) { resource, deadlineMs := deadline })
    return (s.permits, deadline - s.lastElapsedMs)

/-- The child and the owner of `connectStagedProfile`. -/
def connect (attemptRef : Text) (now : TransportTimeWindow) (current : Currency) :
    Selecting Permit := do
  let (permit, remaining) ← beginChild policy attemptRef .transport .tunnel now current
  .modify fun s => { s with
    nativeConnect := some { permit, attemptRef, deadlineMs := now.sample.elapsedMilliseconds + remaining } }
  return permit

/-- `reserveDiagnosticBytes`. -/
def reserveDiagnosticBytes (attemptRef : Text) (permit : Permit) (count : Int)
    (now : TransportTimeWindow) (current : Currency) : Selecting Unit := do
  check policy current now
  let s ← .get
  refuse (s.attemptRef ≠ some attemptRef ∨ s.hasChild permit = false) "child_mismatch"
  refuse (s.attemptStop.isSome = true) "attempt_stopping"
  refuse (count < 1) "diagnostic_count_invalid"
  cancelFor ((policy.budget.maxDiagnosticBytes : Int) - s.bytes < count) "diagnostic_limit"
  .modify fun s => { s with bytes := s.bytes + count.toNat }

/-- A time at the end of a task. Without one the selection is cancelled. -/
def observe (now : Option TransportTimeWindow) (current : Currency) : Selecting Unit := do
  let s ← .get
  if s.closed.isSome = true then pure ()
  else
    match now with
    | none => cancel "clock_unavailable"
    | some now => .catching (check policy current now) fun failure => do
        let s ← .get
        if s.closed.isSome = true then pure () else .throw failure

/-- `settleChild`. -/
def settleChild (attemptRef : Text) (permit : Permit) (now : Option TransportTimeWindow)
    (current : Currency) : Selecting Unit := do
  let s ← .get
  refuse (s.attemptRef ≠ some attemptRef ∨ s.hasChild permit = false) "child_mismatch"
  observe policy now current
  .modify fun s => { s with children := s.children.filter fun child => child.1 ≠ permit }

/-! ### The native connection -/

/-- The owner was asked to stop. -/
def requestStop (permit : Permit) : Selecting Unit :=
  .modify fun s => { s with
    nativeConnect := s.nativeConnect.map fun owner =>
      if owner.permit = permit then { owner with stopRequested := true } else owner }

/-- `_acknowledgeTunnelStopped`. -/
def acknowledgeTunnelStopped (attemptRef : Text) : Selecting Unit := do
  let s ← .get
  refuse (s.tunnelAttemptRef ≠ some attemptRef ∨
    (s.children.any fun child => child.2.resource = .tunnel) = true) "tunnel_owned"
  .modify fun s => { s with tunnelAttemptRef := none }

/-- The native stop of an owner was confirmed. -/
def stopConfirmed (owner : TransportNativeConnect) : Selecting Unit := do
  let s ← .get
  if (s.nativeConnect.any fun native => native.permit = owner.permit) = true then do
    acknowledgeTunnelStopped owner.attemptRef
    .modify fun s => { s with nativeConnect := none }
  else pure ()

/-- A new deadline of the owner, once the connection was acknowledged. -/
def extendConnect (permit : Permit) (deadlineMs : Int) : Selecting Unit :=
  .modify fun s => { s with
    nativeConnect := s.nativeConnect.map fun owner =>
      if owner.permit = permit then { owner with deadlineMs } else owner }

/-- A proof was made of the connection. -/
def prove (proof : TransportProofBatch) : Selecting Unit :=
  .modify fun s => { s with proofBatch := some proof }

/-- `requireCurrent` of a proof: of what was staged, and of the owner. -/
def requireProof (proof : TransportProofBatch) (now : TransportTimeWindow) (current : Currency)
    (staged : Bool) : Selecting Unit := do
  let s ← .get
  refuse (s.attemptRef ≠ some proof.attemptRef ∨
    s.candidate.map TransportCandidate.tuple ≠ some proof.candidateTuple ∨
    s.stopReason.isSome = true) "staged_profile_superseded"
  check policy current now
  refuse (staged = false) "staged_restriction_revoked"
  let s ← .get
  refuse ((s.nativeConnect.any fun owner =>
    decide (owner.permit = proof.owner) && !owner.stopRequested) = false) "connect_superseded"

/-- The end of `promoteProof`, after the runtime has taken over the lease. -/
def promoteProof (proof : TransportProofBatch) (now : TransportTimeWindow) (current : Currency)
    (staged handedOver : Bool) : Selecting Unit := do
  requireProof policy proof now current staged
  let s ← .get
  refuse (handedOver = false ∨ (s.nativeConnect.any fun owner =>
    decide (owner.permit = proof.owner) && !owner.stopRequested) = false) "lease_handoff_unconfirmed"
  .modify fun s => { s with
    nativeConnect := s.nativeConnect.map fun owner => { owner with promoted := true } }

/-! ### The end of an attempt -/

/-- What a pass needs: the candidate, a proof of all stages, and a lease that was
handed over. -/
def requirePass (attemptRef : Text) (now : TransportTimeWindow) (current : Currency) (staged : Bool) :
    Selecting Unit := do
  let s ← .get
  refuse (s.closed.isSome = true ∨ s.attemptStop.isSome = true) "late_result"
  match s.candidate with
  | none => fail "late_result"
  | some candidate => do
      let eligible ← .lift (policy.eligible candidate now)
      refuse (eligible = false) "late_result"
  match s.proofBatch with
  | none => fail "proof_incomplete"
  | some proof => do
      refuse (proof.allStagesPassed = false) "proof_incomplete"
      requireProof policy proof now current staged
  let s ← .get
  refuse ((s.nativeConnect.any fun owner => owner.promoted && decide (owner.attemptRef = attemptRef)) = false ∨
    s.tunnelAttemptRef ≠ some attemptRef) "lease_handoff_unconfirmed"

/-- A failure is remembered of a candidate that could have passed. -/
def remember (result : TransportAttemptResult) (now : TransportTimeWindow) : Selecting Unit := do
  let s ← .get
  match s.candidate with
  | none => pure ()
  | some candidate =>
    if s.closed.isNone = true ∧ s.attemptStop.isNone = true ∧ result = .fail then do
      let eligible ← .lift (policy.eligible candidate now)
      if eligible = true then
        .modify fun s => { s with
          negativeUntil := (candidate.tuple, s.lastElapsedMs + policy.budget.hintsTtlMs) :: s.negativeUntil }
      else pure ()
    else pure ()

def ended (s : TransportSelection) : TransportSelection :=
  { s with
    nextAttemptMs := s.lastElapsedMs + policy.budget.cooldownMs
    attemptRef := none
    candidate := none
    resolvingQuery := none }

/-- `finishAttempt`. -/
def finishAttempt (attemptRef : Text) (result : TransportAttemptResult) (now : TransportTimeWindow)
    (current current' : Currency) (staged : Bool) : Selecting Unit := do
  let s ← .get
  refuse (s.attemptRef ≠ some attemptRef ∨ s.children ≠ []) "attempt_owned"
  observe policy (some now) current
  if result = .pass then do
    requirePass policy attemptRef now current' staged
    .modify fun s => { s with nativeConnect := none, tunnelAttemptRef := none }
  else do
    let s ← .get
    refuse (s.tunnelAttemptRef.isSome = true) "tunnel_owned"
  remember policy result now
  .modify (ended policy)
  if result = .pass then cancel "selection_finished"
  else if result = .cancelled then cancel "user_cancelled"
  else pure ()

/-! ### Operations -/

/-- The constructor, for a context of the manifest that was admitted. -/
def create (contextMatches : Bool) (now : TransportTimeWindow) (current : Currency) :
    Try TransportSelection :=
  if contextMatches = false then .error (selectionFailure "context_policy_mismatch")
  else
    match check policy current now
      { lastElapsedMs := now.sample.elapsedMilliseconds, lastLatest := now.latest } with
    | (.ok (), s) => .ok s
    | (.error failure, _) => .error failure

end TransportSelection

/-- What happens to a selection, between which anything may be awaited. Timers and the
failures of callbacks stop the attempt, or cancel. -/
inductive SelectionOperation
  | shortlist (candidates : List TransportCandidate) (now : TransportTimeWindow)
      (healthyTuple : Option Text) (current : Currency)
  | beginAttempt (attemptRef : Text) (candidate : TransportCandidate) (now : TransportTimeWindow)
      (repair : Bool) (current current' : Currency)
  | reserveResolution (attemptRef : Text) (query : TransportProfileQuery) (now : TransportTimeWindow)
      (repair : Bool) (current : Currency)
  | resolveCandidate (attemptRef : Text) (permit : Permit) (candidate : TransportCandidate)
      (now : TransportTimeWindow) (operationIsCurrent : Bool)
  | beginChild (attemptRef : Text) (stage : TransportSelectionStage) (resource : TransportChildResource)
      (now : TransportTimeWindow) (current : Currency)
  | connect (attemptRef : Text) (now : TransportTimeWindow) (current : Currency)
  | reserveDiagnosticBytes (attemptRef : Text) (permit : Permit) (count : Int)
      (now : TransportTimeWindow) (current : Currency)
  | settleChild (attemptRef : Text) (permit : Permit) (now : Option TransportTimeWindow)
      (current : Currency)
  | sample (network : Bool) (source : Option TransportTimeWindow) (current : Currency)
  | requestStop (permit : Permit)
  | stopConfirmed (owner : TransportNativeConnect)
  | extendConnect (permit : Permit) (deadlineMs : Int)
  | prove (proof : TransportProofBatch)
  | requireProof (proof : TransportProofBatch) (now : TransportTimeWindow) (current : Currency)
      (staged : Bool)
  | promoteProof (proof : TransportProofBatch) (now : TransportTimeWindow) (current : Currency)
      (staged handedOver : Bool)
  | finishAttempt (attemptRef : Text) (result : TransportAttemptResult) (now : TransportTimeWindow)
      (current current' : Currency) (staged : Bool)
  | stopAttempt (reason : String)
  | cancel (reason : String)

/-- The attempt that an operation asks for, and its endpoint. -/
def SelectionOperation.opens : SelectionOperation → Option (Text × Text)
  | .beginAttempt attemptRef candidate _ _ _ _ => some (attemptRef, candidate.endpointRef)
  | .reserveResolution attemptRef query _ _ _ => some (attemptRef, query.endpointRef)
  | _ => none

namespace TransportSelection

/-- The selection after an operation, which may have thrown. -/
def after (policy : SelectionPolicy) (s : TransportSelection) : SelectionOperation → TransportSelection
  | .shortlist candidates now healthyTuple current =>
    (shortlist policy candidates now healthyTuple current s).2
  | .beginAttempt attemptRef candidate now repair current current' =>
    (beginAttempt policy attemptRef candidate now repair current current' s).2
  | .reserveResolution attemptRef query now repair current =>
    (reserveResolution policy attemptRef query now repair current s).2
  | .resolveCandidate attemptRef permit candidate now operationIsCurrent =>
    (resolveCandidate policy attemptRef permit candidate now operationIsCurrent s).2
  | .beginChild attemptRef stage resource now current =>
    (beginChild policy attemptRef stage resource now current s).2
  | .connect attemptRef now current => (connect policy attemptRef now current s).2
  | .reserveDiagnosticBytes attemptRef permit count now current =>
    (reserveDiagnosticBytes policy attemptRef permit count now current s).2
  | .settleChild attemptRef permit now current => (settleChild policy attemptRef permit now current s).2
  | .sample network source current => (sample policy network source current s).2
  | .requestStop permit => (requestStop permit s).2
  | .stopConfirmed owner => (stopConfirmed owner s).2
  | .extendConnect permit deadlineMs => (extendConnect permit deadlineMs s).2
  | .prove proof => (prove proof s).2
  | .requireProof proof now current staged => (requireProof policy proof now current staged s).2
  | .promoteProof proof now current staged handedOver =>
    (promoteProof policy proof now current staged handedOver s).2
  | .finishAttempt attemptRef result now current current' staged =>
    (finishAttempt policy attemptRef result now current current' staged s).2
  | .stopAttempt reason => (stopAttempt reason s).2
  | .cancel reason => (cancel reason s).2

end TransportSelection

end Pokrov.AppShell
