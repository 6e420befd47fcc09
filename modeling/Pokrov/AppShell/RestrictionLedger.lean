import Mathlib.Data.Finset.Basic
import Pokrov.AppShell.CatalogContract
import Pokrov.Lib.Stateful

/-!
# The restrictions of a connection

The part of `ConnectionCoordinator` in `connection_experience.dart` that holds
the smart access leases of the running profile, what has been received against
them and what the running instance has acknowledged. Two objects are the same
when their references are; one that the coordinator makes has a new reference.
-/

namespace Pokrov.AppShell

open Dart Stateful

/-! ## Leases -/

inductive SmartAccessLeaseRevocation
  | drain
  | terminate
deriving DecidableEq

/-- A time and the text that it was read from. -/
structure StoredTime where
  written : Text
  value : DateTime
  parsed : DateTime.tryParse written = some value
deriving DecidableEq

structure RenewalScope where
  profileSha256 : Text
  routeMode : Text
  runtimeScopeSha256 : Text
  origin : Text
  family : Text
  feature : Text
  providerRevision : Int
  permissionRevision : Int
  catalogRevision : Int
  catalogSecurityRevision : Int
deriving DecidableEq

structure SmartAccessLeaseIdentity where
  leaseId : Text
  audience : Text
  platform : Text
  serviceId : Text
  providerId : Text
  permissionId : Text
  capabilityId : Text
  providerPolicyRevision : Int
  providerSecurityRevision : Int
  providerPolicySha256 : Text
  issuedAt : StoredTime
  newFlowsUntil : StoredTime
  activeFlowsUntil : StoredTime
  renewal : Option RenewalScope
deriving DecidableEq

namespace SmartAccessLeaseIdentity

/-- `matches`: the stored maps are equal. -/
def matchesLease (lease other : SmartAccessLeaseIdentity) : Bool := lease = other

/-- `acceptsRuntimeIdentity`. -/
def acceptsRuntimeIdentity (lease next : SmartAccessLeaseIdentity) : Bool :=
  match lease.renewal, next.renewal with
  | some scope, some nextScope =>
    nextScope.runtimeScopeSha256 = scope.runtimeScopeSha256 &&
    nextScope.profileSha256 = scope.profileSha256 && nextScope.routeMode = scope.routeMode &&
    next.platform = lease.platform && next.audience = lease.audience &&
    next.serviceId = lease.serviceId && next.providerId = lease.providerId &&
    next.permissionId = lease.permissionId && next.capabilityId = lease.capabilityId &&
    nextScope.origin = scope.origin && nextScope.family = scope.family &&
    nextScope.feature = scope.feature &&
    decide (scope.providerRevision ≤ nextScope.providerRevision) &&
    decide (scope.permissionRevision ≤ nextScope.permissionRevision) &&
    decide (lease.providerPolicyRevision ≤ next.providerPolicyRevision) &&
    decide (lease.providerSecurityRevision ≤ next.providerSecurityRevision) &&
    decide (scope.catalogRevision ≤ nextScope.catalogRevision) &&
    decide (scope.catalogSecurityRevision ≤ nextScope.catalogSecurityRevision)
  | _, _ => false

end SmartAccessLeaseIdentity

/-- A grant with its `runtimeIdentity`. `nativeEndpoints` is whether
`_validateNativeEndpoints` accepts its relays, resolver and domains. -/
structure VerifiedSmartAccessLease where
  identity : SmartAccessLeaseIdentity
  scope : RenewalScope
  externalECHOuterSNI : Bool
  nativeEndpoints : Bool
  renews : identity.renewal = some scope
deriving DecidableEq

namespace VerifiedSmartAccessLease

variable (grant : VerifiedSmartAccessLease)

def admitsNewFlows (now : DateTime) : Bool :=
  !now.isBefore grant.identity.issuedAt.value && now.isBefore grant.identity.newFlowsUntil.value

def hasSameRuntimeScope (previous : VerifiedSmartAccessLease) : Bool :=
  grant.scope.runtimeScopeSha256 = previous.scope.runtimeScopeSha256 &&
  grant.externalECHOuterSNI = previous.externalECHOuterSNI &&
  decide (previous.scope.providerRevision ≤ grant.scope.providerRevision) &&
  decide (previous.scope.permissionRevision ≤ grant.scope.permissionRevision) &&
  decide (previous.identity.providerPolicyRevision ≤ grant.identity.providerPolicyRevision) &&
  decide (previous.identity.providerSecurityRevision ≤ grant.identity.providerSecurityRevision) &&
  decide (previous.scope.catalogRevision ≤ grant.scope.catalogRevision) &&
  decide (previous.scope.catalogSecurityRevision ≤ grant.scope.catalogSecurityRevision)

end VerifiedSmartAccessLease

/-- The services of a `CatalogRuntimeIdentity`. -/
structure CatalogRuntimeIdentity where
  services : Finset Text
deriving DecidableEq

structure SmartAccessRuntimeLeases where
  ref : Nat
  profileDigest : Text
  leases : List SmartAccessLeaseIdentity
  catalogIssuedAt : Option DateTime := none
  catalogExpiresAt : Option DateTime := none
  catalogSha256 : Option Text := none
  catalogIdentity : Option CatalogRuntimeIdentity := none
  verifiedGrants : List VerifiedSmartAccessLease := []
deriving DecidableEq

namespace SmartAccessRuntimeLeases

variable (binding : SmartAccessRuntimeLeases)

def hasRestrictionMetadata : Bool := binding.catalogExpiresAt.isSome || !binding.leases.isEmpty

def leaseIds : List Text := binding.leases.map (·.leaseId)

end SmartAccessRuntimeLeases

abbrev Decisions := Text → Option SmartAccessLeaseRevocation

structure StoredSmartAccessRuntime where
  binding : SmartAccessRuntimeLeases
  decisions : Decisions
  catalogRevoked : Bool := false
  catalogWithdrawn : Bool := false
  catalogServiceRevocations : Finset Text := ∅

structure SmartAccessLeaseRenewal where
  ref : Nat
  binding : SmartAccessRuntimeLeases
  previous : SmartAccessLeaseIdentity
  next : VerifiedSmartAccessLease
  currentLeaseIds : List Text
deriving DecidableEq

def SmartAccessLeaseRenewal.previousLeaseId (renewal : SmartAccessLeaseRenewal) : Text :=
  renewal.previous.leaseId

def SmartAccessLeaseRenewal.nextLeaseId (renewal : SmartAccessLeaseRenewal) : Text :=
  renewal.next.identity.leaseId

def isHex64 (value : Text) : Bool := decide (value.length = 64) && value.all isLowerHex

/-- `SmartAccessLeaseRenewal.prepare`. -/
def SmartAccessLeaseRenewal.prepare (ref : Nat) (binding : SmartAccessRuntimeLeases)
    (previousLeaseId : Text) (next : VerifiedSmartAccessLease) (now : DateTime)
    (currentLeaseIds : List Text) : Try SmartAccessLeaseRenewal :=
  match binding.leases.filter (·.leaseId = previousLeaseId), binding.catalogIssuedAt,
      binding.catalogExpiresAt, binding.catalogIdentity with
  | [previous], some catalogIssuedAt, some catalogExpiresAt, some _ =>
    if isHex64 binding.profileDigest = false ∨ previousLeaseId ∉ currentLeaseIds then
      throwCatalog "smart_access_renewal_binding_missing"
    else
      let verifiedPrevious :=
        binding.verifiedGrants.find? fun grant => grant.identity.leaseId = previousLeaseId
      let sameScope := match verifiedPrevious with
        | some verified => next.hasSameRuntimeScope verified
        | none => true
      if next.identity.leaseId = previousLeaseId ∨ next.identity.leaseId ∈ binding.leaseIds ∨
          previous.acceptsRuntimeIdentity next.identity = false ∨
          next.admitsNewFlows now = false ∨ sameScope = false ∨
          now.isBefore catalogIssuedAt = true ∨ now.isBefore catalogExpiresAt = false ∨
          next.identity.issuedAt.value.isBefore previous.issuedAt.value = true ∨
          next.identity.newFlowsUntil.value.isAfter previous.newFlowsUntil.value = false ∨
          next.identity.newFlowsUntil.value.isAfter catalogExpiresAt = true then
        throwCatalog "smart_access_renewal_scope_mismatch"
      else if next.nativeEndpoints = false then
        throwCatalog "smart_access_native_projection_invalid"
      else .ok ⟨ref, binding, previous, next, currentLeaseIds⟩
  | _, _, _, _ => throwCatalog "smart_access_renewal_binding_missing"

/-! ## The coordinator -/

inductive RuntimePhase
  | artifactMissing
  | artifactReady
  | initialized
  | configStaged
  | running
deriving DecidableEq

/-- The fields of a snapshot that the restrictions depend on. -/
structure RuntimeSnapshot where
  phase : RuntimePhase
  stagedProfileDigest : Option Text := none
  effectiveProfileDigest : Option Text := none

structure ConnectionCoordinator where
  disposed : Bool := false
  operationGeneration : Nat := 0
  actionInFlight : Bool := false
  snapshot : Option RuntimeSnapshot := none
  stagedLeases : Option SmartAccessRuntimeLeases := none
  /-- `_activeSmartAccessLeases`. -/
  activeLeases : Option SmartAccessRuntimeLeases := none
  smartAccessRenewals : Text → Option SmartAccessLeaseRenewal := fun _ => none
  /-- What the running instance has acknowledged. -/
  smartAccessRevocations : Decisions := fun _ => none
  pendingRevocations : Decisions := fun _ => none
  catalogRevoked : Bool := false
  catalogWithdrawn : Bool := false
  catalogRevocationAcknowledged : Bool := false
  smartAccessPolicyRevocation : Option SmartAccessLeaseRevocation := none
  smartAccessPolicyAcknowledged : Option SmartAccessLeaseRevocation := none
  catalogServiceRevocations : Finset Text := ∅
  catalogServiceAcknowledgements : Finset Text := ∅
  revokedCatalogSha256 : Option Text := none
  revokedCatalogExpiresAt : Option DateTime := none
  revokedServiceCatalogSha256 : Option Text := none
  revokedServiceCatalogExpiresAt : Option DateTime := none
  revokedCatalogServices : Finset Text := ∅
  /-- How many objects the coordinator has made. -/
  allocated : Nat := 0

abbrev Coordinator (α : Type) := Stateful ConnectionCoordinator Failure α

namespace ConnectionCoordinator

variable (s : ConnectionCoordinator)

def ownsOperation (generation : Nat) : Bool :=
  !s.disposed && generation = s.operationGeneration

def isRunning : Bool := s.snapshot.any (·.phase = .running)

def effectiveProfileDigest : Option Text := s.snapshot.bind (·.effectiveProfileDigest)

/-- `activeSmartAccessLeases`. -/
def activeSmartAccessLeases : Option SmartAccessRuntimeLeases :=
  if !s.disposed && s.isRunning &&
      s.effectiveProfileDigest = s.activeLeases.map (·.profileDigest) then s.activeLeases
  else none

def isActive (binding : SmartAccessRuntimeLeases) : Bool := s.activeSmartAccessLeases = some binding

def hasRestrictionMetadata : Bool := s.activeSmartAccessLeases.any (·.hasRestrictionMetadata)

/-! ### Received restrictions -/

def receivedCatalogRevocation (binding : SmartAccessRuntimeLeases) : Bool :=
  s.isActive binding && s.catalogRevoked

def needsCatalogRevocation (binding : SmartAccessRuntimeLeases) : Bool :=
  s.receivedCatalogRevocation binding && !s.catalogRevocationAcknowledged

def receivedCatalogServiceRevocations (binding : SmartAccessRuntimeLeases) : Finset Text :=
  if s.isActive binding then s.catalogServiceRevocations else ∅

def pendingCatalogServiceRevocations (binding : SmartAccessRuntimeLeases) : Finset Text :=
  s.receivedCatalogServiceRevocations binding \ s.catalogServiceAcknowledgements

def pendingSmartAccessPolicyRevocation (binding : SmartAccessRuntimeLeases) :
    Option SmartAccessLeaseRevocation :=
  if s.isActive binding = false ∨ s.smartAccessPolicyRevocation = none ∨
      s.smartAccessPolicyAcknowledged = some .terminate ∨
      s.smartAccessPolicyAcknowledged = s.smartAccessPolicyRevocation then none
  else s.smartAccessPolicyRevocation

def needsSmartAccessRevocation (binding : SmartAccessRuntimeLeases) (leaseId : Text)
    (decision : SmartAccessLeaseRevocation) : Bool :=
  if s.isActive binding = false then false
  else if s.smartAccessPolicyAcknowledged = some .terminate ∨
      s.smartAccessPolicyAcknowledged = some decision then false
  else
    match s.smartAccessRevocations leaseId with
    | none => true
    | some applied => applied = .drain && decision = .terminate

def pendingSmartAccessRevocations (binding : SmartAccessRuntimeLeases) : Decisions := fun leaseId =>
  (s.pendingRevocations leaseId).filter fun decision =>
    s.needsSmartAccessRevocation binding leaseId decision

/-! ### Receiving and acknowledging -/

def receiveSmartAccessRevocations (binding : SmartAccessRuntimeLeases) (decisions : Decisions) :
    ConnectionCoordinator :=
  if s.isActive binding then
    { s with
      pendingRevocations := fun leaseId =>
        if s.pendingRevocations leaseId = some .terminate then some .terminate
        else (decisions leaseId).or (s.pendingRevocations leaseId) }
  else s

def receiveCatalogRevocation (binding : SmartAccessRuntimeLeases) (withdrawCatalog : Bool) :
    ConnectionCoordinator :=
  if s.isActive binding then
    let received := { s with
      catalogRevoked := true, catalogWithdrawn := s.catalogWithdrawn || withdrawCatalog }
    if withdrawCatalog && binding.catalogSha256.isSome && binding.catalogExpiresAt.isSome then
      { received with
        revokedCatalogSha256 := binding.catalogSha256
        revokedCatalogExpiresAt := binding.catalogExpiresAt }
    else received
  else s

def acknowledgeCatalogRevocation (binding : SmartAccessRuntimeLeases) : ConnectionCoordinator :=
  if s.needsCatalogRevocation binding then { s with catalogRevocationAcknowledged := true } else s

/-- The leases of a binding that a decision is about. -/
def decideAll (binding : SmartAccessRuntimeLeases) (about : SmartAccessLeaseIdentity → Bool)
    (decision : SmartAccessLeaseRevocation) : Decisions := fun leaseId =>
  if binding.leases.any fun lease => about lease && lease.leaseId = leaseId then some decision
  else none

def receiveSmartAccessPolicyRevocation (binding : SmartAccessRuntimeLeases)
    (decision : SmartAccessLeaseRevocation) : ConnectionCoordinator :=
  if s.isActive binding then
    let policy :=
      if s.smartAccessPolicyRevocation = some .terminate then .terminate else decision
    { s with smartAccessPolicyRevocation := some policy }.receiveSmartAccessRevocations binding
      (decideAll binding (fun _ => true) policy)
  else s

def acknowledgeSmartAccessPolicyRevocation (binding : SmartAccessRuntimeLeases)
    (decision : SmartAccessLeaseRevocation) : ConnectionCoordinator :=
  if s.isActive binding && s.smartAccessPolicyAcknowledged ≠ some .terminate then
    { s with smartAccessPolicyAcknowledged := some decision }
  else s

def acknowledgeSmartAccessRevocation (binding : SmartAccessRuntimeLeases) (leaseId : Text)
    (decision : SmartAccessLeaseRevocation) : ConnectionCoordinator :=
  if s.needsSmartAccessRevocation binding leaseId decision then
    { s with
      smartAccessRevocations := fun other =>
        if other = leaseId then some decision else s.smartAccessRevocations other }
  else s

def acknowledgeCatalogServiceRevocation (binding : SmartAccessRuntimeLeases) (serviceId : Text) :
    ConnectionCoordinator :=
  if s.isActive binding && serviceId ∈ s.catalogServiceRevocations then
    let leases := binding.leases.filter (·.serviceId = serviceId)
    leases.foldl (fun s lease => s.acknowledgeSmartAccessRevocation binding lease.leaseId .terminate)
      { s with catalogServiceAcknowledgements := insert serviceId s.catalogServiceAcknowledgements }
  else s

end ConnectionCoordinator

open ConnectionCoordinator

def receiveCatalogServiceRevocations (binding : SmartAccessRuntimeLeases)
    (serviceIds : Finset Text) : Coordinator Unit := do
  let s ← get
  if s.isActive binding = false ∨ serviceIds = ∅ then return ()
  match binding.catalogIdentity with
  | none => throw (.catalog "catalog_service_revocation_invalid")
  | some identity =>
    if ¬ serviceIds ⊆ identity.services then
      throw (.catalog "catalog_service_revocation_invalid")
    else
      modify fun s =>
        { s with
          catalogServiceRevocations := s.catalogServiceRevocations ∪ serviceIds
          revokedCatalogServices :=
            if s.revokedServiceCatalogSha256 = binding.catalogSha256 then
              s.revokedCatalogServices ∪ serviceIds
            else serviceIds
          revokedServiceCatalogSha256 := binding.catalogSha256
          revokedServiceCatalogExpiresAt := binding.catalogExpiresAt }
      modify (·.receiveSmartAccessRevocations binding
        (decideAll binding (fun lease => lease.serviceId ∈ serviceIds) .terminate))

/-! ## Staging and renewal -/

namespace ConnectionCoordinator

variable (s : ConnectionCoordinator)

def acknowledgeSmartAccessStage (staged : RuntimeSnapshot) (grants : List VerifiedSmartAccessLease)
    (generation : Nat) (catalogIssuedAt catalogExpiresAt : Option DateTime)
    (catalogSha256 : Option Text) (catalogIdentity : Option CatalogRuntimeIdentity) :
    ConnectionCoordinator :=
  if s.ownsOperation generation = false ∨ staged.phase ≠ .configStaged then s
  else
    { s with
      allocated := s.allocated + 1
      stagedLeases :=
        match staged.stagedProfileDigest with
        | some digest =>
          if isHex64 digest then
            some { ref := s.allocated, profileDigest := digest
                   leases := grants.map (·.identity), catalogIssuedAt, catalogExpiresAt
                   catalogSha256, catalogIdentity, verifiedGrants := grants }
          else none
        | none => none }

def invalidateSmartAccessStagedReuse (profileDigest : Text) : ConnectionCoordinator :=
  if s.stagedLeases.any (·.profileDigest = profileDigest) then { s with stagedLeases := none } else s

def discardSmartAccessRenewal (renewal : SmartAccessLeaseRenewal) (generation : Nat) :
    ConnectionCoordinator :=
  if s.ownsOperation generation && s.smartAccessRenewals renewal.previousLeaseId = some renewal then
    { s with
      smartAccessRenewals := fun leaseId =>
        if leaseId = renewal.previousLeaseId then none else s.smartAccessRenewals leaseId }
  else s

def smartAccessRenewalIsCurrent (renewal : SmartAccessLeaseRenewal) (generation : Nat)
    (now : DateTime) : Bool :=
  match s.activeSmartAccessLeases with
  | none => false
  | some active =>
    s.ownsOperation generation && !s.actionInFlight &&
    active.profileDigest = renewal.binding.profileDigest &&
    s.smartAccessRenewals renewal.previousLeaseId = some renewal &&
    active.leases.any (fun lease => lease.matchesLease renewal.previous) &&
    !s.catalogRevoked && s.smartAccessPolicyRevocation = none &&
    renewal.next.identity.serviceId ∉ s.catalogServiceRevocations &&
    s.pendingRevocations renewal.previousLeaseId = none &&
    s.pendingRevocations renewal.nextLeaseId = none &&
    active.catalogIssuedAt.any (fun issuedAt => !now.isBefore issuedAt) &&
    active.catalogExpiresAt.any (fun expiresAt => now.isBefore expiresAt) &&
    renewal.next.admitsNewFlows now

/-- The active binding with other leases and grants, and nothing of what is not
among its leases. -/
def rebind (active : SmartAccessRuntimeLeases) (leases : List SmartAccessLeaseIdentity)
    (verifiedGrants : List VerifiedSmartAccessLease) : SmartAccessRuntimeLeases :=
  { active with ref := s.allocated, leases, verifiedGrants }

/-- `removeWhere` of what no lease of the binding names. -/
def keepLeases (leaseIds : List Text) (decisions : Decisions) : Decisions := fun leaseId =>
  if leaseId ∈ leaseIds then decisions leaseId else none

def install (binding : SmartAccessRuntimeLeases) : ConnectionCoordinator :=
  { s with
    allocated := s.allocated + 1
    activeLeases := some binding
    pendingRevocations := keepLeases binding.leaseIds s.pendingRevocations
    smartAccessRevocations := keepLeases binding.leaseIds s.smartAccessRevocations }

end ConnectionCoordinator

/-- The second reading of the clock is the one of the check at the end. -/
def prepareSmartAccessRenewal (binding : SmartAccessRuntimeLeases) (previousLeaseId : Text)
    (next : VerifiedSmartAccessLease) (generation : Nat) (currentLeaseIds : List Text)
    (now now' : DateTime) : Coordinator SmartAccessLeaseRenewal := do
  let s ← get
  if s.ownsOperation generation = false ∨ s.isActive binding = false ∨
      s.smartAccessRenewals previousLeaseId ≠ none then
    throw .other
  else
    let renewal ← lift (SmartAccessLeaseRenewal.prepare s.allocated binding previousLeaseId next now
      currentLeaseIds)
    let prepare (value : Option SmartAccessLeaseRenewal) : Coordinator Unit :=
      modify fun s =>
        { s with
          allocated := s.allocated + 1
          smartAccessRenewals := fun leaseId =>
            if leaseId = previousLeaseId then value else s.smartAccessRenewals leaseId }
    prepare (some renewal)
    let s ← get
    if s.smartAccessRenewalIsCurrent renewal generation now' then return renewal
    else do
      prepare none
      throw .other

/-- The stored binding is of the same catalog and keeps every lease that counts. -/
def retains (active retained : SmartAccessRuntimeLeases)
    (counts : SmartAccessLeaseIdentity → Bool) : Bool :=
  retained.catalogSha256 = active.catalogSha256 &&
  retained.catalogIssuedAt = active.catalogIssuedAt &&
  retained.catalogExpiresAt = active.catalogExpiresAt &&
  !active.leases.any fun lease =>
    counts lease && !retained.leases.any fun stored => stored.matchesLease lease

/-- The clock is read before, for each lease, and at the end. -/
def retainSmartAccessRenewal (renewal : SmartAccessLeaseRenewal)
    (stored : StoredSmartAccessRuntime) (generation : Nat) (now : DateTime)
    (clock : SmartAccessLeaseIdentity → DateTime) (now' : DateTime) : Coordinator Bool := do
  let s ← get
  match s.activeSmartAccessLeases with
  | none => return false
  | some active =>
    if s.smartAccessRenewalIsCurrent renewal generation now = false then return false
    else if stored.binding.profileDigest ≠ active.profileDigest ∨
        retains active stored.binding
          (fun lease => (clock lease).isBefore lease.activeFlowsUntil.value) = false ∨
        stored.binding.leases.any
          (fun lease => lease.matchesLease renewal.next.identity) = false then
      throw (.catalog "smart_access_renewal_binding_missing")
    else
      let binding := s.rebind active stored.binding.leases active.verifiedGrants
      modify (·.install binding)
      modify (·.receiveSmartAccessRevocations binding stored.decisions)
      modify fun s =>
        if stored.catalogRevoked then s.receiveCatalogRevocation binding stored.catalogWithdrawn
        else s
      receiveCatalogServiceRevocations binding stored.catalogServiceRevocations
      let s ← get
      return s.smartAccessRenewalIsCurrent renewal generation now'

namespace ConnectionCoordinator

variable (s : ConnectionCoordinator) (binding : SmartAccessRuntimeLeases)

/-- `sameProfile`: the binding that is there is of the profile of the stored one. -/
def hasProfile : Bool := s.activeLeases.any (·.profileDigest = binding.profileDigest)

/-- The assignments of `restoreSmartAccessLeases`, before it receives. -/
def recover (catalogRevoked catalogWithdrawn : Bool) : ConnectionCoordinator :=
  { s with
    catalogServiceAcknowledgements :=
      if s.hasProfile binding then s.catalogServiceAcknowledgements else ∅
    catalogServiceRevocations := ∅
    activeLeases := some binding
    smartAccessRevocations := fun _ => none
    pendingRevocations := fun _ => none
    catalogRevoked := catalogRevoked || s.hasProfile binding && s.catalogRevoked
    catalogWithdrawn := catalogWithdrawn || s.hasProfile binding && s.catalogWithdrawn
    catalogRevocationAcknowledged := s.hasProfile binding && s.catalogRevocationAcknowledged
    smartAccessPolicyRevocation := none
    smartAccessPolicyAcknowledged :=
      if s.hasProfile binding then s.smartAccessPolicyAcknowledged else none }

/-- The policy decision is received once more, now for the leases of the binding. -/
def receivePolicyAgain (policyRevocation : Option SmartAccessLeaseRevocation) :
    ConnectionCoordinator :=
  match policyRevocation with
  | some decision => s.receiveSmartAccessPolicyRevocation binding decision
  | none => s

end ConnectionCoordinator

def restoreSmartAccessLeases (binding : SmartAccessRuntimeLeases) (decisions : Decisions)
    (generation : Nat) (catalogRevoked catalogWithdrawn : Bool)
    (catalogServiceRevocations : Finset Text) : Coordinator Unit := do
  let s ← get
  if s.ownsOperation generation = false ∨ s.isRunning = false ∨
      s.effectiveProfileDigest ≠ some binding.profileDigest ∨ s.hasRestrictionMetadata then
    return ()
  else
    -- a kill that came while only the digest was known outlasts the recovery
    modify (·.recover binding catalogRevoked catalogWithdrawn)
    modify (·.receiveSmartAccessRevocations binding decisions)
    modify (·.receivePolicyAgain binding
      (if s.hasProfile binding then s.smartAccessPolicyRevocation else none))
    modify fun s =>
      if s.catalogRevoked then s.receiveCatalogRevocation binding s.catalogWithdrawn else s
    receiveCatalogServiceRevocations binding
      ((if s.hasProfile binding then s.catalogServiceRevocations else ∅) ∪ catalogServiceRevocations)

/-- `retainNativeSmartAccessLeases`, from where a binding has to be active. -/
def retainOverActive (stored : StoredSmartAccessRuntime) (currentLeaseIds : List Text)
    (clock : SmartAccessLeaseIdentity → DateTime) : Coordinator Bool := do
  let s ← get
  match s.activeSmartAccessLeases with
  | none => throw (.catalog "smart_access_native_binding_mismatch")
  | some active =>
    if retains active stored.binding (fun lease =>
        (clock lease).isBefore lease.activeFlowsUntil.value ||
          currentLeaseIds.contains lease.leaseId) = false then
      throw (.catalog "smart_access_native_binding_mismatch")
    else
      let binding := s.rebind active stored.binding.leases (active.verifiedGrants.filter
        fun grant => stored.binding.leaseIds.contains grant.identity.leaseId)
      modify (·.install binding)
      -- a native renewal can win against a pending one of the foreground
      modify fun s =>
        { s with
          smartAccessRenewals := fun leaseId => (s.smartAccessRenewals leaseId).filter
            fun renewal => currentLeaseIds.contains renewal.previousLeaseId ||
              currentLeaseIds.contains renewal.nextLeaseId }
      modify (·.receiveSmartAccessRevocations binding stored.decisions)
      modify fun s =>
        if stored.catalogRevoked || s.catalogRevoked then
          s.receiveCatalogRevocation binding (stored.catalogWithdrawn || s.catalogWithdrawn)
        else s
      let s ← get
      receiveCatalogServiceRevocations binding
        (s.catalogServiceRevocations ∪ stored.catalogServiceRevocations)
      modify fun s => s.receivePolicyAgain binding s.smartAccessPolicyRevocation
      return true

/-- `ownedTransport` is whether a current control of the same selection and
profile was passed. -/
def retainNativeSmartAccessLeases (stored : StoredSmartAccessRuntime) (generation : Nat)
    (currentLeaseIds : List Text) (ownedTransport : Bool)
    (clock : SmartAccessLeaseIdentity → DateTime) : Coordinator Bool := do
  let s ← get
  if s.ownsOperation generation = false ∨ (s.actionInFlight && !ownedTransport) ∨
      s.isRunning = false ∨ s.effectiveProfileDigest ≠ some stored.binding.profileDigest then
    return false
  else
    if s.hasRestrictionMetadata = false then
      restoreSmartAccessLeases stored.binding stored.decisions generation stored.catalogRevoked
        stored.catalogWithdrawn stored.catalogServiceRevocations
    retainOverActive stored currentLeaseIds clock

namespace ConnectionCoordinator

variable (s : ConnectionCoordinator)

def acknowledgeSmartAccessRenewal (renewal : SmartAccessLeaseRenewal) (generation : Nat)
    (now : DateTime) : ConnectionCoordinator :=
  match s.activeSmartAccessLeases with
  | none => s
  | some active =>
    if s.smartAccessRenewalIsCurrent renewal generation now = false then s
    else
      { s with
        allocated := s.allocated + 1
        activeLeases := some (s.rebind active active.leases
          (active.verifiedGrants.filter (fun grant =>
            grant.identity.leaseId ≠ renewal.previousLeaseId &&
              grant.identity.leaseId ≠ renewal.nextLeaseId) ++ [renewal.next]))
        smartAccessRenewals := fun leaseId =>
          if leaseId = renewal.previousLeaseId then none else s.smartAccessRenewals leaseId
        stagedLeases :=
          if s.stagedLeases.any (·.profileDigest = active.profileDigest) then none
          else s.stagedLeases }

/-! ## Snapshots -/

/-- The profile of the snapshot is another: what was received against the last
one is gone with it. -/
def changeProfile (digest : Text) : ConnectionCoordinator :=
  { s with
    smartAccessRenewals := fun _ => none
    activeLeases :=
      if s.stagedLeases.any (·.profileDigest = digest) then s.stagedLeases else none
    pendingRevocations := fun _ => none
    smartAccessRevocations := fun _ => none
    catalogRevoked := false
    catalogWithdrawn := false
    catalogRevocationAcknowledged := false
    smartAccessPolicyRevocation := none
    smartAccessPolicyAcknowledged := none
    catalogServiceRevocations := ∅
    catalogServiceAcknowledgements := ∅ }

/-- The runtime has stopped: a restarted one has to acknowledge again. -/
def endInstance : ConnectionCoordinator :=
  { s with
    smartAccessRenewals := fun _ => none
    allocated := s.allocated + 1
    activeLeases :=
      if s.isRunning then s.activeLeases.map fun binding =>
        { binding with ref := s.allocated, verifiedGrants := [] }
      else s.activeLeases
    smartAccessRevocations := fun _ => none
    catalogRevocationAcknowledged := false
    smartAccessPolicyAcknowledged := none
    catalogServiceAcknowledgements := ∅ }

def followProfile (digest : Option Text) : ConnectionCoordinator :=
  match digest with
  | some digest =>
    if s.activeLeases.any (·.profileDigest = digest) then s else s.changeProfile digest
  | none => s

def followPhase (phase : Option RuntimePhase) : ConnectionCoordinator :=
  match phase with
  | some .running => s
  | some _ => s.endInstance
  | none => s

/-- `updateSnapshot`, as far as the restrictions go. -/
def updateSnapshot (snapshot : Option RuntimeSnapshot) : ConnectionCoordinator :=
  { (s.followProfile (snapshot.bind (·.effectiveProfileDigest))).followPhase
      (snapshot.map (·.phase)) with snapshot }

/-- `updateActionInFlight` and the actions that use it. -/
def updateActionInFlight (value preserveOperation : Bool) : ConnectionCoordinator :=
  { s with
    operationGeneration :=
      if value && !s.actionInFlight && !preserveOperation then s.operationGeneration + 1
      else s.operationGeneration
    actionInFlight := value }

end ConnectionCoordinator

end Pokrov.AppShell
