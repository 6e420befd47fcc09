import Pokrov.AppShell.SmartAccess.RuntimeStore
import Pokrov.Dart.JsonSyntax

/-!
# The operations on lease inventories

`readNativeRestrictions`, `retainNativeJournal`, `read`, `prepareStage`,
`retainRenewal` and `retainDecisions` of `SmartAccessRuntimeStore`.
-/

namespace Pokrov.AppShell.SmartAccess

open Dart Stateful

/-! ## The ledger of Core -/

structure NativeSmartAccessRestriction where
  profileDigest : Text
  catalogSha256 : Text
  /-- None is `none`. -/
  policyAction : Option SmartAccessLeaseRevocation
  catalogWithdrawn : Bool
  recoveryRequired : Bool
  expiresAt : Option DateTime
  scopeActions : LeaseDecisions

namespace NativeSmartAccessRestriction

variable (record : NativeSmartAccessRestriction)

def blocksProfile : Bool :=
  record.policyAction.isSome || record.catalogWithdrawn || record.recoveryRequired

def restricted : Bool := record.blocksProfile || !record.scopeActions.isEmpty

def affectsCatalog (digest : Option Text) : Bool :=
  digest.isSome && (record.catalogWithdrawn || record.recoveryRequired) &&
    (record.catalogSha256.isEmpty || some record.catalogSha256 = digest)

def actionName : Option SmartAccessLeaseRevocation → String
  | none => "none"
  | some decision => decisionName decision

def toStored : Document :=
  .map [(text "profile_digest", .string record.profileDigest),
    (text "catalog_sha256", .string record.catalogSha256),
    (text "policy_action", .string (text (actionName record.policyAction))),
    (text "catalog_withdrawn", .bool record.catalogWithdrawn),
    (text "recovery_required", .bool record.recoveryRequired),
    (text "expires_at", timeOrNull record.expiresAt),
    (text "scope_actions", .map (record.scopeActions.map fun (scope, action) =>
      (scope, .string (text (decisionName action)))))]

/-- One entry of `scope_actions`. -/
def scopeAction : Text × Document → Option (Text × SmartAccessLeaseRevocation)
  | (scope, value) => if isHex64 scope then (decisionOf value).map ((scope, ·)) else none

def actionOf (value : Document) : Option (Option SmartAccessLeaseRevocation) :=
  if exactly value (text "none") then some none else (decisionOf value).map some

/-- A time or none. -/
def expiry : Document → Option (Option DateTime)
  | .null => some none
  | value => (utcTime value).map some

/-- `_nativeEntry`. -/
def ofDocument : Document → Option NativeSmartAccessRestriction
  | .map input =>
    match Fields.get input "profile_digest", Fields.get input "catalog_sha256",
        Fields.get input "catalog_withdrawn", Fields.get input "recovery_required",
        Fields.get input "scope_actions" with
    | .string profileDigest, .string catalogSha256, .bool catalogWithdrawn,
        .bool recoveryRequired, .map scopes =>
        match actionOf (Fields.get input "policy_action"), expiry (Fields.get input "expires_at"),
            scopes.mapM scopeAction with
        | some policyAction, some expiresAt, some scopeActions =>
          if input.length = 7 ∧ containsKey input "expires_at" = true ∧ scopes.length ≤ 256 ∧
              isHex64 profileDigest = true ∧
              (catalogSha256 = [] ∨ isHex64 catalogSha256 = true) ∧
              (catalogWithdrawn = true → policyAction = some .terminate) then
            some { profileDigest, catalogSha256, policyAction, catalogWithdrawn
                   recoveryRequired, expiresAt, scopeActions }
          else none
        | _, _, _ => none
    | _, _, _, _, _ => none
  | _ => none

def live (now : DateTime) : Bool := record.expiresAt.all now.isBefore

end NativeSmartAccessRestriction

def orInvalid {α : Type} : Option α → Try α
  | some a => .ok a
  | none => throwCatalog storageInvalid

namespace SmartAccessRuntimeStore

variable (store : SmartAccessRuntimeStore)

/-- `_readNative` of what is stored. -/
def restrictionsAt (now : DateTime) : Option StoredText → Try (List NativeSmartAccessRestriction)
  | none => .ok []
  | some raw => do
      let (observed, items) ← parseStored "restrictions" raw
      rejectIf (now.isBefore observed = true) clockRollback
      rejectIf (256 < items.length) storageInvalid
      let records ← orInvalid (items.mapM NativeSmartAccessRestriction.ofDocument)
      rejectIf ((records.all (·.restricted)) = false ∨
        ¬ (records.map (·.profileDigest)).Nodup) storageInvalid
      return records.filter (·.live now)

/-- `_readNative`. -/
def readNative (now : DateTime) : Operation (List NativeSmartAccessRestriction) := do
  lift (rejectIf (store.supported = false) storageInvalid)
  let raw ← readStorage .restrictions
  lift (restrictionsAt now raw)

/-- `_writeNative`. -/
def writeNative (records : List NativeSmartAccessRestriction) (observed : DateTime) :
    Operation Unit := do
  lift (rejectIf (256 < records.length) recoveryRequired)
  writeRows .restrictions "restrictions" (records.map (·.toStored)) observed

def readNativeRestrictions : Operation (List NativeSmartAccessRestriction) := do
  let now ← now
  let retained ← store.readNative now
  writeNative retained now
  return retained

/-- Whether a record keeps a profile or some of its leases from being staged. -/
def blocksStage (binding : SmartAccessRuntimeLeases) (leases : List SmartAccessLeaseIdentity)
    (record : NativeSmartAccessRestriction) : Bool :=
  (decide (record.profileDigest = binding.profileDigest) && (record.blocksProfile ||
    leases.any fun lease => (record.scopeActions.lookup (lease.textField "runtime_scope_sha256")).isSome)) ||
  record.affectsCatalog binding.catalogSha256

/-- `_guardNativeStage`, of the leases of a binding or of the one to be renewed. -/
def guardNativeStage (binding : SmartAccessRuntimeLeases) (leases : List SmartAccessLeaseIdentity)
    (now : DateTime) : Operation Unit := do
  let records ← store.readNative now
  writeNative records now
  match records.find? (blocksStage binding leases) with
  | some record => throw (.catalog
      (if record.recoveryRequired then recoveryRequired else "smart_access_stage_revoked"))
  | none => pure ()

/-! ## Reading and staging -/

def read (profileDigest : Text) : Operation (Option StoredSmartAccessRuntime) := do
  let now ← now
  let entries ← store.readEntries now false
  writeEntries entries now
  return entryFor profileDigest entries

/-- The decisions of an entry that is about to be staged again. -/
def restagedDecisions (binding : SmartAccessRuntimeLeases) (now : DateTime) (retained : LeaseDecisions)
    (entry : StoredSmartAccessRuntime) : Try LeaseDecisions :=
  if entry.digest = binding.profileDigest then do
    rejectIf (entry.decisions ≠ [] ∨ entry.catalogRevoked = true ∨
      entry.catalogServiceRevocations ≠ []) "smart_access_stage_revoked"
    rejectIf ((entry.binding.leases.any fun old => now.isBefore old.activeFlowsUntil &&
      !binding.leases.any fun lease => lease.matchesLease old) = true)
      "smart_access_restage_requires_fresh_profile"
    return entry.decisions
  else .ok retained

/-- The entries that `prepareStage` writes. -/
def stagedEntries (binding : SmartAccessRuntimeLeases) (activeDigest stagedDigest : Option Text)
    (now : DateTime) (entries : List StoredSmartAccessRuntime) :
    Try (List StoredSmartAccessRuntime) := do
  rejectIf (binding.catalogSha256.isSome = true ∧ (entries.any fun entry =>
    entry.catalogWithdrawn && entry.binding.catalogSha256 = binding.catalogSha256) = true)
    "catalog_stage_revoked"
  rejectIf (binding.catalogSha256.isSome = true ∧ (entries.any fun entry =>
    entry.binding.catalogSha256 = binding.catalogSha256 &&
      entry.catalogServiceRevocations.any binding.hasService) = true)
    "catalog_service_stage_revoked"
  let next := entries.filter fun entry => entry.digest ≠ binding.profileDigest &&
    (some entry.digest = activeDigest || some entry.digest = stagedDigest)
  if binding.hasRestrictionMetadata then do
    let retained ← entries.foldlM (restagedDecisions binding now) []
    return next ++ [{ binding, decisions := retained }]
  else return next

/-- `prepareStage`. It returns whether it has recorded the binding: it returns early,
and records nothing, when its caller is superseded. -/
def prepareStage (binding : SmartAccessRuntimeLeases) (activeDigest stagedDigest : Option Text) :
    Operation Bool := do
  if ← isCurrent then
    let now ← now
    store.guardNativeStage binding binding.leases now
    let entries ← store.readEntries now false
    if ← isCurrent then
      let next ← lift (stagedEntries binding activeDigest stagedDigest now entries)
      writeEntries next now
      return true
    else return false
  else return false

/-! ## Renewals -/

/-- `requireCurrent`. -/
def requireCurrent (renewal : SmartAccessLeaseRenewal) : Operation Unit := do
  let current ← isCurrent
  let time ← now
  lift (rejectIf (current = false ∨ renewal.next.admitsNewFlows time = false)
    "smart_access_renewal_superseded")

/-- What has become of an entry when only some of its leases are retained. -/
def retaining (entry : StoredSmartAccessRuntime) (retained : List SmartAccessLeaseIdentity) :
    StoredSmartAccessRuntime :=
  { entry with
    binding := { profileDigest := entry.digest, leases := retained
                 catalogIssuedAt := entry.binding.catalogIssuedAt
                 catalogExpiresAt := entry.binding.catalogExpiresAt
                 catalogSha256 := entry.binding.catalogSha256
                 catalogIdentity := entry.binding.catalogIdentity }
    decisions := entry.decisions.filter fun decision => (retained.map (·.leaseId)).contains decision.1 }

/-- The leases that a renewal leaves in an entry. -/
def renewedLeases (currentIds : List Text) (next : SmartAccessLeaseIdentity) (now : DateTime)
    (leases : List SmartAccessLeaseIdentity) : Try (List SmartAccessLeaseIdentity) := do
  rejectIf ((leases.any fun lease => lease.leaseId = next.leaseId && !lease.matchesLease next) = true)
    storageInvalid
  let kept := leases.filter fun lease => currentIds.contains lease.leaseId ||
    lease.leaseId = next.leaseId || now.isBefore lease.activeFlowsUntil
  return if leases.any (·.leaseId = next.leaseId) then kept else kept ++ [next]

/-- The ids of the leases that are current by a renewal. -/
def currentIds (renewal : SmartAccessLeaseRenewal) : List Text :=
  renewal.currentLeaseIds ++ renewal.binding.verifiedGrants.filterMap fun grant =>
    match grant.lease.get "lease_id" with
    | .string id => some id
    | _ => none

/-- The entry that `retainRenewal` writes, by the times of its start and of its check. -/
def renewedEntry (renewal : SmartAccessLeaseRenewal) (next : SmartAccessLeaseIdentity)
    (now later : DateTime) (entry : StoredSmartAccessRuntime) : Try StoredSmartAccessRuntime := do
  let binding := entry.binding
  let serviceId := next.textField "service_id"
  rejectIf (binding.catalogSha256 ≠ renewal.binding.catalogSha256 ∨
    binding.catalogIssuedAt ≠ renewal.binding.catalogIssuedAt ∨
    binding.catalogExpiresAt ≠ renewal.binding.catalogExpiresAt ∨
    binding.catalogExpiresAt.any later.isBefore = false ∨
    binding.catalogIdentity.any (·.offers serviceId (next.lease.get "capability_id")) = false ∨
    (binding.leases.any (·.matchesLease renewal.previous)) = false)
    "smart_access_renewal_binding_missing"
  rejectIf (entry.catalogRevoked = true ∨ entry.catalogWithdrawn = true ∨
    serviceId ∈ entry.catalogServiceRevocations ∨
    (entry.decisions.lookup renewal.previous.leaseId).isSome = true ∨
    (entry.decisions.lookup next.leaseId).isSome = true) "smart_access_renewal_revoked"
  let retained ← renewedLeases (currentIds renewal) next now binding.leases
  rejectIf (256 < retained.length) "smart_access_runtime_inventory_full"
  return retaining entry retained

def retainRenewal (renewal : SmartAccessLeaseRenewal) : Operation StoredSmartAccessRuntime := do
  requireCurrent renewal
  let now ← now
  store.guardNativeStage renewal.binding [renewal.previous] now
  let entries ← store.readEntries now false
  requireCurrent renewal
  match entryFor renewal.binding.profileDigest entries with
  | none => throw (.catalog "smart_access_runtime_binding_missing")
  | some entry => do
      let next ← lift (SmartAccessLeaseIdentity.fromGrant renewal.next)
      let later ← SmartAccess.now
      let updated ← lift (renewedEntry renewal next now later entry)
      requireCurrent renewal
      writeEntries (replaceEntry updated entries) now
      requireCurrent renewal
      return updated

/-! ## Decisions -/

def setDecision (id : Text) (decision : SmartAccessLeaseRevocation) : LeaseDecisions → LeaseDecisions
  | [] => [(id, decision)]
  | (key, value) :: rest =>
    if key = id then (id, decision) :: rest else (key, value) :: setDecision id decision rest

/-- A decision is set, unless the lease is terminated. -/
def mergeDecision (ids : List Text) (merged : LeaseDecisions)
    (decision : Text × SmartAccessLeaseRevocation) : Try LeaseDecisions := do
  rejectIf (decision.1 ∉ ids) storageInvalid
  return if merged.lookup decision.1 = some .terminate then merged
    else setDecision decision.1 decision.2 merged

/-- What is received against an entry. -/
structure ReceivedRestrictions where
  decisions : LeaseDecisions
  catalogRevoked : Bool := false
  catalogWithdrawn : Bool := false
  catalogServiceRevocations : List Text := []

/-- The entry that `retainDecisions` writes. -/
def decidedEntry (received : ReceivedRestrictions) (entry : StoredSmartAccessRuntime) :
    Try StoredSmartAccessRuntime := do
  let merged ← received.decisions.foldlM (mergeDecision entry.binding.leaseIds) entry.decisions
  rejectIf (received.catalogWithdrawn = true ∧ received.catalogRevoked = false) storageInvalid
  rejectIf ((received.catalogServiceRevocations.all entry.binding.hasService) = false) storageInvalid
  return { entry with
    decisions := merged
    catalogRevoked := entry.catalogRevoked || received.catalogRevoked
    catalogWithdrawn := entry.catalogWithdrawn || received.catalogWithdrawn
    catalogServiceRevocations := entry.catalogServiceRevocations ∪ received.catalogServiceRevocations }

def retainDecisions (binding : SmartAccessRuntimeLeases) (received : ReceivedRestrictions) :
    Operation Unit := do
  let now ← now
  let entries ← store.readEntries now false
  match entryFor binding.profileDigest entries with
  | none => throw (.catalog "smart_access_runtime_binding_missing")
  | some entry => do
      let updated ← lift (decidedEntry received entry)
      writeEntries (replaceEntry updated entries) now

end SmartAccessRuntimeStore

end Pokrov.AppShell.SmartAccess
