import Pokrov.AppShell.SmartAccess.RuntimeOperations

/-!
# The journal of Core

`retainNativeJournal`: the restrictions of a snapshot are merged into the ledger and
its leases into the inventory.
-/

namespace Pokrov.AppShell.SmartAccess

open Dart Stateful

mutual

/-- `_canonicalNative`. -/
def canonicalNative : Document → Document
  | .map fields => .map ((canonicalEntries fields).insertionSort fun a b => a.1 ≤ b.1)
  | .list items => .list (canonicalItemsNative items)
  | value => value

def canonicalItemsNative : List Document → List Document
  | [] => []
  | item :: rest => canonicalNative item :: canonicalItemsNative rest

def canonicalEntries : Fields → Fields
  | [] => []
  | (key, value) :: rest => (key, canonicalNative value) :: canonicalEntries rest

end

/-- An entry of a snapshot: its restriction, its leases, and whether Core is at work. -/
structure JournalEntry where
  record : NativeSmartAccessRestriction
  leases : List SmartAccessLeaseIdentity
  live : Bool

/-- What is returned for a snapshot. -/
structure RetainedSmartAccessNativeJournal where
  snapshotSha256 : Text
  restrictions : List NativeSmartAccessRestriction
  hasLiveWorker : Bool
  bindings : List StoredSmartAccessRuntime

def setRestriction (record : NativeSmartAccessRestriction) :
    List NativeSmartAccessRestriction → List NativeSmartAccessRestriction
  | [] => [record]
  | first :: rest =>
    if first.profileDigest = record.profileDigest then record :: rest
    else first :: setRestriction record rest

/-- The later one of two bounds. -/
def laterBound (a b : Option DateTime) : Option DateTime :=
  match a, b with
  | some a, some b => if b.isAfter a then some b else some a
  | none, b => b
  | a, none => a

/-- The stronger one of two actions. -/
def strongerAction (a b : Option SmartAccessLeaseRevocation) : Option SmartAccessLeaseRevocation :=
  if a = some .terminate ∨ b = some .terminate then some .terminate
  else if a = some .drain ∨ b = some .drain then some .drain
  else none

/-- The actions on scopes of a new record over those of the one before. -/
def mergeScopes (scopes actions : LeaseDecisions) : LeaseDecisions :=
  actions.foldl (fun scopes action =>
    if scopes.lookup action.1 = some .terminate then scopes
    else SmartAccessRuntimeStore.setDecision action.1 action.2 scopes) scopes

/-- The bounds of the authority that an inventory has for a profile. -/
def authorityBounds (binding : SmartAccessRuntimeLeases) : List (Option DateTime) :=
  binding.catalogExpiresAt :: binding.leases.map fun lease => some lease.activeFlowsUntil

/-- Catalogs that are both known and not the same. -/
def catalogsDiffer (a b : Text) : Prop := a ≠ [] ∧ b ≠ [] ∧ a ≠ b

instance (a b : Text) : Decidable (catalogsDiffer a b) := inferInstanceAs (Decidable (_ ∧ _ ∧ _))

/-- One record of a snapshot is merged into the ledger. -/
def mergeRestriction (bindings : List StoredSmartAccessRuntime) (now : DateTime)
    (retained : List NativeSmartAccessRestriction) (record : NativeSmartAccessRestriction) :
    Try (List NativeSmartAccessRestriction) :=
  let previous := retained.find? (·.profileDigest = record.profileDigest)
  if record.restricted = false ∧ previous.isNone = true then .ok retained
  else do
    rejectIf (previous.any (fun old => catalogsDiffer old.catalogSha256 record.catalogSha256) = true)
      storageInvalid
    let same := bindings.filter (·.digest = record.profileDigest)
    rejectIf ((same.any fun stored => stored.binding.catalogSha256.any fun sha256 =>
      record.catalogSha256 ≠ [] ∧ sha256 ≠ record.catalogSha256) = true) storageInvalid
    let expires := (same.flatMap fun stored => authorityBounds stored.binding).foldl laterBound
      (laterBound (previous.bind (·.expiresAt)) record.expiresAt)
    if expires.any (fun bound => !now.isBefore bound) then
      return retained.filter (·.profileDigest ≠ record.profileDigest)
    else do
      let scopes := mergeScopes ((previous.map (·.scopeActions)).getD []) record.scopeActions
      rejectIf (256 < scopes.length) recoveryRequired
      return setRestriction
        { profileDigest := record.profileDigest
          catalogSha256 := if record.catalogSha256 ≠ [] then record.catalogSha256
            else (previous.map (·.catalogSha256)).getD []
          policyAction := strongerAction (previous.bind (·.policyAction)) record.policyAction
          catalogWithdrawn := record.catalogWithdrawn || previous.any (·.catalogWithdrawn)
          recoveryRequired := record.recoveryRequired || previous.any (·.recoveryRequired)
          expiresAt := expires
          scopeActions := scopes } retained

namespace SmartAccessRuntimeStore

variable (store : SmartAccessRuntimeStore)

/-- An `expires_at` that is empty or a time without a fraction. -/
def journalExpiry : Document → Option Document
  | .string s =>
    if s = [] then some .null
    else if matchesPattern "0000-00-00T00:00:00Z" s then some (.string s)
    else none
  | _ => none

/-- The time of a record is the one that was written. -/
def writtenExpiry (record : NativeSmartAccessRestriction) (entry : Fields) : Bool :=
  record.expiresAt.all fun time => exactly (entry.get "expires_at")
    (if time.fraction = 0 then time.isoSeconds ++ text "Z" else time.toIso8601String)

/-- A lease that Core has used within the bound of its record. -/
def journalLease (record : NativeSmartAccessRestriction) (lease : SmartAccessLeaseIdentity) : Bool :=
  lease.hasRenewalScope && exactly (lease.lease.get "platform") store.platform &&
  exactly (lease.lease.get "audience") store.audience &&
  record.expiresAt.any fun bound => !lease.activeFlowsUntil.isAfter bound

/-- One entry of a snapshot. -/
def journalEntry : Document → Try JournalEntry
  | .map entry =>
    match Fields.get entry "pending", Fields.get entry "live", Fields.get entry "leases",
        journalExpiry (Fields.get entry "expires_at") with
    | .bool pending, .bool live, .list rawLeases, some expiresAt => do
        rejectIf (entry.length ≠ 10 ∨ isHexField 32 (Fields.get entry "generation") = false ∨
          (live = true ∧ pending = false) ∨ 256 < rawLeases.length) storageInvalid
        let record ← orInvalid (NativeSmartAccessRestriction.ofDocument (.map
          [(text "profile_digest", Fields.get entry "profile_digest"),
            (text "catalog_sha256", Fields.get entry "catalog_sha256"),
            (text "policy_action", Fields.get entry "policy_action"),
            (text "catalog_withdrawn", Fields.get entry "catalog_withdrawn"),
            (text "scope_actions", Fields.get entry "scope_actions"),
            (text "recovery_required", .bool (pending && !live)),
            (text "expires_at", expiresAt)]))
        rejectIf (writtenExpiry record entry = false) storageInvalid
        let leases ← rawLeases.mapM SmartAccessLeaseIdentity.fromStored
        rejectIf (¬ (leases.map (·.leaseId)).Nodup ∨
          (leases.all (store.journalLease record)) = false) storageInvalid
        return { record, leases, live }
    | _, _, _, _ => throwCatalog storageInvalid
  | _ => throwCatalog storageInvalid

/-- `Sha256` of a text, in hexadecimal. -/
def digestOf (body : Text) : Text := (List.ofFn (store.sha256 body)).flatMap hexByte

/-- The digest of a snapshot and its entries. -/
def journalOf (encoded : Text) : Try (Text × List JournalEntry) :=
  if maximumInventoryBytes < utf8Length encoded then throwCatalog storageInvalid
  else
    match jsonDecode encoded with
    | some (.map snapshot) =>
      match Fields.get snapshot "schema", Fields.get snapshot "snapshot_sha256",
          Fields.get snapshot "entries" with
      | .int 1, .string sha256, .list items => do
          rejectIf (snapshot.length ≠ 3 ∨ isHex64 sha256 = false ∨ 3 < items.length) storageInvalid
          let entries ← items.mapM store.journalEntry
          rejectIf (¬ (entries.map (·.record.profileDigest)).Nodup ∨
            store.digestOf (jsonEncode (canonicalNative (.list items))) ≠ sha256) storageInvalid
          return (sha256, entries)
      | _, _, _ => throwCatalog storageInvalid
    | _ => throwCatalog storageInvalid

/-- A lease of Core is added to those of an entry, if it is not among them. -/
def mergeLease (binding : SmartAccessRuntimeLeases) (merged : List SmartAccessLeaseIdentity)
    (lease : SmartAccessLeaseIdentity) : Try (List SmartAccessLeaseIdentity) :=
  match merged.find? (·.leaseId = lease.leaseId) with
  | some existing => do
      rejectIf (existing.matchesLease lease = false) storageInvalid
      return merged
  | none => do
      let newUntil ← lease.timeField "new_flows_until"
      let issued ← lease.timeField "issued_at"
      rejectIf (binding.catalogExpiresAt.any newUntil.isAfter = true ∨
        binding.catalogIdentity.any (·.offers (lease.textField "service_id")
          (lease.lease.get "capability_id")) = false ∨
        (merged.any fun anchor => anchor.acceptsRuntimeIdentity lease &&
          (utcTime (anchor.lease.get "issued_at")).any fun before => !issued.isBefore before) = false)
        storageInvalid
      return merged ++ [lease]

/-- The leases of Core in an entry. -/
def journaledEntry (activeProfileDigest : Option Text) (currentLeaseIds : List Text) (now : DateTime)
    (incoming : List SmartAccessLeaseIdentity) (catalogSha256 : Text)
    (entry : StoredSmartAccessRuntime) : Try StoredSmartAccessRuntime := do
  let binding := entry.binding
  rejectIf (binding.catalogIdentity.isNone = true ∨ binding.catalogIssuedAt.isNone = true ∨
    binding.catalogExpiresAt.isNone = true ∨ binding.catalogSha256 ≠ some catalogSha256)
    storageInvalid
  let merged ← (store.sortByIssue incoming).foldlM (mergeLease binding) binding.leases
  let nativeIds := incoming.map (·.leaseId)
  let retained := merged.filter fun lease => now.isBefore lease.activeFlowsUntil ||
    nativeIds.contains lease.leaseId ||
    (some binding.profileDigest = activeProfileDigest && currentLeaseIds.contains lease.leaseId)
  rejectIf (256 < retained.length) "smart_access_runtime_inventory_full"
  return retaining entry retained

/-- One round of `_mergeNativeLeaseIdentities`, on the entries and on those that were
updated. -/
def mergeJournaled (activeProfileDigest : Option Text) (currentLeaseIds : List Text) (now : DateTime)
    (merged : List StoredSmartAccessRuntime × List StoredSmartAccessRuntime)
    (journaled : JournalEntry) :
    Try (List StoredSmartAccessRuntime × List StoredSmartAccessRuntime) :=
  if journaled.leases.isEmpty ∨ journaled.record.live now = false then .ok merged
  else
    match entryFor journaled.record.profileDigest merged.1 with
    | none => throwCatalog recoveryRequired
    | some entry => do
        let updated ← store.journaledEntry activeProfileDigest currentLeaseIds now journaled.leases
          journaled.record.catalogSha256 entry
        return (replaceEntry updated merged.1, merged.2 ++ [updated])

/-- `isCurrent` between the steps of `retainNativeJournal`. -/
def requireRecovery : Operation Unit := do
  let current ← isCurrent
  lift (rejectIf (current = false) "smart_access_recovery_superseded")

/-- The entries are written when some of them were updated. -/
def writeUpdated (merged : List StoredSmartAccessRuntime × List StoredSmartAccessRuntime)
    (now : DateTime) : Operation Unit :=
  if merged.2.isEmpty then pure ()
  else do
    writeEntries merged.1 now
    requireRecovery

def retainNativeJournal (encoded : Text) (activeProfileDigest : Option Text)
    (currentLeaseIds : List Text) : Operation RetainedSmartAccessNativeJournal := do
  requireRecovery
  let (snapshotSha256, received) ← lift (store.journalOf encoded)
  let now ← now
  let retained ← store.readNative now
  let bindings ← catching (store.readEntries now true) fun _ => pure []
  let result ← lift ((received.map (·.record)).foldlM (mergeRestriction bindings now) retained)
  requireRecovery
  writeNative result now
  requireRecovery
  let merged ← lift (received.foldlM
    (store.mergeJournaled activeProfileDigest currentLeaseIds now) (bindings, []))
  writeUpdated merged now
  return { snapshotSha256, restrictions := result, hasLiveWorker := received.any (·.live)
           bindings := merged.2 }

end SmartAccessRuntimeStore

end Pokrov.AppShell.SmartAccess
