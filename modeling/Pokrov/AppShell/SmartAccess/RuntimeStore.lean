import Pokrov.AppShell.ManifestRecord
import Pokrov.AppShell.SmartAccess.Identities

/-!
# The store of lease inventories

`SmartAccessRuntimeStore` for one platform and audience: three slots with what the
running, the staged and the prepared profile are restricted to, and a ledger of the
restrictions that Core has reported. The operations take turns in a queue, so each
of them is one computation on the device, whose clock, whose callers and whose
storage answer as they like.
-/

namespace Pokrov.AppShell.SmartAccess

open Dart Stateful

structure SmartAccessRuntimeLeases where
  profileDigest : Text
  leases : List SmartAccessLeaseIdentity
  catalogIssuedAt : Option DateTime := none
  catalogExpiresAt : Option DateTime := none
  catalogSha256 : Option Text := none
  catalogIdentity : Option CatalogRuntimeIdentity := none
  verifiedGrants : List VerifiedSmartAccessLease := []

namespace SmartAccessRuntimeLeases

variable (binding : SmartAccessRuntimeLeases)

def hasRestrictionMetadata : Bool := binding.catalogExpiresAt.isSome || !binding.leases.isEmpty

def hasLiveAuthority (now : DateTime) : Bool :=
  binding.catalogExpiresAt.any now.isBefore ||
    binding.leases.any fun lease => now.isBefore lease.activeFlowsUntil

def leaseIds : List Text := binding.leases.map (·.leaseId)

/-- `catalogIdentity?.services.containsKey(id)`. -/
def hasService (id : Text) : Bool := binding.catalogIdentity.any (·.hasService id)

end SmartAccessRuntimeLeases

abbrev LeaseDecisions := List (Text × SmartAccessLeaseRevocation)

structure StoredSmartAccessRuntime where
  binding : SmartAccessRuntimeLeases
  decisions : LeaseDecisions
  catalogRevoked : Bool := false
  catalogWithdrawn : Bool := false
  catalogServiceRevocations : List Text := []

def StoredSmartAccessRuntime.digest (entry : StoredSmartAccessRuntime) : Text :=
  entry.binding.profileDigest

/-- A renewal that was prepared. -/
structure SmartAccessLeaseRenewal where
  binding : SmartAccessRuntimeLeases
  previous : SmartAccessLeaseIdentity
  next : VerifiedSmartAccessLease
  currentLeaseIds : List Text

/-! ## The device -/

inductive StorageOutcome
  | done
  /-- It throws and has changed nothing. -/
  | failed
  /-- It throws after it was done. -/
  | unreported

inductive StorageKey
  | inventory
  | restrictions

/-- What is stored, and what the device answers in turn. -/
structure Device where
  inventory : Option StoredText
  restrictions : Option StoredText
  clock : Nat → DateTime
  current : Nat → Bool
  storage : Nat → StorageOutcome
  ticks : Nat := 0

abbrev Operation (α : Type) := Stateful Device Failure α

namespace Device

variable (s : Device)

def tick : Device := { s with ticks := s.ticks + 1 }

/-- What the clock says next. -/
def time : DateTime := s.clock s.ticks

def stored : StorageKey → Option StoredText
  | .inventory => s.inventory
  | .restrictions => s.restrictions

def put (raw : StoredText) : StorageKey → Device
  | .inventory => { s with inventory := some raw }
  | .restrictions => { s with restrictions := some raw }

end Device

/-- `_now().toUtc()`. -/
def now : Operation DateTime := fun s => (.ok s.time, s.tick)

def isCurrent : Operation Bool := fun s => (.ok (s.current s.ticks), s.tick)

def readStorage (key : StorageKey) : Operation (Option StoredText) := fun s =>
  match s.storage s.ticks with
  | .done => (.ok (s.stored key), s.tick)
  | _ => (.error .other, s.tick)

def writeStorage (key : StorageKey) (raw : StoredText) : Operation Unit := fun s =>
  match s.storage s.ticks with
  | .done => (.ok (), (s.put raw key).tick)
  | .failed => (.error .other, s.tick)
  | .unreported => (.error .other, (s.put raw key).tick)

structure SmartAccessRuntimeStore where
  platform : Text
  audience : Text
  sha256 : Text → Fin 32 → UInt8
  /-- `sort` by `issuedAt`, which leaves equal times in an order of its own. -/
  sortByIssue : List SmartAccessLeaseIdentity → List SmartAccessLeaseIdentity

def storageInvalid : String := "smart_access_runtime_storage_invalid"

def clockRollback : String := "smart_access_clock_rollback"

def recoveryRequired : String := "smart_access_native_recovery_required"

def maximumInventoryBytes : Nat := 1024 * 1024

/-- The `version`, `last_observed_at` and rows of a document that is stored. -/
def parseStored (rows : String) (raw : StoredText) : Try (DateTime × List Document) :=
  if maximumInventoryBytes < raw.length ∨ maximumInventoryBytes < raw.bytes then
    throwCatalog storageInvalid
  else
    match raw.decoded with
    | none => .error .other
    | some (.map fields) =>
      match Fields.get fields "version", Fields.get fields "last_observed_at",
          Fields.get fields rows with
      | .int 1, .string observed, .list items =>
        match DateTime.tryParseUtc observed with
        | some time =>
          if fields.length = 3 then .ok (time, items) else throwCatalog storageInvalid
        | none => throwCatalog storageInvalid
      | _, _, _ => throwCatalog storageInvalid
    | some _ => throwCatalog storageInvalid

def storedDocument (rows : String) (completed : DateTime) (items : List Document) : Document :=
  .map [(text "version", .int 1), (text "last_observed_at", .string completed.toIso8601String),
    (text rows, .list items)]

/-! ## The inventory -/

structure StoredCatalog where
  issuedAt : Option DateTime := none
  expiresAt : Option DateTime := none
  sha256 : Option Text := none
  revoked : Bool := false
  withdrawn : Bool := false

/-- The fields of an entry that are about its catalog, of eight fields at least. -/
def storedCatalog (fields : Fields) : Try StoredCatalog :=
  if fields.length < 8 then .ok {}
  else match Fields.get fields "catalog_revoked", Fields.get fields "catalog_withdrawn" with
  | .bool revoked, .bool withdrawn =>
    if (["catalog_issued_at", "catalog_expires_at", "catalog_sha256"].all
          (containsKey fields)) = false ∨ (withdrawn = true ∧ revoked = false) then
      throwCatalog storageInvalid
    else
      match Fields.get fields "catalog_issued_at", Fields.get fields "catalog_expires_at",
          Fields.get fields "catalog_sha256" with
      | .null, .null, .null => .ok { revoked, withdrawn }
      | .string issued, .string expires, .string sha256 =>
        match DateTime.tryParseUtc issued, DateTime.tryParseUtc expires with
        | some issuedAt, some expiresAt =>
          if expiresAt.isAfter issuedAt = true ∧ isHex64 sha256 = true then
            .ok { issuedAt, expiresAt, sha256, revoked, withdrawn }
          else throwCatalog storageInvalid
        | _, _ => throwCatalog storageInvalid
      | _, _, _ => throwCatalog storageInvalid
  | _, _ => throwCatalog storageInvalid

def decisionName : SmartAccessLeaseRevocation → String
  | .drain => "drain"
  | .terminate => "terminate"

def decisionOf (value : Document) : Option SmartAccessLeaseRevocation :=
  if exactly value (text "terminate") then some .terminate
  else if exactly value (text "drain") then some .drain
  else none

/-- One entry of `decisions`. -/
def storedDecision (ids : List Text) : Text × Document → Try (Text × SmartAccessLeaseRevocation)
  | (id, value) =>
    match decisionOf value with
    | some decision => if id ∈ ids then .ok (id, decision) else throwCatalog storageInvalid
    | none => throwCatalog storageInvalid

namespace SmartAccessRuntimeStore

variable (store : SmartAccessRuntimeStore)

/-- The identity of a catalog, where there is one. -/
def storedIdentity (catalog : StoredCatalog) : Document → Try (Option CatalogRuntimeIdentity)
  | .null => .ok none
  | value => do
      let identity ← CatalogRuntimeIdentity.fromStored value
      rejectIf (catalog.expiresAt.isNone = true ∨ identity.platform ≠ store.platform ∨
        identity.audience ≠ store.audience) storageInvalid
      return some identity

/-- Services that were revoked, all of them of the catalog. -/
def storedServices (identity : Option CatalogRuntimeIdentity) : Document → Try (List Text)
  | .list revoked =>
    match stringsOf revoked with
    | some ids =>
      if ids.length ≤ 256 ∧ ids.Nodup ∧
          (ids.all fun id => identity.any (·.hasService id)) = true then .ok ids
      else throwCatalog storageInvalid
    | none => throwCatalog storageInvalid
  | _ => throwCatalog storageInvalid

/-- The identity of the catalog with the services that were revoked, of an entry of
ten fields. -/
def storedScope (catalog : StoredCatalog) (fields : Fields) :
    Try (Option CatalogRuntimeIdentity × List Text) :=
  if fields.length = 10 then do
    rejectIf (containsKey fields "catalog_identity" = false) storageInvalid
    let identity ← store.storedIdentity catalog (Fields.get fields "catalog_identity")
    let services ← storedServices identity (Fields.get fields "catalog_service_revocations")
    return (identity, services)
  else return (none, [])

/-- `_entry` of a map. -/
def entryOf (fields : Fields) (digest : Text) (rawLeases : List Document) (rawDecisions : Fields) :
    Try StoredSmartAccessRuntime := do
  rejectIf (fields.length ∉ [3, 8, 10]) storageInvalid
  rejectIf (isHex64 digest = false ∨ 256 < rawLeases.length) storageInvalid
  let catalog ← storedCatalog fields
  rejectIf (rawLeases.isEmpty = true ∧ catalog.expiresAt.isNone = true) storageInvalid
  let scope ← store.storedScope catalog fields
  let leases ← rawLeases.mapM SmartAccessLeaseIdentity.fromStored
  rejectIf ((leases.all fun lease => exactly (lease.lease.get "platform") store.platform &&
    exactly (lease.lease.get "audience") store.audience) = false ∨
      ¬ (leases.map (·.leaseId)).Nodup) storageInvalid
  let decisions ← rawDecisions.mapM (storedDecision (leases.map (·.leaseId)))
  return {
    binding := { profileDigest := digest, leases, catalogIssuedAt := catalog.issuedAt
                 catalogExpiresAt := catalog.expiresAt, catalogSha256 := catalog.sha256
                 catalogIdentity := scope.1 }
    decisions, catalogRevoked := catalog.revoked, catalogWithdrawn := catalog.withdrawn
    catalogServiceRevocations := scope.2 }

/-- `_entry`. -/
def entry : Document → Try StoredSmartAccessRuntime
  | .map fields =>
    match Fields.get fields "profile_digest", Fields.get fields "leases",
        Fields.get fields "decisions" with
    | .string digest, .list rawLeases, .map rawDecisions =>
      store.entryOf fields digest rawLeases rawDecisions
    | _, _, _ => throwCatalog storageInvalid
  | _ => throwCatalog storageInvalid

/-- The entries of an inventory. -/
def entries (bindings : List Document) : Try (List StoredSmartAccessRuntime) := do
  rejectIf (3 < bindings.length) storageInvalid
  let entries ← bindings.mapM store.entry
  rejectIf (¬ (entries.map (·.digest)).Nodup) storageInvalid
  return entries

/-- `_read` of what is stored, with what has expired. -/
def inventoryAt (now : DateTime) : Option StoredText → Try (List StoredSmartAccessRuntime)
  | none => .ok []
  | some raw => do
      let (observed, bindings) ← parseStored "bindings" raw
      rejectIf (now.isBefore observed = true) clockRollback
      store.entries bindings

def supported : Bool :=
  (platforms.map text).contains store.platform && (audiences.map text).contains store.audience

/-- `_read`, with or without what has expired. -/
def readEntries (now : DateTime) (includeExpired : Bool) :
    Operation (List StoredSmartAccessRuntime) := do
  lift (rejectIf (store.supported = false) storageInvalid)
  let raw ← readStorage .inventory
  let entries ← lift (store.inventoryAt now raw)
  return if includeExpired then entries else entries.filter (·.binding.hasLiveAuthority now)

end SmartAccessRuntimeStore

def timeOrNull : Option DateTime → Document
  | none => .null
  | some time => .string time.toIso8601String

def textOrNull : Option Text → Document
  | none => .null
  | some s => .string s

def identityOrNull : Option CatalogRuntimeIdentity → Document
  | none => .null
  | some identity => identity.toStored

/-- An entry as it is written. -/
def StoredSmartAccessRuntime.toDocument (entry : StoredSmartAccessRuntime) : Document :=
  .map [(text "profile_digest", .string entry.digest),
    (text "catalog_issued_at", timeOrNull entry.binding.catalogIssuedAt),
    (text "catalog_expires_at", timeOrNull entry.binding.catalogExpiresAt),
    (text "catalog_revoked", .bool entry.catalogRevoked),
    (text "catalog_withdrawn", .bool entry.catalogWithdrawn),
    (text "catalog_sha256", textOrNull entry.binding.catalogSha256),
    (text "catalog_identity", identityOrNull entry.binding.catalogIdentity),
    (text "catalog_service_revocations",
      CatalogRuntimeIdentity.sorted entry.catalogServiceRevocations),
    (text "leases", .list (entry.binding.leases.map fun lease => .map lease.lease)),
    (text "decisions", .map (entry.decisions.map fun (id, decision) =>
      (id, .string (text (decisionName decision)))))]

/-- `_write` and `_writeNative`, of some rows. -/
def writeRows (key : StorageKey) (rows : String) (items : List Document) (observed : DateTime) :
    Operation Unit := do
  let completed ← now
  lift (rejectIf (completed.isBefore observed = true) clockRollback)
  let raw := StoredText.of (storedDocument rows completed items)
  lift (rejectIf (maximumInventoryBytes < raw.bytes) storageInvalid)
  writeStorage key raw

/-- `_write`. -/
def writeEntries (entries : List StoredSmartAccessRuntime) (observed : DateTime) : Operation Unit :=
  writeRows .inventory "bindings" (entries.map (·.toDocument)) observed

def entryFor (digest : Text) (entries : List StoredSmartAccessRuntime) :
    Option StoredSmartAccessRuntime :=
  entries.find? (·.digest = digest)

/-- The first entry with its digest is replaced. -/
def replaceEntry (updated : StoredSmartAccessRuntime) :
    List StoredSmartAccessRuntime → List StoredSmartAccessRuntime
  | [] => []
  | entry :: rest =>
    if entry.digest = updated.digest then updated :: rest else entry :: replaceEntry updated rest

end Pokrov.AppShell.SmartAccess
