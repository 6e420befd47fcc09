import Pokrov.AppShell.RestrictionLedger
import Pokrov.AppShell.RoutingCatalogVerifier
import Pokrov.Dart.DateParsing

/-!
# Identities of leases and catalogs

What is kept of a lease and of a catalog for the sake of their restrictions: the
maps of `smart_access_profile.dart` and `catalog_runtime_identity.dart`, as they
are read from and written to storage.
-/

namespace Pokrov.AppShell.SmartAccess

open Dart

/-! ## Reading fields -/

/-- `fields.containsKey(key)`. -/
def containsKey (fields : Fields) (key : String) : Bool := (fields.lookup (text key)).isSome

def isOneOf (value : Document) (options : List String) : Bool :=
  match value with
  | .string s => (options.map text).contains s
  | _ => false

def isRevision : Document → Bool
  | .int value => decide (1 ≤ value ∧ value ≤ maximumRevision)
  | _ => false

def isIdentifierUnit (u : UInt16) : Bool :=
  isLower u || isDigit u || u = unit '.' || u = unit '_' || u = unit '-'

/-- `^[a-z0-9][a-z0-9._-]{0,63}$`. -/
def isIdentifier : Text → Bool
  | [] => false
  | first :: rest =>
    (isLower first || isDigit first) && decide (rest.length ≤ 63) && rest.all isIdentifierUnit

def isIdentifierField : Document → Bool
  | .string s => isIdentifier s
  | _ => false

def isHexField (length : Nat) : Document → Bool
  | .string s => decide (s.length = length) && s.all isLowerHex
  | _ => false

/-- `DateTime.tryParse` of a string, where it gives a time in UTC. -/
def utcTime : Document → Option DateTime
  | .string s => DateTime.tryParseUtc s
  | _ => none

/-- `==` of values of which at most one is a list or a map. -/
def same : Document → Document → Bool
  | .null, .null => true
  | .bool a, .bool b => a = b
  | .int a, .int b => a = b
  | .double a, .double b => a = b
  | .string a, .string b => a = b
  | _, _ => false

/-- The strings of a list, where it has nothing else. -/
def stringsOf : List Document → Option (List Text)
  | [] => some []
  | .string s :: rest => (stringsOf rest).map (s :: ·)
  | _ :: _ => none

/-! ## Leases -/

def projectionInvalid : String := "smart_access_native_projection_invalid"

/-- `_fields`. -/
def identityFields : List String :=
  ["lease_id", "audience", "platform", "service_id", "provider_id", "permission_id",
    "capability_id", "provider_policy_revision", "provider_security_revision",
    "provider_policy_sha256", "issued_at", "new_flows_until", "active_flows_until"]

/-- `_renewalFields`. -/
def renewalFields : List String :=
  ["profile_sha256", "route_mode", "runtime_scope_sha256", "origin", "family", "feature",
    "provider_revision", "permission_revision", "catalog_revision", "catalog_security_revision"]

def platforms : List String := ["android", "windows"]

def audiences : List String := ["lab", "production"]

def routeModes : List String := ["selective", "smart_safe"]

def families : List String := ["ipv4", "ipv6"]

def origins : List String := ["current-origin", "brain-origin", "RU-origin", "synthetic"]

def features : List String :=
  ["web_request", "login", "streaming", "websocket", "store", "gameplay", "cloud_gaming"]

/-- What `fromStored` asks of the fields of a scope that can be renewed. -/
def acceptsRenewalFields (input : Fields) : Bool :=
  renewalFields.all (containsKey input) && isOneOf (input.get "route_mode") routeModes &&
  isOneOf (input.get "family") families && isOneOf (input.get "origin") origins &&
  isOneOf (input.get "feature") features &&
  (["profile_sha256", "runtime_scope_sha256"].all fun field => isHexField 64 (input.get field)) &&
  ["provider_revision", "permission_revision", "catalog_revision",
    "catalog_security_revision"].all fun field => isRevision (input.get field)

/-- What it asks of the others, except for the times. -/
def acceptsIdentityFields (input : Fields) : Bool :=
  (["service_id", "provider_id", "permission_id", "capability_id"].all fun field =>
    isIdentifierField (input.get field)) &&
  (["provider_policy_revision", "provider_security_revision"].all fun field =>
    isRevision (input.get field)) &&
  isHexField 32 (input.get "lease_id") && isHexField 64 (input.get "provider_policy_sha256") &&
  isOneOf (input.get "audience") audiences && isOneOf (input.get "platform") platforms

/-- `difference`, in microseconds. -/
def difference (later earlier : DateTime) : Int := DateTime.wrap (later.micros - earlier.micros)

/-- The times of a lease, where they are in order and not too far apart. -/
def activeUntil (input : Fields) : Option DateTime :=
  match utcTime (input.get "issued_at"), utcTime (input.get "new_flows_until"),
      utcTime (input.get "active_flows_until") with
  | some issued, some newUntil, some activeUntil =>
    if newUntil.isAfter issued = false ∨ activeUntil.isBefore newUntil = true ∨
        10 * 60 * 1000000 < difference newUntil issued ∨
        60 * 60 * 1000000 < difference activeUntil issued then none
    else some activeUntil
  | _, _, _ => none

structure SmartAccessLeaseIdentity where
  lease : Fields
  activeFlowsUntil : DateTime
  active : activeUntil lease = some activeFlowsUntil

/-- What a verifier makes of a grant. -/
structure VerifiedSmartAccessLease where
  envelope : Fields
  grant : Fields
  lease : Fields
  issuedAt : DateTime
  newFlowsUntil : DateTime
  activeFlowsUntil : DateTime
  runtimeScopeSha256 : Text
  externalECHOuterSNI : Bool

namespace VerifiedSmartAccessLease

def admitsNewFlows (grant : VerifiedSmartAccessLease) (now : DateTime) : Bool :=
  !now.isBefore grant.issuedAt && now.isBefore grant.newFlowsUntil

def runtimeIdentity (grant : VerifiedSmartAccessLease) : Fields :=
  (["lease_id", "audience", "platform", "service_id", "provider_id", "permission_id",
    "capability_id", "provider_policy_revision", "provider_security_revision",
    "provider_policy_sha256", "issued_at", "new_flows_until", "active_flows_until", "origin",
    "family", "feature", "provider_revision", "permission_revision", "catalog_revision",
    "catalog_security_revision"].map fun field => (text field, grant.lease.get field)) ++
  [(text "profile_sha256", grant.grant.get "profile_sha256"),
    (text "route_mode", grant.grant.get "route_mode"),
    (text "runtime_scope_sha256", .string grant.runtimeScopeSha256)]

end VerifiedSmartAccessLease

namespace SmartAccessLeaseIdentity

variable (identity : SmartAccessLeaseIdentity)

@[ext] theorem ext {a b : SmartAccessLeaseIdentity} (h : a.lease = b.lease) : a = b := by
  obtain ⟨lease, until1, h1⟩ := a
  obtain ⟨lease', until2, h2⟩ := b
  obtain rfl : lease = lease' := h
  obtain rfl := Option.some.inj (h1.symm.trans h2)
  rfl

def fromStored : Document → Try SmartAccessLeaseIdentity
  | .map input =>
    if (input.length = identityFields.length ∨
          input.length = identityFields.length + renewalFields.length) ∧
        identityFields.all (containsKey input) = true ∧
        (input.length = identityFields.length ∨ acceptsRenewalFields input = true) ∧
        acceptsIdentityFields input = true then
      match h : activeUntil input with
      | some activeFlowsUntil => .ok ⟨input, activeFlowsUntil, h⟩
      | none => throwCatalog projectionInvalid
    else throwCatalog projectionInvalid
  | _ => throwCatalog projectionInvalid

theorem lease_of_fromStored {fields : Fields} {read : SmartAccessLeaseIdentity}
    (h : fromStored (.map fields) = .ok read) : read.lease = fields := by
  simp only [fromStored] at h
  split at h
  · split at h
    · cases h
      rfl
    · cases h
  · cases h

def fromGrant (grant : VerifiedSmartAccessLease) : Try SmartAccessLeaseIdentity :=
  fromStored (.map grant.runtimeIdentity)

/-- A field that is a string. -/
def textField (field : String) : Text :=
  match identity.lease.get field with
  | .string s => s
  | _ => []

def leaseId : Text := identity.textField "lease_id"

/-- `issuedAt` and `newFlowsUntil`, which are read when they are asked for. -/
def timeField (field : String) : Try DateTime :=
  match utcTime (identity.lease.get field) with
  | some time => .ok time
  | none => .error .other

def hasRenewalScope : Bool := renewalFields.all (containsKey identity.lease)

/-- `matches`. -/
def matchesLease (other : SmartAccessLeaseIdentity) : Bool :=
  decide (identity.lease.length = other.lease.length) &&
    identity.lease.all fun (key, value) => same value ((other.lease.lookup key).getD .null)

/-- A revision of the next one that is not below this one. -/
def reaches (next : SmartAccessLeaseIdentity) (field : String) : Bool :=
  match next.lease.get field, identity.lease.get field with
  | .int newer, .int older => decide (older ≤ newer)
  | _, _ => false

def acceptsRuntimeIdentity (next : SmartAccessLeaseIdentity) : Bool :=
  identity.hasRenewalScope && next.hasRenewalScope &&
  (["runtime_scope_sha256", "profile_sha256", "route_mode", "platform", "audience", "service_id",
    "provider_id", "permission_id", "capability_id", "origin", "family", "feature"].all fun field =>
      same (identity.lease.get field) (next.lease.get field)) &&
  ["provider_revision", "permission_revision", "provider_policy_revision",
    "provider_security_revision", "catalog_revision", "catalog_security_revision"].all
      (identity.reaches next)

end SmartAccessLeaseIdentity

/-! ## Catalogs -/

structure CatalogRuntimeServiceIdentity where
  rules : List Text
  capabilities : List Text

structure CatalogRuntimeIdentity where
  revision : Int
  securityRevision : Int
  audience : Text
  platform : Text
  mode : Text
  accessState : Text
  services : List (Text × CatalogRuntimeServiceIdentity)

namespace CatalogRuntimeIdentity

def modes : List String := ["full", "smartSafe", "selective", "includeApps", "excludeApps"]

def accessStates : List String :=
  ["trial_premium", "bonus_premium", "paid_unlimited", "free_monthly", "free_soft_mode"]

/-- `strings`: distinct strings of a pattern, no more than a number of them. -/
def strings (maximum : Nat) (pattern : Text → Bool) : Document → Option (List Text)
  | .list items =>
    match stringsOf items with
    | some values =>
      if values.length ≤ maximum ∧ values.all pattern = true ∧ values.Nodup then some values
      else none
    | none => none
  | _ => none

/-- One entry of `services`. -/
def service : Text × Document → Option (Text × CatalogRuntimeServiceIdentity)
  | (id, .map row) =>
    match strings 4096 isHex64 (Fields.get row "rules"),
        strings 16 isIdentifier (Fields.get row "capabilities") with
    | some rules, some capabilities =>
      if isIdentifier id = true ∧ row.length = 2 ∧ rules ≠ [] then
        some (id, ⟨rules, capabilities⟩)
      else none
    | _, _ => none
  | _ => none

def fromStored : Document → Try CatalogRuntimeIdentity
  | .map input =>
    match Fields.get input "services", Fields.get input "revision",
        Fields.get input "security_revision", Fields.get input "audience",
        Fields.get input "platform", Fields.get input "mode",
        Fields.get input "access_state" with
    | .map rows, .int revision, .int securityRevision, .string audience, .string platform,
        .string mode, .string accessState =>
        match rows.mapM service with
        | some services =>
          if input.length = 7 ∧ isRevision (.int revision) = true ∧
              isRevision (.int securityRevision) = true ∧
              audience ∈ audiences.map text ∧ platform ∈ platforms.map text ∧
              mode ∈ modes.map text ∧ accessState ∈ accessStates.map text ∧
              rows.length ≤ 256 then
            .ok ⟨revision, securityRevision, audience, platform, mode, accessState, services⟩
          else throwCatalog "catalog_runtime_identity_invalid"
        | none => throwCatalog "catalog_runtime_identity_invalid"
    | _, _, _, _, _, _, _ => throwCatalog "catalog_runtime_identity_invalid"
  | _ => throwCatalog "catalog_runtime_identity_invalid"

/-- `toList()..sort()` of a set of strings. -/
def sorted (values : List Text) : Document :=
  .list ((values.insertionSort fun a b => a ≤ b).map .string)

def toStored (identity : CatalogRuntimeIdentity) : Document :=
  .map [(text "revision", .int identity.revision),
    (text "security_revision", .int identity.securityRevision),
    (text "audience", .string identity.audience), (text "platform", .string identity.platform),
    (text "mode", .string identity.mode), (text "access_state", .string identity.accessState),
    (text "services", .map (identity.services.map fun (id, service) => (id, .map
      [(text "rules", sorted service.rules),
        (text "capabilities", sorted service.capabilities)])))]

/-- `services.containsKey(id)`. -/
def hasService (identity : CatalogRuntimeIdentity) (id : Text) : Bool :=
  (identity.services.lookup id).isSome

/-- `services[service]?.capabilities.contains(capability)`. -/
def offers (identity : CatalogRuntimeIdentity) (service : Text) (capability : Document) : Bool :=
  match identity.services.lookup service, capability with
  | some entry, .string id => entry.capabilities.contains id
  | _, _ => false

end CatalogRuntimeIdentity

end Pokrov.AppShell.SmartAccess
