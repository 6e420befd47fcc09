import Pokrov.AppShell.TransportContract

/-!
# Admission of transport manifests

`validateFloor`, `admit` and `_verify` of `TransportManifestVerifier`.
-/

namespace Pokrov.AppShell

open Dart

structure TransportManifestVerifier where
  keysById : List (Text × Text)
  audience : Text
  clientRelease : Text
  coreRelease : Text
  /-- `Sha256` of a text, in hexadecimal. -/
  sha256 : Text → Text
  /-- `Ed25519().verify` of a message, by a key and a signature. -/
  ed25519 : Text → Text → Text → Bool

/-- What is kept of the newest document that was admitted. Its time is kept as
the text that is stored. -/
structure Floor where
  epoch : Int
  revision : Int
  documentKind : Text
  payloadSha256 : Text
  lastObservedAt : Text
  kills : Kills

def Floor.version (floor : Floor) : Int × Int := (floor.epoch, floor.revision)

def Floor.toDocument (audience : Text) (floor : Floor) : Document :=
  .map [(text "schema_version", .string (text "pokrov-transport-floor-v1")),
    (text "audience", .string audience),
    (text "epoch", .int floor.epoch),
    (text "revision", .int floor.revision),
    (text "document_kind", .string floor.documentKind),
    (text "payload_sha256", .string floor.payloadSha256),
    (text "last_observed_at", .string floor.lastObservedAt),
    (text "kills", floor.kills.toDocument)]

/-- A field that is a string. -/
def stringField : Document → Try Text
  | .string value => .ok value
  | _ => .error .other

/-- A string field that must have one of some values. -/
def oneOf (value : Document) (values : List Text) (code : String) : Try Text :=
  match value with
  | .string s => if values.contains s then .ok s else throwTransport code
  | _ => throwTransport code

/-- `validateFloor` of a verifier for an audience. -/
def validateFloor (audience : Text) (input : Document) : Try Floor :=
  orAlways "transport_floor_invalid" do
    let floor ← transportMap (← freeze input)
    keys floor ["schema_version", "audience", "epoch", "revision", "document_kind",
      "payload_sha256", "last_observed_at", "kills"]
    let _ ← oneOf (floor.get "schema_version") [text "pokrov-transport-floor-v1"]
      "transport_floor_invalid"
    let _ ← oneOf (floor.get "audience") [audience] "transport_floor_invalid"
    let documentKind ← oneOf (floor.get "document_kind") [text "manifest", text "rollback"]
      "transport_floor_invalid"
    let epoch ← revision (floor.get "epoch")
    let number ← revision (floor.get "revision")
    let payloadSha256 ← transportDigest (floor.get "payload_sha256")
    let _ ← time (floor.get "last_observed_at")
    let kills ← transportKills (floor.get "kills")
    let lastObservedAt ← stringField (floor.get "last_observed_at")
    return { epoch, revision := number, documentKind, payloadSha256, lastObservedAt, kills }

/-- The text of a time for a floor: `toIso8601String().split('.')[0] + 'Z'`. -/
def floorTime (d : DateTime) : Text := d.toIso8601String.takeWhile (· ≠ unit '.') ++ text "Z"

/-! ## Signatures -/

/-- `^[A-Za-z0-9_-]{86}$`. -/
def isSignature (value : Text) : Bool :=
  decide (value.length = 86) &&
    value.all fun u => isUpper u || isLower u || isDigit u || u = unit '_' || u = unit '-'

/-- `^[a-z0-9][a-z0-9._-]{0,63}$`. -/
def isKeyId (value : Text) : Bool :=
  match value with
  | [] => false
  | first :: rest => (isLower first || isDigit first) && decide (rest.length ≤ 63) &&
      rest.all fun u => isLower u || isDigit u || u = unit '.' || u = unit '_' || u = unit '-'

/-- `==` of two fields of frozen documents. Lists and maps are not the same object. -/
def sameField (a b : Document) : Bool :=
  match a, b with
  | .null, .null => true
  | .bool a, .bool b => a = b
  | .int a, .int b => a = b
  | .string a, .string b => a = b
  | _, _ => false

def payloadKeys (rollback : Bool) : List String :=
  ["schema_version", "audience", "signer_key_id", "epoch", "revision", "issued_at", "not_before",
    "expires_at", "minimum_client_release", "minimum_core_release", "kills"] ++
  if rollback then ["target_epoch", "target_revision", "target_payload_sha256"]
  else ["capability_refs", "capability_bindings", "profile_refs", "bootstrap_set_refs",
    "probe_set_refs", "budget"]

namespace TransportManifestVerifier

variable (v : TransportManifestVerifier)

def configured : Bool :=
  [text "lab", text "production"].contains v.audience && !v.keysById.isEmpty

/-- What only an authorization to roll back, or only a manifest has in its payload. -/
def verifyKind (payload : Fields) (rollback : Bool) : Try (List TransportCapabilityBinding) :=
  if rollback then do
    let _ ← transportDigest (payload.get "target_payload_sha256")
    let targetEpoch ← revision (payload.get "target_epoch")
    let targetRevision ← revision (payload.get "target_revision")
    let epoch ← revision (payload.get "epoch")
    let number ← revision (payload.get "revision")
    refuseIf (transportVersionCompare (targetEpoch, targetRevision) (epoch, number) ≠ .lt)
      "transport_rollback_target_order"
    return []
  else do
    let capabilityRefs ← transportRefs 1 256 (payload.get "capability_refs")
    let profileRefs ← transportRefs 1 1024 (payload.get "profile_refs")
    let bindings ← transportCapabilityBindings capabilityRefs profileRefs
      (payload.get "capability_bindings")
    let _ ← transportRefs 1 64 (payload.get "bootstrap_set_refs")
    let _ ← transportRefs 1 64 (payload.get "probe_set_refs")
    transportBudget (payload.get "budget")
    return bindings

/-- The digest and the signature of an envelope. -/
def verifySignature (envelope : Fields) (payload : Document) (schema keyId : Text) : Try Unit := do
  let digest ← transportDigest (envelope.get "payload_sha256")
  let body := canonical payload
  refuseIf (v.sha256 body ≠ digest) "transport_digest_mismatch"
  match v.keysById.lookup keyId, envelope.get "signature_b64" with
  | none, _ => throwTransport "transport_signer_untrusted"
  | some publicKey, .string signature =>
    refuseIf (isSignature signature = false ∨
      v.ed25519 (schema ++ 10 :: body) publicKey signature = false) "transport_signature_invalid"
  | some _, _ => throwTransport "transport_signature_invalid"

/-- The key of an envelope, by the same name inside and outside. -/
def signerOf (envelope payload : Fields) : Try Text := do
  refuseIf (sameField (envelope.get "key_id") (payload.get "signer_key_id") = false)
    "transport_document_invalid"
  match envelope.get "key_id" with
  | .string keyId => do
      refuseIf (isKeyId keyId = false) "transport_signer_invalid"
      return keyId
  | _ => throwTransport "transport_signer_invalid"

/-- `_verify`. -/
def verify (envelope : Fields) (now : DateTime) (rollback : Bool) (earliestNow : DateTime) :
    Try (List TransportCapabilityBinding) := do
  keys envelope ["algorithm", "key_id", "payload_sha256", "payload", "signature_b64"]
  refuseIf (transportManifestMaximumBytes < utf8Length (canonical (.map envelope)) + 1)
    "transport_document_too_large"
  let payload ← transportMap (envelope.get "payload")
  keys payload (payloadKeys rollback)
  let schema := text
    (if rollback then "pokrov-transport-rollback-v1" else "pokrov-transport-manifest-v1")
  let _ ← oneOf (envelope.get "algorithm") [text "Ed25519"] "transport_document_invalid"
  let _ ← oneOf (payload.get "schema_version") [schema] "transport_document_invalid"
  let _ ← oneOf (payload.get "audience") [v.audience] "transport_document_invalid"
  let keyId ← signerOf envelope payload
  let _ ← revision (payload.get "epoch")
  let _ ← revision (payload.get "revision")
  let issued ← time (payload.get "issued_at")
  let start ← time (payload.get "not_before")
  let expiry ← time (payload.get "expires_at")
  refuseIf (issued.isAfter start = true ∨ start.isBefore expiry = false ∨
    earliestNow.isBefore start = true ∨ now.isBefore expiry = false) "transport_document_not_current"
  let oldClient ← releaseBelow v.clientRelease (payload.get "minimum_client_release")
  let oldCore ← releaseBelow v.coreRelease (payload.get "minimum_core_release")
  refuseIf (oldClient = true ∨ oldCore = true) "transport_release_incompatible"
  let _ ← transportKills (payload.get "kills")
  let bindings ← verifyKind payload rollback
  v.verifySignature envelope (.map payload) schema keyId
  return bindings

end TransportManifestVerifier

/-! ## Admission -/

/-- Public signed policy that was admitted. -/
structure TransportAdmission where
  manifest : Fields
  rollback : Option Fields
  nextFloor : Floor
  effectiveExpiresAt : DateTime
  effectiveKills : Kills
  capabilityBindings : List TransportCapabilityBinding

/-- The references of two lists in their order, each once. -/
def mergeRefs (refs others : List Text) : List Text :=
  (refs ++ others).dedup.insertionSort fun a b => a ≤ b

/-- The kills of a manifest, of an authorization and of the floor. -/
def Kills.union (a b : Kills) : Kills :=
  ⟨mergeRefs a.profileRefs b.profileRefs, mergeRefs a.endpointRefs b.endpointRefs,
    mergeRefs a.capabilityRefs b.capabilityRefs⟩

/-- Which document is newest, and with which kills and until when. -/
structure Newest where
  document : Fields
  kind : Text
  kills : Kills
  expiry : DateTime

namespace TransportManifestVerifier

variable (v : TransportManifestVerifier)

/-- An authorization for a manifest takes its place. -/
def authorized (manifest payload authorization : Fields) (kills : Kills) (expiry : DateTime)
    (previous : Option Floor) (now earliestNow : DateTime) : Try Newest := do
  let _ ← v.verify authorization now true earliestNow
  let target ← transportMap (authorization.get "payload")
  refuseIf (sameField (target.get "target_epoch") (payload.get "epoch") = false ∨
    sameField (target.get "target_revision") (payload.get "revision") = false ∨
    sameField (target.get "target_payload_sha256") (manifest.get "payload_sha256") = false)
    "transport_rollback_target_mismatch"
  let targetKills ← transportKills (target.get "kills")
  let united := (kills.union targetKills).union ((previous.map Floor.kills).getD ⟨[], [], []⟩)
  let kills ← transportKills united.toDocument
  let rollbackExpiry ← time (target.get "expires_at")
  return ⟨authorization, text "rollback", kills,
    if rollbackExpiry.isBefore expiry then rollbackExpiry else expiry⟩

def newest (manifest payload : Fields) (authorization : Option Fields) (previous : Option Floor)
    (now earliestNow : DateTime) : Try Newest := do
  let kills ← transportKills (payload.get "kills")
  let expiry ← time (payload.get "expires_at")
  match authorization with
  | none => return ⟨manifest, text "manifest", kills, expiry⟩
  | some authorization =>
    v.authorized manifest payload authorization kills expiry previous now earliestNow

/-- Against the floor: no older version, and no other document of the same. -/
def checkVersion (previous : Option Floor) (epoch number : Int) (kind digest : Text) : Try Unit :=
  match previous with
  | none => .ok ()
  | some previous =>
    match transportVersionCompare (epoch, number) previous.version with
    | .lt => throwTransport "transport_revision_rollback"
    | .eq =>
      if kind ≠ previous.documentKind ∨ digest ≠ previous.payloadSha256 then
        throwTransport "transport_revision_equivocation"
      else .ok ()
    | .gt => .ok ()

/-- The clock against the floor. -/
def checkClock (previous : Option Floor) (now : DateTime) : Try Unit :=
  match previous with
  | none => .ok ()
  | some previous => do
      let last ← time (.string previous.lastObservedAt)
      refuseIf (now.isBefore last = true) "transport_clock_rollback"

/-- `admit`. -/
def admitDocument (input : Document) (rollback floor : Option Document) (now earliestNow : DateTime) :
    Try TransportAdmission :=
  orTransport "transport_manifest_invalid" do
    refuseIf (v.configured = false) "transport_trust_unconfigured"
    let manifest ← transportMap (← freeze input)
    let authorization ← rollback.mapM fun rollback => do transportMap (← freeze rollback)
    let previous ← floor.mapM (validateFloor v.audience)
    refuseIf (earliestNow.isAfter now = true) "transport_clock_invalid"
    checkClock previous now
    let bindings ← v.verify manifest now false earliestNow
    let payload ← transportMap (manifest.get "payload")
    let current ← v.newest manifest payload authorization previous now earliestNow
    let version ← transportMap (current.document.get "payload")
    let epoch ← revision (version.get "epoch")
    let number ← revision (version.get "revision")
    let digest ← transportDigest (current.document.get "payload_sha256")
    checkVersion previous epoch number current.kind digest
    let next ← validateFloor v.audience (Floor.toDocument v.audience
      { epoch, revision := number, documentKind := current.kind, payloadSha256 := digest,
        lastObservedAt := floorTime now, kills := current.kills })
    return { manifest, rollback := authorization, nextFloor := next,
             effectiveExpiresAt := current.expiry, effectiveKills := current.kills,
             capabilityBindings := bindings }

end TransportManifestVerifier

end Pokrov.AppShell
