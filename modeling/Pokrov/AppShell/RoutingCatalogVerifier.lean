import Pokrov.AppShell.TransportManifestVerifier

/-!
# Verification of routing catalogs

`RoutingCatalogVerifier.verify` in `routing_catalog_contract.dart`. The digest and
the signature are functions of the verifier.
-/

namespace Pokrov.AppShell

open Dart

def routingCatalogMaximumBytes : Nat := 1024 * 1024

structure VerifiedRoutingCatalog where
  revision : Int
  securityRevision : Int
  payloadSha256 : Text
  issuedAt : DateTime
  expiresAt : DateTime
  envelope : Fields
  payload : Fields

/-- Two digits of hexadecimal for a byte. -/
def hexByte (byte : UInt8) : Text := [lowerHexDigit (byte.toNat / 16), lowerHexDigit (byte.toNat % 16)]

structure RoutingCatalogVerifier where
  /-- With what `base64Decode` makes of a key, if it does not throw. -/
  publicKeysById : List (Text × Option (List UInt8))
  audience : Text
  sha256 : Text → Fin 32 → UInt8
  /-- `Ed25519().verify` of a message, by a key and the text of a signature; none where
  the text is not decoded. -/
  ed25519 : Text → List UInt8 → Text → Option Bool

/-- A failure of the contract with this code, unless the condition is false. -/
def rejectIf (condition : Prop) [Decidable condition] (code : String) : Try Unit :=
  if condition then throwCatalog code else .ok ()

/-- A field that is a map. -/
def catalogMap (code : String) : Document → Try Fields
  | .map fields => .ok fields
  | _ => throwCatalog code

/-- A string that must be that one. -/
def exactly (value : Document) (expected : Text) : Bool :=
  match value with
  | .string s => s = expected
  | _ => false

/-- A list of maps, of no more than a number of them. -/
def isCollection (maximum : Nat) : Document → Bool
  | .list rows => decide (rows.length ≤ maximum) && rows.all Document.isMap
  | _ => false

/-- Everything else that is thrown is a failure of the verification. -/
def orVerificationFailed {α : Type} : Try α → Try α
  | .error (.catalog code) => .error (.catalog code)
  | .error _ => throwCatalog "catalog_verification_failed"
  | .ok a => .ok a

namespace RoutingCatalogVerifier

variable (v : RoutingCatalogVerifier)

def configured : Bool :=
  [text "lab", text "production"].contains v.audience && !v.publicKeysById.isEmpty

/-- `Sha256` of a text, in hexadecimal. -/
def digestOf (body : Text) : Text := (List.ofFn (v.sha256 body)).flatMap hexByte

/-- The signature of a payload. -/
def checkSignature (envelope : Fields) (body : Text) : Try Unit := do
  let encodedKey := match envelope.get "key_id" with
    | .string keyId => v.publicKeysById.lookup keyId
    | _ => none
  match encodedKey with
  | none => throwCatalog "catalog_key_not_trusted"
  | some none => .error .other
  | some (some publicKey) =>
    match envelope.get "signature_b64" with
    | .string signature => do
        rejectIf (publicKey.length ≠ 32 ∨ isSignature signature = false)
          "catalog_signature_invalid"
        match v.ed25519 (text "pokrov-routing-catalog-v1\n" ++ body) publicKey signature with
        | none => .error .other
        | some valid => rejectIf (valid = false) "catalog_signature_invalid"
    | _ => throwCatalog "catalog_signature_invalid"

/-- `verify` of a payload: what it says of itself, and its digest and signature. -/
def verifyPayload (envelope payload : Fields) (now : DateTime)
    (minimumRevision minimumSecurityRevision : Int) (currentPayloadSha256 : Option Text) :
    Try VerifiedRoutingCatalog := do
  keys payload ["schema_version", "revision", "security_revision", "audience", "issued_at",
    "expires_at", "sources", "evidence", "services"]
  rejectIf (exactly (payload.get "schema_version") (text "pokrov-routing-catalog-v1") = false)
    "catalog_schema_unsupported"
  rejectIf (exactly (payload.get "audience") v.audience = false) "catalog_audience_mismatch"
  let number ← revision (payload.get "revision")
  let securityRevision ← revision (payload.get "security_revision")
  rejectIf (number < minimumRevision ∨ securityRevision < minimumSecurityRevision)
    "catalog_rollback_rejected"
  let issuedAt ← time (payload.get "issued_at")
  let expiresAt ← time (payload.get "expires_at")
  rejectIf (expiresAt.isAfter issuedAt = false ∨ now.isBefore issuedAt = true ∨
    now.isBefore expiresAt = false) "catalog_not_current"
  rejectIf (isCollection 128 (payload.get "sources") = false ∨
    isCollection 512 (payload.get "evidence") = false ∨
    isCollection 256 (payload.get "services") = false) "catalog_collection_invalid"
  let body := canonical (.map payload)
  rejectIf (exactly (envelope.get "payload_sha256") (v.digestOf body) = false)
    "catalog_digest_mismatch"
  rejectIf (number = minimumRevision ∧ currentPayloadSha256 ≠ some (v.digestOf body))
    "catalog_same_revision_changed"
  v.checkSignature envelope body
  return { revision := number, securityRevision, payloadSha256 := v.digestOf body, issuedAt
           expiresAt, envelope, payload }

def verify (input : Document) (now : DateTime) (minimumRevision minimumSecurityRevision : Int)
    (currentPayloadSha256 : Option Text) : Try VerifiedRoutingCatalog :=
  orVerificationFailed do
    rejectIf (v.configured = false) "catalog_trust_unconfigured"
    rejectIf (minimumRevision < 0 ∨ maximumRevision < minimumRevision ∨
      minimumSecurityRevision < 1 ∨ maximumRevision < minimumSecurityRevision)
      "catalog_revision_floor_invalid"
    let envelope ← catalogMap "catalog_envelope_invalid" (← freeze input)
    keys envelope ["algorithm", "key_id", "payload_sha256", "payload", "signature_b64"]
    rejectIf (routingCatalogMaximumBytes < utf8Length (canonical (.map envelope)) + 1)
      "catalog_too_large"
    rejectIf (exactly (envelope.get "algorithm") (text "Ed25519") = false)
      "catalog_algorithm_invalid"
    let payload ← catalogMap "catalog_payload_invalid" (envelope.get "payload")
    v.verifyPayload envelope payload now minimumRevision minimumSecurityRevision currentPayloadSha256

end RoutingCatalogVerifier

end Pokrov.AppShell
