import Pokrov.AppShell.Bootstrap.Reading
import Pokrov.AppShell.InvitationJson
import Pokrov.Lib.Runs

/-!
# Offline invitations

`OfflineInvitationReceiver` of `offline_invitation_contract.dart`, for one platform and one
install. An operation reads the record once and writes it once, and the others run in between.
The record that is kept is the value whose canonical text is written: reading it gives that value
again, up to the order of its keys.
-/

namespace Pokrov.AppShell.Invitations

open Dart

inductive Thrown
  /-- `OfflineInvitationFailure`. -/
  | failure (code : String)
  /-- Everything else, as a `FormatException`. -/
  | other
deriving DecidableEq

abbrev Tried (α : Type) := Except Thrown α

def fail {α : Type} (code : String) : Tried α := .error (.failure code)

/-- `canonicalInvitationJson`. -/
def canonicalJson (value : Document) : Tried Text :=
  match canonicalInvitationJson value with
  | .ok s => .ok s
  | .error failure => fail failure.code

/-! ## Values -/

/-- `value == s`. -/
def isText (value : Document) (s : Text) : Bool :=
  match value with
  | .string t => t = s
  | _ => false

/-- `value == true`. -/
def isTrue : Document → Bool
  | .bool b => b
  | _ => false

/-- `value as String`. -/
def asString : Document → Tried Text
  | .string s => .ok s
  | _ => .error .other

/-- The six bits of a character of `base64Url`. -/
def sextet (u : UInt16) : Option Nat :=
  if isUpper u then some (u.toNat - 65)
  else if isLower u then some (u.toNat - 71)
  else if Dart.isDigit u then some (u.toNat + 4)
  else if u = unit '-' then some 62
  else if u = unit '_' then some 63
  else none

def sextetBytes : List Nat → Option (List UInt8)
  | [] => some []
  | [_] => none
  | [a, b] => some [UInt8.ofNat (a * 4 + b / 16)]
  | [a, b, d] => some [UInt8.ofNat (a * 4 + b / 16), UInt8.ofNat (b % 16 * 16 + d / 4)]
  | a :: b :: d :: e :: rest => do
      let bytes ← sextetBytes rest
      return UInt8.ofNat (a * 4 + b / 16) :: UInt8.ofNat (b % 16 * 16 + d / 4) ::
        UInt8.ofNat (d % 4 * 64 + e) :: bytes

/-- `_decode`. -/
def decode (value : Document) (size : Option Nat) : Tried (List UInt8) :=
  match value with
  | .string s =>
    if s = [] then fail "encoding_invalid"
    else match (s.mapM sextet).bind sextetBytes with
      | none => fail "encoding_invalid"
      | some bytes =>
        if (size.any fun n => bytes.length ≠ n) ∨ base64UrlBare bytes ≠ s then
          fail "encoding_invalid"
        else .ok bytes
  | _ => fail "encoding_invalid"

/-- `_object`. -/
def object : Document → Tried Fields
  | .map fields => .ok fields
  | _ => fail "object_invalid"

/-- `_object(jsonDecode(s))`. -/
def decodeObject (s : Text) : Tried Fields :=
  match jsonDecode s with
  | none => .error .other
  | some value => object value

/-- `_keys`. -/
def keys (value : Fields) (expected : List String) : Tried Unit :=
  if value.hasKeys expected then .ok () else fail "fields_invalid"

/-- `_ascii`. -/
def ascii (value : Document) : Tried Text :=
  match value with
  | .string s =>
    if s = [] ∨ 256 < s.length ∨ s.any (fun u => u < 32 || 126 < u) then fail "text_invalid"
    else .ok s
  | _ => fail "text_invalid"

def isTokenUnit (u : UInt16) : Bool :=
  isUpper u || isLower u || Dart.isDigit u || u = unit '_' || u = unit '.' || u = unit '-'

/-- `_token`. -/
def token (value : Document) : Tried Text :=
  match value with
  | .string s => if s = [] ∨ !s.all isTokenUnit then fail "session_invalid" else .ok s
  | _ => fail "session_invalid"

/-- `Map.from(value)..remove(key)` for some keys. -/
def without (value : Fields) (removed : List String) : Fields :=
  value.filter fun field => !(removed.map text).contains field.1

/-- Two digits for every byte. -/
def hexBytes (bytes : List UInt8) : Text :=
  bytes.flatMap fun b => [lowerHexDigit (b.toNat / 16), lowerHexDigit (b.toNat % 16)]

def hexPairs : Text → List UInt8
  | u :: v :: rest =>
    UInt8.ofNat ((JsonText.hexValue u).getD 0 * 16 + (JsonText.hexValue v).getD 0) :: hexPairs rest
  | _ => []

/-- `_digestBytes`. -/
def digestBytes (value : Text) : Tried (List UInt8) :=
  if value.length = 64 ∧ value.all isLowerHex then .ok (hexPairs value) else fail "digest_invalid"

/-! ## The receiver -/

/-- `Sha256`, `Ed25519`, `X25519`, and the decryption with a key of these. -/
structure Oracles where
  sha256 : List UInt8 → List UInt8
  /-- By a private key. -/
  sign : List UInt8 → List UInt8 → List UInt8
  /-- Of a message, by a signature and a public key. -/
  verify : List UInt8 → List UInt8 → List UInt8 → Bool
  ed25519Public : List UInt8 → List UInt8
  x25519Public : List UInt8 → List UInt8
  /-- By the private key, the ephemeral public key, the digest of the request, the text, its nonce,
  its code and what is authenticated with it. -/
  decrypt : (privateKey ephemeral salt ciphertext nonce mac associated : List UInt8) →
    Option (List UInt8)

structure OfflineInvitationTrust where
  audience : Text
  issuerPublicKeys : List (Text × Text)

structure OfflineInvitationReceiver where
  oracles : Oracles
  trust : OfflineInvitationTrust
  platform : Text
  installId : Text

inductive KeyPairType
  | ed25519
  | x25519
deriving DecidableEq

structure KeyPair where
  type : KeyPairType
  privateKey : List UInt8
  publicKey : List UInt8

structure RequestArguments where
  consent : Bool
  clientRelease : Text
  coreRelease : Text
  runtimeFeatures : List Text
  routeMode : Text
  proof : KeyPair
  delivery : KeyPair
  nonce : List UInt8

structure VerifiedOfflineInvitation where
  plaintext : Text
  request : Fields
  inviteId : Text
  issuedAt : Int
  expiresAt : Int

def VerifiedOfflineInvitation.recipient (invitation : VerifiedOfflineInvitation) : Tried Fields :=
  decodeObject invitation.plaintext

def invitationRequestPurpose : Text := text "pokrov.invitation-request.v1"

def offlineInvitationPurpose : Text := text "pokrov.offline-invitation.v1"

namespace OfflineInvitationReceiver

variable (r : OfflineInvitationReceiver)

/-- `_digest`. -/
def digest (bytes : List UInt8) : Text := hexBytes (r.oracles.sha256 bytes)

/-- The payload of a request. -/
def requestBody (a : RequestArguments) : Tried Fields := do
  if !a.consent ∨ !([text "android", text "windows"].contains r.platform) then
    fail "consent_or_platform_invalid"
  if a.routeMode ≠ text "full_tunnel" then fail "route_unsupported"
  if a.nonce.length ≠ 32 ∨ a.proof.type ≠ .ed25519 ∨ a.delivery.type ≠ .x25519 then
    fail "keys_invalid"
  let installId ← ascii (.string r.installId)
  let clientRelease ← ascii (.string a.clientRelease)
  let coreRelease ← ascii (.string a.coreRelease)
  let features ← (a.runtimeFeatures.dedup.insertionSort (· ≤ ·)).mapM fun s => ascii (.string s)
  let routeMode ← ascii (.string a.routeMode)
  return [(text "purpose", .string invitationRequestPurpose), (text "install_id", .string installId),
    (text "platform", .string r.platform),
    (text "request_nonce", .string (base64UrlBare a.nonce)),
    (text "proof_public_key", .string (base64UrlBare a.proof.publicKey)),
    (text "delivery_public_key", .string (base64UrlBare a.delivery.publicKey)),
    (text "consent", .bool true), (text "client_release", .string clientRelease),
    (text "core_release", .string coreRelease),
    (text "runtime_features", .list (features.map .string)), (text "route_mode", .string routeMode)]

/-- The record that `createRequest` writes. -/
def requestRecord (a : RequestArguments) : Tried Fields := do
  let body ← r.requestBody a
  let canonical ← canonicalJson (.map body)
  let signature := r.oracles.sign a.proof.privateKey
    (utf8Encode (invitationRequestPurpose ++ [10] ++ canonical))
  let request : Document := .map [(text "payload", .map body),
    (text "signature", .string (base64UrlBare signature))]
  return [(text "request", request),
    (text "request_digest", .string (r.digest (utf8Encode canonical))),
    (text "proof_private_key", .string (base64UrlBare a.proof.privateKey)),
    (text "delivery_private_key", .string (base64UrlBare a.delivery.privateKey)),
    (text "accepted_packet", .null)]

/-- The recipient of a plaintext. -/
def checkRecipient (raw : Text) : Tried Unit := do
  let recipient ← decodeObject raw
  keys recipient ["account_id", "device_id", "install_id", "session", "managed_response",
    "inviter_ref", "trial_ref"]
  if !isText (recipient.get "install_id") r.installId then fail "recipient_mismatch"
  let _ ← ascii (recipient.get "account_id")
  let _ ← ascii (recipient.get "device_id")
  let session ← object (recipient.get "session")
  keys session ["access_token", "refresh_token"]
  let _ ← token (session.get "access_token")
  let _ ← token (session.get "refresh_token")
  let _ ← ascii (recipient.get "inviter_ref")
  let _ ← ascii (recipient.get "trial_ref")
  let _ ← object (recipient.get "managed_response")

/-- The signature of an envelope, and what it signs. -/
def checkSignature (envelope : Fields) : Tried Fields := do
  keys envelope ["purpose", "audience", "key_id", "invite_id", "request_digest",
    "recipient_key_digest", "issued_at", "expires_at", "ephemeral_public_key", "nonce",
    "ciphertext", "mac", "signature"]
  if !isText (envelope.get "purpose") offlineInvitationPurpose ∨
      !isText (envelope.get "audience") r.trust.audience then fail "authority_invalid"
  let publicKey ←
    match envelope.get "key_id" with
    | .string id =>
      match r.trust.issuerPublicKeys.lookup id with
      | some key => Except.ok key
      | none => fail "issuer_unknown"
    | _ => fail "issuer_unknown"
  let signed := without envelope ["signature"]
  let canonical ← canonicalJson (.map signed)
  let signature ← decode (envelope.get "signature") (some 64)
  let key ← decode (.string publicKey) (some 32)
  if !r.oracles.verify (utf8Encode (offlineInvitationPurpose ++ [10] ++ canonical)) signature key then
    fail "signature_invalid"
  return signed

/-- The times of an envelope, at a time in milliseconds. -/
def checkTimes (envelope : Fields) (now : Int) : Tried (Int × Int) :=
  match envelope.get "issued_at", envelope.get "expires_at" with
  | .int issued, .int expires =>
    if issued ≤ 0 ∨ expires ≤ issued ∨ 600 < expires - issued ∨ now.tdiv 1000 < issued ∨
        expires ≤ now.tdiv 1000 then fail "expired"
    else .ok (issued, expires)
  | _, _ => fail "expired"

/-- `_verify`. -/
def verify (envelope record : Fields) (now : Int) : Tried VerifiedOfflineInvitation := do
  let signed ← r.checkSignature envelope
  let (issued, expires) ← checkTimes envelope now
  let request ← object ((← object (record.get "request")).get "payload")
  if isTrue (record.get "cancelled") then fail "cancelled"
  let requestDigest := r.digest (utf8Encode (← canonicalJson (.map request)))
  let deliveryPublic ← decode (request.get "delivery_public_key") (some 32)
  let deliveryPrivate ← decode (record.get "delivery_private_key") (some 32)
  let proofPrivate ← decode (record.get "proof_private_key") (some 32)
  if !isText (request.get "purpose") invitationRequestPurpose ∨ !isTrue (request.get "consent") ∨
      !isText (request.get "platform") r.platform ∨ !isText (request.get "install_id") r.installId ∨
      !isText (record.get "request_digest") requestDigest ∨
      !isText (envelope.get "request_digest") requestDigest ∨
      !isText (envelope.get "recipient_key_digest") (r.digest deliveryPublic) ∨
      !isText (request.get "delivery_public_key")
        (base64UrlBare (r.oracles.x25519Public deliveryPrivate)) ∨
      !isText (request.get "proof_public_key")
        (base64UrlBare (r.oracles.ed25519Public proofPrivate)) then fail "recipient_mismatch"
  let header := without signed ["ciphertext", "mac"]
  let ephemeral ← decode (envelope.get "ephemeral_public_key") (some 32)
  let salt ← digestBytes requestDigest
  let ciphertext ← decode (envelope.get "ciphertext") none
  let nonce ← decode (envelope.get "nonce") (some 12)
  let mac ← decode (envelope.get "mac") (some 16)
  let associated := utf8Encode (← canonicalJson (.map header))
  match r.oracles.decrypt deliveryPrivate ephemeral salt ciphertext nonce mac associated with
  | none => fail "decryption_failed"
  | some plaintext =>
    match utf8Decode plaintext with
    | none => .error .other
    | some raw =>
      r.checkRecipient raw
      let inviteId ← ascii (envelope.get "invite_id")
      return ⟨raw, request, inviteId, issued, expires⟩

end OfflineInvitationReceiver

/-! ## The operations -/

/-- What an `importPacket` is answered after its read: the clock, `operationIsCurrent`, whether
`beforeCommit` completes, and `operationIsCurrent` before its write and after it. -/
structure ImportAnswers where
  now : Int
  current : Bool
  committing : Bool
  currentThen : Bool
  currentAfter : Bool

namespace OfflineInvitationReceiver

variable (r : OfflineInvitationReceiver)

/-- A packet that is canonical. -/
def parsePacket (packet : Text) : Tried Fields := do
  let parsed ← decodeObject packet
  let canonical ← canonicalJson (.map parsed)
  if canonical ≠ packet then fail "packet_not_canonical"
  return parsed

/-- Another packet of the record was accepted. -/
def checkAccepted (value parsed : Fields) : Tried Unit := do
  if (value.get "accepted_packet").isNull then return
  let accepted ← canonicalJson (value.get "accepted_packet")
  let canonical ← canonicalJson (.map parsed)
  if accepted ≠ canonical then fail "already_consumed"

/-- The record with an accepted packet. -/
def acceptPacket (value parsed : Fields) (invitation : VerifiedOfflineInvitation) :
    Tried Fields := do
  let recipient ← invitation.recipient
  let session ← object (recipient.get "session")
  let accessToken ← asString (session.get "access_token")
  let value := Bootstrap.setField value "accepted_packet" (.map parsed)
  let value := Bootstrap.setField value "accepted_account_id" (recipient.get "account_id")
  return Bootstrap.setField value "accepted_session_digest"
    (.string (r.digest (utf8Encode accessToken)))

/-- What `importPacket` writes, from the record that it has read. -/
def importPacket (packet : Text) (value : Fields) (answers : ImportAnswers) :
    Tried (Fields × VerifiedOfflineInvitation) := do
  let parsed ← parsePacket packet
  let invitation ← r.verify parsed value answers.now
  if !answers.current then fail "superseded"
  checkAccepted value parsed
  if !answers.committing then .error .other
  if !answers.currentThen then fail "superseded"
  let value ← r.acceptPacket value parsed invitation
  let _ ← canonicalJson (.map value)
  return (value, invitation)

/-- `open`, from the record that it reads. -/
def openRecord (value : Fields) (accountId accessToken : Option Text) (now : Int) :
    Tried (Option VerifiedOfflineInvitation) :=
  if (value.get "accepted_packet").isNull ∨ isTrue (value.get "cancelled") then .ok none
  else if (accountId.any fun id => !isText (value.get "accepted_account_id") id) ∨
      (accessToken.any fun s =>
        !isText (value.get "accepted_session_digest") (r.digest (utf8Encode s))) then .ok none
  else
    match (object (value.get "accepted_packet")).bind fun packet => r.verify packet value now with
    | .ok invitation => .ok (some invitation)
    | .error thrown => if thrown = .failure "expired" then .ok none else .error thrown

/-- What `cancel` writes. -/
def cancelRecord (value : Fields) : Tried Fields := do
  let value := Bootstrap.setField value "cancelled" (.bool true)
  let _ ← canonicalJson (.map value)
  return value

end OfflineInvitationReceiver

/-! ## Runs -/

/-- An operation between its read and its write. -/
inductive Pending
  | creating (record : Fields)
  | importing (packet : Text) (value : Fields)
  | cancelling (value : Fields)

/-- What was written, and what `open` returned. No program reads it. -/
inductive InvitationNote
  /-- A request was written, and `createRequest` returned it or was superseded then. -/
  | created (record : Fields) (returned : Bool)
  /-- A packet was verified against a record and written. -/
  | committed (packet : Text) (record : Fields) (invitation : VerifiedOfflineInvitation)
      (returned : Bool)
  /-- A `cancel` has completed. -/
  | cancelled
  /-- `open` has read a record, or found none, and has ended. -/
  | opened (value : Option Fields) (result : Tried (Option VerifiedOfflineInvitation))

structure InvitationState where
  store : Option Fields := none
  /-- The operations by the order in which they have read. One that has ended is gone. -/
  pending : List (Option Pending) := []
  history : List InvitationNote := []

inductive InvitationStep
  /-- `createRequest` up to its write. -/
  | createRequest (arguments : RequestArguments)
  /-- Its write, with `operationIsCurrent` before and after it. -/
  | storeRequest (i : Nat) (current currentAfter : Bool)
  /-- The read of `importPacket`. -/
  | readPacket (packet : Text)
  /-- The rest of `importPacket`. -/
  | commitPacket (i : Nat) (answers : ImportAnswers)
  | openRecord (accountId accessToken : Option Text) (now : Int)
  /-- The read of `cancel`. -/
  | cancel
  /-- The write of `cancel`. -/
  | storeCancelled (i : Nat)

namespace InvitationState

/-- An operation has read. -/
def began (s : InvitationState) (operation : Pending) : InvitationState :=
  { s with pending := s.pending ++ [some operation] }

def ended (s : InvitationState) (i : Nat) : InvitationState :=
  { s with pending := s.pending.set i none }

def noted (s : InvitationState) (note : InvitationNote) : InvitationState :=
  { s with history := s.history ++ [note] }

/-- An operation has written, and has ended. -/
def wrote (s : InvitationState) (i : Nat) (value : Fields) (note : InvitationNote) :
    InvitationState :=
  { s.ended i with store := some value, history := s.history ++ [note] }

/-- The operation that is pending at a place. -/
def pendingAt (s : InvitationState) (i : Nat) : Option Pending := (s.pending[i]?).join

variable (r : OfflineInvitationReceiver) (s : InvitationState)

def createRequest (arguments : RequestArguments) : InvitationState :=
  match r.requestRecord arguments with
  | .error _ => s
  | .ok record => s.began (.creating record)

def storeRequest (i : Nat) (current currentAfter : Bool) : InvitationState :=
  match s.pendingAt i with
  | some (.creating record) =>
    if !current then s.ended i
    else match canonicalJson (.map record) with
      | .error _ => s.ended i
      | .ok _ => s.wrote i record (.created record currentAfter)
  | _ => s

def readPacket (packet : Text) : InvitationState :=
  if 1024 * 1024 < packet.length then s
  else match s.store with
    | none => s
    | some value => s.began (.importing packet value)

def commitPacket (i : Nat) (answers : ImportAnswers) : InvitationState :=
  match s.pendingAt i with
  | some (.importing packet value) =>
    match r.importPacket packet value answers with
    | .error _ => s.ended i
    | .ok (written, invitation) =>
      s.wrote i written (.committed packet value invitation answers.currentAfter)
  | _ => s

def openNow (accountId accessToken : Option Text) (now : Int) : InvitationState :=
  s.noted (.opened s.store (match s.store with
    | none => .ok none
    | some value => r.openRecord value accountId accessToken now))

def cancel : InvitationState :=
  match s.store with
  | none => s.noted .cancelled
  | some value => s.began (.cancelling value)

def storeCancelled (i : Nat) : InvitationState :=
  match s.pendingAt i with
  | some (.cancelling value) =>
    match OfflineInvitationReceiver.cancelRecord value with
    | .error _ => s.ended i
    | .ok written => s.wrote i written .cancelled
  | _ => s

def after : InvitationStep → InvitationState
  | .createRequest arguments => s.createRequest r arguments
  | .storeRequest i current currentAfter => s.storeRequest i current currentAfter
  | .readPacket packet => s.readPacket packet
  | .commitPacket i answers => s.commitPacket r i answers
  | .openRecord accountId accessToken now => s.openNow r accountId accessToken now
  | .cancel => s.cancel
  | .storeCancelled i => s.storeCancelled i

end InvitationState

end Pokrov.AppShell.Invitations
