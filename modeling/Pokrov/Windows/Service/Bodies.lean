import Pokrov.Lib.Codec

/-!
# Request bodies of the Windows service

The body codecs of `service_protocol.cpp` and the grammars that a request body
is checked against. Texts are lists of bytes. Two families of codecs guard
themselves in opposite ways: the first three decoders accept a body only when
the fields read from it are encoded back to the same body, and the lease
encoders keep a body only when the decoder accepts it.
-/

namespace Pokrov.Windows.Service

open Codec

def maxControlBodySize : Nat := 512

def maxProfileBodySize : Nat := 256 * 1024

/-! ## Shared predicates -/

def isPrintable (character : UInt8) : Bool := 0x20 ≤ character && character ≤ 0x7E

def isBoundedAsciiControl (value : List UInt8) (limit : Nat) : Bool :=
  value.length ≤ limit && value.all isPrintable

def isProfileDigest (value : List UInt8) : Bool :=
  value.length = 64 && value.all isLowerHex

/-- A reference of 40 characters: a fixed word and 32 hexadecimal digits. -/
def isHexReference (start : List UInt8) (value : List UInt8) : Bool :=
  value.length = 40 && value.take 8 = start && (value.drop 8).all isLowerHex

def isTransportNetworkContextRef (value : List UInt8) : Bool :=
  isHexReference (text "network_") value

def isBootRef (value : List UInt8) : Bool := isHexReference (text "windows:") value

def isCandidateProbeId (value : List UInt8) : Bool :=
  value ≠ [] && value.length ≤ 128 && value.all fun c =>
    isUpper c || isLower c || isDigit c || c = '_'.toUInt8 || c = '-'.toUInt8

def newline : UInt8 := 10

def bar : UInt8 := '|'.toUInt8

def colon : UInt8 := ':'.toUInt8

/-! ## Identifiers -/

/-- `std::array<std::uint8_t, 16>`. -/
structure Identifier where
  bytes : List UInt8
  size : bytes.length = 16
deriving DecidableEq

def isZeroIdentifier (value : Identifier) : Bool := value.bytes.all (· = 0)

/-- The sixteen bytes that 32 hexadecimal digits write. -/
def Identifier.ofHex (s : List UInt8) (h : s.length = 32) : Identifier where
  bytes := hexDecode s
  size := by rw [length_hexDecode, h]

/-! ## Network observations -/

structure NetworkObservationRequest where
  host : List UInt8
  sessionToken : List UInt8
  appVersion : List UInt8
  profileRevision : List UInt8
  runtimePhase : List UInt8
  reportRunId : List UInt8

/-- The lambda `safe` of `EncodeNetworkObservation`. -/
def safe (value : List UInt8) (limit : Nat) (extra : String) : Bool :=
  value.length ≤ limit && value.all fun c =>
    isLower c || isUpper c || isDigit c || (c ≠ 0 && (text extra).contains c)

/-- The checks on `report_run_id`: a lower-case version 4 UUID. -/
def isReportRunId (id : List UInt8) : Bool :=
  id.length = 36 && id[8]? = some '-'.toUInt8 && id[13]? = some '-'.toUInt8 &&
    id[18]? = some '-'.toUInt8 && id[23]? = some '-'.toUInt8 && id[14]? = some '4'.toUInt8 &&
    (id[19]?.any fun c => (text "89ab").contains c) &&
    (List.range 36).all fun i =>
      i = 8 || i = 13 || i = 18 || i = 23 || id[i]?.any isLowerHex

def encodeNetworkObservation (request : NetworkObservationRequest) : List UInt8 :=
  if (request.host ≠ text "api.pokrov.space" ∧ request.host ≠ text "app.pokrov.space") ∨
      request.sessionToken = [] ∨ ¬ safe request.sessionToken 8192 ".-_" ∨
      request.appVersion = [] ∨ ¬ safe request.appVersion 32 ".+-" ∨
      ¬ safe request.profileRevision 128 " .()+'-_" ∨
      ¬ safe request.runtimePhase 32 "-_" ∨ ¬ isReportRunId request.reportRunId then []
  else [newline].intercalate [request.host, request.sessionToken, request.appVersion,
    request.profileRevision, request.runtimePhase, request.reportRunId]

def decodeNetworkObservation (body : List UInt8) : Option NetworkObservationRequest :=
  if body.length > 8704 then none
  else
    match cuts newline 5 body with
    | some ([host, sessionToken, appVersion, profileRevision, runtimePhase], reportRunId) =>
      let request := { host, sessionToken, appVersion, profileRevision, runtimePhase, reportRunId }
      if encodeNetworkObservation request ≠ body then none else some request
    | _ => none

/-! ## Candidate probes -/

structure CandidateProbeRequest where
  probeId : List UInt8
  timeoutMs : UInt32
  networkContextRef : List UInt8
  config : List UInt8

def encodeCandidateProbe (request : CandidateProbeRequest) : List UInt8 :=
  if ¬ isCandidateProbeId request.probeId ∨ request.timeoutMs < 1 ∨ request.timeoutMs > 30000 ∨
      ¬ isTransportNetworkContextRef request.networkContextRef ∨ request.config = [] ∨
      request.config.contains 0 ∨ request.config.length > maxProfileBodySize - 256 then []
  else [newline].intercalate [request.probeId, toDecimal request.timeoutMs.toNat,
    request.networkContextRef, request.config]

def decodeCandidateProbe (body : List UInt8) : Option CandidateProbeRequest :=
  if body.length > maxProfileBodySize then none
  else
    match cuts newline 3 body with
    | some ([probeId, timeout, networkContextRef], config) =>
      match parseDecimal 32 timeout with
      | none => none
      | some timeoutMs =>
        let request := { probeId, timeoutMs := UInt32.ofNat timeoutMs, networkContextRef, config }
        if encodeCandidateProbe request ≠ body then none else some request
    | _ => none

/-! ## Bound connects -/

structure BoundConnectTarget where
  coreModuleSha256 : List UInt8
  profileDigest : List UInt8
  bootRef : List UInt8
  startedElapsedMs : UInt64
  deadlineElapsedMs : UInt64
  networkContextRef : List UInt8
deriving DecidableEq

def encodeBoundConnect (target : BoundConnectTarget) : List UInt8 :=
  if ¬ isProfileDigest target.coreModuleSha256 ∨ ¬ isProfileDigest target.profileDigest ∨
      ¬ isBootRef target.bootRef ∨ ¬ isTransportNetworkContextRef target.networkContextRef ∨
      target.deadlineElapsedMs > 9007199254740991 ∨
      target.deadlineElapsedMs ≤ target.startedElapsedMs ∨
      target.deadlineElapsedMs - target.startedElapsedMs > 86400000 then []
  else [bar].intercalate [target.coreModuleSha256, target.profileDigest, target.bootRef,
    toDecimal target.startedElapsedMs.toNat, toDecimal target.deadlineElapsedMs.toNat,
    target.networkContextRef]

def decodeBoundConnect (body : List UInt8) : Option BoundConnectTarget :=
  if ¬ isBoundedAsciiControl body maxControlBodySize then none
  else
    match cuts bar 5 body with
    | some ([coreModuleSha256, profileDigest, bootRef, started, deadline], networkContextRef) =>
      -- the sixth field takes the rest only when no separator is left in it
      if networkContextRef.contains bar then none
      else
        match parseDecimal 64 started, parseDecimal 64 deadline with
        | some started, some deadline =>
          let target := { coreModuleSha256, profileDigest, bootRef,
                          startedElapsedMs := UInt64.ofNat started,
                          deadlineElapsedMs := UInt64.ofNat deadline, networkContextRef }
          if encodeBoundConnect target ≠ body then none else some target
        | _, _ => none
    | _ => none

/-! ## Cancellation targets -/

structure CancellationTarget where
  sessionToken : Identifier
  operationNonce : Identifier
deriving DecidableEq

def encodeCancellationTarget (target : CancellationTarget) : List UInt8 :=
  if isZeroIdentifier target.sessionToken ∨ isZeroIdentifier target.operationNonce then []
  else hexEncode target.sessionToken.bytes ++ hexEncode target.operationNonce.bytes

theorem isProfileDigest_iff {value : List UInt8} :
    isProfileDigest value = true ↔ value.length = 64 ∧ value.all isLowerHex = true := by
  rw [isProfileDigest, Bool.and_eq_true, decide_eq_true_eq]

def decodeCancellationTarget (body : List UInt8) : Option CancellationTarget :=
  if h : isProfileDigest body = true then
    have hlen := (isProfileDigest_iff.mp h).1
    let result : CancellationTarget :=
      { sessionToken := .ofHex (body.take 32) (by rw [List.length_take, hlen]; rfl)
        operationNonce := .ofHex (body.drop 32) (by rw [List.length_drop, hlen]) }
    if isZeroIdentifier result.sessionToken ∨ isZeroIdentifier result.operationNonce then none
    else some result
  else none

/-! ## Leases -/

/-- The checks on a time at a fixed offset, `2026-01-02T03:04:05Z`. -/
def isTimestampAt (body : List UInt8) (start : Nat) : Bool :=
  (List.range 20).all fun offset =>
    body[start + offset]?.any fun value =>
      if offset = 4 ∨ offset = 7 then value = '-'.toUInt8
      else if offset = 10 then value = 'T'.toUInt8
      else if offset = 13 ∨ offset = 16 then value = ':'.toUInt8
      else if offset = 19 then value = 'Z'.toUInt8
      else isDigit value

structure TransportLeasePromotion where
  target : CancellationTarget
  profileDigest : List UInt8
  endpointLeaseRef : List UInt8
  issuedAt : List UInt8
  newFlowsUntil : List UInt8
  activeFlowsUntil : List UInt8
deriving DecidableEq

def decodeTransportLeasePromotion (body : List UInt8) : Option TransportLeasePromotion :=
  if body.length ≠ 231 ∨ body[64]? ≠ some bar ∨ body[129]? ≠ some bar ∨ body[168]? ≠ some bar ∨
      body[189]? ≠ some bar ∨ body[210]? ≠ some bar ∨
      ¬ isProfileDigest (substr 65 64 body) ∨ substr 130 6 body ≠ text "lease_" ∨
      ¬ (substr 136 32 body).all isLowerHex ∨
      ¬ isTimestampAt body 169 ∨ ¬ isTimestampAt body 190 ∨ ¬ isTimestampAt body 211 then none
  else
    (decodeCancellationTarget (substr 0 64 body)).map fun target =>
      { target
        profileDigest := substr 65 64 body
        endpointLeaseRef := substr 130 38 body
        issuedAt := substr 169 20 body
        newFlowsUntil := substr 190 20 body
        activeFlowsUntil := substr 211 20 body }

def TransportLeasePromotion.fields (target : TransportLeasePromotion) : List (List UInt8) :=
  [encodeCancellationTarget target.target, target.profileDigest,
    target.endpointLeaseRef, target.issuedAt, target.newFlowsUntil, target.activeFlowsUntil]

def encodeTransportLeasePromotion (target : TransportLeasePromotion) : List UInt8 :=
  let body := [bar].intercalate target.fields
  if (decodeTransportLeasePromotion body).isSome then body else []

structure TransportLeaseRevocation where
  target : CancellationTarget
  profileDigest : List UInt8
  endpointLeaseRef : List UInt8
  terminateActive : Bool
deriving DecidableEq

/-- How the revocations write `terminate_active`. -/
def flag (value : Bool) : List UInt8 := if value then text "1" else text "0"

def isFlagAt (body : List UInt8) (pos : Nat) : Bool :=
  body[pos]? = some '0'.toUInt8 || body[pos]? = some '1'.toUInt8

def decodeTransportLeaseRevocation (body : List UInt8) : Option TransportLeaseRevocation :=
  if body.length ≠ 170 ∨ body[64]? ≠ some bar ∨ body[129]? ≠ some bar ∨ body[168]? ≠ some bar ∨
      ¬ isFlagAt body 169 ∨ ¬ isProfileDigest (substr 65 64 body) ∨
      substr 130 6 body ≠ text "lease_" ∨ ¬ (substr 136 32 body).all isLowerHex then none
  else
    (decodeCancellationTarget (substr 0 64 body)).map fun target =>
      { target
        profileDigest := substr 65 64 body
        endpointLeaseRef := substr 130 38 body
        terminateActive := body[169]? = some '1'.toUInt8 }

def TransportLeaseRevocation.fields (target : TransportLeaseRevocation) : List (List UInt8) :=
  [encodeCancellationTarget target.target, target.profileDigest,
    target.endpointLeaseRef, flag target.terminateActive]

def encodeTransportLeaseRevocation (target : TransportLeaseRevocation) : List UInt8 :=
  let body := [bar].intercalate target.fields
  if (decodeTransportLeaseRevocation body).isSome then body else []

structure SmartAccessRevocationTarget where
  profileDigest : List UInt8
  leaseId : List UInt8
  terminateActive : Bool

def decodeSmartAccessRevocation (body : List UInt8) : Option SmartAccessRevocationTarget :=
  if body.length ≠ 99 ∨ body[64]? ≠ some colon ∨ body[97]? ≠ some colon ∨ ¬ isFlagAt body 98 ∨
      ¬ isProfileDigest (substr 0 64 body) ∨ ¬ (substr 65 32 body).all isLowerHex then none
  else some { profileDigest := substr 0 64 body
              leaseId := substr 65 32 body
              terminateActive := body[98]? = some '1'.toUInt8 }

def SmartAccessRevocationTarget.fields (target : SmartAccessRevocationTarget) : List (List UInt8) :=
  [target.profileDigest, target.leaseId, flag target.terminateActive]

def encodeSmartAccessRevocation (target : SmartAccessRevocationTarget) : List UInt8 :=
  let body := [colon].intercalate target.fields
  if (decodeSmartAccessRevocation body).isSome then body else []

structure SmartAccessRenewalTarget where
  profileDigest : List UInt8
  expectedLeaseId : List UInt8
  nextLeaseId : List UInt8
  issuedAt : List UInt8
  newFlowsUntil : List UInt8
  activeFlowsUntil : List UInt8
deriving DecidableEq

def decodeSmartAccessRenewal (body : List UInt8) : Option SmartAccessRenewalTarget :=
  if body.length ≠ 193 ∨ body[64]? ≠ some bar ∨ body[97]? ≠ some bar ∨ body[130]? ≠ some bar ∨
      body[151]? ≠ some bar ∨ body[172]? ≠ some bar ∨ ¬ isProfileDigest (substr 0 64 body) ∨
      ¬ (substr 65 32 body).all isLowerHex ∨ ¬ (substr 98 32 body).all isLowerHex ∨
      ¬ isTimestampAt body 131 ∨ ¬ isTimestampAt body 152 ∨ ¬ isTimestampAt body 173 then none
  else some { profileDigest := substr 0 64 body
              expectedLeaseId := substr 65 32 body
              nextLeaseId := substr 98 32 body
              issuedAt := substr 131 20 body
              newFlowsUntil := substr 152 20 body
              activeFlowsUntil := substr 173 20 body }

def SmartAccessRenewalTarget.fields (target : SmartAccessRenewalTarget) : List (List UInt8) :=
  [target.profileDigest, target.expectedLeaseId, target.nextLeaseId,
    target.issuedAt, target.newFlowsUntil, target.activeFlowsUntil]

def encodeSmartAccessRenewal (target : SmartAccessRenewalTarget) : List UInt8 :=
  let body := [bar].intercalate target.fields
  if (decodeSmartAccessRenewal body).isSome then body else []

/-! ## Bodies that are only checked -/

def isBoundedProfile (value : List UInt8) : Bool :=
  value.length ≥ 4 && value.length ≤ maxProfileBodySize &&
    (value[0]? = some '0'.toUInt8 || value[0]? = some '1'.toUInt8) &&
    value[1]? = some newline && !value.contains 0

def isSmartAccessPolicyRevocation (body : List UInt8) : Bool :=
  body.length = 66 && body[64]? = some colon && isFlagAt body 65 &&
    isProfileDigest (substr 0 64 body)

def isRoutingCatalogServiceRevocation (body : List UInt8) : Bool :=
  let alphanumeric := fun value => isLower value || isDigit value
  body.length ≥ 66 && body.length ≤ 129 && body[64]? = some colon &&
    isProfileDigest (substr 0 64 body) && body[65]?.any alphanumeric &&
    (body.drop 65).all fun value =>
      alphanumeric value || value = '.'.toUInt8 || value = '_'.toUInt8 || value = '-'.toUInt8

def isSmartAccessRuntimeControl (body : List UInt8) : Bool :=
  body.length > 65 && body.length ≤ 65 + 16384 && body[64]? = some bar &&
    isProfileDigest (substr 0 64 body) && !body.contains 0

def isBoundSmartAccessRuntimeControl (body : List UInt8) : Bool :=
  body.length > 65 && body[64]? = some bar &&
    (decodeCancellationTarget (substr 0 64 body)).isSome &&
    isSmartAccessRuntimeControl (body.drop 65)

end Pokrov.Windows.Service
