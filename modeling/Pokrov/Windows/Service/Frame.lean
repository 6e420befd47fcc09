import Pokrov.Windows.Service.Bodies

/-!
# Frames of the Windows service

The frame codec of `service_protocol.cpp`: an 80-byte header with ten
little-endian fields at fixed offsets, and a body whose grammar and size limit
depend on the kind and the command. `Encode` writes only valid frames, and
`Decode` checks validity on what it read, so that the two agree exactly on the
valid frames.
-/

namespace Pokrov.Windows.Service

open Codec

def frameMagic : UInt32 := 0x49534B50

def protocolVersion : UInt16 := 1

def frameHeaderSize : Nat := 80

def maxCandidateProbeResultBodySize : Nat := 2048

def maxRuntimeSnapshotBodySize : Nat := 8192

def maxRestrictionSnapshotBodySize : Nat := 1024 * 1024

def maxSmartAccessLeasesBodySize : Nat := 65536

def maxBodySize : Nat := maxRestrictionSnapshotBodySize

def maxFrameSize : Nat := frameHeaderSize + maxBodySize

/-! ## Kinds, commands and statuses

The source's enumerations have the underlying type `std::uint16_t`, and `Decode`
casts what it reads to them before it is checked. A value is therefore any
sixteen-bit number, and the enumerators name some of them. -/

structure FrameKind where
  raw : UInt16
deriving DecidableEq

namespace FrameKind

def helloRequest : FrameKind := ⟨1⟩
def request : FrameKind := ⟨2⟩
def response : FrameKind := ⟨3⟩

end FrameKind

structure Command where
  raw : UInt16
deriving DecidableEq

namespace Command

def hello : Command := ⟨0⟩
def status : Command := ⟨1⟩
def connect : Command := ⟨2⟩
def disconnect : Command := ⟨3⟩
def cancel : Command := ⟨4⟩
def recover : Command := ⟨5⟩
def diagnosticState : Command := ⟨6⟩
def initializeCommand : Command := ⟨7⟩
def stageProfile : Command := ⟨8⟩
def invalidateProfile : Command := ⟨9⟩
def revokeSmartAccessLease : Command := ⟨10⟩
def revokeRoutingCatalog : Command := ⟨11⟩
def revokeSmartAccessPolicy : Command := ⟨12⟩
def revokeRoutingCatalogService : Command := ⟨13⟩
def renewSmartAccessLease : Command := ⟨14⟩
def configureSmartAccessRuntimeControl : Command := ⟨15⟩
def readSmartAccessRestrictions : Command := ⟨16⟩
def acknowledgeSmartAccessRestrictions : Command := ⟨17⟩
def readSmartAccessLeases : Command := ⟨18⟩
def configureSmartAccessRenewal : Command := ⟨19⟩
def readBootClock : Command := ⟨20⟩
def connectWithIdentity : Command := ⟨21⟩
def cancelConnectAndConfirm : Command := ⟨22⟩
def configureBoundSmartAccessRuntimeControl : Command := ⟨23⟩
def readTransportNetworkContext : Command := ⟨24⟩
def stageBoundProfile : Command := ⟨25⟩
def promoteTransportLease : Command := ⟨26⟩
def revokeTransportLease : Command := ⟨27⟩
def readCandidateNetwork : Command := ⟨28⟩
def probeCandidate : Command := ⟨29⟩
def cancelCandidateProbe : Command := ⟨30⟩
def replaceManagedProfile : Command := ⟨31⟩
def observeNetworkContext : Command := ⟨32⟩

end Command

structure Status where
  raw : UInt16
deriving DecidableEq

namespace Status

def none : Status := ⟨0⟩
def ok : Status := ⟨1⟩
def invalid : Status := ⟨2⟩
def unauthorized : Status := ⟨3⟩
def unsupported : Status := ⟨4⟩
def notReady : Status := ⟨5⟩
def replay : Status := ⟨6⟩
def deadlineExceeded : Status := ⟨7⟩

end Status

def isKnownCommand (command : Command) : Bool :=
  [.hello, .status, .connect, .connectWithIdentity, .disconnect, .cancel, .cancelConnectAndConfirm,
    .recover, .diagnosticState, .initializeCommand, .stageProfile, .stageBoundProfile, .invalidateProfile,
    .revokeSmartAccessLease, .revokeRoutingCatalog, .revokeSmartAccessPolicy,
    .revokeRoutingCatalogService, .renewSmartAccessLease, .configureSmartAccessRuntimeControl,
    .configureBoundSmartAccessRuntimeControl, .configureSmartAccessRenewal,
    .readSmartAccessRestrictions, .acknowledgeSmartAccessRestrictions, .readSmartAccessLeases,
    .readBootClock, .readTransportNetworkContext, .promoteTransportLease, .revokeTransportLease,
    .readCandidateNetwork, .probeCandidate, .cancelCandidateProbe, .replaceManagedProfile,
    .observeNetworkContext].contains command

def isKnownStatus (status : Status) : Bool :=
  [.none, .ok, .invalid, .unauthorized, .unsupported, .notReady, .replay,
    .deadlineExceeded].contains status

structure Frame where
  kind : FrameKind
  command : Command
  status : Status
  correlationId : Identifier
  sessionToken : Identifier
  operationNonce : Identifier
  deadlineUnixMs : UInt64
  capabilities : UInt64
  body : List UInt8
deriving DecidableEq

/-! ## Validity -/

/-- The grammar that a request's body has to meet. -/
def isValidRequestBody (command : Command) (body : List UInt8) : Bool :=
  if command = .configureBoundSmartAccessRuntimeControl then isBoundSmartAccessRuntimeControl body
  else if command = .observeNetworkContext then (decodeNetworkObservation body).isSome
  else if command = .probeCandidate then (decodeCandidateProbe body).isSome
  else if command = .cancelCandidateProbe then (decodeCancellationTarget body).isSome
  else if command = .promoteTransportLease then (decodeTransportLeasePromotion body).isSome
  else if command = .revokeTransportLease then (decodeTransportLeaseRevocation body).isSome
  else if command = .connectWithIdentity then (decodeBoundConnect body).isSome
  else if command = .stageProfile ∨ command = .stageBoundProfile ∨
      command = .replaceManagedProfile then isBoundedProfile body
  else if command = .connect ∨ command = .revokeRoutingCatalog ∨
      command = .acknowledgeSmartAccessRestrictions ∨ command = .readSmartAccessLeases then
    isProfileDigest body
  else if command = .cancel ∨ command = .cancelConnectAndConfirm then
    (decodeCancellationTarget body).isSome
  else if command = .revokeSmartAccessLease then (decodeSmartAccessRevocation body).isSome
  else if command = .revokeSmartAccessPolicy then isSmartAccessPolicyRevocation body
  else if command = .revokeRoutingCatalogService then isRoutingCatalogServiceRevocation body
  else if command = .renewSmartAccessLease then (decodeSmartAccessRenewal body).isSome
  else if command = .configureSmartAccessRuntimeControl ∨
      command = .configureSmartAccessRenewal then isSmartAccessRuntimeControl body
  else body = []

/-- The size limit of a response's body. -/
def responseBodyLimit (command : Command) (body : List UInt8) : Nat :=
  if command = .probeCandidate then maxCandidateProbeResultBodySize
  else if command = .readSmartAccessLeases then maxSmartAccessLeasesBodySize
  else if command = .readSmartAccessRestrictions then maxRestrictionSnapshotBodySize
  else if (text "phase=").isPrefixOf body then maxRuntimeSnapshotBodySize
  else maxControlBodySize

def isValidFrame (frame : Frame) : Bool :=
  if ¬ isKnownCommand frame.command ∨ ¬ isKnownStatus frame.status ∨
      isZeroIdentifier frame.correlationId ∨ frame.body.length > maxBodySize then false
  else if frame.kind = .helloRequest then
    frame.command = .hello && frame.status = .none && isZeroIdentifier frame.sessionToken &&
      isZeroIdentifier frame.operationNonce && frame.deadlineUnixMs = 0 && frame.body = []
  else if frame.kind = .request then
    frame.command ≠ .hello && frame.status = .none && !isZeroIdentifier frame.sessionToken &&
      !isZeroIdentifier frame.operationNonce && frame.deadlineUnixMs ≠ 0 &&
      frame.capabilities = 0 && isValidRequestBody frame.command frame.body
  else if frame.kind = .response then
    if frame.status = .none ∨ isZeroIdentifier frame.sessionToken ∨
        ¬ isZeroIdentifier frame.operationNonce ∨ frame.deadlineUnixMs ≠ 0 then false
    else
      (frame.command = .hello || frame.capabilities = 0) &&
        isBoundedAsciiControl frame.body (responseBodyLimit frame.command frame.body)
  else false

def decodeKind (rawKind : UInt16) : Option FrameKind :=
  if rawKind = FrameKind.helloRequest.raw then some .helloRequest
  else if rawKind = FrameKind.request.raw then some .request
  else if rawKind = FrameKind.response.raw then some .response
  else none

/-! ## The codec -/

def appendUint16 (value : UInt16) : List UInt8 := toLE 2 value.toNat

def appendUint32 (value : UInt32) : List UInt8 := toLE 4 value.toNat

def appendUint64 (value : UInt64) : List UInt8 := toLE 8 value.toNat

def readUint16 (input : List UInt8) (pos : Nat) : UInt16 := UInt16.ofNat (ofLE (substr pos 2 input))

def readUint32 (input : List UInt8) (pos : Nat) : UInt32 := UInt32.ofNat (ofLE (substr pos 4 input))

def readUint64 (input : List UInt8) (pos : Nat) : UInt64 := UInt64.ofNat (ofLE (substr pos 8 input))

/-- `memcpy` of an identifier out of a frame. -/
def Identifier.at (input : List UInt8) (pos : Nat) (h : pos + 16 ≤ input.length) : Identifier where
  bytes := substr pos 16 input
  size := length_substr h

def expectedFrameSize (header : List UInt8) : Option Nat :=
  if header.length ≠ frameHeaderSize then none
  else
    let bodySize := (readUint32 header 12).toNat
    if readUint32 header 0 ≠ frameMagic ∨ readUint16 header 4 ≠ protocolVersion ∨
        bodySize > maxBodySize then none
    else some (frameHeaderSize + bodySize)

/-- The fields of a frame in the order they are written in. -/
def Frame.pieces (frame : Frame) : List (List UInt8) :=
  [appendUint32 frameMagic, appendUint16 protocolVersion, appendUint16 frame.kind.raw,
    appendUint16 frame.command.raw, appendUint16 frame.status.raw,
    appendUint32 (UInt32.ofNat frame.body.length), frame.correlationId.bytes,
    frame.sessionToken.bytes, frame.operationNonce.bytes, appendUint64 frame.deadlineUnixMs,
    appendUint64 frame.capabilities, frame.body]

def encode (frame : Frame) : List UInt8 :=
  if isValidFrame frame then frame.pieces.flatten else []

def decode (frame : List UInt8) : Option Frame :=
  if h : frame.length < frameHeaderSize ∨ frame.length > maxFrameSize then none
  else
    have hlen : 80 ≤ frame.length := Nat.not_lt.mp (not_or.mp h).1
    match decodeKind (readUint16 frame 6) with
    | none => none
    | some kind =>
      if expectedFrameSize (frame.take frameHeaderSize) ≠ some frame.length then none
      else
        let decoded : Frame :=
          { kind
            command := ⟨readUint16 frame 8⟩
            status := ⟨readUint16 frame 10⟩
            correlationId := .at frame 16 (by omega)
            sessionToken := .at frame 32 (by omega)
            operationNonce := .at frame 48 (by omega)
            deadlineUnixMs := readUint64 frame 64
            capabilities := readUint64 frame 72
            body := frame.drop frameHeaderSize }
        if isValidFrame decoded then some decoded else none

/-! ## Fields at their offsets -/

variable {input : List UInt8} {pos : Nat} {frame : Frame} {bytes : List UInt8}

theorem readUint16_append {value : UInt16} (h : substr pos 2 input = appendUint16 value) :
    readUint16 input pos = value := by
  rw [readUint16, h, appendUint16, ofLE_toLE value.toNat_lt, UInt16.ofNat_toNat]

theorem readUint32_append {value : UInt32} (h : substr pos 4 input = appendUint32 value) :
    readUint32 input pos = value := by
  rw [readUint32, h, appendUint32, ofLE_toLE value.toNat_lt, UInt32.ofNat_toNat]

theorem readUint64_append {value : UInt64} (h : substr pos 8 input = appendUint64 value) :
    readUint64 input pos = value := by
  rw [readUint64, h, appendUint64, ofLE_toLE value.toNat_lt, UInt64.ofNat_toNat]

theorem appendUint16_read (h : pos + 2 ≤ input.length) :
    appendUint16 (readUint16 input pos) = substr pos 2 input := by
  rw [appendUint16, readUint16, UInt16.toNat_ofNat_of_lt' (ofLE_substr_lt h), toLE_substr h]

theorem appendUint32_read (h : pos + 4 ≤ input.length) :
    appendUint32 (readUint32 input pos) = substr pos 4 input := by
  rw [appendUint32, readUint32, UInt32.toNat_ofNat_of_lt' (ofLE_substr_lt h), toLE_substr h]

theorem appendUint64_read (h : pos + 8 ≤ input.length) :
    appendUint64 (readUint64 input pos) = substr pos 8 input := by
  rw [appendUint64, readUint64, UInt64.toNat_ofNat_of_lt' (ofLE_substr_lt h), toLE_substr h]

@[simp] theorem length_appendUint16 (value : UInt16) : (appendUint16 value).length = 2 := rfl

@[simp] theorem length_appendUint32 (value : UInt32) : (appendUint32 value).length = 4 := rfl

@[simp] theorem length_appendUint64 (value : UInt64) : (appendUint64 value).length = 8 := rfl

attribute [simp] Identifier.size

theorem length_pieces (frame : Frame) :
    frame.pieces.flatten.length = frameHeaderSize + frame.body.length := by
  simp only [Frame.pieces, List.flatten_cons, List.flatten_nil, List.length_append,
    length_appendUint16, length_appendUint32, length_appendUint64, Identifier.size,
    List.length_nil, frameHeaderSize]
  omega

/-- Where the ten header fields of a written frame are found. -/
structure Laid (frame : Frame) (bytes : List UInt8) : Prop where
  magic : substr 0 4 bytes = appendUint32 frameMagic
  version : substr 4 2 bytes = appendUint16 protocolVersion
  kind : substr 6 2 bytes = appendUint16 frame.kind.raw
  command : substr 8 2 bytes = appendUint16 frame.command.raw
  status : substr 10 2 bytes = appendUint16 frame.status.raw
  bodySize : substr 12 4 bytes = appendUint32 (UInt32.ofNat frame.body.length)
  correlationId : substr 16 16 bytes = frame.correlationId.bytes
  sessionToken : substr 32 16 bytes = frame.sessionToken.bytes
  operationNonce : substr 48 16 bytes = frame.operationNonce.bytes
  deadlineUnixMs : substr 64 8 bytes = appendUint64 frame.deadlineUnixMs
  capabilities : substr 72 8 bytes = appendUint64 frame.capabilities
  body : bytes.drop 80 = frame.body

theorem laid_pieces (frame : Frame) : Laid frame frame.pieces.flatten where
  magic := substr_flatten [] rfl rfl
  version := substr_flatten (frame.pieces.take 1) rfl rfl
  kind := substr_flatten (frame.pieces.take 2) rfl rfl
  command := substr_flatten (frame.pieces.take 3) rfl rfl
  status := substr_flatten (frame.pieces.take 4) rfl rfl
  bodySize := substr_flatten (frame.pieces.take 5) rfl rfl
  correlationId := substr_flatten (frame.pieces.take 6) rfl (by simp)
  sessionToken := substr_flatten (frame.pieces.take 7) (by simp [Frame.pieces]) (by simp)
  operationNonce :=
    substr_flatten (frame.pieces.take 8) (by simp [Frame.pieces]) (by simp)
  deadlineUnixMs := substr_flatten (frame.pieces.take 9) (by simp [Frame.pieces]) rfl
  capabilities := substr_flatten (frame.pieces.take 10) (by simp [Frame.pieces]) rfl
  body := by
    have hsplit : frame.pieces.flatten = (frame.pieces.take 11).flatten ++ frame.body := by
      rw [← List.take_append_drop 11 frame.pieces, List.flatten_append]
      exact congrArg₂ _ (by simp [Frame.pieces]) (List.append_nil _)
    rw [hsplit]
    exact List.drop_left' (by simp [Frame.pieces])

/-- A text with the fields of a frame in their places is the frame's text. -/
theorem eq_pieces_of_laid (h : Laid frame bytes) : frame.pieces.flatten = bytes := by
  have hbytes : bytes = substr 0 4 bytes ++ (substr 4 2 bytes ++ (substr 6 2 bytes ++
      (substr 8 2 bytes ++ (substr 10 2 bytes ++ (substr 12 4 bytes ++ (substr 16 16 bytes ++
        (substr 32 16 bytes ++ (substr 48 16 bytes ++ (substr 64 8 bytes ++
          (substr 72 8 bytes ++ bytes.drop 80)))))))))) := by
    simp only [substr_append_drop bytes, List.drop_zero]
  rw [hbytes, h.magic, h.version, h.kind, h.command, h.status, h.bodySize, h.correlationId,
    h.sessionToken, h.operationNonce, h.deadlineUnixMs, h.capabilities, h.body]
  simp only [Frame.pieces, List.flatten_cons, List.flatten_nil, List.append_nil]

/-! ## Encoding and decoding are inverse -/

theorem decodeKind_eq_some {rawKind : UInt16} {kind : FrameKind}
    (h : decodeKind rawKind = some kind) : kind.raw = rawKind := by
  unfold decodeKind at h
  split_ifs at h with h1 h2 h3
  · cases h
    exact h1.symm
  · cases h
    exact h2.symm
  · cases h
    exact h3.symm

/-- What validity says about the header alone. -/
theorem header_of_isValidFrame (h : isValidFrame frame = true) :
    frame.body.length ≤ maxBodySize ∧ decodeKind frame.kind.raw = some frame.kind := by
  unfold isValidFrame at h
  split at h
  · exact absurd h (by decide)
  rename_i hok
  simp only [not_or, Nat.not_lt] at hok
  refine ⟨hok.2.2.2, ?_⟩
  split at h
  · rename_i hkind
    rw [hkind]
    rfl
  split at h
  · rename_i hkind
    rw [hkind]
    rfl
  split at h
  · rename_i hkind
    rw [hkind]
    rfl
  · exact absurd h (by decide)

theorem toNat_bodySize {n : Nat} (h : n ≤ maxBodySize) : (UInt32.ofNat n).toNat = n :=
  UInt32.toNat_ofNat_of_lt' (lt_of_le_of_lt h (by decide))

theorem expectedFrameSize_of_laid (h : Laid frame bytes)
    (hlen : bytes.length = frameHeaderSize + frame.body.length)
    (hsize : frame.body.length ≤ maxBodySize) :
    expectedFrameSize (bytes.take frameHeaderSize) = some bytes.length := by
  have hheader : (bytes.take frameHeaderSize).length = frameHeaderSize := by
    rw [List.length_take]
    omega
  have hbody : (readUint32 (bytes.take frameHeaderSize) 12).toNat = frame.body.length := by
    rw [readUint32_append ((substr_take (by decide)).trans h.bodySize), toNat_bodySize hsize]
  rw [expectedFrameSize, if_neg (not_not.mpr hheader)]
  dsimp only
  rw [hbody, readUint32_append ((substr_take (by decide)).trans h.magic),
    readUint16_append ((substr_take (by decide)).trans h.version), hlen]
  exact if_neg (by simpa using hsize)

theorem Identifier.at_eq {h : pos + 16 ≤ input.length} {value : Identifier}
    (heq : substr pos 16 input = value.bytes) : Identifier.at input pos h = value := by
  cases value
  exact (Identifier.mk.injEq ..).mpr heq

theorem decode_of_laid (h : Laid frame bytes)
    (hlen : bytes.length = frameHeaderSize + frame.body.length) (hvalid : isValidFrame frame = true) :
    decode bytes = some frame := by
  obtain ⟨hsize, hkind⟩ := header_of_isValidFrame hvalid
  have hrange : ¬ (bytes.length < frameHeaderSize ∨ bytes.length > maxFrameSize) := by
    rw [hlen, maxFrameSize]
    omega
  unfold decode
  rw [dif_neg hrange]
  simp only [readUint16_append h.kind, hkind, expectedFrameSize_of_laid h hlen hsize,
    readUint16_append h.command, readUint16_append h.status, Identifier.at_eq h.correlationId,
    Identifier.at_eq h.sessionToken, Identifier.at_eq h.operationNonce,
    readUint64_append h.deadlineUnixMs, readUint64_append h.capabilities,
    show bytes.drop frameHeaderSize = frame.body from h.body]
  rw [if_neg (not_not.mpr rfl), if_pos hvalid]

/-- A frame is decoded only from a text that is valid and has its fields. -/
theorem laid_of_decode (h : decode bytes = some frame) :
    Laid frame bytes ∧ isValidFrame frame = true := by
  unfold decode at h
  split at h
  · exact absurd h (by simp)
  rename_i hrange
  have hlen : 80 ≤ bytes.length := Nat.not_lt.mp (not_or.mp hrange).1
  dsimp only at h
  split at h
  · exact absurd h (by simp)
  rename_i kind hkind
  split at h
  · exact absurd h (by simp)
  rename_i hsize
  split at h
  · rename_i hvalid
    cases h
    refine ⟨?_, hvalid⟩
    have hheader : (bytes.take frameHeaderSize).length = frameHeaderSize := by
      rw [List.length_take]
      exact Nat.min_eq_left hlen
    rw [not_not, expectedFrameSize, if_neg (not_not.mpr hheader)] at hsize
    dsimp only at hsize
    split at hsize
    · exact absurd hsize (by simp)
    rename_i hok
    simp only [not_or, not_not] at hok
    obtain ⟨hmagic, hversion, -⟩ := hok
    have hbody : UInt32.ofNat (bytes.drop frameHeaderSize).length = readUint32 bytes 12 := by
      have htake : readUint32 (bytes.take frameHeaderSize) 12 = readUint32 bytes 12 :=
        congrArg (fun s => UInt32.ofNat (ofLE s)) (substr_take (by decide))
      have hdrop : (bytes.drop frameHeaderSize).length = (readUint32 bytes 12).toNat := by
        rw [List.length_drop, ← Option.some.inj hsize, htake]
        omega
      rw [hdrop, UInt32.ofNat_toNat]
    have h0 : substr 0 4 bytes = appendUint32 frameMagic := by
      rw [← hmagic, appendUint32_read (by rw [hheader]; decide), substr_take (by decide)]
    have h4 : substr 4 2 bytes = appendUint16 protocolVersion := by
      rw [← hversion, appendUint16_read (by rw [hheader]; decide), substr_take (by decide)]
    have h6 : substr 6 2 bytes = appendUint16 kind.raw := by
      rw [decodeKind_eq_some hkind, appendUint16_read (by omega)]
    exact
      { magic := h0
        version := h4
        kind := h6
        command := (appendUint16_read (by omega)).symm
        status := (appendUint16_read (by omega)).symm
        bodySize := by rw [hbody, appendUint32_read (by omega)]
        correlationId := rfl
        sessionToken := rfl
        operationNonce := rfl
        deadlineUnixMs := (appendUint64_read (by omega)).symm
        capabilities := (appendUint64_read (by omega)).symm
        body := rfl }
  · exact absurd h (by simp)

theorem frame_codec_bijective :
    (∀ frame, encode frame ≠ [] ↔ isValidFrame frame = true) ∧
      (∀ frame, isValidFrame frame = true → decode (encode frame) = some frame ∧
        expectedFrameSize ((encode frame).take frameHeaderSize) = some (encode frame).length) ∧
      ∀ bytes frame, decode bytes = some frame → encode frame = bytes := by
  refine ⟨?_, ?_, ?_⟩
  · intro frame
    by_cases hvalid : isValidFrame frame = true
    · rw [encode, if_pos hvalid]
      refine ⟨fun _ => hvalid, fun _ hnil => ?_⟩
      have := length_pieces frame
      rw [hnil, List.length_nil, frameHeaderSize] at this
      omega
    · rw [encode, if_neg hvalid]
      exact ⟨fun h => absurd rfl h, fun h => absurd h hvalid⟩
  · intro frame hvalid
    rw [encode, if_pos hvalid]
    exact ⟨decode_of_laid (laid_pieces frame) (length_pieces frame) hvalid,
      expectedFrameSize_of_laid (laid_pieces frame) (length_pieces frame)
        (header_of_isValidFrame hvalid).1⟩
  · intro bytes frame h
    obtain ⟨hlaid, hvalid⟩ := laid_of_decode h
    rw [encode, if_pos hvalid]
    exact eq_pieces_of_laid hlaid

/-- The first frame of a session. -/
def sampleHello : Frame where
  kind := .helloRequest
  command := .hello
  status := .none
  correlationId := ⟨List.replicate 16 7, rfl⟩
  sessionToken := ⟨List.replicate 16 0, rfl⟩
  operationNonce := ⟨List.replicate 16 0, rfl⟩
  deadlineUnixMs := 0
  capabilities := 3
  body := []

/-- The answer to a status request. -/
def sampleAnswer : Frame := { sampleHello with
  kind := .response
  command := .status
  status := .ok
  sessionToken := sampleHello.correlationId
  capabilities := 0
  body := text "phase=connected" }

theorem sampleAnswer_round_trip :
    decode (encode sampleAnswer) = some sampleAnswer ∧
      expectedFrameSize ((encode sampleAnswer).take frameHeaderSize) =
        some (encode sampleAnswer).length :=
  frame_codec_bijective.2.1 sampleAnswer (by decide)

end Pokrov.Windows.Service
