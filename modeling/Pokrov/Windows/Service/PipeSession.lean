import Pokrov.Lib.Runs
import Pokrov.Windows.Service.Frame

/-!
# A session of the pipe

`ReadFrame` and `ProcessClient` of `service_server.cpp`. The bytes of a frame arrive in any
number of transfers, and what a session serves is fenced by its token, by the deadline and
the nonce of a request, and by the capabilities that both sides have. What it writes back to an
old peer is trimmed further, which is left out.
-/

namespace Pokrov.Windows.Service

open Codec Runs

/-! ## Transfers -/

/-- `TransferExact` of a read, by the sizes of its transfers. One that gives nothing ends it. -/
def transferExact : List Nat → Nat → List UInt8 → Option (List UInt8 × List Nat × List UInt8)
  | sizes, 0, pipe => some ([], sizes, pipe)
  | [], _ + 1, _ => none
  | size :: sizes, left + 1, pipe =>
    if size = 0 ∨ left + 1 < size ∨ pipe.length < size then none
    else (transferExact sizes (left + 1 - size) (pipe.drop size)).map fun (read, rest) =>
      (pipe.take size ++ read, rest)

def readFrame (sizes : List Nat) (pipe : List UInt8) : Option (Frame × List Nat × List UInt8) := do
  let (header, sizes, pipe) ← transferExact sizes frameHeaderSize pipe
  let expected ← expectedFrameSize header
  let (body, rest) ← transferExact sizes (expected - frameHeaderSize) pipe
  (decode (header ++ body)).map fun frame => (frame, rest)

/-- So many frames, one after the other. -/
def readFrames : Nat → List Nat → List UInt8 → Option (List Frame × List Nat × List UInt8)
  | 0, sizes, pipe => some ([], sizes, pipe)
  | n + 1, sizes, pipe => do
      let (frame, sizes, pipe) ← readFrame sizes pipe
      (readFrames n sizes pipe).map fun (frames, rest) => (frame :: frames, rest)

theorem transferExact_eq_some {sizes sizes' : List Nat} {left : Nat} {pipe read pipe' : List UInt8}
    (h : transferExact sizes left pipe = some (read, sizes', pipe')) :
    read = pipe.take left ∧ pipe' = pipe.drop left := by
  fun_induction transferExact sizes left pipe generalizing read with
  | case1 => simp_all
  | case2 => cases h
  | case3 => cases h
  | case4 size sizes left pipe hsize ih =>
    obtain ⟨⟨read', rest⟩, hrest, heq⟩ := Option.map_eq_some_iff.mp h
    cases heq
    obtain ⟨rfl, rfl⟩ := ih hrest
    have hleft : size + (left + 1 - size) = left + 1 := by omega
    rw [← List.take_add, List.drop_drop, hleft]
    exact ⟨rfl, rfl⟩

/-- What is read of a written frame is the frame. -/
theorem readFrame_encode {frame frame' : Frame} {sizes sizes' : List Nat} {tail pipe : List UInt8}
    (hvalid : isValidFrame frame = true)
    (h : readFrame sizes (encode frame ++ tail) = some (frame', sizes', pipe)) :
    frame' = frame ∧ pipe = tail := by
  have hlaid := laid_pieces frame
  have hlength := length_pieces frame
  obtain ⟨hsize, -⟩ := header_of_isValidFrame hvalid
  have hheader := expectedFrameSize_of_laid hlaid hlength hsize
  rw [encode, if_pos hvalid] at h
  generalize frame.pieces.flatten = bytes at *
  simp only [readFrame, Option.bind_eq_bind, Option.bind_eq_some_iff] at h
  obtain ⟨⟨header, sizes1, pipe1⟩, hread, expected, hexpected, ⟨body, sizes2, pipe2⟩, hbody, h⟩ := h
  obtain ⟨rfl, rfl⟩ := transferExact_eq_some hread
  -- the size that the header tells ends the body where the next frame begins
  rw [List.take_append_of_le_length (by omega), hheader] at hexpected
  cases hexpected
  obtain ⟨rfl, hrest⟩ := transferExact_eq_some hbody
  obtain ⟨decoded, hdecoded, heq⟩ := Option.map_eq_some_iff.mp h
  have hsplit : (bytes ++ tail).take frameHeaderSize ++
      ((bytes ++ tail).drop frameHeaderSize).take (bytes.length - frameHeaderSize) = bytes := by
    rw [← List.take_add, Nat.add_sub_cancel' (by omega), List.take_left]
  rw [hsplit, decode_of_laid hlaid hlength hvalid] at hdecoded
  rw [List.drop_drop, Nat.add_sub_cancel' (by omega), List.drop_left] at hrest
  cases hdecoded
  cases heq
  exact ⟨rfl, hrest⟩

/-- However the bytes arrive, the frames that are read are those that were written. -/
theorem frames_read_as_written {frames read : List Frame} {n : Nat} {sizes sizes' : List Nat}
    {tail pipe : List UInt8} (hvalid : ∀ frame ∈ frames, isValidFrame frame = true)
    (hn : n ≤ frames.length)
    (h : readFrames n sizes (frames.flatMap encode ++ tail) = some (read, sizes', pipe)) :
    read = frames.take n ∧ pipe = (frames.drop n).flatMap encode ++ tail := by
  induction n generalizing frames read sizes with
  | zero =>
    cases h
    exact ⟨rfl, rfl⟩
  | succ n ih =>
    obtain _ | ⟨frame, frames⟩ := frames
    · cases hn
    rw [List.flatMap_cons, List.append_assoc] at h
    simp only [readFrames, Option.bind_eq_bind, Option.bind_eq_some_iff] at h
    obtain ⟨⟨first, sizes1, pipe1⟩, hfirst, h⟩ := h
    obtain ⟨⟨others, rest⟩, hothers, heq⟩ := Option.map_eq_some_iff.mp h
    obtain ⟨rfl, rfl⟩ := readFrame_encode (hvalid _ List.mem_cons_self) hfirst
    cases heq
    obtain ⟨rfl, hpipe⟩ := ih (fun f hf => hvalid f (List.mem_cons_of_mem _ hf))
      (Nat.le_of_succ_le_succ hn) hothers
    exact ⟨rfl, hpipe⟩

def sampleFrames : List Frame := [sampleHello, sampleAnswer, sampleHello]

/-- The third frame and what comes behind it stay unread. -/
theorem hello_read_in_parts : [sampleHello, sampleAnswer] = sampleFrames.take 2 ∧
    encode sampleHello ++ [0] = (sampleFrames.drop 2).flatMap encode ++ [0] :=
  frames_read_as_written (by decide +kernel) (by decide)
    (by decide +kernel : readFrames 2 [30, 50, 80, 7, 8] (sampleFrames.flatMap encode ++ [0]) =
      some ([sampleHello, sampleAnswer], [], encode sampleHello ++ [0]))

/-! ## Sessions -/

/-- A mask of some `kCapability` bits. -/
def capabilityBits (bits : List Nat) : UInt64 :=
  bits.foldl (fun mask bit => mask ||| 1 <<< UInt64.ofNat bit) 0

/-- `kServiceCapabilities`: all but `kCapabilityRecovery`. -/
def serviceCapabilities : UInt64 := capabilityBits ([0, 1, 2] ++ List.range' 4 20)

def maximumDeadlineLeadMs : UInt64 := 5 * 60 * 1000

/-- Some commands, the bits that they need and the body of a refusal, in the order of the
checks. -/
def requirements : List (List Command × List Nat × String) :=
  [([.initializeCommand, .stageProfile, .stageBoundProfile, .invalidateProfile, .connect,
      .connectWithIdentity, .replaceManagedProfile, .cancel, .cancelConnectAndConfirm, .disconnect,
      .revokeSmartAccessLease, .revokeRoutingCatalog, .revokeSmartAccessPolicy,
      .revokeRoutingCatalogService, .renewSmartAccessLease, .configureSmartAccessRuntimeControl,
      .readSmartAccessRestrictions, .acknowledgeSmartAccessRestrictions, .readSmartAccessLeases,
      .configureSmartAccessRenewal, .configureBoundSmartAccessRuntimeControl,
      .promoteTransportLease, .revokeTransportLease], [2], "runtime_capability_required"),
    ([.observeNetworkContext], [23], "network_observation_capability_required"),
    ([.replaceManagedProfile], [22], "protected_handoff_capability_required"),
    ([.probeCandidate, .cancelCandidateProbe, .readCandidateNetwork], [21],
      "candidate_probe_capability_required"),
    ([.configureBoundSmartAccessRuntimeControl], [17, 13],
      "bound_runtime_control_capability_required"),
    ([.connectWithIdentity], [15, 14, 5, 16, 18], "bound_connect_capability_required"),
    ([.promoteTransportLease, .revokeTransportLease], [20],
      "transport_lease_handoff_capability_required"),
    ([.stageBoundProfile], [19], "bound_profile_stage_capability_required"),
    ([.cancelConnectAndConfirm], [16], "connect_settlement_capability_required"),
    ([.readTransportNetworkContext], [18], "network_context_capability_required"),
    ([.readBootClock], [14], "runtime_clock_capability_required"),
    ([.cancel], [6], "cancellation_capability_required"),
    ([.configureSmartAccessRuntimeControl, .readSmartAccessRestrictions,
      .acknowledgeSmartAccessRestrictions, .readSmartAccessLeases, .configureSmartAccessRenewal],
      [13], "smart_access_runtime_control_capability_required"),
    ([.renewSmartAccessLease], [12], "smart_access_renewal_capability_required"),
    ([.revokeRoutingCatalogService], [11], "catalog_service_capability_required"),
    ([.revokeSmartAccessPolicy], [10], "smart_access_policy_capability_required"),
    ([.revokeRoutingCatalog], [9], "catalog_control_capability_required"),
    ([.revokeSmartAccessLease], [8], "smart_access_capability_required"),
    ([.diagnosticState], [4], "diagnostic_capability_required")]

def holdsBits (capabilities : UInt64) (bits : List Nat) : Bool :=
  capabilities &&& capabilityBits bits = capabilityBits bits

def refusal (negotiated : UInt64) (command : Command) : Option (List UInt8) :=
  (requirements.find? fun (commands, bits, _) =>
    commands.contains command && !holdsBits negotiated bits).map fun (_, _, body) => text body

/-- A frame that is read, with the time and what the dispatcher would answer, if there is
one. -/
structure Arrival where
  request : Frame
  now : UInt64
  dispatcher : Option (Status × List UInt8)

structure Session where
  token : Identifier
  capabilities : UInt64
  usedNonces : List Identifier := []
  closed : Bool := false
  /-- What the dispatcher was given. No code reads it. -/
  executed : List Arrival := []

/-- The session that a first frame opens. -/
def openSession (hello : Frame) (token : Identifier) : Option Session :=
  if hello.kind = .helloRequest ∧ hello.command = .hello ∧
      holdsBits hello.capabilities [0, 1, 5, 6] then
    some { token, capabilities := hello.capabilities &&& serviceCapabilities }
  else none

namespace Session

/-- The status and the body of a response. -/
def answer (s : Session) (a : Arrival) : Session × Status × List UInt8 :=
  if a.request.sessionToken ≠ s.token then (s, .unauthorized, text "session_mismatch")
  else if a.request.deadlineUnixMs < a.now then (s, .deadlineExceeded, text "deadline_exceeded")
  else if maximumDeadlineLeadMs < a.request.deadlineUnixMs - a.now then
    (s, .invalid, text "deadline_too_far")
  else if a.request.operationNonce ∈ s.usedNonces then (s, .replay, text "operation_replay")
  else if s.usedNonces.length = 256 then (s, .notReady, text "session_nonce_capacity")
  else
    let s := { s with usedNonces := s.usedNonces ++ [a.request.operationNonce] }
    match a.dispatcher, refusal s.capabilities a.request.command with
    | none, _ => (s, .notReady, text "runtime_not_owned")
    | some _, some body => (s, .unsupported, body)
    | some answer, none => ({ s with executed := s.executed ++ [a] }, answer)

/-- One round of the loop. A frame of another kind closes the session. -/
def after (s : Session) (a : Arrival) : Session :=
  if s.closed then s
  else if a.request.kind ≠ .request then { s with closed := true }
  else (s.answer a).1

/-- What the dispatcher may be given in a session. -/
structure Admitted (token : Identifier) (capabilities : UInt64) (a : Arrival) : Prop where
  kind : a.request.kind = .request
  bears : a.request.sessionToken = token
  deadline : a.now ≤ a.request.deadlineUnixMs
  lead : a.request.deadlineUnixMs - a.now ≤ maximumDeadlineLeadMs
  permitted : ∀ r ∈ requirements, a.request.command ∈ r.1 → holdsBits capabilities r.2.1 = true

structure Fenced (token : Identifier) (capabilities : UInt64) (s : Session) : Prop where
  issued : s.token = token
  negotiated : s.capabilities = capabilities
  nodup : s.usedNonces.Nodup
  length_le : s.usedNonces.length ≤ 256
  used : (s.executed.map (·.request.operationNonce)).Sublist s.usedNonces
  admitted : ∀ a ∈ s.executed, Admitted token capabilities a

variable {s : Session} {token : Identifier} {capabilities : UInt64}

theorem permitted_of_refusal {command : Command} (h : refusal capabilities command = none) :
    ∀ r ∈ requirements, command ∈ r.1 → holdsBits capabilities r.2.1 = true := by
  rw [refusal, Option.map_eq_none_iff, List.find?_eq_none] at h
  intro r hr hcommand
  simpa [hcommand] using h r hr

theorem Fenced.after (h : Fenced token capabilities s) (a : Arrival) :
    Fenced token capabilities (s.after a) := by
  unfold Session.after answer
  split_ifs with hclosed hkind htoken hdeadline hlead hnonce hcapacity
  case neg =>
    -- the nonce is used from here on, also by a request that is refused
    have hnodup : (s.usedNonces ++ [a.request.operationNonce]).Nodup :=
      h.nodup.append (List.nodup_singleton _) (List.disjoint_singleton.mpr hnonce)
    have hlength : (s.usedNonces ++ [a.request.operationNonce]).length ≤ 256 := by
      have := h.length_le
      rw [List.length_append, List.length_singleton]
      omega
    have hused := h.used.trans (List.sublist_append_left _ [a.request.operationNonce])
    dsimp only
    split
    · exact { h with nodup := hnodup, length_le := hlength, used := hused }
    · exact { h with nodup := hnodup, length_le := hlength, used := hused }
    · next hrefusal =>
      refine { h with nodup := hnodup, length_le := hlength, used := ?_, admitted := ?_ }
      · simpa using h.used.append_right [a.request.operationNonce]
      · intro b hb
        rcases List.mem_append.mp hb with hold | hnew
        · exact h.admitted b hold
        · obtain rfl := List.mem_singleton.mp hnew
          rw [h.negotiated] at hrefusal
          exact ⟨not_not.mp hkind, (not_not.mp htoken).trans h.issued,
            UInt64.not_lt.mp hdeadline, UInt64.not_lt.mp hlead, permitted_of_refusal hrefusal⟩
  all_goals exact { h with }

end Session

/-- In a session, the dispatcher is given a nonce once and at most 256 of them, and only what
bears the token in time and is permitted by what both sides can do. -/
theorem session_serves_once {hello : Frame} {token : Identifier} {s : Session}
    (h : openSession hello token = some s) (arrivals : List Arrival) :
    ((run Session.after s arrivals).executed.map (·.request.operationNonce)).Nodup ∧
      (run Session.after s arrivals).executed.length ≤ 256 ∧
      ∀ a ∈ (run Session.after s arrivals).executed,
        Session.Admitted token (hello.capabilities &&& serviceCapabilities) a := by
  have hopen : Session.Fenced token (hello.capabilities &&& serviceCapabilities) s := by
    unfold openSession at h
    split at h
    · cases h
      exact ⟨rfl, rfl, .nil, Nat.zero_le _, .slnil, nofun⟩
    · cases h
  have hend : Session.Fenced token (hello.capabilities &&& serviceCapabilities)
      (run Session.after s arrivals) := keeps (fun _ a hs => hs.after a) hopen arrivals
  refine ⟨hend.used.nodup hend.nodup, ?_, hend.admitted⟩
  simpa using hend.used.length_le.trans hend.length_le

/-- A frame that opens a session. -/
def sampleOpening : Frame := { sampleHello with capabilities := 99 }

/-- A request of the status, in a session whose token is its nonce. -/
def sampleStatus : Arrival where
  request := { sampleHello with
    kind := .request
    command := .status
    sessionToken := sampleHello.correlationId
    operationNonce := sampleHello.correlationId
    deadlineUnixMs := 1
    capabilities := 0 }
  now := 0
  dispatcher := some (.ok, [])

theorem status_served_once :
    ∃ s, openSession sampleOpening sampleHello.correlationId = some s ∧
      (run Session.after s [sampleStatus, sampleStatus]).executed = [sampleStatus] ∧
      ((run Session.after s [sampleStatus, sampleStatus]).executed.map
        (·.request.operationNonce)).Nodup ∧
      (run Session.after s [sampleStatus, sampleStatus]).executed.length ≤ 256 ∧
      ∀ a ∈ (run Session.after s [sampleStatus, sampleStatus]).executed,
        Session.Admitted sampleHello.correlationId
          (sampleOpening.capabilities &&& serviceCapabilities) a :=
  ⟨_, rfl, rfl, session_serves_once rfl _⟩

end Pokrov.Windows.Service
