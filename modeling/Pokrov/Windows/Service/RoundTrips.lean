import Pokrov.Windows.Service.Bodies

/-!
# Request bodies round-trip

Every body codec reads back what it writes and writes back what it reads, so
that no two accepted targets share an encoding, whatever characters their text
fields hold.

A decoder that compares the re-encoded fields with the body gives the second
half by itself; there the work is that the separator occurs in no field before
the last and that the size cap leaves room for everything the encoder accepts.
An encoder that asks the decoder gives the first half only once the decoded
fields are known to be the encoded ones. The decoded pieces are free of
separators and as many as the encoded fields, so counting separators forces the
two to agree.
-/

namespace Pokrov.Windows.Service

open Codec

/-! ## Decoders that re-encode -/

/-- What `EncodeNetworkObservation` lets through. -/
structure NetworkObservationRequest.Accepted (request : NetworkObservationRequest) : Prop where
  host : request.host = text "api.pokrov.space" ∨ request.host = text "app.pokrov.space"
  sessionToken : safe request.sessionToken 8192 ".-_" = true
  appVersion : safe request.appVersion 32 ".+-" = true
  profileRevision : safe request.profileRevision 128 " .()+'-_" = true
  runtimePhase : safe request.runtimePhase 32 "-_" = true
  reportRunId : isReportRunId request.reportRunId = true

theorem accepted_of_encodeNetworkObservation {request : NetworkObservationRequest}
    (h : encodeNetworkObservation request ≠ []) :
    request.Accepted ∧ encodeNetworkObservation request =
      [newline].intercalate [request.host, request.sessionToken, request.appVersion,
        request.profileRevision, request.runtimePhase, request.reportRunId] := by
  unfold encodeNetworkObservation at h ⊢
  split at h
  · exact absurd rfl h
  · rename_i hok
    rw [if_neg hok]
    simp only [not_or, not_and_or, not_not] at hok
    obtain ⟨hhost, -, htoken, -, hversion, hrevision, hphase, hid⟩ := hok
    exact ⟨⟨hhost, htoken, hversion, hrevision, hphase, hid⟩, rfl⟩

variable {value : List UInt8} {body : List UInt8}

theorem length_le_of_safe {limit : Nat} {extra : String} (h : safe value limit extra = true) :
    value.length ≤ limit := by
  rw [safe, Bool.and_eq_true, decide_eq_true_eq] at h
  exact h.1

theorem newline_not_mem_safe {limit : Nat} {extra : String} (h : safe value limit extra = true)
    (hextra : (text extra).contains newline = false) : newline ∉ value := by
  rw [safe, Bool.and_eq_true] at h
  refine not_mem_of_all h.2 ?_
  rw [hextra]
  decide

theorem length_of_isReportRunId {id : List UInt8} (h : isReportRunId id = true) :
    id.length = 36 := by
  simp only [isReportRunId, Bool.and_eq_true, decide_eq_true_eq] at h
  exact h.1.1.1.1.1.1.1

theorem networkObservation_roundTrips :
    RoundTrips encodeNetworkObservation decodeNetworkObservation := by
  constructor
  · intro request hne
    obtain ⟨hok, hbody⟩ := accepted_of_encodeNetworkObservation hne
    have hfields : ∀ field ∈ [request.host, request.sessionToken, request.appVersion,
        request.profileRevision, request.runtimePhase], newline ∉ field := by
      simp only [List.mem_cons, List.not_mem_nil, or_false]
      rintro field (rfl | rfl | rfl | rfl | rfl)
      · rcases hok.host with h | h <;> rw [h] <;> decide
      · exact newline_not_mem_safe hok.sessionToken (by decide)
      · exact newline_not_mem_safe hok.appVersion (by decide)
      · exact newline_not_mem_safe hok.profileRevision (by decide)
      · exact newline_not_mem_safe hok.runtimePhase (by decide)
    have hcap : (encodeNetworkObservation request).length ≤ 8704 := by
      have hhost : request.host.length = 16 := by
        rcases hok.host with h | h <;> rw [h] <;> decide
      have htoken := length_le_of_safe hok.sessionToken
      have hversion := length_le_of_safe hok.appVersion
      have hrevision := length_le_of_safe hok.profileRevision
      have hphase := length_le_of_safe hok.runtimePhase
      have hid := length_of_isReportRunId hok.reportRunId
      rw [hbody]
      simp only [List.intercalate_cons_cons, List.intercalate_singleton, List.length_append,
        List.length_singleton]
      omega
    have hcuts := cuts_intercalate request.reportRunId hfields
    rw [decodeNetworkObservation, if_neg (by omega)]
    rw [show cuts newline 5 (encodeNetworkObservation request) = _ from hbody ▸ hcuts]
    exact if_neg (not_not.mpr rfl)
  · intro body request h
    unfold decodeNetworkObservation at h
    split at h
    · exact absurd h (by simp)
    · split at h
      · dsimp only at h
        split at h
        · exact absurd h (by simp)
        · rename_i hsame
          cases h
          exact not_not.mp hsame
      · exact absurd h (by simp)

theorem isHexReference_iff {start value : List UInt8} :
    isHexReference start value = true ↔
      (value.length = 40 ∧ value.take 8 = start) ∧ (value.drop 8).all isLowerHex = true := by
  simp only [isHexReference, Bool.and_eq_true, decide_eq_true_eq]

/-- A reference consists of characters of its first word and of digits. -/
theorem all_of_isHexReference {start value : List UInt8} {p : UInt8 → Bool}
    (h : isHexReference start value = true) (hstart : start.all p = true)
    (hhex : ∀ b, isLowerHex b = true → p b = true) : value.all p = true := by
  obtain ⟨⟨-, htake⟩, hdrop⟩ := isHexReference_iff.mp h
  rw [← List.take_append_drop 8 value, List.all_append, htake, hstart, Bool.true_and,
    List.all_eq_true]
  exact fun b hb => hhex b (List.all_eq_true.mp hdrop b hb)

theorem not_mem_isHexReference {start value : List UInt8} {c : UInt8}
    (h : isHexReference start value = true) (hstart : c ∉ start) (hc : isLowerHex c = false) :
    c ∉ value := by
  refine not_mem_of_all (p := (· ≠ c)) (all_of_isHexReference h ?_ ?_) (by simp)
  · rw [List.all_eq_true]
    exact fun b hb => decide_eq_true fun heq => hstart (heq ▸ hb)
  · intro b hb
    refine decide_eq_true fun heq => ?_
    rw [heq, hc] at hb
    exact absurd hb (by decide)

/-- What `EncodeCandidateProbe` lets through. -/
structure CandidateProbeRequest.Accepted (request : CandidateProbeRequest) : Prop where
  probeId : isCandidateProbeId request.probeId = true
  timeoutMs : request.timeoutMs ≤ 30000
  networkContextRef : isTransportNetworkContextRef request.networkContextRef = true
  config : request.config.length ≤ maxProfileBodySize - 256

theorem accepted_of_encodeCandidateProbe {request : CandidateProbeRequest}
    (h : encodeCandidateProbe request ≠ []) :
    request.Accepted ∧ encodeCandidateProbe request =
      [newline].intercalate [request.probeId, toDecimal request.timeoutMs.toNat,
        request.networkContextRef, request.config] := by
  unfold encodeCandidateProbe at h ⊢
  split at h
  · exact absurd rfl h
  · rename_i hok
    rw [if_neg hok]
    simp only [not_or, not_not, UInt32.not_lt, Nat.not_lt] at hok
    obtain ⟨hid, -, htimeout, hcontext, -, -, hconfig⟩ := hok
    exact ⟨⟨hid, htimeout, hcontext, hconfig⟩, rfl⟩

theorem candidateProbe_roundTrips : RoundTrips encodeCandidateProbe decodeCandidateProbe := by
  constructor
  · intro request hne
    obtain ⟨hok, hbody⟩ := accepted_of_encodeCandidateProbe hne
    have hid := hok.probeId
    simp only [isCandidateProbeId, Bool.and_eq_true, decide_eq_true_eq] at hid
    have hfields : ∀ field ∈ [request.probeId, toDecimal request.timeoutMs.toNat,
        request.networkContextRef], newline ∉ field := by
      simp only [List.mem_cons, List.not_mem_nil, or_false]
      rintro field (rfl | rfl | rfl)
      · exact not_mem_of_all hid.2 (by decide)
      · exact not_mem_of_all (all_toDecimal _) (by decide)
      · exact not_mem_isHexReference hok.networkContextRef (by decide) (by decide)
    have hcap : (encodeCandidateProbe request).length ≤ maxProfileBodySize := by
      have htimeout : (toDecimal request.timeoutMs.toNat).length ≤ 5 := by
        have := UInt32.le_iff_toNat_le.mp hok.timeoutMs
        exact length_toDecimal_le (by decide) (lt_of_le_of_lt this (by decide))
      have hcontext := (isHexReference_iff.mp hok.networkContextRef).1.1
      have hconfig := hok.config
      have hprofile : maxProfileBodySize = 262144 := rfl
      rw [hbody]
      simp only [List.intercalate_cons_cons, List.intercalate_singleton, List.length_append,
        List.length_singleton]
      omega
    have hcuts := cuts_intercalate request.config hfields
    have hnumber : parseDecimal 32 (toDecimal request.timeoutMs.toNat) =
        some request.timeoutMs.toNat := parseDecimal_toDecimal request.timeoutMs.toNat_lt
    rw [decodeCandidateProbe, if_neg (by omega)]
    rw [show cuts newline 3 (encodeCandidateProbe request) = _ from hbody ▸ hcuts]
    dsimp only
    rw [hnumber]
    dsimp only
    rw [UInt32.ofNat_toNat]
    exact if_neg (not_not.mpr rfl)
  · intro body request h
    unfold decodeCandidateProbe at h
    split at h
    · exact absurd h (by simp)
    split at h
    · split at h
      · exact absurd h (by simp)
      dsimp only at h
      split at h
      · exact absurd h (by simp)
      · rename_i hsame
        cases h
        exact not_not.mp hsame
    · exact absurd h (by simp)

/-- What `EncodeBoundConnect` lets through. -/
structure BoundConnectTarget.Accepted (target : BoundConnectTarget) : Prop where
  coreModuleSha256 : isProfileDigest target.coreModuleSha256 = true
  profileDigest : isProfileDigest target.profileDigest = true
  bootRef : isBootRef target.bootRef = true
  networkContextRef : isTransportNetworkContextRef target.networkContextRef = true
  deadline : target.deadlineElapsedMs ≤ 9007199254740991
  started : target.startedElapsedMs < target.deadlineElapsedMs

theorem accepted_of_encodeBoundConnect {target : BoundConnectTarget}
    (h : encodeBoundConnect target ≠ []) :
    target.Accepted ∧ encodeBoundConnect target =
      [bar].intercalate [target.coreModuleSha256, target.profileDigest, target.bootRef,
        toDecimal target.startedElapsedMs.toNat, toDecimal target.deadlineElapsedMs.toNat,
        target.networkContextRef] := by
  unfold encodeBoundConnect at h ⊢
  split at h
  · exact absurd rfl h
  · rename_i hok
    rw [if_neg hok]
    simp only [not_or, not_not, UInt64.not_lt, UInt64.not_le] at hok
    obtain ⟨hcore, hprofile, hboot, hcontext, hdeadline, hstarted, -⟩ := hok
    exact ⟨⟨hcore, hprofile, hboot, hcontext, hdeadline, hstarted⟩, rfl⟩

theorem isPrintable_of_isLowerHex (b : UInt8) (h : isLowerHex b = true) :
    isPrintable b = true := by
  rw [isLowerHex_iff] at h
  simp only [isPrintable, Bool.and_eq_true, decide_eq_true_eq, UInt8.le_iff_toNat_le]
  show 32 ≤ b.toNat ∧ b.toNat ≤ 126
  omega

theorem all_mono {p q : UInt8 → Bool} {s : List UInt8} (hpq : ∀ b, p b = true → q b = true)
    (h : s.all p = true) : s.all q = true := by
  rw [List.all_eq_true] at h ⊢
  exact fun b hb => hpq b (h b hb)

theorem isLowerHex_of_isDigit (b : UInt8) (h : isDigit b = true) : isLowerHex b = true := by
  rw [isLowerHex, h]
  rfl

theorem boundConnect_roundTrips : RoundTrips encodeBoundConnect decodeBoundConnect := by
  constructor
  · intro target hne
    obtain ⟨hok, hbody⟩ := accepted_of_encodeBoundConnect hne
    obtain ⟨hcoreLength, hcore⟩ := isProfileDigest_iff.mp hok.coreModuleSha256
    obtain ⟨hprofileLength, hprofile⟩ := isProfileDigest_iff.mp hok.profileDigest
    have hlast : bar ∉ target.networkContextRef :=
      not_mem_isHexReference hok.networkContextRef (by decide) (by decide)
    have hfields : ∀ field ∈ [target.coreModuleSha256, target.profileDigest, target.bootRef,
        toDecimal target.startedElapsedMs.toNat, toDecimal target.deadlineElapsedMs.toNat],
        bar ∉ field := by
      simp only [List.mem_cons, List.not_mem_nil, or_false]
      rintro field (rfl | rfl | rfl | rfl | rfl)
      · exact not_mem_of_all hcore (by decide)
      · exact not_mem_of_all hprofile (by decide)
      · exact not_mem_isHexReference hok.bootRef (by decide) (by decide)
      · exact not_mem_of_all (all_toDecimal _) (by decide)
      · exact not_mem_of_all (all_toDecimal _) (by decide)
    have hdeadline : target.deadlineElapsedMs.toNat < 10 ^ 16 :=
      lt_of_le_of_lt (UInt64.le_iff_toNat_le.mp hok.deadline) (by decide)
    have hstarted : target.startedElapsedMs.toNat < 10 ^ 16 :=
      lt_trans (UInt64.lt_iff_toNat_lt.mp hok.started) hdeadline
    have hcap : (encodeBoundConnect target).length ≤ maxControlBodySize := by
      have h1 := length_toDecimal_le (by decide) hstarted
      have h2 := length_toDecimal_le (by decide) hdeadline
      have hboot := (isHexReference_iff.mp hok.bootRef).1.1
      have hcontext := (isHexReference_iff.mp hok.networkContextRef).1.1
      have hlimit : maxControlBodySize = 512 := rfl
      rw [hbody]
      simp only [List.intercalate_cons_cons, List.intercalate_singleton, List.length_append,
        List.length_singleton]
      omega
    have hprintable : (encodeBoundConnect target).all isPrintable = true := by
      have hdigits : ∀ n, (toDecimal n).all isPrintable = true := fun n =>
        all_mono (fun b hb => isPrintable_of_isLowerHex b (isLowerHex_of_isDigit b hb))
          (all_toDecimal n)
      have hbar : [bar].all isPrintable = true := by decide
      rw [hbody]
      simp only [List.intercalate_cons_cons, List.intercalate_singleton, List.all_append,
        all_mono isPrintable_of_isLowerHex hcore, all_mono isPrintable_of_isLowerHex hprofile,
        all_of_isHexReference hok.bootRef (by decide) isPrintable_of_isLowerHex,
        all_of_isHexReference hok.networkContextRef (by decide) isPrintable_of_isLowerHex,
        hdigits, hbar, Bool.and_true]
    have hbounded : isBoundedAsciiControl (encodeBoundConnect target) maxControlBodySize = true := by
      rw [isBoundedAsciiControl, Bool.and_eq_true, decide_eq_true_eq]
      exact ⟨hcap, hprintable⟩
    have hcuts := cuts_intercalate target.networkContextRef hfields
    have hcontains : target.networkContextRef.contains bar = false := by
      rw [Bool.eq_false_iff, ne_eq, List.contains_iff_mem]
      exact hlast
    rw [decodeBoundConnect, if_neg (not_not.mpr hbounded)]
    rw [show cuts bar 5 (encodeBoundConnect target) = _ from hbody ▸ hcuts]
    dsimp only
    rw [hcontains, parseDecimal_toDecimal target.startedElapsedMs.toNat_lt,
      parseDecimal_toDecimal target.deadlineElapsedMs.toNat_lt]
    dsimp only
    rw [UInt64.ofNat_toNat, UInt64.ofNat_toNat]
    exact if_neg (not_not.mpr rfl)
  · intro body target h
    unfold decodeBoundConnect at h
    split at h
    · exact absurd h (by simp)
    split at h
    · split at h
      · exact absurd h (by simp)
      split at h
      · dsimp only at h
        split at h
        · exact absurd h (by simp)
        · rename_i hsame
          cases h
          exact not_not.mp hsame
      · exact absurd h (by simp)
    · exact absurd h (by simp)

/-! ## Cancellation targets -/

theorem decodeCancellationTarget_eq_some {target : CancellationTarget} :
    decodeCancellationTarget body = some target ↔
      isProfileDigest body = true ∧ target.sessionToken.bytes = hexDecode (body.take 32) ∧
        target.operationNonce.bytes = hexDecode (body.drop 32) ∧
        ¬ (isZeroIdentifier target.sessionToken ∨ isZeroIdentifier target.operationNonce) := by
  obtain ⟨⟨token, htoken⟩, ⟨nonce, hnonce⟩⟩ := target
  unfold decodeCancellationTarget
  constructor
  · intro h
    split at h
    · rename_i hdigest
      dsimp only at h
      split at h
      · exact absurd h (by simp)
      · rename_i hzero
        cases h
        exact ⟨hdigest, rfl, rfl, hzero⟩
    · exact absurd h (by simp)
  · rintro ⟨hdigest, rfl, rfl, hzero⟩
    rw [dif_pos hdigest]
    exact if_neg hzero

theorem cancellationTarget_roundTrips :
    RoundTrips encodeCancellationTarget decodeCancellationTarget := by
  constructor
  · intro target hne
    unfold encodeCancellationTarget at hne ⊢
    split at hne
    · exact absurd rfl hne
    · rename_i hzero
      have htoken : (hexEncode target.sessionToken.bytes).length = 32 := by
        rw [length_hexEncode, target.sessionToken.size]
      have hnonce : (hexEncode target.operationNonce.bytes).length = 32 := by
        rw [length_hexEncode, target.operationNonce.size]
      rw [if_neg hzero, decodeCancellationTarget_eq_some, isProfileDigest_iff]
      refine ⟨⟨?_, ?_⟩, ?_, ?_, hzero⟩
      · rw [List.length_append, htoken, hnonce]
      · rw [List.all_append, all_hexEncode, all_hexEncode]
        rfl
      · rw [List.take_left' htoken, hexDecode_hexEncode]
      · rw [List.drop_left' htoken, hexDecode_hexEncode]
  · intro body target h
    obtain ⟨hdigest, htoken, hnonce, hzero⟩ := decodeCancellationTarget_eq_some.mp h
    obtain ⟨hlen, hall⟩ := isProfileDigest_iff.mp hdigest
    rw [← List.take_append_drop 32 body, List.all_append, Bool.and_eq_true] at hall
    rw [encodeCancellationTarget, if_neg hzero, htoken, hnonce, hexEncode_hexDecode hall.1,
      hexEncode_hexDecode hall.2, List.take_append_drop]
    · rw [List.length_drop, hlen]
    · rw [List.length_take, hlen]
      rfl

/-- A decoded target is written back as the 64 digits it was read from. -/
theorem digits_of_decodeCancellationTarget {target : CancellationTarget}
    (h : decodeCancellationTarget body = some target) :
    encodeCancellationTarget target = body ∧ body.all isLowerHex = true ∧ body ≠ [] := by
  obtain ⟨hlen, hall⟩ := isProfileDigest_iff.mp (decodeCancellationTarget_eq_some.mp h).1
  refine ⟨cancellationTarget_roundTrips.encode_decode _ _ h, hall, ?_⟩
  rintro rfl
  exact absurd hlen (by decide)

/-! ## Encoders that re-decode -/

theorem bar_not_mem_timestamp {start : Nat} (h : isTimestampAt body start = true) :
    bar ∉ substr start 20 body := by
  intro hmem
  obtain ⟨offset, hlt, hget⟩ := mem_substr hmem
  have hchar := List.all_eq_true.mp h offset (List.mem_range.mpr hlt)
  rw [hget, Option.any_some] at hchar
  split_ifs at hchar <;> exact absurd hchar (by decide)

theorem bar_not_mem_hex (h : value.all isLowerHex = true) : bar ∉ value :=
  not_mem_of_all h (by decide)

theorem colon_not_mem_hex (h : value.all isLowerHex = true) : colon ∉ value :=
  not_mem_of_all h (by decide)

theorem bar_not_mem_leaseRef (hword : substr 130 6 body = text "lease_")
    (hhex : (substr 136 32 body).all isLowerHex = true) : bar ∉ substr 130 38 body := by
  rw [substr_append body 130 6 32, List.mem_append, hword]
  rintro (h | h)
  · exact absurd h (by decide)
  · exact bar_not_mem_hex hhex h

theorem transportLeasePromotion_roundTrips :
    RoundTrips encodeTransportLeasePromotion decodeTransportLeasePromotion := by
  refine roundTrips_of_redecode (c := bar) (n := 6)
    TransportLeasePromotion.fields (fun _ => rfl) (fun _ => rfl) ?_ ?_
  · intro body promotion h
    unfold decodeTransportLeasePromotion at h
    split at h
    · exact absurd h (by simp)
    rename_i hok
    simp only [not_or, not_not] at hok
    obtain ⟨hlen, h64, h129, h168, h189, h210, hdigest, hword, hlease, hissued, hnew, hactive⟩ := hok
    obtain ⟨target, htarget, rfl⟩ := Option.map_eq_some_iff.mp h
    obtain ⟨hcode, hhex, -⟩ := digits_of_decodeCancellationTarget htarget
    simp only [TransportLeasePromotion.fields, hcode, List.mem_cons, List.not_mem_nil, or_false]
    refine ⟨intercalate_substr h64 (intercalate_substr h129 (intercalate_substr h168
      (intercalate_substr h189 (intercalate_substr h210 (intercalate_substr_last hlen))))), ?_⟩
    rintro field (rfl | rfl | rfl | rfl | rfl | rfl)
    · exact bar_not_mem_hex hhex
    · exact bar_not_mem_hex (isProfileDigest_iff.mp hdigest).2
    · exact bar_not_mem_leaseRef hword hlease
    · exact bar_not_mem_timestamp hissued
    · exact bar_not_mem_timestamp hnew
    · exact bar_not_mem_timestamp hactive
  · rintro body ⟨target, digest, lease, issued, new, active⟩ promotion h hfields
    unfold decodeTransportLeasePromotion at h
    split at h
    · exact absurd h (by simp)
    obtain ⟨target', htarget, rfl⟩ := Option.map_eq_some_iff.mp h
    obtain ⟨hcode, -, hne⟩ := digits_of_decodeCancellationTarget htarget
    simp only [TransportLeasePromotion.fields, List.cons.injEq, and_true] at hfields
    obtain ⟨hsame, rfl, rfl, rfl, rfl, rfl⟩ := hfields
    have : target = target' :=
      cancellationTarget_roundTrips.injective (hsame ▸ hcode ▸ hne) hsame
    rw [this]

theorem flag_injective {a b : Bool} (h : flag a = flag b) : a = b := by
  revert h
  cases a <;> cases b <;> decide

/-- The flag that ends a revocation is written back as it was read. -/
theorem flag_of_isFlagAt {pos : Nat} (h : isFlagAt body pos = true) :
    flag (decide (body[pos]? = some '1'.toUInt8)) = substr pos 1 body := by
  rw [isFlagAt, Bool.or_eq_true, decide_eq_true_eq, decide_eq_true_eq] at h
  have hlast : ∀ b, body[pos]? = some b → substr pos 1 body = [b] := by
    intro b hb
    obtain ⟨hlt, hget⟩ := List.getElem?_eq_some_iff.mp hb
    rw [substr, List.drop_eq_getElem_cons hlt, hget]
    rfl
  rcases h with h | h
  · rw [hlast _ h, h]
    decide
  · rw [hlast _ h, h]
    decide

theorem transportLeaseRevocation_roundTrips :
    RoundTrips encodeTransportLeaseRevocation decodeTransportLeaseRevocation := by
  refine roundTrips_of_redecode (c := bar) (n := 4)
    TransportLeaseRevocation.fields (fun _ => rfl) (fun _ => rfl) ?_ ?_
  · intro body revocation h
    unfold decodeTransportLeaseRevocation at h
    split at h
    · exact absurd h (by simp)
    rename_i hok
    simp only [not_or, not_not] at hok
    obtain ⟨hlen, h64, h129, h168, hflag, hdigest, hword, hlease⟩ := hok
    obtain ⟨target, htarget, rfl⟩ := Option.map_eq_some_iff.mp h
    obtain ⟨hcode, hhex, -⟩ := digits_of_decodeCancellationTarget htarget
    simp only [TransportLeaseRevocation.fields, hcode, flag_of_isFlagAt hflag, List.mem_cons,
      List.not_mem_nil, or_false]
    refine ⟨intercalate_substr h64 (intercalate_substr h129 (intercalate_substr h168
      (intercalate_substr_last hlen))), ?_⟩
    rintro field (rfl | rfl | rfl | rfl)
    · exact bar_not_mem_hex hhex
    · exact bar_not_mem_hex (isProfileDigest_iff.mp hdigest).2
    · exact bar_not_mem_leaseRef hword hlease
    · rw [← flag_of_isFlagAt hflag, flag]
      split <;> decide
  · rintro body ⟨target, digest, lease, terminate⟩ revocation h hfields
    unfold decodeTransportLeaseRevocation at h
    split at h
    · exact absurd h (by simp)
    obtain ⟨target', htarget, rfl⟩ := Option.map_eq_some_iff.mp h
    obtain ⟨hcode, -, hne⟩ := digits_of_decodeCancellationTarget htarget
    simp only [TransportLeaseRevocation.fields, List.cons.injEq, and_true] at hfields
    obtain ⟨hsame, rfl, rfl, hflag⟩ := hfields
    have : target = target' :=
      cancellationTarget_roundTrips.injective (hsame ▸ hcode ▸ hne) hsame
    rw [this, flag_injective hflag]

theorem smartAccessRevocation_roundTrips :
    RoundTrips encodeSmartAccessRevocation decodeSmartAccessRevocation := by
  refine roundTrips_of_redecode (c := colon) (n := 3)
    SmartAccessRevocationTarget.fields (fun _ => rfl) (fun _ => rfl) ?_ ?_
  · intro body target h
    unfold decodeSmartAccessRevocation at h
    split at h
    · exact absurd h (by simp)
    rename_i hok
    simp only [not_or, not_not] at hok
    obtain ⟨hlen, h64, h97, hflag, hdigest, hlease⟩ := hok
    cases h
    simp only [SmartAccessRevocationTarget.fields, flag_of_isFlagAt hflag, List.mem_cons,
      List.not_mem_nil, or_false]
    refine ⟨intercalate_substr h64 (intercalate_substr h97 (intercalate_substr_last hlen)), ?_⟩
    rintro field (rfl | rfl | rfl)
    · exact colon_not_mem_hex (isProfileDigest_iff.mp hdigest).2
    · exact colon_not_mem_hex hlease
    · rw [← flag_of_isFlagAt hflag, flag]
      split <;> decide
  · rintro body ⟨digest, lease, terminate⟩ ⟨digest', lease', terminate'⟩ - hfields
    simp only [SmartAccessRevocationTarget.fields, List.cons.injEq, and_true] at hfields
    obtain ⟨rfl, rfl, hflag⟩ := hfields
    rw [flag_injective hflag]

theorem smartAccessRenewal_roundTrips :
    RoundTrips encodeSmartAccessRenewal decodeSmartAccessRenewal := by
  refine roundTrips_of_redecode (c := bar) (n := 6)
    SmartAccessRenewalTarget.fields (fun _ => rfl) (fun _ => rfl) ?_ ?_
  · intro body target h
    unfold decodeSmartAccessRenewal at h
    split at h
    · exact absurd h (by simp)
    rename_i hok
    simp only [not_or, not_not] at hok
    obtain ⟨hlen, h64, h97, h130, h151, h172, hdigest, hexpected, hnext, hissued, hnew, hactive⟩ := hok
    cases h
    simp only [SmartAccessRenewalTarget.fields, List.mem_cons, List.not_mem_nil, or_false]
    refine ⟨intercalate_substr h64 (intercalate_substr h97 (intercalate_substr h130
      (intercalate_substr h151 (intercalate_substr h172 (intercalate_substr_last hlen))))), ?_⟩
    rintro field (rfl | rfl | rfl | rfl | rfl | rfl)
    · exact bar_not_mem_hex (isProfileDigest_iff.mp hdigest).2
    · exact bar_not_mem_hex hexpected
    · exact bar_not_mem_hex hnext
    · exact bar_not_mem_timestamp hissued
    · exact bar_not_mem_timestamp hnew
    · exact bar_not_mem_timestamp hactive
  · rintro body ⟨digest, expected, next, issued, new, active⟩ target - hfields
    cases target
    simp only [SmartAccessRenewalTarget.fields, List.cons.injEq, and_true] at hfields
    obtain ⟨rfl, rfl, rfl, rfl, rfl, rfl⟩ := hfields
    rfl

/-! ## All request bodies -/

/-- The two halves of a round trip and what they give together: accepted
targets have distinct encodings. -/
structure FaithfulCodec {τ : Type} (encode : τ → List UInt8) (decode : List UInt8 → Option τ) :
    Prop extends RoundTrips encode decode where
  distinct : ∀ t t', encode t ≠ [] → encode t = encode t' → t = t'

theorem faithfulCodec_of_roundTrips {τ : Type} {encode : τ → List UInt8}
    {decode : List UInt8 → Option τ} (h : RoundTrips encode decode) :
    FaithfulCodec encode decode :=
  { h with distinct := fun _ _ hne heq => h.injective hne heq }

theorem request_bodies_round_trip :
    FaithfulCodec encodeNetworkObservation decodeNetworkObservation ∧
      FaithfulCodec encodeCandidateProbe decodeCandidateProbe ∧
      FaithfulCodec encodeBoundConnect decodeBoundConnect ∧
      FaithfulCodec encodeCancellationTarget decodeCancellationTarget ∧
      FaithfulCodec encodeTransportLeasePromotion decodeTransportLeasePromotion ∧
      FaithfulCodec encodeTransportLeaseRevocation decodeTransportLeaseRevocation ∧
      FaithfulCodec encodeSmartAccessRevocation decodeSmartAccessRevocation ∧
      FaithfulCodec encodeSmartAccessRenewal decodeSmartAccessRenewal :=
  ⟨faithfulCodec_of_roundTrips networkObservation_roundTrips,
    faithfulCodec_of_roundTrips candidateProbe_roundTrips,
    faithfulCodec_of_roundTrips boundConnect_roundTrips,
    faithfulCodec_of_roundTrips cancellationTarget_roundTrips,
    faithfulCodec_of_roundTrips transportLeasePromotion_roundTrips,
    faithfulCodec_of_roundTrips transportLeaseRevocation_roundTrips,
    faithfulCodec_of_roundTrips smartAccessRevocation_roundTrips,
    faithfulCodec_of_roundTrips smartAccessRenewal_roundTrips⟩

/-- A probe whose configuration holds the separator. -/
def sampleProbe : CandidateProbeRequest where
  probeId := text "probe-1"
  timeoutMs := 1500
  networkContextRef := text "network_0123456789abcdef0123456789abcdef"
  config := text "first\nsecond\n"

def sampleRevocation : SmartAccessRevocationTarget where
  profileDigest := List.replicate 64 'a'.toUInt8
  leaseId := List.replicate 32 '0'.toUInt8
  terminateActive := true

theorem samples_round_trip :
    decodeCandidateProbe (encodeCandidateProbe sampleProbe) = some sampleProbe ∧
      decodeSmartAccessRevocation (encodeSmartAccessRevocation sampleRevocation) =
        some sampleRevocation :=
  ⟨request_bodies_round_trip.2.1.decode_encode sampleProbe (by decide +kernel),
    request_bodies_round_trip.2.2.2.2.2.2.1.decode_encode sampleRevocation (by decide +kernel)⟩

end Pokrov.Windows.Service
