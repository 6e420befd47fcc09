import Pokrov.AppShell.RecordValidity

/-!
# The managed transport catalog

`decodeManagedTransportCatalog` of `transport_profile_resolution.dart`: the
candidates that the managed endpoint offers to a client, in its order. A
candidate that comes in over a bridge speaks `vless` over `tcp` with `reality`,
and no two candidates have one reference.
-/

namespace Pokrov.AppShell.SmartConnect

open Dart Results

/-! ## Candidates -/

/-- The `TransportCandidate` of the core domain. -/
structure TransportCandidate where
  candidateRef : Text
  profileRef : Text
  nodeCode : Text
  countryCode : Text
  protocol : Text
  transport : Text
  protection : Text
  priority : Int
  network : Text
  flow : Text
  minimumClientRelease : Text
  minimumCoreRelease : Option Text
  platforms : List HostPlatform
  requiredFeatures : List RuntimeTransportFeature
  warpMode : Option Text
  bridgeId : Option Text
  displayName : Option Text
  family : Text
  deliveryEndpointId : Option Text
  endpointGeneration : Option Int

/-- The country of the node; the exit of `warp_over_proxy` is unknown. -/
def TransportCandidate.nodeCountryCode (candidate : TransportCandidate)
    (catalogCandidates : List TransportCandidate) : Text :=
  if candidate.warpMode ≠ some (text "warp_over_proxy") then candidate.countryCode
  else
    match catalogCandidates.find? fun other =>
        other.nodeCode = candidate.nodeCode ∧ other.profileRef = candidate.profileRef ∧
          other.warpMode = none with
    | some other => other.countryCode
    | none => candidate.countryCode

structure TransportCandidateCatalog where
  revision : Text
  selectedCandidateRef : Text
  candidates : List TransportCandidate

/-- `singleWhere` on references that are distinct. -/
def TransportCandidateCatalog.selected (catalog : TransportCandidateCatalog) :
    Option TransportCandidate :=
  catalog.candidates.find? (·.candidateRef = catalog.selectedCandidateRef)

/-! ## Texts and numbers -/

/-- `if (…) throw const FormatException()`. -/
def rejectFormat (b : Prop) [Decidable b] : Try Unit := if b then .error .other else .ok ()

def formatText (pattern : Text → Bool) (max : Nat) : Document → Try Text
  | .string value =>
    if value = [] ∨ max < value.length ∨ pattern value = false then .error .other else .ok value
  | _ => .error .other

def isAlphanumeric (u : UInt16) : Bool := isLower u || isDigit u

/-- `^[a-z0-9][a-z0-9_.:-]*$`. -/
def isRefText : Text → Bool
  | [] => false
  | first :: rest => isAlphanumeric first &&
      rest.all fun u => isAlphanumeric u || u = unit '_' || u = unit '.' || u = unit ':' || u = unit '-'

/-- `^[a-z0-9][a-z0-9._-]*$`. -/
def isSlug : Text → Bool
  | [] => false
  | first :: rest => isAlphanumeric first &&
      rest.all fun u => isAlphanumeric u || u = unit '.' || u = unit '_' || u = unit '-'

/-- `^[A-Za-z0-9_.:-]+$`. -/
def isRevisionText (value : Text) : Bool :=
  !value.isEmpty && value.all fun u => isUpper u || isLower u || isDigit u || u = unit '_' ||
    u = unit '.' || u = unit ':' || u = unit '-'

/-- `^[A-Z]{2}$`. -/
def isCountry (value : Text) : Bool := value.length = 2 && value.all isUpper

/-- `^[^\x00-\x1f\x7f]+$`. -/
def isDisplayName (value : Text) : Bool := !value.isEmpty && value.all fun u => 0x1f < u && u ≠ 0x7f

def isWhitespace (u : UInt16) : Bool :=
  (9 ≤ u && u ≤ 13) || u = 32 || u = 0x85 || u = 0xA0 || u = 0x1680 || (0x2000 ≤ u && u ≤ 0x200A) ||
    u = 0x2028 || u = 0x2029 || u = 0x202F || u = 0x205F || u = 0x3000 || u = 0xFEFF

def hexDigitValue (u : UInt16) : Option Nat :=
  if isDigit u then some (u.toNat - 48)
  else if between 'a' 'f' u then some (u.toNat - 87)
  else if between 'A' 'F' u then some (u.toNat - 55)
  else none

def hexNumber (digits : Text) : Option Nat :=
  digits.foldl (fun n u => do return (← n) * 16 + (← hexDigitValue u)) (some 0)

/-- `int.tryParse`: blanks around, a sign, and digits, or hexadecimal digits that
may fill 64 bits. -/
def intTryParse (s : Text) : Option Int :=
  let trimmed := ((s.dropWhile isWhitespace).reverse.dropWhile isWhitespace).reverse
  let negative := trimmed.head? = some (unit '-')
  let digits := if negative ∨ trimmed.head? = some (unit '+') then trimmed.tail else trimmed
  let signed (n : Nat) : Option Int :=
    if negative then (if n ≤ 2 ^ 63 then some (-n) else none)
    else if n < 2 ^ 63 then some n else none
  if digits.take 2 = text "0x" ∨ digits.take 2 = text "0X" then
    if digits.length = 2 then none
    else do
      let n ← hexNumber (digits.drop 2)
      if ¬ negative ∧ 2 ^ 63 ≤ n ∧ n < 2 ^ 64 then some ((n : Int) - 2 ^ 64) else signed n
  else if digits ≠ [] ∧ digits.all isDigit = true then signed (number digits)
  else none

/-! ## Releases -/

def compareReleases (a b : Nat × Nat × Nat) : Ordering :=
  (compare a.1 b.1).then ((compare a.2.1 b.2.1).then (compare a.2.2 b.2.2))

/-- `_transportReleaseCompare`. -/
def transportReleaseCompare (a b : Text) : Try Ordering :=
  match releaseOf a, releaseOf b with
  | some a, some b => .ok (compareReleases a b)
  | _, _ => throwTransport "transport_release_invalid"

/-- `releaseCompare`: a build number counts only between equal releases. -/
def releaseCompare (actual minimum : Text) : Try Ordering := do
  let actualParts := pieces (unit '+') actual
  let minimumParts := pieces (unit '+') minimum
  refuseIf (2 < actualParts.length ∨ 2 < minimumParts.length) "transport_release_invalid"
  let order ← transportReleaseCompare (actualParts.headD []) (minimumParts.headD [])
  if order ≠ .eq ∨ minimumParts.length = 1 then return order
  if actualParts.length = 1 then return .lt
  match intTryParse (actualParts.getLastD []), intTryParse (minimumParts.getLastD []) with
  | some actualBuild, some minimumBuild =>
    if actualBuild < 0 ∨ minimumBuild < 0 then throwTransport "transport_release_invalid"
    else return compare actualBuild minimumBuild
  | _, _ => throwTransport "transport_release_invalid"

/-- `if (condition && compare(release, minimum) < 0) throw const FormatException()`. -/
def rejectOlder (condition : Prop) [Decidable condition] (release : Text) (minimum : String) :
    Try Unit :=
  if condition then do rejectFormat ((← transportReleaseCompare release (text minimum)) = .lt)
  else .ok ()

/-! ## Parameters -/

/-- A document that is this text. -/
def isText (value : Document) (expected : String) : Bool :=
  match value with
  | .string s => s = text expected
  | _ => false

/-- Where the first hop goes in. -/
structure Ingress where
  bridgeId : Option Text
  deliveryEndpointId : Option Text
  endpointGeneration : Option Int
  family : Text

def ordinaryIngress : Ingress := ⟨none, none, none, text "ipv4"⟩

/-- The checks on the parameters; without a delivery endpoint there is no
`family` among them. -/
def decodeIngress (parameters : Fields) (warpMode : Document) : Try Ingress :=
  let deliveryId := parameters.get "delivery_endpoint_id"
  let bridgeId := parameters.get "bridge_id"
  if bridgeId.isNull = false then do
    keys parameters ["network", "flow", "bridge_id"]
    let bridge ← formatText isSlug 64 bridgeId
    rejectFormat (bridge = text "direct" ∨ warpMode.isNull = false ∨ deliveryId.isNull = false)
    return { ordinaryIngress with bridgeId := some bridge }
  else if deliveryId.isNull = true then do
    keys parameters ["network", "flow"]
    return ordinaryIngress
  else do
    keys parameters ["network", "flow", "family", "delivery_endpoint_id", "endpoint_generation"]
    let delivery ← formatText isSlug 64 deliveryId
    match (if (parameters.get "family").isNull = true then Document.string (text "ipv4")
        else parameters.get "family"), parameters.get "endpoint_generation" with
    | .string family, .int generation =>
      rejectFormat (¬ [text "ipv4", text "ipv6"].contains family = true ∨ generation < 1 ∨
        maximumRevision < generation)
      return ⟨none, some delivery, some generation, family⟩
    | _, _ => .error .other

/-- The mode of a row, and none without one. -/
def decodeWarpMode : Document → Try (Option Text)
  | .null => .ok none
  | .string mode =>
    if [text "proxy_over_warp", text "warp_over_proxy", text "warp_direct"].contains mode then
      .ok (some mode)
    else .error .other
  | _ => .error .other

/-- The reference that a row must have. -/
def expectedRef (warpDirect : Bool) (node profile : Text) (ingress : Ingress)
    (warpMode : Option Text) : Text :=
  if warpDirect then text "warp:warp_free:warp_direct"
  else
    let bridge := match ingress.bridgeId with
      | none => []
      | some bridgeId => text ":bridge_" ++ bridgeId
    let endpoint := match ingress.deliveryEndpointId with
      | none => []
      | some deliveryId =>
        text ":endpoint_" ++ deliveryId ++ unit ':' :: ingress.family ++ text ":g" ++
          encodeInt (ingress.endpointGeneration.getD 0)
    let warp := match warpMode with
      | none => []
      | some mode => unit ':' :: mode
    node ++ unit ':' :: profile ++ bridge ++ endpoint ++ warp

/-! ## Protocols -/

def supported (protocol transport protection : Text) (warpDirect : Bool) : Bool :=
  let spoken (t p : String) : Bool := transport = text t && protection = text p
  if protocol = text "vless" then
    spoken "tcp" "reality" || spoken "grpc" "tls" || spoken "xhttp" "tls" || spoken "xhttp" "reality" ||
      spoken "dnstt" "noise" || spoken "slipstream" "tls"
  else if protocol = text "awg" then spoken "udp" "awg31"
  else if protocol = text "hysteria2" then spoken "udp" "tls"
  else if protocol = text "naive" then spoken "h2" "tls"
  else if protocol = text "warp" then warpDirect && spoken "udp" "warp"
  else false

def isDns (transport : Text) : Bool := transport = text "dnstt" || transport = text "slipstream"

def candidateFeatures (protocol transport protection : Text) : List RuntimeTransportFeature :=
  let features : List RuntimeTransportFeature :=
    if protocol = text "awg" then [.awg31]
    else if protocol = text "hysteria2" then [.hysteria2]
    else if protocol = text "naive" then [.naiveH2, .tls]
    else if protocol = text "warp" then []
    else [.vless,
      if transport = text "grpc" then .grpc
      else if transport = text "xhttp" then .xhttp
      else if transport = text "dnstt" then .dnsttVless
      else if transport = text "slipstream" then .slipstreamVless
      else .reality]
  if transport = text "xhttp" ∧ protection = text "reality" then
    features ++ [.tls, .utls, .reality]
  else features

/-! ## Rows -/

/-- What the decoder knows of the device. -/
structure Client where
  platform : HostPlatform
  clientRelease : Text
  runtimeFeatures : List RuntimeTransportFeature
  coreRelease : Option Text

/-- Known names, none twice, before those that come after. -/
def decodeNames {α : Type} [DecidableEq α] (values : List α) (name : α → String) :
    List α → List Document → Try (List α)
  | found, [] => .ok found
  | found, raw :: rest =>
    match values.find? fun value => isText raw (name value) with
    | none => .error .other
    | some value =>
      if value ∈ found then .error .other else decodeNames values name (found ++ [value]) rest

structure Requirements where
  minimumClient : Text
  minimumCore : Option Text
  platformNames : List Document
  featureNames : List Document

def decodeRequirements (requirements : Fields) (warpDirect : Bool) : Try Requirements := do
  keys requirements ["minimum_client_release", "minimum_core_release", "platforms",
    "required_features"]
  let minimumCore ← (match requirements.get "minimum_core_release" with
    | .null => .ok none
    | .string release => .ok (some release)
    | _ => .error .other : Try (Option Text))
  match requirements.get "minimum_client_release", requirements.get "platforms",
      requirements.get "required_features" with
  | .string minimumClient, .list platformNames, .list featureNames =>
    rejectFormat (platformNames = [] ∨ (featureNames = [] ∧ ¬ warpDirect = true))
    return { minimumClient, minimumCore, platformNames, featureNames }
  | _, _, _ => .error .other

/-- The releases that the new kinds of candidates need at least. -/
def checkReleases (requirements : Requirements) (warpMode : Option Text) (ingress : Ingress)
    (protocol transport network flow : Text) : Try Unit := do
  let minimumClientVersion := (pieces (unit '+') requirements.minimumClient).headD []
  rejectOlder (warpMode ≠ none) minimumClientVersion "1.4.0"
  rejectOlder (ingress.deliveryEndpointId ≠ none) minimumClientVersion "1.5.0"
  rejectOlder (isDns transport = true ∨ protocol = text "naive") minimumClientVersion "1.5.0"
  if ingress.bridgeId ≠ none then
    rejectFormat ((← releaseCompare requirements.minimumClient (text "1.5.0+4116")) = .lt)
  if warpMode = some (text "warp_direct") then
    rejectFormat ((← transportReleaseCompare minimumClientVersion (text "1.5.0")) = .lt)
    match requirements.minimumCore with
    | none => .error .other
    | some minimumCore =>
      rejectFormat ((← transportReleaseCompare minimumCore (text "1.2.8")) = .lt)
      rejectFormat (network ≠ text "udp" ∨ flow ≠ [])

/-- What the client itself must have. -/
def checkClient (client : Client) (requirements : Requirements) (platforms : List HostPlatform)
    (features : List RuntimeTransportFeature) : Try Unit := do
  refuseIf (client.platform ∉ platforms ∨
    features.all client.runtimeFeatures.contains = false) "transport_catalog_incompatible"
  refuseIf ((← releaseCompare client.clientRelease requirements.minimumClient) = .lt)
    "transport_catalog_incompatible"
  match requirements.minimumCore, client.coreRelease with
  | none, _ => .ok ()
  | some _, none => throwTransport "transport_catalog_incompatible"
  | some minimumCore, some coreRelease =>
    refuseIf ((← transportReleaseCompare coreRelease minimumCore) = .lt)
      "transport_catalog_incompatible"

/-- One round of the loop over the rows, after the references that were seen. -/
def decodeCandidate (client : Client) (seen : List Text) (raw : Document) :
    Try TransportCandidate := do
  let item ← transportMap raw
  let rawWarpMode := item.get "warp_mode"
  let warpDirect := isText rawWarpMode "warp_direct"
  let hasDisplayName := item.keys.contains (text "display_name")
  keys item (["candidate_ref", "profile_ref", "node_code", "country_code", "protocol", "transport",
    "protection", "priority", "parameters", "requirements"] ++
    (if rawWarpMode.isNull then [] else ["warp_mode"]) ++
    (if hasDisplayName then ["display_name"] else []))
  let displayName ← (if hasDisplayName then
      some <$> formatText isDisplayName 256 (item.get "display_name")
    else .ok none : Try (Option Text))
  let candidateRef ← formatText isRefText 128 (item.get "candidate_ref")
  let profileRef ← formatText isRefText 64 (item.get "profile_ref")
  let nodeCode ← (if warpDirect && isText (item.get "node_code") "" then .ok []
    else formatText isRefText 64 (item.get "node_code") : Try Text)
  let countryCode ← formatText isCountry 2 (item.get "country_code")
  let parameters ← transportMap (item.get "parameters")
  let ingress ← decodeIngress parameters rawWarpMode
  let warpMode ← decodeWarpMode rawWarpMode
  rejectFormat (candidateRef ∈ seen ∨
    candidateRef ≠ expectedRef warpDirect nodeCode profileRef ingress warpMode)
  rejectFormat (if warpMode = some (text "warp_over_proxy") ∨ warpDirect = true then
    countryCode ≠ text "ZZ" else countryCode = text "ZZ")
  rejectFormat (warpDirect = true ∧ (nodeCode ≠ [] ∨ profileRef ≠ text "warp_free" ∨
    ingress.deliveryEndpointId ≠ none))
  match item.get "priority" with
  | .int priority =>
    rejectFormat (priority < 0)
    let protocol ← formatText isRefText 32 (item.get "protocol")
    let transport ← formatText isRefText 32 (item.get "transport")
    let protection ← formatText isRefText 32 (item.get "protection")
    rejectFormat (supported protocol transport protection warpDirect = false ∨
      (warpMode ≠ none ∧ ¬ warpDirect = true ∧ protocol ≠ text "vless"))
    rejectFormat (ingress.bridgeId ≠ none ∧ (protocol ≠ text "vless" ∨ transport ≠ text "tcp" ∨
      protection ≠ text "reality"))
    match parameters.get "network", parameters.get "flow" with
    | .string network, .string flow =>
      rejectFormat (¬ [text "tcp", text "udp"].contains network = true ∨
        ¬ [[], text "xtls-rprx-vision"].contains flow = true)
      rejectFormat (transport = text "xhttp" ∧ flow ≠ [])
      rejectFormat (isDns transport = true ∧ (network ≠ text "tcp" ∨ flow ≠ [] ∨
        warpMode ≠ none ∨ ingress.deliveryEndpointId ≠ none))
      rejectFormat (protocol = text "naive" ∧ (network ≠ text "tcp" ∨ flow ≠ [] ∨
        ingress.deliveryEndpointId ≠ none))
      let requirements ← decodeRequirements (← transportMap (item.get "requirements")) warpDirect
      checkReleases requirements warpMode ingress protocol transport network flow
      let platforms ← decodeNames HostPlatform.values HostPlatform.wireName []
        requirements.platformNames
      let features ← decodeNames RuntimeTransportFeature.values RuntimeTransportFeature.wireName []
        requirements.featureNames
      rejectFormat ((candidateFeatures protocol transport protection).all features.contains = false)
      checkClient client requirements platforms features
      return { candidateRef, profileRef, nodeCode, countryCode, protocol, transport, protection,
               priority, network, flow, minimumClientRelease := requirements.minimumClient,
               minimumCoreRelease := requirements.minimumCore, platforms,
               requiredFeatures := features, warpMode, bridgeId := ingress.bridgeId, displayName,
               family := ingress.family, deliveryEndpointId := ingress.deliveryEndpointId,
               endpointGeneration := ingress.endpointGeneration }
    | _, _ => .error .other
  | _ => .error .other

/-- The loop over the rows. -/
def decodeCandidates (client : Client) : List Text → List Document → Try (List TransportCandidate)
  | _, [] => .ok []
  | seen, raw :: rest => do
      let candidate ← decodeCandidate client seen raw
      let candidates ← decodeCandidates client (candidate.candidateRef :: seen) rest
      return candidate :: candidates

/-- `decodeManagedTransportCatalog`. An empty request asks for nothing in
particular. -/
def decodeManagedTransportCatalog (client : Client) (requestedNodeCode requestedCandidateRef : Text)
    (input : Document) : Try TransportCandidateCatalog :=
  orTransport "transport_catalog_invalid" do
    let value ← transportMap (← freeze input)
    keys value ["schema_version", "revision", "selected_candidate_ref", "candidates"]
    rejectFormat (isText (value.get "schema_version") "pokrov-transport-catalog-v1" = false)
    let revision ← formatText isRevisionText 256 (value.get "revision")
    let selected ← formatText isRefText 128 (value.get "selected_candidate_ref")
    match value.get "candidates" with
    | .list rows =>
      rejectFormat (rows = [] ∨ 1024 < rows.length)
      let candidates ← decodeCandidates client [] rows
      let catalog : TransportCandidateCatalog :=
        { revision, selectedCandidateRef := selected, candidates }
      refuseIf (requestedCandidateRef ≠ [] ∧ selected ≠ requestedCandidateRef)
        "transport_catalog_selection_mismatch"
      match catalog.selected with
      | none => throwTransport "transport_catalog_selection_mismatch"
      | some candidate =>
        refuseIf (requestedNodeCode ≠ [] ∧ candidate.nodeCode ≠ requestedNodeCode ∧
          candidate.warpMode ≠ some (text "warp_direct")) "transport_catalog_selection_mismatch"
        return catalog
    | _ => .error .other

/-! ## What is accepted -/

theorem ok_of_rejectFormat {b : Prop} [Decidable b] (h : rejectFormat b = .ok ()) : ¬ b := by
  intro hb
  rw [rejectFormat, if_pos hb] at h
  cases h

/-- A bridge is an ingress of its own, for one protocol. -/
def TransportCandidate.BridgedPlainly (candidate : TransportCandidate) : Prop :=
  candidate.bridgeId ≠ none → candidate.protocol = text "vless" ∧ candidate.transport = text "tcp" ∧
    candidate.protection = text "reality"

theorem seen_of_decodeCandidate {client : Client} {seen : List Text} {raw : Document}
    {candidate : TransportCandidate} (h : decodeCandidate client seen raw = .ok candidate) :
    candidate.candidateRef ∉ seen ∧ candidate.BridgedPlainly := by
  unfold decodeCandidate at h
  obtain ⟨item, -, h⟩ := bind_eq_ok.mp h
  obtain ⟨-, -, h⟩ := bind_eq_ok.mp h
  obtain ⟨displayName, -, h⟩ := bind_eq_ok.mp h
  obtain ⟨candidateRef, -, h⟩ := bind_eq_ok.mp h
  obtain ⟨profileRef, -, h⟩ := bind_eq_ok.mp h
  obtain ⟨nodeCode, -, h⟩ := bind_eq_ok.mp h
  obtain ⟨countryCode, -, h⟩ := bind_eq_ok.mp h
  obtain ⟨parameters, -, h⟩ := bind_eq_ok.mp h
  obtain ⟨ingress, -, h⟩ := bind_eq_ok.mp h
  obtain ⟨warpMode, -, h⟩ := bind_eq_ok.mp h
  obtain ⟨⟨⟩, hseen, h⟩ := bind_eq_ok.mp h
  obtain ⟨-, -, h⟩ := bind_eq_ok.mp h
  obtain ⟨-, -, h⟩ := bind_eq_ok.mp h
  split at h
  case h_2 => cases h
  obtain ⟨-, -, h⟩ := bind_eq_ok.mp h
  obtain ⟨protocol, -, h⟩ := bind_eq_ok.mp h
  obtain ⟨transport, -, h⟩ := bind_eq_ok.mp h
  obtain ⟨protection, -, h⟩ := bind_eq_ok.mp h
  obtain ⟨-, -, h⟩ := bind_eq_ok.mp h
  obtain ⟨⟨⟩, hbridge, h⟩ := bind_eq_ok.mp h
  split at h
  case h_2 => cases h
  obtain ⟨-, -, h⟩ := bind_eq_ok.mp h
  obtain ⟨-, -, h⟩ := bind_eq_ok.mp h
  obtain ⟨-, -, h⟩ := bind_eq_ok.mp h
  obtain ⟨-, -, h⟩ := bind_eq_ok.mp h
  obtain ⟨-, -, h⟩ := bind_eq_ok.mp h
  obtain ⟨fields, -, h⟩ := bind_eq_ok.mp h
  obtain ⟨requirements, -, h⟩ := bind_eq_ok.mp h
  obtain ⟨-, -, h⟩ := bind_eq_ok.mp h
  obtain ⟨platforms, -, h⟩ := bind_eq_ok.mp h
  obtain ⟨features, -, h⟩ := bind_eq_ok.mp h
  obtain ⟨-, -, h⟩ := bind_eq_ok.mp h
  obtain ⟨-, -, h⟩ := bind_eq_ok.mp h
  cases h
  refine ⟨fun hmem => ok_of_rejectFormat hseen (.inl hmem), fun hsome => ?_⟩
  have hplain := ok_of_rejectFormat hbridge
  simpa [hsome] using hplain

theorem refs_of_decodeCandidates {client : Client} {seen : List Text} {rows : List Document}
    {candidates : List TransportCandidate}
    (h : decodeCandidates client seen rows = .ok candidates) :
    (candidates.map TransportCandidate.candidateRef).Nodup ∧
      (∀ candidate ∈ candidates, candidate.candidateRef ∉ seen) ∧
      ∀ candidate ∈ candidates, candidate.BridgedPlainly := by
  induction rows generalizing seen candidates with
  | nil =>
    cases h
    simp
  | cons raw rest ih =>
    obtain ⟨candidate, hcandidate, h⟩ := bind_eq_ok.mp h
    obtain ⟨others, hothers, h⟩ := bind_eq_ok.mp h
    cases h
    obtain ⟨hseen, hplain⟩ := seen_of_decodeCandidate hcandidate
    obtain ⟨hnodup, hrest, hplains⟩ := ih hothers
    refine ⟨?_, ?_, ?_⟩
    · rw [List.map_cons, List.nodup_cons]
      refine ⟨?_, hnodup⟩
      rw [List.mem_map]
      rintro ⟨other, hmem, heq⟩
      exact hrest other hmem (heq ▸ List.mem_cons_self)
    · rintro other hmem
      rcases List.mem_cons.mp hmem with rfl | hmem
      · exact hseen
      · exact fun h => hrest other hmem (List.mem_cons_of_mem _ h)
    · rintro other hmem
      rcases List.mem_cons.mp hmem with rfl | hmem
      · exact hplain
      · exact hplains other hmem

/-- A catalog that is accepted names every candidate once, and bridges only what
can be bridged. -/
structure TransportCandidateCatalog.WellFormed (catalog : TransportCandidateCatalog) : Prop where
  refs : (catalog.candidates.map TransportCandidate.candidateRef).Nodup
  bridged : ∀ candidate ∈ catalog.candidates, candidate.BridgedPlainly

theorem wellFormed_of_decode {client : Client} {requestedNodeCode requestedCandidateRef : Text}
    {input : Document} {catalog : TransportCandidateCatalog}
    (h : decodeManagedTransportCatalog client requestedNodeCode requestedCandidateRef input =
      .ok catalog) : catalog.WellFormed := by
  unfold decodeManagedTransportCatalog at h
  have h := orTransport_eq_ok.mp h
  obtain ⟨frozen, -, h⟩ := bind_eq_ok.mp h
  obtain ⟨value, -, h⟩ := bind_eq_ok.mp h
  obtain ⟨-, -, h⟩ := bind_eq_ok.mp h
  obtain ⟨-, -, h⟩ := bind_eq_ok.mp h
  obtain ⟨revision, -, h⟩ := bind_eq_ok.mp h
  obtain ⟨selected, -, h⟩ := bind_eq_ok.mp h
  split at h
  case h_2 => cases h
  obtain ⟨-, -, h⟩ := bind_eq_ok.mp h
  obtain ⟨candidates, hcandidates, h⟩ := bind_eq_ok.mp h
  obtain ⟨-, -, h⟩ := bind_eq_ok.mp h
  split at h
  · cases h
  · obtain ⟨-, -, h⟩ := bind_eq_ok.mp h
    cases h
    obtain ⟨hrefs, -, hbridged⟩ := refs_of_decodeCandidates hcandidates
    exact ⟨hrefs, hbridged⟩

end Pokrov.AppShell.SmartConnect
