import Pokrov.AppShell.CatalogContract

/-!
# The transport manifest contract

`TransportManifestVerifier` of `transport_manifest_contract.dart`: the floor that
is kept against a rollback, and the admission of a signed manifest, with or
without a signed authorization to roll back. The digest and the signature are
functions of the verifier.
-/

namespace Pokrov.AppShell

open Dart

/-- A `TransportManifestFailure`. -/
def throwTransport {α : Type} (code : String) : Try α := .error (.transport code)

/-- `if (…) throw …`. -/
def refuseIf (b : Prop) [Decidable b] (code : String) : Try Unit :=
  if b then throwTransport code else .ok ()

def transportManifestMaximumBytes : Nat := 512 * 1024

/-- `on TransportManifestFailure` rethrows; anything else has a code of its own. -/
def orTransport {α : Type} (code : String) : Try α → Try α
  | .ok a => .ok a
  | .error (.transport inner) => throwTransport inner
  | .error _ => throwTransport code

/-- `on Object` throws one code. -/
def orAlways {α : Type} (code : String) : Try α → Try α
  | .ok a => .ok a
  | .error _ => throwTransport code

/-! ## Fields -/

/-- `_transportMap`. -/
def transportMap : Document → Try Fields
  | .map fields => .ok fields
  | _ => throwTransport "transport_shape_invalid"

/-- `_transportDigest`. -/
def transportDigest : Document → Try Text
  | .string value =>
    if value.length = 64 ∧ value.all isLowerHex = true then .ok value
    else throwTransport "transport_digest_invalid"
  | _ => throwTransport "transport_digest_invalid"

/-- `^[a-z][a-z0-9_]{1,23}_[0-9a-f]{16,64}$`: what follows the last underscore,
and what stands before it. -/
def isRef (value : Text) : Bool :=
  let digits := (value.reverse.takeWhile (· ≠ unit '_')).reverse
  let name := value.take (value.length - digits.length - 1)
  decide (digits.length < value.length) &&
    (digits.all isLowerHex && decide (16 ≤ digits.length ∧ digits.length ≤ 64)) &&
    match name with
    | [] => false
    | first :: rest => isLower first && decide (1 ≤ rest.length ∧ rest.length ≤ 23) &&
        rest.all fun u => isLower u || isDigit u || u = unit '_'

/-- The references of a list, each after the one before it. -/
def refsAfter : Option Text → List Document → Try (List Text)
  | _, [] => .ok []
  | last, .string value :: rest =>
    if isRef value = false ∨ last.any (fun last => !decide (last < value)) = true then
      throwTransport "transport_refs_invalid"
    else do
      let refs ← refsAfter (some value) rest
      return value :: refs
  | _, _ :: _ => throwTransport "transport_refs_invalid"

/-- `_transportRefs`. -/
def transportRefs (minimum maximum : Nat) : Document → Try (List Text)
  | .list items =>
    if items.length < minimum ∨ maximum < items.length then
      throwTransport "transport_refs_invalid"
    else refsAfter none items
  | _ => throwTransport "transport_refs_invalid"

structure Kills where
  profileRefs : List Text
  endpointRefs : List Text
  capabilityRefs : List Text
deriving DecidableEq

/-- `_transportKills`. -/
def transportKills (input : Document) : Try Kills := do
  let kills ← transportMap input
  keys kills ["profile_refs", "endpoint_refs", "capability_refs"]
  let profileRefs ← transportRefs 0 4096 (kills.get "profile_refs")
  let endpointRefs ← transportRefs 0 4096 (kills.get "endpoint_refs")
  let capabilityRefs ← transportRefs 0 4096 (kills.get "capability_refs")
  return { profileRefs, endpointRefs, capabilityRefs }

def refsDocument (refs : List Text) : Document := .list (refs.map .string)

def Kills.toDocument (kills : Kills) : Document :=
  .map [(text "profile_refs", refsDocument kills.profileRefs),
    (text "endpoint_refs", refsDocument kills.endpointRefs),
    (text "capability_refs", refsDocument kills.capabilityRefs)]

/-! ## Versions -/

/-- `_transportVersionCompare` on epochs and revisions. -/
def transportVersionCompare (a b : Int × Int) : Ordering :=
  if a.1 = b.1 then compare a.2 b.2 else compare a.1 b.1

/-- One part of a release: no zero in front, at most five digits. -/
def releasePart (s : Text) : Option Nat :=
  if s.all isDigit = true ∧ 1 ≤ s.length ∧ s.length ≤ 5 ∧ (s.head? = some (unit '0') → s.length = 1)
  then some (number s) else none

/-- The three parts of a release. -/
def releaseOf (s : Text) : Option (Nat × Nat × Nat) :=
  match pieces (unit '.') s with
  | [a, b, c] => do
      let a ← releasePart a
      let b ← releasePart b
      let c ← releasePart c
      return (a, b, c)
  | _ => none

/-- `_transportReleaseCompare` of a client's release is below a minimum. -/
def releaseBelow (release : Text) (minimum : Document) : Try Bool :=
  match releaseOf release, minimum with
  | some (a, b, c), .string minimum =>
    match releaseOf minimum with
    | some (a', b', c') =>
      .ok (decide (a < a' ∨ a = a' ∧ (b < b' ∨ b = b' ∧ c < c')))
    | none => throwTransport "transport_release_invalid"
  | _, _ => throwTransport "transport_release_invalid"

/-! ## Budgets -/

/-- An integer field between its bounds. -/
def budgetField (budget : Fields) (name : String) (minimum maximum : Int) : Try Int :=
  match budget.get name with
  | .int value =>
    if value < minimum ∨ maximum < value then throwTransport "transport_budget_invalid"
    else .ok value
  | _ => throwTransport "transport_budget_invalid"

/-- `_transportBudget`. -/
def transportBudget (input : Document) : Try Unit := do
  let budget ← transportMap input
  keys budget ["policy_ref", "total_deadline_ms", "stage_caps_ms", "max_attempts", "max_endpoints",
    "max_concurrency", "max_diagnostic_bytes", "cooldown_ms", "hints_ttl_ms", "max_repairs"]
  let _ ← transportRefs 1 1 (.list [budget.get "policy_ref"])
  let totalDeadline ← budgetField budget "total_deadline_ms" 1 86400000
  let maxAttempts ← budgetField budget "max_attempts" 1 10000
  let _ ← budgetField budget "max_endpoints" 1 10000
  let _ ← budgetField budget "max_concurrency" 1 256
  let _ ← budgetField budget "max_diagnostic_bytes" 0 67108864
  let _ ← budgetField budget "cooldown_ms" 0 86400000
  let _ ← budgetField budget "hints_ttl_ms" 1 2678400000
  let maxRepairs ← budgetField budget "max_repairs" 0 10000
  let stages ← transportMap (budget.get "stage_caps_ms")
  let names := ["profile", "transport", "dns", "payload", "egress"]
  keys stages names
  names.forM fun name => discard (budgetField stages name 1 totalDeadline)
  refuseIf (maxAttempts < maxRepairs) "transport_budget_invalid"

/-! ## Capability bindings -/

inductive RuntimeTransportFeature
  | dnsttVless
  | atsLease
  | awg31
  | telegramWs
  | grpc
  | hysteria2
  | naiveH2
  | reality
  | tls
  | utls
  | vless
  | xhttp
  | slipstreamVless
deriving DecidableEq

namespace RuntimeTransportFeature

def wireName : RuntimeTransportFeature → String
  | dnsttVless => "dnstt_vless_v1"
  | atsLease => "pokrov_ats_lease_v1"
  | awg31 => "pokrov_awg31_endpoint_v1"
  | telegramWs => "pokrov_telegram_ws_v1"
  | grpc => "singbox_grpc_v1"
  | hysteria2 => "singbox_hysteria2_v1"
  | naiveH2 => "singbox_naive_h2_v1"
  | reality => "singbox_reality_v1"
  | tls => "singbox_tls_v1"
  | utls => "singbox_utls_v1"
  | vless => "singbox_vless_v1"
  | xhttp => "singbox_xhttp_v1"
  | slipstreamVless => "slipstream_vless_v1"

def values : List RuntimeTransportFeature :=
  [dnsttVless, atsLease, awg31, telegramWs, grpc, hysteria2, naiveH2, reality, tls, utls, vless,
    xhttp, slipstreamVless]

end RuntimeTransportFeature

inductive HostPlatform
  | android
  | ios
  | linux
  | macos
  | windows
deriving DecidableEq

def HostPlatform.wireName : HostPlatform → String
  | android => "android"
  | ios => "ios"
  | linux => "linux"
  | macos => "macos"
  | windows => "windows"

def HostPlatform.values : List HostPlatform := [.android, .ios, .linux, .macos, .windows]

structure TransportCapabilityBinding where
  capabilityRef : Text
  coreCapabilityRevision : Text
  requiredFeatures : List RuntimeTransportFeature
  artifacts : List (HostPlatform × Text)
  profileRefs : List Text

def invalidBinding {α : Type} : Try α := throwTransport "transport_capability_binding_invalid"

/-- Known features, each name after the one before it. -/
def requiredFeatures : Option Text → List Document → Try (List RuntimeTransportFeature)
  | _, [] => .ok []
  | previous, .string name :: rest =>
    if previous.any (fun previous => !decide (previous < name)) = true then invalidBinding
    else match RuntimeTransportFeature.values.find? fun item => text item.wireName = name with
      | none => invalidBinding
      | some feature => do
          let features ← requiredFeatures (some name) rest
          return feature :: features
  | _, _ :: _ => invalidBinding

/-- The revision that each artifact was bound to so far. -/
abbrev Revisions := List ((HostPlatform × Text) × Text)

/-- Artifacts in the order of platform and digest. An artifact has one revision. -/
def boundArtifacts (revision : Text) : Revisions → Option Text → List Document →
    Try (List (HostPlatform × Text) × Revisions)
  | revisions, _, [] => .ok ([], revisions)
  | revisions, previous, raw :: rest => do
      let artifact ← transportMap raw
      keys artifact ["platform", "artifact_sha256"]
      let platform := HostPlatform.values.find? fun item =>
        match artifact.get "platform" with
        | .string name => text item.wireName = name
        | _ => false
      match platform with
      | none => invalidBinding
      | some platform =>
        let digest ← transportDigest (artifact.get "artifact_sha256")
        let order := text platform.wireName ++ unit ':' :: digest
        if previous.any (fun previous => !decide (previous < order)) = true then invalidBinding
        else if (revisions.lookup (platform, digest)).any (· ≠ revision) = true then invalidBinding
        else do
          let (artifacts, revisions) ←
            boundArtifacts revision (((platform, digest), revision) :: revisions) (some order) rest
          return ((platform, digest) :: artifacts, revisions)

/-- `_transportCapabilityBindings`, one for each capability in their order. -/
def capabilityBindings (profileRefs : List Text) : Revisions → List Text → List Document →
    Try (List TransportCapabilityBinding)
  | _, [], [] => .ok []
  | revisions, capabilityRef :: refs, input :: rest => do
      let value ← transportMap input
      keys value ["capability_ref", "core_capability_revision", "required_features", "artifacts",
        "profile_refs"]
      match value.get "capability_ref" with
      | .string name =>
        if name ≠ capabilityRef then invalidBinding
        else do
          let revision ← transportRefs 1 1 (.list [value.get "core_capability_revision"])
          let revision := revision.headD []
          let profiles ← transportRefs 1 1024 (value.get "profile_refs")
          if profiles.all profileRefs.contains = false then invalidBinding
          else match value.get "required_features", value.get "artifacts" with
            | .list rawFeatures, .list rawArtifacts =>
              if rawFeatures = [] ∨ RuntimeTransportFeature.values.length < rawFeatures.length then
                invalidBinding
              else do
                let features ← requiredFeatures none rawFeatures
                if rawArtifacts = [] ∨ 64 < rawArtifacts.length then invalidBinding
                else do
                  let (artifacts, revisions) ← boundArtifacts revision revisions none rawArtifacts
                  let bindings ← capabilityBindings profileRefs revisions refs rest
                  return { capabilityRef, coreCapabilityRevision := revision,
                           requiredFeatures := features, artifacts,
                           profileRefs := profiles } :: bindings
            | _, _ => invalidBinding
      | _ => invalidBinding
  | _, _, _ => invalidBinding

def transportCapabilityBindings (capabilityRefs profileRefs : List Text) :
    Document → Try (List TransportCapabilityBinding)
  | .list input =>
    if input.length ≠ capabilityRefs.length then invalidBinding
    else capabilityBindings profileRefs [] capabilityRefs input
  | _ => invalidBinding

end Pokrov.AppShell
