import Pokrov.AppShell.Bootstrap.Reading

/-!
# Chains of outbounds

`_normalizeVpnOutboundChains` and what it calls: the groups of a profile, which are its selectors
and its tests of URLs, keep the members that lead to the VPN only, or get its transports instead.
-/

namespace Pokrov.AppShell.Bootstrap

open Dart

/-- `_readText(outbound['tag'])`. -/
def tagOf (outbound : Fields) : Text := readText (outbound.get "tag")

/-- The members of a group. -/
def targetsOf (outbound : Fields) : List Text := readTagList (outbound.get "outbounds")

variable (toLowerCase : Text → Text)

/-- `_readText(outbound['type']).toLowerCase()`. -/
def typeOf (outbound : Fields) : Text := toLowerCase (readText (outbound.get "type"))

/-- `_isSelectorLikeOutbound`. -/
def isSelectorLikeOutbound (outbound : Fields) : Bool :=
  typeOf toLowerCase outbound = text "selector" || typeOf toLowerCase outbound = text "urltest"

/-! ## Safe tags -/

/-- The set is a list of tags. -/
def addTag (tags : List Text) (tag : Text) : List Text := if tag ∈ tags then tags else tags ++ [tag]

theorem mem_addTag {tags : List Text} {tag t : Text} : t ∈ addTag tags tag ↔ t ∈ tags ∨ t = tag := by
  unfold addTag
  by_cases h : tag ∈ tags
  · simp only [if_pos h]
    grind
  · simp [h]

/-- One outbound of a round of the search for safe tags. -/
def addSafeTag (safeTags : List Text) (outbound : Fields) : List Text :=
  if !isSelectorLikeOutbound toLowerCase outbound then safeTags
  else if tagOf outbound = [] ∨ targetsOf outbound = [] ∨
      ¬ (targetsOf outbound).all (fun tag => safeTags.contains tag) then safeTags
  else addTag safeTags (tagOf outbound)

/-- `while (changed)`. -/
def safeRounds (outbounds : List Fields) : Nat → List Text → List Text
  | 0, safeTags => safeTags
  | n + 1, safeTags =>
    let next := outbounds.foldl (addSafeTag toLowerCase) safeTags
    if next = safeTags then safeTags else safeRounds outbounds n next

/-- `_computeVpnSafeOutboundTags`. A round that changes something adds the tag of an outbound, so
there is one more round than outbounds at most. -/
def computeVpnSafeOutboundTags (outbounds : List Fields) (proxyOutboundTags : List Text) :
    List Text :=
  safeRounds toLowerCase outbounds (outbounds.length + 1) (proxyOutboundTags.foldl addTag [])

/-! ## Groups -/

/-- `outbound.remove(key)`. -/
def removeField (fields : Fields) (key : String) : Fields :=
  fields.filter fun field => field.1 ≠ text key

/-- `_normalizeSelectorDefault`, and whether it changed the outbound. -/
def normalizeSelectorDefault (outbound : Fields) (allowedTargets : List Text) : Fields × Bool :=
  if readText (outbound.get "default") ∈ allowedTargets then (outbound, false)
  else match allowedTargets with
    | [] => (removeField outbound "default", !(outbound.get "default").isNull)
    | first :: _ => (setField outbound "default" (.string first), true)

variable (safeTags safeProxyTags : List Text) (directTag : Text)

/-- `nextTargets`. -/
def nextTargets (originalTargets : List Text) : List Text :=
  let filteredTargets :=
    originalTargets.filter fun tag => decide (tag ≠ directTag) && safeTags.contains tag
  if filteredTargets = [] then safeProxyTags else filteredTargets

/-- The members of a group are rewritten when they change. -/
def rewriteTargets (outbound : Fields) (targets : List Text) : Fields :=
  if targetsOf outbound = targets then outbound
  else setField outbound "outbounds" (tagDocument targets)

/-- One outbound of a pass, and whether it changed. -/
def normalizeOutbound (outbound : Fields) : Fields × Bool :=
  if !isSelectorLikeOutbound toLowerCase outbound then (outbound, false)
  else
    let targets := nextTargets safeTags safeProxyTags directTag (targetsOf outbound)
    let changed := decide (targetsOf outbound ≠ targets)
    let rewritten := rewriteTargets outbound targets
    if typeOf toLowerCase rewritten = text "selector" then
      let (normal, defaulted) := normalizeSelectorDefault rewritten targets
      (normal, defaulted || changed)
    else (rewritten, changed)

/-- One pass, and whether it changed an outbound. -/
def normalizePass (outbounds : List Fields) : List Fields × Bool :=
  let safeTags := computeVpnSafeOutboundTags toLowerCase outbounds safeProxyTags
  let normal := outbounds.map (normalizeOutbound toLowerCase safeTags safeProxyTags directTag)
  (normal.map (·.1), normal.any (·.2))

def normalizePasses : Nat → List Fields → List Fields
  | 0, outbounds => outbounds
  | n + 1, outbounds =>
    let (normal, changed) := normalizePass toLowerCase safeProxyTags directTag outbounds
    if changed then normalizePasses n normal else normal

/-- `_normalizeVpnOutboundChains`. -/
def normalizeVpnOutboundChains (outbounds : List Fields) (proxyOutboundTags : List Text) :
    List Fields :=
  let safeProxyTags := proxyOutboundTags.filter fun tag => decide (tag ≠ [] ∧ tag ≠ directTag)
  normalizePasses toLowerCase safeProxyTags directTag (outbounds.length + 1) outbounds

end Pokrov.AppShell.Bootstrap
