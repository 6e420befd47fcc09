import Pokrov.AppShell.Bootstrap.DnsBlock
import Pokrov.Lib.Walks

/-!
# Lanes that do not resolve through themselves

The resolvers of the servers are the edges of a graph. The block replaces the edges of the two
lanes, so it is sound just if the walks over the other servers lead from no resolver of a lane
back to one.
-/

namespace Pokrov.AppShell.Bootstrap

open Dart Relation Walks

/-! ## Resolvers -/

def domainResolvers : Document → List Text
  | .string tag => [tag]
  | .map resolver => [readText (Fields.get resolver "server")]
  | _ => []

/-- The servers that a server names as its resolvers. -/
def resolversOf (server : Fields) : List Text :=
  (domainResolvers (server.get "domain_resolver") ++ [readText (server.get "address_resolver")]).filter
    fun tag => decide (tag ≠ [])

def Resolves (servers : List Fields) (tag resolver : Text) : Prop :=
  ∃ server ∈ servers, tagOf server = tag ∧ resolver ∈ resolversOf server

/-- What becomes of a resolver of the direct lane. -/
def redirect (tag : Text) : Text := if tag ∈ laneTags then text "dns-local" else tag

theorem resolversOf_setField {server : Fields} {key : String} {value : Document}
    (hdomain : text "domain_resolver" ≠ text key) (haddress : text "address_resolver" ≠ text key) :
    resolversOf (setField server key value) = resolversOf server := by
  rw [resolversOf, resolversOf, get_setField_of_ne hdomain, get_setField_of_ne haddress]

theorem redirect_eq_nil {tag : Text} : redirect tag = [] ↔ tag = [] := by
  have hlocal : text "dns-local" ≠ [] ∧ ([] : Text) ∉ laneTags := by decide
  unfold redirect
  by_cases h : tag ∈ laneTags
  · have htag : tag ≠ [] := fun heq => hlocal.2 (heq ▸ h)
    simp [h, hlocal.1, htag]
  · simp [h]

theorem domainResolvers_redirected (definition : Fields) :
    domainResolvers ((redirectDomainResolver definition).get "domain_resolver") =
      (domainResolvers (definition.get "domain_resolver")).map redirect := by
  have htrim : trim (text "dns-local") = text "dns-local" := by decide
  unfold redirectDomainResolver
  split
  · next resolver hresolver =>
    rw [hresolver]
    by_cases h : readText (Fields.get resolver "server") ∈ laneTags
    · simp [h, get_setField_self, domainResolvers, redirect, htrim]
    · simp [h, hresolver, domainResolvers, redirect]
  · next resolver hresolver =>
    rw [hresolver]
    by_cases h : resolver ∈ laneTags
    · simp [h, get_setField_self, domainResolvers, redirect]
    · simp [h, hresolver, domainResolvers, redirect]
  · next hmap hstring =>
    unfold domainResolvers
    split
    · next tag htag => exact absurd htag (hstring tag)
    · next resolver hresolver => exact absurd hresolver (hmap resolver)
    · rfl

variable {definition : Fields}

theorem lookup_redirectDomainResolver {key : Text} (h : key ≠ text "domain_resolver") :
    (redirectDomainResolver definition).lookup key = definition.lookup key := by
  unfold redirectDomainResolver
  split
  · split <;> simp [setField, lookup_setField, h]
  · split <;> simp [setField, lookup_setField, h]
  · rfl

theorem lookup_redirectAddressResolver {key : Text} (h : key ≠ text "address_resolver") :
    (redirectAddressResolver definition).lookup key = definition.lookup key := by
  unfold redirectAddressResolver
  split <;> simp [setField, lookup_setField, h]

theorem readText_redirectAddressResolver (definition : Fields) :
    readText ((redirectAddressResolver definition).get "address_resolver") =
      redirect (readText (definition.get "address_resolver")) := by
  have htrim : trim (text "dns-local") = text "dns-local" := by decide
  unfold redirectAddressResolver
  by_cases h : readText (definition.get "address_resolver") ∈ laneTags
  · simp [h, get_setField_self, redirect, htrim]
  · simp [h, redirect]

/-- The resolvers of a direct lane are redirected, one by one. -/
theorem resolversOf_redirectResolvers (definition : Fields) :
    resolversOf (redirectResolvers definition) = (resolversOf definition).map redirect := by
  have hkeys : text "address_resolver" ≠ text "domain_resolver" ∧
      text "domain_resolver" ≠ text "address_resolver" := by decide
  have hdomain := @lookup_redirectAddressResolver (redirectDomainResolver definition) _
    hkeys.2
  have haddress := @lookup_redirectDomainResolver definition _ hkeys.1
  have hpieces : domainResolvers ((redirectResolvers definition).get "domain_resolver") ++
      [readText ((redirectResolvers definition).get "address_resolver")] =
        (domainResolvers (definition.get "domain_resolver") ++
          [readText (definition.get "address_resolver")]).map redirect := by
    rw [redirectResolvers, get_eq_of_lookup hdomain, domainResolvers_redirected,
      readText_redirectAddressResolver, get_eq_of_lookup haddress, List.map_append]
    rfl
  rw [resolversOf, resolversOf, hpieces, List.filter_map]
  refine congrArg (List.map redirect) (List.filter_congr fun tag _ => ?_)
  simp [redirect_eq_nil]

/-! ## Servers -/

theorem tags_putServer {tag : Text} (h : tagOf definition = tag) (servers : List Fields) :
    (putServer tag definition servers).map tagOf =
      addTag (servers.map tagOf) tag := by
  induction servers with
  | nil => simp [putServer, addTag, h]
  | cons server rest ih =>
    unfold putServer
    by_cases hserver : tagOf server = tag
    · simp [hserver, addTag, h]
    · simp only [if_neg hserver, List.map_cons, ih, addTag, List.mem_cons, Ne.symm hserver,
        false_or]
      split <;> simp

theorem nodup_addTag {tags : List Text} {tag : Text} (h : tags.Nodup) : (addTag tags tag).Nodup := by
  unfold addTag
  split
  · exact h
  · next hnew =>
    rw [List.nodup_append]
    refine ⟨h, by simp, fun t ht u hu => ?_⟩
    rw [List.mem_singleton.mp hu]
    exact fun heq => hnew (heq ▸ ht)

/-- The server of the tag is the new one, and the others are those that were there. -/
theorem mem_putServer {tag : Text} {servers : List Fields} (h : (servers.map tagOf).Nodup)
    {server : Fields} : server ∈ putServer tag definition servers ↔
      server = definition ∨ (server ∈ servers ∧ tagOf server ≠ tag) := by
  induction servers with
  | nil => simp [putServer]
  | cons first rest ih =>
    rw [List.map_cons, List.nodup_cons] at h
    unfold putServer
    by_cases hfirst : tagOf first = tag
    · have hrest : ∀ server ∈ rest, tagOf server ≠ tag := fun server hserver heq =>
        h.1 (List.mem_map.mpr ⟨server, hserver, heq.trans hfirst.symm⟩)
      simp only [if_pos hfirst, List.mem_cons]
      constructor
      · rintro (rfl | hserver)
        · exact .inl rfl
        · exact .inr ⟨.inr hserver, hrest server hserver⟩
      · rintro (rfl | ⟨rfl | hserver, hne⟩)
        · exact .inl rfl
        · exact absurd hfirst hne
        · exact .inr hserver
    · simp only [if_neg hfirst, List.mem_cons, ih h.2]
      constructor
      · rintro (rfl | rfl | ⟨hserver, hne⟩)
        · exact .inr ⟨.inl rfl, hfirst⟩
        · exact .inl rfl
        · exact .inr ⟨.inr hserver, hne⟩
      · rintro (rfl | ⟨rfl | hserver, hne⟩)
        · exact .inr (.inl rfl)
        · exact .inl rfl
        · exact .inr (.inr ⟨hserver, hne⟩)

theorem find_putServer {tag other : Text} (h : tagOf definition = tag) (hne : tag ≠ other)
    (servers : List Fields) :
    (putServer tag definition servers).find? (fun server => tagOf server = other) =
      servers.find? fun server => tagOf server = other := by
  induction servers with
  | nil => simp [putServer, h, hne]
  | cons server rest ih =>
    unfold putServer
    by_cases hserver : tagOf server = tag
    · simp [hserver, h, hne]
    · simp only [if_neg hserver, List.find?_cons, ih]

section Lanes

variable {toLowerCase : Text → Text} {template existing : Option Fields} {tag detour : Text}
  {fallback : Fields}

theorem lookup_laneDefinition {key : Text} (htag : key ≠ text "tag") (hdetour : key ≠ text "detour")
    (hdomain : key ≠ text "domain_resolver") (haddress : key ≠ text "address_resolver") :
    (laneDefinition toLowerCase template existing tag detour fallback).lookup key =
      ((laneSource toLowerCase template existing tag).getD fallback).lookup key := by
  unfold laneDefinition
  simp only
  split
  · rw [redirectResolvers, lookup_redirectAddressResolver haddress,
      lookup_redirectDomainResolver hdomain]
    simp [setField, lookup_setField, htag, hdetour]
  · simp [setField, lookup_setField, htag, hdetour]

theorem laneDefinition_spec : tagOf (laneDefinition toLowerCase template existing tag detour
      fallback) = trim tag ∧
    (laneDefinition toLowerCase template existing tag detour fallback).get "detour" =
      .string detour ∧
    resolversOf (laneDefinition toLowerCase template existing tag detour fallback) =
      if tag = text "dns-direct" then
        (resolversOf ((laneSource toLowerCase template existing tag).getD fallback)).map redirect
      else resolversOf ((laneSource toLowerCase template existing tag).getD fallback) := by
  have hkeys : text "tag" ≠ text "detour" ∧ text "tag" ≠ text "domain_resolver" ∧
      text "tag" ≠ text "address_resolver" ∧ text "detour" ≠ text "domain_resolver" ∧
      text "detour" ≠ text "address_resolver" ∧ text "domain_resolver" ≠ text "tag" ∧
      text "domain_resolver" ≠ text "detour" ∧ text "address_resolver" ≠ text "tag" ∧
      text "address_resolver" ≠ text "detour" := by decide
  obtain ⟨htd, htr, hta, hdr, hda, hrt, hrd, hat, had⟩ := hkeys
  generalize hsource : (laneSource toLowerCase template existing tag).getD fallback = source
  have hdefinition : tagOf (setField (setField source "tag" (.string tag)) "detour"
        (.string detour)) = trim tag ∧
      (setField (setField source "tag" (.string tag)) "detour" (.string detour)).get "detour" =
        .string detour ∧
      resolversOf (setField (setField source "tag" (.string tag)) "detour" (.string detour)) =
        resolversOf source := by
    refine ⟨?_, get_setField_self _ _ _, ?_⟩
    · rw [tagOf, get_setField_of_ne htd, get_setField_self]
      rfl
    · rw [resolversOf_setField hrd had, resolversOf_setField hrt hat]
  unfold laneDefinition
  simp only [hsource]
  split
  · obtain ⟨htag, hdetour, hresolvers⟩ := hdefinition
    refine ⟨?_, ?_, ?_⟩
    · rw [tagOf, redirectResolvers, get_eq_of_lookup (lookup_redirectAddressResolver hta),
        get_eq_of_lookup (lookup_redirectDomainResolver htr)]
      exact htag
    · rw [redirectResolvers, get_eq_of_lookup (lookup_redirectAddressResolver hda),
        get_eq_of_lookup (lookup_redirectDomainResolver hdr)]
      exact hdetour
    · rw [resolversOf_redirectResolvers, hresolvers]
  · exact hdefinition

end Lanes

/-! ## The graph of the block -/

/-- The servers of the profile. -/
def baseServers (base : Fields) : List Fields := readListOfMaps (base.get "servers")

/-- The server that a lane is made of. -/
def sourceOf (toLowerCase : Text → Text) (base : Fields) (tag : Text) : Option Fields :=
  laneSource toLowerCase (dnsTemplate toLowerCase base)
    ((baseServers base).find? fun server => tagOf server = tag) tag

/-- The resolvers that a lane takes over, before they are redirected. -/
def laneResolvers (toLowerCase : Text → Text) (base : Fields) (tag : Text) : List Text :=
  (sourceOf toLowerCase base tag).elim [] resolversOf

section Graph

variable {toLowerCase : Text → Text} {base : Fields} {finalOutboundTag directTag : Text}

def remoteLane (toLowerCase : Text → Text) (base : Fields) (finalOutboundTag : Text) : Fields :=
  laneDefinition toLowerCase (dnsTemplate toLowerCase base)
    ((baseServers base).find? fun server => tagOf server = text "dns-remote") (text "dns-remote")
    finalOutboundTag remoteFallback

def directLane (toLowerCase : Text → Text) (base : Fields) (directTag : Text) : Fields :=
  laneDefinition toLowerCase (dnsTemplate toLowerCase base)
    ((baseServers base).find? fun server => tagOf server = text "dns-direct") (text "dns-direct")
    directTag directFallback

theorem resolversOf_getD {source : Option Fields} {fallback : Fields}
    (h : resolversOf fallback = []) :
    resolversOf (source.getD fallback) = source.elim [] resolversOf := by
  cases source with
  | none => exact h
  | some source => rfl

theorem remoteLane_spec : tagOf (remoteLane toLowerCase base finalOutboundTag) =
      text "dns-remote" ∧
    (remoteLane toLowerCase base finalOutboundTag).get "detour" = .string finalOutboundTag ∧
    resolversOf (remoteLane toLowerCase base finalOutboundTag) =
      laneResolvers toLowerCase base (text "dns-remote") := by
  have hname : trim (text "dns-remote") = text "dns-remote" ∧
      text "dns-remote" ≠ text "dns-direct" ∧ resolversOf remoteFallback = [] := by decide
  obtain ⟨htag, hdetour, hresolvers⟩ := @laneDefinition_spec toLowerCase (dnsTemplate toLowerCase base)
    ((baseServers base).find? fun server => tagOf server = text "dns-remote") (text "dns-remote")
    finalOutboundTag remoteFallback
  rw [if_neg hname.2.1, resolversOf_getD hname.2.2] at hresolvers
  exact ⟨htag.trans hname.1, hdetour, hresolvers⟩

theorem directLane_spec : tagOf (directLane toLowerCase base directTag) = text "dns-direct" ∧
    (directLane toLowerCase base directTag).get "detour" = .string directTag ∧
    resolversOf (directLane toLowerCase base directTag) =
      (laneResolvers toLowerCase base (text "dns-direct")).map redirect := by
  have hname : trim (text "dns-direct") = text "dns-direct" ∧ resolversOf directFallback = [] := by
    decide
  obtain ⟨htag, hdetour, hresolvers⟩ := @laneDefinition_spec toLowerCase (dnsTemplate toLowerCase base)
    ((baseServers base).find? fun server => tagOf server = text "dns-direct") (text "dns-direct")
    directTag directFallback
  rw [if_pos rfl, resolversOf_getD hname.2] at hresolvers
  exact ⟨htag.trans hname.1, hdetour, hresolvers⟩

theorem desktopServers_eq : desktopServers toLowerCase base finalOutboundTag directTag =
    ensureDnsServerDefinition
      (putServer (text "dns-direct") (directLane toLowerCase base directTag)
        (putServer (text "dns-remote") (remoteLane toLowerCase base finalOutboundTag)
          (baseServers base)))
      (text "dns-local") localDefinition := by
  have hne : text "dns-remote" ≠ text "dns-direct" := by decide
  have hfind := find_putServer (@remoteLane_spec toLowerCase base finalOutboundTag).1 hne (baseServers base)
  simp only [desktopServers, putLane]
  rw [directLane, ← hfind]
  rfl

/-- The tags of the block are those of the profile, of the lanes and of the local server. -/
theorem mem_tags_desktopServers {tag : Text} :
    tag ∈ (desktopServers toLowerCase base finalOutboundTag directTag).map tagOf ↔
      tag ∈ (baseServers base).map tagOf ∨ tag = text "dns-remote" ∨ tag = text "dns-direct" ∨
        tag = text "dns-local" := by
  have hlocal : tagOf localDefinition = text "dns-local" := by decide
  have hlanes : tag ∈ (putServer (text "dns-direct") (directLane toLowerCase base directTag)
      (putServer (text "dns-remote") (remoteLane toLowerCase base finalOutboundTag)
        (baseServers base))).map tagOf ↔
      (tag ∈ (baseServers base).map tagOf ∨ tag = text "dns-remote") ∨ tag = text "dns-direct" := by
    rw [tags_putServer directLane_spec.1, tags_putServer remoteLane_spec.1, mem_addTag, mem_addTag]
  rw [desktopServers_eq, ensureDnsServerDefinition]
  split
  · next hany =>
    obtain ⟨server, hserver, htag⟩ := List.any_eq_true.mp hany
    have hmem : tag = text "dns-local" → tag ∈ (putServer (text "dns-direct")
        (directLane toLowerCase base directTag) (putServer (text "dns-remote")
          (remoteLane toLowerCase base finalOutboundTag) (baseServers base))).map tagOf := fun h =>
      List.mem_map.mpr ⟨server, hserver, (of_decide_eq_true htag).trans h.symm⟩
    constructor
    · intro h
      rcases hlanes.mp h with (h | h) | h
      · exact .inl h
      · exact .inr (.inl h)
      · exact .inr (.inr (.inl h))
    · rintro (h | h | h | h)
      · exact hlanes.mpr (.inl (.inl h))
      · exact hlanes.mpr (.inl (.inr h))
      · exact hlanes.mpr (.inr h)
      · exact hmem h
  · rw [List.map_append, List.mem_append, hlanes, List.map_singleton, hlocal, List.mem_singleton,
      or_assoc, or_assoc]

variable (hdistinct : ((baseServers base).map tagOf).Nodup)
include hdistinct

/-- The lanes are as they were made, and the others are servers of the profile, besides a local
server without resolvers. -/
theorem mem_desktopServers {server : Fields}
    (h : server ∈ desktopServers toLowerCase base finalOutboundTag directTag) :
    server = remoteLane toLowerCase base finalOutboundTag ∨
      server = directLane toLowerCase base directTag ∨
      (server ∈ baseServers base ∧ tagOf server ≠ text "dns-remote" ∧
        tagOf server ≠ text "dns-direct") ∨ server = localDefinition := by
  have hput : server ∈ putServer (text "dns-direct") (directLane toLowerCase base directTag)
      (putServer (text "dns-remote") (remoteLane toLowerCase base finalOutboundTag)
        (baseServers base)) → server = remoteLane toLowerCase base finalOutboundTag ∨
      server = directLane toLowerCase base directTag ∨
      (server ∈ baseServers base ∧ tagOf server ≠ text "dns-remote" ∧
        tagOf server ≠ text "dns-direct") ∨ server = localDefinition := by
    intro h
    rw [mem_putServer (by
      rw [tags_putServer remoteLane_spec.1]
      exact nodup_addTag hdistinct), mem_putServer hdistinct] at h
    rcases h with h | ⟨h | ⟨h, hremote⟩, hdirect⟩
    · exact .inr (.inl h)
    · exact .inl h
    · exact .inr (.inr (.inl ⟨h, hremote, hdirect⟩))
  rw [desktopServers_eq, ensureDnsServerDefinition] at h
  split at h
  · exact hput h
  · rcases List.mem_append.mp h with h | h
    · exact hput h
    · exact .inr (.inr (.inr (List.mem_singleton.mp h)))

theorem mem_desktopServers_of {server : Fields}
    (h : server = remoteLane toLowerCase base finalOutboundTag ∨
      server = directLane toLowerCase base directTag ∨
      (server ∈ baseServers base ∧ tagOf server ≠ text "dns-remote" ∧
        tagOf server ≠ text "dns-direct")) :
    server ∈ desktopServers toLowerCase base finalOutboundTag directTag := by
  have hne : text "dns-remote" ≠ text "dns-direct" := by decide
  have hput : server ∈ putServer (text "dns-direct") (directLane toLowerCase base directTag)
      (putServer (text "dns-remote") (remoteLane toLowerCase base finalOutboundTag)
        (baseServers base)) := by
    rw [mem_putServer (by
      rw [tags_putServer remoteLane_spec.1]
      exact nodup_addTag hdistinct), mem_putServer hdistinct]
    rcases h with rfl | h | ⟨h, hremote, hdirect⟩
    · exact .inr ⟨.inl rfl, by rw [remoteLane_spec.1]; exact hne⟩
    · exact .inl h
    · exact .inr ⟨.inr ⟨h, hremote⟩, hdirect⟩
  rw [desktopServers_eq, ensureDnsServerDefinition]
  split
  · exact hput
  · exact List.mem_append_left _ hput

/-- The edges of the lanes are new. -/
theorem resolves_lanes {resolver : Text} :
    (Resolves (desktopServers toLowerCase base finalOutboundTag directTag) (text "dns-remote")
        resolver ↔ resolver ∈ laneResolvers toLowerCase base (text "dns-remote")) ∧
      (Resolves (desktopServers toLowerCase base finalOutboundTag directTag) (text "dns-direct")
        resolver ↔ resolver ∈ (laneResolvers toLowerCase base (text "dns-direct")).map redirect) := by
  have hnames : text "dns-remote" ≠ text "dns-direct" ∧
      tagOf localDefinition ≠ text "dns-remote" ∧ tagOf localDefinition ≠ text "dns-direct" := by
    decide
  obtain ⟨hne, hremote, hdirect⟩ := hnames
  constructor
  · rw [← (@remoteLane_spec toLowerCase base finalOutboundTag).2.2]
    constructor
    · rintro ⟨server, hserver, htag, hresolver⟩
      rcases mem_desktopServers hdistinct hserver with rfl | rfl | ⟨-, hother, -⟩ | rfl
      · exact hresolver
      · exact absurd (directLane_spec.1.symm.trans htag).symm hne
      · exact absurd htag hother
      · exact absurd htag hremote
    · exact fun h => ⟨_, mem_desktopServers_of hdistinct (.inl rfl), remoteLane_spec.1, h⟩
  · rw [← (@directLane_spec toLowerCase base directTag).2.2]
    constructor
    · rintro ⟨server, hserver, htag, hresolver⟩
      rcases mem_desktopServers hdistinct hserver with rfl | rfl | ⟨-, -, hother⟩ | rfl
      · exact absurd (remoteLane_spec.1.symm.trans htag) hne
      · exact hresolver
      · exact absurd htag hother
      · exact absurd htag hdirect
    · exact fun h => ⟨_, mem_desktopServers_of hdistinct (.inr (.inl rfl)), directLane_spec.1, h⟩

/-- The other edges are those of the profile. -/
theorem off_desktopServers :
    Off (Resolves (desktopServers toLowerCase base finalOutboundTag directTag)) (text "dns-remote")
        (text "dns-direct") =
      Off (Resolves (baseServers base)) (text "dns-remote") (text "dns-direct") := by
  have hlocal : resolversOf localDefinition = [] := by decide
  funext a b
  refine propext (and_congr_right fun hremote => and_congr_right fun hdirect => ?_)
  constructor
  · rintro ⟨server, hserver, rfl, hresolver⟩
    rcases mem_desktopServers hdistinct hserver with rfl | rfl | ⟨hbase, -⟩ | rfl
    · exact absurd remoteLane_spec.1 hremote
    · exact absurd directLane_spec.1 hdirect
    · exact ⟨server, hbase, rfl, hresolver⟩
    · rw [hlocal] at hresolver
      cases hresolver
  · rintro ⟨server, hserver, rfl, hresolver⟩
    exact ⟨server, mem_desktopServers_of hdistinct (.inr (.inr ⟨hserver, hremote, hdirect⟩)), rfl,
      hresolver⟩

end Graph

/-! ## Sound lanes -/

section Sound

variable {toLowerCase : Text → Text} {base : Fields}

variable {server : Fields}

theorem mem_of_dnsTemplate (h : dnsTemplate toLowerCase base = some server) :
    server ∈ baseServers base ∧ isNetworkDns toLowerCase server = true := by
  have hmem : server ∈ (baseServers base).filter (isNetworkDns toLowerCase) := by
    unfold dnsTemplate at h
    simp only [Option.orElse_eq_orElse, Option.orElse_eq_or, Option.or_eq_some_iff] at h
    rcases h with h | ⟨-, h | ⟨-, h⟩⟩
    · exact List.mem_of_find?_eq_some h
    · exact List.mem_of_find?_eq_some h
    · exact List.mem_of_mem_head? h
  exact List.mem_filter.mp hmem

theorem mem_of_sourceOf {tag : Text} (h : sourceOf toLowerCase base tag = some server) :
    server ∈ baseServers base := by
  unfold sourceOf laneSource at h
  split at h
  · exact (mem_of_dnsTemplate h).1
  · simp only [Option.orElse_eq_orElse, Option.orElse_eq_or, Option.or_eq_some_iff] at h
    rcases h with h | ⟨-, h⟩
    · exact List.mem_of_find?_eq_some h
    · exact (mem_of_dnsTemplate h).1

/-- The source of the remote lane is a network server. -/
theorem isNetworkDns_of_sourceOf (h : sourceOf toLowerCase base (text "dns-remote") = some server) :
    isNetworkDns toLowerCase server = true := by
  unfold sourceOf laneSource at h
  split at h
  · exact (mem_of_dnsTemplate h).2
  · next hnetwork =>
    simp only [Option.orElse_eq_orElse, Option.orElse_eq_or, Option.or_eq_some_iff] at h
    rcases h with h | ⟨-, h⟩
    · rw [h] at hnetwork
      simpa using hnetwork
    · exact (mem_of_dnsTemplate h).2

/-- The lanes are what they are made for. -/
structure LanesSound (toLowerCase : Text → Text) (servers : List Fields)
    (finalOutboundTag directTag : Text) : Prop where
  named : ∀ tag resolver, Resolves servers tag resolver → resolver ∈ servers.map tagOf
  acyclic : ∀ tag, ¬ TransGen (Resolves servers) tag tag
  present : text "dns-remote" ∈ servers.map tagOf ∧ text "dns-direct" ∈ servers.map tagOf
  remote : ∀ server ∈ servers, tagOf server = text "dns-remote" →
    isNetworkDns toLowerCase server = true ∧ server.get "detour" = .string finalOutboundTag
  direct : ∀ server ∈ servers, tagOf server = text "dns-direct" →
    server.get "detour" = .string directTag
  apart : ¬ TransGen (Resolves servers) (text "dns-direct") (text "dns-remote")

/-- No chain of resolvers over servers of the profile that are not lanes leads from what a lane
takes over to a lane that it must not reach. -/
def LanesApart (toLowerCase : Text → Text) (base : Fields) : Prop :=
  (∀ resolver ∈ (laneResolvers toLowerCase base (text "dns-direct")).map redirect,
    ¬ ReflTransGen (Off (Resolves (baseServers base)) (text "dns-remote") (text "dns-direct"))
        resolver (text "dns-remote") ∧
      ¬ ReflTransGen (Off (Resolves (baseServers base)) (text "dns-remote") (text "dns-direct"))
        resolver (text "dns-direct")) ∧
  ∀ resolver ∈ laneResolvers toLowerCase base (text "dns-remote"),
    ¬ ReflTransGen (Off (Resolves (baseServers base)) (text "dns-remote") (text "dns-direct"))
      resolver (text "dns-remote")

variable {finalOutboundTag directTag : Text}

theorem isNetworkDns_congr {server server' : Fields}
    (htype : server'.lookup (text "type") = server.lookup (text "type"))
    (haddress : server'.lookup (text "address") = server.lookup (text "address")) :
    isNetworkDns toLowerCase server' = isNetworkDns toLowerCase server := by
  rw [isNetworkDns, isNetworkDns, get_eq_of_lookup htype, get_eq_of_lookup haddress]

theorem isNetworkDns_remoteLane (hlower : LowersAscii toLowerCase) :
    isNetworkDns toLowerCase (remoteLane toLowerCase base finalOutboundTag) = true := by
  have hkeys : (text "type" ≠ text "tag" ∧ text "type" ≠ text "detour" ∧
      text "type" ≠ text "domain_resolver" ∧ text "type" ≠ text "address_resolver") ∧
      text "address" ≠ text "tag" ∧ text "address" ≠ text "detour" ∧
      text "address" ≠ text "domain_resolver" ∧ text "address" ≠ text "address_resolver" := by
    decide
  obtain ⟨⟨ht, htd, htr, hta⟩, ha, had, har, haa⟩ := hkeys
  have hsame := @isNetworkDns_congr toLowerCase _ (remoteLane toLowerCase base finalOutboundTag)
    (lookup_laneDefinition ht htd htr hta) (lookup_laneDefinition ha had har haa)
  rw [hsame]
  have hsource : sourceOf toLowerCase base (text "dns-remote") = laneSource toLowerCase
      (dnsTemplate toLowerCase base)
      ((baseServers base).find? fun server => tagOf server = text "dns-remote")
      (text "dns-remote") := rfl
  rw [← hsource]
  cases h : sourceOf toLowerCase base (text "dns-remote") with
  | some server => exact isNetworkDns_of_sourceOf h
  | none =>
    have htcp : toLowerCase (text "tcp") = text "tcp" := hlower _ (by decide)
    have hempty : toLowerCase [] = [] := hlower [] rfl
    have htype : readText (remoteFallback.get "type") = text "tcp" ∧
        readText (remoteFallback.get "address") = [] := by decide
    have hne : text "tcp" ≠ text "local" ∧ ([] : Text) ≠ text "local" ∧
        (text "rcode://").isPrefixOf [] = false := by decide
    simp [isNetworkDns, htype, htcp, hempty, hne]

variable (hdistinct : ((baseServers base).map tagOf).Nodup)
include hdistinct

/-- The lanes are sound just if they are apart in the profile. -/
theorem lanesSound_iff (hlower : LowersAscii toLowerCase)
    (hnamed : ∀ tag resolver, Resolves (baseServers base) tag resolver →
      resolver ∈ (baseServers base).map tagOf)
    (hacyclic : ∀ tag, ¬ TransGen (Resolves (baseServers base)) tag tag) :
    LanesSound toLowerCase (desktopServers toLowerCase base finalOutboundTag directTag)
        finalOutboundTag directTag ↔ LanesApart toLowerCase base := by
  have hoffEq := @off_desktopServers toLowerCase base finalOutboundTag directTag hdistinct
  have hoff : ∀ tag, ¬ TransGen (Off (Resolves (desktopServers toLowerCase base finalOutboundTag
      directTag)) (text "dns-remote") (text "dns-direct")) tag tag := by
    rw [hoffEq]
    have hle : Off (Resolves (baseServers base)) (text "dns-remote") (text "dns-direct") ≤
        Resolves (baseServers base) := fun _ _ hab => hab.2.2
    exact fun tag h => hacyclic tag (TransGen.mono hle _ _ h)
  have hgraph := acyclic_and_apart_iff hoff
  rw [hoffEq] at hgraph
  have hapart : LanesApart toLowerCase base ↔
      (∀ tag, ¬ TransGen (Resolves (desktopServers toLowerCase base finalOutboundTag directTag))
        tag tag) ∧ ¬ TransGen (Resolves (desktopServers toLowerCase base finalOutboundTag
          directTag)) (text "dns-direct") (text "dns-remote") := by
    rw [hgraph, LanesApart]
    simp only [(resolves_lanes hdistinct).1, (resolves_lanes hdistinct).2]
  rw [hapart]
  constructor
  · exact fun h => ⟨h.acyclic, h.apart⟩
  · rintro ⟨hacyclic', hapart'⟩
    have hlane : ∀ {tag resolver : Text}, resolver ∈ laneResolvers toLowerCase base tag →
        resolver ∈ (baseServers base).map tagOf := by
      intro tag resolver hresolver
      unfold laneResolvers at hresolver
      cases hsource : sourceOf toLowerCase base tag with
      | none =>
        rw [hsource] at hresolver
        cases hresolver
      | some server =>
        rw [hsource] at hresolver
        exact hnamed _ resolver ⟨server, mem_of_sourceOf hsource, rfl, hresolver⟩
    constructor
    case acyclic => exact hacyclic'
    case apart => exact hapart'
    case named =>
      rintro tag resolver ⟨server, hserver, htag, hresolver⟩
      rw [mem_tags_desktopServers]
      rcases mem_desktopServers hdistinct hserver with rfl | rfl | ⟨hbase, -⟩ | rfl
      · rw [remoteLane_spec.2.2] at hresolver
        exact .inl (hlane hresolver)
      · rw [directLane_spec.2.2] at hresolver
        obtain ⟨source, hsource, rfl⟩ := List.mem_map.mp hresolver
        unfold redirect
        split
        · exact .inr (.inr (.inr rfl))
        · exact .inl (hlane hsource)
      · exact .inl (hnamed _ resolver ⟨server, hbase, rfl, hresolver⟩)
      · have hlocal : resolversOf localDefinition = [] := by decide
        rw [hlocal] at hresolver
        cases hresolver
    case present =>
      exact ⟨mem_tags_desktopServers.mpr (.inr (.inl rfl)),
        mem_tags_desktopServers.mpr (.inr (.inr (.inl rfl)))⟩
    case remote =>
      intro server hserver htag
      have hne : text "dns-direct" ≠ text "dns-remote" ∧
          tagOf localDefinition ≠ text "dns-remote" := by decide
      rcases mem_desktopServers hdistinct hserver with rfl | rfl | ⟨-, hother, -⟩ | rfl
      · exact ⟨isNetworkDns_remoteLane hlower, remoteLane_spec.2.1⟩
      · exact absurd (directLane_spec.1.symm.trans htag) hne.1
      · exact absurd htag hother
      · exact absurd htag hne.2
    case direct =>
      intro server hserver htag
      have hne : text "dns-remote" ≠ text "dns-direct" ∧
          tagOf localDefinition ≠ text "dns-direct" := by decide
      rcases mem_desktopServers hdistinct hserver with rfl | rfl | ⟨-, -, hother⟩ | rfl
      · exact absurd (remoteLane_spec.1.symm.trans htag) hne.1
      · exact directLane_spec.2.1
      · exact absurd htag hother
      · exact absurd htag hne.2

end Sound

/-! ## The block -/

theorem readListOfMaps_maps (maps : List Fields) :
    readListOfMaps (.list (maps.map .map)) = maps := by
  induction maps with
  | nil => rfl
  | cons fields rest ih =>
    simp only [readListOfMaps] at ih
    simp [readListOfMaps, ih]

/-- The block is made, with the servers. -/
theorem exists_buildDesktopDnsBlock (toLowerCase : Text → Text) (baseDns : Document)
    (outbounds : List Fields) (finalOutboundTag : Text) (routeMode : RouteMode)
    (selectedApps : List Text) (catalog : ClientRuleSetCatalog) :
    ∃ block, buildDesktopDnsBlock toLowerCase baseDns outbounds finalOutboundTag routeMode
        selectedApps catalog = some block ∧
      readListOfMaps (block.get "servers") =
        desktopServers toLowerCase (readMap baseDns) finalOutboundTag
          ((findOutboundTag toLowerCase outbounds (text "direct")).getD (text "direct")) := by
  have hkeys : text "servers" ≠ text "rules" ∧ text "servers" ≠ text "final" ∧
      text "servers" ≠ text "reverse_mapping" ∧ text "servers" ≠ text "disable_expire" ∧
      text "servers" ≠ text "independent_cache" := by decide
  obtain ⟨hrules, hfinal, hmapping, hexpire, hcache⟩ := hkeys
  have hmade : ∃ rules, desktopDnsRules outbounds routeMode
      (selectedWindowsProcessNames toLowerCase .windows selectedApps) catalog = some rules := by
    unfold desktopDnsRules ensureDnsServerDomainRule
    simp only
    split <;> exact ⟨_, rfl⟩
  obtain ⟨rules, hmade⟩ := hmade
  unfold buildDesktopDnsBlock
  simp only [hmade, bind, Option.bind, pure]
  refine ⟨_, rfl, ?_⟩
  rw [get_setField_of_ne hcache, get_setField_of_ne hexpire]
  split
  · rw [get_setField_of_ne hmapping, get_setField_of_ne hfinal, get_setField_of_ne hrules,
      get_setField_self, readListOfMaps_maps]
  · rw [get_setField_of_ne hfinal, get_setField_of_ne hrules, get_setField_self,
      readListOfMaps_maps]

/-- For servers whose resolvers are there and make no cycle, the lanes of the block are sound just
if they are apart in the profile. -/
theorem buildDesktopDnsBlock_sound_iff {toLowerCase : Text → Text}
    (hlower : LowersAscii toLowerCase) (baseDns : Document)
    (hdistinct : ((baseServers (readMap baseDns)).map tagOf).Nodup)
    (hnamed : ∀ tag resolver, Resolves (baseServers (readMap baseDns)) tag resolver →
      resolver ∈ (baseServers (readMap baseDns)).map tagOf)
    (hacyclic : ∀ tag, ¬ TransGen (Resolves (baseServers (readMap baseDns))) tag tag)
    (outbounds : List Fields) (finalOutboundTag : Text) (routeMode : RouteMode)
    (selectedApps : List Text) (catalog : ClientRuleSetCatalog) :
    (∃ block, buildDesktopDnsBlock toLowerCase baseDns outbounds finalOutboundTag routeMode
        selectedApps catalog = some block ∧
      LanesSound toLowerCase (readListOfMaps (block.get "servers")) finalOutboundTag
        ((findOutboundTag toLowerCase outbounds (text "direct")).getD (text "direct"))) ↔
      LanesApart toLowerCase (readMap baseDns) := by
  obtain ⟨block, hblock, hservers⟩ := exists_buildDesktopDnsBlock toLowerCase baseDns outbounds
    finalOutboundTag routeMode selectedApps catalog
  rw [← @lanesSound_iff toLowerCase (readMap baseDns) finalOutboundTag
    ((findOutboundTag toLowerCase outbounds (text "direct")).getD (text "direct")) hdistinct hlower hnamed hacyclic, ← hservers]
  constructor
  · rintro ⟨block', hblock', hsound⟩
    obtain rfl := Option.some.inj (hblock.symm.trans hblock')
    exact hsound
  · exact fun hsound => ⟨block, hblock, hsound⟩

/-! ### A detour over another server -/

/-- `via` resolves through the remote lane, and the direct lane may resolve through `via`. -/
def detourServers (resolver : List (Text × Document)) : Document :=
  .map [(text "servers", .list
    [.map [(text "tag", .string (text "dns-remote")), (text "address", .string (text "1.1.1.1"))],
     .map [(text "tag", .string (text "via")), (text "address", .string (text "dns.example")),
       (text "address_resolver", .string (text "dns-remote"))],
     .map ([(text "tag", .string (text "dns-direct")), (text "address", .string (text "8.8.8.8"))] ++
       resolver)])]

theorem lowersAscii_map : LowersAscii (·.map lowerUnit) := fun _ _ => rfl

/-- How far a server is from one without resolvers. -/
def height (tag : Text) : Nat :=
  if tag = text "dns-direct" then 2 else if tag = text "via" then 1 else 0

theorem acyclic_of_height {servers : List Fields}
    (h : ∀ server ∈ servers, ∀ resolver ∈ resolversOf server,
      height resolver < height (tagOf server)) (tag : Text) :
    ¬ TransGen (Resolves servers) tag tag := by
  have hlower : ∀ a b, TransGen (Resolves servers) a b → height b < height a := by
    intro a b hab
    induction hab with
    | single hab =>
      obtain ⟨server, hserver, rfl, hresolver⟩ := hab
      exact h server hserver _ hresolver
    | tail _ hbc ih =>
      obtain ⟨server, hserver, rfl, hresolver⟩ := hbc
      exact Nat.lt_trans (h server hserver _ hresolver) ih
  exact fun hloop => Nat.lt_irrefl _ (hlower _ _ hloop)

theorem named_of_mem {servers : List Fields}
    (h : ∀ server ∈ servers, ∀ resolver ∈ resolversOf server, resolver ∈ servers.map tagOf)
    (tag resolver : Text) (hresolves : Resolves servers tag resolver) :
    resolver ∈ servers.map tagOf := by
  obtain ⟨server, hserver, -, hresolver⟩ := hresolves
  exact h server hserver resolver hresolver

theorem buildDesktopDnsBlock_sound_iff_plain : ∃ block,
    buildDesktopDnsBlock (·.map lowerUnit) (detourServers []) [] (text "auto") .fullTunnel [] ⟨[], [],
      []⟩ = some block ∧
    LanesSound (·.map lowerUnit) (readListOfMaps (block.get "servers")) (text "auto")
      ((findOutboundTag (·.map lowerUnit) [] (text "direct")).getD (text "direct")) :=
  (buildDesktopDnsBlock_sound_iff lowersAscii_map (detourServers []) (by decide +kernel)
    (named_of_mem (by decide +kernel)) (acyclic_of_height (by decide +kernel)) [] (text "auto")
    .fullTunnel [] ⟨[], [], []⟩).mpr ⟨by
      have hnone : (laneResolvers (·.map lowerUnit) (readMap (detourServers []))
          (text "dns-direct")).map redirect = [] := by decide +kernel
      simp [hnone], by
      have hnone : laneResolvers (·.map lowerUnit) (readMap (detourServers []))
          (text "dns-remote") = [] := by decide +kernel
      simp [hnone]⟩

/-- A direct lane that resolves through a server of the remote lane. -/
theorem desktop_lanes_not_apart : ¬ ∀ (toLowerCase : Text → Text) (baseDns : Document)
    (outbounds : List Fields) (finalOutboundTag : Text) (routeMode : RouteMode)
    (selectedApps : List Text) (catalog : ClientRuleSetCatalog), LowersAscii toLowerCase →
      ((baseServers (readMap baseDns)).map tagOf).Nodup →
      (∀ tag resolver, Resolves (baseServers (readMap baseDns)) tag resolver →
        resolver ∈ (baseServers (readMap baseDns)).map tagOf) →
      (∀ tag, ¬ TransGen (Resolves (baseServers (readMap baseDns))) tag tag) →
      ∃ block, buildDesktopDnsBlock toLowerCase baseDns outbounds finalOutboundTag routeMode
          selectedApps catalog = some block ∧
        LanesSound toLowerCase (readListOfMaps (block.get "servers")) finalOutboundTag
          ((findOutboundTag toLowerCase outbounds (text "direct")).getD (text "direct")) := by
  intro h
  obtain ⟨base, hbase⟩ : ∃ base, base =
      readMap (detourServers [(text "domain_resolver", .string (text "via"))]) := ⟨_, rfl⟩
  have hdistinct : ((baseServers base).map tagOf).Nodup := by
    rw [hbase]
    decide +kernel
  have hnamed := @named_of_mem (baseServers base) (by
    rw [hbase]
    decide +kernel)
  have hacyclic := @acyclic_of_height (baseServers base) (by
    rw [hbase]
    decide +kernel)
  have hmember : text "via" ∈ (laneResolvers (·.map lowerUnit) base (text "dns-direct")).map
      redirect := by
    rw [hbase]
    decide +kernel
  have hedge : ∃ server ∈ baseServers base, tagOf server = text "via" ∧
      text "dns-remote" ∈ resolversOf server := by
    rw [hbase]
    decide +kernel
  obtain ⟨block, hblock, hsound⟩ := h (·.map lowerUnit)
    (detourServers [(text "domain_resolver", .string (text "via"))]) [] (text "auto") .fullTunnel []
    ⟨[], [], []⟩ lowersAscii_map (hbase ▸ hdistinct) (hbase ▸ hnamed) (hbase ▸ hacyclic)
  obtain ⟨block', hblock', hservers⟩ := exists_buildDesktopDnsBlock (·.map lowerUnit)
    (detourServers [(text "domain_resolver", .string (text "via"))]) [] (text "auto") .fullTunnel []
    ⟨[], [], []⟩
  obtain rfl := Option.some.inj (hblock.symm.trans hblock')
  rw [hservers, ← hbase, lanesSound_iff hdistinct lowersAscii_map hnamed hacyclic] at hsound
  exact (hsound.1 _ hmember).1 (.single ⟨by decide, by decide, hedge⟩)

end Pokrov.AppShell.Bootstrap
