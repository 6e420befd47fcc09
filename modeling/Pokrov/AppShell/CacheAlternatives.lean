import Pokrov.AppShell.ManagedCatalog

/-!
# Cached alternatives

`SmartConnectCandidateSelector.cacheAlternatives`: which candidates are kept on
the device beside the one that is selected. The passes add to one list without
looking for a candidate in it. That none is added twice follows from what each
pass asks for, and for the bridges from what the catalog accepts.
-/

namespace Pokrov.AppShell.SmartConnect

open Dart

namespace TransportCandidate

/-- `_bridgeHost`. -/
def bridgeHost (candidate : TransportCandidate) : Option Text :=
  match candidate.bridgeId with
  | none => none
  | some bridgeId =>
    if [text "mini", text "mini-xhttp"].contains bridgeId then some (text "cinema")
    else if [text "rf2", text "rf2-xhttp", text "ru_spb", text "ru_spb-xhttp"].contains bridgeId then
      some (text "lampa")
    else none

/-- `_familySiblings`. -/
def familySiblings (a b : TransportCandidate) : Bool :=
  a.warpMode = none ∧ b.warpMode = none ∧
    (a.deliveryEndpointId ≠ none ∨ b.deliveryEndpointId ≠ none) ∧ a.bridgeId = b.bridgeId ∧
    a.nodeCode = b.nodeCode ∧ a.profileRef = b.profileRef ∧ a.family ≠ b.family

abbrev Variant := Text × Text × Text × Option Text

def variant (candidate : TransportCandidate) : Variant :=
  (candidate.protocol, candidate.transport, candidate.protection, candidate.bridgeId)

def isDnstt (candidate : TransportCandidate) : Bool := candidate.transport = text "dnstt"

def isSlipstream (candidate : TransportCandidate) : Bool := candidate.transport = text "slipstream"

def isNaive (candidate : TransportCandidate) : Bool := candidate.protocol = text "naive"

end TransportCandidate

/-- The list under construction, and the variants that it covers. -/
structure Alternatives where
  candidates : List TransportCandidate
  variants : List TransportCandidate.Variant

def Alternatives.add (a : Alternatives) (candidate : TransportCandidate) : Alternatives :=
  ⟨a.candidates ++ [candidate], candidate.variant :: a.variants⟩

section Passes

variable (selected : TransportCandidate)

/-- Over a bridge to another host. -/
def independentBridge (candidate : TransportCandidate) : Bool :=
  selected.bridgeHost ≠ none ∧ candidate.bridgeHost ≠ none ∧
    candidate.bridgeHost ≠ selected.bridgeHost

def firstAlternative (ordered : List TransportCandidate) : Option TransportCandidate :=
  (ordered.find? fun c => decide (c.nodeCode ≠ selected.nodeCode) && independentBridge selected c).or
    ((ordered.find? (independentBridge selected)).or
      (ordered.find? fun c => decide (c.nodeCode ≠ selected.nodeCode)))

/-- Beside an independent bridge, a protocol is kept in reserve. -/
def addFirst (ordered : List TransportCandidate) (a : Alternatives) : Alternatives :=
  match firstAlternative selected ordered with
  | none => a
  | some first =>
    if independentBridge selected first then
      match ordered.find? fun c => decide ((c.protocol, c.transport, c.protection) ≠
          (selected.protocol, selected.transport, selected.protection)) with
      | none => a.add first
      | some protocol => (a.add first).add protocol
    else a.add first

def addSibling (ordered : List TransportCandidate) (a : Alternatives) : Alternatives :=
  if a.candidates.length = 2 then a
  else
    match ordered.find? fun c =>
        decide (c.deliveryEndpointId ≠ none) && selected.familySiblings c with
    | none => a
    | some sibling => a.add sibling

def addVariants : List TransportCandidate → Alternatives → Alternatives
  | [], a => a
  | candidate :: rest, a =>
    if a.candidates.length = 2 then a
    else addVariants rest (if candidate.variant ∈ a.variants then a else a.add candidate)

def withNetworkReserve (ordered alternatives : List TransportCandidate) : List TransportCandidate :=
  if alternatives.length = 2 ∧ alternatives.all (·.network = selected.network) then
    alternatives ++ (ordered.find? fun c => decide (c.network ≠ selected.network)).toList
  else alternatives

/-- The last three passes: one of a kind, unless the selected one is of it. -/
def withReserve (kind : TransportCandidate → Bool) (ordered alternatives : List TransportCandidate) :
    List TransportCandidate :=
  if kind selected = false ∧ alternatives.all (fun c => !kind c) then
    alternatives ++ (ordered.find? kind).toList
  else alternatives

/-- The passes over the candidates in their order. -/
def alternativesFrom (ordered : List TransportCandidate) : List TransportCandidate :=
  let a := addVariants ordered (addSibling selected ordered (addFirst selected ordered
    ⟨[], [selected.variant]⟩))
  withReserve selected TransportCandidate.isNaive ordered
    (withReserve selected TransportCandidate.isSlipstream ordered
      (withReserve selected TransportCandidate.isDnstt ordered
        (withNetworkReserve selected ordered a.candidates)))

end Passes

/-- The filter of the candidates. -/
def admissible (selected : TransportCandidate) (countryOnly : Bool)
    (catalog : TransportCandidateCatalog) (candidate : TransportCandidate) : Bool :=
  decide (candidate.warpMode = none) && decide (candidate.candidateRef ≠ selected.candidateRef) &&
    (!countryOnly || decide (candidate.nodeCountryCode catalog.candidates =
      selected.nodeCountryCode catalog.candidates))

/-- `cacheAlternatives`. `List.sort` by priority is not stable, so what it leaves
is a parameter. -/
def cacheAlternatives (sort : List TransportCandidate → List TransportCandidate)
    (selected : TransportCandidate) (candidates : List TransportCandidate) (countryOnly : Bool)
    (catalog : TransportCandidateCatalog) : List TransportCandidate :=
  alternativesFrom selected (sort (candidates.filter (admissible selected countryOnly catalog)))

/-! ## The first two -/

section Pair

theorem nodup_snoc {l : List TransportCandidate} {c : TransportCandidate} (h : l.Nodup)
    (hnew : c ∉ l) : (l ++ [c]).Nodup := by
  refine List.nodup_append.mpr ⟨h, List.nodup_singleton c, ?_⟩
  rintro b hb d hd rfl
  rw [List.mem_singleton.mp hd] at hb
  exact hnew hb

variable {selected : TransportCandidate} {ordered : List TransportCandidate}

/-- What the passes keep while there are at most two. -/
structure Alternatives.Kept (ordered : List TransportCandidate) (a : Alternatives) : Prop where
  nodup : a.candidates.Nodup
  subset : ∀ c ∈ a.candidates, c ∈ ordered
  covered : ∀ c ∈ a.candidates, c.variant ∈ a.variants
  length : a.candidates.length ≤ 2

variable {a : Alternatives}

theorem Alternatives.Kept.add {c : TransportCandidate} (h : a.Kept ordered)
    (hlength : a.candidates.length < 2) (hmem : c ∈ ordered) (hnew : c ∉ a.candidates) :
    (a.add c).Kept ordered := by
  refine ⟨?_, ?_, ?_, ?_⟩
  · exact nodup_snoc h.nodup hnew
  · intro d hd
    rcases List.mem_append.mp hd with hd | hd
    · exact h.subset d hd
    · rw [List.mem_singleton.mp hd]
      exact hmem
  · intro d hd
    rcases List.mem_append.mp hd with hd | hd
    · exact List.mem_cons_of_mem _ (h.covered d hd)
    · rw [List.mem_singleton.mp hd]
      exact List.mem_cons_self
  · simp only [Alternatives.add, List.length_append, List.length_singleton]
    omega

/-- The first one is no sibling of the selected one: it stands on another node
or comes in over another bridge. -/
theorem firstAlternative_spec {first : TransportCandidate}
    (h : firstAlternative selected ordered = some first) :
    first ∈ ordered ∧ selected.familySiblings first = false := by
  have hbridge : independentBridge selected first = true →
      selected.familySiblings first = false := by
    intro hbridge
    have hhost : first.bridgeHost ≠ selected.bridgeHost := by
      simp only [independentBridge, decide_eq_true_eq] at hbridge
      exact hbridge.2.2
    have hid : selected.bridgeId ≠ first.bridgeId := by
      intro heq
      refine hhost ?_
      simp only [TransportCandidate.bridgeHost, heq]
    simp [TransportCandidate.familySiblings, hid]
  simp only [firstAlternative, Option.or_eq_some_iff] at h
  rcases h with h | ⟨-, h | ⟨-, h⟩⟩
  · have hfirst := List.find?_some h
    simp only [Bool.and_eq_true] at hfirst
    exact ⟨List.mem_of_find?_eq_some h, hbridge hfirst.2⟩
  · exact ⟨List.mem_of_find?_eq_some h, hbridge (List.find?_some h)⟩
  · refine ⟨List.mem_of_find?_eq_some h, ?_⟩
    have hnode := List.find?_some h
    have hne : selected.nodeCode ≠ first.nodeCode := fun heq => (of_decide_eq_true hnode) heq.symm
    simp [TransportCandidate.familySiblings, hne]

theorem bridged_of_host {candidate : TransportCandidate} (h : candidate.BridgedPlainly)
    (hhost : candidate.bridgeHost ≠ none) : candidate.protocol = text "vless" ∧
      candidate.transport = text "tcp" ∧ candidate.protection = text "reality" := by
  refine h fun hnone => hhost ?_
  simp only [TransportCandidate.bridgeHost, hnone]

/-- Two bridges speak one protocol, so the protocol in reserve is not the first. -/
theorem kept_addFirst (hplain : ∀ c ∈ ordered, c.BridgedPlainly) (hselected : selected.BridgedPlainly) :
    (addFirst selected ordered ⟨[], [selected.variant]⟩).Kept ordered ∧
      ((addFirst selected ordered ⟨[], [selected.variant]⟩).candidates.length < 2 →
        ∀ c ∈ (addFirst selected ordered ⟨[], [selected.variant]⟩).candidates,
          selected.familySiblings c = false) := by
  have hempty : (⟨[], [selected.variant]⟩ : Alternatives).Kept ordered :=
    ⟨List.nodup_nil, by simp, by simp, by simp⟩
  unfold addFirst
  cases hfirst : firstAlternative selected ordered with
  | none => exact ⟨hempty, by simp⟩
  | some first =>
    obtain ⟨hmem, hsibling⟩ := firstAlternative_spec hfirst
    have hone := hempty.add (c := first) (by simp) hmem (by simp)
    have halone : ∀ c ∈ ((⟨[], [selected.variant]⟩ : Alternatives).add first).candidates,
        selected.familySiblings c = false := by
      simpa [Alternatives.add] using hsibling
    by_cases hbridge : independentBridge selected first = true
    · simp only [hbridge, if_true]
      cases hprotocol : ordered.find? fun c => decide ((c.protocol, c.transport, c.protection) ≠
          (selected.protocol, selected.transport, selected.protection)) with
      | none => exact ⟨hone, fun _ => halone⟩
      | some protocol =>
        have hother := List.find?_some hprotocol
        simp only [independentBridge, decide_eq_true_eq] at hbridge hother
        have hne : protocol ≠ first := by
          rintro rfl
          obtain ⟨h1, h2, h3⟩ := bridged_of_host hselected hbridge.1
          obtain ⟨h1', h2', h3'⟩ := bridged_of_host (hplain protocol hmem) hbridge.2.1
          exact hother (by rw [h1, h2, h3, h1', h2', h3'])
        refine ⟨hone.add (by simp [Alternatives.add]) (List.mem_of_find?_eq_some hprotocol) ?_, ?_⟩
        · simpa [Alternatives.add] using hne
        · simp [Alternatives.add]
    · simp only [hbridge]
      exact ⟨hone, fun _ => halone⟩

theorem kept_addSibling (h : a.Kept ordered)
    (hapart : a.candidates.length < 2 → ∀ c ∈ a.candidates, selected.familySiblings c = false) :
    (addSibling selected ordered a).Kept ordered := by
  unfold addSibling
  by_cases hfull : a.candidates.length = 2
  · rwa [if_pos hfull]
  rw [if_neg hfull]
  cases hfound : ordered.find? fun c =>
      decide (c.deliveryEndpointId ≠ none) && selected.familySiblings c with
  | none => exact h
  | some sibling =>
    have hlength : a.candidates.length < 2 := lt_of_le_of_ne h.length hfull
    refine h.add hlength (List.mem_of_find?_eq_some hfound) fun hmem => ?_
    have hsibling := List.find?_some hfound
    simp [hapart hlength sibling hmem] at hsibling

theorem kept_addVariants {rest : List TransportCandidate} (hrest : ∀ c ∈ rest, c ∈ ordered)
    (h : a.Kept ordered) : (addVariants rest a).Kept ordered := by
  induction rest generalizing a with
  | nil => exact h
  | cons candidate rest ih =>
    unfold addVariants
    by_cases hfull : a.candidates.length = 2
    · rwa [if_pos hfull]
    rw [if_neg hfull]
    refine ih (fun c hc => hrest c (List.mem_cons_of_mem _ hc)) ?_
    by_cases hcovered : candidate.variant ∈ a.variants
    · rwa [if_pos hcovered]
    · rw [if_neg hcovered]
      refine h.add (lt_of_le_of_ne h.length hfull) (hrest candidate List.mem_cons_self) ?_
      exact fun hmem => hcovered (h.covered candidate hmem)

end Pair

/-! ## The reserves -/

/-- What the passes keep of the list, with room for some more. -/
structure Keeps (ordered : List TransportCandidate) (n : Nat)
    (alternatives : List TransportCandidate) : Prop where
  nodup : alternatives.Nodup
  subset : ∀ c ∈ alternatives, c ∈ ordered
  length : alternatives.length ≤ n

section Reserves

variable {selected : TransportCandidate} {ordered alternatives : List TransportCandidate} {n : Nat}

variable {kind : TransportCandidate → Bool}

/-- One more that is of a kind that none is of. -/
theorem Keeps.reserve (h : Keeps ordered n alternatives)
    (hnone : ∀ c ∈ alternatives, kind c = false) :
    Keeps ordered (n + 1) (alternatives ++ (ordered.find? kind).toList) := by
  cases hfound : ordered.find? kind with
  | none =>
    rw [Option.toList_none, List.append_nil]
    exact ⟨h.nodup, h.subset, h.length.trans (Nat.le_succ n)⟩
  | some reserve =>
    have hkind := List.find?_some hfound
    refine ⟨?_, ?_, ?_⟩
    · refine nodup_snoc h.nodup fun hmem => ?_
      simp [hnone reserve hmem] at hkind
    · intro c hc
      rcases List.mem_append.mp hc with hc | hc
      · exact h.subset c hc
      · have hc' : c = reserve := by simpa using hc
        rw [hc']
        exact List.mem_of_find?_eq_some hfound
    · simpa using h.length

theorem Keeps.succ (h : Keeps ordered n alternatives) : Keeps ordered (n + 1) alternatives :=
  ⟨h.nodup, h.subset, h.length.trans (Nat.le_succ n)⟩

theorem keeps_withNetworkReserve (h : Keeps ordered n alternatives) :
    Keeps ordered (n + 1) (withNetworkReserve selected ordered alternatives) := by
  unfold withNetworkReserve
  by_cases hsame : alternatives.length = 2 ∧ alternatives.all (·.network = selected.network) = true
  · rw [if_pos hsame]
    refine h.reserve fun c hc => ?_
    have hnetwork := List.all_eq_true.mp hsame.2 c hc
    simpa using hnetwork
  · rw [if_neg hsame]
    exact h.succ

theorem keeps_withReserve (h : Keeps ordered n alternatives) (kind : TransportCandidate → Bool) :
    Keeps ordered (n + 1) (withReserve selected kind ordered alternatives) := by
  unfold withReserve
  by_cases hnone : kind selected = false ∧ alternatives.all (fun c => !kind c) = true
  · rw [if_pos hnone]
    refine h.reserve fun c hc => ?_
    simpa using List.all_eq_true.mp hnone.2 c hc
  · rw [if_neg hnone]
    exact h.succ

theorem mem_withReserve {c : TransportCandidate} (h : c ∈ alternatives) :
    c ∈ withReserve selected kind ordered alternatives := by
  unfold withReserve
  split
  · exact List.mem_append_left _ h
  · exact h

/-- Afterwards there is one of the kind, if there is any at all. -/
theorem exists_of_withReserve (hselected : kind selected = false)
    (hany : ∃ c ∈ ordered, kind c = true) :
    ∃ c ∈ withReserve selected kind ordered alternatives, kind c = true := by
  unfold withReserve
  by_cases hnone : alternatives.all (fun c => !kind c) = true
  · rw [if_pos ⟨hselected, hnone⟩]
    obtain ⟨c, hc, hkind⟩ := hany
    cases hfound : ordered.find? kind with
    | none => exact absurd hkind (List.find?_eq_none.mp hfound c hc)
    | some reserve => exact ⟨reserve, by simp, List.find?_some hfound⟩
  · rw [if_neg fun h => hnone h.2]
    simpa using hnone

end Reserves

/-! ## All passes -/

theorem keeps_alternativesFrom (selected : TransportCandidate) (ordered : List TransportCandidate)
    (hplain : ∀ c ∈ ordered, c.BridgedPlainly) (hselected : selected.BridgedPlainly) :
    Keeps ordered 6 (alternativesFrom selected ordered) := by
  obtain ⟨hfirst, hapart⟩ := kept_addFirst hplain hselected
  have hpair := kept_addVariants (fun _ hc => hc) (kept_addSibling hfirst hapart)
  have htwo : Keeps ordered 2 _ := ⟨hpair.nodup, hpair.subset, hpair.length⟩
  exact keeps_withReserve (keeps_withReserve (keeps_withReserve
    (keeps_withNetworkReserve htwo) _) _) _

/-- **Cached alternatives.** For every catalog that is accepted, every selected
candidate of it and every part of its candidates: the alternatives are distinct
and at most six, none is the selected one or goes over WARP, all are of its
country where that is asked for, and each escape path that the part offers is
among them, unless the selected one is of that kind itself. -/
theorem cacheAlternatives_spec {client : Client} {requestedNodeCode requestedCandidateRef : Text}
    {input : Document} {catalog : TransportCandidateCatalog} {selected : TransportCandidate}
    {candidates : List TransportCandidate} {sort : List TransportCandidate → List TransportCandidate}
    (countryOnly : Bool)
    (hcatalog : decodeManagedTransportCatalog client requestedNodeCode requestedCandidateRef input =
      .ok catalog)
    (hselected : selected ∈ catalog.candidates) (hpart : candidates.Sublist catalog.candidates)
    (hsort : ∀ l, (sort l).Perm l) :
    ((cacheAlternatives sort selected candidates countryOnly catalog).map
        TransportCandidate.candidateRef).Nodup ∧
      (cacheAlternatives sort selected candidates countryOnly catalog).length ≤ 6 ∧
      (∀ c ∈ cacheAlternatives sort selected candidates countryOnly catalog,
        c ∈ candidates ∧ c.candidateRef ≠ selected.candidateRef ∧ c.warpMode = none ∧
          (countryOnly = true → c.nodeCountryCode catalog.candidates =
            selected.nodeCountryCode catalog.candidates)) ∧
      ∀ kind ∈ [TransportCandidate.isDnstt, TransportCandidate.isSlipstream,
          TransportCandidate.isNaive], kind selected = false →
        (∃ c ∈ candidates, admissible selected countryOnly catalog c = true ∧ kind c = true) →
        ∃ c ∈ cacheAlternatives sort selected candidates countryOnly catalog, kind c = true := by
  obtain ⟨hrefs, hbridged⟩ := wellFormed_of_decode hcatalog
  have hmem : ∀ c, c ∈ sort (candidates.filter (admissible selected countryOnly catalog)) ↔
      c ∈ candidates ∧ admissible selected countryOnly catalog c = true := by
    intro c
    rw [(hsort _).mem_iff, List.mem_filter]
  have hkeeps := keeps_alternativesFrom selected
    (sort (candidates.filter (admissible selected countryOnly catalog)))
    (fun c hc => hbridged c (hpart.subset ((hmem c).mp hc).1)) (hbridged selected hselected)
  refine ⟨?_, hkeeps.length, ?_, ?_⟩
  · refine hkeeps.nodup.map_on fun c hc d hd heq => ?_
    have hin := fun e he => hpart.subset ((hmem e).mp (hkeeps.subset e he)).1
    exact List.inj_on_of_nodup_map hrefs (hin c hc) (hin d hd) heq
  · intro c hc
    obtain ⟨hcandidate, hadmissible⟩ := (hmem c).mp (hkeeps.subset c hc)
    simp only [admissible, Bool.and_eq_true, decide_eq_true_eq, Bool.or_eq_true,
      Bool.not_eq_true'] at hadmissible
    obtain ⟨⟨hwarp, hother⟩, hcountry⟩ := hadmissible
    refine ⟨hcandidate, hother, hwarp, fun honly => ?_⟩
    simpa [honly] using hcountry
  · rintro kind hkind hnot ⟨c, hc, hadmissible, hof⟩
    have hany : ∃ c ∈ sort (candidates.filter (admissible selected countryOnly catalog)),
        kind c = true := ⟨c, (hmem c).mpr ⟨hc, hadmissible⟩, hof⟩
    simp only [List.mem_cons, List.not_mem_nil, or_false] at hkind
    unfold cacheAlternatives alternativesFrom
    rcases hkind with rfl | rfl | rfl
    · obtain ⟨d, hd, hdnstt⟩ := exists_of_withReserve hnot hany
      exact ⟨d, mem_withReserve (mem_withReserve hd), hdnstt⟩
    · obtain ⟨d, hd, hslipstream⟩ := exists_of_withReserve hnot hany
      exact ⟨d, mem_withReserve hd, hslipstream⟩
    · exact exists_of_withReserve hnot hany

/-! ## A catalog with bridges and an escape path -/

def sampleClient : Client where
  platform := .android
  clientRelease := text "1.5.0+4116"
  runtimeFeatures := RuntimeTransportFeature.values
  coreRelease := none

def sampleRow (profile transport protection : String) (features : List String) (priority : Int)
    (bridge : List Text) : Document :=
  .map [(text "candidate_ref",
      .string (text "de:" ++ text profile ++ bridge.flatMap (text ":bridge_" ++ ·))),
    (text "profile_ref", .string (text profile)), (text "node_code", .string (text "de")),
    (text "country_code", .string (text "DE")), (text "protocol", .string (text "vless")),
    (text "transport", .string (text transport)), (text "protection", .string (text protection)),
    (text "priority", .int priority),
    (text "parameters", .map ([(text "network", .string (text "tcp")), (text "flow", .string [])] ++
      bridge.map fun bridgeId => (text "bridge_id", .string bridgeId))),
    (text "requirements", .map [(text "minimum_client_release", .string (text "1.5.0+4116")),
      (text "minimum_core_release", .null),
      (text "platforms", .list [.string (text "android")]),
      (text "required_features", .list (features.map fun name => .string (text name)))])]

def sampleInput : Document :=
  .map [(text "schema_version", .string (text "pokrov-transport-catalog-v1")),
    (text "revision", .string (text "r1")),
    (text "selected_candidate_ref", .string (text "de:main:bridge_mini")),
    (text "candidates", .list
      (["mini", "rf2"].map (fun bridgeId => sampleRow "main" "tcp" "reality"
          ["singbox_vless_v1", "singbox_reality_v1"] 0 [text bridgeId]) ++
        [sampleRow "dns" "dnstt" "noise" ["singbox_vless_v1", "dnstt_vless_v1"] 1 []]))]

def sampleCatalog : TransportCandidateCatalog :=
  (decodeManagedTransportCatalog sampleClient [] [] sampleInput).toOption.getD ⟨[], [], []⟩

theorem ok_of_isOk {α : Type} {r : Try α} (default : α) (h : r.isOk = true) :
    r = .ok (r.toOption.getD default) := by
  cases r with
  | ok a => rfl
  | error e => cases h

/-- It is accepted, and beside a candidate over a bridge it offers an escape path. -/
theorem sampleCatalog_offers :
    (decodeManagedTransportCatalog sampleClient [] [] sampleInput).isOk = true ∧
      ∃ selected ∈ sampleCatalog.candidates, selected.bridgeId ≠ none ∧ selected.isDnstt = false ∧
        ∃ c ∈ sampleCatalog.candidates,
          admissible selected true sampleCatalog c = true ∧ c.isDnstt = true := by
  decide +kernel

theorem sampleCatalog_accepted :
    decodeManagedTransportCatalog sampleClient [] [] sampleInput = .ok sampleCatalog :=
  ok_of_isOk _ sampleCatalog_offers.1

def byPriority (candidates : List TransportCandidate) : List TransportCandidate :=
  candidates.insertionSort fun a b => a.priority ≤ b.priority

theorem byPriority_perm (candidates : List TransportCandidate) :
    (byPriority candidates).Perm candidates :=
  List.perm_insertionSort _ candidates

theorem sampleCatalog_escapes : ∃ selected ∈ sampleCatalog.candidates, selected.bridgeId ≠ none ∧
    ∃ c ∈ cacheAlternatives byPriority selected sampleCatalog.candidates true sampleCatalog,
      c.isDnstt = true := by
  obtain ⟨-, selected, hmem, hbridged, hnot, hany⟩ := sampleCatalog_offers
  obtain ⟨-, -, -, hkinds⟩ := cacheAlternatives_spec true sampleCatalog_accepted hmem
    (List.Sublist.refl _) byPriority_perm
  exact ⟨selected, hmem, hbridged, hkinds _ List.mem_cons_self hnot hany⟩

end Pokrov.AppShell.SmartConnect
