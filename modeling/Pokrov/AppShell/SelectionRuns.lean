import Pokrov.AppShell.SelectionAccounting
import Pokrov.Lib.Runs

/-!
# Runs of a selection

The budget bounds every run. An attempt owns its children and at most one tunnel,
which only its own stop or its pass gives up.
-/

namespace Pokrov.AppShell.TransportSelection

open Dart Stateful

/-! ## The accounts -/

/-- The children that are not settled: their permits, and what they hold. -/
def live (s : TransportSelection) : List (Permit × TransportChildResource) := s.children.map childKey

def liveTunnels (s : TransportSelection) : List (Permit × TransportChildResource) :=
  s.live.filter fun child => child.2 = .tunnel

/-- What holds between any two operations. -/
structure Accounted (policy : SelectionPolicy) (s : TransportSelection) : Prop where
  attempts : s.attempts ≤ policy.budget.maxAttempts
  repairs : s.repairs ≤ policy.budget.maxRepairs
  endpoints : s.endpoints.length ≤ policy.budget.maxEndpoints
  distinct : s.endpoints.Nodup
  concurrency : s.live.length ≤ policy.budget.maxConcurrency
  bytes : s.bytes ≤ policy.budget.maxDiagnosticBytes
  admitted : s.attemptRefs.Nodup
  counted : s.attemptRefs.length = s.attempts
  current : ∀ attemptRef, s.attemptRef = some attemptRef → attemptRef ∈ s.attemptRefs
  owned : s.live ≠ [] → s.attemptRef.isSome = true
  permits : (s.live.map Prod.fst).Nodup
  issued : ∀ child ∈ s.live, child.1 < s.permits
  tunnel : ∀ attemptRef, s.tunnelAttemptRef = some attemptRef → s.attemptRef = some attemptRef
  tunnels : s.liveTunnels.length ≤ 1
  held : s.liveTunnels ≠ [] → s.tunnelAttemptRef.isSome = true

section Accounted

variable {policy : SelectionPolicy} {s s' : TransportSelection}

theorem Calm.live (h : Calm s s') : s'.live = s.live := h.children

theorem Calm.liveTunnels (h : Calm s s') : s'.liveTunnels = s.liveTunnels :=
  congrArg (List.filter _) h.live

theorem Accounted.calm (hs : Accounted policy s) (h : Calm s s') : Accounted policy s' := by
  constructor
  case attempts => simpa only [h.attempts] using hs.attempts
  case repairs => simpa only [h.repairs] using hs.repairs
  case endpoints => simpa only [h.endpoints] using hs.endpoints
  case distinct => simpa only [h.endpoints] using hs.distinct
  case concurrency => simpa only [h.live] using hs.concurrency
  case bytes => simpa only [h.bytes] using hs.bytes
  case admitted => simpa only [h.attemptRefs] using hs.admitted
  case counted => simpa only [h.attemptRefs, h.attempts] using hs.counted
  case current => simpa only [h.attemptRef, h.attemptRefs] using hs.current
  case owned => simpa only [h.live, h.attemptRef] using hs.owned
  case permits => simpa only [h.live] using hs.permits
  case issued => simpa only [h.live, h.permits] using hs.issued
  case tunnel => simpa only [h.tunnel, h.attemptRef] using hs.tunnel
  case tunnels => simpa only [h.liveTunnels] using hs.tunnels
  case held => simpa only [h.liveTunnels, h.tunnel] using hs.held

theorem live_nil (h : s.children = []) : s.live = [] := by simp [live, h]

theorem liveTunnels_nil (h : s.live = []) : s.liveTunnels = [] := by simp [liveTunnels, h]

theorem accounted_reserved (hs : Accounted policy s) {attemptRef endpointRef : Text} {repair : Bool}
    (hchildren : s.children = []) (htunnel : s.tunnelAttemptRef = none) (hnew : attemptRef ∉ s.attemptRefs)
    (hattempts : s.attempts < policy.budget.maxAttempts)
    (hendpoints : endpointRef ∈ s.endpoints ∨ s.endpoints.length < policy.budget.maxEndpoints)
    (hrepairs : repair = true → s.repairs < policy.budget.maxRepairs) :
    Accounted policy (s.reserved attemptRef endpointRef repair) := by
  have hlive : (s.reserved attemptRef endpointRef repair).live = [] := live_nil hchildren
  have htunnels := liveTunnels_nil hlive
  constructor
  case attempts => exact hattempts
  case repairs =>
    show (if repair then s.repairs + 1 else s.repairs) ≤ _
    cases repair with
    | false => exact hs.repairs
    | true => exact hrepairs rfl
  case endpoints =>
    show (if s.endpoints.contains endpointRef then s.endpoints else s.endpoints ++ [endpointRef]).length ≤ _
    by_cases hmem : endpointRef ∈ s.endpoints
    · rw [if_pos (List.contains_iff_mem.mpr hmem)]
      exact hs.endpoints
    · rw [if_neg (fun h => hmem (List.contains_iff_mem.mp h)), List.length_append]
      exact hendpoints.resolve_left hmem
  case distinct =>
    show (if s.endpoints.contains endpointRef then s.endpoints else s.endpoints ++ [endpointRef]).Nodup
    by_cases hmem : endpointRef ∈ s.endpoints
    · rw [if_pos (List.contains_iff_mem.mpr hmem)]
      exact hs.distinct
    · rw [if_neg (fun h => hmem (List.contains_iff_mem.mp h))]
      exact hs.distinct.append (List.nodup_singleton _) (List.disjoint_singleton.mpr hmem)
  case concurrency =>
    rw [hlive]
    exact Nat.zero_le _
  case bytes => exact hs.bytes
  case admitted => exact hs.admitted.append (List.nodup_singleton _) (List.disjoint_singleton.mpr hnew)
  case counted =>
    show (s.attemptRefs ++ [attemptRef]).length = s.attempts + 1
    rw [List.length_append, hs.counted, List.length_singleton]
  case current =>
    intro ref href
    cases href
    exact List.mem_append_right _ List.mem_cons_self
  case owned => exact fun _ => rfl
  case permits => simp [hlive]
  case issued => simp [hlive]
  case tunnel =>
    intro ref href
    rw [show (s.reserved attemptRef endpointRef repair).tunnelAttemptRef = none from htunnel] at href
    cases href
  case tunnels => simp [htunnels]
  case held => exact fun h => absurd htunnels h

theorem accounted_child (hs : Accounted policy s) {attemptRef : Text} {stage : TransportSelectionStage}
    {deadline : Int} {child : TransportChild} {owner : Option TransportNativeConnect}
    (hattempt : s.attemptRef = some attemptRef)
    (hchildren : s.children.length < policy.budget.maxConcurrency)
    (htunnel : child.resource = .tunnel → s.tunnelAttemptRef = none) :
    Accounted policy { s.withChild attemptRef stage deadline child with nativeConnect := owner } := by
  generalize hs' : { s.withChild attemptRef stage deadline child with nativeConnect := owner } = s'
  have hlive : s'.live = s.live ++ [(s.permits, child.resource)] := by
    subst hs'
    simp [live, withChild, childKey]
  have hnone : child.resource = .tunnel → s.liveTunnels = [] := by
    intro hresource
    by_contra hne
    have hheld := hs.held hne
    rw [htunnel hresource] at hheld
    cases hheld
  have htunnels : s'.liveTunnels =
      s.liveTunnels ++ [(s.permits, child.resource)].filter fun child => child.2 = .tunnel := by
    rw [liveTunnels, hlive, List.filter_append]
    rfl
  have htunnelRef : s'.tunnelAttemptRef =
      if child.resource = .tunnel then some attemptRef else s.tunnelAttemptRef := by
    subst hs'
    rfl
  have hlength : s'.live.length ≤ policy.budget.maxConcurrency := by
    rw [hlive, List.length_append, live, List.length_map]
    exact hchildren
  have hpermits : (s'.live.map Prod.fst).Nodup := by
    rw [hlive, List.map_append]
    apply hs.permits.append (List.nodup_singleton _)
    rw [List.disjoint_singleton]
    intro hmem
    obtain ⟨other, hother, hpermit⟩ := List.mem_map.mp hmem
    exact absurd (hs.issued other hother) (by rw [hpermit]; exact Nat.lt_irrefl _)
  have hissued : ∀ other ∈ s'.live, other.1 < s.permits + 1 := by
    intro other hother
    rw [hlive, List.mem_append, List.mem_singleton] at hother
    rcases hother with hother | rfl
    · exact Nat.lt_succ_of_lt (hs.issued other hother)
    · exact Nat.lt_succ_self _
  have htunnel' : ∀ ref, s'.tunnelAttemptRef = some ref → s.attemptRef = some ref := by
    intro ref href
    rw [htunnelRef] at href
    by_cases hresource : child.resource = .tunnel
    · rw [if_pos hresource] at href
      rw [hattempt, href]
    · rw [if_neg hresource] at href
      exact hs.tunnel ref href
  have hone : s'.liveTunnels.length ≤ 1 := by
    rw [htunnels]
    by_cases hresource : child.resource = .tunnel
    · simp [hnone hresource, hresource]
    · simpa [hresource] using hs.tunnels
  have hheld : s'.liveTunnels ≠ [] → s'.tunnelAttemptRef.isSome = true := by
    rw [htunnels, htunnelRef]
    by_cases hresource : child.resource = .tunnel
    · simp [hresource]
    · simpa [hresource] using hs.held
  subst hs'
  exact { hs with
    concurrency := hlength
    owned := fun _ => Option.isSome_iff_exists.mpr ⟨attemptRef, hattempt⟩
    permits := hpermits
    issued := hissued
    tunnel := htunnel'
    tunnels := hone
    held := hheld }

theorem accounted_settled (hs : Accounted policy s) (permit : Permit) :
    Accounted policy { s with children := s.children.filter fun child => child.1 ≠ permit } := by
  generalize hs' : { s with children := s.children.filter fun child => child.1 ≠ permit } = s'
  have hlive : s'.live.Sublist s.live := by
    subst hs'
    exact List.filter_sublist.map childKey
  have htunnels : s'.liveTunnels.Sublist s.liveTunnels := hlive.filter _
  have hnil : ∀ {l l' : List (Permit × TransportChildResource)}, l.Sublist l' → l ≠ [] → l' ≠ [] := by
    rintro l l' hsub hne rfl
    exact hne (List.sublist_nil.mp hsub)
  subst hs'
  exact { hs with
    concurrency := hlive.length_le.trans hs.concurrency
    owned := fun h => hs.owned (hnil hlive h)
    permits := hs.permits.sublist (hlive.map _)
    issued := fun child hchild => hs.issued child (hlive.subset hchild)
    tunnels := htunnels.length_le.trans hs.tunnels
    held := fun h => hs.held (hnil htunnels h) }

/-- Nothing is owned any more. -/
theorem accounted_ended (hs : Accounted policy s) (hlive : s.live = []) (htunnel : s.tunnelAttemptRef = none) :
    Accounted policy (s.ended policy) := by
  have hnone : (s.ended policy).tunnelAttemptRef = none := htunnel
  exact { hs with
    current := fun _ h => by cases h
    owned := fun h => absurd hlive h
    tunnel := fun ref href => by
      rw [hnone] at href
      cases href }

/-- The tunnel is given up while no child holds it. -/
theorem accounted_released (hs : Accounted policy s) (htunnels : s.liveTunnels = []) :
    Accounted policy { s with tunnelAttemptRef := none, nativeConnect := none } :=
  { hs with
    tunnel := fun _ h => by cases h
    held := fun h => absurd htunnels h }

theorem Accounted.change {operation : SelectionOperation} (hs : Accounted policy s)
    (h : Change policy s operation s') : Accounted policy s' := by
  cases h with
  | calm h => exact hs.calm h
  | reserved h hclosed hattempt hchildren htunnel hnew hattempts hendpoints hrepairs _ h' =>
    exact (accounted_reserved (hs.calm h) hchildren htunnel hnew hattempts hendpoints hrepairs).calm h'
  | child h hattempt hclosed hstop hchildren htunnel =>
    exact accounted_child (hs.calm h) hattempt hchildren htunnel
  | bytes h hbytes => exact { hs.calm h with bytes := hbytes }
  | settled h => exact accounted_settled (hs.calm h) _
  | released howner htunnel hchildren =>
    apply accounted_released hs
    rw [liveTunnels, List.filter_eq_nil_iff]
    intro child hchild
    obtain ⟨c, hc, rfl⟩ := List.mem_map.mp hchild
    exact List.any_eq_false.mp hchildren c hc
  | promoted h => exact { hs.calm h with }
  | @passed attemptRef now current current' staged s₁ s2 _ owner h hattempt hchildren howner hpromoted
      hexact h2 h' =>
    have hlive : s₁.live = [] := live_nil hchildren
    have hreleased := (accounted_released (hs.calm h) (liveTunnels_nil hlive)).calm h2
    exact (accounted_ended hreleased (h2.live.trans hlive) h2.tunnel).calm h'
  | finished h hattempt hchildren htunnel h' =>
    exact (accounted_ended (hs.calm h) (live_nil hchildren) htunnel).calm h'

end Accounted

/-! ## Steps -/

/-- The tunnel of an attempt was given up: its stop was confirmed while no child held
it, or it has passed and was promoted. -/
def Released (s : TransportSelection) (attemptRef : Text) : SelectionOperation → Prop
  | .stopConfirmed owner => owner.attemptRef = attemptRef ∧ s.liveTunnels = []
  | .finishAttempt ref result _ _ _ _ => ref = attemptRef ∧ result = .pass ∧
      s.attemptRef = some attemptRef ∧
      ∃ owner, s.nativeConnect = some owner ∧ owner.promoted = true ∧ owner.attemptRef = attemptRef
  | _ => False

/-- An attempt begins, of which there was no trace, and with nothing owned. -/
structure Opens (s : TransportSelection) (operation : SelectionOperation) (s' : TransportSelection)
    (attemptRef endpointRef : Text) : Prop where
  asked : operation.opens = some (attemptRef, endpointRef)
  fresh : attemptRef ∉ s.attemptRefs
  admitted : s'.attemptRefs = s.attemptRefs ++ [attemptRef]
  attempts : s'.attempts = s.attempts + 1
  endpoint : endpointRef ∈ s'.endpoints
  open' : s.closed = none
  free : s.attemptRef = none
  settled : s.live = []
  released : s.tunnelAttemptRef = none
  current : s'.attemptRef = some attemptRef

/-- A child begins under the attempt, which is not stopped. -/
structure Begins (s s' : TransportSelection) (attemptRef : Text) (resource : TransportChildResource) :
    Prop where
  current : s.attemptRef = some attemptRef
  open' : s.closed = none
  going : s.attemptStop = none
  child : s'.live = s.live ++ [(s.permits, resource)]
  permits : s'.permits = s.permits + 1
  tunnel : resource = .tunnel → s.tunnelAttemptRef = none ∧ s'.tunnelAttemptRef = some attemptRef

/-- What one operation may do. -/
structure Stepped (s : TransportSelection) (operation : SelectionOperation) (s' : TransportSelection) :
    Prop where
  elapsed : s.lastElapsedMs ≤ s'.lastElapsedMs
  latest : s.lastLatest.micros ≤ s'.lastLatest.micros
  closed : s.closed.isSome = true → s'.closed = s.closed
  endpoints : s.endpoints <+: s'.endpoints
  attempt : (s'.attemptRefs = s.attemptRefs ∧ s'.attempts = s.attempts ∧
      (s'.attemptRef = s.attemptRef ∨ s'.attemptRef = none)) ∨
    ∃ attemptRef endpointRef, Opens s operation s' attemptRef endpointRef
  child : (s'.permits = s.permits ∧ s'.live.Sublist s.live) ∨
    ∃ attemptRef resource, Begins s s' attemptRef resource
  attemptStop : s.attemptStop.isSome = true → s'.attemptStop = s.attemptStop ∨ s'.attempts = s.attempts + 1
  tunnel : ∀ attemptRef, s.tunnelAttemptRef = some attemptRef → s'.tunnelAttemptRef = some attemptRef ∨
    s'.tunnelAttemptRef = none ∧ Released s attemptRef operation

section Stepped

variable {policy : SelectionPolicy} {s s₁ s' : TransportSelection} {operation : SelectionOperation}

theorem Stepped.calm (h : Calm s s') : Stepped s operation s' where
  elapsed := h.elapsed
  latest := h.latest
  closed := h.closed
  endpoints := h.endpoints.symm ▸ List.prefix_rfl
  attempt := .inl ⟨h.attemptRefs, h.attempts, .inl h.attemptRef⟩
  child := .inl ⟨h.permits, by rw [h.live]⟩
  attemptStop := fun hstop => .inl (h.attemptStop hstop)
  tunnel := fun attemptRef href => .inl (h.tunnel.trans href)

/-- Beside what is calm, children may be settled. -/
theorem stepped_beside (h : Calm s s₁) (helapsed : s'.lastElapsedMs = s₁.lastElapsedMs)
    (hlatest : s'.lastLatest = s₁.lastLatest) (hclosed : s'.closed = s₁.closed)
    (hstop : s'.attemptStop = s₁.attemptStop) (hendpoints : s'.endpoints = s₁.endpoints)
    (hattempt : (s'.attemptRefs, s'.attempts, s'.attemptRef) =
      (s₁.attemptRefs, s₁.attempts, s₁.attemptRef))
    (hpermits : s'.permits = s₁.permits) (hlive : s'.live.Sublist s₁.live)
    (htunnel : s'.tunnelAttemptRef = s₁.tunnelAttemptRef) : Stepped s operation s' := by
  simp only [Prod.mk.injEq] at hattempt
  constructor
  case elapsed => exact helapsed ▸ h.elapsed
  case latest => exact hlatest ▸ h.latest
  case closed => exact hclosed ▸ h.closed
  case endpoints => exact hendpoints ▸ h.endpoints ▸ List.prefix_rfl
  case attempt =>
    left
    rw [hattempt.1, hattempt.2.1, hattempt.2.2]
    exact ⟨h.attemptRefs, h.attempts, .inl h.attemptRef⟩
  case child =>
    left
    rw [hpermits, ← h.live]
    exact ⟨h.permits, hlive⟩
  case attemptStop =>
    rw [hstop]
    exact fun hsome => .inl (h.attemptStop hsome)
  case tunnel =>
    intro ref href
    rw [htunnel, h.tunnel]
    exact .inl href

theorem stopped_none {o o' : Option String} (h : o.isSome = true → o' = o) (hnone : o' = none) :
    o = none := by
  cases o with
  | none => rfl
  | some reason =>
    rw [h rfl] at hnone
    cases hnone

theorem stepped_reserved {attemptRef endpointRef : Text} {repair : Bool} (h : Calm s s₁)
    (hclosed : s₁.closed = none) (hattempt : s₁.attemptRef = none) (hchildren : s₁.children = [])
    (htunnel : s₁.tunnelAttemptRef = none) (hnew : attemptRef ∉ s₁.attemptRefs)
    (hopens : operation.opens = some (attemptRef, endpointRef))
    (h' : Calm (s₁.reserved attemptRef endpointRef repair) s') : Stepped s operation s' := by
  have hlive : s.live = [] := h.live.symm.trans (live_nil hchildren)
  have hopen : s.closed = none := stopped_none h.closed hclosed
  have hendpoints : s'.endpoints =
      if s₁.endpoints.contains endpointRef then s₁.endpoints else s₁.endpoints ++ [endpointRef] := h'.endpoints
  constructor
  case elapsed => exact h.elapsed.trans h'.elapsed
  case latest => exact h.latest.trans h'.latest
  case closed =>
    intro hsome
    rw [hopen] at hsome
    cases hsome
  case endpoints =>
    rw [hendpoints, ← h.endpoints]
    split
    · exact List.prefix_rfl
    · exact List.prefix_append _ _
  case attempt =>
    refine .inr ⟨attemptRef, endpointRef, hopens, ?_, ?_, ?_, ?_, hopen, ?_, hlive, ?_, h'.attemptRef⟩
    · rw [← h.attemptRefs]
      exact hnew
    · rw [h'.attemptRefs, ← h.attemptRefs]
      rfl
    · rw [h'.attempts, ← h.attempts]
      rfl
    · rw [hendpoints]
      split
      next hmem => exact List.contains_iff_mem.mp hmem
      next => exact List.mem_append_right _ List.mem_cons_self
    · rw [← h.attemptRef, hattempt]
    · rw [← h.tunnel, htunnel]
  case child =>
    left
    constructor
    · rw [h'.permits, ← h.permits]
      rfl
    · rw [h'.live, ← h.live]
      exact List.Sublist.refl _
  case attemptStop =>
    intro _
    right
    rw [h'.attempts, ← h.attempts]
    rfl
  case tunnel =>
    intro ref href
    rw [← h.tunnel, htunnel] at href
    cases href

theorem stepped_child {attemptRef : Text} {stage : TransportSelectionStage} {deadline : Int}
    {child : TransportChild} {owner : Option TransportNativeConnect} (h : Calm s s₁)
    (hattempt : s₁.attemptRef = some attemptRef) (hclosed : s₁.closed = none)
    (hstop : s₁.attemptStop = none) (htunnel : child.resource = .tunnel → s₁.tunnelAttemptRef = none) :
    Stepped s operation { s₁.withChild attemptRef stage deadline child with nativeConnect := owner } := by
  have hgoing : s.attemptStop = none := stopped_none h.attemptStop hstop
  constructor
  case elapsed => exact h.elapsed
  case latest => exact h.latest
  case closed => exact h.closed
  case endpoints =>
    rw [← h.endpoints]
    exact List.prefix_rfl
  case attempt => exact .inl ⟨h.attemptRefs, h.attempts, .inl h.attemptRef⟩
  case child =>
    refine .inr ⟨attemptRef, child.resource, ?_, stopped_none h.closed hclosed, hgoing, ?_, ?_, ?_⟩
    · rw [← h.attemptRef, hattempt]
    · rw [← h.live, ← h.permits]
      simp [live, withChild, childKey]
    · rw [← h.permits]
      rfl
    · intro hresource
      constructor
      · rw [← h.tunnel, htunnel hresource]
      · exact if_pos hresource
  case attemptStop =>
    intro hsome
    rw [hgoing] at hsome
    cases hsome
  case tunnel =>
    intro ref href
    left
    show (if child.resource = .tunnel then some attemptRef else s₁.tunnelAttemptRef) = some ref
    rw [← h.tunnel] at href
    rw [if_neg, href]
    intro hresource
    rw [htunnel hresource] at href
    cases href

theorem stepped_passed {attemptRef : Text} {now : TransportTimeWindow} {current current' : Currency}
    {staged : Bool} {s2 : TransportSelection} {owner : TransportNativeConnect} (hs : Accounted policy s)
    (h : Calm s s₁) (hattempt : s₁.attemptRef = some attemptRef) (hchildren : s₁.children = [])
    (howner : s₁.nativeConnect = some owner) (hpromoted : owner.promoted = true)
    (hexact : owner.attemptRef = attemptRef)
    (h2 : Calm { s₁ with nativeConnect := none, tunnelAttemptRef := none } s2)
    (h' : Calm (s2.ended policy) s') :
    Stepped s (.finishAttempt attemptRef .pass now current current' staged) s' := by
  have hlive : s₁.live = [] := live_nil hchildren
  have hlive' : s'.live = [] := h'.live.trans (h2.live.trans hlive)
  constructor
  case elapsed => exact h.elapsed.trans (h2.elapsed.trans h'.elapsed)
  case latest => exact h.latest.trans (h2.latest.trans h'.latest)
  case closed =>
    intro hclosed
    have hfirst := h.closed hclosed
    have hsecond : s2.closed = s.closed := (h2.closed (by rw [hfirst]; exact hclosed)).trans hfirst
    exact (h'.closed (by show s2.closed.isSome = true; rw [hsecond]; exact hclosed)).trans hsecond
  case endpoints =>
    rw [h'.endpoints, ← h.endpoints]
    exact (congrArg (s₁.endpoints <+: ·) h2.endpoints).mpr List.prefix_rfl
  case attempt =>
    exact .inl ⟨h'.attemptRefs.trans (h2.attemptRefs.trans h.attemptRefs),
      h'.attempts.trans (h2.attempts.trans h.attempts), .inr h'.attemptRef⟩
  case child =>
    left
    constructor
    · exact h'.permits.trans (h2.permits.trans h.permits)
    · rw [hlive']
      exact List.nil_sublist _
  case attemptStop =>
    intro hstop
    left
    have hfirst := h.attemptStop hstop
    have hsecond : s2.attemptStop = s.attemptStop :=
      (h2.attemptStop (by rw [hfirst]; exact hstop)).trans hfirst
    exact (h'.attemptStop (by show s2.attemptStop.isSome = true; rw [hsecond]; exact hstop)).trans hsecond
  case tunnel =>
    intro ref href
    right
    have hopen := hs.tunnel ref href
    have hsame : attemptRef = ref := by
      rw [h.attemptRef, hopen] at hattempt
      exact (Option.some.inj hattempt).symm
    subst hsame
    refine ⟨h'.tunnel.trans h2.tunnel, rfl, rfl, hopen, ?_⟩
    have hkey := h.owner
    rw [howner] at hkey
    obtain ⟨native, hnative, hkeys⟩ := Option.map_eq_some_iff.mp hkey.symm
    simp only [ownerKey, Prod.mk.injEq] at hkeys
    exact ⟨native, hnative, hkeys.2.2.trans hpromoted, hkeys.2.1.trans hexact⟩

theorem stepped_finished (h : Calm s s₁)
    (htunnel : s₁.tunnelAttemptRef = none) (h' : Calm (s₁.ended policy) s') : Stepped s operation s' := by
  constructor
  case elapsed => exact h.elapsed.trans h'.elapsed
  case latest => exact h.latest.trans h'.latest
  case closed =>
    intro hclosed
    have hfirst := h.closed hclosed
    exact (h'.closed (by show s₁.closed.isSome = true; rw [hfirst]; exact hclosed)).trans hfirst
  case endpoints =>
    rw [h'.endpoints, ← h.endpoints]
    exact List.prefix_rfl
  case attempt =>
    exact .inl ⟨h'.attemptRefs.trans h.attemptRefs, h'.attempts.trans h.attempts, .inr h'.attemptRef⟩
  case child =>
    left
    constructor
    · exact h'.permits.trans h.permits
    · rw [h'.live, ← h.live]
      exact List.Sublist.refl _
  case attemptStop =>
    intro hstop
    left
    have hfirst := h.attemptStop hstop
    exact (h'.attemptStop (by show s₁.attemptStop.isSome = true; rw [hfirst]; exact hstop)).trans hfirst
  case tunnel =>
    intro ref href
    rw [← h.tunnel, htunnel] at href
    cases href

/-- A step of a selection in order does only what `Stepped` says. -/
theorem stepped_change (hs : Accounted policy s) (h : Change policy s operation s') :
    Stepped s operation s' := by
  cases h with
  | calm h => exact .calm h
  | reserved h hclosed hattempt hchildren htunnel hnew _ _ _ hopens h' =>
    exact stepped_reserved h hclosed hattempt hchildren htunnel hnew hopens h'
  | child h hattempt hclosed hstop _ htunnel => exact stepped_child h hattempt hclosed hstop htunnel
  | bytes h hbytes => exact stepped_beside h rfl rfl rfl rfl rfl rfl rfl (List.Sublist.refl _) rfl
  | settled h =>
    exact stepped_beside h rfl rfl rfl rfl rfl rfl rfl (List.filter_sublist.map childKey) rfl
  | @released owner howner htunnel hchildren =>
    have hcalm : Stepped s (.stopConfirmed owner) s := .calm (Calm.refl s)
    refine ⟨hcalm.elapsed, hcalm.latest, hcalm.closed, hcalm.endpoints, .inl ⟨rfl, rfl, .inl rfl⟩,
      .inl ⟨rfl, List.Sublist.refl _⟩, hcalm.attemptStop, fun ref href => .inr ⟨rfl, ?_, ?_⟩⟩
    · rw [htunnel] at href
      exact Option.some.inj href
    · rw [liveTunnels, List.filter_eq_nil_iff]
      intro child hchild
      obtain ⟨c, hc, rfl⟩ := List.mem_map.mp hchild
      exact List.any_eq_false.mp hchildren c hc
  | promoted h => exact stepped_beside h rfl rfl rfl rfl rfl rfl rfl (List.Sublist.refl _) rfl
  | passed h hattempt hchildren howner hpromoted hexact h2 h' =>
    exact stepped_passed hs h hattempt hchildren howner hpromoted hexact h2 h'
  | finished h _ _ htunnel h' => exact stepped_finished h htunnel h'

end Stepped

/-! ## Runs -/

/-- What lies between a state and a later one. -/
structure Leads (s s' : TransportSelection) : Prop where
  elapsed : s.lastElapsedMs ≤ s'.lastElapsedMs
  latest : s.lastLatest.micros ≤ s'.lastLatest.micros
  attempts : s.attempts ≤ s'.attempts
  attemptRefs : s.attemptRefs <+: s'.attemptRefs
  endpoints : s.endpoints <+: s'.endpoints
  permits : s.permits ≤ s'.permits
  closed : s.closed.isSome = true →
    s'.closed = s.closed ∧ s'.attemptRefs = s.attemptRefs ∧ s'.permits = s.permits
  stopped : s.attemptStop.isSome = true → s'.attempts = s.attempts →
    s'.attemptStop = s.attemptStop ∧ s'.permits = s.permits

section Leads

variable {policy : SelectionPolicy}

theorem Leads.refl (s : TransportSelection) : Leads s s where
  elapsed := le_rfl
  latest := le_rfl
  attempts := le_rfl
  attemptRefs := List.prefix_rfl
  endpoints := List.prefix_rfl
  permits := le_rfl
  closed := fun _ => ⟨rfl, rfl, rfl⟩
  stopped := fun _ _ => ⟨rfl, rfl⟩

theorem Leads.trans {a b c : TransportSelection} (h : Leads a b) (h' : Leads b c) : Leads a c where
  elapsed := h.elapsed.trans h'.elapsed
  latest := h.latest.trans h'.latest
  attempts := h.attempts.trans h'.attempts
  attemptRefs := h.attemptRefs.trans h'.attemptRefs
  endpoints := h.endpoints.trans h'.endpoints
  permits := h.permits.trans h'.permits
  closed := by
    intro hclosed
    obtain ⟨hsame, hrefs, hpermits⟩ := h.closed hclosed
    obtain ⟨hsame', hrefs', hpermits'⟩ := h'.closed (by rw [hsame]; exact hclosed)
    exact ⟨hsame'.trans hsame, hrefs'.trans hrefs, hpermits'.trans hpermits⟩
  stopped := by
    intro hstop hattempts
    -- no attempt between the two, so none on the way
    have hfirst : b.attempts = a.attempts := by
      have := h.attempts
      have := h'.attempts
      omega
    obtain ⟨hsame, hpermits⟩ := h.stopped hstop hfirst
    obtain ⟨hsame', hpermits'⟩ := h'.stopped (by rw [hsame]; exact hstop) (hattempts.trans hfirst.symm)
    exact ⟨hsame'.trans hsame, hpermits'.trans hpermits⟩

instance : Std.Refl Leads := ⟨Leads.refl⟩

instance : IsTrans TransportSelection Leads := ⟨fun _ _ _ => Leads.trans⟩

theorem Stepped.leads {s s' : TransportSelection} {operation : SelectionOperation}
    (h : Stepped s operation s') : Leads s s' := by
  constructor
  case elapsed => exact h.elapsed
  case latest => exact h.latest
  case endpoints => exact h.endpoints
  case attempts =>
    rcases h.attempt with ⟨-, hsame, -⟩ | ⟨_, _, hopens⟩
    · exact hsame.ge
    · rw [hopens.attempts]
      exact Nat.le_succ _
  case attemptRefs =>
    rcases h.attempt with ⟨hsame, -, -⟩ | ⟨_, _, hopens⟩
    · exact hsame.symm ▸ List.prefix_rfl
    · rw [hopens.admitted]
      exact List.prefix_append _ _
  case permits =>
    rcases h.child with ⟨hsame, -⟩ | ⟨_, _, hbegins⟩
    · exact hsame.ge
    · rw [hbegins.permits]
      exact Nat.le_succ _
  case closed =>
    intro hclosed
    refine ⟨h.closed hclosed, ?_, ?_⟩
    · rcases h.attempt with ⟨hsame, -, -⟩ | ⟨_, _, hopens⟩
      · exact hsame
      · rw [hopens.open'] at hclosed
        cases hclosed
    · rcases h.child with ⟨hsame, -⟩ | ⟨_, _, hbegins⟩
      · exact hsame
      · rw [hbegins.open'] at hclosed
        cases hclosed
  case stopped =>
    intro hstop hattempts
    constructor
    · rcases h.attemptStop hstop with hsame | hmore
      · exact hsame
      · omega
    · rcases h.child with ⟨hsame, -⟩ | ⟨_, _, hbegins⟩
      · exact hsame
      · rw [hbegins.going] at hstop
        cases hstop

theorem accounted_created {contextMatches : Bool} {now : TransportTimeWindow} {current : Currency}
    {s : TransportSelection} (h : create policy contextMatches now current = .ok s) :
    Accounted policy s := by
  unfold create at h
  split at h
  · cases h
  · have hfresh : Accounted policy
        { lastElapsedMs := now.sample.elapsedMilliseconds, lastLatest := now.latest } := by
      constructor <;> simp [live, liveTunnels]
    have hkeeps : Preserves Calm (check policy current now) := keeps_check
    have hcheck := hfresh.calm (hkeeps _)
    split at h
    next heq =>
      rw [heq] at hcheck
      cases h
      exact hcheck
    next => cases h

theorem Accounted.after {s : TransportSelection} (hs : Accounted policy s)
    (operation : SelectionOperation) : Accounted policy (after policy s operation) :=
  hs.change (change_after operation)

theorem Accounted.stepped {s : TransportSelection} (hs : Accounted policy s)
    (operation : SelectionOperation) : Stepped s operation (TransportSelection.after policy s operation) :=
  stepped_change hs (change_after operation)

/-- In every run of a selection the accounts are within the budget and the owners in
order, and each operation and each rest of a run does only what it may. -/
theorem selection_accounting {contextMatches : Bool} {now : TransportTimeWindow} {current : Currency}
    {created : TransportSelection} (hcreate : create policy contextMatches now current = .ok created)
    (operations : List SelectionOperation) :
    let s := Runs.run (after policy) created operations
    Accounted policy s ∧ (∀ operation, Stepped s operation (after policy s operation)) ∧
      ∀ later, Leads s (Runs.run (after policy) s later) := by
  intro s
  have hs : Accounted policy s :=
    Runs.keeps (fun _ operation hs => hs.after operation) (accounted_created hcreate) operations
  refine ⟨hs, hs.stepped, fun later => ?_⟩
  exact Runs.leads (fun _ operation hs => hs.after operation)
    (fun _ operation hs => (hs.stepped operation).leads) hs later

/-! A run of one attempt with a child, which is settled before the attempt ends. -/

def someRef (name : String) : Text := text name ++ text "_0123456789abcdef"

theorem someTime_lower (micros : Nat) : -maxMicroseconds ≤ ((micros % 1000000001 : Nat) : Int) := by
  unfold maxMicroseconds
  omega

theorem someTime_upper (micros : Nat) : ((micros % 1000000001 : Nat) : Int) ≤ maxMicroseconds := by
  unfold maxMicroseconds
  omega

def someTime (micros : Nat) : DateTime :=
  ⟨(micros % 1000000001 : Nat), someTime_lower micros, someTime_upper micros⟩

theorem someSample_elapsed : 5 ≤ maximumElapsedMs := by decide

def someNow : TransportTimeWindow where
  earliest := someTime 0
  latest := someTime 1000
  sample := ⟨text "android:1", 5, rfl, someSample_elapsed⟩

def someCandidate : TransportCandidate where
  candidateRef := someRef "candidate"
  capabilityRef := someRef "capability"
  profileRef := someRef "profile"
  profileRevision := 1
  profileSha256 := List.replicate 64 (unit '0')
  endpointRef := someRef "endpoint"
  endpointLeaseRef := someRef "lease"
  failureDomainRef := someRef "domain"
  bootstrapSetRef := someRef "bootstrap"
  probeSetRef := someRef "probe"
  artifactSha256 := List.replicate 64 (unit '0')
  coreCapabilityRevision := someRef "core"
  routePolicyRef := someRef "route"
  dnsPolicyRef := someRef "dns"
  mode := .fullTunnel
  family := text "ipv4"
  authorizedFrom := someTime 0
  authorizedUntil := someTime 1000000000
  activeFlowsUntil := someTime 1000000000

def someBinding : TransportCapabilityBinding where
  capabilityRef := someRef "capability"
  coreCapabilityRevision := someRef "core"
  requiredFeatures := []
  artifacts := []
  profileRefs := [someRef "profile"]

def somePolicy : SelectionPolicy where
  budget := ⟨1, 1, 1, 16, 0, 10, 10, fun _ => 100⟩
  profileRefs := [someRef "profile"]
  capabilityRefs := [someRef "capability"]
  bootstrapSetRefs := [someRef "bootstrap"]
  probeSetRefs := [someRef "probe"]
  kills := ⟨[], [], []⟩
  capabilityBindings := [someBinding]
  lastObservedAt := someTime 0
  notBefore := someTime 0
  rollbackNotBefore := none
  effectiveExpiresAt := someTime 1000000000
  deadline := ⟨text "android:1", 0, 100000⟩
  hostPlatform := .android
  artifactSha256 := List.replicate 64 (unit '0')
  coreCapabilityRevision := someRef "core"
  routePolicyRef := someRef "route"
  dnsPolicyRef := someRef "dns"
  mode := .fullTunnel
  families := [text "ipv4"]
  bindings := [someBinding]

def someCurrency : Currency := ⟨true, true, true⟩

def someSelection : TransportSelection := { lastElapsedMs := 5, lastLatest := someNow.latest }

def someOperations : List SelectionOperation :=
  [.beginAttempt (someRef "attempt") someCandidate someNow false someCurrency someCurrency,
    .beginChild (someRef "attempt") .profile .preparation someNow someCurrency,
    .settleChild (someRef "attempt") 0 (some someNow) someCurrency,
    .finishAttempt (someRef "attempt") .fail someNow someCurrency someCurrency true]

theorem someSelection_accounting :
    create somePolicy true someNow someCurrency = .ok someSelection ∧
      let s := Runs.run (TransportSelection.after somePolicy) someSelection someOperations
      Accounted somePolicy s ∧
        (∀ operation, Stepped s operation (TransportSelection.after somePolicy s operation)) ∧
        ∀ later, Leads s (Runs.run (TransportSelection.after somePolicy) s later) :=
  have hcreate : create somePolicy true someNow someCurrency = .ok someSelection := rfl
  ⟨hcreate, selection_accounting hcreate someOperations⟩

example : (Runs.run (TransportSelection.after somePolicy) someSelection (someOperations.take 2)).live =
    [(0, .preparation)] := by decide

example : (Runs.run (TransportSelection.after somePolicy) someSelection someOperations).attemptRefs =
    [someRef "attempt"] := by decide

end Leads

end Pokrov.AppShell.TransportSelection
