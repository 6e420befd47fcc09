import Pokrov.Lib.Grounded

/-!
# The fallback behind a lease

`localDpiVpnFallback` follows detours, leases and groups through the outbounds that a
server has sent, and keeps the tag it was asked about when every path from it ends in a
transport that protects. It decides the least such notion of being protected.
-/

namespace Pokrov.Android.LocalDpi

open Needs

structure LocalDpiVpnOutbound where
  tag : String
  type : String
  detour : String
  upstreamTag : String
  children : List String
  tlsSecure : Bool

/-- An answer, and what `onFailure` was called with on the way to it. -/
structure Checked (α : Type) where
  answer : α
  failures : List String

namespace Checked

def accepted : Checked Bool := ⟨true, []⟩

def rejected (reason : String) : Checked Bool := ⟨false, [reason]⟩

/-- `if (!first) return false; return second`. -/
def andThen (first second : Checked Bool) : Checked Bool :=
  if first.answer then ⟨second.answer, first.failures ++ second.failures⟩ else first

/-- `Iterable.all`, which stops at the first that is rejected. -/
def all (check : String → Checked Bool) : List String → Checked Bool
  | [] => accepted
  | child :: children => (check child).andThen (all check children)

@[simp] theorem answer_accepted : accepted.answer = true := rfl

@[simp] theorem answer_rejected (reason : String) : (rejected reason).answer = false := rfl

@[simp] theorem answer_andThen (first second : Checked Bool) :
    (first.andThen second).answer = (first.answer && second.answer) := by
  unfold andThen
  cases h : first.answer <;> simp [h]

@[simp] theorem answer_all (check : String → Checked Bool) (children : List String) :
    (all check children).answer = children.all fun child => (check child).answer := by
  induction children with
  | nil => rfl
  | cons child children ih => simp [all, ih]

/-- A failure was reported exactly when the answer is no. -/
def Reported (checked : Checked Bool) : Prop := checked.failures = [] ↔ checked.answer = true

theorem reported_accepted : accepted.Reported := by simp [Reported, accepted]

theorem reported_rejected (reason : String) : (rejected reason).Reported := by
  simp [Reported, rejected]

theorem Reported.andThen {first second : Checked Bool} (h1 : first.Reported)
    (h2 : second.Reported) : (first.andThen second).Reported := by
  unfold Checked.andThen
  by_cases h : first.answer = true
  · have hnone : first.failures = [] := h1.mpr h
    simpa [h, hnone, Reported] using h2
  · simpa [h] using h1

theorem reported_all {check : String → Checked Bool} (h : ∀ child, (check child).Reported)
    (children : List String) : (all check children).Reported := by
  induction children with
  | nil => exact reported_accepted
  | cons child children ih => exact (h child).andThen ih

end Checked

open Checked

/-- The type of an outbound that is neither a transport nor followed. -/
def typeReason (type : String) : String :=
  if type = "direct" then "fallback=type_direct"
  else if type = "block" then "fallback=type_block"
  else if type = "dns" then "fallback=type_dns"
  else if type = "naive" then "fallback=type_naive"
  else if type = "pokrov-smart-access" then "fallback=type_smart_access"
  else if type = "" then "fallback=type_empty"
  else "fallback=type_other"

section

variable (outbounds : List LocalDpiVpnOutbound)

/-- The outbounds with a tag. -/
def tagged (tag : String) : List LocalDpiVpnOutbound := outbounds.filter (·.tag == tag)

def singleOrNull (tag : String) : Option LocalDpiVpnOutbound :=
  match tagged outbounds tag with
  | [outbound] => some outbound
  | _ => none

/-- The detour of an outbound, with `follow` for the recursive call. -/
def checkDetour (follow : String → String → Checked Bool) (outbound : LocalDpiVpnOutbound) :
    Checked Bool :=
  if outbound.detour = "" then accepted
  else
    match tagged outbounds outbound.detour with
    | [] => rejected "fallback=detour_target_missing"
    | [target] =>
      if target.type = "direct" then rejected "fallback=detour_direct"
      else if outbound.type ≠ "vless" ∨ target.type ≠ "vless" then
        rejected "fallback=detour_other"
      else follow outbound.detour "fallback=detour_target_missing"
    | _ => rejected "fallback=detour_target_duplicate"

/-- The `when` over the type of an outbound. -/
def checkType (follow : String → String → Checked Bool) (outbound : LocalDpiVpnOutbound) :
    Checked Bool :=
  if outbound.type ∈ ["vless", "hysteria2", "wireguard", "awg"] then accepted
  else if outbound.type = "pokrov-ats-lease" then
    follow outbound.upstreamTag "fallback=lease_target_missing"
  else if outbound.type ∈ ["selector", "urltest"] then
    if outbound.children = [] then rejected "fallback=empty_group"
    else all (follow · "fallback=group_target_missing") outbound.children
  else rejected (typeReason outbound.type)

/-- `protected`, from where the one outbound with the tag is known. -/
def checkOutbound (follow : String → String → Checked Bool) (outbound : LocalDpiVpnOutbound) :
    Checked Bool :=
  if outbound.type = "vless" ∧ outbound.tlsSecure = false then rejected "fallback=tls_unverified"
  else (checkDetour outbounds follow outbound).andThen (checkType follow outbound)

variable {outbounds}

variable {tag : String}

theorem tagged_of_singleOrNull {outbound : LocalDpiVpnOutbound} :
    singleOrNull outbounds tag = some outbound ↔ tagged outbounds tag = [outbound] := by
  unfold singleOrNull
  split
  · simp_all
  · next hother =>
    constructor
    · exact fun h => nomatch h
    · exact fun h => (hother outbound h).elim

theorem mem_tags_of_singleOrNull {outbound : LocalDpiVpnOutbound}
    (h : singleOrNull outbounds tag = some outbound) :
    tag ∈ outbounds.map LocalDpiVpnOutbound.tag := by
  have hmem : outbound ∈ tagged outbounds tag := by simp [tagged_of_singleOrNull.mp h]
  obtain ⟨hout, htag⟩ := List.mem_filter.mp hmem
  exact List.mem_map.mpr ⟨outbound, hout, by simpa using htag⟩

variable (outbounds)

/-- `protected`. Each call adds a tag of the list to `visiting`. -/
def isProtected (candidate : String) (visiting : List String) (missing : String) :
    Checked Bool :=
  if _hcycle : candidate ∈ visiting then rejected "fallback=cycle"
  else
    match _hsingle : singleOrNull outbounds candidate with
    | none =>
      rejected (if outbounds.any (·.tag == candidate) then "fallback=duplicate_target" else missing)
    | some outbound =>
      checkOutbound outbounds
        (fun tag missing => isProtected tag (candidate :: visiting) missing) outbound
termination_by (unmet (outbounds.map LocalDpiVpnOutbound.tag) visiting).length
decreasing_by exact unmet_cons_lt (mem_tags_of_singleOrNull _hsingle) _hcycle

def localDpiVpnFallback (tag : String) : Checked (Option String) :=
  let checked := isProtected outbounds tag [] "fallback=root_target_missing"
  ⟨if checked.answer then some tag else none, checked.failures⟩

/-! ## Which tags are protected -/

/-- What an outbound has to be before anything else is asked of it: the one with its
tag, no `vless` without TLS, and its detour from one `vless` to the one other. -/
structure Admissible (tag : String) (outbound : LocalDpiVpnOutbound) : Prop where
  single : tagged outbounds tag = [outbound]
  secure : outbound.type = "vless" → outbound.tlsSecure = true
  detour : outbound.detour ≠ "" → ∃ target, tagged outbounds outbound.detour = [target] ∧
    outbound.type = "vless" ∧ target.type = "vless"

inductive Protected : String → Prop
  | transport {tag : String} {outbound : LocalDpiVpnOutbound}
      (admissible : Admissible outbounds tag outbound)
      (detour : outbound.detour ≠ "" → Protected outbound.detour)
      (type : outbound.type ∈ ["vless", "hysteria2", "wireguard", "awg"]) : Protected tag
  | lease {tag : String} {outbound : LocalDpiVpnOutbound}
      (admissible : Admissible outbounds tag outbound)
      (detour : outbound.detour ≠ "" → Protected outbound.detour)
      (type : outbound.type = "pokrov-ats-lease")
      (upstream : Protected outbound.upstreamTag) : Protected tag
  | group {tag : String} {outbound : LocalDpiVpnOutbound}
      (admissible : Admissible outbounds tag outbound)
      (detour : outbound.detour ≠ "" → Protected outbound.detour)
      (type : outbound.type ∈ ["selector", "urltest"])
      (nonempty : outbound.children ≠ [])
      (children : ∀ child ∈ outbound.children, Protected child) : Protected tag

/-! ## The search decides it -/

/-- What an outbound needs of other tags, if it is admissible and of a type that can be
protected at all. -/
def needsOf (outbound : LocalDpiVpnOutbound) : Option (List String) :=
  if outbound.type ∈ ["vless", "hysteria2", "wireguard", "awg"] then some []
  else if outbound.type = "pokrov-ats-lease" then some [outbound.upstreamTag]
  else if outbound.type ∈ ["selector", "urltest"] ∧ outbound.children ≠ [] then
    some outbound.children
  else none

def detourNeeds (outbound : LocalDpiVpnOutbound) : List String :=
  if outbound.detour = "" then [] else [outbound.detour]

open Classical in
/-- The tags that a tag rests on. -/
noncomputable def needs (tag : String) : Option (List String) :=
  (singleOrNull outbounds tag).bind fun outbound =>
    if Admissible outbounds tag outbound then
      (needsOf outbound).map (detourNeeds outbound ++ ·)
    else none

variable {outbounds}

theorem needs_eq_some {ds : List String} :
    needs outbounds tag = some ds ↔ ∃ outbound, Admissible outbounds tag outbound ∧
      ∃ own, needsOf outbound = some own ∧ ds = detourNeeds outbound ++ own := by
  unfold needs
  constructor
  · intro h
    obtain ⟨outbound, hsingle, h⟩ := Option.bind_eq_some_iff.mp h
    by_cases hadm : Admissible outbounds tag outbound
    · rw [if_pos hadm] at h
      obtain ⟨own, hown, rfl⟩ := Option.map_eq_some_iff.mp h
      exact ⟨outbound, hadm, own, hown, rfl⟩
    · simp [hadm] at h
  · rintro ⟨outbound, hadm, own, hown, rfl⟩
    rw [tagged_of_singleOrNull.mpr hadm.single]
    simp [hadm, hown]

theorem mem_detourNeeds {outbound : LocalDpiVpnOutbound} :
    tag ∈ detourNeeds outbound ↔ outbound.detour ≠ "" ∧ tag = outbound.detour := by
  unfold detourNeeds
  by_cases h : outbound.detour = "" <;> simp [h]

/-- The inductive reading of being protected is that all it rests on is grounded. -/
theorem protected_iff_grounded : Protected outbounds tag ↔ Grounded (needs outbounds) tag := by
  constructor
  · intro h
    induction h with
    | @transport tag outbound hadm _ htype ih =>
      have hown : needsOf outbound = some [] := by simp only [needsOf, if_pos htype]
      refine .of_needs (needs_eq_some.mpr ⟨outbound, hadm, [], hown, rfl⟩) fun d hd => ?_
      rw [List.append_nil] at hd
      obtain ⟨hne, rfl⟩ := mem_detourNeeds.mp hd
      exact ih hne
    | @lease tag outbound hadm _ htype _ ihdetour ihup =>
      have hown : needsOf outbound = some [outbound.upstreamTag] := by simp [needsOf, htype]
      refine .of_needs (needs_eq_some.mpr ⟨outbound, hadm, _, hown, rfl⟩) fun d hd => ?_
      rcases List.mem_append.mp hd with hd | hd
      · obtain ⟨hne, rfl⟩ := mem_detourNeeds.mp hd
        exact ihdetour hne
      · obtain rfl := List.mem_singleton.mp hd
        exact ihup
    | @group tag outbound hadm _ htype hne _ ihdetour ihchildren =>
      have hown : needsOf outbound = some outbound.children := by
        rcases List.mem_cons.mp htype with h | h
        · simp [needsOf, h, hne]
        · simp [needsOf, List.mem_singleton.mp h, hne]
      refine .of_needs (needs_eq_some.mpr ⟨outbound, hadm, _, hown, rfl⟩) fun d hd => ?_
      rcases List.mem_append.mp hd with hd | hd
      · obtain ⟨hne, rfl⟩ := mem_detourNeeds.mp hd
        exact ihdetour hne
      · exact ihchildren d hd
  · intro h
    induction h with
    | @of_needs tag ds hneeds _ ih =>
      obtain ⟨outbound, hadm, own, hown, rfl⟩ := needs_eq_some.mp hneeds
      have hdetour : outbound.detour ≠ "" → Protected outbounds outbound.detour := fun hne =>
        ih _ (List.mem_append_left _ (mem_detourNeeds.mpr ⟨hne, rfl⟩))
      unfold needsOf at hown
      split at hown
      · next htype => exact .transport hadm hdetour htype
      · split at hown
        · next htype =>
          cases hown
          exact .lease hadm hdetour htype (ih _ (by simp))
        · split at hown
          · next htype =>
            cases hown
            exact .group hadm hdetour htype.1 htype.2 fun child hchild => ih child (by simp [hchild])
          · cases hown

section Follow

/-! What the checks find, in terms of what they are told of the tags they follow. -/

variable {follow : String → String → Checked Bool} {passes : String → Bool}
  {outbound : LocalDpiVpnOutbound}

theorem answer_checkDetour (hfollow : ∀ tag missing, (follow tag missing).answer = passes tag) :
    (checkDetour outbounds follow outbound).answer = true ↔
      (outbound.detour ≠ "" → ∃ target, tagged outbounds outbound.detour = [target] ∧
        outbound.type = "vless" ∧ target.type = "vless") ∧
      ∀ d ∈ detourNeeds outbound, passes d = true := by
  unfold checkDetour detourNeeds
  by_cases hdetour : outbound.detour = ""
  · simp [hdetour]
  · rw [if_neg hdetour, if_neg hdetour]
    split
    · next htargets => simp [htargets, hdetour]
    · next target htargets =>
      by_cases hdirect : target.type = "direct"
      · simp [hdirect, htargets, hdetour]
      · by_cases hvless : outbound.type = "vless" ∧ target.type = "vless"
        · simp [hdetour, htargets, hvless, hfollow]
        · rw [if_neg hdirect, if_pos (by rwa [← not_and_or])]
          simp only [answer_rejected, Bool.false_eq_true, false_iff, not_and]
          intro h
          obtain ⟨_, heq, hboth⟩ := h hdetour
          rw [htargets] at heq
          cases heq
          exact absurd hboth hvless
    · next hnone hmany =>
      simp only [answer_rejected, Bool.false_eq_true, false_iff, not_and]
      intro h
      obtain ⟨target, htarget, -⟩ := h hdetour
      exact absurd htarget (hmany target)

theorem answer_checkType (hfollow : ∀ tag missing, (follow tag missing).answer = passes tag) :
    (checkType follow outbound).answer = true ↔
      ∃ own, needsOf outbound = some own ∧ ∀ d ∈ own, passes d = true := by
  unfold checkType needsOf
  by_cases htransport : outbound.type ∈ ["vless", "hysteria2", "wireguard", "awg"]
  · simp only [if_pos htransport]
    simp
  · simp only [if_neg htransport]
    by_cases hlease : outbound.type = "pokrov-ats-lease"
    · simp [hlease, hfollow]
    · simp only [if_neg hlease]
      by_cases hgroup : outbound.type ∈ ["selector", "urltest"]
      · by_cases hempty : outbound.children = []
        · simp only [if_pos hgroup]
          simp [hempty]
        · simp only [if_pos hgroup, if_neg hempty, if_pos (And.intro hgroup hempty)]
          simp [hfollow]
      · simp [hgroup]

theorem answer_checkOutbound (hfollow : ∀ tag missing, (follow tag missing).answer = passes tag)
    {tag : String} (hsingle : tagged outbounds tag = [outbound]) :
    (checkOutbound outbounds follow outbound).answer = true ↔
      ∃ ds, needs outbounds tag = some ds ∧ ∀ d ∈ ds, passes d = true := by
  unfold checkOutbound
  split
  · next hinsecure =>
    constructor
    · simp
    · rintro ⟨ds, hneeds, -⟩
      obtain ⟨other, hadm, -⟩ := needs_eq_some.mp hneeds
      obtain rfl : outbound = other := by simpa [hsingle] using hadm.single
      have hsecure := hadm.secure hinsecure.1
      rw [hinsecure.2] at hsecure
      cases hsecure
  · next hinsecure =>
    rw [answer_andThen, Bool.and_eq_true, answer_checkDetour hfollow, answer_checkType hfollow]
    constructor
    · rintro ⟨⟨htargets, hdetour⟩, own, hown, hpass⟩
      have hadm : Admissible outbounds tag outbound :=
        ⟨hsingle, fun htype => by simpa [htype] using hinsecure, htargets⟩
      refine ⟨_, needs_eq_some.mpr ⟨outbound, hadm, own, hown, rfl⟩, fun d hd => ?_⟩
      rcases List.mem_append.mp hd with hd | hd
      · exact hdetour d hd
      · exact hpass d hd
    · rintro ⟨ds, hneeds, hpass⟩
      obtain ⟨other, hadm, own, hown, rfl⟩ := needs_eq_some.mp hneeds
      obtain rfl : outbound = other := by simpa [hsingle] using hadm.single
      refine ⟨⟨hadm.detour, fun d hd => ?_⟩, own, hown, fun d hd => ?_⟩
      · exact hpass d (List.mem_append_left _ hd)
      · exact hpass d (List.mem_append_right _ hd)

theorem reported_checkOutbound (hfollow : ∀ tag missing, (follow tag missing).Reported) :
    (checkOutbound outbounds follow outbound).Reported := by
  unfold checkOutbound
  split
  · exact reported_rejected _
  · refine Reported.andThen ?_ ?_
    · unfold checkDetour
      split
      · exact reported_accepted
      · split
        · exact reported_rejected _
        · split
          · exact reported_rejected _
          · split
            · exact reported_rejected _
            · exact hfollow _ _
        · exact reported_rejected _
    · unfold checkType
      split
      · exact reported_accepted
      · split
        · exact hfollow _ _
        · split
          · split
            · exact reported_rejected _
            · exact reported_all (fun child => hfollow child _) _
          · exact reported_rejected _

end Follow

/-- The reason for a missing tag does not change the answer. -/
theorem answer_isProtected (candidate : String) (visiting : List String)
    (missing missing' : String) :
    (isProtected outbounds candidate visiting missing).answer =
      (isProtected outbounds candidate visiting missing').answer := by
  rw [isProtected.eq_def outbounds candidate visiting missing,
    isProtected.eq_def outbounds candidate visiting missing']
  split
  · rfl
  · split <;> rfl

/-- Each call looks at one outbound and follows what it needs, with its tag on the path. -/
theorem searches_isProtected (missing : String) :
    Searches (needs outbounds)
      fun path tag => (isProtected outbounds tag path missing).answer = true := by
  intro path tag
  show (isProtected outbounds tag path missing).answer = true ↔ _
  rw [isProtected.eq_def outbounds tag path missing]
  split
  · next hcycle => simp [hcycle]
  · next hfresh =>
    split
    · next hnone =>
      simp only [answer_rejected, Bool.false_eq_true, false_iff]
      rintro ⟨-, ds, hneeds, -⟩
      simp [needs, hnone] at hneeds
    · next outbound hsingle =>
      rw [answer_checkOutbound (fun d m => answer_isProtected d (tag :: path) m missing)
        (tagged_of_singleOrNull.mp hsingle)]
      simp [hfresh]

theorem mem_tags_of_needs {tag : String} {ds : List String}
    (h : needs outbounds tag = some ds) : tag ∈ outbounds.map LocalDpiVpnOutbound.tag := by
  obtain ⟨outbound, hadm, -⟩ := needs_eq_some.mp h
  exact mem_tags_of_singleOrNull (tagged_of_singleOrNull.mpr hadm.single)

theorem reported_isProtected (candidate : String) (visiting : List String) (missing : String) :
    (isProtected outbounds candidate visiting missing).Reported := by
  fun_induction isProtected outbounds candidate visiting missing with
  | case1 => exact reported_rejected _
  | case2 => exact reported_rejected _
  | case3 _ _ _ _ outbound _ ih => exact reported_checkOutbound ih

/-- The fallback is the tag exactly when it is protected, and `onFailure` has been called
exactly when there is none. -/
theorem localDpiVpnFallback_exact (outbounds : List LocalDpiVpnOutbound) (tag : String) :
    ((localDpiVpnFallback outbounds tag).answer = some tag ↔ Protected outbounds tag) ∧
    ((localDpiVpnFallback outbounds tag).answer = none ↔ ¬ Protected outbounds tag) ∧
    ((localDpiVpnFallback outbounds tag).failures ≠ [] ↔
      (localDpiVpnFallback outbounds tag).answer = none) := by
  have hiff : (isProtected outbounds tag [] "fallback=root_target_missing").answer = true ↔
      Protected outbounds tag := by
    rw [protected_iff_grounded]
    exact (searches_isProtected _).iff_grounded fun _ _ => mem_tags_of_needs
  have hreported : (isProtected outbounds tag [] "fallback=root_target_missing").Reported :=
    reported_isProtected tag [] _
  unfold localDpiVpnFallback
  by_cases h : (isProtected outbounds tag [] "fallback=root_target_missing").answer = true
  · have hnone := hreported.mpr h
    simp [h, hnone, hiff.mp h]
  · have hsome : (isProtected outbounds tag [] "fallback=root_target_missing").failures ≠ [] :=
      fun hnone => h (hreported.mp hnone)
    simp [h, hsome, mt hiff.mpr h]

end

end Pokrov.Android.LocalDpi
