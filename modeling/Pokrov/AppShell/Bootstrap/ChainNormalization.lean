import Mathlib.Data.List.Nodup
import Pokrov.AppShell.Bootstrap.OutboundChains
import Pokrov.Lib.Saturation

/-!
# Normal chains

The safe tags are what can be derived when a group is a rule with its tag as the head and its
members as the body. One pass keeps every safe group and makes every other group safe, so a second
pass finds nothing to do.
-/

namespace Pokrov.AppShell.Bootstrap

open Dart Saturation

variable {toLowerCase : Text → Text}

/-! ## Groups as rules -/

/-- The rule of a group that has a tag and members. -/
def ruleOf (toLowerCase : Text → Text) (outbound : Fields) : Option (Rule Text) :=
  if isSelectorLikeOutbound toLowerCase outbound = true ∧ tagOf outbound ≠ [] ∧
      targetsOf outbound ≠ [] then some ⟨tagOf outbound, targetsOf outbound⟩
  else none

def rulesOf (toLowerCase : Text → Text) (outbounds : List Fields) : List (Rule Text) :=
  outbounds.filterMap (ruleOf toLowerCase)

theorem mem_rulesOf {outbounds : List Fields} {r : Rule Text} : r ∈ rulesOf toLowerCase outbounds ↔
    ∃ outbound ∈ outbounds, isSelectorLikeOutbound toLowerCase outbound = true ∧
      tagOf outbound ≠ [] ∧ targetsOf outbound ≠ [] ∧ ⟨tagOf outbound, targetsOf outbound⟩ = r := by
  unfold rulesOf ruleOf
  simp only [List.mem_filterMap, Option.ite_none_right_eq_some, Option.some.injEq, and_assoc]

theorem mem_foldl_addTag {tags before : List Text} {t : Text} :
    t ∈ tags.foldl addTag before ↔ t ∈ before ∨ t ∈ tags := by
  induction tags generalizing before with
  | nil => simp
  | cons tag tags ih => simp [ih, mem_addTag, or_assoc]

theorem addSafeTag_eq (safeTags : List Text) (outbound : Fields) :
    addSafeTag toLowerCase safeTags outbound =
      (ruleOf toLowerCase outbound).elim safeTags (fire safeTags) := by
  unfold addSafeTag ruleOf
  cases hgroup : isSelectorLikeOutbound toLowerCase outbound with
  | false => simp
  | true =>
    by_cases htag : tagOf outbound = []
    · simp [htag]
    · by_cases htargets : targetsOf outbound = []
      · simp [htargets]
      · have hrule : fire safeTags ⟨tagOf outbound, targetsOf outbound⟩ =
            if (targetsOf outbound).all (fun tag => safeTags.contains tag) = true then
              addTag safeTags (tagOf outbound) else safeTags := by
          unfold fire addTag
          grind
        simp only [htag, htargets, ne_eq, not_false_eq_true, and_self, if_true, Option.elim_some,
          hrule, false_or, Bool.not_true, Bool.false_eq_true, if_false]
        grind

theorem foldl_addSafeTag (outbounds : List Fields) (safeTags : List Text) :
    outbounds.foldl (addSafeTag toLowerCase) safeTags =
      Saturation.round (rulesOf toLowerCase outbounds) safeTags := by
  induction outbounds generalizing safeTags with
  | nil => rfl
  | cons outbound outbounds ih =>
    rw [List.foldl_cons, ih, addSafeTag_eq]
    cases hrule : ruleOf toLowerCase outbound with
    | none => simp [rulesOf, hrule]
    | some r => simp [rulesOf, hrule, Saturation.round]

theorem safeRounds_eq (outbounds : List Fields) (n : Nat) (safeTags : List Text) :
    safeRounds toLowerCase outbounds n safeTags =
      saturate (rulesOf toLowerCase outbounds) n safeTags := by
  induction n generalizing safeTags with
  | zero => rfl
  | succ n ih => simp only [safeRounds, saturate, foldl_addSafeTag, ih]

/-- The safe tags are those that follow from the transports. -/
theorem mem_computeVpnSafeOutboundTags {outbounds : List Fields} {proxies : List Text} {t : Text} :
    t ∈ computeVpnSafeOutboundTags toLowerCase outbounds proxies ↔
      Derives (rulesOf toLowerCase outbounds) (· ∈ proxies) t := by
  have hlength : (rulesOf toLowerCase outbounds).length < outbounds.length + 1 :=
    Nat.lt_succ_of_le (List.length_filterMap_le _ _)
  have hstart : (fun a => a ∈ proxies.foldl addTag []) = fun a => a ∈ proxies := by
    funext a
    simp [mem_foldl_addTag]
  rw [computeVpnSafeOutboundTags, safeRounds_eq, mem_saturate hlength, hstart]

/-! ## One pass -/

section Pass

variable {safeTags proxies : List Text} {directTag : Text}

theorem lookup_rewriteTargets {outbound : Fields} {targets : List Text} {key : Text}
    (h : key ≠ text "outbounds") : (rewriteTargets outbound targets).lookup key =
      outbound.lookup key := by
  unfold rewriteTargets
  split
  · rfl
  · simp [setField, lookup_setField, h]

/-- Members that can be read again are those that were written. -/
theorem mem_targetsOf_rewriteTargets {outbound : Fields} {targets : List Text}
    (htargets : ∀ t ∈ targets, trim t = t ∧ t ≠ []) {t : Text} :
    t ∈ targetsOf (rewriteTargets outbound targets) ↔ t ∈ targets := by
  unfold rewriteTargets
  split
  · next h => rw [h]
  · unfold targetsOf
    rw [get_setField_self, mem_readTagList_tagDocument htargets]

theorem lookup_normalizeSelectorDefault {outbound : Fields} {targets : List Text}
    (htargets : targets ≠ []) {key : Text} (h : key ≠ text "default") :
    (normalizeSelectorDefault outbound targets).1.lookup key = outbound.lookup key := by
  unfold normalizeSelectorDefault
  split
  · rfl
  · cases targets with
    | nil => exact absurd rfl htargets
    | cons first rest => simp [setField, lookup_setField, h]

theorem default_normalizeSelectorDefault {outbound : Fields} {targets : List Text}
    (htargets : targets ≠ []) (htrim : ∀ t ∈ targets, trim t = t) :
    readText ((normalizeSelectorDefault outbound targets).1.get "default") ∈ targets := by
  unfold normalizeSelectorDefault
  split
  · next h => exact h
  · cases targets with
    | nil => exact absurd rfl htargets
    | cons first rest =>
      simp only [get_setField_self, readText_string, htrim first List.mem_cons_self]
      exact List.mem_cons_self

/-- What is asked of the transports. -/
structure Transports (proxies : List Text) (directTag : Text) : Prop where
  nonempty : proxies ≠ []
  trimmed : ∀ p ∈ proxies, trim p = p
  named : ∀ p ∈ proxies, p ≠ []
  proxied : ∀ p ∈ proxies, p ≠ directTag

variable (transports : Transports proxies directTag)
include transports

theorem nextTargets_spec {targets : List Text} (h : ∀ t ∈ targets, trim t = t ∧ t ≠ []) :
    nextTargets safeTags proxies directTag targets ≠ [] ∧
      ∀ t ∈ nextTargets safeTags proxies directTag targets,
        trim t = t ∧ t ≠ [] ∧ (t ∈ proxies ∨ (t ∈ safeTags ∧ t ≠ directTag)) := by
  unfold nextTargets
  simp only
  split
  · exact ⟨transports.nonempty, fun t ht => ⟨transports.trimmed t ht, transports.named t ht, .inl ht⟩⟩
  · next hne =>
    refine ⟨hne, fun t ht => ?_⟩
    obtain ⟨hmem, hkept⟩ := List.mem_filter.mp ht
    obtain ⟨htrim, hnamed⟩ := h t hmem
    simp only [Bool.and_eq_true, decide_eq_true_eq, List.contains_iff_mem] at hkept
    exact ⟨htrim, hnamed, .inr ⟨hkept.2, hkept.1⟩⟩

end Pass

theorem typeOf_eq {fields fields' : Fields}
    (h : fields'.lookup (text "type") = fields.lookup (text "type")) :
    typeOf toLowerCase fields' = typeOf toLowerCase fields := by
  rw [typeOf, typeOf, get_eq_of_lookup h]

/-- An outbound after a pass. -/
structure IsNormalized (toLowerCase : Text → Text) (outbound : Fields) (targets : List Text)
    (after : Fields) : Prop where
  other : ∀ key, key ≠ text "outbounds" → key ≠ text "default" →
    after.lookup key = outbound.lookup key
  members : ∀ t, t ∈ targetsOf after ↔ t ∈ targets
  default : typeOf toLowerCase outbound = text "selector" → readText (after.get "default") ∈ targets
  undefaulted : typeOf toLowerCase outbound ≠ text "selector" →
    after.lookup (text "default") = outbound.lookup (text "default")
  kept : targetsOf outbound = targets → after.lookup (text "outbounds") =
    outbound.lookup (text "outbounds")

section Pass

variable {safeTags proxies : List Text} {directTag : Text}
  (transports : Transports proxies directTag)
include transports

theorem isNormalized_normalizeOutbound {outbound : Fields}
    (hgroup : isSelectorLikeOutbound toLowerCase outbound = true) :
    IsNormalized toLowerCase outbound (nextTargets safeTags proxies directTag (targetsOf outbound))
      (normalizeOutbound toLowerCase safeTags proxies directTag outbound).1 := by
  obtain ⟨hne, htargets⟩ := @nextTargets_spec safeTags proxies directTag transports
    (targetsOf outbound) fun t ht => trimmed_of_mem ht
  generalize hnext : nextTargets safeTags proxies directTag (targetsOf outbound) = targets at *
  have hkeys : text "type" ≠ text "outbounds" ∧ text "default" ≠ text "outbounds" ∧
      text "outbounds" ≠ text "default" := by decide
  obtain ⟨htypeKey, hdefaultKey, houtboundsKey⟩ := hkeys
  have htype : typeOf toLowerCase (rewriteTargets outbound targets) = typeOf toLowerCase outbound :=
    typeOf_eq (lookup_rewriteTargets htypeKey)
  have hmembers : ∀ t, t ∈ targetsOf (rewriteTargets outbound targets) ↔ t ∈ targets := fun t =>
    mem_targetsOf_rewriteTargets fun t ht => ⟨(htargets t ht).1, (htargets t ht).2.1⟩
  have hkept : targetsOf outbound = targets → rewriteTargets outbound targets = outbound := fun h => by
    rw [rewriteTargets, if_pos h]
  unfold normalizeOutbound
  simp only [hgroup, Bool.not_true, Bool.false_eq_true, if_false, hnext]
  by_cases hselector : typeOf toLowerCase outbound = text "selector"
  · simp only [htype, if_pos hselector]
    have hlookup := @lookup_normalizeSelectorDefault (rewriteTargets outbound targets) targets hne
    constructor
    case other => exact fun key hkey hkey' => (hlookup hkey').trans (lookup_rewriteTargets hkey)
    case members =>
      intro t
      rw [targetsOf, get_eq_of_lookup (hlookup houtboundsKey)]
      exact hmembers t
    case default =>
      exact fun _ => default_normalizeSelectorDefault hne fun t ht => (htargets t ht).1
    case undefaulted => exact fun h => absurd hselector h
    case kept => exact fun h => (hlookup houtboundsKey).trans (by rw [hkept h])
  · simp only [htype, if_neg hselector]
    constructor
    case other => exact fun key hkey _ => lookup_rewriteTargets hkey
    case members => exact hmembers
    case default => exact fun h => absurd h hselector
    case undefaulted => exact fun _ => lookup_rewriteTargets hdefaultKey
    case kept => exact fun h => by rw [hkept h]

omit transports in
theorem normalizeOutbound_of_not_group {outbound : Fields}
    (hgroup : ¬ isSelectorLikeOutbound toLowerCase outbound = true) :
    normalizeOutbound toLowerCase safeTags proxies directTag outbound = (outbound, false) := by
  simp [normalizeOutbound, hgroup]

omit transports in
theorem nextTargets_of_safe {targets : List Text} (hne : targets ≠ [])
    (h : ∀ t ∈ targets, t ∈ safeTags ∧ t ≠ directTag) :
    nextTargets safeTags proxies directTag targets = targets := by
  have hall : targets.filter (fun tag => decide (tag ≠ directTag) && safeTags.contains tag) =
      targets := by
    rw [List.filter_eq_self]
    intro t ht
    simp [h t ht]
  rw [nextTargets, hall, if_neg hne]

omit transports in
/-- A group that is normal already does not change. -/
theorem normalizeOutbound_of_normal {outbound : Fields} (hne : targetsOf outbound ≠ [])
    (hsafe : ∀ t ∈ targetsOf outbound, t ∈ safeTags ∧ t ≠ directTag)
    (hdefault : typeOf toLowerCase outbound = text "selector" →
      readText (outbound.get "default") ∈ targetsOf outbound) :
    normalizeOutbound toLowerCase safeTags proxies directTag outbound = (outbound, false) := by
  unfold normalizeOutbound
  split
  · rfl
  · have hrewrite : rewriteTargets outbound (targetsOf outbound) = outbound := by
      simp [rewriteTargets]
    simp only [nextTargets_of_safe hne hsafe, hrewrite, ne_eq, not_true_eq_false, decide_false]
    split
    · next hselector => simp [normalizeSelectorDefault, hdefault hselector]
    · rfl

end Pass

/-! ## All outbounds -/

/-- What is asked of the outbounds. -/
structure Chains (toLowerCase : Text → Text) (outbounds : List Fields) (proxies : List Text)
    (directTag : Text) : Prop extends Transports proxies directTag where
  distinct : (outbounds.map tagOf).Nodup
  groups : ∀ group ∈ outbounds, isSelectorLikeOutbound toLowerCase group = true →
    tagOf group ∉ proxies ∧ tagOf group ≠ directTag

section Chains

variable {outbounds : List Fields} {proxies : List Text} {directTag : Text}

/-- An outbound after the first pass. -/
def passed (toLowerCase : Text → Text) (outbounds : List Fields) (proxies : List Text)
    (directTag : Text) (outbound : Fields) : Fields :=
  (normalizeOutbound toLowerCase (computeVpnSafeOutboundTags toLowerCase outbounds proxies) proxies
    directTag outbound).1

variable (chains : Chains toLowerCase outbounds proxies directTag)
include chains

theorem eq_of_tagOf_eq {outbound outbound' : Fields} (h : outbound ∈ outbounds)
    (h' : outbound' ∈ outbounds) (htag : tagOf outbound = tagOf outbound') :
    outbound = outbound' :=
  List.inj_on_of_nodup_map chains.distinct h h' htag

theorem safe_ne_directTag {t : Text} (h : Derives (rulesOf toLowerCase outbounds) (· ∈ proxies) t) :
    t ≠ directTag := by
  cases h with
  | start h => exact chains.proxied t h
  | rule hr _ =>
    obtain ⟨group, hgroup, hselector, -, -, rfl⟩ := mem_rulesOf.mp hr
    exact (chains.groups group hgroup hselector).2

theorem tagOf_passed (outbound : Fields) :
    tagOf (passed toLowerCase outbounds proxies directTag outbound) = tagOf outbound ∧
      typeOf toLowerCase (passed toLowerCase outbounds proxies directTag outbound) =
        typeOf toLowerCase outbound := by
  by_cases hgroup : isSelectorLikeOutbound toLowerCase outbound = true
  · have hother := (@isNormalized_normalizeOutbound toLowerCase
      (computeVpnSafeOutboundTags toLowerCase outbounds proxies) proxies directTag
      chains.toTransports _ hgroup).other
    have hkeys : (text "tag" ≠ text "outbounds" ∧ text "tag" ≠ text "default") ∧
        text "type" ≠ text "outbounds" ∧ text "type" ≠ text "default" := by decide
    exact ⟨congrArg readText (get_eq_of_lookup (hother _ hkeys.1.1 hkeys.1.2)),
      typeOf_eq (hother _ hkeys.2.1 hkeys.2.2)⟩
  · simp [passed, normalizeOutbound_of_not_group hgroup]

theorem isSelectorLike_passed (outbound : Fields) :
    isSelectorLikeOutbound toLowerCase (passed toLowerCase outbounds proxies directTag outbound) =
      isSelectorLikeOutbound toLowerCase outbound := by
  simp [isSelectorLikeOutbound, (tagOf_passed chains outbound).2]

/-- A group whose members are all safe keeps them. -/
theorem targetsOf_passed_of_safe {group : Fields} (hne : targetsOf group ≠ [])
    (hgroup : isSelectorLikeOutbound toLowerCase group = true)
    (hsafe : ∀ t ∈ targetsOf group, Derives (rulesOf toLowerCase outbounds) (· ∈ proxies) t) :
    targetsOf (passed toLowerCase outbounds proxies directTag group) = targetsOf group := by
  have hkept := (@isNormalized_normalizeOutbound toLowerCase
    (computeVpnSafeOutboundTags toLowerCase outbounds proxies) proxies directTag
    chains.toTransports _ hgroup).kept
  have hnext := @nextTargets_of_safe (computeVpnSafeOutboundTags toLowerCase outbounds proxies) proxies
    directTag _ hne fun t ht =>
      ⟨mem_computeVpnSafeOutboundTags.mpr (hsafe t ht), safe_ne_directTag chains (hsafe t ht)⟩
  exact congrArg readTagList (get_eq_of_lookup (hkept hnext.symm))

/-- What was safe is safe after the pass. -/
theorem derives_passed {t : Text} (h : Derives (rulesOf toLowerCase outbounds) (· ∈ proxies) t) :
    Derives (rulesOf toLowerCase (outbounds.map (passed toLowerCase outbounds proxies directTag)))
      (· ∈ proxies) t := by
  refine h.of_applied fun r hr hbody => ?_
  obtain ⟨group, hgroup, hselector, htag, htargets, rfl⟩ := mem_rulesOf.mp hr
  have hsame := targetsOf_passed_of_safe chains htargets hselector hbody
  refine mem_rulesOf.mpr ⟨_, List.mem_map_of_mem hgroup, ?_, ?_, ?_, ?_⟩
  · rw [isSelectorLike_passed chains, hselector]
  · rw [(tagOf_passed chains group).1]
    exact htag
  · rw [hsame]
    exact htargets
  · rw [(tagOf_passed chains group).1, hsame]

/-- Every member of a group after the pass is safe then. -/
theorem safe_of_mem_passed {group : Fields}
    (hgroup : isSelectorLikeOutbound toLowerCase group = true) {t : Text}
    (ht : t ∈ targetsOf (passed toLowerCase outbounds proxies directTag group)) :
    Derives (rulesOf toLowerCase (outbounds.map (passed toLowerCase outbounds proxies directTag)))
      (· ∈ proxies) t ∧ t ≠ directTag := by
  have hnormal := @isNormalized_normalizeOutbound toLowerCase
    (computeVpnSafeOutboundTags toLowerCase outbounds proxies) proxies directTag
    chains.toTransports _ hgroup
  obtain ⟨-, htargets⟩ := @nextTargets_spec
    (computeVpnSafeOutboundTags toLowerCase outbounds proxies) proxies directTag
    chains.toTransports (targetsOf group) fun t ht => trimmed_of_mem ht
  obtain ⟨-, -, hproxy | ⟨hsafe, hdirect⟩⟩ := htargets t ((hnormal.members t).mp ht)
  · exact ⟨.start hproxy, chains.proxied t hproxy⟩
  · exact ⟨derives_passed chains (mem_computeVpnSafeOutboundTags.mp hsafe), hdirect⟩

theorem targetsOf_passed_ne_nil {group : Fields}
    (hgroup : isSelectorLikeOutbound toLowerCase group = true) :
    targetsOf (passed toLowerCase outbounds proxies directTag group) ≠ [] := by
  have hnormal := @isNormalized_normalizeOutbound toLowerCase
    (computeVpnSafeOutboundTags toLowerCase outbounds proxies) proxies directTag
    chains.toTransports _ hgroup
  obtain ⟨hne, -⟩ := @nextTargets_spec
    (computeVpnSafeOutboundTags toLowerCase outbounds proxies) proxies directTag
    chains.toTransports (targetsOf group) fun t ht => trimmed_of_mem ht
  obtain ⟨t, ht⟩ := List.exists_mem_of_ne_nil _ hne
  exact List.ne_nil_of_mem ((hnormal.members t).mpr ht)

theorem default_passed {group : Fields} (hgroup : isSelectorLikeOutbound toLowerCase group = true)
    (hselector : typeOf toLowerCase group = text "selector") :
    readText ((passed toLowerCase outbounds proxies directTag group).get "default") ∈
      targetsOf (passed toLowerCase outbounds proxies directTag group) := by
  have hnormal := @isNormalized_normalizeOutbound toLowerCase
    (computeVpnSafeOutboundTags toLowerCase outbounds proxies) proxies directTag
    chains.toTransports _ hgroup
  exact (hnormal.members _).mpr (hnormal.default hselector)

/-- A second pass changes nothing. -/
theorem normalizeOutbound_passed (outbound : Fields) :
    normalizeOutbound toLowerCase (computeVpnSafeOutboundTags toLowerCase
        (outbounds.map (passed toLowerCase outbounds proxies directTag)) proxies) proxies directTag
        (passed toLowerCase outbounds proxies directTag outbound) =
      (passed toLowerCase outbounds proxies directTag outbound, false) := by
  by_cases hgroup : isSelectorLikeOutbound toLowerCase outbound = true
  · refine normalizeOutbound_of_normal (targetsOf_passed_ne_nil chains hgroup) ?_ ?_
    · intro t ht
      obtain ⟨hsafe, hdirect⟩ := safe_of_mem_passed chains hgroup ht
      exact ⟨mem_computeVpnSafeOutboundTags.mpr hsafe, hdirect⟩
    · intro hselector
      rw [(tagOf_passed chains outbound).2] at hselector
      exact default_passed chains hgroup hselector
  · refine normalizeOutbound_of_not_group ?_
    rw [isSelectorLike_passed chains]
    exact hgroup

theorem normalizePass_passed : normalizePass toLowerCase proxies directTag
    (outbounds.map (passed toLowerCase outbounds proxies directTag)) =
      (outbounds.map (passed toLowerCase outbounds proxies directTag), false) := by
  have hmap : (outbounds.map (passed toLowerCase outbounds proxies directTag)).map
      (normalizeOutbound toLowerCase (computeVpnSafeOutboundTags toLowerCase
        (outbounds.map (passed toLowerCase outbounds proxies directTag)) proxies) proxies
        directTag) =
      outbounds.map fun outbound =>
        (passed toLowerCase outbounds proxies directTag outbound, false) := by
    rw [List.map_map]
    exact List.map_congr_left fun outbound _ => normalizeOutbound_passed chains outbound
  simp only [normalizePass, hmap]
  simp

/-- The loop ends with what the first pass made. -/
theorem normalizeVpnOutboundChains_eq :
    normalizeVpnOutboundChains toLowerCase directTag outbounds proxies =
      outbounds.map (passed toLowerCase outbounds proxies directTag) := by
  have hproxies : proxies.filter (fun tag => decide (tag ≠ [] ∧ tag ≠ directTag)) = proxies := by
    rw [List.filter_eq_self]
    intro p hp
    simp [chains.named p hp, chains.proxied p hp]
  have hfirst : (normalizePass toLowerCase proxies directTag outbounds).1 =
      outbounds.map (passed toLowerCase outbounds proxies directTag) := by
    simp [normalizePass, passed, Function.comp_def]
  unfold normalizeVpnOutboundChains
  simp only [hproxies]
  unfold normalizePasses
  simp only [hfirst]
  split
  · cases outbounds with
    | nil => rfl
    | cons first rest =>
      have hsecond := normalizePass_passed chains
      simp only [List.length_cons, normalizePasses, hsecond, Bool.false_eq_true, if_false]
  · rfl

end Chains

/-! ## Walks -/

/-- A tag is a member of a group. -/
def IsMember (toLowerCase : Text → Text) (outbounds : List Fields) (member group : Text) : Prop :=
  ∃ outbound ∈ outbounds, isSelectorLikeOutbound toLowerCase outbound = true ∧
    tagOf outbound = group ∧ member ∈ targetsOf outbound

theorem acc_isMember {outbounds : List Fields} {t : Text}
    (h : Acc (Below (rulesOf toLowerCase outbounds)) t) (ht : t ≠ []) :
    Acc (IsMember toLowerCase outbounds) t := by
  induction h with
  | intro t _ ih =>
    refine ⟨_, fun member hmember => ?_⟩
    obtain ⟨group, hgroup, hselector, htag, hmem⟩ := hmember
    have hrule := mem_rulesOf.mpr ⟨group, hgroup, hselector, fun h => ht (htag ▸ h),
      List.ne_nil_of_mem hmem, rfl⟩
    exact ih member ⟨_, hrule, htag, hmem⟩ (trimmed_of_mem hmem).2

/-- The outbounds lead to transports of the VPN only: what is asked of them after the function. -/
structure LeadsToProxies (toLowerCase : Text → Text) (outbounds : List Fields)
    (proxies : List Text) : Prop where
  nonempty : ∀ group ∈ outbounds, isSelectorLikeOutbound toLowerCase group = true →
    targetsOf group ≠ []
  safe : ∀ group ∈ outbounds, isSelectorLikeOutbound toLowerCase group = true →
    ∀ t ∈ targetsOf group, t ∈ computeVpnSafeOutboundTags toLowerCase outbounds proxies
  default : ∀ group ∈ outbounds, typeOf toLowerCase group = text "selector" →
    readText (group.get "default") ∈ targetsOf group
  /-- Every walk from a group to its members and theirs has an end. -/
  finite : ∀ group ∈ outbounds, isSelectorLikeOutbound toLowerCase group = true →
    Acc (IsMember toLowerCase outbounds) (tagOf group)
  acyclic : ∀ group ∈ outbounds, isSelectorLikeOutbound toLowerCase group = true →
    ¬ Relation.TransGen (IsMember toLowerCase outbounds) (tagOf group) (tagOf group)
  /-- A walk that cannot go on is at a transport. -/
  reached : ∀ member group, IsMember toLowerCase outbounds member group →
    (∀ next, ¬ IsMember toLowerCase outbounds next member) → member ∈ proxies

theorem leadsToProxies_passed {outbounds : List Fields} {proxies : List Text} {directTag : Text}
    (chains : Chains toLowerCase outbounds proxies directTag) :
    LeadsToProxies toLowerCase (outbounds.map (passed toLowerCase outbounds proxies directTag))
      proxies := by
  have hgroups : ∀ group ∈ outbounds.map (passed toLowerCase outbounds proxies directTag),
      isSelectorLikeOutbound toLowerCase group = true → ∃ source ∈ outbounds,
        isSelectorLikeOutbound toLowerCase source = true ∧
          passed toLowerCase outbounds proxies directTag source = group := by
    rintro group hgroup hselector
    obtain ⟨source, hsource, rfl⟩ := List.mem_map.mp hgroup
    exact ⟨source, hsource, by rw [← isSelectorLike_passed chains, hselector], rfl⟩
  have hsafe : ∀ member group, IsMember toLowerCase
      (outbounds.map (passed toLowerCase outbounds proxies directTag)) member group →
      Derives (rulesOf toLowerCase (outbounds.map (passed toLowerCase outbounds proxies directTag)))
        (· ∈ proxies) member := by
    rintro member _ ⟨group, hgroup, hselector, rfl, hmember⟩
    obtain ⟨source, -, hsource, rfl⟩ := hgroups group hgroup hselector
    exact (safe_of_mem_passed chains hsource hmember).1
  have hacc : ∀ t, Derives (rulesOf toLowerCase (outbounds.map (passed toLowerCase outbounds proxies
      directTag))) (· ∈ proxies) t → t ≠ [] → Acc (IsMember toLowerCase
        (outbounds.map (passed toLowerCase outbounds proxies directTag))) t := by
    intro t ht hne
    refine acc_isMember (ht.acc ?_ ?_) hne
    · intro p hp r hr
      obtain ⟨group, hgroup, hselector, -, -, rfl⟩ := mem_rulesOf.mp hr
      obtain ⟨source, hmem, hsource, rfl⟩ := hgroups group hgroup hselector
      intro hhead
      have htag : tagOf source = p := (tagOf_passed chains source).1.symm.trans hhead
      exact (chains.groups source hmem hsource).1 (htag ▸ hp)
    · intro r hr r' hr' hhead
      obtain ⟨group, hgroup, hselector, -, -, rfl⟩ := mem_rulesOf.mp hr
      obtain ⟨group', hgroup', hselector', -, -, rfl⟩ := mem_rulesOf.mp hr'
      obtain ⟨source, hmem, -, rfl⟩ := hgroups group hgroup hselector
      obtain ⟨source', hmem', -, rfl⟩ := hgroups group' hgroup' hselector'
      simp only [(tagOf_passed chains source).1, (tagOf_passed chains source').1] at hhead
      rw [eq_of_tagOf_eq chains hmem hmem' hhead]
  have hfinite : ∀ group ∈ outbounds.map (passed toLowerCase outbounds proxies directTag),
      isSelectorLikeOutbound toLowerCase group = true → Acc (IsMember toLowerCase
        (outbounds.map (passed toLowerCase outbounds proxies directTag))) (tagOf group) := by
    refine fun group hgroup hselector => ⟨_, fun member hmember => ?_⟩
    obtain ⟨_, _, _, _, hmem⟩ := id hmember
    exact hacc member (hsafe member _ hmember) (trimmed_of_mem hmem).2
  constructor
  case nonempty =>
    intro group hgroup hselector
    obtain ⟨source, -, hsource, rfl⟩ := hgroups group hgroup hselector
    exact targetsOf_passed_ne_nil chains hsource
  case safe =>
    intro group hgroup hselector t ht
    exact mem_computeVpnSafeOutboundTags.mpr (hsafe t _ ⟨group, hgroup, hselector, rfl, ht⟩)
  case default =>
    intro group hgroup htype
    obtain ⟨source, -, hsource, rfl⟩ := hgroups group hgroup (by simp [isSelectorLikeOutbound, htype])
    rw [(tagOf_passed chains source).2] at htype
    exact default_passed chains hsource htype
  case finite => exact hfinite
  case acyclic =>
    exact fun group hgroup hselector => not_transGen_of_acc (hfinite group hgroup hselector)
  case reached =>
    intro member group hmember hlast
    have hne : member ≠ [] := by
      obtain ⟨_, _, _, _, hmem⟩ := hmember
      exact (trimmed_of_mem hmem).2
    cases hsafe member group hmember with
    | start h => exact h
    | rule hr _ =>
      obtain ⟨outbound, houtbound, hselector, -, htargets, rfl⟩ := mem_rulesOf.mp hr
      obtain ⟨next, hnext⟩ := List.exists_mem_of_ne_nil _ htargets
      exact absurd ⟨outbound, houtbound, hselector, rfl, hnext⟩ (hlast next)

/-- What the function leaves of an outbound. -/
structure KeepsOutbound (toLowerCase : Text → Text) (outbounds : List Fields) (proxies : List Text)
    (before after : Fields) : Prop where
  outbound : ¬ isSelectorLikeOutbound toLowerCase before = true → after = before
  other : ∀ key, key ≠ text "outbounds" → key ≠ text "default" →
    after.lookup key = before.lookup key
  default : typeOf toLowerCase before ≠ text "selector" →
    after.lookup (text "default") = before.lookup (text "default")
  safe : isSelectorLikeOutbound toLowerCase before = true →
    tagOf before ∈ computeVpnSafeOutboundTags toLowerCase outbounds proxies →
      targetsOf after = targetsOf before

theorem keepsOutbound_passed {outbounds : List Fields} {proxies : List Text} {directTag : Text}
    (chains : Chains toLowerCase outbounds proxies directTag) {before : Fields}
    (hbefore : before ∈ outbounds) : KeepsOutbound toLowerCase outbounds proxies before
      (passed toLowerCase outbounds proxies directTag before) := by
  by_cases hgroup : isSelectorLikeOutbound toLowerCase before = true
  · have hnormal := @isNormalized_normalizeOutbound toLowerCase
      (computeVpnSafeOutboundTags toLowerCase outbounds proxies) proxies directTag
      chains.toTransports _ hgroup
    refine ⟨fun h => absurd hgroup h, hnormal.other, hnormal.undefaulted, fun _ hsafe => ?_⟩
    generalize htag : tagOf before = tag at hsafe
    cases mem_computeVpnSafeOutboundTags.mp hsafe with
    | start h => exact absurd h (htag ▸ (chains.groups before hbefore hgroup).1)
    | rule hr hbody =>
      obtain ⟨group, hmem, hselector, -, htargets, rfl⟩ := mem_rulesOf.mp hr
      obtain rfl := eq_of_tagOf_eq chains hbefore hmem htag
      exact targetsOf_passed_of_safe chains htargets hgroup hbody
  · have hsame : passed toLowerCase outbounds proxies directTag before = before := by
      simp [passed, normalizeOutbound_of_not_group hgroup]
    rw [hsame]
    exact ⟨fun _ => rfl, fun _ _ _ => rfl, fun _ => rfl, fun _ _ => rfl⟩

/-- After the function every group leads to transports of the VPN only, groups that did so already
have their members, and once more the function changes nothing. -/
theorem normalizeVpnOutboundChains_normal {outbounds : List Fields} {proxies : List Text}
    {directTag : Text} (hdistinct : (outbounds.map tagOf).Nodup) (hproxies : proxies ≠ [])
    (hproxy : ∀ p ∈ proxies, trim p = p ∧ p ≠ [] ∧ p ≠ directTag)
    (hgroups : ∀ group ∈ outbounds, isSelectorLikeOutbound toLowerCase group = true →
      tagOf group ∉ proxies ∧ tagOf group ≠ directTag) :
    LeadsToProxies toLowerCase
        (normalizeVpnOutboundChains toLowerCase directTag outbounds proxies) proxies ∧
      List.Forall₂ (KeepsOutbound toLowerCase outbounds proxies) outbounds
        (normalizeVpnOutboundChains toLowerCase directTag outbounds proxies) ∧
      normalizeVpnOutboundChains toLowerCase directTag
          (normalizeVpnOutboundChains toLowerCase directTag outbounds proxies) proxies =
        normalizeVpnOutboundChains toLowerCase directTag outbounds proxies := by
  have chains : Chains toLowerCase outbounds proxies directTag :=
    ⟨⟨hproxies, fun p hp => (hproxy p hp).1, fun p hp => (hproxy p hp).2.1,
      fun p hp => (hproxy p hp).2.2⟩, hdistinct, hgroups⟩
  rw [normalizeVpnOutboundChains_eq chains]
  refine ⟨leadsToProxies_passed chains, ?_, ?_⟩
  · rw [List.forall₂_map_right_iff, List.forall₂_same]
    exact fun before hbefore => keepsOutbound_passed chains hbefore
  · have hfilter : proxies.filter (fun tag => decide (tag ≠ [] ∧ tag ≠ directTag)) = proxies := by
      rw [List.filter_eq_self]
      intro p hp
      simp [chains.named p hp, chains.proxied p hp]
    simp only [normalizeVpnOutboundChains, hfilter, normalizePasses, normalizePass_passed chains,
      Bool.false_eq_true, if_false]

/-! ### Two profiles -/

/-- A selector that is its own member, beside a transport. -/
def loopedOutbounds : List Fields :=
  [[(text "type", .string (text "selector")), (text "tag", .string (text "auto")),
      (text "outbounds", tagDocument [text "auto", text "lost"])],
   [(text "type", .string (text "vless")), (text "tag", .string (text "node"))]]

theorem normalizeVpnOutboundChains_normal_looped :
    LeadsToProxies id (normalizeVpnOutboundChains id (text "direct") loopedOutbounds [text "node"])
        [text "node"] ∧
      List.Forall₂ (KeepsOutbound id loopedOutbounds [text "node"]) loopedOutbounds
        (normalizeVpnOutboundChains id (text "direct") loopedOutbounds [text "node"]) ∧
      normalizeVpnOutboundChains id (text "direct")
          (normalizeVpnOutboundChains id (text "direct") loopedOutbounds [text "node"])
          [text "node"] =
        normalizeVpnOutboundChains id (text "direct") loopedOutbounds [text "node"] :=
  normalizeVpnOutboundChains_normal (by decide +kernel) (by decide) (by decide +kernel)
    (by decide +kernel)

/-- A tag of blanks is written to a group and read from it as no tag. -/
theorem normalizeVpnOutboundChains_blank : ¬ ∀ (toLowerCase : Text → Text)
    (outbounds : List Fields) (proxies : List Text) (directTag : Text),
      (outbounds.map tagOf).Nodup → proxies ≠ [] → (∀ p ∈ proxies, p ≠ [] ∧ p ≠ directTag) →
      (∀ group ∈ outbounds, isSelectorLikeOutbound toLowerCase group = true →
        tagOf group ∉ proxies ∧ tagOf group ≠ directTag) →
      ∀ group ∈ normalizeVpnOutboundChains toLowerCase directTag outbounds proxies,
        isSelectorLikeOutbound toLowerCase group = true → targetsOf group ≠ [] := by
  intro h
  have hempty : ∃ group ∈ normalizeVpnOutboundChains id (text "direct") loopedOutbounds [text " "],
      isSelectorLikeOutbound id group = true ∧ targetsOf group = [] := by
    decide +kernel
  obtain ⟨group, hgroup, hselector, htargets⟩ := hempty
  exact h id loopedOutbounds [text " "] (text "direct") (by decide +kernel) (by decide)
    (by decide +kernel) (by decide +kernel) group hgroup hselector htargets

end Pokrov.AppShell.Bootstrap
