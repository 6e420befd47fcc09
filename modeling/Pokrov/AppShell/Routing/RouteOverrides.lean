import Pokrov.AppShell.Routing.Destinations
import Pokrov.Dart.Encoding

/-!
# The identity of a rule of the user

A rule is identified by the first 96 characters of a base64 text, in which the action
comes last. Two rules have one identity exactly when their texts agree on 72 bytes, so
adding or removing a rule can take another rule with it.
-/

namespace Pokrov.AppShell

open Dart

inductive PokrovRouteAction
  | vpn
  | direct
deriving DecidableEq

def PokrovRouteAction.name : PokrovRouteAction → Text
  | vpn => text "vpn"
  | direct => text "direct"

def PokrovRouteMatchType.name : PokrovRouteMatchType → Text
  | domain => text "domain"
  | ip => text "ip"
  | subnet => text "subnet"

structure PokrovRouteOverride where
  id : Text
  value : Text
  matchType : PokrovRouteMatchType
  action : PokrovRouteAction

/-- `'${matchType.name}:$value:${action.name}'`. -/
def rawId (value : Text) (matchType : PokrovRouteMatchType) (action : PokrovRouteAction) : Text :=
  matchType.name ++ unit ':' :: (value ++ unit ':' :: action.name)

/-- The identity, cut off after 96 characters. -/
def overrideId (raw : Text) : Text :=
  let id := base64UrlBare (utf8Encode raw)
  if 96 < id.length then id.take 96 else id

namespace PokrovRouteOverride

section

variable (toLowerCase : Text → Text) (net : InternetAddresses)

def tryCreate (value : Text) (action : PokrovRouteAction) : Option PokrovRouteOverride :=
  match normalizeRouteMatch toLowerCase net value with
  | none => none
  | some (normalized, matchType) =>
    some ⟨overrideId (rawId normalized matchType action), normalized, matchType, action⟩

/-- Some call of `tryCreate` has made the rule. -/
def Created (rule : PokrovRouteOverride) : Prop :=
  ∃ value action, tryCreate toLowerCase net value action = some rule

end

/-- What the identity is made from. -/
def raw (rule : PokrovRouteOverride) : Text := rawId rule.value rule.matchType rule.action

def SameRule (rule other : PokrovRouteOverride) : Prop :=
  rule.value = other.value ∧ rule.matchType = other.matchType ∧ rule.action = other.action

/-- The texts of two rules differ in the bytes that the identity keeps. -/
def ToldApart (rule other : PokrovRouteOverride) : Prop :=
  (utf8Encode rule.raw).take 72 ≠ (utf8Encode other.raw).take 72

instance (rule other : PokrovRouteOverride) : Decidable (ToldApart rule other) :=
  inferInstanceAs (Decidable (_ ≠ _))

end PokrovRouteOverride

open PokrovRouteOverride

/-! ## The list of the user -/

/-- `onAdded`. -/
def onAdded (overrides : List PokrovRouteOverride) (rule : PokrovRouteOverride) :
    List PokrovRouteOverride :=
  rule :: overrides.filter (·.id ≠ rule.id)

/-- `onRemove`, of the rule at an index. -/
def onRemove (overrides : List PokrovRouteOverride) (index : Fin overrides.length) :
    List PokrovRouteOverride :=
  overrides.filter (·.id ≠ overrides[index].id)

/-! ## What an identity tells -/

theorem overrideId_eq_take (raw : Text) :
    overrideId raw = base64UrlBare ((utf8Encode raw).take 72) := by
  have htake := take_base64UrlBare 24 (utf8Encode raw)
  unfold overrideId
  by_cases hlong : 96 < (base64UrlBare (utf8Encode raw)).length
  · simpa [hlong] using htake
  · rw [if_neg hlong, ← htake]
    exact (List.take_of_length_le (by omega)).symm

theorem overrideId_eq_iff {raw other : Text} :
    overrideId raw = overrideId other ↔
      (utf8Encode raw).take 72 = (utf8Encode other).take 72 := by
  rw [overrideId_eq_take, overrideId_eq_take, base64UrlBare_inj]

variable {toLowerCase : Text → Text} {net : InternetAddresses} {rule other : PokrovRouteOverride}

theorem PokrovRouteOverride.Created.id_eq (h : Created toLowerCase net rule) :
    rule.id = overrideId rule.raw := by
  obtain ⟨value, action, h⟩ := h
  unfold tryCreate at h
  split at h
  · cases h
  · cases h
    rfl

theorem id_eq_iff (h : Created toLowerCase net rule) (hother : Created toLowerCase net other) :
    rule.id = other.id ↔ ¬ ToldApart rule other := by
  rw [h.id_eq, hother.id_eq, overrideId_eq_iff, ToldApart, not_not]

theorem mem_onAdded {overrides : List PokrovRouteOverride} :
    other ∈ onAdded overrides rule ↔ other = rule ∨ other ∈ overrides ∧ other.id ≠ rule.id := by
  simp [onAdded]

theorem mem_onRemove {overrides : List PokrovRouteOverride} {index : Fin overrides.length} :
    other ∈ onRemove overrides index ↔ other ∈ overrides ∧ other.id ≠ overrides[index].id := by
  simp [onRemove]

/-- One identity means one rule exactly for rules that are the same or differ in the first
72 bytes of their texts, and adding and removing spare the other rules exactly when these
differ from the rule there. -/
theorem override_identity_iff (toLowerCase : Text → Text) (net : InternetAddresses) :
    (∀ rule other, Created toLowerCase net rule → Created toLowerCase net other →
      ((rule.id = other.id → SameRule rule other) ↔
        SameRule rule other ∨ ToldApart rule other)) ∧
    (∀ overrides rule, Created toLowerCase net rule →
      (∀ other ∈ overrides, Created toLowerCase net other) →
      ((∀ other ∈ overrides, ¬ (other.value = rule.value ∧ other.action = rule.action) →
          other ∈ onAdded overrides rule) ↔
        ∀ other ∈ overrides, ¬ (other.value = rule.value ∧ other.action = rule.action) →
          ToldApart other rule)) ∧
    ∀ (overrides : List PokrovRouteOverride) (index : Fin overrides.length),
      (∀ other ∈ overrides, Created toLowerCase net other) →
      ((∀ other ∈ overrides, ¬ SameRule other overrides[index] →
          other ∈ onRemove overrides index) ↔
        ∀ other ∈ overrides, ¬ SameRule other overrides[index] →
          ToldApart other overrides[index]) := by
  refine ⟨?_, ?_, ?_⟩
  · intro rule other hrule hother
    rw [id_eq_iff hrule hother]
    by_cases h : ToldApart rule other
    · simp [h]
    · simp [h]
  · intro overrides rule hrule hall
    refine forall₂_congr fun other hmem => imp_congr_right fun hdiffers => ?_
    have hid := id_eq_iff (hall other hmem) hrule
    have hne : other ≠ rule := by
      rintro rfl
      exact hdiffers ⟨rfl, rfl⟩
    rw [mem_onAdded]
    simp [hne, hmem, hid]
  · intro overrides index hall
    refine forall₂_congr fun other hmem => imp_congr_right fun _ => ?_
    have hid := id_eq_iff (hall other hmem) (hall overrides[index] (List.getElem_mem _))
    rw [mem_onRemove, Ne, hid, not_not, and_iff_right hmem]

/-- No text is an address. -/
def namesOnly : InternetAddresses := ⟨fun _ => none, fun _ => []⟩

/-- A domain of 64 characters. -/
def longDomain : Text :=
  List.replicate 31 (unit 'a') ++ unit '.' :: (List.replicate 29 (unit 'b') ++ text ".ru")

/-- The rule that `tryCreate` makes of the domain. -/
def longRule (action : PokrovRouteAction) : PokrovRouteOverride :=
  ⟨overrideId (rawId longDomain .domain action), longDomain, .domain, action⟩

theorem created_longRule (action : PokrovRouteAction) : Created id namesOnly (longRule action) := by
  have hnormal : normalizeRouteMatch id namesOnly longDomain = some (longDomain, .domain) := by
    decide
  exact ⟨longDomain, action, by rw [tryCreate, hnormal]; rfl⟩

/-- A rule for the VPN is taken away by the direct rule for the same domain. -/
theorem longRule_replaced :
    longRule .vpn ∉ onAdded [longRule .vpn] (longRule .direct) := by
  have hsame : ¬ ToldApart (longRule .vpn) (longRule .direct) := by decide
  obtain ⟨-, hadded, -⟩ := override_identity_iff id namesOnly
  have hcreated : ∀ other ∈ [longRule .vpn], Created id namesOnly other := by
    rintro other hother
    rw [List.mem_singleton.mp hother]
    exact created_longRule .vpn
  have hdiffers : ¬ ((longRule .vpn).value = (longRule .direct).value ∧
      (longRule .vpn).action = (longRule .direct).action) := by decide
  intro hkept
  have hall := (hadded [longRule .vpn] (longRule .direct) (created_longRule .direct) hcreated).mp
    fun other hother _ => by rwa [List.mem_singleton.mp hother]
  exact hsame (hall _ (List.mem_singleton.mpr rfl) hdiffers)

theorem longRule_identity :
    ¬ ∀ rule other, Created id namesOnly rule → Created id namesOnly other →
      rule.id = other.id → SameRule rule other := by
  intro h
  have hid : overrideId (rawId longDomain .domain .vpn) =
      overrideId (rawId longDomain .domain .direct) := overrideId_eq_iff.mpr (by decide)
  have hsame := h _ _ (created_longRule .vpn) (created_longRule .direct) hid
  exact absurd hsame.2.2 (by decide)

end Pokrov.AppShell
