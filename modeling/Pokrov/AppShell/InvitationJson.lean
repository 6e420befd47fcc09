import Pokrov.AppShell.CanonicalPython
import Pokrov.Lib.Results

/-!
# The text of an invitation

`canonicalInvitationJson` says that it matches the compact, sorted, ASCII text of the
issuer. It leaves U+007F as it stands, which the issuer escapes and `_canonical` escapes
too, and in everything else it agrees with them.
-/

namespace Pokrov.AppShell

open Dart

structure OfflineInvitationFailure where
  code : String

abbrev Invited (α : Type) := Except OfflineInvitationFailure α

/-- What lies outside of ASCII is escaped. -/
def escapeWide (s : Text) : Text := s.flatMap fun u => if u < 128 then [u] else escapeUnit u

mutual

def canonicalInvitationJson : Document → Invited Text
  | .string value => .ok (escapeWide (jsonEncode (.string value)))
  | .null => .ok (jsonEncode .null)
  | .bool value => .ok (jsonEncode (.bool value))
  | .int value => .ok (jsonEncode (.int value))
  | .list items => do
      let pieces ← invitationItems items
      return unit '[' :: (joinCommas pieces ++ [unit ']'])
  | .map fields => do
      let pieces ← invitationFields fields
      return unit '\x7b' :: (joinCommas ((inOrder pieces).map Prod.snd) ++ [unit '\x7d'])
  | .double _ => .error ⟨"canonical_value_invalid"⟩

def invitationItems : List Document → Invited (List Text)
  | [] => .ok []
  | item :: rest => do
      let piece ← canonicalInvitationJson item
      let pieces ← invitationItems rest
      return piece :: pieces

/-- The fields as texts, each with its key. -/
def invitationFields : Fields → Invited (List (Text × Text))
  | [] => .ok []
  | (key, value) :: rest => do
      let piece ← canonicalInvitationJson value
      let pieces ← invitationFields rest
      return (key, escapeWide (encodeString key) ++ unit ':' :: piece) :: pieces

end

/-! ## The values that are signed -/

mutual

/-- Null, booleans, integers, strings, and lists and maps of these under plain names. -/
def Signable : Document → Prop
  | .null => True
  | .bool _ => True
  | .int _ => True
  | .double _ => False
  | .string _ => True
  | .list items => SignableItems items
  | .map fields => SignableFields fields

def SignableItems : List Document → Prop
  | [] => True
  | item :: rest => Signable item ∧ SignableItems rest

def SignableFields : Fields → Prop
  | [] => True
  | (key, value) :: rest => isFieldName key = true ∧ Signable value ∧ SignableFields rest

end

/-- U+007F. -/
def delete : UInt16 := 0x7f

mutual

/-- One of the strings of a value holds U+007F. -/
def HasDelete : Document → Prop
  | .null => False
  | .bool _ => False
  | .int _ => False
  | .double _ => False
  | .string value => delete ∈ value
  | .list items => HasDeleteItems items
  | .map fields => HasDeleteFields fields

def HasDeleteItems : List Document → Prop
  | [] => False
  | item :: rest => HasDelete item ∨ HasDeleteItems rest

def HasDeleteFields : Fields → Prop
  | [] => False
  | (key, value) :: rest => delete ∈ key ∨ HasDelete value ∨ HasDeleteFields rest

end

/-! ## What one text has over the other -/

/-- The escape that is missing. -/
def escapeDelete (s : Text) : Text := s.flatMap fun u => if u = delete then escapeUnit u else [u]

theorem escapeDelete_append (s t : Text) :
    escapeDelete (s ++ t) = escapeDelete s ++ escapeDelete t := List.flatMap_append

variable {u : UInt16} {s : Text}

theorem escapeDelete_cons (h : u ≠ delete) (s : Text) :
    escapeDelete (u :: s) = u :: escapeDelete s := by
  rw [escapeDelete, List.flatMap_cons, if_neg h]
  rfl

theorem escapeDelete_of_notMem (h : delete ∉ s) : escapeDelete s = s := by
  induction s with
  | nil => rfl
  | cons u rest ih =>
    rw [List.mem_cons, not_or] at h
    rw [escapeDelete_cons (Ne.symm h.1), ih h.2]

theorem notMem_of_printable (h : s.all isPrintable = true) : delete ∉ s := by
  intro hmem
  have hprintable := List.all_eq_true.mp h delete hmem
  exact absurd hprintable (by decide)

theorem escapeDelete_printable (h : s.all isPrintable = true) : escapeDelete s = s :=
  escapeDelete_of_notMem (notMem_of_printable h)

theorem escapeDelete_escapeWide (s : Text) : escapeDelete (escapeWide s) = escapeAll s := by
  induction s with
  | nil => rfl
  | cons u rest ih =>
    rw [escapeWide, List.flatMap_cons, escapeDelete_append, escapeAll, List.flatMap_cons]
    refine congrArg₂ (· ++ ·) ?_ ih
    by_cases hlow : u < 128
    · rw [if_pos hlow]
      by_cases hdelete : u = delete
      · subst hdelete
        decide
      · have hbelow : ¬ 0x7f ≤ u := by
          have hne : u.toNat ≠ 127 := fun h => hdelete (UInt16.toNat_inj.mp h)
          simp only [UInt16.le_iff_toNat_le, UInt16.lt_iff_toNat_lt, UInt16.reduceToNat] at hlow ⊢
          omega
        rw [if_neg hbelow, escapeDelete_cons hdelete]
        rfl
    · have habove : 0x7f ≤ u := by
        simp only [UInt16.le_iff_toNat_le, UInt16.lt_iff_toNat_lt, UInt16.reduceToNat] at hlow ⊢
        omega
      rw [if_neg hlow, if_pos habove, escapeDelete_printable (escapeUnit_printable u)]

theorem delete_mem_escapeWide : delete ∈ escapeWide s ↔ delete ∈ s := by
  rw [escapeWide, List.mem_flatMap]
  constructor
  · rintro ⟨u, hu, hmem⟩
    by_cases hlow : u < 128
    · rw [if_pos hlow, List.mem_singleton] at hmem
      rwa [hmem]
    · rw [if_neg hlow] at hmem
      exact absurd hmem (notMem_of_printable (escapeUnit_printable u))
  · exact fun h => ⟨delete, h, by decide⟩

theorem notMem_encodeUnit (hu : u ≠ delete) : delete ∉ encodeUnit u := by
  unfold encodeUnit
  split_ifs
  · rw [List.mem_cons, List.mem_singleton, not_or]
    exact ⟨by decide, Ne.symm hu⟩
  · decide
  · decide
  · decide
  · decide
  · decide
  · exact notMem_of_printable (escapeUnit_printable u)
  · rw [List.mem_singleton]
    exact Ne.symm hu

theorem delete_mem_encodeUnit : delete ∈ encodeUnit u ↔ delete = u := by
  by_cases hu : u = delete
  · subst hu
    decide
  · simp [notMem_encodeUnit hu, Ne.symm hu]

theorem ne_delete_of_surrogate (h : (isHighSurrogate u || isLowSurrogate u) = true) :
    delete ≠ u := by
  rintro rfl
  exact absurd h (by decide)

theorem delete_mem_encodeUnits (s : Text) : delete ∈ encodeUnits s ↔ delete ∈ s := by
  have hescaped : ∀ u : UInt16, delete ∉ escapeUnit u := fun u =>
    notMem_of_printable (escapeUnit_printable u)
  fun_induction encodeUnits s with
  | case1 => rfl
  | case2 u h => simp [hescaped, ne_delete_of_surrogate h]
  | case3 u h => simp [delete_mem_encodeUnit]
  | case4 u v rest h ih => simp [ih]
  | case5 u v rest h1 h2 ih => simp [hescaped, ne_delete_of_surrogate h2, ih]
  | case6 u v rest h1 h2 ih => simp [delete_mem_encodeUnit, ih]

theorem delete_mem_encodeString : delete ∈ encodeString s ↔ delete ∈ s := by
  have hquote : delete ≠ unit '"' := by decide
  simp [encodeString, delete_mem_encodeUnits, hquote]

theorem notMem_fieldName {key : Text} (h : isFieldName key = true) : delete ∉ key := by
  rw [isFieldName, Bool.and_eq_true] at h
  intro hmem
  exact absurd (List.all_eq_true.mp h.2 delete hmem) (by decide)

/-! ### Pieces with commas between them -/

theorem joinCommas_cons_cons (piece next : Text) (rest : List Text) :
    joinCommas (piece :: next :: rest) = piece ++ unit ',' :: joinCommas (next :: rest) := by
  rw [joinCommas, List.intercalate_cons_cons, List.append_assoc]
  rfl

theorem escapeDelete_joinCommas (pieces : List Text) :
    escapeDelete (joinCommas pieces) = joinCommas (pieces.map escapeDelete) := by
  induction pieces with
  | nil => rfl
  | cons piece rest ih =>
    cases rest with
    | nil => simp [joinCommas]
    | cons next rest =>
      rw [joinCommas_cons_cons, escapeDelete_append, escapeDelete_cons (by decide), ih,
        List.map_cons, List.map_cons, List.map_cons, joinCommas_cons_cons]

theorem delete_mem_joinCommas {pieces : List Text} :
    delete ∈ joinCommas pieces ↔ ∃ piece ∈ pieces, delete ∈ piece := by
  have hcomma : delete ≠ unit ',' := by decide
  induction pieces with
  | nil => simp [joinCommas]
  | cons piece rest ih =>
    cases rest with
    | nil => simp [joinCommas]
    | cons next rest => simp [joinCommas_cons_cons, hcomma, ih]

/-- Text between two brackets. -/
theorem escapeDelete_bracket {first last : UInt16} (hfirst : first ≠ delete)
    (hlast : last ≠ delete) (s : Text) :
    escapeDelete (first :: (s ++ [last])) = first :: (escapeDelete s ++ [last]) := by
  rw [escapeDelete_cons hfirst, escapeDelete_append, escapeDelete_cons hlast]
  rfl

/-! ### Values -/

mutual

/-- The two texts differ by the escape of U+007F. -/
theorem canonicalInvitationJson_spec : ∀ {value : Document}, Signable value →
    ∃ s, canonicalInvitationJson value = .ok s ∧ escapeDelete s = canonical value ∧
      (delete ∈ s ↔ HasDelete value)
  | .null, _ => ⟨_, rfl, by decide, by simp [HasDelete]; decide⟩
  | .bool true, _ => ⟨_, rfl, by decide, by simp [HasDelete]; decide⟩
  | .bool false, _ => ⟨_, rfl, by decide, by simp [HasDelete]; decide⟩
  | .int value, _ => by
    have hprintable := encodeInt_printable value
    refine ⟨_, rfl, ?_, ?_⟩
    · rw [jsonEncode, escapeDelete_printable hprintable, canonical, jsonEncode,
        escapeAll_printable hprintable]
    · simp [HasDelete, jsonEncode, notMem_of_printable hprintable]
  | .double _, h => h.elim
  | .string value, _ => by
    refine ⟨_, rfl, escapeDelete_escapeWide _, ?_⟩
    rw [delete_mem_escapeWide, jsonEncode, delete_mem_encodeString, HasDelete]
  | .list items, h => by
    obtain ⟨pieces, hpieces, hescape, hmem⟩ := invitationItems_spec h
    refine ⟨_, by rw [canonicalInvitationJson, hpieces]; rfl, ?_, ?_⟩
    · rw [escapeDelete_bracket (by decide) (by decide), escapeDelete_joinCommas, hescape, canonical]
    · have hopen : delete ≠ unit '[' := by decide
      have hclose : delete ≠ unit ']' := by decide
      simp [hopen, hclose, delete_mem_joinCommas, HasDelete, hmem]
  | .map fields, h => by
    obtain ⟨pieces, hpieces, hescape, hmem⟩ := invitationFields_spec h
    refine ⟨_, by rw [canonicalInvitationJson, hpieces]; rfl, ?_, ?_⟩
    · rw [escapeDelete_bracket (by decide) (by decide), escapeDelete_joinCommas, canonical_map,
        ← hescape, ← inOrder_map fun _ => escapeDelete, List.map_map, List.map_map]
      rfl
    · have hopen : delete ≠ unit '\x7b' := by decide
      have hclose : delete ≠ unit '\x7d' := by decide
      have hsorted : (∃ piece ∈ (inOrder pieces).map Prod.snd, delete ∈ piece) ↔
          ∃ field ∈ pieces, delete ∈ field.2 := by
        simp only [List.mem_map, (inOrder_perm pieces).mem_iff]
        constructor
        · rintro ⟨_, ⟨field, hfield, rfl⟩, hdelete⟩
          exact ⟨field, hfield, hdelete⟩
        · rintro ⟨field, hfield, hdelete⟩
          exact ⟨_, ⟨field, hfield, rfl⟩, hdelete⟩
      rw [List.mem_cons, List.mem_append, List.mem_singleton, delete_mem_joinCommas, hsorted, hmem,
        HasDelete]
      simp [hopen, hclose]

theorem invitationItems_spec : ∀ {items : List Document}, SignableItems items →
    ∃ pieces, invitationItems items = .ok pieces ∧ pieces.map escapeDelete = canonicalItems items ∧
      ((∃ piece ∈ pieces, delete ∈ piece) ↔ HasDeleteItems items)
  | [], _ => ⟨[], rfl, rfl, by simp [HasDeleteItems]⟩
  | item :: rest, h => by
    obtain ⟨piece, hpiece, hescape, hmem⟩ := canonicalInvitationJson_spec h.1
    obtain ⟨pieces, hpieces, hescapes, hmems⟩ := invitationItems_spec h.2
    refine ⟨piece :: pieces, by rw [invitationItems, hpiece, hpieces]; rfl, ?_, ?_⟩
    · rw [List.map_cons, hescape, hescapes, canonicalItems]
    · simp [HasDeleteItems, hmem, hmems]

theorem invitationFields_spec : ∀ {fields : Fields}, SignableFields fields →
    ∃ pieces, invitationFields fields = .ok pieces ∧
      pieces.map (fun field => (field.1, escapeDelete field.2)) = canonicalFields fields ∧
      ((∃ field ∈ pieces, delete ∈ field.2) ↔ HasDeleteFields fields)
  | [], _ => ⟨[], rfl, rfl, by simp [HasDeleteFields]⟩
  | (key, value) :: rest, h => by
    obtain ⟨piece, hpiece, hescape, hmem⟩ := canonicalInvitationJson_spec h.2.1
    obtain ⟨pieces, hpieces, hescapes, hmems⟩ := invitationFields_spec h.2.2
    refine ⟨_, by rw [invitationFields, hpiece, hpieces]; rfl, ?_, ?_⟩
    · rw [List.map_cons, hescapes, canonicalFields, escapeDelete_append, escapeDelete_escapeWide,
        escapeDelete_cons (by decide), hescape]
    · have hcolon : delete ≠ unit ':' := by decide
      simp [HasDeleteFields, ← hmem, ← hmems, delete_mem_escapeWide, delete_mem_encodeString,
        notMem_fieldName h.1, hcolon]

end

/-! ## Where the encoders agree -/

theorem delete_notMem_escapeDelete (s : Text) : delete ∉ escapeDelete s := by
  rw [escapeDelete, List.mem_flatMap]
  rintro ⟨u, -, hmem⟩
  by_cases hu : u = delete
  · rw [if_pos hu] at hmem
    exact notMem_of_printable (escapeUnit_printable u) hmem
  · rw [if_neg hu, List.mem_singleton] at hmem
    exact hu hmem.symm

/-- The encoders agree on a value exactly when none of its strings holds U+007F. -/
theorem canonicalInvitationJson_iff {value : Document} (h : Signable value) :
    canonicalInvitationJson value = .ok (canonical value) ↔ ¬ HasDelete value := by
  obtain ⟨s, hs, hescape, hmem⟩ := canonicalInvitationJson_spec h
  rw [hs, ← hmem]
  constructor
  · intro heq hdelete
    cases heq
    rw [← hescape] at hdelete
    exact delete_notMem_escapeDelete _ hdelete
  · intro hdelete
    rw [← hescape, escapeDelete_of_notMem hdelete]

/-- A field that holds U+007F alone. -/
def deleteSample : Document := .map [(text "text", .string [delete])]

theorem signable_deleteSample : Signable deleteSample := ⟨by decide, trivial, trivial⟩

theorem canonicalInvitationJson_deleteSample :
    HasDelete deleteSample ∧
      canonicalInvitationJson deleteSample ≠ .ok (canonical deleteSample) := by
  have hdelete : HasDelete deleteSample := .inr (.inl (List.mem_singleton.mpr rfl))
  exact ⟨hdelete, fun h => (canonicalInvitationJson_iff signable_deleteSample).mp h hdelete⟩

/-- One text is `{"text":"\u007f"}`, the other has the unit itself in it. -/
theorem canonicalInvitationJson_differs :
    ¬ ∀ value : Document, Signable value →
      canonicalInvitationJson value = .ok (canonical value) := by
  intro h
  have hsame := Except.ok.inj (h deleteSample signable_deleteSample)
  exact absurd hsame (by decide)

end Pokrov.AppShell
