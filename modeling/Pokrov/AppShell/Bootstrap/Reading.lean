import Mathlib.Data.List.DropRight
import Pokrov.Dart.Parsing

/-!
# Reading profiles

How `app_first_runtime_bootstrap.dart` reads the JSON values of a profile: as trimmed texts, as
maps, as lists of maps and as lists of tags.
-/

namespace Pokrov.AppShell.Bootstrap

open Dart

/-- `_readText`. -/
def readText : Document → Text
  | .null => []
  | value => trim (toText value)

/-- `_readMap`. -/
def readMap : Document → Fields
  | .map fields => fields
  | _ => []

/-- `_readListOfMaps`. -/
def readListOfMaps : Document → List Fields
  | .list items => items.filterMap fun item =>
    match item with
    | .map fields => some fields
    | _ => none
  | _ => []

/-- The tags of a list, each once, after those that were read already. -/
def readTags (tags : List Text) : List Document → List Text
  | [] => tags
  | item :: rest =>
    let tag := readText item
    if tag = [] ∨ tag ∈ tags then readTags tags rest else readTags (tags ++ [tag]) rest

/-- `_readTagList`. -/
def readTagList : Document → List Text
  | .list items => readTags [] items
  | _ => []

/-- A unit of ASCII in lower case. -/
def lowerUnit (u : UInt16) : UInt16 := if isUpper u then u + 32 else u

/-- What is known of `String.toLowerCase`: how it changes a text of ASCII. -/
def LowersAscii (toLowerCase : Text → Text) : Prop :=
  ∀ s : Text, s.all (fun u => decide (u < 0x80)) = true → toLowerCase s = s.map lowerUnit

/-- The value of a key is set. -/
def setField (fields : Fields) (key : String) (value : Document) : Fields :=
  JsonText.setField fields (text key) value

theorem lookup_replaced (fields : Fields) (key other : Text) (value : Document) :
    (fields.map fun field => if field.1 = key then (key, value) else field).lookup other =
      if other = key then (fields.lookup key).map fun _ => value else fields.lookup other := by
  induction fields with
  | nil => simp
  | cons field rest ih =>
    obtain ⟨name, old⟩ := field
    by_cases hname : name = key
    · by_cases hother : other = key
      · simp [hname, hother]
      · simp [List.lookup_cons, hname, beq_eq_false_iff_ne.mpr hother, hother, ih]
    · by_cases hother : other = key
      · have hne : (key == name) = false := beq_eq_false_iff_ne.mpr fun h => hname h.symm
        rw [hother, if_pos rfl] at ih
        simp [List.lookup_cons, hname, hother, hne, ih]
      · simp [List.lookup_cons, hname, hother, ih]

/-- A key that is set has its new value, and the others have theirs. -/
theorem lookup_setField (fields : Fields) (key other : Text) (value : Document) :
    (JsonText.setField fields key value).lookup other =
      if other = key then some value else fields.lookup other := by
  unfold JsonText.setField
  split
  · next hmem =>
    rw [lookup_replaced]
    by_cases hother : other = key
    · obtain ⟨field, hfield, hkey⟩ := List.any_eq_true.mp hmem
      have hsome : (fields.lookup key).isSome = true := by
        rw [List.lookup_isSome_iff]
        exact ⟨field, hfield, by simpa using (of_decide_eq_true hkey).symm⟩
      obtain ⟨old, hold⟩ := Option.isSome_iff_exists.mp hsome
      simp [hother, hold]
    · simp [hother]
  · next hnew =>
    rw [List.lookup_append]
    by_cases hother : other = key
    · have hnone : fields.lookup key = none := by
        rw [List.lookup_eq_none_iff]
        intro field hfield
        have hne : ¬ key = field.1 := fun h => hnew (List.any_eq_true.mpr ⟨field, hfield, by
          simp [h]⟩)
        simpa using hne
      simp [hother, hnone]
    · simp [hother, List.lookup_cons, beq_eq_false_iff_ne.mpr hother]

theorem get_setField_self (fields : Fields) (key : String) (value : Document) :
    (setField fields key value).get key = value := by
  simp [Fields.get, setField, lookup_setField]

theorem get_setField_of_ne {fields : Fields} {key other : String} {value : Document}
    (h : text other ≠ text key) : (setField fields key value).get other = fields.get other := by
  simp [Fields.get, setField, lookup_setField, h]

theorem get_eq_of_lookup {fields fields' : Fields} {key : String}
    (h : fields'.lookup (text key) = fields.lookup (text key)) : fields'.get key = fields.get key := by
  rw [Fields.get, Fields.get, h]

/-! ## Trimmed texts -/

theorem trim_eq (s : Text) : trim s = (s.dropWhile isWhitespace).rdropWhile isWhitespace := rfl

@[simp] theorem trim_nil : trim [] = [] := rfl

theorem trim_trim (s : Text) : trim (trim s) = trim s := by
  rw [trim_eq (trim s), trim_eq s]
  have hprefix := List.rdropWhile_prefix isWhitespace (s.dropWhile isWhitespace)
  have hhead : ((s.dropWhile isWhitespace).rdropWhile isWhitespace).dropWhile isWhitespace =
      (s.dropWhile isWhitespace).rdropWhile isWhitespace := by
    rw [List.dropWhile_eq_self_iff]
    intro hlength
    have hdropped := List.dropWhile_idempotent (p := isWhitespace) s
    rw [List.dropWhile_eq_self_iff] at hdropped
    have hsame := hprefix.getElem hlength
    rw [hsame]
    exact hdropped _
  rw [hhead, List.rdropWhile_idempotent]

@[simp] theorem trim_readText (value : Document) : trim (readText value) = readText value := by
  unfold readText
  split
  · rfl
  · exact trim_trim _

@[simp] theorem readText_string (s : Text) : readText (.string s) = trim s := rfl

/-! ## Lists of tags -/

variable {tags : List Text} {t : Text}

theorem mem_readTags {items : List Document} :
    t ∈ readTags tags items ↔ t ∈ tags ∨ (t ≠ [] ∧ t ∈ items.map readText) := by
  induction items generalizing tags with
  | nil => simp [readTags]
  | cons item rest ih =>
    unfold readTags
    by_cases hskip : readText item = [] ∨ readText item ∈ tags
    · simp only [if_pos hskip, ih, List.map_cons, List.mem_cons]
      grind
    · simp only [if_neg hskip, ih, List.map_cons, List.mem_cons, List.mem_append]
      grind

/-- Tags that are read are trimmed, and none is empty. -/
theorem trimmed_of_mem {value : Document} (h : t ∈ readTagList value) : trim t = t ∧ t ≠ [] := by
  unfold readTagList at h
  split at h
  · next items =>
    obtain ht | ⟨hne, ht⟩ := mem_readTags.mp h
    · cases ht
    · obtain ⟨item, -, rfl⟩ := List.mem_map.mp ht
      exact ⟨trim_readText item, hne⟩
  · cases h

/-- A list of tags, as it is written. -/
def tagDocument (tags : List Text) : Document := .list (tags.map .string)

theorem map_readText_string (h : ∀ t ∈ tags, trim t = t) :
    (tags.map Document.string).map readText = tags := by
  rw [List.map_map]
  calc tags.map (readText ∘ Document.string) = tags.map id := List.map_congr_left h
    _ = tags := List.map_id tags

/-- What is written is read, as far as it is trimmed and not empty. -/
theorem mem_readTagList_tagDocument (h : ∀ t ∈ tags, trim t = t ∧ t ≠ []) :
    t ∈ readTagList (tagDocument tags) ↔ t ∈ tags := by
  have hread : t ∈ readTagList (tagDocument tags) ↔
      t ∈ [] ∨ (t ≠ [] ∧ t ∈ (tags.map Document.string).map readText) := mem_readTags
  rw [hread, map_readText_string fun t ht => (h t ht).1]
  constructor
  · rintro (ht | ⟨-, ht⟩)
    · cases ht
    · exact ht
  · exact fun ht => .inr ⟨(h t ht).2, ht⟩

end Pokrov.AppShell.Bootstrap
