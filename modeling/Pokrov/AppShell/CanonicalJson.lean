import Pokrov.AppShell.CanonicalText

/-!
# Canonical text is exact

The canonical text of a frozen document is the text of one reading, in which
nothing could be written in another way. The value that is read from it is the
document again, with the fields of its maps in the order of their keys.
-/

namespace Pokrov.AppShell

open Dart JsonText

/-! ## Documents -/

/-- Fields in the order of their keys. -/
def inOrder {α : Type} (fields : List (Text × α)) : List (Text × α) :=
  fields.insertionSort fun a b => a.1 ≤ b.1

theorem inOrder_map {α β : Type} (f : Text → α → β) (fields : List (Text × α)) :
    (inOrder fields).map (fun field => (field.1, f field.1 field.2)) =
      inOrder (fields.map fun field => (field.1, f field.1 field.2)) :=
  List.map_insertionSort _ _ _ _ fun _ _ _ _ => Iff.rfl

theorem inOrder_perm {α : Type} (fields : List (Text × α)) : (inOrder fields).Perm fields :=
  List.perm_insertionSort _ _

theorem pairwise_inOrder {α : Type} (fields : List (Text × α)) :
    (inOrder fields).Pairwise fun a b => a.1 ≤ b.1 := by
  have : Std.Total fun a b : Text × α => a.1 ≤ b.1 := ⟨fun a b => List.le_total a.1 b.1⟩
  have : IsTrans (Text × α) fun a b => a.1 ≤ b.1 := ⟨fun a b c => List.le_trans⟩
  exact List.pairwise_insertionSort _ _

theorem inOrder_inOrder {α : Type} (fields : List (Text × α)) :
    inOrder (inOrder fields) = inOrder fields := (pairwise_inOrder fields).insertionSort_eq

mutual

/-- A document with the fields of its maps in the order of their keys. -/
def arranged : Document → Document
  | .null => .null
  | .bool value => .bool value
  | .int value => .int value
  | .double value => .double value
  | .string value => .string value
  | .list items => .list (arrangedItems items)
  | .map fields => .map (inOrder (arrangedFields fields))

def arrangedItems : List Document → List Document
  | [] => []
  | item :: rest => arranged item :: arrangedItems rest

def arrangedFields : Fields → Fields
  | [] => []
  | (key, value) :: rest => (key, arranged value) :: arrangedFields rest

end

mutual

/-- A document as canonical text writes it. -/
def canonicalNode : Document → Node
  | .null => .null
  | .bool value => .bool value
  | .int value => .number (encodeInt value)
  | .double value => .number value
  | .string value => .string (value.map canonicalPiece)
  | .list items => .list (canonicalItemNodes items)
  | .map fields =>
    .map ((inOrder (canonicalFieldNodes fields)).map fun field =>
      (field.1.map canonicalPiece, field.2))

def canonicalItemNodes : List Document → List Node
  | [] => []
  | item :: rest => canonicalNode item :: canonicalItemNodes rest

def canonicalFieldNodes : Fields → List (Text × Node)
  | [] => []
  | (key, value) :: rest => (key, canonicalNode value) :: canonicalFieldNodes rest

end

theorem arrangedFields_eq_map (fields : Fields) :
    arrangedFields fields = fields.map fun field => (field.1, arranged field.2) := by
  induction fields with
  | nil => rfl
  | cons field rest ih => rw [arrangedFields, ih, List.map_cons]

theorem canonicalFieldNodes_eq_map (fields : Fields) :
    canonicalFieldNodes fields = fields.map fun field => (field.1, canonicalNode field.2) := by
  induction fields with
  | nil => rfl
  | cons field rest ih => rw [canonicalFieldNodes, ih, List.map_cons]

/-- The text of a field. -/
def fieldText (key value : Text) : Text := escapeAll (encodeString key) ++ unit ':' :: value

theorem canonicalFields_eq_map (fields : Fields) :
    canonicalFields fields = fields.map fun field => (field.1, fieldText field.1 (canonical field.2)) := by
  induction fields with
  | nil => rfl
  | cons field rest ih => rw [canonicalFields, ih, List.map_cons, fieldText]

theorem canonical_map (fields : Fields) : canonical (.map fields) =
    unit '\x7b' :: (joinCommas ((inOrder (canonicalFields fields)).map Prod.snd) ++ [unit '\x7d']) := by
  rw [canonical, inOrder]

/-! ### The text of the tokens -/

theorem tokensText_items (items : List Node) :
    tokensText (itemTokens items) = joinCommas (items.map fun item => tokensText item.tokens) := by
  induction items with
  | nil => rfl
  | cons item rest ih =>
    cases rest with
    | nil => simp [itemTokens, joinCommas]
    | cons next rest =>
      rw [itemTokens, tokensText_append, tokensText_cons, ih]
      simp [joinCommas, Token.text, List.intercalate]

theorem tokensText_fields (fields : List (List Piece × Node)) :
    tokensText (fieldTokens fields) = joinCommas (fields.map fun field =>
      (Token.string field.1).text ++ unit ':' :: tokensText field.2.tokens) := by
  induction fields with
  | nil => rfl
  | cons field rest ih =>
    cases rest with
    | nil => simp [fieldTokens, joinCommas, tokensText_cons, Token.text]
    | cons next rest =>
      obtain ⟨key, value⟩ := field
      rw [fieldTokens, tokensText_cons, tokensText_cons, tokensText_append, tokensText_cons, ih]
      simp [joinCommas, Token.text, List.intercalate]

/-- A token that could not be written in another way. -/
def IsCanonical : Token → Prop
  | .number s => ∃ n, s = encodeInt n
  | .string pieces => pieces = (units pieces).map canonicalPiece
  | _ => True

theorem IsCanonical.isValid {token : Token} (h : IsCanonical token) : token.isValid = true := by
  cases token with
  | number s =>
    obtain ⟨n, rfl⟩ := h
    exact isValid_encodeInt n
  | string pieces =>
    unfold IsCanonical at h
    rw [Token.isValid, h]
    exact canonicalPieces_valid _
  | _ => rfl

theorem IsCanonical.printable {token : Token} (h : IsCanonical token) :
    token.text.all isPrintable = true := by
  cases token with
  | number s =>
    obtain ⟨n, rfl⟩ := h
    exact encodeInt_printable n
  | string pieces =>
    unfold IsCanonical at h
    have hpieces : (pieces.flatMap Piece.text).all isPrintable = true := by
      rw [h, List.flatMap_map, List.all_flatMap]
      exact List.all_eq_true.mpr fun u _ => canonicalPiece_printable u
    rw [Token.text, List.all_cons, List.all_append, hpieces]
    decide
  | bool value => cases value <;> decide
  | _ => decide

theorem canonical_itemTokens {items : List Node}
    (h : ∀ node ∈ items, ∀ token ∈ node.tokens, IsCanonical token) :
    ∀ token ∈ itemTokens items, IsCanonical token := by
  induction items with
  | nil => simp [itemTokens]
  | cons item rest ih =>
    have hrest := ih fun node hnode => h node (List.mem_cons_of_mem _ hnode)
    cases rest with
    | nil => exact h item List.mem_cons_self
    | cons next rest =>
      rw [itemTokens]
      intro token htoken
      rcases List.mem_append.mp htoken with htoken | htoken
      · exact h item List.mem_cons_self token htoken
      · rcases List.mem_cons.mp htoken with rfl | htoken
        · exact trivial
        · exact hrest token htoken

theorem canonical_fieldTokens {fields : List (List Piece × Node)}
    (h : ∀ field ∈ fields, IsCanonical (.string field.1) ∧ ∀ token ∈ field.2.tokens, IsCanonical token) :
    ∀ token ∈ fieldTokens fields, IsCanonical token := by
  induction fields with
  | nil => simp [fieldTokens]
  | cons field rest ih =>
    obtain ⟨key, value⟩ := field
    have hrest := ih fun field hfield => h field (List.mem_cons_of_mem _ hfield)
    obtain ⟨hkey, hvalue⟩ := h (key, value) List.mem_cons_self
    cases rest with
    | nil =>
      rw [fieldTokens]
      simp only [List.mem_cons]
      rintro token (rfl | rfl | htoken)
      · exact hkey
      · exact trivial
      · exact hvalue token htoken
    | cons next rest =>
      rw [fieldTokens]
      simp only [List.mem_cons, List.mem_append]
      rintro token (rfl | rfl | htoken | rfl | htoken)
      · exact hkey
      · exact trivial
      · exact hvalue token htoken
      · exact trivial
      · exact hrest token htoken

mutual

/-- A document without numbers that are not of 64 bits, as `_freeze` leaves it. -/
def Frozen : Document → Prop
  | .null => True
  | .bool _ => True
  | .int value => -2 ^ 63 ≤ value ∧ value < 2 ^ 63
  | .double _ => False
  | .string _ => True
  | .list items => FrozenItems items
  | .map fields => (Fields.keys fields).Nodup ∧ (∀ key ∈ Fields.keys fields, isFieldName key = true) ∧
      FrozenFields fields

def FrozenItems : List Document → Prop
  | [] => True
  | item :: rest => Frozen item ∧ FrozenItems rest

def FrozenFields : Fields → Prop
  | [] => True
  | (_, value) :: rest => Frozen value ∧ FrozenFields rest

end

theorem frozenFields_iff {fields : Fields} :
    FrozenFields fields ↔ ∀ field ∈ fields, Frozen field.2 := by
  induction fields with
  | nil => simp [FrozenFields]
  | cons field rest ih => simp [FrozenFields, ih]

mutual

theorem text_canonicalNode : ∀ {value : Document}, Frozen value →
    tokensText (canonicalNode value).tokens = canonical value
  | .null, _ => rfl
  | .bool true, _ => rfl
  | .bool false, _ => rfl
  | .int value, _ => by
      rw [canonicalNode, Node.tokens, tokensText_cons, canonical, jsonEncode,
        escapeAll_printable (encodeInt_printable value)]
      exact List.append_nil _
  | .double _, h => h.elim
  | .string value, _ => by
      rw [canonicalNode, Node.tokens, tokensText_cons, canonical, jsonEncode, canonical_string]
      exact List.append_nil _
  | .list items, h => by
      rw [canonicalNode, Node.tokens, tokensText_cons, tokensText_append, tokensText_items,
        text_canonicalItemNodes h, canonical]
      rfl
  | .map fields, h => by
      rw [canonicalNode, Node.tokens, tokensText_cons, tokensText_append, tokensText_fields, List.map_map,
        canonical_map]
      have hfields := text_canonicalFieldNodes h.2.2
      have hsorted : (inOrder (canonicalFieldNodes fields)).map
          (fun field => fieldText field.1 (tokensText field.2.tokens)) =
          (inOrder (canonicalFields fields)).map Prod.snd := by
        rw [← hfields, ← inOrder_map fun key (node : Node) => fieldText key (tokensText node.tokens),
          List.map_map]
        rfl
      rw [← hsorted]
      simp only [fieldText, canonical_string]
      rfl

theorem text_canonicalItemNodes : ∀ {items : List Document}, FrozenItems items →
    (canonicalItemNodes items).map (fun item => tokensText item.tokens) = canonicalItems items
  | [], _ => rfl
  | item :: rest, h => by
      rw [canonicalItemNodes, List.map_cons, text_canonicalNode h.1, text_canonicalItemNodes h.2,
        canonicalItems]

theorem text_canonicalFieldNodes : ∀ {fields : Fields}, FrozenFields fields →
    (canonicalFieldNodes fields).map (fun field =>
      (field.1, fieldText field.1 (tokensText field.2.tokens))) = canonicalFields fields
  | [], _ => rfl
  | (key, value) :: rest, h => by
      rw [canonicalFieldNodes, List.map_cons, text_canonicalNode h.1, text_canonicalFieldNodes h.2,
        canonicalFields]
      rfl

end

/-! ### The value of the text -/

/-- Fields with keys of their own are set one after the other. -/
theorem fieldValues_append (before : Fields) {fields : List (Text × Node)}
    (h : (Fields.keys before ++ fields.map Prod.fst).Nodup) :
    fieldValues before (fields.map fun field => (field.1.map canonicalPiece, field.2)) =
      before ++ fields.map fun field => (field.1, field.2.value) := by
  induction fields generalizing before with
  | nil => exact (List.append_nil before).symm
  | cons field rest ih =>
    obtain ⟨key, node⟩ := field
    rw [List.map_cons, List.nodup_append] at h
    have hnew : before.any (fun field => decide (field.1 = key)) = false := by
      rw [List.any_eq_false]
      intro field hfield hkey
      rw [decide_eq_true_eq] at hkey
      exact h.2.2 field.1 (List.mem_map_of_mem hfield) key List.mem_cons_self hkey
    have hset : setField before key node.value = before ++ [(key, node.value)] := by
      rw [setField, hnew]
      rfl
    have hrest : (Fields.keys (before ++ [(key, node.value)]) ++ rest.map Prod.fst).Nodup := by
      rw [Fields.keys, List.map_append, List.append_assoc]
      exact List.nodup_append.mpr h
    rw [List.map_cons, fieldValues, units_canonicalPieces, hset, ih _ hrest, List.append_assoc]
    rfl

mutual

theorem value_canonicalNode : ∀ {value : Document}, Frozen value →
    (canonicalNode value).value = arranged value
  | .null, _ => rfl
  | .bool _, _ => rfl
  | .int _, h => numeral_encodeInt h.1 h.2
  | .double _, h => h.elim
  | .string value, _ => congrArg Document.string (units_canonicalPieces value)
  | .list items, h => congrArg Document.list (values_canonicalItemNodes h)
  | .map fields, h => by
      have hkeys : ((inOrder (canonicalFieldNodes fields)).map Prod.fst).Nodup := by
        have hperm := (inOrder_perm (canonicalFieldNodes fields)).map Prod.fst
        rw [hperm.nodup_iff, canonicalFieldNodes_eq_map, List.map_map]
        exact h.1
      rw [canonicalNode, Node.value, fieldValues_append [] hkeys, List.nil_append, arranged,
        inOrder_map fun _ (node : Node) => node.value, values_canonicalFieldNodes h.2.2]

theorem values_canonicalItemNodes : ∀ {items : List Document}, FrozenItems items →
    itemValues (canonicalItemNodes items) = arrangedItems items
  | [], _ => rfl
  | item :: rest, h => by
      rw [canonicalItemNodes, itemValues, value_canonicalNode h.1, values_canonicalItemNodes h.2,
        arrangedItems]

theorem values_canonicalFieldNodes : ∀ {fields : Fields}, FrozenFields fields →
    (canonicalFieldNodes fields).map (fun field => (field.1, field.2.value)) = arrangedFields fields
  | [], _ => rfl
  | (key, value) :: rest, h => by
      rw [canonicalFieldNodes, List.map_cons, value_canonicalNode h.1, values_canonicalFieldNodes h.2,
        arrangedFields]

end

theorem isCanonical_string (s : Text) : IsCanonical (.string (s.map canonicalPiece)) := by
  rw [IsCanonical, units_canonicalPieces]

mutual

theorem tokens_canonicalNode : ∀ {value : Document}, Frozen value →
    ∀ token ∈ (canonicalNode value).tokens, IsCanonical token
  | .null, _ => by simp [canonicalNode, Node.tokens, IsCanonical]
  | .bool _, _ => by simp [canonicalNode, Node.tokens, IsCanonical]
  | .int value, _ => by
      simp only [canonicalNode, Node.tokens, List.mem_singleton, forall_eq]
      exact ⟨value, rfl⟩
  | .double _, h => h.elim
  | .string value, _ => by
      simp only [canonicalNode, Node.tokens, List.mem_singleton, forall_eq]
      exact isCanonical_string value
  | .list items, h => by
      have hitems := tokens_canonicalItemNodes h
      simp only [canonicalNode, Node.tokens, List.mem_cons, List.mem_append, List.not_mem_nil, or_false]
      rintro token (rfl | htoken | rfl)
      · exact trivial
      · exact canonical_itemTokens hitems token htoken
      · exact trivial
  | .map fields, h => by
      have hfields := tokens_canonicalFieldNodes h.2.2
      simp only [canonicalNode, Node.tokens, List.mem_cons, List.mem_append, List.not_mem_nil, or_false]
      rintro token (rfl | htoken | rfl)
      · exact trivial
      · refine canonical_fieldTokens (fun field hfield => ?_) token htoken
        obtain ⟨source, hsource, rfl⟩ := List.mem_map.mp hfield
        exact ⟨isCanonical_string source.1, hfields source ((inOrder_perm _).mem_iff.mp hsource)⟩
      · exact trivial

theorem tokens_canonicalItemNodes : ∀ {items : List Document}, FrozenItems items →
    ∀ node ∈ canonicalItemNodes items, ∀ token ∈ node.tokens, IsCanonical token
  | [], _ => by simp [canonicalItemNodes]
  | item :: rest, h => by
      rw [canonicalItemNodes]
      rintro node hnode
      rcases List.mem_cons.mp hnode with rfl | hrest
      · exact tokens_canonicalNode h.1
      · exact tokens_canonicalItemNodes h.2 node hrest

theorem tokens_canonicalFieldNodes : ∀ {fields : Fields}, FrozenFields fields →
    ∀ field ∈ canonicalFieldNodes fields, ∀ token ∈ field.2.tokens, IsCanonical token
  | [], _ => by simp [canonicalFieldNodes]
  | (key, value) :: rest, h => by
      rw [canonicalFieldNodes]
      rintro field hfield
      rcases List.mem_cons.mp hfield with rfl | hrest
      · exact tokens_canonicalNode h.1
      · exact tokens_canonicalFieldNodes h.2 field hrest

end

theorem canonical_printable {value : Document} (h : Frozen value) :
    (canonical value).all isPrintable = true := by
  rw [← text_canonicalNode h, tokensText, List.all_flatMap]
  exact List.all_eq_true.mpr fun token htoken => (tokens_canonicalNode h token htoken).printable

mutual

/-- No map is written with a key twice. -/
def Unrepeated : Node → Prop
  | .null => True
  | .bool _ => True
  | .number _ => True
  | .string _ => True
  | .list items => UnrepeatedItems items
  | .map fields => (fields.map fun field => units field.1).Nodup ∧ UnrepeatedFields fields

def UnrepeatedItems : List Node → Prop
  | [] => True
  | item :: rest => Unrepeated item ∧ UnrepeatedItems rest

def UnrepeatedFields : List (List Piece × Node) → Prop
  | [] => True
  | (_, value) :: rest => Unrepeated value ∧ UnrepeatedFields rest

end

theorem unrepeatedFields_iff {fields : List (List Piece × Node)} :
    UnrepeatedFields fields ↔ ∀ field ∈ fields, Unrepeated field.2 := by
  induction fields with
  | nil => simp [UnrepeatedFields]
  | cons field rest ih => simp [UnrepeatedFields, ih]

mutual

theorem unrepeated_canonicalNode : ∀ {value : Document}, Frozen value → Unrepeated (canonicalNode value)
  | .null, _ => trivial
  | .bool _, _ => trivial
  | .int _, _ => trivial
  | .double _, h => h.elim
  | .string _, _ => trivial
  | .list _, h => unrepeated_canonicalItemNodes h
  | .map fields, h => by
      have hvalues := unrepeated_canonicalFieldNodes h.2.2
      constructor
      · rw [List.map_map]
        have hkeys : ((inOrder (canonicalFieldNodes fields)).map fun field => field.1).Nodup := by
          rw [((inOrder_perm _).map _).nodup_iff, canonicalFieldNodes_eq_map, List.map_map]
          exact h.1
        simpa [Function.comp_def, units_canonicalPieces] using hkeys
      · refine unrepeatedFields_iff.mpr fun field hfield => ?_
        obtain ⟨source, hsource, rfl⟩ := List.mem_map.mp hfield
        exact hvalues source ((inOrder_perm _).mem_iff.mp hsource)

theorem unrepeated_canonicalItemNodes : ∀ {items : List Document}, FrozenItems items →
    UnrepeatedItems (canonicalItemNodes items)
  | [], _ => trivial
  | _ :: _, h => ⟨unrepeated_canonicalNode h.1, unrepeated_canonicalItemNodes h.2⟩

theorem unrepeated_canonicalFieldNodes : ∀ {fields : Fields}, FrozenFields fields →
    ∀ field ∈ canonicalFieldNodes fields, Unrepeated field.2
  | [], _ => by simp [canonicalFieldNodes]
  | (_, _) :: _, h => by
      rw [canonicalFieldNodes]
      rintro field hfield
      rcases List.mem_cons.mp hfield with rfl | hrest
      · exact unrepeated_canonicalNode h.1
      · exact unrepeated_canonicalFieldNodes h.2 field hrest

end

/-! ## What `_freeze` accepts -/

theorem intAbs_le {value : Int} (h : ¬ maximumRevision < intAbs value) :
    -2 ^ 63 ≤ value ∧ value < 2 ^ 63 := by
  have hmaximum : maximumRevision = 9007199254740991 := rfl
  unfold intAbs at h
  split at h <;> omega

mutual

theorem frozen_of_refusal : ∀ {value : Document} {depth : Nat}, DistinctKeys value →
    refusal depth value = none → Frozen value
  | .null, _, _, _ => trivial
  | .bool _, _, _, _ => trivial
  | .int value, depth, _, h => by
      rw [refusal] at h
      split at h
      · cases h
      · split at h
        · cases h
        · rename_i hsmall
          exact intAbs_le hsmall
  | .double _, depth, _, h => by
      rw [refusal] at h
      split at h <;> cases h
  | .string _, _, _, _ => trivial
  | .list items, depth, hdistinct, h => by
      rw [refusal] at h
      split at h
      · cases h
      · exact frozenItems_of_refusal hdistinct h
  | .map fields, depth, hdistinct, h => by
      rw [refusal] at h
      split at h
      · cases h
      · split at h
        · cases h
        · rename_i hnames
          simp only [Bool.not_eq_true, List.any_eq_false, Bool.not_eq_true', Bool.not_eq_false] at hnames
          exact ⟨hdistinct.1, hnames, frozenFields_of_refusal hdistinct.2 h⟩

theorem frozenItems_of_refusal : ∀ {items : List Document} {depth : Nat}, DistinctItems items →
    refusalItems depth items = none → FrozenItems items
  | [], _, _, _ => trivial
  | _ :: _, _, hdistinct, h => by
      rw [refusalItems, Option.orElse_eq_none] at h
      exact ⟨frozen_of_refusal hdistinct.1 h.1, frozenItems_of_refusal hdistinct.2 h.2⟩

theorem frozenFields_of_refusal : ∀ {fields : Fields} {depth : Nat}, DistinctFields fields →
    refusalFields depth fields = none → FrozenFields fields
  | [], _, _, _ => trivial
  | (_, _) :: _, _, hdistinct, h => by
      rw [refusalFields, Option.orElse_eq_none] at h
      exact ⟨frozen_of_refusal hdistinct.1 h.1, frozenFields_of_refusal hdistinct.2 h.2⟩

end

theorem frozen_of_freeze {value frozen : Document} (hdistinct : DistinctKeys value)
    (h : freeze value = .ok frozen) : frozen = value ∧ Frozen value := by
  unfold freeze at h
  split at h
  · rename_i hnone
    cases h
    exact ⟨rfl, frozen_of_refusal hdistinct hnone⟩
  · cases h

/-! ## Exactness -/

/-- How canonical text is read, with what stands after it. -/
def canonicalReading {value : Document} (h : Frozen value) (last : Text)
    (hlast : last.all isSpace = true) : Reading where
  node := canonicalNode value
  spaced := (canonicalNode value).tokens.map fun token => ([], token)
  last := last
  tokens := by
    rw [List.map_map]
    exact List.map_id _
  spaces := by
    intro space hspace
    rw [List.map_map] at hspace
    obtain ⟨token, -, rfl⟩ := List.mem_map.mp hspace
    rfl
  lastSpace := hlast
  valid := fun token htoken => (tokens_canonicalNode h token htoken).isValid

theorem text_canonicalReading {value : Document} (h : Frozen value) (last : Text)
    (hlast : last.all isSpace = true) :
    (canonicalReading h last hlast).text = canonical value ++ last := by
  rw [← text_canonicalNode h]
  exact weave_plain (canonicalNode value).tokens last

/-- What is read from canonical text is the document. -/
theorem jsonDecode_canonical {value : Document} (h : Frozen value) (last : Text)
    (hlast : last.all isSpace = true) : jsonDecode (canonical value ++ last) = some (arranged value) := by
  rw [← text_canonicalReading h last hlast, Reading.jsonDecode_text, ← value_canonicalNode h]
  rfl

theorem arranged_of_canonical {value other : Document} (h : Frozen value) (hother : Frozen other)
    (hsame : canonical value = canonical other) : arranged value = arranged other := by
  have hvalue := jsonDecode_canonical h [] rfl
  rw [hsame, jsonDecode_canonical hother [] rfl] at hvalue
  exact (Option.some.inj hvalue).symm

mutual

/-- Canonical text does not depend on the order of fields. -/
theorem canonical_arranged : ∀ value : Document, canonical (arranged value) = canonical value
  | .null => rfl
  | .bool _ => rfl
  | .int _ => rfl
  | .double _ => rfl
  | .string _ => rfl
  | .list items => by rw [arranged, canonical, canonicalItems_arrangedItems, canonical]
  | .map fields => by
      have hfields : canonicalFields (inOrder (arrangedFields fields)) = inOrder (canonicalFields fields) := by
        rw [← canonicalFields_arrangedFields fields, canonicalFields_eq_map, canonicalFields_eq_map,
          inOrder_map fun key value => fieldText key (canonical value)]
      have hsorted : inOrder (canonicalFields (inOrder (arrangedFields fields))) =
          inOrder (canonicalFields fields) := by rw [hfields, inOrder_inOrder]
      rw [arranged, canonical_map, canonical_map, hsorted]

theorem canonicalItems_arrangedItems : ∀ items : List Document,
    canonicalItems (arrangedItems items) = canonicalItems items
  | [] => rfl
  | item :: rest => by
      rw [arrangedItems, canonicalItems, canonical_arranged item, canonicalItems_arrangedItems rest,
        canonicalItems]

theorem canonicalFields_arrangedFields : ∀ fields : Fields,
    canonicalFields (arrangedFields fields) = canonicalFields fields
  | [] => rfl
  | (key, value) :: rest => by
      rw [arrangedFields, canonicalFields, canonical_arranged value, canonicalFields_arrangedFields rest,
        canonicalFields]

end

theorem canonical_eq_iff {value other : Document} (h : Frozen value) (hother : Frozen other) :
    canonical value = canonical other ↔ arranged value = arranged other := by
  constructor
  · exact arranged_of_canonical h hother
  · intro hsame
    rw [← canonical_arranged value, hsame, canonical_arranged]

/-! ## Equal values -/

end Pokrov.AppShell
