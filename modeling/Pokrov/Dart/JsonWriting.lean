import Pokrov.Dart.JsonReading
import Pokrov.Dart.Utf8Decoding

/-!
# What is written is read back

`jsonDecode` of what `jsonEncode` wrote is the value, and the text has no surrogate without
its partner, so that it survives UTF-8 as well.
-/

namespace Dart.JsonText

/-! ## Strings -/

theorem hexValue_lowerHexDigit {n : Nat} (h : n < 16) : hexValue (lowerHexDigit n) = some n := by
  have hall : ∀ k < 16, hexValue (lowerHexDigit k) = some k := by decide
  exact hall n h

/-- A unit that is written as its code. -/
def codePiece (u : UInt16) : Piece :=
  .code (lowerHexDigit (u.toNat / 4096)) (lowerHexDigit (u.toNat / 256 % 16))
    (lowerHexDigit (u.toNat / 16 % 16)) (lowerHexDigit (u.toNat % 16))

theorem codePiece_valid (u : UInt16) : (codePiece u).isValid = true ∧ (codePiece u).unit = u := by
  have hlt : u.toNat < 65536 := u.toNat_lt
  have h1 := hexValue_lowerHexDigit (n := u.toNat / 4096) (by omega)
  have h2 := hexValue_lowerHexDigit (n := u.toNat / 256 % 16) (by omega)
  have h3 := hexValue_lowerHexDigit (n := u.toNat / 16 % 16) (by omega)
  have h4 := hexValue_lowerHexDigit (n := u.toNat % 16) (by omega)
  constructor
  · simp [codePiece, Piece.isValid, h1, h2, h3, h4]
  · simp only [codePiece, Piece.unit, List.foldl_cons, List.foldl_nil, h1, h2, h3, h4,
      Option.getD_some]
    have hvalue : (((0 * 16 + u.toNat / 4096) * 16 + u.toNat / 256 % 16) * 16 +
        u.toNat / 16 % 16) * 16 + u.toNat % 16 = u.toNat := by omega
    rw [hvalue, UInt16.ofNat_toNat]

theorem codePiece_text (u : UInt16) : (codePiece u).text = escapeUnit u := rfl

/-- What stands for a unit that is not a surrogate. -/
def unitPiece (u : UInt16) : Piece :=
  if u = unit '"' ∨ u = unit '\\' then .short u
  else if u = 8 then .short (unit 'b')
  else if u = 9 then .short (unit 't')
  else if u = 10 then .short (unit 'n')
  else if u = 12 then .short (unit 'f')
  else if u = 13 then .short (unit 'r')
  else if u < 32 then codePiece u
  else .plain u

theorem unitPiece_valid (u : UInt16) : (unitPiece u).isValid = true ∧ (unitPiece u).unit = u := by
  unfold unitPiece
  split_ifs with hquote hb ht hn hf hr hcode
  · rcases hquote with rfl | rfl <;> exact ⟨by decide, by decide⟩
  · subst hb
    exact ⟨by decide, by decide⟩
  · subst ht
    exact ⟨by decide, by decide⟩
  · subst hn
    exact ⟨by decide, by decide⟩
  · subst hf
    exact ⟨by decide, by decide⟩
  · subst hr
    exact ⟨by decide, by decide⟩
  · exact codePiece_valid u
  · rw [not_or] at hquote
    exact ⟨by simp [Piece.isValid, hquote, UInt16.not_lt.mp hcode], rfl⟩

theorem unitPiece_text (u : UInt16) : (unitPiece u).text = encodeUnit u := by
  unfold unitPiece encodeUnit
  split_ifs <;> rfl

/-- A surrogate that is on its own is written as its code. -/
def encodedPieces : Text → List Piece
  | [] => []
  | [u] => [if isHighSurrogate u || isLowSurrogate u then codePiece u else unitPiece u]
  | u :: v :: rest =>
    if isHighSurrogate u && isLowSurrogate v then .plain u :: .plain v :: encodedPieces rest
    else if isHighSurrogate u || isLowSurrogate u then codePiece u :: encodedPieces (v :: rest)
    else unitPiece u :: encodedPieces (v :: rest)

theorem encodedPieces_text (s : Text) : (encodedPieces s).flatMap Piece.text = encodeUnits s := by
  fun_induction encodeUnits s with
  | case1 => rfl
  | case2 u h => simp [encodedPieces, h, codePiece_text]
  | case3 u h => simp [encodedPieces, h, unitPiece_text]
  | case4 u v rest hpair ih => simp [encodedPieces, hpair, ih, Piece.text]
  | case5 u v rest hpair h ih => simp [encodedPieces, hpair, h, ih, codePiece_text]
  | case6 u v rest hpair h ih => simp [encodedPieces, hpair, h, ih, unitPiece_text]

theorem plain_valid {u : UInt16} (h : 0xD800 ≤ u) : (Piece.plain u).isValid = true := by
  have hlow : (0xD800 : UInt16).toNat ≤ u.toNat := UInt16.le_iff_toNat_le.mp h
  simp only [Piece.isValid, decide_eq_true_eq]
  refine ⟨UInt16.le_iff_toNat_le.mpr (Nat.le_trans (by decide) hlow), ?_, ?_⟩
  · rintro rfl
    exact absurd hlow (by decide)
  · rintro rfl
    exact absurd hlow (by decide)

theorem encodedPieces_valid (s : Text) :
    (encodedPieces s).all Piece.isValid = true ∧ units (encodedPieces s) = s := by
  fun_induction encodedPieces s with
  | case1 => exact ⟨rfl, rfl⟩
  | case2 u =>
    split
    · simp [units, codePiece_valid u]
    · simp [units, unitPiece_valid u]
  | case3 u v rest hpair ih =>
    simp only [isHighSurrogate, isLowSurrogate, Bool.and_eq_true, decide_eq_true_eq] at hpair
    have hu := plain_valid hpair.1.1
    have hv := plain_valid (UInt16.le_trans (by decide) hpair.2.1)
    refine ⟨by simp [hu, hv, ih.1], ?_⟩
    rw [units, List.map_cons, List.map_cons]
    exact congrArg (fun tail => u :: v :: tail) ih.2
  | case4 u v rest hpair h ih =>
    refine ⟨by simp [codePiece_valid u, ih.1], ?_⟩
    rw [units, List.map_cons, (codePiece_valid u).2]
    exact congrArg (u :: ·) ih.2
  | case5 u v rest hpair h ih =>
    refine ⟨by simp [unitPiece_valid u, ih.1], ?_⟩
    rw [units, List.map_cons, (unitPiece_valid u).2]
    exact congrArg (u :: ·) ih.2

/-! ## Documents -/

def tokensText (tokens : List Token) : Text := tokens.flatMap Token.text

theorem tokensText_append (tokens rest : List Token) :
    tokensText (tokens ++ rest) = tokensText tokens ++ tokensText rest := List.flatMap_append

theorem tokensText_cons (token : Token) (rest : List Token) :
    tokensText (token :: rest) = token.text ++ tokensText rest := List.flatMap_cons

theorem weave_plain (tokens : List Token) (last : Text) :
    weave (tokens.map fun token => ([], token)) last = tokensText tokens ++ last := by
  induction tokens with
  | nil => rfl
  | cons token rest ih =>
    rw [List.map_cons, weave, ih, tokensText_cons, List.append_assoc]
    rfl

mutual

/-- A document that has a text: its integers are of 64 bits, its other numbers are not
integers, and its keys are distinct. -/
def Writable : Document → Prop
  | .null => True
  | .bool _ => True
  | .int value => -2 ^ 63 ≤ value ∧ value < 2 ^ 63
  | .double value => (Token.number value).isValid = true ∧ numeral value = .double value
  | .string _ => True
  | .list items => WritableItems items
  | .map fields => (Fields.keys fields).Nodup ∧ WritableFields fields

def WritableItems : List Document → Prop
  | [] => True
  | item :: rest => Writable item ∧ WritableItems rest

def WritableFields : Fields → Prop
  | [] => True
  | (_, value) :: rest => Writable value ∧ WritableFields rest

end

theorem writableItems_iff {items : List Document} :
    WritableItems items ↔ ∀ item ∈ items, Writable item := by
  induction items with
  | nil => simp [WritableItems]
  | cons item rest ih => simp [WritableItems, ih]

theorem writableFields_iff {fields : Fields} :
    WritableFields fields ↔ ∀ field ∈ fields, Writable field.2 := by
  induction fields with
  | nil => simp [WritableFields]
  | cons field rest ih => simp [WritableFields, ih]

mutual

/-- A document as `jsonEncode` writes it. -/
def encodedNode : Document → Node
  | .null => .null
  | .bool value => .bool value
  | .int value => .number (encodeInt value)
  | .double value => .number value
  | .string value => .string (encodedPieces value)
  | .list items => .list (encodedItemNodes items)
  | .map fields => .map (encodedFieldNodes fields)

def encodedItemNodes : List Document → List Node
  | [] => []
  | item :: rest => encodedNode item :: encodedItemNodes rest

def encodedFieldNodes : Fields → List (List Piece × Node)
  | [] => []
  | (key, value) :: rest => (encodedPieces key, encodedNode value) :: encodedFieldNodes rest

end

theorem string_text (s : Text) : (Token.string (encodedPieces s)).text = encodeString s := by
  rw [Token.text, encodedPieces_text, encodeString]

mutual

theorem text_encodedNode : ∀ value : Document,
    tokensText (encodedNode value).tokens = jsonEncode value
  | .null => rfl
  | .bool true => rfl
  | .bool false => rfl
  | .int _ => List.append_nil _
  | .double _ => List.append_nil _
  | .string value => by
      rw [encodedNode, Node.tokens, tokensText_cons, string_text, jsonEncode]
      exact List.append_nil _
  | .list items => by
      rw [encodedNode, Node.tokens, tokensText_cons, tokensText_append, text_encodedItemNodes,
        jsonEncode]
      rfl
  | .map fields => by
      rw [encodedNode, Node.tokens, tokensText_cons, tokensText_append, text_encodedFieldNodes,
        jsonEncode]
      rfl

theorem text_encodedItemNodes : ∀ items : List Document,
    tokensText (itemTokens (encodedItemNodes items)) = encodeItems items
  | [] => rfl
  | [item] => text_encodedNode item
  | item :: next :: rest => by
      rw [encodedItemNodes, encodedItemNodes, itemTokens, tokensText_append, tokensText_cons,
        text_encodedNode item, encodeItems, ← text_encodedItemNodes (next :: rest), encodedItemNodes]
      rfl

theorem text_encodedFieldNodes : ∀ fields : Fields,
    tokensText (fieldTokens (encodedFieldNodes fields)) = encodeFields fields
  | [] => rfl
  | [(key, value)] => by
      rw [encodedFieldNodes, encodedFieldNodes, fieldTokens, tokensText_cons, tokensText_cons,
        string_text, text_encodedNode value, encodeFields]
      rfl
  | (key, value) :: next :: rest => by
      rw [encodedFieldNodes, encodedFieldNodes, fieldTokens, tokensText_cons, tokensText_cons,
        tokensText_append, tokensText_cons, string_text, text_encodedNode value, encodeFields,
        ← text_encodedFieldNodes (next :: rest), encodedFieldNodes]
      rfl

end

mutual

theorem value_encodedNode : ∀ {value : Document}, Writable value →
    (encodedNode value).value = value
  | .null, _ => rfl
  | .bool _, _ => rfl
  | .int _, h => numeral_encodeInt h.1 h.2
  | .double _, h => h.2
  | .string value, _ => congrArg Document.string (encodedPieces_valid value).2
  | .list _, h => congrArg Document.list (values_encodedItemNodes h)
  | .map _, h => congrArg Document.map (values_encodedFieldNodes [] h.1 h.2)

theorem values_encodedItemNodes : ∀ {items : List Document}, WritableItems items →
    itemValues (encodedItemNodes items) = items
  | [], _ => rfl
  | item :: rest, h => by
      rw [encodedItemNodes, itemValues, value_encodedNode h.1, values_encodedItemNodes h.2]

/-- Fields with keys of their own are set one after the other. -/
theorem values_encodedFieldNodes : ∀ {fields : Fields} (before : Fields),
    (Fields.keys before ++ Fields.keys fields).Nodup → WritableFields fields →
      fieldValues before (encodedFieldNodes fields) = before ++ fields
  | [], before, _, _ => (List.append_nil before).symm
  | (key, value) :: rest, before, hkeys, h => by
      have hnew : before.any (fun field => decide (field.1 = key)) = false := by
        rw [List.any_eq_false]
        intro field hfield hkey
        rw [decide_eq_true_eq] at hkey
        exact (List.nodup_append.mp hkeys).2.2 field.1 (List.mem_map_of_mem hfield) key
          List.mem_cons_self hkey
      have hset : setField before key value = before ++ [(key, value)] := by
        rw [setField, hnew]
        rfl
      have hrest : (Fields.keys (before ++ [(key, value)]) ++ Fields.keys rest).Nodup := by
        rw [Fields.keys, List.map_append, List.append_assoc]
        exact hkeys
      rw [encodedFieldNodes, fieldValues, (encodedPieces_valid key).2, value_encodedNode h.1, hset,
        values_encodedFieldNodes _ hrest h.2, List.append_assoc]
      rfl

end

mutual

theorem valid_encodedNode : ∀ {value : Document}, Writable value →
    ∀ token ∈ (encodedNode value).tokens, token.isValid = true
  | .null, _ => by simp [encodedNode, Node.tokens, Token.isValid]
  | .bool _, _ => by simp [encodedNode, Node.tokens, Token.isValid]
  | .int value, _ => by
      simpa [encodedNode, Node.tokens] using isValid_encodeInt value
  | .double value, h => by
      simpa [encodedNode, Node.tokens] using h.1
  | .string value, _ => by
      simpa [encodedNode, Node.tokens, Token.isValid] using (encodedPieces_valid value).1
  | .list items, h => by
      rw [encodedNode, Node.tokens]
      intro token htoken
      rcases List.mem_cons.mp htoken with rfl | htoken
      · rfl
      · rcases List.mem_append.mp htoken with htoken | htoken
        · exact valid_encodedItemNodes h token htoken
        · rw [List.mem_singleton.mp htoken]
          rfl
  | .map fields, h => by
      rw [encodedNode, Node.tokens]
      intro token htoken
      rcases List.mem_cons.mp htoken with rfl | htoken
      · rfl
      · rcases List.mem_append.mp htoken with htoken | htoken
        · exact valid_encodedFieldNodes h.2 token htoken
        · rw [List.mem_singleton.mp htoken]
          rfl

theorem valid_encodedItemNodes : ∀ {items : List Document}, WritableItems items →
    ∀ token ∈ itemTokens (encodedItemNodes items), token.isValid = true
  | [], _ => by simp [encodedItemNodes, itemTokens]
  | [item], h => valid_encodedNode h.1
  | item :: next :: rest, h => by
      rw [encodedItemNodes, encodedItemNodes, itemTokens]
      intro token htoken
      rcases List.mem_append.mp htoken with htoken | htoken
      · exact valid_encodedNode h.1 token htoken
      · rcases List.mem_cons.mp htoken with rfl | htoken
        · rfl
        · exact @valid_encodedItemNodes (next :: rest) h.2 token htoken

theorem valid_encodedFieldNodes : ∀ {fields : Fields}, WritableFields fields →
    ∀ token ∈ fieldTokens (encodedFieldNodes fields), token.isValid = true
  | [], _ => by simp [encodedFieldNodes, fieldTokens]
  | [(key, value)], h => by
      rw [encodedFieldNodes, encodedFieldNodes, fieldTokens]
      simp only [List.mem_cons]
      rintro token (rfl | rfl | htoken)
      · exact (encodedPieces_valid key).1
      · rfl
      · exact valid_encodedNode h.1 token htoken
  | (key, value) :: next :: rest, h => by
      rw [encodedFieldNodes, encodedFieldNodes, fieldTokens]
      simp only [List.mem_cons, List.mem_append]
      rintro token (rfl | rfl | htoken | rfl | htoken)
      · exact (encodedPieces_valid key).1
      · rfl
      · exact valid_encodedNode h.1 token htoken
      · rfl
      · exact @valid_encodedFieldNodes (next :: rest) h.2 token htoken

end

/-- How a text that was written is read. -/
def encodedReading {value : Document} (h : Writable value) : Reading where
  node := encodedNode value
  spaced := (encodedNode value).tokens.map fun token => ([], token)
  last := []
  tokens := by
    rw [List.map_map]
    exact List.map_id _
  spaces := by
    intro space hspace
    rw [List.map_map] at hspace
    obtain ⟨token, -, rfl⟩ := List.mem_map.mp hspace
    rfl
  lastSpace := rfl
  valid := valid_encodedNode h

theorem jsonDecode_jsonEncode {value : Document} (h : Writable value) :
    jsonDecode (jsonEncode value) = some value := by
  have htext : (encodedReading h).text = jsonEncode value := by
    rw [← text_encodedNode]
    exact (weave_plain (encodedNode value).tokens []).trans (List.append_nil _)
  rw [← htext, Reading.jsonDecode_text, encodedReading, value_encodedNode h]

/-! ## UTF-8 -/

/-- A unit of ASCII. -/
def isAscii (u : UInt16) : Bool := u < 0x80

theorem isAscii_of_isNumeralUnit {u : UInt16} (h : isNumeralUnit u = true) : isAscii u = true := by
  simp only [isNumeralUnit, Bool.or_eq_true, decide_eq_true_eq] at h
  rcases h with ((((h | rfl) | rfl) | rfl) | rfl) | rfl
  · rw [isDigit_iff] at h
    simp only [isAscii, decide_eq_true_eq, UInt16.lt_iff_toNat_lt, UInt16.reduceToNat]
    omega
  all_goals decide

theorem isAscii_lowerHexDigit {n : Nat} (h : n < 16) : isAscii (lowerHexDigit n) = true := by
  have hall : ∀ k < 16, isAscii (lowerHexDigit k) = true := by decide
  exact hall n h

theorem isAscii_escapeUnit (u : UInt16) : (escapeUnit u).all isAscii = true := by
  have hlt : u.toNat < 65536 := u.toNat_lt
  have h1 := isAscii_lowerHexDigit (n := u.toNat / 4096) (by omega)
  have h2 := isAscii_lowerHexDigit (n := u.toNat / 256 % 16) (by omega)
  have h3 := isAscii_lowerHexDigit (n := u.toNat / 16 % 16) (by omega)
  have h4 := isAscii_lowerHexDigit (n := u.toNat % 16) (by omega)
  have hmark : (text "\\u").all isAscii = true := by decide
  simp [escapeUnit, hexFour, hmark, h1, h2, h3, h4]

theorem isWellFormed_encodeUnit {u : UInt16} (hhigh : isHighSurrogate u = false)
    (hlow : isLowSurrogate u = false) : isWellFormed (encodeUnit u) = true := by
  unfold encodeUnit
  split_ifs with hquote
  · rcases hquote with rfl | rfl <;> decide
  · decide
  · decide
  · decide
  · decide
  · decide
  · exact isWellFormed_ascii (isAscii_escapeUnit u)
  · simp [isWellFormed, hhigh, hlow]

theorem isWellFormed_encodeUnits (s : Text) : isWellFormed (encodeUnits s) = true := by
  fun_induction encodeUnits s with
  | case1 => rfl
  | case2 u h => exact isWellFormed_ascii (isAscii_escapeUnit u)
  | case3 u h =>
    rw [Bool.or_eq_true, not_or, Bool.not_eq_true, Bool.not_eq_true] at h
    exact isWellFormed_encodeUnit h.1 h.2
  | case4 u v rest hpair ih => simpa [isWellFormed, hpair] using ih
  | case5 u v rest hpair h ih =>
    exact isWellFormed_append (isWellFormed_ascii (isAscii_escapeUnit u)) ih
  | case6 u v rest hpair h ih =>
    rw [Bool.or_eq_true, not_or, Bool.not_eq_true, Bool.not_eq_true] at h
    exact isWellFormed_append (isWellFormed_encodeUnit h.1 h.2) ih

/-- A unit of ASCII and what follows it. -/
theorem isWellFormed_ascii_cons {u : UInt16} (hu : isAscii u = true) {rest : Text}
    (h : isWellFormed rest = true) : isWellFormed (u :: rest) = true :=
  isWellFormed_append (s := [u]) (isWellFormed_ascii (by simpa [isAscii] using hu)) h

theorem isWellFormed_encodeString (s : Text) : isWellFormed (encodeString s) = true :=
  isWellFormed_ascii_cons (by decide)
    (isWellFormed_append (isWellFormed_encodeUnits s) (by decide))

theorem isWellFormed_number {s : Text} (h : (Token.number s).isValid = true) :
    isWellFormed s = true := by
  simp only [Token.isValid, Bool.and_eq_true] at h
  refine isWellFormed_ascii (List.all_eq_true.mpr fun u hu => ?_)
  exact isAscii_of_isNumeralUnit (List.all_eq_true.mp h.2 u hu)

mutual

theorem isWellFormed_jsonEncode : ∀ {value : Document}, Writable value →
    isWellFormed (jsonEncode value) = true
  | .null, _ => by decide
  | .bool true, _ => by decide
  | .bool false, _ => by decide
  | .int value, _ => isWellFormed_number (isValid_encodeInt value)
  | .double _, h => isWellFormed_number h.1
  | .string value, _ => isWellFormed_encodeString value
  | .list _, h => isWellFormed_ascii_cons (by decide)
      (isWellFormed_append (isWellFormed_encodeItems h) (by decide))
  | .map _, h => isWellFormed_ascii_cons (by decide)
      (isWellFormed_append (isWellFormed_encodeFields h.2) (by decide))

theorem isWellFormed_encodeItems : ∀ {items : List Document}, WritableItems items →
    isWellFormed (encodeItems items) = true
  | [], _ => rfl
  | [_], h => isWellFormed_jsonEncode h.1
  | _ :: next :: rest, h => isWellFormed_append (isWellFormed_jsonEncode h.1)
      (isWellFormed_ascii_cons (by decide) (@isWellFormed_encodeItems (next :: rest) h.2))

theorem isWellFormed_encodeFields : ∀ {fields : Fields}, WritableFields fields →
    isWellFormed (encodeFields fields) = true
  | [], _ => rfl
  | [(key, _)], h => isWellFormed_append (isWellFormed_encodeString key)
      (isWellFormed_ascii_cons (by decide) (isWellFormed_jsonEncode h.1))
  | (key, _) :: next :: rest, h => isWellFormed_append (isWellFormed_encodeString key)
      (isWellFormed_ascii_cons (by decide) (isWellFormed_append (isWellFormed_jsonEncode h.1)
        (isWellFormed_ascii_cons (by decide) (@isWellFormed_encodeFields (next :: rest) h.2))))

end

/-- The text of a document starts with ASCII. -/
theorem jsonEncode_cons : ∀ {value : Document}, Writable value →
    ∃ u rest, jsonEncode value = u :: rest ∧ isAscii u = true := by
  intro value h
  have hnumber : ∀ {s : Text}, (Token.number s).isValid = true →
      ∃ u rest, s = u :: rest ∧ isAscii u = true := by
    intro s hs
    obtain ⟨u, rest, rfl, -, hu⟩ := Token.exists_cons hs
    exact ⟨u, rest, rfl, isAscii_of_isNumeralUnit hu⟩
  cases value with
  | null => exact ⟨_, _, rfl, by decide⟩
  | bool value => cases value <;> exact ⟨_, _, rfl, by decide⟩
  | int value => exact hnumber (isValid_encodeInt value)
  | double value => exact hnumber h.1
  | string value => exact ⟨_, _, rfl, by decide⟩
  | list items => exact ⟨_, _, rfl, by decide⟩
  | map fields => exact ⟨_, _, rfl, by decide⟩

theorem utf8Decode_jsonEncode {value : Document} (h : Writable value) :
    utf8Decode (utf8Encode (jsonEncode value)) = some (jsonEncode value) := by
  have hwell := isWellFormed_jsonEncode h
  obtain ⟨u, rest, htext, hu⟩ := jsonEncode_cons h
  rw [htext] at hwell ⊢
  exact utf8Decode_utf8Encode (of_decide_eq_true hu) hwell

end Dart.JsonText
