import Pokrov.AppShell.CanonicalJson
import Pokrov.Lib.PythonJson

/-!
# Canonical text is that of Python

The publisher signs what Python writes of the same value.
-/

namespace Pokrov.AppShell

open Dart JsonText

/-- The code points of a text. -/
def codePoints : Text → Python.Str
  | [] => []
  | [u] => [u.toNat]
  | u :: v :: rest =>
    if isHighSurrogate u && isLowSurrogate v then
      (0x10000 + (u.toNat - 0xD800) * 0x400 + (v.toNat - 0xDC00)) :: codePoints rest
    else u.toNat :: codePoints (v :: rest)

mutual

/-- The value of a document in Python. -/
def toPython : Document → Python.Value
  | .null => .none
  | .bool value => .bool value
  | .int value => .int value
  | .double value => .float (value.map fun u => Char.ofNat u.toNat)
  | .string value => .str (codePoints value)
  | .list items => .list (toPythonItems items)
  | .map fields => .dict (toPythonFields fields)

def toPythonItems : List Document → List Python.Value
  | [] => []
  | item :: rest => toPython item :: toPythonItems rest

def toPythonFields : Fields → List (Python.Str × Python.Value)
  | [] => []
  | (key, value) :: rest => (codePoints key, toPython value) :: toPythonFields rest

end

/-! ## Strings -/

theorem map_escape {n : Nat} (h : n < 0x10000) : (Python.escape n).map unit = escapeUnit (UInt16.ofNat n) := by
  have hdigit : ∀ k < 16, unit (Nat.digitChar k) = lowerHexDigit k := by decide
  have hnat : (UInt16.ofNat n).toNat = n := UInt16.toNat_ofNat_of_lt' h
  rw [Python.escape, escapeUnit, hexFour, hnat]
  simp only [List.map_cons, List.map_nil]
  rw [hdigit _ (by omega), hdigit _ (by omega), hdigit _ (by omega), hdigit _ (by omega)]
  rfl

theorem map_encodeChar (u : UInt16) : (Python.encodeChar u.toNat).map unit = (canonicalPiece u).text := by
  by_cases hspecial : u ∈ [unit '\\', unit '"', 8, 12, 10, 13, 9]
  · simp only [List.mem_cons, List.not_mem_nil, or_false] at hspecial
    rcases hspecial with rfl | rfl | rfl | rfl | rfl | rfl | rfl <;> decide
  · simp only [List.mem_cons, List.not_mem_nil, or_false, not_or] at hspecial
    obtain ⟨hbackslash, hquote, hb, hf, hn, hr, ht⟩ := hspecial
    have hne : ∀ (v : UInt16) (n : Nat), v.toNat = n → u ≠ v → ¬ u.toNat = n := by
      rintro v n rfl h hsame
      exact h (UInt16.toNat_inj.mp hsame)
    have hlt : u.toNat < 65536 := u.toNat_lt
    unfold Python.encodeChar canonicalPiece
    rw [if_neg (hne _ 0x5c rfl hbackslash), if_neg (hne _ 0x22 rfl hquote), if_neg (hne _ 8 rfl hb),
      if_neg (hne _ 12 rfl hf), if_neg (hne _ 10 rfl hn), if_neg (hne _ 13 rfl hr),
      if_neg (hne _ 9 rfl ht), if_neg (not_or.mpr ⟨hquote, hbackslash⟩), if_neg hb, if_neg ht,
      if_neg hn, if_neg hf, if_neg hr]
    have hrange : (u < 32 ∨ 0x7f ≤ u) ↔ ¬ (0x20 ≤ u.toNat ∧ u.toNat ≤ 0x7e) := by
      rw [UInt16.lt_iff_toNat_lt, UInt16.le_iff_toNat_le]
      simp only [UInt16.reduceToNat]
      omega
    by_cases hplain : 0x20 ≤ u.toNat ∧ u.toNat ≤ 0x7e
    · rw [if_pos hplain, if_neg (fun h => hrange.mp h hplain), List.map_singleton, Piece.text]
      have hchar : (Char.ofNat u.toNat).toNat = u.toNat := by
        have hvalid : u.toNat.isValidChar := .inl (by omega)
        rw [Char.ofNat, dif_pos hvalid]
        rfl
      rw [unit, hchar, UInt16.ofNat_toNat]
    · rw [if_neg hplain, if_pos (hrange.mpr hplain), if_pos hlt, map_escape hlt, UInt16.ofNat_toNat]
      rfl

theorem surrogates_toNat {u v : UInt16} (h : (isHighSurrogate u && isLowSurrogate v) = true) :
    0xD800 ≤ u.toNat ∧ u.toNat < 0xDC00 ∧ 0xDC00 ≤ v.toNat ∧ v.toNat < 0xE000 := by
  simp only [isHighSurrogate, isLowSurrogate, Bool.and_eq_true, decide_eq_true_eq,
    UInt16.le_iff_toNat_le, UInt16.lt_iff_toNat_lt, UInt16.reduceToNat] at h
  omega

theorem map_encodeChars (s : Text) :
    ((codePoints s).flatMap Python.encodeChar).map unit = s.flatMap fun u => (canonicalPiece u).text := by
  fun_induction codePoints s with
  | case1 => rfl
  | case2 u => rw [List.flatMap_singleton, map_encodeChar, List.flatMap_singleton]
  | case3 u v rest h ih =>
    obtain ⟨hlow, hhigh, hlow', hhigh'⟩ := surrogates_toNat h
    have hpair : (Python.encodeChar
        (0x10000 + (u.toNat - 0xD800) * 0x400 + (v.toNat - 0xDC00))).map unit =
        (canonicalPiece u).text ++ (canonicalPiece v).text := by
      have hu : 0xd800 + (0x10000 + (u.toNat - 0xD800) * 0x400 + (v.toNat - 0xDC00) - 0x10000) /
          0x400 % 0x400 = u.toNat := by omega
      have hv : 0xdc00 + (0x10000 + (u.toNat - 0xD800) * 0x400 + (v.toNat - 0xDC00) - 0x10000) %
          0x400 = v.toNat := by omega
      rw [Python.encodeChar, if_neg (by omega), if_neg (by omega), if_neg (by omega), if_neg (by omega),
        if_neg (by omega), if_neg (by omega), if_neg (by omega), if_neg (by omega), if_neg (by omega),
        hu, hv, List.map_append, map_escape (by omega), map_escape (by omega), UInt16.ofNat_toNat,
        UInt16.ofNat_toNat]
      rw [canonicalPiece_high (UInt16.le_iff_toNat_le.mpr (Nat.le_trans (by decide) hlow)),
        canonicalPiece_high (UInt16.le_iff_toNat_le.mpr (Nat.le_trans (by decide) hlow'))]
    rw [List.flatMap_cons, List.map_append, hpair, ih, List.flatMap_cons, List.flatMap_cons,
      List.append_assoc]
  | case4 u v rest h ih =>
    rw [List.flatMap_cons, List.map_append, map_encodeChar, ih]
    rfl

theorem map_encodeStr (s : Text) :
    (Python.encodeStr (codePoints s)).map unit = escapeAll (encodeString s) := by
  rw [canonical_string, Python.encodeStr, List.map_cons, List.map_append, map_encodeChars, Token.text,
    List.flatMap_map]
  rfl

/-! ## Keys -/

theorem codePoints_ascii {s : Text} (h : ∀ u ∈ s, u < 0x80) : codePoints s = s.map UInt16.toNat := by
  fun_induction codePoints s with
  | case1 => rfl
  | case2 u => rfl
  | case3 u v rest hpair ih =>
    have hu := UInt16.lt_iff_toNat_lt.mp (h u List.mem_cons_self)
    obtain ⟨hlow, -⟩ := surrogates_toNat hpair
    simp only [UInt16.reduceToNat] at hu
    omega
  | case4 u v rest hpair ih =>
    rw [ih fun w hw => h w (List.mem_cons_of_mem _ hw)]
    rfl

theorem le_toNat (s t : Text) : Python.Str.le (s.map UInt16.toNat) (t.map UInt16.toNat) = true ↔ s ≤ t := by
  induction s generalizing t with
  | nil => simp [Python.Str.le]
  | cons u s ih =>
    cases t with
    | nil => simp [Python.Str.le]
    | cons v t =>
      rw [List.map_cons, List.map_cons, Python.Str.le, List.cons_le_cons_iff, Bool.or_eq_true,
        Bool.and_eq_true, decide_eq_true_eq, decide_eq_true_eq, ih, UInt16.lt_iff_toNat_lt,
        UInt16.toNat_inj]

theorem ascii_of_isFieldName {key : Text} (h : isFieldName key = true) : ∀ u ∈ key, u < 0x80 := by
  rw [isFieldName, Bool.and_eq_true] at h
  intro u hu
  have hname := List.all_eq_true.mp h.2 u hu
  rw [UInt16.lt_iff_toNat_lt]
  simp only [isLower, isDigit, between, Bool.or_eq_true, Bool.and_eq_true, decide_eq_true_eq,
    UInt16.le_iff_toNat_le] at hname
  have hz : (unit 'z').toNat = 122 := rfl
  have hnine : (unit '9').toNat = 57 := rfl
  rcases hname with (hlower | hdigit) | rfl
  · simp only [UInt16.reduceToNat]
    omega
  · simp only [UInt16.reduceToNat]
    omega
  · decide

/-! ## Values -/

theorem map_joinCommas (pieces : List (List Char)) :
    (Python.joinCommas pieces).map unit = joinCommas (pieces.map (List.map unit)) := by
  induction pieces with
  | nil => rfl
  | cons piece rest ih =>
    cases rest with
    | nil => simp [Python.joinCommas, joinCommas]
    | cons next rest =>
      simp only [Python.joinCommas, joinCommas, List.map_cons] at ih ⊢
      rw [List.intercalate_cons_cons, List.intercalate_cons_cons, List.map_append, List.map_append, ih]
      rfl

theorem map_toString (n : Int) : (toString n).toList.map unit = encodeInt n := by
  cases n with
  | ofNat n => rfl
  | negSucc n =>
    have hneg : Int.negSucc n < 0 := Int.negSucc_lt_zero n
    rw [encodeInt, if_pos hneg]
    have htext : toString (Int.negSucc n) = "-" ++ toString (n + 1) := rfl
    rw [htext, String.toList_append, List.map_append]
    rfl

theorem dumpsFields_inOrder {fields : List (Text × List Char)}
    (h : ∀ field ∈ fields, isFieldName field.1 = true) :
    (inOrder fields).map (fun field => (codePoints field.1, field.2)) =
      (fields.map fun field => (codePoints field.1, field.2)).insertionSort
        fun a b => Python.Str.le a.1 b.1 = true := by
  refine List.map_insertionSort _ _ _ _ fun a ha b hb => ?_
  rw [codePoints_ascii (ascii_of_isFieldName (h a ha)), codePoints_ascii (ascii_of_isFieldName (h b hb)),
    le_toNat]

/-- The items of a dictionary, with the keys of the document. -/
def pythonFields : Fields → List (Text × List Char)
  | [] => []
  | (key, value) :: rest =>
    (key, Python.encodeStr (codePoints key) ++ ':' :: Python.dumps (toPython value)) :: pythonFields rest

theorem dumpsFields_toPython (fields : Fields) : Python.dumpsFields (toPythonFields fields) =
    (pythonFields fields).map fun field => (codePoints field.1, field.2) := by
  induction fields with
  | nil => rfl
  | cons field rest ih => rw [toPythonFields, Python.dumpsFields, ih]; rfl

theorem keys_pythonFields (fields : Fields) : (pythonFields fields).map Prod.fst = Fields.keys fields := by
  induction fields with
  | nil => rfl
  | cons field rest ih => rw [pythonFields, List.map_cons, ih]; rfl

mutual

/-- Canonical text is what Python writes. -/
theorem dumps_toPython : ∀ {value : Document}, Frozen value →
    (Python.dumps (toPython value)).map unit = canonical value
  | .null, _ => rfl
  | .bool true, _ => rfl
  | .bool false, _ => rfl
  | .int value, _ => by
      rw [toPython, Python.dumps, map_toString, canonical, jsonEncode,
        escapeAll_printable (encodeInt_printable value)]
  | .double _, h => h.elim
  | .string value, _ => map_encodeStr value
  | .list items, h => by
      rw [toPython, Python.dumps, List.map_cons, List.map_append, map_joinCommas, dumpsItems_toPython h,
        canonical]
      rfl
  | .map fields, h => by
      have hnames : ∀ field ∈ pythonFields fields, isFieldName field.1 = true := by
        intro field hfield
        apply h.2.1
        rw [← keys_pythonFields]
        exact List.mem_map_of_mem hfield
      have htexts : (inOrder (canonicalFields fields)).map Prod.snd =
          (inOrder (pythonFields fields)).map fun field => field.2.map unit := by
        rw [← map_pythonFields h.2.2, ← inOrder_map fun _ (field : List Char) => field.map unit, List.map_map]
        rfl
      rw [toPython, Python.dumps, List.map_cons, List.map_append, map_joinCommas, dumpsFields_toPython,
        ← dumpsFields_inOrder hnames, List.map_map, List.map_map, canonical_map, htexts]
      rfl

theorem dumpsItems_toPython : ∀ {items : List Document}, FrozenItems items →
    (Python.dumpsItems (toPythonItems items)).map (List.map unit) = canonicalItems items
  | [], _ => rfl
  | item :: rest, h => by
      rw [toPythonItems, Python.dumpsItems, List.map_cons, dumps_toPython h.1, dumpsItems_toPython h.2,
        canonicalItems]

theorem map_pythonFields : ∀ {fields : Fields}, FrozenFields fields →
    (pythonFields fields).map (fun field => (field.1, field.2.map unit)) = canonicalFields fields
  | [], _ => rfl
  | (key, value) :: rest, h => by
      rw [pythonFields, List.map_cons, map_pythonFields h.2, List.map_append, List.map_cons, map_encodeStr,
        dumps_toPython h.1, canonicalFields]

end

end Pokrov.AppShell
