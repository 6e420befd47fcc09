import Pokrov.AppShell.CatalogContract
import Pokrov.Dart.JsonWriting

/-!
# Canonical strings

A string in canonical text is one piece for each unit: the unit, its short escape
or its code, and each of them the only one that the encoder writes.
-/

namespace Pokrov.AppShell

open Dart JsonText

/-- What stands for a unit. -/
def canonicalPiece (u : UInt16) : Piece :=
  if u = unit '"' ∨ u = unit '\\' then .short u
  else if u = 8 then .short (unit 'b')
  else if u = 9 then .short (unit 't')
  else if u = 10 then .short (unit 'n')
  else if u = 12 then .short (unit 'f')
  else if u = 13 then .short (unit 'r')
  else if u < 32 ∨ 0x7f ≤ u then
    .code (lowerHexDigit (u.toNat / 4096)) (lowerHexDigit (u.toNat / 256 % 16))
      (lowerHexDigit (u.toNat / 16 % 16)) (lowerHexDigit (u.toNat % 16))
  else .plain u

variable (s : Text) (u : UInt16)

theorem canonicalPiece_valid : (canonicalPiece u).isValid = true ∧ (canonicalPiece u).unit = u := by
  unfold canonicalPiece
  split_ifs with hquote hb ht hn hf hr hcode
  · rcases hquote with rfl | rfl <;> exact ⟨by decide, by decide⟩
  · subst hb
    exact ⟨by decide, by decide⟩
  · subst ht
    exact ⟨by decide, by decide⟩
  · subst hn
    exact ⟨by decide, by decide⟩
  · subst hf
    exact ⟨by decide, by decide⟩
  · subst hr
    exact ⟨by decide, by decide⟩
  · exact codePiece_valid u
  · rw [not_or] at hquote hcode
    exact ⟨by simp [Piece.isValid, hquote, UInt16.not_lt.mp hcode.1], rfl⟩

theorem units_canonicalPieces : units (s.map canonicalPiece) = s := by
  rw [units, List.map_map]
  have hid : Piece.unit ∘ canonicalPiece = id := funext fun u => (canonicalPiece_valid u).2
  rw [hid, List.map_id]

theorem canonicalPieces_valid : (s.map canonicalPiece).all Piece.isValid = true := by
  rw [List.all_map]
  exact List.all_eq_true.mpr fun u _ => (canonicalPiece_valid u).1

/-- Printable ASCII. -/
def isPrintable (u : UInt16) : Bool := 0x20 ≤ u && u < 0x7f

theorem escapeAll_printable {s : Text} (h : s.all isPrintable = true) : escapeAll s = s := by
  induction s with
  | nil => rfl
  | cons u rest ih =>
    rw [List.all_cons, Bool.and_eq_true, isPrintable, Bool.and_eq_true, decide_eq_true_eq,
      decide_eq_true_eq] at h
    rw [escapeAll, List.flatMap_cons, if_neg (UInt16.not_le.mpr h.1.2)]
    exact congrArg (u :: ·) (ih h.2)

theorem isPrintable_of_isNumeralUnit {u : UInt16} (h : isNumeralUnit u = true) : isPrintable u = true := by
  simp only [isNumeralUnit, Bool.or_eq_true, decide_eq_true_eq] at h
  rcases h with ((((h | rfl) | rfl) | rfl) | rfl) | rfl
  · rw [isDigit_iff] at h
    simp only [isPrintable, Bool.and_eq_true, decide_eq_true_eq, UInt16.le_iff_toNat_le,
      UInt16.lt_iff_toNat_lt, UInt16.reduceToNat]
    omega
  all_goals decide

theorem encodeInt_printable (n : Int) : (encodeInt n).all isPrintable = true := by
  have hvalid := isValid_encodeInt n
  simp only [Token.isValid, Bool.and_eq_true] at hvalid
  refine List.all_eq_true.mpr fun u hu => ?_
  exact isPrintable_of_isNumeralUnit (List.all_eq_true.mp hvalid.2 u hu)

theorem lowerHexDigit_printable {n : Nat} (h : n < 16) : isPrintable (lowerHexDigit n) = true := by
  have hall : ∀ k < 16, isPrintable (lowerHexDigit k) = true := by decide
  exact hall n h

theorem escapeUnit_printable : (escapeUnit u).all isPrintable = true := by
  have hlt : u.toNat < 65536 := u.toNat_lt
  have h1 := lowerHexDigit_printable (n := u.toNat / 4096) (by omega)
  have h2 := lowerHexDigit_printable (n := u.toNat / 256 % 16) (by omega)
  have h3 := lowerHexDigit_printable (n := u.toNat / 16 % 16) (by omega)
  have h4 := lowerHexDigit_printable (n := u.toNat % 16) (by omega)
  rw [escapeUnit, List.all_append]
  simp only [hexFour, List.all_cons, h1, h2, h3, h4, List.all_nil, Bool.and_true]
  decide

theorem canonicalPiece_printable : (canonicalPiece u).text.all isPrintable = true := by
  unfold canonicalPiece
  split_ifs with hquote hb ht hn hf hr hcode
  · rcases hquote with rfl | rfl <;> decide
  · decide
  · decide
  · decide
  · decide
  · decide
  · exact escapeUnit_printable u
  · rw [not_or] at hcode
    simp [Piece.text, isPrintable, UInt16.not_lt.mp hcode.1, UInt16.not_le.mp hcode.2]

theorem escapeAll_append (s t : Text) : escapeAll (s ++ t) = escapeAll s ++ escapeAll t :=
  List.flatMap_append

/-- A unit is written as it stands, escaped where it is not ASCII. -/
theorem escapeAll_encodeUnit : escapeAll (encodeUnit u) = (canonicalPiece u).text := by
  have hprintable : escapeAll (escapeUnit u) = escapeUnit u := escapeAll_printable (escapeUnit_printable u)
  unfold encodeUnit canonicalPiece
  split_ifs with hquote hb ht hn hf hr hlow hcode hcode
  · exact escapeAll_printable (by rcases hquote with rfl | rfl <;> decide)
  · decide
  · decide
  · decide
  · decide
  · decide
  · exact hprintable
  · exact absurd (Or.inl hlow) hcode
  · have hhigh : 0x7f ≤ u := hcode.resolve_left hlow
    rw [escapeAll, List.flatMap_cons, List.flatMap_nil, List.append_nil, if_pos hhigh]
    rfl
  · rw [not_or] at hcode
    rw [escapeAll, List.flatMap_cons, List.flatMap_nil, List.append_nil, if_neg hcode.2]
    rfl

/-- A unit above ASCII is escaped, whatever stands next to it. -/
theorem canonicalPiece_high {u : UInt16} (h : 0x7f ≤ u) : (canonicalPiece u).text = escapeUnit u := by
  have hother : ∀ v : UInt16, v < 0x7f → u ≠ v := by
    rintro v hv rfl
    exact absurd hv (UInt16.not_lt.mpr h)
  unfold canonicalPiece
  rw [if_neg (not_or.mpr ⟨hother _ (by decide), hother _ (by decide)⟩), if_neg (hother _ (by decide)),
    if_neg (hother _ (by decide)), if_neg (hother _ (by decide)), if_neg (hother _ (by decide)),
    if_neg (hother _ (by decide)), if_pos (.inr h)]
  rfl

theorem high_of_surrogate {u : UInt16} (h : (isHighSurrogate u || isLowSurrogate u) = true) :
    0x7f ≤ u := by
  simp only [isHighSurrogate, isLowSurrogate, Bool.or_eq_true, Bool.and_eq_true, decide_eq_true_eq,
    UInt16.le_iff_toNat_le, UInt16.lt_iff_toNat_lt, UInt16.reduceToNat] at h ⊢
  omega

theorem escapeAll_encodeUnits :
    escapeAll (encodeUnits s) = s.flatMap fun u => (canonicalPiece u).text := by
  have hescaped : ∀ {u : UInt16}, (isHighSurrogate u || isLowSurrogate u) = true →
      escapeAll (escapeUnit u) = (canonicalPiece u).text := by
    intro u h
    rw [escapeAll_printable (escapeUnit_printable u), canonicalPiece_high (high_of_surrogate h)]
  have hraw : ∀ {u : UInt16}, (isHighSurrogate u || isLowSurrogate u) = true →
      escapeAll [u] = (canonicalPiece u).text := by
    intro u h
    have hhigh := high_of_surrogate h
    rw [escapeAll, List.flatMap_cons, List.flatMap_nil, List.append_nil, if_pos hhigh,
      canonicalPiece_high hhigh]
  fun_induction encodeUnits s with
  | case1 => rfl
  | case2 u h => rw [hescaped h, List.flatMap_cons, List.flatMap_nil, List.append_nil]
  | case3 u h => rw [escapeAll_encodeUnit, List.flatMap_cons, List.flatMap_nil, List.append_nil]
  | case4 u v rest h ih =>
    rw [Bool.and_eq_true] at h
    have hu := hraw (u := u) (by rw [h.1]; rfl)
    have hv := hraw (u := v) (by rw [h.2, Bool.or_true])
    rw [← List.singleton_append (x := u), ← List.singleton_append (x := v), escapeAll_append,
      escapeAll_append, hu, hv, ih]
    rfl
  | case5 u v rest h1 h2 ih => rw [escapeAll_append, hescaped h2, ih]; rfl
  | case6 u v rest h1 h2 ih => rw [escapeAll_append, escapeAll_encodeUnit, ih]; rfl

theorem canonical_string :
    escapeAll (encodeString s) = (Token.string (s.map canonicalPiece)).text := by
  have hquote : escapeAll [unit '"'] = [unit '"'] := by decide
  rw [encodeString, ← List.singleton_append, escapeAll_append, escapeAll_append, hquote,
    escapeAll_encodeUnits, Token.text, List.flatMap_map]
  rfl

end Pokrov.AppShell
