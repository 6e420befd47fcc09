import Pokrov.Dart.Document
import Pokrov.Dart.Encoding

/-!
# Reading of UTF-8

`utf8.decode` without `allowMalformed`: a byte that no character may have where it stands
makes it throw. What `utf8.encode` wrote of a text is read back, unless the text has a
surrogate without its partner.
-/

namespace Dart

/-- A byte that goes on with a character. -/
def isTail (b : UInt8) : Bool := 0x80 ≤ b && b < 0xC0

/-- The code point of bytes, of which the first has had its mark taken away. -/
def codeOf (first : Nat) (tails : List UInt8) : Nat :=
  tails.foldl (fun n b => n * 64 + (b.toNat - 0x80)) first

/-- The units of a code point beyond the first plane. -/
def pairOf (n : Nat) : Text :=
  [UInt16.ofNat (0xD800 + (n - 0x10000) / 1024), UInt16.ofNat (0xDC00 + (n - 0x10000) % 1024)]

def utf8DecodeBytes : List UInt8 → Option Text
  | [] => some []
  | a :: rest =>
    if a < 0x80 then (utf8DecodeBytes rest).map (UInt16.ofNat a.toNat :: ·)
    else if a < 0xE0 then
      match rest with
      | b :: rest =>
        if 0xC2 ≤ a ∧ isTail b = true then
          (utf8DecodeBytes rest).map (UInt16.ofNat (codeOf (a.toNat - 0xC0) [b]) :: ·)
        else none
      | [] => none
    else if a < 0xF0 then
      match rest with
      | b :: c :: rest =>
        let n := codeOf (a.toNat - 0xE0) [b, c]
        if isTail b = true ∧ isTail c = true ∧ 0x800 ≤ n ∧ ¬(0xD800 ≤ n ∧ n < 0xE000) then
          (utf8DecodeBytes rest).map (UInt16.ofNat n :: ·)
        else none
      | _ => none
    else
      match rest with
      | b :: c :: d :: rest =>
        let n := codeOf (a.toNat - 0xF0) [b, c, d]
        if isTail b = true ∧ isTail c = true ∧ isTail d = true ∧ 0x10000 ≤ n ∧ n < 0x110000 then
          (utf8DecodeBytes rest).map (pairOf n ++ ·)
        else none
      | _ => none

/-- `utf8.decode`. A byte order mark is passed over. -/
def utf8Decode : List UInt8 → Option Text
  | 0xEF :: 0xBB :: 0xBF :: rest => utf8DecodeBytes rest
  | bytes => utf8DecodeBytes bytes

/-! ## Texts without lone surrogates -/

/-- Every surrogate has its partner. -/
def isWellFormed : Text → Bool
  | [] => true
  | [u] => !(isHighSurrogate u || isLowSurrogate u)
  | u :: v :: rest =>
    if isHighSurrogate u && isLowSurrogate v then isWellFormed rest
    else !(isHighSurrogate u || isLowSurrogate u) && isWellFormed (v :: rest)

variable {u : UInt16} {n : Nat}

theorem isWellFormed_cons (hhigh : isHighSurrogate u = false) (hlow : isLowSurrogate u = false)
    (rest : Text) : isWellFormed (u :: rest) = isWellFormed rest := by
  cases rest with
  | nil => simp [isWellFormed, hhigh, hlow]
  | cons v rest => simp [isWellFormed, hhigh, hlow]

theorem isWellFormed_append {s t : Text} (hs : isWellFormed s = true) (ht : isWellFormed t = true) :
    isWellFormed (s ++ t) = true := by
  fun_induction isWellFormed s with
  | case1 => exact ht
  | case2 u =>
    simp only [Bool.not_eq_true', Bool.or_eq_false_iff] at hs
    rw [List.cons_append, isWellFormed_cons hs.1 hs.2]
    exact ht
  | case3 u v rest hpair ih => simpa [isWellFormed, hpair] using ih hs
  | case4 u v rest hpair ih =>
    simp only [Bool.and_eq_true, Bool.not_eq_true', Bool.or_eq_false_iff] at hs
    rw [List.cons_append, isWellFormed_cons hs.1.1 hs.1.2]
    exact ih hs.2

/-- ASCII has no surrogates. -/
theorem isWellFormed_ascii {s : Text} (h : s.all (fun u => decide (u < 0x80)) = true) :
    isWellFormed s = true := by
  induction s with
  | nil => rfl
  | cons u rest ih =>
    rw [List.all_cons, Bool.and_eq_true, decide_eq_true_eq] at h
    have hu : u.toNat < 0x80 := UInt16.lt_iff_toNat_lt.mp h.1
    have hhigh : isHighSurrogate u = false := by
      simp only [isHighSurrogate, UInt16.le_iff_toNat_le, UInt16.lt_iff_toNat_lt,
        UInt16.reduceToNat, Bool.and_eq_false_iff, decide_eq_false_iff_not]
      omega
    have hlow : isLowSurrogate u = false := by
      simp only [isLowSurrogate, UInt16.le_iff_toNat_le, UInt16.lt_iff_toNat_lt,
        UInt16.reduceToNat, Bool.and_eq_false_iff, decide_eq_false_iff_not]
      omega
    rw [isWellFormed_cons hhigh hlow]
    exact ih h.2

/-! ## What is written is read back -/

theorem toNat_ofNat_lt (h : n < 256) : (UInt8.ofNat n).toNat = n := by
  rw [UInt8.toNat_ofNat']
  omega

theorem isTail_ofNat (h : n < 64) : isTail (UInt8.ofNat (0x80 + n)) = true := by
  have hnat := toNat_ofNat_lt (n := 0x80 + n) (by omega)
  simp only [isTail, UInt8.le_iff_toNat_le, UInt8.lt_iff_toNat_lt, UInt8.reduceToNat, hnat,
    Bool.and_eq_true, decide_eq_true_eq]
  omega

theorem utf8DecodeBytes_one {a : UInt8} (rest : List UInt8) (h : a.toNat < 0x80) :
    utf8DecodeBytes (a :: rest) = (utf8DecodeBytes rest).map (UInt16.ofNat a.toNat :: ·) := by
  rw [utf8DecodeBytes.eq_def]
  exact if_pos (UInt8.lt_iff_toNat_lt.mpr h)

theorem utf8DecodeBytes_two {a b : UInt8} (rest : List UInt8) (hlow : 0xC2 ≤ a.toNat)
    (hhigh : a.toNat < 0xE0) (hb : isTail b = true) :
    utf8DecodeBytes (a :: b :: rest) =
      (utf8DecodeBytes rest).map (UInt16.ofNat (codeOf (a.toNat - 0xC0) [b]) :: ·) := by
  have hfirst : ¬ a < 0x80 := by
    simp only [UInt8.lt_iff_toNat_lt, UInt8.reduceToNat]
    omega
  have hnext : a < 0xE0 := UInt8.lt_iff_toNat_lt.mpr hhigh
  have hlow : 0xC2 ≤ a := UInt8.le_iff_toNat_le.mpr hlow
  rw [utf8DecodeBytes.eq_def]
  simp [hfirst, hnext, hlow, hb]

theorem utf8DecodeBytes_three {a b d : UInt8} (rest : List UInt8) (hlow : 0xE0 ≤ a.toNat)
    (hhigh : a.toNat < 0xF0) (hb : isTail b = true) (hd : isTail d = true)
    (hn : codeOf (a.toNat - 0xE0) [b, d] = n) (hwide : 0x800 ≤ n)
    (hscalar : ¬(0xD800 ≤ n ∧ n < 0xE000)) : utf8DecodeBytes (a :: b :: d :: rest) =
      (utf8DecodeBytes rest).map (UInt16.ofNat n :: ·) := by
  have hfirst : ¬ a < 0x80 := by
    simp only [UInt8.lt_iff_toNat_lt, UInt8.reduceToNat]
    omega
  have hnext : ¬ a < 0xE0 := by
    simp only [UInt8.lt_iff_toNat_lt, UInt8.reduceToNat]
    omega
  have hlast : a < 0xF0 := UInt8.lt_iff_toNat_lt.mpr hhigh
  rw [utf8DecodeBytes.eq_def]
  simp only [if_neg hfirst, if_neg hnext, if_pos hlast, hn]
  exact if_pos ⟨hb, hd, hwide, hscalar⟩

theorem utf8DecodeBytes_four {a b d e : UInt8} (rest : List UInt8) (hlow : 0xF0 ≤ a.toNat)
    (hb : isTail b = true) (hd : isTail d = true) (he : isTail e = true)
    (hn : codeOf (a.toNat - 0xF0) [b, d, e] = n) (hrange : 0x10000 ≤ n ∧ n < 0x110000) :
    utf8DecodeBytes (a :: b :: d :: e :: rest) = (utf8DecodeBytes rest).map (pairOf n ++ ·) := by
  have hfirst : ¬ a < 0x80 := by
    simp only [UInt8.lt_iff_toNat_lt, UInt8.reduceToNat]
    omega
  have hnext : ¬ a < 0xE0 := by
    simp only [UInt8.lt_iff_toNat_lt, UInt8.reduceToNat]
    omega
  have hlast : ¬ a < 0xF0 := by
    simp only [UInt8.lt_iff_toNat_lt, UInt8.reduceToNat]
    omega
  rw [utf8DecodeBytes.eq_def]
  simp only [if_neg hfirst, if_neg hnext, if_neg hlast, hn]
  exact if_pos ⟨hb, hd, he, hrange⟩

theorem utf8DecodeBytes_unit (hhigh : isHighSurrogate u = false) (hlow : isLowSurrogate u = false)
    (rest : List UInt8) :
    utf8DecodeBytes (utf8Unit u ++ rest) = (utf8DecodeBytes rest).map (u :: ·) := by
  have hlt := u.toNat_lt
  have hself : UInt16.ofNat u.toNat = u := UInt16.ofNat_toNat
  have hscalar : ¬(0xD800 ≤ u.toNat ∧ u.toNat < 0xE000) := by
    simp only [isHighSurrogate, isLowSurrogate, UInt16.le_iff_toNat_le, UInt16.lt_iff_toNat_lt,
      UInt16.reduceToNat, Bool.and_eq_false_iff, decide_eq_false_iff_not] at hhigh hlow
    omega
  unfold utf8Unit
  simp only
  split_ifs with hone htwo
  · have hfirst := toNat_ofNat_lt (n := u.toNat) (by omega)
    rw [List.singleton_append, utf8DecodeBytes_one rest (by omega), hfirst, hself]
  · have hfirst := toNat_ofNat_lt (n := 0xC0 + u.toNat / 64) (by omega)
    have hsecond := toNat_ofNat_lt (n := 0x80 + u.toNat % 64) (by omega)
    have hcode : codeOf (0xC0 + u.toNat / 64 - 0xC0) [UInt8.ofNat (0x80 + u.toNat % 64)] = u.toNat := by
      simp only [codeOf, List.foldl_cons, List.foldl_nil, hsecond]
      omega
    simp only [List.cons_append, List.nil_append]
    rw [utf8DecodeBytes_two rest (by omega) (by omega) (isTail_ofNat (by omega)), hfirst, hcode, hself]
  · have hfirst := toNat_ofNat_lt (n := 0xE0 + u.toNat / 4096) (by omega)
    have hsecond := toNat_ofNat_lt (n := 0x80 + u.toNat / 64 % 64) (by omega)
    have hthird := toNat_ofNat_lt (n := 0x80 + u.toNat % 64) (by omega)
    have hcode : codeOf ((UInt8.ofNat (0xE0 + u.toNat / 4096)).toNat - 0xE0)
        [UInt8.ofNat (0x80 + u.toNat / 64 % 64), UInt8.ofNat (0x80 + u.toNat % 64)] = u.toNat := by
      simp only [codeOf, List.foldl_cons, List.foldl_nil, hfirst, hsecond, hthird]
      omega
    simp only [List.cons_append, List.nil_append]
    rw [utf8DecodeBytes_three rest (by omega) (by omega) (isTail_ofNat (by omega))
      (isTail_ofNat (by omega)) hcode (by omega) hscalar, hself]

theorem utf8DecodeBytes_pair {u v : UInt16} (hu : isHighSurrogate u = true)
    (hv : isLowSurrogate v = true) (rest : List UInt8) :
    utf8DecodeBytes (utf8Pair u v ++ rest) = (utf8DecodeBytes rest).map ([u, v] ++ ·) := by
  simp only [isHighSurrogate, isLowSurrogate, UInt16.le_iff_toNat_le, UInt16.lt_iff_toNat_lt,
    UInt16.reduceToNat, Bool.and_eq_true, decide_eq_true_eq] at hu hv
  obtain ⟨n, hn⟩ : ∃ n, n = 0x10000 + (u.toNat - 0xD800) * 1024 + (v.toNat - 0xDC00) := ⟨_, rfl⟩
  have hrange : 0x10000 ≤ n ∧ n < 0x110000 := by omega
  have hfirst := toNat_ofNat_lt (n := 0xF0 + n / 262144) (by omega)
  have hsecond := toNat_ofNat_lt (n := 0x80 + n / 4096 % 64) (by omega)
  have hthird := toNat_ofNat_lt (n := 0x80 + n / 64 % 64) (by omega)
  have hfourth := toNat_ofNat_lt (n := 0x80 + n % 64) (by omega)
  have hcode : codeOf ((UInt8.ofNat (0xF0 + n / 262144)).toNat - 0xF0)
      [UInt8.ofNat (0x80 + n / 4096 % 64), UInt8.ofNat (0x80 + n / 64 % 64),
        UInt8.ofNat (0x80 + n % 64)] = n := by
    simp only [codeOf, List.foldl_cons, List.foldl_nil, hfirst, hsecond, hthird, hfourth]
    omega
  have hpair : pairOf n = [u, v] := by
    have hu' : 0xD800 + (n - 0x10000) / 1024 = u.toNat := by omega
    have hv' : 0xDC00 + (n - 0x10000) % 1024 = v.toNat := by omega
    rw [pairOf, hu', hv', UInt16.ofNat_toNat, UInt16.ofNat_toNat]
  unfold utf8Pair
  simp only [← hn, List.cons_append, List.nil_append]
  rw [utf8DecodeBytes_four rest (by omega) (isTail_ofNat (by omega)) (isTail_ofNat (by omega))
    (isTail_ofNat (by omega)) hcode hrange, hpair]
  rfl

theorem utf8DecodeBytes_utf8Encode {s : Text} (h : isWellFormed s = true) :
    utf8DecodeBytes (utf8Encode s) = some s := by
  fun_induction utf8Encode s with
  | case1 => rfl
  | case2 u =>
    simp only [isWellFormed, Bool.not_eq_true', Bool.or_eq_false_iff] at h
    rw [← List.append_nil (utf8Unit u), utf8DecodeBytes_unit h.1 h.2]
    rfl
  | case3 u v rest hpair ih =>
    have hu : isHighSurrogate u = true := by simp [isHighSurrogate, hpair.1, hpair.2.1]
    have hv : isLowSurrogate v = true := by simp [isLowSurrogate, hpair.2.2]
    rw [isWellFormed, hu, hv] at h
    rw [utf8DecodeBytes_pair hu hv, ih h]
    rfl
  | case4 u v rest hpair ih =>
    have hsplit : (isHighSurrogate u && isLowSurrogate v) = false := by
      simp only [isHighSurrogate, isLowSurrogate, Bool.and_eq_false_iff, decide_eq_false_iff_not]
      tauto
    rw [isWellFormed, hsplit] at h
    simp only [Bool.false_eq_true, if_false, Bool.and_eq_true, Bool.not_eq_true',
      Bool.or_eq_false_iff] at h
    rw [utf8DecodeBytes_unit h.1.1 h.1.2, ih h.2]
    rfl

/-- A text that does not start with a byte order mark. -/
theorem utf8Decode_utf8Encode {rest : Text} (hu : u < 0x80) (h : isWellFormed (u :: rest) = true) :
    utf8Decode (utf8Encode (u :: rest)) = some (u :: rest) := by
  have hbytes := utf8DecodeBytes_utf8Encode h
  have hnat : u.toNat < 0x80 := UInt16.lt_iff_toNat_lt.mp hu
  rw [utf8Encode_ascii hu] at hbytes ⊢
  have hfirst : UInt8.ofNat u.toNat ≠ 0xEF := by
    intro hsame
    have hmark := congrArg UInt8.toNat hsame
    rw [toNat_ofNat_lt (by omega)] at hmark
    have : (0xEF : UInt8).toNat = 239 := rfl
    omega
  rw [utf8Decode]
  · exact hbytes
  · rintro tail hsame
    exact hfirst (List.cons.inj hsame).1

end Dart
