import Pokrov.Dart.Text
import Pokrov.Lib.Base64

/-!
# UTF-8 and base64

`utf8.encode` of a text, and `base64Url.encode` without its padding.
-/

namespace Dart

/-- A unit on its own. A surrogate is written as U+FFFD. -/
def utf8Unit (u : UInt16) : List UInt8 :=
  let n := u.toNat
  if n < 0x80 then [UInt8.ofNat n]
  else if n < 0x800 then [UInt8.ofNat (0xC0 + n / 64), UInt8.ofNat (0x80 + n % 64)]
  else if 0xD800 ≤ n ∧ n < 0xE000 then [0xEF, 0xBF, 0xBD]
  else [UInt8.ofNat (0xE0 + n / 4096), UInt8.ofNat (0x80 + n / 64 % 64), UInt8.ofNat (0x80 + n % 64)]

/-- Two units that are one character. -/
def utf8Pair (u v : UInt16) : List UInt8 :=
  let n := 0x10000 + (u.toNat - 0xD800) * 1024 + (v.toNat - 0xDC00)
  [UInt8.ofNat (0xF0 + n / 262144), UInt8.ofNat (0x80 + n / 4096 % 64),
    UInt8.ofNat (0x80 + n / 64 % 64), UInt8.ofNat (0x80 + n % 64)]

/-- `utf8.encode`. -/
def utf8Encode : Text → List UInt8
  | [] => []
  | [u] => utf8Unit u
  | u :: v :: rest =>
    if 0xD800 ≤ u ∧ u < 0xDC00 ∧ 0xDC00 ≤ v ∧ v < 0xE000 then utf8Pair u v ++ utf8Encode rest
    else utf8Unit u ++ utf8Encode (v :: rest)

theorem utf8Encode_ascii {u : UInt16} (h : u < 0x80) (rest : Text) :
    utf8Encode (u :: rest) = UInt8.ofNat u.toNat :: utf8Encode rest := by
  have hlow : u.toNat < 0x80 := UInt16.lt_iff_toNat_lt.mp h
  have hunit : utf8Unit u = [UInt8.ofNat u.toNat] := by simp [utf8Unit, hlow]
  cases rest with
  | nil => simp [utf8Encode, hunit]
  | cons v rest =>
    have hsurrogate : ¬ (0xD800 ≤ u ∧ u < 0xDC00 ∧ 0xDC00 ≤ v ∧ v < 0xE000) := by
      simp only [UInt16.le_iff_toNat_le, UInt16.lt_iff_toNat_lt, UInt16.reduceToNat]
      omega
    rw [utf8Encode, if_neg hsurrogate, hunit]
    rfl

theorem length_utf8Encode_le (s : Text) : (utf8Encode s).length ≤ 3 * s.length := by
  have hunit : ∀ u, (utf8Unit u).length ≤ 3 := by
    intro u
    unfold utf8Unit
    simp only
    split_ifs <;> simp
  fun_induction utf8Encode s with
  | case1 => exact Nat.le_refl 0
  | case2 u => exact hunit u
  | case3 u v rest hpair ih =>
    simp only [List.length_append, utf8Pair, List.length_cons, List.length_nil]
    omega
  | case4 u v rest hpair ih =>
    have hu := hunit u
    simp only [List.length_append, List.length_cons] at ih ⊢
    omega

/-- `base64Url` writes `-` and `_` where base64 writes `+` and `/`. -/
def urlUnit (c : UInt8) : UInt16 :=
  if c = '+'.toUInt8 then unit '-' else if c = '/'.toUInt8 then unit '_' else c.toUInt16

/-- `base64Url.encode`. -/
def base64UrlEncode (bytes : List UInt8) : Text := (Base64.encode bytes).map urlUnit

/-- `base64Url.encode(bytes).replaceAll('=', '')`. -/
def base64UrlBare (bytes : List UInt8) : Text :=
  (base64UrlEncode bytes).filter (· ≠ unit '=')

/-- The other way round. -/
def plainUnit (u : UInt16) : UInt8 :=
  if u = unit '-' then '+'.toUInt8 else if u = unit '_' then '/'.toUInt8 else u.toUInt8

theorem plainUnit_urlUnit {n : Nat} (h : n < 64) :
    plainUnit (urlUnit (Base64.digit n)) = Base64.digit n := by
  have hall : ∀ k < 64, plainUnit (urlUnit (Base64.digit k)) = Base64.digit k := by decide
  exact hall n h

theorem urlUnit_eq_pad {c : UInt8} : urlUnit c = unit '=' ↔ c = Base64.pad := by
  unfold urlUnit
  split_ifs with hplus hslash
  · subst hplus
    decide
  · subst hslash
    decide
  · rw [← UInt16.toNat_inj, ← UInt8.toNat_inj, UInt8.toNat_toUInt16]
    rfl

theorem base64UrlBare_eq (bytes : List UInt8) :
    base64UrlBare bytes = (Base64.encodeBare bytes).map urlUnit := by
  rw [base64UrlBare, base64UrlEncode, List.filter_map, ← Base64.filter_encode]
  refine congrArg (List.map urlUnit) (List.filter_congr fun c _ => ?_)
  simp [urlUnit_eq_pad]

theorem base64UrlBare_inj {s t : List UInt8} : base64UrlBare s = base64UrlBare t ↔ s = t := by
  have hback : ∀ bytes, (base64UrlBare bytes).map plainUnit = Base64.encodeBare bytes := by
    intro bytes
    rw [base64UrlBare_eq, List.map_map]
    refine (List.map_congr_left fun c hc => ?_).trans (List.map_id _)
    obtain ⟨n, hn, rfl⟩ := Base64.exists_digit_of_mem hc
    exact plainUnit_urlUnit hn
  constructor
  · intro h
    apply Base64.encodeBare_inj
    rw [← hback s, h, hback t]
  · exact fun h => by rw [h]

/-- Characters at the start stand for bytes at the start. -/
theorem take_base64UrlBare (k : Nat) (bytes : List UInt8) :
    (base64UrlBare bytes).take (4 * k) = base64UrlBare (bytes.take (3 * k)) := by
  rw [base64UrlBare_eq, base64UrlBare_eq, ← List.map_take, Base64.take_encodeBare]

end Dart
