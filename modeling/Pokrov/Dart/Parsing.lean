import Pokrov.Dart.JsonReading

/-!
# Whitespace and whole numbers

`String.trim`, the `\s` of the patterns of the app and `int.tryParse`.
-/

namespace Dart

open JsonText

/-- The whitespace of a pattern. -/
def isPatternSpace (u : UInt16) : Bool :=
  (9 ≤ u && u ≤ 13) || u = 0x20 || u = 0xA0 || u = 0x1680 || (0x2000 ≤ u && u ≤ 0x200A) ||
    u = 0x2028 || u = 0x2029 || u = 0x202F || u = 0x205F || u = 0x3000 || u = 0xFEFF

/-- The whitespace that `trim` takes off has U+0085 besides. -/
def isWhitespace (u : UInt16) : Bool := isPatternSpace u || u = 0x85

def trim (s : Text) : Text :=
  ((s.dropWhile isWhitespace).reverse.dropWhile isWhitespace).reverse

/-- The sign in front of a number, and what follows it. -/
def splitSign : Text → Bool × Text
  | [] => (false, [])
  | u :: rest =>
    if u = unit '-' then (true, rest) else if u = unit '+' then (false, rest)
    else (false, u :: rest)

/-- The value of an integer of 64 bits that is read from its bits. -/
def wrap64 (n : Int) : Int :=
  if n % 2 ^ 64 < 2 ^ 63 then n % 2 ^ 64 else n % 2 ^ 64 - 2 ^ 64

/-- Hexadecimal digits stand for 64 bits. -/
def readHex (negative : Bool) (digits : Text) : Option Int :=
  if digits ≠ [] ∧ digits.all (fun u => (hexValue u).isSome) then
    let value := digits.foldl (fun n u => n * 16 + (hexValue u).getD 0) 0
    if value < 2 ^ 64 then some (wrap64 (if negative then -value else value)) else none
  else none

def readDecimal (negative : Bool) (digits : Text) : Option Int :=
  if digits ≠ [] ∧ digits.all isDigit then
    let value : Int := if negative then -number digits else number digits
    if -2 ^ 63 ≤ value ∧ value < 2 ^ 63 then some value else none
  else none

/-- `int.tryParse`. -/
def intTryParse (source : Text) : Option Int :=
  let (negative, digits) := splitSign (trim source)
  match digits with
  | zero :: x :: hex =>
    if zero = unit '0' ∧ (x = unit 'x' ∨ x = unit 'X') then readHex negative hex
    else readDecimal negative digits
  | _ => readDecimal negative digits

/-! ## Texts without whitespace -/

theorem trim_of_forall {s : Text} (h : ∀ u ∈ s, isWhitespace u = false) : trim s = s := by
  have hdrop : ∀ {t : Text}, (∀ u ∈ t, isWhitespace u = false) → t.dropWhile isWhitespace = t := by
    intro t ht
    cases t with
    | nil => rfl
    | cons u rest => rw [List.dropWhile_cons_of_neg (by simp [ht u List.mem_cons_self])]
  rw [trim, hdrop h, hdrop fun u hu => h u (List.mem_reverse.mp hu), List.reverse_reverse]

/-- Visible ASCII is no whitespace. -/
theorem isWhitespace_visible {u : UInt16} (hlow : 33 ≤ u.toNat) (hhigh : u.toNat ≤ 126) :
    isWhitespace u = false := by
  simp only [isWhitespace, isPatternSpace, Bool.or_eq_false_iff, Bool.and_eq_false_iff,
    decide_eq_false_iff_not, UInt16.le_iff_toNat_le, ← UInt16.toNat_inj, UInt16.reduceToNat]
  omega

theorem isWhitespace_of_isDigit {u : UInt16} (h : isDigit u = true) : isWhitespace u = false := by
  rw [isDigit_iff] at h
  exact isWhitespace_visible (by omega) (by omega)

theorem isPatternSpace_of_isWhitespace {u : UInt16} (h : isWhitespace u = false) :
    isPatternSpace u = false := by
  rw [isWhitespace, Bool.or_eq_false_iff] at h
  exact h.1

/-- Digits alone are read as the number they stand for, when it fits into 64 bits. -/
theorem intTryParse_digits {s : Text} (hne : s ≠ []) (hdigits : s.all isDigit = true) :
    intTryParse s = if number s < 2 ^ 63 then some (number s : Int) else none := by
  have htrim : trim s = s :=
    trim_of_forall fun u hu => isWhitespace_of_isDigit (List.all_eq_true.mp hdigits u hu)
  have hread : readDecimal false s = if number s < 2 ^ 63 then some (number s : Int) else none := by
    rw [readDecimal, if_pos ⟨hne, hdigits⟩]
    simp only [Bool.false_eq_true, if_false]
    by_cases hsmall : number s < 2 ^ 63
    · rw [if_pos hsmall, if_pos (by omega)]
    · rw [if_neg hsmall, if_neg (by omega)]
  rw [← hread]
  unfold intTryParse
  rw [htrim]
  cases s with
  | nil => rfl
  | cons u rest =>
    rw [List.all_cons, Bool.and_eq_true] at hdigits
    have hminus : u ≠ unit '-' := by
      rintro rfl
      exact absurd hdigits.1 (by decide)
    have hplus : u ≠ unit '+' := by
      rintro rfl
      exact absurd hdigits.1 (by decide)
    rw [splitSign, if_neg hminus, if_neg hplus]
    cases rest with
    | nil => rfl
    | cons v rest =>
      rw [List.all_cons, Bool.and_eq_true] at hdigits
      have hx : v ≠ unit 'x' ∧ v ≠ unit 'X' := by
        constructor
        · rintro rfl
          exact absurd hdigits.2.1 (by decide)
        · rintro rfl
          exact absurd hdigits.2.1 (by decide)
      simp [hx]

theorem intTryParse_decimal {n : Nat} (h : n < 2 ^ 63) :
    intTryParse (decimal n) = some (n : Int) := by
  have hne : decimal n ≠ [] := by
    rw [decimal_eq]
    split <;> simp
  rw [intTryParse_digits hne (all_decimal n), number_decimal, if_pos h]

end Dart
