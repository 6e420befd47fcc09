import Mathlib.Algebra.Order.Ring.Nat
import Mathlib.Data.List.TakeDrop

/-!
# Dart strings

A string is a list of UTF-16 code units. Decimal numbers of a fixed width, and
the classes of units that the patterns of the app are made of.
-/

namespace Dart

/-- UTF-16 code units. -/
abbrev Text := List UInt16

instance : LawfulBEq Text := inferInstance

/-- The units of an ASCII literal. -/
def text (s : String) : Text := s.toList.map fun c => UInt16.ofNat c.toNat

def unit (c : Char) : UInt16 := UInt16.ofNat c.toNat

def between (low high : Char) (u : UInt16) : Bool := unit low ≤ u && u ≤ unit high

def isDigit (u : UInt16) : Bool := between '0' '9' u

def isLower (u : UInt16) : Bool := between 'a' 'z' u

def isUpper (u : UInt16) : Bool := between 'A' 'Z' u

def isLowerHex (u : UInt16) : Bool := isDigit u || between 'a' 'f' u

/-- `split`: the pieces of a text between a separator. -/
def pieces (separator : UInt16) : Text → List Text
  | [] => [[]]
  | u :: rest =>
    if u = separator then [] :: pieces separator rest
    else match pieces separator rest with
      | [] => [[u]]
      | piece :: others => (u :: piece) :: others

theorem pieces_ne_nil (separator : UInt16) (s : Text) : pieces separator s ≠ [] := by
  cases s with
  | nil => simp [pieces]
  | cons u rest =>
    rw [pieces]
    split
    · simp
    · split <;> simp

/-- No unit is lost but the separators. -/
theorem length_pieces (separator : UInt16) (s : Text) :
    ((pieces separator s).map List.length).sum + (pieces separator s).length = s.length + 1 := by
  induction s with
  | nil => rfl
  | cons u rest ih =>
    rw [pieces]
    split
    · simp only [List.map_cons, List.sum_cons, List.length_cons, List.length_nil]
      omega
    · split
      · next hnil => exact absurd hnil (pieces_ne_nil separator rest)
      · next piece others hpieces =>
        rw [hpieces] at ih
        simp only [List.map_cons, List.sum_cons, List.length_cons] at ih ⊢
        omega

/-- The length of a text in UTF-8. A surrogate without its partner is written as
U+FFFD. -/
def utf8Length : Text → Nat
  | [] => 0
  | [u] => if u < 0x80 then 1 else if u < 0x800 then 2 else 3
  | u :: v :: rest =>
    if u < 0x80 then 1 + utf8Length (v :: rest)
    else if u < 0x800 then 2 + utf8Length (v :: rest)
    else if 0xD800 ≤ u ∧ u < 0xDC00 ∧ 0xDC00 ≤ v ∧ v < 0xE000 then 4 + utf8Length rest
    else 3 + utf8Length (v :: rest)

theorem length_le_utf8Length (s : Text) : s.length ≤ utf8Length s := by
  fun_induction utf8Length s with
  | case1 => exact Nat.le_refl 0
  | case2 u h => exact Nat.le_refl 1
  | case3 u h1 h2 => exact Nat.le_succ 1
  | case4 u h1 h2 => exact (by decide : 1 ≤ 3)
  | case5 u v rest h ih =>
    rw [List.length_cons]
    omega
  | case6 u v rest h1 h2 ih =>
    rw [List.length_cons]
    omega
  | case7 u v rest h1 h2 h3 ih =>
    rw [List.length_cons, List.length_cons]
    omega
  | case8 u v rest h1 h2 h3 ih =>
    rw [List.length_cons]
    omega

/-! ## Decimal digits -/

def digit (n : Nat) : UInt16 := UInt16.ofNat (48 + n % 10)

def digitValue (u : UInt16) : Nat := u.toNat - 48

/-- The number in decimal, filled up with zeros to a width. -/
def pad : Nat → Nat → Text
  | 0, _ => []
  | width + 1, n => pad width (n / 10) ++ [digit n]

/-- The number that digits stand for. -/
def number (digits : Text) : Nat := digits.foldl (fun n u => n * 10 + digitValue u) 0

theorem toNat_digit (n : Nat) : (digit n).toNat = 48 + n % 10 := by
  have h : 48 + n % 10 < 65536 := by omega
  exact UInt16.toNat_ofNat_of_lt' h

theorem digitValue_digit (n : Nat) : digitValue (digit n) = n % 10 := by
  rw [digitValue, toNat_digit]
  omega

theorem isDigit_iff {u : UInt16} : isDigit u = true ↔ 48 ≤ u.toNat ∧ u.toNat ≤ 57 := by
  simp only [isDigit, between, Bool.and_eq_true, decide_eq_true_eq, UInt16.le_iff_toNat_le]
  exact Iff.rfl

theorem isDigit_digit (n : Nat) : isDigit (digit n) = true := by
  rw [isDigit_iff, toNat_digit]
  omega

@[simp] theorem length_pad (width n : Nat) : (pad width n).length = width := by
  induction width generalizing n with
  | zero => rfl
  | succ width ih => rw [pad, List.length_append, ih, List.length_singleton]

theorem all_pad (width n : Nat) : (pad width n).all isDigit = true := by
  induction width generalizing n with
  | zero => rfl
  | succ width ih => rw [pad, List.all_append, ih, List.all_cons, isDigit_digit, List.all_nil]; rfl

theorem number_append (digits : Text) (u : UInt16) :
    number (digits ++ [u]) = number digits * 10 + digitValue u := by
  rw [number, List.foldl_append]
  rfl

theorem number_pad {width n : Nat} (h : n < 10 ^ width) : number (pad width n) = n := by
  induction width generalizing n with
  | zero =>
    obtain rfl : n = 0 := by simpa using h
    rfl
  | succ width ih =>
    have hrest : n / 10 < 10 ^ width := by
      rw [Nat.pow_succ] at h
      omega
    rw [pad, number_append, ih hrest, digitValue_digit]
    omega

/-- Digits end where something else starts. -/
theorem span_pad {width n : Nat} {u : UInt16} {rest : Text} (hu : isDigit u = false) :
    (pad width n ++ u :: rest).span isDigit = (pad width n, u :: rest) := by
  rw [List.span_eq_takeWhile_dropWhile]
  have hall : ∀ v ∈ pad width n, isDigit v = true := List.all_eq_true.mp (all_pad width n)
  rw [List.takeWhile_append_of_pos hall, List.dropWhile_append_of_pos hall,
    List.takeWhile_cons_of_neg (by rw [hu]; exact Bool.false_ne_true), List.append_nil,
    List.dropWhile_cons_of_neg (by rw [hu]; exact Bool.false_ne_true)]

/-- Digits of zeros on the right. -/
theorem number_append_zeros (digits : Text) (k : Nat) :
    number (digits ++ List.replicate k (digit 0)) = number digits * 10 ^ k := by
  induction k with
  | zero => rw [List.replicate_zero, List.append_nil, Nat.pow_zero, Nat.mul_one]
  | succ k ih =>
    rw [List.replicate_succ', ← List.append_assoc, number_append, ih, digitValue_digit,
      Nat.pow_succ, Nat.mul_assoc, Nat.zero_mod, Nat.add_zero]

end Dart
