import Mathlib.Data.List.Basic
import Mathlib.Tactic.IntervalCases

/-!
# The first bits of bytes

The bits of a byte string with the highest bit of each byte first, the masks that keep
the first bits of a byte, and what it means for two strings to agree on their first bits.
-/

namespace BitPrefixes

/-- The bits of a byte, the highest first. -/
def byteBits (b : UInt8) : List Bool := (List.range 8).map b.toBitVec.getMsbD

def bits (bytes : List UInt8) : List Bool := bytes.flatMap byteBits

/-- The first bits of a byte are set, and no others. -/
def mask (count : Nat) : UInt8 :=
  if count = 0 then 0 else UInt8.ofNat ((0xff <<< (8 - count)) &&& 0xff)

@[simp] theorem length_byteBits (b : UInt8) : (byteBits b).length = 8 := by simp [byteBits]

@[simp] theorem bits_nil : bits [] = [] := rfl

@[simp] theorem bits_cons (b : UInt8) (rest : List UInt8) :
    bits (b :: rest) = byteBits b ++ bits rest := List.flatMap_cons

@[simp] theorem length_bits (bytes : List UInt8) : (bits bytes).length = 8 * bytes.length := by
  induction bytes with
  | nil => rfl
  | cons b rest ih =>
    rw [bits_cons, List.length_append, length_byteBits, ih, List.length_cons]
    omega

theorem getMsbD_mask {count i : Nat} (hcount : count ≤ 8) (hi : i < 8) :
    (mask count).toBitVec.getMsbD i = decide (i < count) := by
  have hall : ∀ k < 9, ∀ j < 8, (mask k).toBitVec.getMsbD j = decide (j < k) := by decide
  exact hall count (by omega) i hi

theorem byteBits_inj {a b : UInt8} : byteBits a = byteBits b ↔ a = b := by
  constructor
  · intro h
    apply UInt8.toBitVec_inj.mp
    apply BitVec.eq_of_getMsbD_eq
    intro i hi
    have hget := congrArg (·[i]?) h
    simpa [byteBits, hi] using hget
  · exact fun h => by rw [h]

/-- A mask keeps the first bits and clears the others. -/
theorem byteBits_and_mask (b : UInt8) {count : Nat} (hcount : count ≤ 8) :
    byteBits (b &&& mask count) = (byteBits b).take count ++ List.replicate (8 - count) false := by
  apply List.ext_getElem
  · simp
    omega
  · intro i h1 h2
    rw [length_byteBits] at h1
    have hbit := getMsbD_mask hcount h1
    by_cases hi : i < count
    · rw [List.getElem_append_left (by simp; omega)]
      simp [byteBits, hbit, hi]
    · rw [List.getElem_append_right (by simp; omega)]
      simp [byteBits, hbit, hi]

theorem and_mask_eq_iff {a b : UInt8} {count : Nat} (hcount : count ≤ 8) :
    a &&& mask count = b &&& mask count ↔ (byteBits a).take count = (byteBits b).take count := by
  rw [← byteBits_inj, byteBits_and_mask a hcount, byteBits_and_mask b hcount]
  exact List.append_left_inj _

/-! ## Cleared behind a length -/

/-- All bits but the first are cleared. -/
def clear : Nat → List UInt8 → List UInt8
  | _, [] => []
  | count, b :: rest => (b &&& mask (min 8 count)) :: clear (count - 8) rest

@[simp] theorem length_clear (count : Nat) (bytes : List UInt8) :
    (clear count bytes).length = bytes.length := by
  induction bytes generalizing count with
  | nil => rfl
  | cons b rest ih => simp [clear, ih]

theorem take_bits_clear (count : Nat) (bytes : List UInt8) :
    (bits (clear count bytes)).take count = (bits bytes).take count := by
  induction bytes generalizing count with
  | nil => rfl
  | cons b rest ih =>
    rw [clear, bits_cons, bits_cons, byteBits_and_mask b (Nat.min_le_left 8 count)]
    by_cases hcount : count ≤ 8
    · rw [Nat.min_eq_right hcount]
      simp [List.take_append, hcount]
    · have height : min 8 count = 8 := by omega
      rw [height, List.take_of_length_le (by simp : (byteBits b).length ≤ 8), List.take_append]
      simp [ih, List.take_append]

theorem clear_clear (count : Nat) (bytes : List UInt8) :
    clear count (clear count bytes) = clear count bytes := by
  induction bytes generalizing count with
  | nil => rfl
  | cons b rest ih => rw [clear, clear, ih, UInt8.and_assoc, UInt8.and_self]

/-! ## Agreement -/

theorem take_bits_mul (q : Nat) (bytes : List UInt8) :
    (bits bytes).take (8 * q) = bits (bytes.take q) := by
  induction q generalizing bytes with
  | zero => simp
  | succ q ih =>
    cases bytes with
    | nil => simp
    | cons b rest =>
      rw [bits_cons, List.take_append, length_byteBits, List.take_succ_cons, bits_cons, ← ih,
        List.take_of_length_le (by simp), show 8 * (q + 1) - 8 = 8 * q by omega]

theorem drop_bits_mul (q : Nat) (bytes : List UInt8) :
    (bits bytes).drop (8 * q) = bits (bytes.drop q) := by
  induction q generalizing bytes with
  | zero => simp
  | succ q ih =>
    cases bytes with
    | nil => simp
    | cons b rest =>
      rw [bits_cons, List.drop_append, length_byteBits, List.drop_succ_cons, ← ih,
        List.drop_of_length_le (by simp), show 8 * (q + 1) - 8 = 8 * q by omega,
        List.nil_append]

theorem bits_inj {a b : List UInt8} (h : a.length = b.length) : bits a = bits b ↔ a = b := by
  constructor
  · intro hbits
    induction a generalizing b with
    | nil => exact (List.length_eq_zero_iff.mp h.symm).symm
    | cons x xs ih =>
      cases b with
      | nil => cases h
      | cons y ys =>
        rw [bits_cons, bits_cons] at hbits
        obtain ⟨hhead, htail⟩ := List.append_inj hbits (by simp)
        rw [byteBits_inj.mp hhead, ih (by simpa using h) htail]
  · exact fun hab => by rw [hab]

/-- Whole bytes first, then the bits of one more byte. -/
theorem take_bits_eq_iff {a b : List UInt8} (h : a.length = b.length) {q r : Nat}
    (hq : q < a.length) (hr : r ≤ 8) :
    (bits a).take (8 * q + r) = (bits b).take (8 * q + r) ↔
      a.take q = b.take q ∧ a[q] &&& mask r = b[q] &&& mask r := by
  have hsplit : ∀ {bytes : List UInt8} (hlt : q < bytes.length),
      (bits bytes).take (8 * q + r) = bits (bytes.take q) ++ (byteBits bytes[q]).take r := by
    intro bytes hlt
    rw [List.take_add, take_bits_mul, drop_bits_mul, List.drop_eq_getElem_cons hlt, bits_cons,
      List.take_append]
    simp [hr]
  rw [hsplit hq, hsplit (h ▸ hq), and_mask_eq_iff hr, ← bits_inj (by simp [h])]
  constructor
  · intro heq
    exact List.append_inj heq (by simp [h])
  · rintro ⟨h1, h2⟩
    rw [h1, h2]

/-- Agreement on more bits is agreement on fewer. -/
theorem take_eq_take_mono {α : Type} {a b : List α} {m n : Nat} (hmn : m ≤ n)
    (h : a.take n = b.take n) : a.take m = b.take m := by
  rw [← Nat.min_eq_left hmn, ← List.take_take, h, List.take_take]

end BitPrefixes
