import Mathlib.Data.List.Basic
import Mathlib.Data.Nat.Bitwise

/-!
# Shift registers

A register that a letter is added to by exclusive or before each shift, where the shift is
linear in it. The register is linear in what is read, so that two words of one length
that differ in one place lead to registers whose difference depends on that place alone.
-/

namespace XorRegister

variable {shift : Nat → Nat}

def run (shift : Nat → Nat) (register : Nat) (letters : List Nat) : Nat :=
  letters.foldl (fun r letter => shift (r ^^^ letter)) register

@[simp] theorem run_nil (register : Nat) : run shift register [] = register := rfl

@[simp] theorem run_cons (register letter : Nat) (letters : List Nat) :
    run shift register (letter :: letters) = run shift (shift (register ^^^ letter)) letters := rfl

theorem run_append (register : Nat) (letters rest : List Nat) :
    run shift register (letters ++ rest) = run shift (run shift register letters) rest :=
  List.foldl_append

section

variable (hlinear : ∀ a b, shift (a ^^^ b) = shift a ^^^ shift b)

include hlinear

theorem shift_zero : shift 0 = 0 := by
  have h := hlinear 0 0
  rwa [Nat.xor_self, Nat.xor_self] at h

theorem iterate_xor (n a b : Nat) : shift^[n] (a ^^^ b) = shift^[n] a ^^^ shift^[n] b := by
  induction n generalizing a b with
  | zero => rfl
  | succ n ih => rw [Function.iterate_succ_apply, hlinear, ih]; rfl

/-- The register and the letters are read apart. -/
theorem run_xor (a b : Nat) (letters : List Nat) :
    run shift (a ^^^ b) letters = shift^[letters.length] a ^^^ run shift b letters := by
  induction letters generalizing a b with
  | nil => rfl
  | cons letter letters ih =>
    rw [run_cons, run_cons, Nat.xor_assoc, hlinear, ih]
    rfl

omit hlinear in
/-- Zeros behind a word shift the register. -/
theorem run_zeros (n register : Nat) :
    run shift register (List.replicate n 0) = shift^[n] register := by
  induction n generalizing register with
  | zero => rfl
  | succ n ih => rw [List.replicate_succ, run_cons, Nat.xor_zero, ih]; rfl

theorem run_eq_zero_xor (register : Nat) (letters : List Nat) :
    run shift register letters = shift^[letters.length] register ^^^ run shift 0 letters := by
  have h := run_xor hlinear register 0 letters
  rwa [Nat.xor_zero] at h

section

variable {width : Nat} (hzero : ∀ r < 2 ^ width, shift r = 0 → r = 0)
  (hbound : ∀ r < 2 ^ width, shift r < 2 ^ width)

include hzero

theorem shift_injective {a b : Nat} (ha : a < 2 ^ width) (hb : b < 2 ^ width)
    (h : shift a = shift b) : a = b := by
  have hdiff : shift (a ^^^ b) = 0 := by rw [hlinear, h, Nat.xor_self]
  exact Nat.xor_eq_zero_iff.mp (hzero _ (Nat.xor_lt_two_pow ha hb) hdiff)

include hbound

theorem run_injective {letters : List Nat} (hletters : ∀ x ∈ letters, x < 2 ^ width) {a b : Nat}
    (ha : a < 2 ^ width) (hb : b < 2 ^ width) (h : run shift a letters = run shift b letters) :
    a = b := by
  induction letters generalizing a b with
  | nil => exact h
  | cons letter letters ih =>
    have hletter := hletters letter (by simp)
    have hxa := Nat.xor_lt_two_pow ha hletter
    have hxb := Nat.xor_lt_two_pow hb hletter
    have hnext := ih (fun x hx => hletters x (by simp [hx])) (hbound _ hxa) (hbound _ hxb) h
    have hxor := shift_injective hlinear hzero hxa hxb hnext
    exact Nat.xor_left_inj.mp hxor

omit hlinear hzero in
theorem run_lt {letters : List Nat} (hletters : ∀ x ∈ letters, x < 2 ^ width) {register : Nat}
    (h : register < 2 ^ width) : run shift register letters < 2 ^ width := by
  induction letters generalizing register with
  | nil => exact h
  | cons letter letters ih =>
    have hnext := hbound _ (Nat.xor_lt_two_pow h (hletters letter (by simp)))
    exact ih (fun x hx => hletters x (by simp [hx])) hnext

/-- Two words that lead to one register and differ in one place have, in that place, words
that lead from zero to one register. -/
theorem run_between {front middle other rest : List Nat}
    (hfront : ∀ x ∈ front, x < 2 ^ width) (hmiddle : ∀ x ∈ middle, x < 2 ^ width)
    (hother : ∀ x ∈ other, x < 2 ^ width) (hrest : ∀ x ∈ rest, x < 2 ^ width)
    (hlength : middle.length = other.length)
    (h : run shift 0 (front ++ middle ++ rest) = run shift 0 (front ++ other ++ rest)) :
    run shift 0 middle = run shift 0 other := by
  have hstart := run_lt hbound hfront (Nat.two_pow_pos width)
  simp only [run_append] at h
  have hmid := run_injective hlinear hzero hbound hrest (run_lt hbound hmiddle hstart)
    (run_lt hbound hother hstart) h
  rw [run_eq_zero_xor hlinear, run_eq_zero_xor hlinear _ other, hlength] at hmid
  exact Nat.xor_right_inj.mp hmid

end

end

end XorRegister
