import Mathlib.Algebra.Order.Ring.Nat
import Mathlib.Data.List.Basic
import Mathlib.Data.List.Induction

/-!
# Groups of bits

A number as the list of its bits, the highest first, and the loop that takes digits of
some width from a list and gives digits of another width: it shifts each digit into an
accumulator and takes digits off its top while there are enough bits.
-/

namespace BitGroups

/-! ## Bits -/

/-- The lowest bits of a number, the highest of them first. -/
def bitsOf : Nat → Nat → List Bool
  | 0, _ => []
  | n + 1, d => d.testBit n :: bitsOf n d

def flat (n : Nat) (digits : List Nat) : List Bool := digits.flatMap (bitsOf n)

@[simp] theorem length_bitsOf (n d : Nat) : (bitsOf n d).length = n := by
  induction n with
  | zero => rfl
  | succ n ih => simp [bitsOf, ih]

@[simp] theorem flat_nil (n : Nat) : flat n [] = [] := rfl

@[simp] theorem flat_cons (n d : Nat) (digits : List Nat) :
    flat n (d :: digits) = bitsOf n d ++ flat n digits := rfl

@[simp] theorem flat_append (n : Nat) (digits rest : List Nat) :
    flat n (digits ++ rest) = flat n digits ++ flat n rest := List.flatMap_append

@[simp] theorem length_flat (n : Nat) (digits : List Nat) :
    (flat n digits).length = n * digits.length := by
  induction digits with
  | nil => rfl
  | cons d digits ih =>
    simp [ih, Nat.mul_add]
    omega

theorem bitsOf_eq_iff {n d e : Nat} :
    bitsOf n d = bitsOf n e ↔ ∀ i < n, d.testBit i = e.testBit i := by
  induction n with
  | zero => simp [bitsOf]
  | succ n ih =>
    simp only [bitsOf, List.cons.injEq, ih]
    constructor
    · rintro ⟨htop, hrest⟩ i hi
      rcases Nat.lt_succ_iff_lt_or_eq.mp hi with hlt | rfl
      · exact hrest i hlt
      · exact htop
    · intro h
      exact ⟨h n (Nat.lt_succ_self n), fun i hi => h i (Nat.lt_succ_of_lt hi)⟩

theorem bitsOf_inj {n d e : Nat} (hd : d < 2 ^ n) (he : e < 2 ^ n)
    (h : bitsOf n d = bitsOf n e) : d = e := by
  apply Nat.eq_of_testBit_eq
  intro i
  by_cases hi : i < n
  · exact bitsOf_eq_iff.mp h i hi
  · have hpow : 2 ^ n ≤ 2 ^ i := Nat.pow_le_pow_right (by decide) (by omega)
    rw [Nat.testBit_lt_two_pow (by omega), Nat.testBit_lt_two_pow (by omega)]

theorem bitsOf_zero (n : Nat) : bitsOf n 0 = List.replicate n false := by
  induction n with
  | zero => rfl
  | succ n ih => simp [bitsOf, ih, List.replicate_succ]

/-- A mask keeps the lowest bits. -/
@[simp] theorem bitsOf_mod (n a : Nat) : bitsOf n (a % 2 ^ n) = bitsOf n a := by
  rw [bitsOf_eq_iff]
  intro i hi
  simp [Nat.testBit_mod_two_pow, hi]

theorem bitsOf_shiftLeft_or {k m a d : Nat} (hd : d < 2 ^ m) :
    bitsOf (k + m) (a <<< m ||| d) = bitsOf k a ++ bitsOf m d := by
  induction k with
  | zero =>
    rw [Nat.zero_add, bitsOf, List.nil_append, bitsOf_eq_iff]
    intro i hi
    simp [Nat.testBit_shiftLeft, show ¬ m ≤ i by omega]
  | succ k ih =>
    have hpow : 2 ^ m ≤ 2 ^ (k + m) := Nat.pow_le_pow_right (by decide) (by omega)
    have htop : (a <<< m ||| d).testBit (k + m) = a.testBit k := by
      rw [Nat.testBit_or, Nat.testBit_lt_two_pow (Nat.lt_of_lt_of_le hd hpow)]
      simp [Nat.testBit_shiftLeft]
    rw [show k + 1 + m = k + m + 1 by omega, bitsOf, htop, ih]
    rfl

theorem bitsOf_add (n k a : Nat) : bitsOf (n + k) a = bitsOf n (a >>> k) ++ bitsOf k a := by
  induction n with
  | zero => simp [bitsOf]
  | succ n ih =>
    rw [show n + 1 + k = n + k + 1 by omega, bitsOf, bitsOf, ih]
    simp [Nat.testBit_shiftRight, Nat.add_comm]

/-- Zero bits behind a number. -/
theorem bitsOf_shiftLeft (k m a : Nat) :
    bitsOf (k + m) (a <<< m) = bitsOf k a ++ List.replicate m false := by
  have h := bitsOf_shiftLeft_or (k := k) (a := a) (Nat.two_pow_pos m)
  rwa [Nat.or_zero, bitsOf_zero] at h

theorem flat_inj {n : Nat} (hn : 0 < n) {digits rest : List Nat} (hdigits : ∀ d ∈ digits, d < 2 ^ n)
    (hrest : ∀ d ∈ rest, d < 2 ^ n) (h : flat n digits = flat n rest) : digits = rest := by
  induction digits generalizing rest with
  | nil =>
    have hlength := congrArg List.length h
    simp only [flat_nil, List.length_nil, length_flat] at hlength
    rcases Nat.mul_eq_zero.mp hlength.symm with hzero | hzero
    · omega
    · rw [List.length_eq_zero_iff.mp hzero]
  | cons d digits ih =>
    cases rest with
    | nil =>
      have hlength := congrArg List.length h
      simp at hlength
      omega
    | cons e rest =>
      rw [flat_cons, flat_cons] at h
      obtain ⟨hhead, htail⟩ := List.append_inj h (by simp)
      have hde := bitsOf_inj (hdigits d (by simp)) (hrest e (by simp)) hhead
      have hall := ih (fun x hx => hdigits x (by simp [hx])) (fun x hx => hrest x (by simp [hx])) htail
      rw [hde, hall]

/-! ## The loop -/

/-- The bits that are left of the digits read so far, and the digits given. -/
structure Pending where
  accumulator : Nat
  bits : Nat
  output : List Nat

/-- Gives digits of `n` bits while there are as many. The first argument bounds the turns. -/
def drain (n : Nat) : Nat → Pending → Pending
  | 0, p => p
  | turns + 1, p =>
    if n ≤ p.bits then
      let bits := p.bits - n
      drain n turns
        ⟨p.accumulator &&& (2 ^ bits - 1), bits,
          p.output ++ [(p.accumulator >>> bits) &&& (2 ^ n - 1)]⟩
    else p

/-- Reads a digit of `m` bits. -/
def push (m n : Nat) (p : Pending) (digit : Nat) : Pending :=
  let bits := p.bits + m
  drain n bits ⟨p.accumulator <<< m ||| digit, bits, p.output⟩

def regroup (m n : Nat) (digits : List Nat) : Pending := digits.foldl (push m n) ⟨0, 0, []⟩

/-- The digits with one more for the bits that are left, which gets zeros behind. -/
def Pending.padded (n : Nat) (p : Pending) : List Nat :=
  if p.bits ≠ 0 then p.output ++ [(p.accumulator <<< (n - p.bits)) &&& (2 ^ n - 1)] else p.output

/-- The digits given and the bits left are the bits read. -/
structure Carries (n : Nat) (source : List Bool) (p : Pending) : Prop where
  read : flat n p.output ++ bitsOf p.bits p.accumulator = source
  small : p.accumulator < 2 ^ p.bits
  digits : ∀ d ∈ p.output, d < 2 ^ n

theorem and_mask_lt (a n : Nat) : a &&& (2 ^ n - 1) < 2 ^ n :=
  Nat.and_lt_two_pow a (Nat.sub_lt (Nat.two_pow_pos n) Nat.one_pos)

section

variable {m n : Nat} {source : List Bool} {p : Pending}

theorem Carries.drain (h : Carries n source p) (turns : Nat) :
    Carries n source (drain n turns p) := by
  induction turns generalizing p with
  | zero => exact h
  | succ turns ih =>
    unfold BitGroups.drain
    split
    · next hle =>
      apply ih
      constructor
      · have hsplit := bitsOf_add n (p.bits - n) p.accumulator
        rw [Nat.add_sub_cancel' hle] at hsplit
        simp [← h.read, hsplit]
      · exact and_mask_lt _ _
      · intro d hd
        rcases List.mem_append.mp hd with hold | hnew
        · exact h.digits d hold
        · rw [List.mem_singleton.mp hnew]
          exact and_mask_lt _ _
    · exact h

/-- The turns are enough. -/
theorem drain_bits (hn : 0 < n) {turns : Nat} (hturns : p.bits ≤ turns) :
    (drain n turns p).bits < n := by
  induction turns generalizing p with
  | zero =>
    show p.bits < n
    omega
  | succ turns ih =>
    unfold drain
    split
    · apply ih
      show p.bits - n ≤ turns
      omega
    · omega

theorem Carries.push (h : Carries n source p) {digit : Nat} (hdigit : digit < 2 ^ m) :
    Carries n (source ++ bitsOf m digit) (push m n p digit) := by
  apply Carries.drain
  constructor
  · show flat n p.output ++ bitsOf (p.bits + m) (p.accumulator <<< m ||| digit) = _
    rw [bitsOf_shiftLeft_or hdigit, ← h.read, List.append_assoc]
  · show p.accumulator <<< m ||| digit < 2 ^ (p.bits + m)
    have hshift : p.accumulator <<< m < 2 ^ (p.bits + m) := by
      rw [Nat.shiftLeft_eq, Nat.pow_add]
      exact Nat.mul_lt_mul_of_pos_right h.small (Nat.two_pow_pos m)
    have hlow : digit < 2 ^ (p.bits + m) :=
      Nat.lt_of_lt_of_le hdigit (Nat.pow_le_pow_right (by decide) (by omega))
    exact Nat.or_lt_two_pow hshift hlow
  · exact h.digits

variable {digits : List Nat}

theorem Carries.foldl (h : Carries n source p) (hdigits : ∀ d ∈ digits, d < 2 ^ m) :
    Carries n (source ++ flat m digits) (digits.foldl (BitGroups.push m n) p) := by
  induction digits generalizing source p with
  | nil => simpa using h
  | cons d digits ih =>
    have hpush := h.push (hdigits d (by simp))
    have hrest := ih hpush fun x hx => hdigits x (by simp [hx])
    rw [List.append_assoc] at hrest
    exact hrest

theorem carries_regroup (hdigits : ∀ d ∈ digits, d < 2 ^ m) :
    Carries n (flat m digits) (regroup m n digits) := by
  have hstart : Carries n [] ⟨0, 0, []⟩ := ⟨rfl, by decide, by simp⟩
  exact hstart.foldl hdigits

theorem regroup_bits (hn : 0 < n) (digits : List Nat) : (regroup m n digits).bits < n := by
  induction digits using List.reverseRecOn with
  | nil => exact hn
  | append_singleton digits d ih =>
    rw [regroup, List.foldl_append]
    exact drain_bits hn (Nat.le_refl _)

/-! ## There and back -/

/-- The zeros that a last digit gets. -/
theorem flat_padded (h : Carries n source p) (hbits : p.bits < n) :
    (∀ d ∈ p.padded n, d < 2 ^ n) ∧
      ∃ zeros < n, flat n (p.padded n) = source ++ List.replicate zeros false := by
  unfold Pending.padded
  by_cases hleft : p.bits = 0
  · rw [if_neg (by simpa using hleft)]
    have hread := h.read
    rw [hleft, bitsOf, List.append_nil] at hread
    exact ⟨h.digits, 0, by omega, by simp [hread]⟩
  · rw [if_pos hleft]
    constructor
    · intro d hd
      rcases List.mem_append.mp hd with hold | hnew
      · exact h.digits d hold
      · rw [List.mem_singleton.mp hnew]
        exact and_mask_lt _ _
    · have hlast := bitsOf_shiftLeft p.bits (n - p.bits) p.accumulator
      rw [Nat.add_sub_cancel' (Nat.le_of_lt hbits)] at hlast
      exact ⟨n - p.bits, by omega, by simp [← h.read, hlast]⟩

/-- Equal bits with fewer zeros behind than a digit has are equal digits. -/
theorem Carries.unpadded {zeros : Nat} (hn : 0 < n)
    (h : Carries n (flat n digits ++ List.replicate zeros false) p) (hbits : p.bits < n)
    (hzeros : zeros < n) (hdigits : ∀ d ∈ digits, d < 2 ^ n) :
    p.output = digits ∧ p.accumulator = 0 := by
  have hlength := congrArg List.length h.read
  simp only [List.length_append, length_flat, length_bitsOf, List.length_replicate] at hlength
  -- a quotient and a remainder are unique
  have hquot : p.output.length = digits.length := by
    have hdiv := congrArg (· / n) hlength
    simp only [Nat.mul_add_div hn, Nat.div_eq_of_lt hbits, Nat.div_eq_of_lt hzeros] at hdiv
    omega
  have hrem : p.bits = zeros := by
    rw [hquot] at hlength
    omega
  obtain ⟨hout, hleft⟩ := List.append_inj h.read (by simp [hquot])
  constructor
  · exact flat_inj hn h.digits hdigits hout
  · rw [hrem] at hleft
    have hsmall := h.small
    rw [hrem] at hsmall
    exact bitsOf_inj hsmall (Nat.two_pow_pos zeros) (hleft.trans (bitsOf_zero zeros).symm)

/-- The digits come back, and no bits are left over. -/
theorem regroup_padded (hn : 0 < n) (hnm : n ≤ m) (hdigits : ∀ d ∈ digits, d < 2 ^ m) :
    (regroup n m ((regroup m n digits).padded n)).output = digits ∧
      (regroup n m ((regroup m n digits).padded n)).accumulator = 0 := by
  obtain ⟨hsmall, zeros, hzeros, hflat⟩ :=
    flat_padded (carries_regroup (m := m) (n := n) hdigits) (regroup_bits hn digits)
  have hback := carries_regroup (m := n) (n := m) hsmall
  rw [hflat] at hback
  have hm : 0 < m := by omega
  exact hback.unpadded hm (regroup_bits hm _) (by omega) hdigits

end

end BitGroups
