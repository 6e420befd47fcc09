import Pokrov.Lib.XorRegister
import Pokrov.SupportBundle.DiagnosticCode

/-!
# Symbols and checksum of the code

The symbols of a code give back its bytes, and the checksum is a shift register that reads
the bits of the symbols. From zero, no two symbols lead it to one value, so two codes
whose checksums fit do not differ in one symbol alone.
-/

namespace Pokrov.SupportBundle.SupportDiagnosticCode

open Dart BitGroups XorRegister

/-! ## Symbols -/

theorem alphabet_symbol : ∀ d < 32, alphabet.idxOf? (alphabet.getD d 0) = some d := by decide

theorem alphabet_digit {u : UInt16} {d : Nat} (h : alphabet.idxOf? u = some d) :
    d < 2 ^ 5 ∧ alphabet.getD d 0 = u := by
  obtain ⟨hlt, hget, -⟩ := List.idxOf?_eq_some_iff.mp h
  exact ⟨hlt, by rw [List.getD_eq_getElem _ _ hlt, hget]⟩

theorem mapM_symbols {digits : List Nat} (hdigits : ∀ d ∈ digits, d < 2 ^ 5) :
    (digits.map fun d => alphabet.getD d 0).mapM (fun u => alphabet.idxOf? u) = some digits := by
  induction digits with
  | nil => rfl
  | cons d digits ih =>
    rw [List.map_cons, List.mapM_cons, alphabet_symbol d (hdigits d (by simp)),
      ih fun x hx => hdigits x (by simp [hx])]
    rfl

variable {value : Text} {bytes : List Nat}

/-- Each digit is one of its symbol. -/
theorem digits_of_mapM {digits : List Nat}
    (h : value.mapM (fun u => alphabet.idxOf? u) = some digits) :
    (∀ d ∈ digits, d < 2 ^ 5) ∧ value = digits.map fun d => alphabet.getD d 0 := by
  induction value generalizing digits with
  | nil =>
    cases h
    exact ⟨by simp, rfl⟩
  | cons u value ih =>
    simp only [List.mapM_cons, Option.bind_eq_bind, Option.bind_eq_some_iff] at h
    obtain ⟨d, hd, rest, hrest, hcons⟩ := h
    cases hcons
    obtain ⟨hlt, hu⟩ := alphabet_digit hd
    obtain ⟨hsmall, hvalue⟩ := ih hrest
    constructor
    · intro x hx
      rcases List.mem_cons.mp hx with rfl | hx
      · exact hlt
      · exact hsmall x hx
    · rw [List.map_cons, hu, ← hvalue]

theorem encodeCrockford_alphabet (hbytes : ∀ b ∈ bytes, b < 2 ^ 8) :
    ∀ u ∈ encodeCrockford bytes, u ∈ alphabet := by
  have hall : ∀ d < 32, alphabet.getD d 0 ∈ alphabet := by decide
  intro u hu
  obtain ⟨d, hd, rfl⟩ := List.mem_map.mp hu
  have hsmall := (flat_padded (carries_regroup (n := 5) hbytes) (regroup_bits (by decide) bytes)).1
  exact hall d (hsmall d hd)

/-- The symbols give back the bytes. -/
theorem decodeCrockford_encodeCrockford (hbytes : ∀ b ∈ bytes, b < 2 ^ 8) :
    decodeCrockford (encodeCrockford bytes) = some bytes := by
  have hsmall := (flat_padded (carries_regroup (n := 5) hbytes) (regroup_bits (by decide) bytes)).1
  obtain ⟨hout, hleft⟩ := regroup_padded (m := 8) (n := 5) (by decide) (by decide) hbytes
  unfold decodeCrockford encodeCrockford
  rw [mapM_symbols hsmall]
  simp [hout, hleft]

theorem length_encodeCrockford (hbytes : ∀ b ∈ bytes, b < 2 ^ 8) :
    (encodeCrockford bytes).length = (8 * bytes.length + 4) / 5 := by
  obtain ⟨-, zeros, hzeros, hflat⟩ :=
    flat_padded (carries_regroup (n := 5) hbytes) (regroup_bits (by decide) bytes)
  have hlength := congrArg List.length hflat
  simp only [List.length_append, length_flat, List.length_replicate] at hlength
  simp only [encodeCrockford, List.length_map]
  omega

/-- Bytes that were read from symbols, and the zeros behind them. -/
theorem decodeCrockford_eq_some {packed : List Nat} (h : decodeCrockford value = some packed) :
    ∃ digits zeros, value.mapM (fun u => alphabet.idxOf? u) = some digits ∧
      (∀ b ∈ packed, b < 2 ^ 8) ∧ flat 5 digits = flat 8 packed ++ List.replicate zeros false := by
  unfold decodeCrockford at h
  split at h
  · cases h
  · next digits hdigits =>
    dsimp only at h
    split at h
    · cases h
    · next hleft =>
      cases h
      have hcarries := carries_regroup (n := 8) (digits_of_mapM hdigits).1
      have hzero : (regroup 5 8 digits).accumulator = 0 := by
        by_cases hbits : (regroup 5 8 digits).bits = 0
        · have hlt := hcarries.small
          rw [hbits] at hlt
          omega
        · by_contra hne
          exact hleft ⟨hbits, hne⟩
      have hread := hcarries.read
      rw [hzero, bitsOf_zero] at hread
      exact ⟨digits, _, hdigits, hcarries.digits, hread.symm⟩

/-! ## Checksum -/

theorem testBit_seven (crc : Nat) : crc &&& 0x80 ≠ 0 ↔ crc.testBit 7 = true := by
  rw [show (0x80 : Nat) = 2 ^ 7 by rfl, Nat.and_two_pow]
  cases crc.testBit 7 <;> simp

theorem crcShift_eq (crc : Nat) :
    crcShift crc = ((crc <<< 1) ^^^ if crc.testBit 7 then 0x07 else 0) &&& 0xff := by
  unfold crcShift
  by_cases htop : crc.testBit 7 = true
  · rw [if_pos ((testBit_seven crc).mpr htop), if_pos htop]
  · rw [if_neg fun h => htop ((testBit_seven crc).mp h), if_neg htop, Nat.xor_zero]

theorem crcShift_xor (a b : Nat) : crcShift (a ^^^ b) = crcShift a ^^^ crcShift b := by
  simp only [crcShift_eq, Nat.testBit_xor, Nat.shiftLeft_xor_distrib, ← Nat.and_xor_distrib_right]
  congr 1
  -- the polynomial is added for one of the two bits, or twice
  cases a.testBit 7 <;> cases b.testBit 7
  · simp
  · simp [Nat.xor_assoc]
  · simp [Nat.xor_assoc, Nat.xor_comm, Nat.xor_left_comm]
  · have hcancel : a <<< 1 ^^^ 7 ^^^ (b <<< 1 ^^^ 7) = a <<< 1 ^^^ b <<< 1 := by
      rw [Nat.xor_assoc, Nat.xor_comm (b <<< 1), Nat.xor_xor_cancel_left]
    simp [hcancel]

theorem crcShift_zero : ∀ r < 2 ^ 8, crcShift r = 0 → r = 0 := by decide +kernel

theorem crcShift_lt (r : Nat) : crcShift r < 2 ^ 8 := by
  rw [crcShift_eq]
  exact Nat.and_lt_two_pow _ (by decide)

/-- What the register reads for a bit. -/
def letter (bit : Bool) : Nat := if bit then 0x80 else 0

theorem letter_lt (bit : Bool) : letter bit < 2 ^ 8 := by cases bit <;> decide

theorem crcShift_byte : ∀ byte < 2 ^ 8,
    crcShift^[8] byte = run crcShift 0 ((bitsOf 8 byte).map letter) := by decide +kernel

/-- The turns for a byte read its bits. -/
theorem run_byte (crc : Nat) {byte : Nat} (hbyte : byte < 2 ^ 8) :
    crcShift^[8] (crc ^^^ byte) = run crcShift crc ((bitsOf 8 byte).map letter) := by
  rw [iterate_xor crcShift_xor, crcShift_byte byte hbyte, run_eq_zero_xor crcShift_xor crc]
  simp

theorem foldl_bytes (hbytes : ∀ b ∈ bytes, b < 2 ^ 8) (crc : Nat) :
    bytes.foldl (fun crc byte => crcShift^[8] (crc ^^^ byte)) crc =
      run crcShift crc ((flat 8 bytes).map letter) := by
  induction bytes generalizing crc with
  | nil => rfl
  | cons b bytes ih =>
    rw [List.foldl_cons, run_byte crc (hbytes b (by simp)), ih fun x hx => hbytes x (by simp [hx]),
      flat_cons, List.map_append, run_append]

theorem crc8_eq_run (hbytes : ∀ b ∈ bytes, b < 2 ^ 8) :
    crc8 bytes = run crcShift 0 ((flat 8 bytes).map letter) := foldl_bytes hbytes 0

theorem crc8_lt (bytes : List Nat) : crc8 bytes < 2 ^ 8 := by
  induction bytes using List.reverseRecOn with
  | nil => decide
  | append_singleton bytes b ih =>
    rw [crc8, List.foldl_append]
    exact crcShift_lt _

/-- A checksum that fits leads the register to zero. -/
theorem crc8_append_self (bytes : List Nat) : crc8 (bytes ++ [crc8 bytes]) = 0 := by
  rw [crc8, List.foldl_append]
  show crcShift^[8] (crc8 bytes ^^^ crc8 bytes) = 0
  rw [Nat.xor_self]
  decide

/-- The symbols of a code whose checksum fits. -/
theorem run_symbols {packed : List Nat} (hdecode : decodeCrockford value = some packed) {n : Nat}
    (hlength : packed.length = n + 1) (hcrc : crc8 (packed.take n) = packed.getD n 0) :
    ∃ digits, value.mapM (fun u => alphabet.idxOf? u) = some digits ∧
      run crcShift 0 ((flat 5 digits).map letter) = 0 := by
  obtain ⟨digits, zeros, hdigits, hbytes, hflat⟩ := decodeCrockford_eq_some hdecode
  refine ⟨digits, hdigits, ?_⟩
  have hsplit : packed = packed.take n ++ [crc8 (packed.take n)] := by
    rw [hcrc]
    apply List.ext_getElem
    · simp [hlength]
    · intro i hi hi'
      rcases Nat.lt_succ_iff_lt_or_eq.mp (hlength ▸ hi) with hlt | rfl
      · rw [List.getElem_append_left (by simp; omega), List.getElem_take]
      · rw [List.getElem_append_right (by simp)]
        simp [List.getElem?_eq_getElem hi]
  have hzero : crc8 packed = 0 := by
    rw [hsplit]
    exact crc8_append_self _
  rw [crc8_eq_run hbytes] at hzero
  rw [hflat, List.map_append, run_append, hzero, List.map_replicate]
  show run crcShift 0 (List.replicate zeros 0) = 0
  rw [run_zeros]
  exact Function.iterate_fixed (shift_zero crcShift_xor) zeros

/-- Symbols that the register tells apart. -/
theorem run_symbol_inj : ∀ x < 32, ∀ y < 32,
    run crcShift 0 ((bitsOf 5 x).map letter) = run crcShift 0 ((bitsOf 5 y).map letter) → x = y := by
  decide +kernel

end Pokrov.SupportBundle.SupportDiagnosticCode
