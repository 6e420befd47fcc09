import Pokrov.Lib.Base64
import Pokrov.Lib.Codec

/-!
# Profile bundles

A staged payload is a profile, or a bundle of rule sets in base64 and a profile
that names their slot. Every rule set has exactly one text: what is decoded is
what was encoded.
-/

namespace Pokrov.Windows.Service

open Codec

def maximumBundledRuleSetBytes : Nat := 128 * 1024

/-! ## Base64 -/

/-- Negative outside the alphabet. -/
def base64Value (value : UInt8) : Int :=
  if 'A'.toUInt8 ≤ value ∧ value ≤ 'Z'.toUInt8 then value.toNat - 65
  else if 'a'.toUInt8 ≤ value ∧ value ≤ 'z'.toUInt8 then value.toNat - 97 + 26
  else if '0'.toUInt8 ≤ value ∧ value ≤ '9'.toUInt8 then value.toNat - 48 + 52
  else if value = '+'.toUInt8 then 62
  else if value = '/'.toUInt8 then 63
  else -1

/-- One round of the loop of `DecodeBase64`. -/
def decodeQuantum (last : Bool) (e₀ e₁ e₂ e₃ : UInt8) : Option (List UInt8) :=
  let pad2 := e₂ = '='.toUInt8
  let pad3 := e₃ = '='.toUInt8
  let a := base64Value e₀
  let b := base64Value e₁
  let c := if pad2 then 0 else base64Value e₂
  let d := if pad3 then 0 else base64Value e₃
  if a < 0 ∨ b < 0 ∨ c < 0 ∨ d < 0 ∨ (¬ last ∧ (pad2 ∨ pad3)) ∨ (pad2 ∧ ¬ pad3) ∨
      (pad2 ∧ b.toNat &&& 0x0f ≠ 0) ∨ (¬ pad2 ∧ pad3 ∧ c.toNat &&& 0x03 ≠ 0) then none
  else some (UInt8.ofNat (a.toNat <<< 2 ||| b.toNat >>> 4) ::
    ((if pad2 then [] else [UInt8.ofNat ((b.toNat &&& 0x0f) <<< 4 ||| c.toNat >>> 2)]) ++
      if pad3 then [] else [UInt8.ofNat ((c.toNat &&& 0x03) <<< 6 ||| d.toNat)]))

def decodeQuanta : List UInt8 → Option (List UInt8)
  | e₀ :: e₁ :: e₂ :: e₃ :: rest => do
      let bytes ← decodeQuantum rest.isEmpty e₀ e₁ e₂ e₃
      return bytes ++ (← decodeQuanta rest)
  | _ => some []

def decodeBase64 (encoded : List UInt8) : Option (List UInt8) :=
  if encoded = [] ∨ encoded.length % 4 ≠ 0 ∨
      encoded.length > (maximumBundledRuleSetBytes + 2) / 3 * 4 then none
  else
    match decodeQuanta encoded with
    | none => none
    | some decoded =>
      if decoded ≠ [] ∧ decoded.length ≤ maximumBundledRuleSetBytes then some decoded else none

/-! ### The alphabet -/

theorem base64Value_digit {n : Nat} (h : n < 64) : base64Value (Base64.digit n) = n := by
  have hall : ∀ n < 64, base64Value (Base64.digit n) = n := by decide
  exact hall n h

theorem digit_ne_pad {n : Nat} (h : n < 64) : Base64.digit n ≠ '='.toUInt8 := by
  have hall : ∀ n < 64, Base64.digit n ≠ '='.toUInt8 := by decide
  exact hall n h

/-- A character with a value is the digit of that value. -/
theorem eq_digit_of_base64Value {value : UInt8} (h : 0 ≤ base64Value value) :
    (base64Value value).toNat < 64 ∧ value = Base64.digit (base64Value value).toNat := by
  have hall : ∀ n < 256, 0 ≤ base64Value (UInt8.ofNat n) →
      (base64Value (UInt8.ofNat n)).toNat < 64 ∧
        UInt8.ofNat n = Base64.digit (base64Value (UInt8.ofNat n)).toNat := by
    decide +kernel
  have hvalue : UInt8.ofNat value.toNat = value := UInt8.ofNat_toNat
  rw [← hvalue] at h ⊢
  exact hall value.toNat value.toNat_lt h

/-! ### A group -/

/-- The first byte of a group, and likewise the others: the high bits of one
value and the low bits of the next. -/
theorem join_bits (high low width shift : Nat) (h : low >>> width < 2 ^ shift) :
    high <<< shift ||| low >>> width = high * 2 ^ shift + low / 2 ^ width := by
  rw [← Nat.shiftLeft_add_eq_or_of_lt h, Nat.shiftLeft_eq, Nat.shiftRight_eq_div_pow]

theorem low_bits (n width : Nat) : n &&& (2 ^ width - 1) = n % 2 ^ width :=
  Nat.and_two_pow_sub_one_eq_mod n width

/-- The three bytes that four values stand for. -/
def quantumBytes (a b c d : Nat) : UInt8 × UInt8 × UInt8 :=
  (UInt8.ofNat (a * 4 + b / 16), UInt8.ofNat (b % 16 * 16 + c / 4), UInt8.ofNat (c % 4 * 64 + d))

section Values

variable {a b c d : Nat} (ha : a < 64) (hb : b < 64) (hc : c < 64) (hd : d < 64)

include hb in
theorem first_byte : a <<< 2 ||| b >>> 4 = a * 4 + b / 16 := by
  have h : b >>> 4 < 2 ^ 2 := by
    rw [Nat.shiftRight_eq_div_pow]
    omega
  exact join_bits a b 4 2 h

include hc in
theorem second_byte : (b &&& 0x0f) <<< 4 ||| c >>> 2 = b % 16 * 16 + c / 4 := by
  have h : c >>> 2 < 2 ^ 4 := by
    rw [Nat.shiftRight_eq_div_pow]
    omega
  have hlow : b &&& 0x0f = b % 16 := low_bits b 4
  rw [join_bits _ _ _ _ h, hlow]
  rfl

include hd in
theorem third_byte : (c &&& 0x03) <<< 6 ||| d = c % 4 * 64 + d := by
  have hlow : c &&& 0x03 = c % 4 := low_bits c 2
  have h := join_bits (c &&& 0x03) d 0 6 (by simpa using hd)
  simpa [hlow] using h

include ha hb hc hd in
theorem decodeQuantum_digits (last : Bool) :
    decodeQuantum last (Base64.digit a) (Base64.digit b) (Base64.digit c) (Base64.digit d) =
      some [(quantumBytes a b c d).1, (quantumBytes a b c d).2.1, (quantumBytes a b c d).2.2] := by
  simp only [decodeQuantum, digit_ne_pad hc, digit_ne_pad hd, if_false, base64Value_digit ha,
    base64Value_digit hb, base64Value_digit hc, base64Value_digit hd, Int.toNat_natCast,
    first_byte hb, second_byte hc, third_byte hd, quantumBytes]
  rw [if_neg]
  · rfl
  · simp

include ha hb in
theorem decodeQuantum_one_byte (last : Bool) :
    decodeQuantum last (Base64.digit a) (Base64.digit b) Base64.pad Base64.pad =
      if last = true ∧ b % 16 = 0 then some [(quantumBytes a b 0 0).1] else none := by
  have hlow : b &&& 0x0f = b % 16 := low_bits b 4
  simp only [decodeQuantum, Base64.pad, if_true, base64Value_digit ha, base64Value_digit hb,
    Int.toNat_natCast, first_byte hb, quantumBytes, hlow]
  by_cases hkept : last = true ∧ b % 16 = 0
  · rw [if_pos hkept, if_neg]
    · rfl
    · simp [hkept.1, hkept.2]
  · rw [if_neg hkept, if_pos]
    rcases not_and_or.mp hkept with hlast | hbits
    · simp [hlast]
    · simp [hbits]

include ha hb hc in
theorem decodeQuantum_two_bytes (last : Bool) :
    decodeQuantum last (Base64.digit a) (Base64.digit b) (Base64.digit c) Base64.pad =
      if last = true ∧ c % 4 = 0 then
        some [(quantumBytes a b c 0).1, (quantumBytes a b c 0).2.1] else none := by
  have hlow : c &&& 0x03 = c % 4 := low_bits c 2
  simp only [decodeQuantum, Base64.pad, digit_ne_pad hc, if_true, if_false, base64Value_digit ha,
    base64Value_digit hb, base64Value_digit hc, Int.toNat_natCast, first_byte hb, second_byte hc,
    quantumBytes, hlow]
  by_cases hkept : last = true ∧ c % 4 = 0
  · rw [if_pos hkept, if_neg]
    · rfl
    · simp [hkept.1, hkept.2]
  · rw [if_neg hkept, if_pos]
    rcases not_and_or.mp hkept with hlast | hbits
    · simp [hlast]
    · simp [hbits]

end Values

/-- What a group may look like, by the values of its characters. -/
theorem cases_of_decodeQuantum {last : Bool} {e0 e1 e2 e3 : UInt8} {bytes : List UInt8}
    (h : decodeQuantum last e0 e1 e2 e3 = some bytes) :
    ∃ a b, a < 64 ∧ b < 64 ∧ e0 = Base64.digit a ∧ e1 = Base64.digit b ∧
      ((∃ c d, c < 64 ∧ d < 64 ∧ e2 = Base64.digit c ∧ e3 = Base64.digit d) ∨
        (∃ c, c < 64 ∧ e2 = Base64.digit c ∧ e3 = Base64.pad) ∨
        (e2 = Base64.pad ∧ e3 = Base64.pad)) := by
  simp only [decodeQuantum, Option.ite_none_left_eq_some, not_or] at h
  obtain ⟨⟨h0, h1, h2, h3, -, hpads, -, -⟩, -⟩ := h
  obtain ⟨ha, ha'⟩ := eq_digit_of_base64Value (not_lt.mp h0)
  obtain ⟨hb, hb'⟩ := eq_digit_of_base64Value (not_lt.mp h1)
  refine ⟨_, _, ha, hb, ha', hb', ?_⟩
  by_cases hpad3 : e3 = '='.toUInt8
  · by_cases hpad2 : e2 = '='.toUInt8
    · exact .inr (.inr ⟨hpad2, hpad3⟩)
    · rw [if_neg hpad2, not_lt] at h2
      obtain ⟨hc, hdigit⟩ := eq_digit_of_base64Value h2
      exact .inr (.inl ⟨_, hc, hdigit, hpad3⟩)
  · have hpad2 : e2 ≠ '='.toUInt8 := fun h => hpads ⟨h, hpad3⟩
    rw [if_neg hpad2, not_lt] at h2
    rw [if_neg hpad3, not_lt] at h3
    obtain ⟨hc, hc'⟩ := eq_digit_of_base64Value h2
    obtain ⟨hd, hd'⟩ := eq_digit_of_base64Value h3
    exact .inl ⟨_, _, hc, hd, hc', hd'⟩

/-- The bytes of a group are encoded as that group, and only the last group has
fewer than three. -/
theorem encode_of_decodeQuantum {last : Bool} {e0 e1 e2 e3 : UInt8} {bytes : List UInt8}
    (h : decodeQuantum last e0 e1 e2 e3 = some bytes) :
    Base64.encode bytes = [e0, e1, e2, e3] ∧ (last = true ∨ bytes.length = 3) := by
  obtain ⟨a, b, ha, hb, rfl, rfl, ⟨c, d, hc, hd, rfl, rfl⟩ | ⟨c, hc, rfl, rfl⟩ | ⟨rfl, rfl⟩⟩ :=
    cases_of_decodeQuantum h
  · rw [decodeQuantum_digits ha hb hc hd] at h
    cases h
    refine ⟨?_, .inr rfl⟩
    simp only [Base64.encode, quantumBytes, UInt8.toNat_ofNat', List.cons.injEq, and_true]
    refine ⟨congrArg _ ?_, congrArg _ ?_, congrArg _ ?_, congrArg _ ?_⟩ <;> omega
  · rw [decodeQuantum_two_bytes ha hb hc, Option.ite_none_right_eq_some] at h
    obtain ⟨⟨hlast, hbits⟩, hbytes⟩ := h
    cases hbytes
    refine ⟨?_, .inl hlast⟩
    simp only [Base64.encode, quantumBytes, UInt8.toNat_ofNat', List.cons.injEq, and_true]
    refine ⟨congrArg _ ?_, congrArg _ ?_, congrArg _ ?_⟩ <;> omega
  · rw [decodeQuantum_one_byte ha hb, Option.ite_none_right_eq_some] at h
    obtain ⟨⟨hlast, hbits⟩, hbytes⟩ := h
    cases hbytes
    refine ⟨?_, .inl hlast⟩
    simp only [Base64.encode, quantumBytes, UInt8.toNat_ofNat', List.cons.injEq, and_true]
    refine ⟨congrArg _ ?_, congrArg _ ?_⟩ <;> omega

/-! ### The whole text -/

theorem decodeQuanta_encode (s : List UInt8) : decodeQuanta (Base64.encode s) = some s := by
  fun_induction Base64.encode s with
  | case1 => rfl
  | case2 x =>
    have hx := x.toNat_lt
    rw [decodeQuanta, decodeQuantum_one_byte (by omega) (by omega), if_pos ⟨rfl, by omega⟩]
    simp only [quantumBytes, decodeQuanta, Option.bind_eq_bind, Option.bind_some, Option.pure_def,
      List.append_nil, Option.some.injEq, List.cons.injEq, and_true]
    apply UInt8.toNat.inj
    rw [UInt8.toNat_ofNat']
    omega
  | case3 x y =>
    have hx := x.toNat_lt
    have hy := y.toNat_lt
    rw [decodeQuanta, decodeQuantum_two_bytes (by omega) (by omega) (by omega),
      if_pos ⟨rfl, by omega⟩]
    simp only [quantumBytes, decodeQuanta, Option.bind_eq_bind, Option.bind_some, Option.pure_def,
      List.append_nil, Option.some.injEq, List.cons.injEq, and_true]
    constructor
    · apply UInt8.toNat.inj
      rw [UInt8.toNat_ofNat']
      omega
    · apply UInt8.toNat.inj
      rw [UInt8.toNat_ofNat']
      omega
  | case4 x y z rest ih =>
    have hx := x.toNat_lt
    have hy := y.toNat_lt
    have hz := z.toNat_lt
    rw [decodeQuanta, decodeQuantum_digits (by omega) (by omega) (by omega) (by omega)]
    simp only [quantumBytes, Option.bind_eq_bind, Option.bind_some, Option.pure_def, ih,
      List.cons_append, List.nil_append, Option.some.injEq, List.cons.injEq, and_true]
    refine ⟨?_, ?_, ?_⟩
    · apply UInt8.toNat.inj
      rw [UInt8.toNat_ofNat']
      omega
    · apply UInt8.toNat.inj
      rw [UInt8.toNat_ofNat']
      omega
    · apply UInt8.toNat.inj
      rw [UInt8.toNat_ofNat']
      omega

/-- By groups: all but the last are full. -/
theorem encode_decodeQuanta {encoded decoded : List UInt8} (hlength : encoded.length % 4 = 0)
    (h : decodeQuanta encoded = some decoded) : Base64.encode decoded = encoded := by
  fun_induction decodeQuanta encoded generalizing decoded with
  | case1 e0 e1 e2 e3 rest ih =>
    simp only [Option.bind_eq_bind, Option.bind_eq_some_iff, Option.pure_def,
      Option.some.injEq] at h
    obtain ⟨bytes, hbytes, more, hmore, rfl⟩ := h
    have hrest : rest.length % 4 = 0 := by
      simp only [List.length_cons] at hlength
      omega
    obtain ⟨hgroup, hlast⟩ := encode_of_decodeQuantum hbytes
    have hencode := ih hrest hmore
    rcases hlast with hlast | hthree
    · obtain rfl := List.isEmpty_iff.mp hlast
      cases hmore
      simpa using hgroup
    · rw [Base64.encode_append more hthree, hgroup, hencode]
      rfl
  | case2 encoded hshort =>
    cases h
    rcases encoded with _ | ⟨e0, _ | ⟨e1, _ | ⟨e2, _ | ⟨e3, rest⟩⟩⟩⟩
    · rfl
    · cases hlength
    · cases hlength
    · cases hlength
    · exact absurd rfl (hshort e0 e1 e2 e3 rest)

/-- **Strict base64.** A text is accepted exactly when it is the canonical
encoding of 1 to 131072 bytes, and those bytes are what it is decoded to. So two
texts that are accepted never decode to the same bytes. -/
theorem decodeBase64_strict :
    (∀ encoded decoded, decodeBase64 encoded = some decoded ↔
      encoded = Base64.encode decoded ∧ 1 ≤ decoded.length ∧ decoded.length ≤ 131072) ∧
    ∀ e e' decoded, decodeBase64 e = some decoded → decodeBase64 e' = some decoded → e = e' := by
  have hiff : ∀ encoded decoded, decodeBase64 encoded = some decoded ↔
      encoded = Base64.encode decoded ∧ 1 ≤ decoded.length ∧ decoded.length ≤ 131072 := by
    intro encoded decoded
    constructor
    · intro h
      simp only [decodeBase64, Option.ite_none_left_eq_some, not_or] at h
      obtain ⟨⟨-, hlength, -⟩, h⟩ := h
      cases hquanta : decodeQuanta encoded with
      | none => simp [hquanta] at h
      | some bytes =>
        simp only [hquanta, Option.ite_none_right_eq_some, Option.some.injEq] at h
        obtain ⟨⟨hne, hmax⟩, rfl⟩ := h
        refine ⟨(encode_decodeQuanta (not_not.mp hlength) hquanta).symm, ?_, hmax⟩
        exact List.length_pos_iff.mpr hne
    · rintro ⟨rfl, hpos, hmax⟩
      have hlength := Base64.length_encode decoded
      have hcap : maximumBundledRuleSetBytes = 131072 := rfl
      simp only [decodeBase64, decodeQuanta_encode]
      rw [if_neg, if_pos ⟨List.length_pos_iff.mp hpos, hmax⟩]
      rintro (hnil | hmod | hlong)
      · rw [hnil, List.length_nil] at hlength
        omega
      · omega
      · omega
  refine ⟨hiff, fun e e' decoded he he' => ?_⟩
  rw [((hiff e decoded).mp he).1, ((hiff e' decoded).mp he').1]

theorem decodeBase64_word : decodeBase64 (text "TWE=") = some (text "Ma") :=
  (decodeBase64_strict.1 _ _).mpr ⟨by decide, by decide, by decide⟩

end Pokrov.Windows.Service
