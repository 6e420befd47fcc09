import Mathlib.Data.List.Basic

/-!
# Base64

The canonical encoding of bytes: three bytes at a time make four characters of
six bits, and one or two bytes that are left over are padded.
-/

namespace Base64

/-- The character of a value below 64. -/
def digit (n : Nat) : UInt8 :=
  UInt8.ofNat (if n < 26 then 65 + n else if n < 52 then 71 + n else if n < 62 then n - 4
    else if n = 62 then 43 else 47)

def pad : UInt8 := '='.toUInt8

def encode : List UInt8 → List UInt8
  | [] => []
  | [x] => [digit (x.toNat / 4), digit (x.toNat % 4 * 16), pad, pad]
  | [x, y] =>
    [digit (x.toNat / 4), digit (x.toNat % 4 * 16 + y.toNat / 16), digit (y.toNat % 16 * 4), pad]
  | x :: y :: z :: rest =>
    digit (x.toNat / 4) :: digit (x.toNat % 4 * 16 + y.toNat / 16) ::
      digit (y.toNat % 16 * 4 + z.toNat / 64) :: digit (z.toNat % 64) :: encode rest

theorem length_encode (s : List UInt8) : (encode s).length = (s.length + 2) / 3 * 4 := by
  fun_induction encode s with
  | case1 => rfl
  | case2 x => simp
  | case3 x y => simp
  | case4 x y z rest ih =>
    simp only [List.length_cons, ih]
    omega

/-- Whole groups are encoded on their own. -/
theorem encode_append {s : List UInt8} (rest : List UInt8) (h : s.length = 3) :
    encode (s ++ rest) = encode s ++ encode rest := by
  match s, h with
  | [x, y, z], _ => rfl

/-! ## Without padding -/

/-- The encoding without the padding at its end. -/
def encodeBare : List UInt8 → List UInt8
  | [] => []
  | [x] => [digit (x.toNat / 4), digit (x.toNat % 4 * 16)]
  | [x, y] =>
    [digit (x.toNat / 4), digit (x.toNat % 4 * 16 + y.toNat / 16), digit (y.toNat % 16 * 4)]
  | x :: y :: z :: rest =>
    digit (x.toNat / 4) :: digit (x.toNat % 4 * 16 + y.toNat / 16) ::
      digit (y.toNat % 16 * 4 + z.toNat / 64) :: digit (z.toNat % 64) :: encodeBare rest

theorem digit_inj {m n : Nat} (hm : m < 64) (hn : n < 64) : digit m = digit n ↔ m = n := by
  refine ⟨fun h => ?_, fun h => by rw [h]⟩
  have hvalue := congrArg UInt8.toNat h
  simp only [digit, UInt8.toNat_ofNat'] at hvalue
  split_ifs at hvalue <;> omega

theorem digit_ne_pad {n : Nat} (h : n < 64) : digit n ≠ pad := by
  have hall : ∀ k < 64, digit k ≠ pad := by decide
  exact hall n h

theorem filter_digit {n : Nat} (h : n < 64) (rest : List UInt8) :
    (digit n :: rest).filter (· ≠ pad) = digit n :: rest.filter (· ≠ pad) :=
  List.filter_cons_of_pos (decide_eq_true (digit_ne_pad h))

theorem filter_encode (s : List UInt8) : (encode s).filter (· ≠ pad) = encodeBare s := by
  fun_induction encode s with
  | case1 => rfl
  | case2 x =>
    have := x.toNat_lt
    rw [filter_digit (by omega), filter_digit (by omega)]
    rfl
  | case3 x y =>
    have := x.toNat_lt
    have := y.toNat_lt
    rw [filter_digit (by omega), filter_digit (by omega), filter_digit (by omega)]
    rfl
  | case4 x y z rest ih =>
    have := x.toNat_lt
    have := y.toNat_lt
    have := z.toNat_lt
    rw [filter_digit (by omega), filter_digit (by omega), filter_digit (by omega),
      filter_digit (by omega), ih, encodeBare]

theorem exists_digit_of_mem {s : List UInt8} {c : UInt8} (h : c ∈ encodeBare s) :
    ∃ n < 64, c = digit n := by
  fun_induction encodeBare s with
  | case1 => cases h
  | case2 x =>
    have := x.toNat_lt
    rcases List.mem_pair.mp h with rfl | rfl
    · exact ⟨_, by omega, rfl⟩
    · exact ⟨_, by omega, rfl⟩
  | case3 x y =>
    have := x.toNat_lt
    have := y.toNat_lt
    simp only [List.mem_cons, List.not_mem_nil, or_false] at h
    rcases h with rfl | rfl | rfl
    · exact ⟨_, by omega, rfl⟩
    · exact ⟨_, by omega, rfl⟩
    · exact ⟨_, by omega, rfl⟩
  | case4 x y z rest ih =>
    have := x.toNat_lt
    have := y.toNat_lt
    have := z.toNat_lt
    simp only [List.mem_cons] at h
    rcases h with rfl | rfl | rfl | rfl | h
    · exact ⟨_, by omega, rfl⟩
    · exact ⟨_, by omega, rfl⟩
    · exact ⟨_, by omega, rfl⟩
    · exact ⟨_, by omega, rfl⟩
    · exact ih h

theorem toNat_eq_of_split {x y : UInt8} (hhigh : x.toNat / 4 = y.toNat / 4)
    (hlow : x.toNat % 4 = y.toNat % 4) : x = y := by
  apply UInt8.toNat_inj.mp
  omega

/-- The groups are four characters long, and the last one may have two or three. -/
theorem encodeBare_inj : ∀ {s t : List UInt8}, encodeBare s = encodeBare t → s = t
  | [], [], _ => rfl
  | [x], [x'], h => by
    have := x.toNat_lt
    have := x'.toNat_lt
    simp only [encodeBare, List.cons.injEq, and_true] at h
    rw [digit_inj (by omega) (by omega), digit_inj (by omega) (by omega)] at h
    rw [toNat_eq_of_split h.1 (by omega)]
  | [x, y], [x', y'], h => by
    have := x.toNat_lt
    have := x'.toNat_lt
    have := y.toNat_lt
    have := y'.toNat_lt
    simp only [encodeBare, List.cons.injEq, and_true] at h
    rw [digit_inj (by omega) (by omega), digit_inj (by omega) (by omega),
      digit_inj (by omega) (by omega)] at h
    obtain ⟨h1, h2, h3⟩ := h
    have hy : y.toNat = y'.toNat := by omega
    rw [toNat_eq_of_split h1 (by omega), UInt8.toNat_inj.mp hy]
  | x :: y :: z :: rest, x' :: y' :: z' :: rest', h => by
    have := x.toNat_lt
    have := x'.toNat_lt
    have := y.toNat_lt
    have := y'.toNat_lt
    have := z.toNat_lt
    have := z'.toNat_lt
    simp only [encodeBare, List.cons.injEq] at h
    rw [digit_inj (by omega) (by omega), digit_inj (by omega) (by omega),
      digit_inj (by omega) (by omega), digit_inj (by omega) (by omega)] at h
    obtain ⟨h1, h2, h3, h4, hrest⟩ := h
    have hy : y.toNat = y'.toNat := by omega
    have hz : z.toNat = z'.toNat := by omega
    rw [toNat_eq_of_split h1 (by omega), UInt8.toNat_inj.mp hy, UInt8.toNat_inj.mp hz,
      encodeBare_inj hrest]
  | [], [_], h | [], [_, _], h | [], _ :: _ :: _ :: _, h => by simp [encodeBare] at h
  | [_], [], h | [_], [_, _], h | [_], _ :: _ :: _ :: _, h => by simp [encodeBare] at h
  | [_, _], [], h | [_, _], [_], h | [_, _], _ :: _ :: _ :: _, h => by simp [encodeBare] at h
  | _ :: _ :: _ :: _, [], h | _ :: _ :: _ :: _, [_], h | _ :: _ :: _ :: _, [_, _], h => by
    simp [encodeBare] at h

/-- Four characters are the encoding of three bytes. -/
theorem take_encodeBare (k : Nat) (s : List UInt8) :
    (encodeBare s).take (4 * k) = encodeBare (s.take (3 * k)) := by
  induction k generalizing s with
  | zero => rfl
  | succ k ih =>
    rw [show 4 * (k + 1) = 4 * k + 4 by omega, show 3 * (k + 1) = 3 * k + 3 by omega]
    match s with
    | [] => rfl
    | [_] => simp [encodeBare]
    | [_, _] => simp [encodeBare]
    | x :: y :: z :: rest => simp [encodeBare, ih]

end Base64
