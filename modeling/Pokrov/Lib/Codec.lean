import Mathlib.Data.List.TakeWhile
import Mathlib.Data.Nat.Digits.Lemmas

/-!
# Byte codecs

What text and frame codecs over bytes are put together from: fixed-width
little-endian integers, lower-case hexadecimal, decimal numbers, fields joined
by a separator, and fields at fixed offsets. An encoder answers the empty list
for a value it does not accept and a decoder answers `none`; `RoundTrips` says
that the two are inverse to each other on what they accept.
-/

namespace Codec

variable {α τ : Type}

/-! ## Round trips -/

structure RoundTrips (encode : τ → List α) (decode : List α → Option τ) : Prop where
  decode_encode : ∀ t, encode t ≠ [] → decode (encode t) = some t
  encode_decode : ∀ s t, decode s = some t → encode t = s

theorem RoundTrips.injective {encode : τ → List α} {decode : List α → Option τ}
    (h : RoundTrips encode decode) {t t' : τ} (ht : encode t ≠ []) (heq : encode t = encode t') :
    t = t' := by
  have h1 := h.decode_encode t ht
  have h2 := h.decode_encode t' (heq ▸ ht)
  rw [heq, h2] at h1
  exact (Option.some.inj h1).symm

/-! ## Texts -/

/-- The bytes of an ASCII literal. -/
def text (s : String) : List UInt8 := s.toList.map Char.toUInt8

def isDigit (b : UInt8) : Bool := '0'.toUInt8 ≤ b && b ≤ '9'.toUInt8

def isLower (b : UInt8) : Bool := 'a'.toUInt8 ≤ b && b ≤ 'z'.toUInt8

def isUpper (b : UInt8) : Bool := 'A'.toUInt8 ≤ b && b ≤ 'Z'.toUInt8

def isLowerHex (b : UInt8) : Bool := isDigit b || ('a'.toUInt8 ≤ b && b ≤ 'f'.toUInt8)

variable {b : UInt8} {s : List α} {c : α} {n : Nat} {pos len : Nat}

theorem isDigit_iff : isDigit b = true ↔ 48 ≤ b.toNat ∧ b.toNat ≤ 57 := by
  simp only [isDigit, Bool.and_eq_true, decide_eq_true_eq, UInt8.le_iff_toNat_le]
  rfl

theorem isLowerHex_iff : isLowerHex b = true ↔
      48 ≤ b.toNat ∧ b.toNat ≤ 57 ∨ 97 ≤ b.toNat ∧ b.toNat ≤ 102 := by
  simp only [isLowerHex, Bool.or_eq_true, isDigit_iff, Bool.and_eq_true, decide_eq_true_eq,
    UInt8.le_iff_toNat_le]
  rfl

/-- A class of bytes keeps a byte outside it out of a text. -/
theorem not_mem_of_all {p : α → Bool} (h : s.all p = true) (hc : p c = false) : c ∉ s := by
  intro hmem
  have := List.all_eq_true.mp h c hmem
  rw [hc] at this
  exact absurd this (by decide)

/-! ## Little-endian integers -/

/-- The `w` low bytes of a number, least significant first. -/
def toLE : Nat → Nat → List UInt8
  | 0, _ => []
  | w + 1, n => UInt8.ofNat n :: toLE w (n / 256)

def ofLE : List UInt8 → Nat
  | [] => 0
  | b :: rest => b.toNat + 256 * ofLE rest

@[simp] theorem length_toLE (w n : Nat) : (toLE w n).length = w := by
  induction w generalizing n with
  | zero => rfl
  | succ w ih => simp [toLE, ih]

theorem ofLE_toLE {w n : Nat} (h : n < 256 ^ w) : ofLE (toLE w n) = n := by
  induction w generalizing n with
  | zero =>
    have : n = 0 := by simpa using h
    rw [this]
    rfl
  | succ w ih =>
    have hrest : n / 256 < 256 ^ w := by
      rw [Nat.pow_succ] at h
      omega
    have hbyte : (UInt8.ofNat n).toNat = n % 256 := rfl
    rw [toLE, ofLE, ih hrest, hbyte]
    omega

theorem toLE_ofLE (s : List UInt8) : toLE s.length (ofLE s) = s := by
  induction s with
  | nil => rfl
  | cons b rest ih =>
    have hb : b.toNat < 256 := b.toNat_lt
    have hdiv : (b.toNat + 256 * ofLE rest) / 256 = ofLE rest := by omega
    have hbyte : UInt8.ofNat (b.toNat + 256 * ofLE rest) = b := by
      apply UInt8.toNat.inj
      show (b.toNat + 256 * ofLE rest) % 256 = b.toNat
      omega
    rw [List.length_cons, ofLE, toLE, hdiv, hbyte, ih]

theorem ofLE_lt (s : List UInt8) : ofLE s < 256 ^ s.length := by
  induction s with
  | nil => simp [ofLE]
  | cons b rest ih =>
    have hb : b.toNat < 256 := b.toNat_lt
    rw [ofLE, List.length_cons, Nat.pow_succ]
    omega

/-! ## Hexadecimal -/

def hexDigit (n : Nat) : UInt8 := UInt8.ofNat (if n < 10 then 48 + n else 87 + n)

/-- The value of a digit known to be lower-case hexadecimal. -/
def hexValue (b : UInt8) : Nat :=
  if b ≤ '9'.toUInt8 then b.toNat - 48 else b.toNat - 97 + 10

def hexEncode : List UInt8 → List UInt8
  | [] => []
  | b :: rest => hexDigit (b.toNat / 16) :: hexDigit (b.toNat % 16) :: hexEncode rest

def hexDecode : List UInt8 → List UInt8
  | a :: b :: rest => UInt8.ofNat (hexValue a * 16 + hexValue b) :: hexDecode rest
  | _ => []

theorem toNat_hexDigit (h : n < 16) : (hexDigit n).toNat = if n < 10 then 48 + n else 87 + n := by
  show (if n < 10 then 48 + n else 87 + n) % 256 = _
  split <;> omega

theorem isLowerHex_hexDigit (h : n < 16) : isLowerHex (hexDigit n) = true := by
  rw [isLowerHex_iff, toNat_hexDigit h]
  split <;> omega

theorem hexValue_hexDigit (h : n < 16) : hexValue (hexDigit n) = n := by
  have hle : hexDigit n ≤ '9'.toUInt8 ↔ n < 10 := by
    rw [UInt8.le_iff_toNat_le, toNat_hexDigit h]
    show (if n < 10 then 48 + n else 87 + n) ≤ 57 ↔ _
    split <;> omega
  rw [hexValue, toNat_hexDigit h]
  by_cases hn : n < 10
  · rw [if_pos (hle.mpr hn), if_pos hn]
    omega
  · rw [if_neg (fun hc => hn (hle.mp hc)), if_neg hn]
    omega

theorem hexValue_lt (h : isLowerHex b = true) : hexValue b < 16 := by
  rw [isLowerHex_iff] at h
  simp only [hexValue, UInt8.le_iff_toNat_le]
  show (if b.toNat ≤ 57 then _ else _) < 16
  split <;> omega

theorem hexDigit_hexValue (h : isLowerHex b = true) : hexDigit (hexValue b) = b := by
  apply UInt8.toNat.inj
  rw [toNat_hexDigit (hexValue_lt h)]
  rw [isLowerHex_iff] at h
  have hle : b ≤ '9'.toUInt8 ↔ b.toNat ≤ 57 := UInt8.le_iff_toNat_le
  by_cases hb : b.toNat ≤ 57
  · rw [hexValue, if_pos (hle.mpr hb), if_pos (by omega)]
    omega
  · rw [hexValue, if_neg (fun hc => hb (hle.mp hc)), if_neg (by omega)]
    omega

@[simp] theorem length_hexEncode (s : List UInt8) : (hexEncode s).length = 2 * s.length := by
  induction s with
  | nil => rfl
  | cons b rest ih =>
    rw [hexEncode, List.length_cons, List.length_cons, ih, List.length_cons]
    omega

theorem length_hexDecode (s : List UInt8) : (hexDecode s).length = s.length / 2 := by
  fun_induction hexDecode s with
  | case1 a b rest ih =>
    rw [List.length_cons, ih, List.length_cons, List.length_cons]
    omega
  | case2 s h =>
    match s with
    | [] => rfl
    | [b] => exact (Nat.div_eq_of_lt (by decide : 1 < 2)).symm
    | a :: b :: rest => exact absurd rfl (h a b rest)

theorem all_hexEncode (s : List UInt8) : (hexEncode s).all isLowerHex = true := by
  induction s with
  | nil => rfl
  | cons b rest ih =>
    have hb : b.toNat < 256 := b.toNat_lt
    rw [hexEncode, List.all_cons, List.all_cons, ih, isLowerHex_hexDigit (by omega),
      isLowerHex_hexDigit (by omega)]
    rfl

theorem hexDecode_hexEncode (s : List UInt8) : hexDecode (hexEncode s) = s := by
  induction s with
  | nil => rfl
  | cons b rest ih =>
    have hb : b.toNat < 256 := b.toNat_lt
    have hbyte : UInt8.ofNat (b.toNat / 16 * 16 + b.toNat % 16) = b := by
      rw [Nat.div_add_mod' b.toNat 16]
      exact UInt8.ofNat_toNat
    rw [hexEncode, hexDecode, hexValue_hexDigit (by omega), hexValue_hexDigit (by omega), hbyte, ih]

theorem hexEncode_hexDecode {s : List UInt8} (hall : s.all isLowerHex = true)
    (heven : s.length % 2 = 0) : hexEncode (hexDecode s) = s := by
  fun_induction hexDecode s with
  | case1 a b rest ih =>
    simp only [List.all_cons, Bool.and_eq_true] at hall
    obtain ⟨ha, hb, hrest⟩ := hall
    have hla := hexValue_lt ha
    have hlb := hexValue_lt hb
    have hbyte : (UInt8.ofNat (hexValue a * 16 + hexValue b)).toNat =
        hexValue a * 16 + hexValue b := by
      show (hexValue a * 16 + hexValue b) % 256 = _
      omega
    have hhigh : (hexValue a * 16 + hexValue b) / 16 = hexValue a := by omega
    have hlow : (hexValue a * 16 + hexValue b) % 16 = hexValue b := by omega
    rw [hexEncode, hbyte, hhigh, hlow, hexDigit_hexValue ha, hexDigit_hexValue hb,
      ih hrest (by simp only [List.length_cons] at heven; omega)]
  | case2 s h =>
    match s with
    | [] => rfl
    | [b] => exact absurd heven (by decide : ¬ 1 % 2 = 0)
    | a :: b :: rest => exact absurd rfl (h a b rest)

/-! ## Decimal numbers -/

/-- `std::to_string` of an unsigned number. -/
def toDecimal (n : Nat) : List UInt8 :=
  if n = 0 then text "0" else (Nat.digits 10 n).reverse.map fun d => UInt8.ofNat (48 + d)

/-- The number that a run of digits writes. -/
def ofDecimal (s : List UInt8) : Nat := Nat.ofDigits 10 (s.reverse.map fun b => b.toNat - 48)

/-- `std::from_chars` into an unsigned number of `w` bits, and the rest of the
text: no sign and no blank is taken, and a number out of range is an error. -/
def fromChars (w : Nat) (s : List UInt8) : Option (Nat × List UInt8) :=
  let digits := s.takeWhile isDigit
  if digits = [] then none
  else if ofDecimal digits < 2 ^ w then some (ofDecimal digits, s.dropWhile isDigit)
  else none

/-- `std::from_chars` where the whole text has to be taken. -/
def parseDecimal (w : Nat) (s : List UInt8) : Option Nat :=
  match fromChars w s with
  | some (n, []) => some n
  | _ => none

theorem all_toDecimal (n : Nat) : (toDecimal n).all isDigit = true := by
  unfold toDecimal
  split
  · decide
  · rw [List.all_eq_true]
    intro b hb
    obtain ⟨d, hd, rfl⟩ := List.mem_map.mp hb
    have hlt : d < 10 := Nat.digits_lt_base (by decide) (List.mem_reverse.mp hd)
    rw [isDigit_iff]
    show 48 ≤ (48 + d) % 256 ∧ (48 + d) % 256 ≤ 57
    omega

theorem toDecimal_ne_nil (n : Nat) : toDecimal n ≠ [] := by
  unfold toDecimal
  split
  · decide
  · rename_i hn
    simpa [Nat.digits_eq_nil_iff_eq_zero] using hn

theorem length_toDecimal_le {n k : Nat} (hk : 0 < k) (h : n < 10 ^ k) :
    (toDecimal n).length ≤ k := by
  unfold toDecimal
  split
  · exact hk
  · rw [List.length_map, List.length_reverse]
    exact (Nat.digits_length_le_iff (by decide) n).mpr h

theorem ofDecimal_toDecimal (n : Nat) : ofDecimal (toDecimal n) = n := by
  unfold toDecimal
  split
  · rename_i hn
    rw [hn]
    decide
  · have hdigits : (Nat.digits 10 n).map ((fun b : UInt8 => b.toNat - 48) ∘
        fun d => UInt8.ofNat (48 + d)) = Nat.digits 10 n := by
      refine (List.map_congr_left (g := id) fun d hd => ?_).trans (List.map_id _)
      have hlt : d < 10 := Nat.digits_lt_base (by decide) hd
      show (48 + d) % 256 - 48 = d
      omega
    rw [ofDecimal, ← List.map_reverse, List.reverse_reverse, List.map_map, hdigits]
    exact Nat.ofDigits_digits 10 n

theorem parseDecimal_toDecimal {w n : Nat} (h : n < 2 ^ w) :
    parseDecimal w (toDecimal n) = some n := by
  have hall := List.all_eq_true.mp (all_toDecimal n)
  have htake : (toDecimal n).takeWhile isDigit = toDecimal n := List.takeWhile_eq_self_iff.mpr hall
  have hdrop : (toDecimal n).dropWhile isDigit = [] := List.dropWhile_eq_nil_iff.mpr hall
  simp only [parseDecimal, fromChars, htake, hdrop, if_neg (toDecimal_ne_nil n),
    ofDecimal_toDecimal, if_pos h]

/-! ## Fields with a separator -/

/-- The text before the first separator and the text after it. -/
def cut [DecidableEq α] (c : α) : List α → Option (List α × List α)
  | [] => none
  | b :: rest =>
    if b = c then some ([], rest)
    else (cut c rest).map fun r => (b :: r.1, r.2)

/-- The first `n` fields and the rest of the text. -/
def cuts [DecidableEq α] (c : α) : Nat → List α → Option (List (List α) × List α)
  | 0, s => some ([], s)
  | n + 1, s =>
    match cut c s with
    | none => none
    | some (field, rest) => (cuts c n rest).map fun r => (field :: r.1, r.2)

theorem cut_append [DecidableEq α] {field : List α} (rest : List α) (h : c ∉ field) :
    cut c (field ++ c :: rest) = some (field, rest) := by
  induction field with
  | nil => simp [cut]
  | cons b field ih =>
    have hb : b ≠ c := fun heq => h (heq ▸ List.mem_cons_self)
    rw [List.cons_append, cut, if_neg hb, ih (fun hmem => h (List.mem_cons_of_mem _ hmem))]
    rfl

theorem cuts_intercalate [DecidableEq α] {fields : List (List α)} (last : List α)
    (h : ∀ field ∈ fields, c ∉ field) :
    cuts c fields.length ([c].intercalate (fields ++ [last])) = some (fields, last) := by
  induction fields with
  | nil => simp [cuts]
  | cons field fields ih =>
    have htail : [c].intercalate (field :: fields ++ [last]) =
        field ++ c :: [c].intercalate (fields ++ [last]) := by
      cases fields <;> simp [List.intercalate_cons_cons]
    rw [htail, List.length_cons, cuts, cut_append _ (h field List.mem_cons_self)]
    show (cuts c fields.length _).map _ = _
    rw [ih fun f hf => h f (List.mem_cons_of_mem _ hf)]
    rfl

/-- What follows the last field stays behind it. -/
theorem cut_append_right [DecidableEq α] {field last : List α} (rest : List α)
    (h : cut c s = some (field, last)) : cut c (s ++ rest) = some (field, last ++ rest) := by
  induction s generalizing field with
  | nil => cases h
  | cons b s ih =>
    rw [cut] at h
    rw [List.cons_append, cut]
    split_ifs at h ⊢ with hb
    · cases h
      rfl
    · obtain ⟨r, hr, heq⟩ := Option.map_eq_some_iff.mp h
      cases heq
      rw [ih hr]
      rfl

theorem cuts_append_right [DecidableEq α] {fields : List (List α)} {last : List α} (rest : List α)
    (h : cuts c n s = some (fields, last)) : cuts c n (s ++ rest) = some (fields, last ++ rest) := by
  induction n generalizing s fields with
  | zero =>
    cases h
    rfl
  | succ n ih =>
    rw [cuts] at h
    split at h
    · cases h
    next field tail hcut =>
    obtain ⟨r, hr, heq⟩ := Option.map_eq_some_iff.mp h
    cases heq
    simp only [cuts, cut_append_right rest hcut, ih hr, Option.map_some]

/-- Lines that are all ended, without the end of the last one. -/
theorem dropLast_terminated {lines : List (List α)} (h : lines ≠ []) :
    (lines.flatMap (· ++ [c])).dropLast = [c].intercalate lines := by
  induction lines with
  | nil => exact absurd rfl h
  | cons line lines ih =>
    cases lines with
    | nil => simp
    | cons next lines =>
      have hrest : (next :: lines).flatMap (· ++ [c]) ≠ [] := by simp
      rw [List.flatMap_cons, List.dropLast_append_of_ne_nil hrest, ih (List.cons_ne_nil _ _),
        List.intercalate_cons_cons]

theorem getLast?_terminated {lines : List (List α)} (h : lines ≠ []) :
    (lines.flatMap (· ++ [c])).getLast? = some c := by
  obtain ⟨before, last, rfl⟩ := (List.eq_nil_or_concat' lines).resolve_left h
  simp

theorem count_intercalate [DecidableEq α] (c : α) (field : List α) (fields : List (List α)) :
    ([c].intercalate (field :: fields)).count c =
      field.count c + (fields.map (List.count c)).sum + fields.length := by
  induction fields generalizing field with
  | nil => simp
  | cons next fields ih =>
    rw [List.intercalate_cons_cons, List.count_append, List.count_append, ih]
    simp only [List.count_singleton_self, List.map_cons, List.sum_cons, List.length_cons]
    omega

/-- As many fields as a text has separators, plus one, are its pieces: none of
them can hold a separator itself. -/
theorem intercalate_inj [DecidableEq α] {fields pieces : List (List α)}
    (hlen : fields.length = pieces.length) (hpieces : ∀ piece ∈ pieces, c ∉ piece)
    (heq : [c].intercalate fields = [c].intercalate pieces) : fields = pieces := by
  match fields, pieces with
  | [], [] => rfl
  | field :: fields, piece :: pieces =>
    have hzero : ∀ l ∈ piece :: pieces, l.count c = 0 :=
      fun l hl => List.count_eq_zero.mpr (hpieces l hl)
    have hsum : (pieces.map (List.count c)).sum = 0 := by
      rw [List.sum_eq_zero_iff_forall_eq_nat]
      intro n hn
      obtain ⟨l, hl, rfl⟩ := List.mem_map.mp hn
      exact hzero l (List.mem_cons_of_mem _ hl)
    have hcount := congrArg (List.count c) heq
    rw [count_intercalate, count_intercalate, hzero piece List.mem_cons_self, hsum] at hcount
    simp only [List.length_cons, Nat.add_right_cancel_iff] at hlen
    have hfree : (fields.map (List.count c)).sum = 0 := by omega
    have hfields : ∀ l ∈ field :: fields, c ∉ l := by
      intro l hl
      rw [← List.count_eq_zero]
      rcases List.mem_cons.mp hl with rfl | hl
      · omega
      · exact List.sum_eq_zero_iff_forall_eq_nat.mp hfree _ (List.mem_map_of_mem hl)
    have h1 := List.splitOn_intercalate c hfields (List.cons_ne_nil _ _)
    have h2 := List.splitOn_intercalate c hpieces (List.cons_ne_nil _ _)
    rw [← h1, heq, h2]

/-- An encoder that joins its fields and keeps the body only when the decoder
takes it. It is enough that decoded fields are free of separators and, joined,
give the body back. -/
theorem roundTrips_of_redecode [DecidableEq α] {encode : τ → List α} {decode : List α → Option τ}
    (fields : τ → List (List α))
    (henc : ∀ t, encode t =
      if (decode ([c].intercalate (fields t))).isSome then [c].intercalate (fields t) else [])
    (hlen : ∀ t, (fields t).length = n)
    (hread : ∀ s t, decode s = some t →
      [c].intercalate (fields t) = s ∧ ∀ field ∈ fields t, c ∉ field)
    (hinj : ∀ s t t', decode s = some t' → fields t = fields t' → t = t') :
    RoundTrips encode decode := by
  constructor
  · intro t ht
    rw [henc] at ht ⊢
    split at ht
    · rename_i hsome
      obtain ⟨t', ht'⟩ := Option.isSome_iff_exists.mp hsome
      have hfields : fields t = fields t' := by
        refine intercalate_inj ((hlen t).trans (hlen t').symm) (hread _ _ ht').2 ?_
        exact (hread _ _ ht').1.symm
      rw [if_pos hsome, ht', hinj _ _ _ ht' hfields]
    · exact absurd rfl ht
  · intro s t hs
    rw [henc, (hread s t hs).1, hs]
    rfl

/-! ## Records of one kind -/

/-- A reader that takes each record of a kind, up to a limit, takes all of them. -/
theorem foldlM_records {σ β : Type} {step : σ → α → Option σ} {render : β → α}
    (extend : σ → List β → σ) (size : σ → Nat) (limit : Nat) (good : β → Prop)
    (hnil : ∀ s, extend s [] = s)
    (hcons : ∀ s record records, extend (extend s [record]) records = extend s (record :: records))
    (hsize : ∀ s record, size (extend s [record]) = size s + 1)
    (hstep : ∀ s record, good record → size s < limit → step s (render record) = some (extend s [record]))
    {records : List β} (hgood : ∀ record ∈ records, good record) {s : σ}
    (hlimit : size s + records.length ≤ limit) :
    (records.map render).foldlM step s = some (extend s records) := by
  induction records generalizing s with
  | nil => rw [hnil]; rfl
  | cons record records ih =>
    rw [List.length_cons] at hlimit
    have hfirst := hstep s record (hgood record List.mem_cons_self) (by omega)
    have hrest := ih (fun r hr => hgood r (List.mem_cons_of_mem _ hr)) (s := extend s [record])
      (by rw [hsize]; omega)
    rw [List.map_cons, List.foldlM_cons, hfirst]
    exact hrest.trans (congrArg some (hcons s record records))

/-! ## Fields at fixed offsets -/

/-- `std::string::substr`. -/
def substr (pos len : Nat) (s : List α) : List α := (s.drop pos).take len

theorem mem_substr (h : c ∈ substr pos len s) : ∃ i < len, s[pos + i]? = some c := by
  obtain ⟨i, hi, hget⟩ := List.getElem_of_mem h
  have hlt : i < len := lt_of_lt_of_le hi (List.length_take_le _ _)
  refine ⟨i, hlt, ?_⟩
  have := List.getElem?_eq_some_iff.mpr ⟨hi, hget⟩
  rwa [substr, List.getElem?_take_of_lt hlt, List.getElem?_drop] at this

theorem substr_append (s : List α) (pos m n : Nat) :
    substr pos (m + n) s = substr pos m s ++ substr (pos + m) n s := by
  rw [substr, substr, substr, List.take_add, List.drop_drop]

theorem length_substr (h : pos + len ≤ s.length) : (substr pos len s).length = len := by
  rw [substr, List.length_take, List.length_drop]
  omega

theorem substr_take {pos len n : Nat} (h : pos + len ≤ n) :
    substr pos len (s.take n) = substr pos len s := by
  rw [substr, substr, List.drop_take, List.take_take, Nat.min_eq_left (by omega)]

theorem toLE_substr {s : List UInt8} {pos w : Nat} (h : pos + w ≤ s.length) :
    toLE w (ofLE (substr pos w s)) = substr pos w s := by
  have := toLE_ofLE (substr pos w s)
  rwa [length_substr h] at this

theorem ofLE_substr_lt {s : List UInt8} {pos w : Nat} (h : pos + w ≤ s.length) :
    ofLE (substr pos w s) < 256 ^ w := by
  have := ofLE_lt (substr pos w s)
  rwa [length_substr h] at this

theorem substr_append_drop (s : List α) (pos len : Nat) :
    substr pos len s ++ s.drop (pos + len) = s.drop pos := by
  rw [substr, ← List.drop_drop, List.take_append_drop]

/-- Pieces written one after the other are found where their lengths put them. -/
theorem substr_flatten (before : List (List α)) {piece : List α} {after : List (List α)}
    (hpos : before.flatten.length = pos) (hlen : piece.length = len) :
    substr pos len (before ++ piece :: after).flatten = piece := by
  rw [substr, List.flatten_append, List.flatten_cons, List.drop_left' hpos, List.take_left' hlen]

/-- A field that ends in a separator, before the fields that follow it. -/
theorem intercalate_substr {next : List α} {fields : List (List α)} (h : s[pos + len]? = some c)
    (hrest : [c].intercalate (next :: fields) = s.drop (pos + len + 1)) :
    [c].intercalate (substr pos len s :: next :: fields) = s.drop pos := by
  obtain ⟨hlt, hget⟩ := List.getElem?_eq_some_iff.mp h
  have hdrop : s.drop (pos + len) = c :: s.drop (pos + len + 1) := by
    rw [← hget]
    exact List.drop_eq_getElem_cons hlt
  rw [List.intercalate_cons_cons, hrest, List.append_assoc, List.singleton_append, ← hdrop,
    substr_append_drop]

/-- The field that ends the text. -/
theorem intercalate_substr_last (h : s.length = pos + len) :
    [c].intercalate [substr pos len s] = s.drop pos := by
  rw [List.intercalate_singleton]
  exact List.take_of_length_le (by rw [List.length_drop]; omega)

end Codec
