import Pokrov.SupportBundle.CodeSymbols

/-!
# Reading a code back

What `encode` has written is read back, in either case and with any white space and
hyphens, and a code in which one symbol is replaced by another is not read. Of
`toUpperCase` it is relied on that it maps characters one by one and what it does to ASCII
and to white space.
-/

namespace Pokrov.SupportBundle.SupportDiagnosticCode

open Dart BitGroups XorRegister

/-! ## Upper case -/

def isHighSurrogate (u : UInt16) : Bool := 0xD800 ≤ u && u < 0xDC00

def isLowSurrogate (u : UInt16) : Bool := 0xDC00 ≤ u && u < 0xE000

/-- The two texts do not cut a pair of surrogates. -/
def Whole (a b : Text) : Prop := ¬ (a.getLast?.any isHighSurrogate ∧ b.head?.any isLowSurrogate)

def upperUnit (u : UInt16) : UInt16 := if isLower u then u - 0x20 else u

structure UpperCase (toUpperCase : Text → Text) : Prop where
  append : ∀ a b, Whole a b → toUpperCase (a ++ b) = toUpperCase a ++ toUpperCase b
  ascii : ∀ u, u < 0x80 → toUpperCase [u] = [upperUnit u]
  space : ∀ u, isPatternSpace u = true → toUpperCase [u] = [u]

/-- ASCII or white space. -/
def Plain (s : Text) : Prop := ∀ u ∈ s, u < 0x80 ∨ isPatternSpace u = true

variable {u : UInt16}

theorem isLower_iff : isLower u = true ↔ 97 ≤ u.toNat ∧ u.toNat ≤ 122 := by
  simp [isLower, between, UInt16.le_iff_toNat_le, unit]

theorem toNat_upperUnit (h : isLower u = true) : (upperUnit u).toNat = u.toNat - 32 := by
  have hbounds := isLower_iff.mp h
  rw [upperUnit, if_pos h, UInt16.toNat_sub_of_le _ _ (by rw [UInt16.le_iff_toNat_le]; simp; omega)]
  rfl

theorem upperUnit_of_not_lower (h : isLower u = false) : upperUnit u = u := by
  simp [upperUnit, h]

theorem isPatternSpace_iff : isPatternSpace u = true ↔
    9 ≤ u.toNat ∧ u.toNat ≤ 13 ∨ u.toNat = 0x20 ∨ u.toNat = 0xA0 ∨ u.toNat = 0x1680 ∨
      0x2000 ≤ u.toNat ∧ u.toNat ≤ 0x200A ∨ u.toNat = 0x2028 ∨ u.toNat = 0x2029 ∨
      u.toNat = 0x202F ∨ u.toNat = 0x205F ∨ u.toNat = 0x3000 ∨ u.toNat = 0xFEFF := by
  simp [isPatternSpace, UInt16.le_iff_toNat_le, ← UInt16.toNat_inj]
  omega

/-- What is left of a code. -/
def kept (u : UInt16) : Bool := !(isPatternSpace u || u = unit '-')

theorem kept_iff : kept u = true ↔ isPatternSpace u = false ∧ u.toNat ≠ 45 := by
  simp [kept, ← UInt16.toNat_inj, unit]

theorem kept_upperUnit (u : UInt16) : kept (upperUnit u) = kept u := by
  cases hlower : isLower u with
  | false => rw [upperUnit_of_not_lower hlower]
  | true =>
    have hbounds := isLower_iff.mp hlower
    have hupper := toNat_upperUnit hlower
    have hold : kept u = true := by
      rw [kept_iff, ← Bool.not_eq_true, isPatternSpace_iff]
      omega
    have hnew : kept (upperUnit u) = true := by
      rw [kept_iff, ← Bool.not_eq_true, isPatternSpace_iff]
      omega
    rw [hold, hnew]

theorem strip_eq (s : Text) : strip s = s.filter kept := rfl

@[simp] theorem strip_append (a b : Text) : strip (a ++ b) = strip a ++ strip b :=
  List.filter_append a b

theorem strip_map_upperUnit (s : Text) : strip (s.map upperUnit) = (strip s).map upperUnit := by
  rw [strip_eq, strip_eq, List.filter_map]
  congr 1
  exact List.filter_congr fun u _ => kept_upperUnit u

section

variable {toUpperCase : Text → Text} (hupper : UpperCase toUpperCase)

include hupper

theorem UpperCase.nil : toUpperCase [] = [] := by
  have h := hupper.append [] [] (by simp [Whole])
  simpa using h

theorem UpperCase.plain {s : Text} (h : Plain s) : toUpperCase s = s.map upperUnit := by
  induction s with
  | nil => exact hupper.nil
  | cons u s ih =>
    have hu := h u (by simp)
    have hwhole : Whole [u] s := by
      rintro ⟨hhigh, -⟩
      simp [isHighSurrogate, UInt16.le_iff_toNat_le, UInt16.lt_iff_toNat_lt] at hhigh
      rcases hu with hascii | hspace
      · rw [UInt16.lt_iff_toNat_lt] at hascii
        have : (128 : UInt16).toNat = 128 := rfl
        omega
      · have := isPatternSpace_iff.mp hspace
        omega
    have hfirst : toUpperCase [u] = [upperUnit u] := by
      by_cases hascii : u < 0x80
      · exact hupper.ascii u hascii
      · have hspace := hu.resolve_left hascii
        have hlower : isLower u = false := by
          rw [← Bool.not_eq_true, isLower_iff]
          have := isPatternSpace_iff.mp hspace
          omega
        rw [hupper.space u hspace, upperUnit_of_not_lower hlower]
    have hsplit := hupper.append [u] s hwhole
    rw [List.singleton_append] at hsplit
    rw [hsplit, hfirst, ih fun x hx => h x (by simp [hx])]
    rfl

/-- Lower case, white space and hyphens do not matter. -/
theorem UpperCase.strip_eq {code value : Text} (hcode : ∀ u ∈ strip code, u < 0x80)
    (hvalue : (strip value).map upperUnit = strip code) : strip (toUpperCase value) = strip code := by
  have hplain : Plain value := by
    intro u hu
    by_cases hkept : kept u = true
    · have hmem : upperUnit u ∈ strip code := by
        rw [← hvalue]
        exact List.mem_map_of_mem (List.mem_filter.mpr ⟨hu, hkept⟩)
      have hascii := hcode _ hmem
      rw [UInt16.lt_iff_toNat_lt] at hascii ⊢
      left
      cases hlower : isLower u with
      | false => rwa [upperUnit_of_not_lower hlower] at hascii
      | true =>
        have := isLower_iff.mp hlower
        show u.toNat < 128
        omega
    · rw [Bool.not_eq_true, kept, Bool.not_eq_false', Bool.or_eq_true] at hkept
      rcases hkept with hspace | hhyphen
      · exact Or.inr hspace
      · left
        rw [of_decide_eq_true hhyphen]
        decide
  rw [hupper.plain hplain, strip_map_upperUnit, hvalue]

end

/-! ## The text of a code -/

theorem alphabet_kept : ∀ u ∈ alphabet, kept u = true ∧ u < 0x80 := by
  have hall : alphabet.all (fun u => kept u && decide (u < 0x80)) = true := by decide
  simpa using hall

theorem strip_of_alphabet {s : Text} (h : ∀ u ∈ s, u ∈ alphabet) : strip s = s :=
  List.filter_eq_self.mpr fun u hu => (alphabet_kept u (h u hu)).1

/-- The name of a layout. -/
def name (selective legacy : Bool) : Text :=
  if legacy then text "PSD1" else if selective then text "PSD3" else text "PSD2"

theorem take_append_drop_sub (s : Text) (first last : Nat) (h : first ≤ last) :
    (s.drop first).take (last - first) ++ s.drop last = s.drop first := by
  have hdrop : s.drop last = (s.drop first).drop (last - first) := by
    rw [List.drop_drop, Nat.add_sub_cancel' h]
  rw [hdrop, List.take_append_drop]

/-- The groups of a body are the body. -/
theorem strip_write {body : Text} {selective legacy : Bool} (hbody : ∀ u ∈ body, u ∈ alphabet)
    (hlength : body.length = if legacy then 16 else 21) :
    strip (write body selective legacy) = name selective legacy ++ body := by
  have hdrop : ∀ first, strip (body.drop first) = body.drop first := fun first =>
    strip_of_alphabet fun u hu => hbody u (List.mem_of_mem_drop hu)
  have hslice : ∀ first last, strip ((body.drop first).take (last - first)) =
      (body.drop first).take (last - first) := fun first last =>
    strip_of_alphabet fun u hu => hbody u (List.mem_of_mem_drop (List.mem_of_mem_take hu))
  have hhyphen : strip (text "-") = [] := by decide
  have h1 := take_append_drop_sub body 0 4 (by decide)
  have h2 := take_append_drop_sub body 4 8 (by decide)
  have h3 := take_append_drop_sub body 8 12 (by decide)
  have h4 := take_append_drop_sub body 12 16 (by decide)
  cases legacy with
  | true =>
    have hname : strip (text "PSD1-") = text "PSD1" := by decide
    have hlast : (body.drop 12).take (16 - 12) = body.drop 12 :=
      List.take_of_length_le (by simp [hlength])
    simp only [write, if_true, strip_append, hhyphen, hname, List.nil_append, hlast, hslice, hdrop,
      List.append_assoc, name]
    rw [h3, h2, h1, List.drop_zero]
  | false =>
    have hname : strip (if selective then text "PSD3" else text "PSD2") =
        if selective then text "PSD3" else text "PSD2" := by cases selective <;> decide
    have hlast : (body.drop 16).take (21 - 16) = body.drop 16 :=
      List.take_of_length_le (by simp [hlength])
    simp only [write, Bool.false_eq_true, if_false, strip_append, hhyphen, hname, List.nil_append,
      hlast, hslice, hdrop, List.append_assoc, name]
    rw [h4, h3, h2, h1, List.drop_zero]

/-! ## Bytes -/

theorem facts_plain : ∀ p < 2, ∀ r < 4, ∀ s < 5,
    let facts := p <<< 5 ||| r <<< 3 ||| s
    facts < 2 ^ 8 ∧ (facts >>> 5) &&& 1 = p ∧ (facts >>> 3) &&& 3 = r ∧ facts &&& 7 = s ∧
      facts &&& 0xc0 = 0 := by
  decide

theorem facts_selective : ∀ p < 2, ∀ s < 5,
    let facts := 0x80 ||| p <<< 6 ||| 4 <<< 3 ||| s
    facts < 2 ^ 8 ∧ (facts >>> 6) &&& 1 = p ∧ (facts >>> 3) &&& 7 = 4 ∧ facts &&& 7 = s ∧
      facts &&& 0x80 ≠ 0 := by
  decide

/-- A byte behind the higher ones. -/
theorem shiftLeft_or_and (n : Nat) : (n >>> 8) <<< 8 ||| (n &&& 0xff) = n := by
  apply Nat.eq_of_testBit_eq
  intro i
  have hmask : (0xff : Nat).testBit i = decide (i < 8) := Nat.testBit_two_pow_sub_one 8 i
  simp only [Nat.testBit_or, Nat.testBit_shiftLeft, Nat.testBit_shiftRight, Nat.testBit_and, hmask]
  by_cases hi : i < 8
  · simp [hi, show ¬ 8 ≤ i by omega]
  · simp [hi, show 8 ≤ i by omega]

theorem and_ff_lt (n : Nat) : n &&& 0xff < 2 ^ 8 := Nat.and_lt_two_pow n (by decide)

theorem and_ff_of_lt {n : Nat} (h : n < 2 ^ 8) : n &&& 0xff = n := by
  rw [show (0xff : Nat) = 2 ^ 8 - 1 by rfl, Nat.and_two_pow_sub_one_eq_mod, Nat.mod_eq_of_lt h]

theorem pair_of_days {days : Nat} (h : days ≤ 0xffff) :
    ((days >>> 8) &&& 0xff) <<< 8 ||| (days &&& 0xff) = days := by
  rw [and_ff_of_lt (by rw [Nat.shiftRight_eq_div_pow]; omega), shiftLeft_or_and]

theorem quad_of_build {build : Nat} (h : build ≤ 0x7fffffff) :
    ((build >>> 24) &&& 0xff) <<< 24 ||| ((build >>> 16) &&& 0xff) <<< 16 |||
      ((build >>> 8) &&& 0xff) <<< 8 ||| (build &&& 0xff) = build := by
  have htop : (build >>> 24) &&& 0xff = build >>> 8 >>> 8 >>> 8 := by
    rw [and_ff_of_lt (by rw [Nat.shiftRight_eq_div_pow]; omega), ← Nat.shiftRight_add,
      ← Nat.shiftRight_add]
  have hnext : (build >>> 16) &&& 0xff = build >>> 8 >>> 8 &&& 0xff := by
    rw [← Nat.shiftRight_add]
  rw [htop, hnext]
  symm
  calc
    build = (build >>> 8) <<< 8 ||| (build &&& 0xff) := (shiftLeft_or_and build).symm
    _ = ((build >>> 8 >>> 8) <<< 8 ||| (build >>> 8 &&& 0xff)) <<< 8 ||| (build &&& 0xff) := by
      rw [shiftLeft_or_and (build >>> 8)]
    _ = (((build >>> 8 >>> 8 >>> 8) <<< 8 ||| (build >>> 8 >>> 8 &&& 0xff)) <<< 8 |||
          (build >>> 8 &&& 0xff)) <<< 8 ||| (build &&& 0xff) := by
      rw [shiftLeft_or_and (build >>> 8 >>> 8)]
    _ = _ := by simp only [Nat.shiftLeft_or_distrib, ← Nat.shiftLeft_add, Nat.reduceAdd]

theorem mem_lowerHex {u : UInt16} (h : isLowerHex u = true) : u ∈ text "0123456789abcdef" := by
  have hall : ∀ n < 128, isLowerHex (UInt16.ofNat n) = true →
      UInt16.ofNat n ∈ text "0123456789abcdef" := by decide
  have hlt : u.toNat < 128 := by
    simp [isLowerHex, between, isDigit_iff, UInt16.le_iff_toNat_le, unit] at h
    omega
  have hu := hall u.toNat hlt
  rw [UInt16.ofNat_toNat] at hu
  exact hu h

/-- Two digits are written as they were read. -/
theorem hexText_hexByte (hash : Text) (start : Nat) {a b : UInt16} {rest : Text}
    (hdrop : hash.drop start = a :: b :: rest) (ha : isLowerHex a = true) (hb : isLowerHex b = true) :
    hexByte hash start < 2 ^ 8 ∧ hexText (hexByte hash start) = [a, b] := by
  have hall : (text "0123456789abcdef").all (fun a => (text "0123456789abcdef").all fun b =>
      let byte := [a, b].foldl (fun n u => n * 16 + (JsonText.hexValue u).getD 0) 0
      decide (byte < 2 ^ 8 ∧ hexText byte = [a, b])) = true := by decide +kernel
  have hbyte := List.all_eq_true.mp (List.all_eq_true.mp hall a (mem_lowerHex ha)) b (mem_lowerHex hb)
  rw [hexByte, hdrop]
  exact of_decide_eq_true hbyte

/-! ## Days -/

theorem utcDate_eq (d : DateTime) :
    ∃ date, utcDate d = some date ∧ date.micros = d.days * microsecondsPerDay := by
  have hmonth := Calendar.civilOf_month d.days
  have hday := Calendar.civilOf_day d.days
  have hlower := d.lower
  have hupper := d.upper
  have hbound : -maxMicroseconds ≤ d.days * microsecondsPerDay ∧
      d.days * microsecondsPerDay ≤ maxMicroseconds := by
    unfold maxMicroseconds at *
    unfold DateTime.days microsecondsPerDay
    omega
  refine ⟨⟨d.days * microsecondsPerDay, hbound.1, hbound.2⟩, ?_, rfl⟩
  have hdate : (⟨d.date.year, d.date.month.toNat, d.date.day.toNat⟩ : Calendar.Civil) = d.date := by
    unfold DateTime.date
    rw [Int.toNat_of_nonneg (by omega), Int.toNat_of_nonneg (by omega)]
  unfold utcDate DateTime.ofParts
  rw [hdate, DateTime.date, Calendar.daysOf_civilOf]
  have hwrap : DateTime.wrap ((((d.days * 24 + (0 : Nat)) * 60 + 0) * 60 + (0 : Nat)) * 1000000 +
      (0 : Nat)) = d.days * microsecondsPerDay := by
    unfold maxMicroseconds at hbound
    unfold DateTime.wrap microsecondsPerDay at *
    omega
  rw [hwrap]
  exact DateTime.ofMicros_micros ⟨d.days * microsecondsPerDay, hbound.1, hbound.2⟩

/-- Days behind the epoch that fit into two bytes lead to a day, and so do two weeks more. -/
theorem epoch_add {issued : DateTime} {days : Nat} (hdays : days ≤ 0xffff)
    (h : issued.micros = epoch.micros + microsecondsPerDay * days) :
    epoch.add (microsecondsPerDay * days) = some issued ∧
      ∃ expires, issued.add (microsecondsPerDay * 14) = some expires := by
  have hepoch : epoch.micros = 1577836800000000 := rfl
  constructor
  · have hwrap : DateTime.wrap (epoch.micros + microsecondsPerDay * days) = issued.micros := by
      rw [h, hepoch]
      unfold DateTime.wrap microsecondsPerDay
      omega
    rw [DateTime.add, hwrap, DateTime.ofMicros_micros]
  · have hwrap : DateTime.wrap (issued.micros + microsecondsPerDay * 14) =
        issued.micros + microsecondsPerDay * 14 := by
      rw [h, hepoch]
      unfold DateTime.wrap microsecondsPerDay
      omega
    rw [DateTime.add, hwrap, DateTime.ofMicros, dif_pos]
    · exact ⟨_, rfl⟩
    · rw [h, hepoch]
      unfold maxMicroseconds microsecondsPerDay
      omega

/-! ## What is packed -/

/-- All that is packed is in its range. -/
structure Packable (platformIndex routeIndex stateIndex days : Nat) (versionParts : List Nat)
    (buildNumber : Nat) (hash : Text) : Prop where
  platform : platformIndex < 2
  route : routeIndex < 5
  state : stateIndex < 5
  days : days ≤ 0xffff
  parts : ∃ major minor patch, versionParts = [major, minor, patch] ∧ major < 2 ^ 8 ∧
    minor < 2 ^ 8 ∧ patch < 2 ^ 8
  build : buildNumber ≤ 0x7fffffff
  hash : ∃ a b c d rest, hash = a :: b :: c :: d :: rest ∧ isLowerHex a = true ∧
    isLowerHex b = true ∧ isLowerHex c = true ∧ isLowerHex d = true

/-- The bytes of a layout. -/
def lengthOf (legacy : Bool) : Nat := if legacy then 9 else 12

section

variable {p r s days : Nat} {versionParts : List Nat} {build : Nat} {hash : Text}

variable {selective legacy : Bool}

theorem rawBytes_lt (h : Packable p r s days versionParts build hash)
    (hselective : selective = decide (r = 4))
    (hlegacy : legacy = (!selective && decide (build ≤ 0xff))) :
    (rawBytes p r s days versionParts build hash selective legacy).length = lengthOf legacy ∧
      ∀ b ∈ rawBytes p r s days versionParts build hash selective legacy, b < 2 ^ 8 := by
  obtain ⟨major, minor, patch, rfl, hmajor, hminor, hpatch⟩ := h.parts
  obtain ⟨a, b, c, d, rest, rfl, ha, hb, hc, hd⟩ := h.hash
  have hfirst := (hexText_hexByte (a :: b :: c :: d :: rest) 0 rfl ha hb).1
  have hsecond := (hexText_hexByte (a :: b :: c :: d :: rest) 2 rfl hc hd).1
  have hfacts : (if selective then 0x80 ||| p <<< 6 ||| r <<< 3 ||| s
      else p <<< 5 ||| r <<< 3 ||| s) < 2 ^ 8 := by
    cases selective with
    | true =>
      have hr : r = 4 := of_decide_eq_true hselective.symm
      rw [if_pos rfl, hr]
      exact (facts_selective p h.platform s h.state).1
    | false =>
      have hr : r ≠ 4 := of_decide_eq_false hselective.symm
      have := h.route
      exact (facts_plain p h.platform r (by omega) s h.state).1
  cases legacy with
  | true =>
    have hbuild : build < 2 ^ 8 := by
      simp at hlegacy
      omega
    constructor
    · rfl
    · simp only [rawBytes, if_true, List.forall_mem_append, List.forall_mem_cons]
      simp only [List.not_mem_nil, false_implies, implies_true, and_true]
      exact ⟨⟨⟨⟨hfacts, and_ff_lt _, and_ff_lt _⟩, hmajor, hminor, hpatch⟩, hbuild⟩, hfirst, hsecond⟩
  | false =>
    constructor
    · rfl
    · simp only [rawBytes, Bool.false_eq_true, if_false, List.forall_mem_append,
        List.forall_mem_cons]
      simp only [List.not_mem_nil, false_implies, implies_true, and_true]
      exact ⟨⟨⟨⟨hfacts, and_ff_lt _, and_ff_lt _⟩, hmajor, hminor, hpatch⟩, and_ff_lt _, and_ff_lt _,
        and_ff_lt _, and_ff_lt _⟩, hfirst, hsecond⟩

/-- The bytes come back as what was packed. -/
theorem unpack_rawBytes (h : Packable p r s days versionParts build hash)
    (hselective : selective = decide (r = 4))
    (hlegacy : legacy = (!selective && decide (build ≤ 0xff))) {issued : DateTime}
    (hissued : issued.micros = epoch.micros + microsecondsPerDay * days) (now : DateTime) :
    ∃ facts, unpack (rawBytes p r s days versionParts build hash selective legacy ++
        [crc8 (rawBytes p r s days versionParts build hash selective legacy)]) legacy selective now =
          .ok facts ∧
      facts.platform = platforms.getD p [] ∧ facts.routeMode = routeModes.getD r [] ∧
      facts.connectionState = connectionStates.getD s [] ∧
      facts.appVersion = JsonText.decimal (versionParts.getD 0 0) ++ text "." ++
        JsonText.decimal (versionParts.getD 1 0) ++ text "." ++
        JsonText.decimal (versionParts.getD 2 0) ∧
      facts.buildNumber = build ∧ facts.diagnosticHashPrefix = hash.take 4 ∧
      facts.issuedOn = issued := by
  have hlength := (rawBytes_lt h hselective hlegacy).1
  obtain ⟨major, minor, patch, rfl, hmajor, hminor, hpatch⟩ := h.parts
  obtain ⟨a, b, c, d, rest, rfl, ha, hb, hc, hd⟩ := h.hash
  have hfirst := (hexText_hexByte (a :: b :: c :: d :: rest) 0 rfl ha hb).2
  have hsecond := (hexText_hexByte (a :: b :: c :: d :: rest) 2 rfl hc hd).2
  obtain ⟨hadd, expires, hexpires⟩ := epoch_add h.days hissued
  obtain ⟨current, hcurrent, -⟩ := utcDate_eq now
  have hdays := pair_of_days h.days
  have hbuild := quad_of_build h.build
  cases selective with
  | true =>
    have hr : r = 4 := of_decide_eq_true hselective.symm
    subst hr
    obtain rfl : legacy = false := by simpa using hlegacy
    obtain ⟨-, hp, hroute, hs, hmark⟩ := facts_selective p h.platform s h.state
    have hstate : ¬ connectionStates.length ≤ s := Nat.not_le.mpr h.state
    simp only [rawBytes, if_true, Bool.false_eq_true, if_false, List.cons_append, List.nil_append,
      unpack, List.length_cons, List.length_nil, List.getD_cons_zero, List.getD_cons_succ,
      List.take_succ_cons, List.take_zero, ne_eq, not_true_eq_false, or_self, hp, hroute, hs, hmark,
      hstate, hdays, hbuild, hadd, hexpires, hcurrent, Nat.not_lt.mpr h.build, Nat.reduceAdd,
      Nat.reduceSub]
    exact ⟨_, rfl, rfl, rfl, rfl, rfl, rfl, by simp [hfirst, hsecond], rfl⟩
  | false =>
    have hr : r < 4 := by
      have hne : r ≠ 4 := of_decide_eq_false hselective.symm
      have hlt := h.route
      omega
    obtain ⟨-, hp, hroute, hs, hmark⟩ := facts_plain p h.platform r hr s h.state
    have hstate : ¬ connectionStates.length ≤ s := Nat.not_le.mpr h.state
    cases legacy with
    | true =>
      simp only [rawBytes, if_true, Bool.false_eq_true, if_false, List.cons_append,
        List.nil_append, unpack, List.length_cons, List.length_nil, List.getD_cons_zero,
        List.getD_cons_succ, List.take_succ_cons, List.take_zero, ne_eq, not_true_eq_false, or_self,
        hp, hroute, hs, hmark, hstate, hdays, hadd, hexpires, hcurrent, Nat.not_lt.mpr h.build,
        Nat.reduceAdd, Nat.reduceSub]
      exact ⟨_, rfl, rfl, rfl, rfl, rfl, rfl, by simp [hfirst, hsecond], rfl⟩
    | false =>
      simp only [rawBytes, Bool.false_eq_true, if_false, List.cons_append, List.nil_append,
        unpack, List.length_cons, List.length_nil, List.getD_cons_zero, List.getD_cons_succ,
        List.take_succ_cons, List.take_zero, ne_eq, not_true_eq_false, or_self, hp, hroute, hs,
        hmark, hstate, hdays, hbuild, hadd, hexpires, hcurrent, Nat.not_lt.mpr h.build,
        Nat.reduceAdd, Nat.reduceSub]
      exact ⟨_, rfl, rfl, rfl, rfl, rfl, rfl, by simp [hfirst, hsecond], rfl⟩

theorem name_length (selective legacy : Bool) : (name selective legacy).length = 4 := by
  cases selective <;> cases legacy <;> rfl

theorem name_ascii (selective legacy : Bool) : ∀ u ∈ name selective legacy, u < 0x80 := by
  have hall : (name selective legacy).all (fun u => decide (u < 0x80)) = true := by
    cases selective <;> cases legacy <;> decide
  simpa using hall

/-- The shape of a code says which layout it has. -/
theorem hasShape_name (hone : selective = true → legacy = false) {body : Text}
    (hbody : ∀ u ∈ body, u ∈ alphabet) (hlength : body.length = if legacy then 16 else 21) :
    hasShape (text "PSD1") 16 (name selective legacy ++ body) = legacy ∧
      hasShape (text "PSD2") 21 (name selective legacy ++ body) = (!selective && !legacy) ∧
      hasShape (text "PSD3") 21 (name selective legacy ++ body) = selective := by
  have hall : body.all alphabet.contains = true :=
    List.all_eq_true.mpr fun u hu => List.contains_iff_mem.mpr (hbody u hu)
  have hdrop : (name selective legacy ++ body).drop 4 = body := by
    rw [← name_length selective legacy, List.drop_left]
  simp only [hasShape, hdrop, hall, Bool.and_true, hlength]
  cases legacy with
  | true =>
    obtain rfl : selective = false := by cases selective <;> simp_all
    exact ⟨rfl, rfl, rfl⟩
  | false => cases selective <;> exact ⟨rfl, rfl, rfl⟩

/-- What is packed is read back from any text that is the code but for case, white space
and hyphens. -/
theorem decode_pack {toUpperCase : Text → Text} (hupper : UpperCase toUpperCase)
    (h : Packable p r s days versionParts build hash) {issued : DateTime}
    (hissued : issued.micros = epoch.micros + microsecondsPerDay * days) {value : Text}
    (hvalue : (strip value).map upperUnit =
      strip (pack p r s days versionParts build hash (decide (r = 4)))) (now : DateTime) :
    ∃ facts, decode toUpperCase value now = .ok facts ∧
      facts.platform = platforms.getD p [] ∧ facts.routeMode = routeModes.getD r [] ∧
      facts.connectionState = connectionStates.getD s [] ∧
      facts.appVersion = JsonText.decimal (versionParts.getD 0 0) ++ text "." ++
        JsonText.decimal (versionParts.getD 1 0) ++ text "." ++
        JsonText.decimal (versionParts.getD 2 0) ∧
      facts.buildNumber = build ∧ facts.diagnosticHashPrefix = hash.take 4 ∧
      facts.issuedOn = issued := by
  obtain ⟨selective, hselective⟩ : ∃ selective, selective = decide (r = 4) := ⟨_, rfl⟩
  obtain ⟨legacy, hlegacy⟩ : ∃ legacy, legacy = (!selective && decide (build ≤ 0xff)) := ⟨_, rfl⟩
  have hone : selective = true → legacy = false := by
    rintro rfl
    simpa using hlegacy
  obtain ⟨hlength, hraw⟩ := rawBytes_lt h hselective hlegacy
  obtain ⟨facts, hunpack, hfacts⟩ := unpack_rawBytes h hselective hlegacy hissued now
  have hpack : pack p r s days versionParts build hash (decide (r = 4)) =
      write (encodeCrockford (rawBytes p r s days versionParts build hash selective legacy ++
        [crc8 (rawBytes p r s days versionParts build hash selective legacy)])) selective legacy := by
    rw [hlegacy, hselective]
    rfl
  rw [hpack] at hvalue
  generalize rawBytes p r s days versionParts build hash selective legacy = raw at *
  have hbytes : ∀ b ∈ raw ++ [crc8 raw], b < 2 ^ 8 := by
    intro b hb
    rcases List.mem_append.mp hb with hb | hb
    · exact hraw b hb
    · rw [List.mem_singleton.mp hb]
      exact crc8_lt raw
  have hbody := encodeCrockford_alphabet hbytes
  have hcount : (encodeCrockford (raw ++ [crc8 raw])).length = if legacy then 16 else 21 := by
    rw [length_encodeCrockford hbytes, List.length_append, hlength]
    cases legacy <;> simp [lengthOf]
  rw [strip_write hbody hcount] at hvalue
  have hascii : ∀ u ∈ name selective legacy ++ encodeCrockford (raw ++ [crc8 raw]), u < 0x80 := by
    intro u hu
    rcases List.mem_append.mp hu with hu | hu
    · exact name_ascii selective legacy u hu
    · exact (alphabet_kept u (hbody u hu)).2
  have hstripped : strip (write (encodeCrockford (raw ++ [crc8 raw])) selective legacy) =
      name selective legacy ++ encodeCrockford (raw ++ [crc8 raw]) := strip_write hbody hcount
  rw [← hstripped] at hascii hvalue
  have hcode := hupper.strip_eq hascii hvalue
  obtain ⟨hfirst, hsecond, hthird⟩ := hasShape_name hone hbody hcount
  have hdrop : (name selective legacy ++ encodeCrockford (raw ++ [crc8 raw])).drop 4 =
      encodeCrockford (raw ++ [crc8 raw]) := by
    rw [← name_length selective legacy, List.drop_left]
  refine ⟨facts, ?_, hfacts⟩
  have hsome : (!legacy && !(!selective && !legacy) && !selective) = false := by
    cases selective <;> cases legacy <;> rfl
  simp only [decode, hcode, hstripped, hfirst, hsecond, hthird, hdrop, hsome,
    decodeCrockford_encodeCrockford hbytes, hunpack, Bool.false_eq_true, if_false]

end

/-! ## What is encoded -/

theorem matchDiagnosticId_eq_some {diagnosticId hash : Text}
    (h : matchDiagnosticId diagnosticId = some hash) :
    hash = diagnosticId.drop 5 ∧ hash.length = 24 ∧ hash.all isLowerHex = true := by
  unfold matchDiagnosticId at h
  dsimp only at h
  split at h
  · next hmatch =>
    cases h
    exact ⟨rfl, hmatch.2⟩
  · cases h

theorem matchVersion_eq_some {appVersion : Text} {groups : List Text} {build : Text}
    (h : matchVersion appVersion = some (groups, build)) :
    ∃ major minor patch, groups = [major, minor, patch] ∧ isDigits major = true ∧
      isDigits minor = true ∧ isDigits patch = true ∧ isDigits build = true := by
  unfold matchVersion at h
  split at h
  · split at h
    · next major minor patch hsplit =>
      split at h
      · next hdigits =>
        cases h
        exact ⟨major, minor, patch, rfl, hdigits⟩
      · cases h
    · cases h
  · cases h

/-- A group that was read is a small number. -/
theorem number_of_group {group : Text} (hgroup : isDigits group = true) {bound : Nat}
    (hlow : ¬ (intTryParse group).getD (-1) < 0) (hhigh : ¬ bound < (intTryParse group).getD (-1)) :
    ((intTryParse group).getD (-1)).toNat = number group ∧ number group ≤ bound := by
  rw [isDigits, Bool.and_eq_true] at hgroup
  have hne : group ≠ [] := by simpa using hgroup.1
  rw [intTryParse_digits hne hgroup.2] at hlow hhigh ⊢
  by_cases hsmall : number group < 2 ^ 63
  · rw [if_pos hsmall] at hhigh ⊢
    simp at hhigh ⊢
    omega
  · rw [if_neg hsmall] at hlow
    exact absurd (by decide) hlow

theorem days_of_issued {issued : DateTime} {day : Int} (hmicros : issued.micros = day * microsecondsPerDay)
    (hdays : ¬ ((issued.micros - epoch.micros).tdiv microsecondsPerDay < 0 ∨
      0xffff < (issued.micros - epoch.micros).tdiv microsecondsPerDay)) :
    ∃ days : Nat, ((issued.micros - epoch.micros).tdiv microsecondsPerDay).toNat = days ∧
      days ≤ 0xffff ∧ issued.micros = epoch.micros + microsecondsPerDay * days := by
  have hepoch : epoch.micros = 18262 * microsecondsPerDay := rfl
  have hcount : (issued.micros - epoch.micros).tdiv microsecondsPerDay = day - 18262 := by
    rw [hmicros, hepoch, ← Int.sub_mul, Int.mul_tdiv_cancel _ (by decide)]
  rw [hcount] at hdays ⊢
  refine ⟨(day - 18262).toNat, rfl, by omega, ?_⟩
  rw [hmicros, hepoch, Int.toNat_of_nonneg (by omega), Int.mul_comm microsecondsPerDay,
    ← Int.add_mul]
  congr 1
  omega

/-- The first four digits of a hash. -/
theorem exists_digits {hash : Text} (hlength : hash.length = 24) (hhex : hash.all isLowerHex = true) :
    ∃ a b c d rest, hash = a :: b :: c :: d :: rest ∧ isLowerHex a = true ∧ isLowerHex b = true ∧
      isLowerHex c = true ∧ isLowerHex d = true := by
  rcases hash with _ | ⟨a, _ | ⟨b, _ | ⟨c, _ | ⟨d, rest⟩⟩⟩⟩
  · simp at hlength
  · simp at hlength
  · simp at hlength
  · simp at hlength
  · simp only [List.all_cons, Bool.and_eq_true] at hhex
    exact ⟨a, b, c, d, rest, rfl, hhex.1, hhex.2.1, hhex.2.2.1, hhex.2.2.2.1⟩

/-- An accepted code packs what is in its range. -/
theorem encode_eq_ok {diagnosticId platform routeMode connectionState appVersion : Text}
    {generatedAt : DateTime} {code : Text}
    (h : encode diagnosticId platform routeMode connectionState appVersion generatedAt = .ok code) :
    ∃ p r s days major minor patch build issued,
      Packable p r s days [number major, number minor, number patch] (number build)
        (diagnosticId.drop 5) ∧
      code = pack p r s days [number major, number minor, number patch] (number build)
        (diagnosticId.drop 5) (decide (r = 4)) ∧
      matchVersion appVersion = some ([major, minor, patch], build) ∧
      platforms.getD p [] = platform ∧ routeModes.getD r [] = routeMode ∧
      connectionStates.getD s [] = connectionState ∧ utcDate generatedAt = some issued ∧
      issued.micros = epoch.micros + microsecondsPerDay * days := by
  unfold encode at h
  split at h
  · next hash groups build p r s hid hversion hplatform hroute hstate =>
    obtain ⟨rfl, hlength, hhex⟩ := matchDiagnosticId_eq_some hid
    obtain ⟨major, minor, patch, rfl, hmajor, hminor, hpatch, hbuild⟩ := matchVersion_eq_some hversion
    obtain ⟨issued, hissued, hmicros⟩ := utcDate_eq generatedAt
    obtain ⟨hp, hplatform', -⟩ := List.idxOf?_eq_some_iff.mp hplatform
    obtain ⟨hr, hroute', -⟩ := List.idxOf?_eq_some_iff.mp hroute
    obtain ⟨hs, hstate', -⟩ := List.idxOf?_eq_some_iff.mp hstate
    have hselective : decide (routeMode = text "selective_services") = decide (r = 4) := by
      have hall : ∀ i, (hi : i < 5) → decide (routeModes.getD i [] = text "selective_services") =
          decide (i = 4) := by decide
      rw [← hall r hr, List.getD_eq_getElem _ _ hr, hroute']
    simp only [hissued] at h
    split at h
    · simp [invalid] at h
    · next hrange =>
      split at h
      · simp [invalid] at h
      · next hdays =>
        simp only [List.map_cons, List.map_nil, List.any_cons, List.any_nil, Bool.or_eq_true,
          Bool.or_false, decide_eq_true_eq, not_or] at hrange
        obtain ⟨⟨⟨⟨hmajor1, hmajor2⟩, ⟨hminor1, hminor2⟩, hpatch1, hpatch2⟩, hbuild1⟩, hbuild2⟩ := hrange
        obtain ⟨hmajor3, hmajor4⟩ := number_of_group hmajor hmajor1 hmajor2
        obtain ⟨hminor3, hminor4⟩ := number_of_group hminor hminor1 hminor2
        obtain ⟨hpatch3, hpatch4⟩ := number_of_group hpatch hpatch1 hpatch2
        obtain ⟨hbuild3, hbuild4⟩ := number_of_group hbuild hbuild1 hbuild2
        obtain ⟨days, hcount, hsmall, hmicros'⟩ := days_of_issued hmicros hdays
        rw [hcount, hselective] at h
        simp only [List.map_cons, List.map_nil, hmajor3, hminor3, hpatch3, hbuild3] at h
        cases h
        refine ⟨p, r, s, days, major, minor, patch, build, issued, ?_, rfl, hversion, ?_, ?_, ?_, hissued,
          hmicros'⟩
        · exact {
            platform := hp
            route := hr
            state := hs
            days := hsmall
            parts := ⟨_, _, _, rfl, Nat.lt_succ_of_le hmajor4, Nat.lt_succ_of_le hminor4,
              Nat.lt_succ_of_le hpatch4⟩
            build := hbuild4
            hash := exists_digits hlength hhex }
        · rw [List.getD_eq_getElem _ _ hp, hplatform']
        · rw [List.getD_eq_getElem _ _ hr, hroute']
        · rw [List.getD_eq_getElem _ _ hs, hstate']
  · simp [invalid] at h

/-- What a code says of what it was made from. -/
structure Describes (facts : SupportDiagnosticCodeFacts)
    (diagnosticId platform routeMode connectionState appVersion : Text) (generatedAt : DateTime) :
    Prop where
  platform : facts.platform = platform
  routeMode : facts.routeMode = routeMode
  connectionState : facts.connectionState = connectionState
  version : ∃ major minor patch build, matchVersion appVersion = some ([major, minor, patch], build) ∧
    facts.appVersion = JsonText.decimal (number major) ++ text "." ++
      JsonText.decimal (number minor) ++ text "." ++ JsonText.decimal (number patch) ∧
    facts.buildNumber = number build
  issuedOn : utcDate generatedAt = some facts.issuedOn
  hash : facts.diagnosticHashPrefix = (diagnosticId.drop 5).take 4

theorem decode_encode {toUpperCase : Text → Text} (hupper : UpperCase toUpperCase)
    {diagnosticId platform routeMode connectionState appVersion : Text} {generatedAt : DateTime}
    {code value : Text}
    (h : encode diagnosticId platform routeMode connectionState appVersion generatedAt = .ok code)
    (hvalue : (strip value).map upperUnit = strip code) (now : DateTime) :
    ∃ facts, decode toUpperCase value now = .ok facts ∧
      Describes facts diagnosticId platform routeMode connectionState appVersion generatedAt := by
  obtain ⟨p, r, s, days, major, minor, patch, build, issued, hpack, rfl, hversion, hplatform,
    hroute, hstate, hissued, hmicros⟩ := encode_eq_ok h
  obtain ⟨facts, hdecode, h1, h2, h3, h4, h5, h6, h7⟩ := decode_pack hupper hpack hmicros hvalue now
  exact ⟨facts, hdecode, {
    platform := h1.trans hplatform
    routeMode := h2.trans hroute
    connectionState := h3.trans hstate
    version := ⟨major, minor, patch, build, hversion, h4, h5⟩
    issuedOn := by rw [h7, hissued]
    hash := h6 }⟩

/-! ## A replaced symbol -/

/-- The layouts: the name, the symbols of the body and the bytes in front of the checksum. -/
def layouts : List (Text × Nat × Nat) :=
  [(text "PSD1", 16, 9), (text "PSD2", 21, 12), (text "PSD3", 21, 12)]

/-- A code that is read has the shape of a layout, and its checksum fits. -/
structure Checked (rawCode : Text) : Prop where
  shape : ∃ layout ∈ layouts, hasShape layout.1 layout.2.1 rawCode = true ∧
    ∃ packed, decodeCrockford (rawCode.drop 4) = some packed ∧
      packed.length = layout.2.2 + 1 ∧ crc8 (packed.take layout.2.2) = packed.getD layout.2.2 0

variable {now : DateTime} {facts : SupportDiagnosticCodeFacts}

theorem unpack_eq_ok {packed : List Nat} {legacy selective : Bool}
    (h : unpack packed legacy selective now = .ok facts) : packed.length = lengthOf legacy + 1 ∧
      crc8 (packed.take (lengthOf legacy)) = packed.getD (lengthOf legacy) 0 := by
  by_contra hfits
  have hbad : packed.length ≠ lengthOf legacy + 1 ∨
      crc8 (packed.take (lengthOf legacy)) ≠ packed.getD (lengthOf legacy) 0 := by
    rwa [not_and_or] at hfits
  have hinvalid : unpack packed legacy selective now = invalid := by
    cases legacy with
    | true => exact if_pos hbad
    | false => exact if_pos hbad
  rw [hinvalid] at h
  cases h

theorem checked_of_decode {toUpperCase : Text → Text} {value : Text}
    (h : decode toUpperCase value now = .ok facts) : Checked (strip (toUpperCase value)) := by
  unfold decode at h
  generalize strip (toUpperCase value) = rawCode at h ⊢
  dsimp only at h
  split at h
  · simp [invalid] at h
  · next hsome =>
    split at h
    · simp [invalid] at h
    · next packed hpacked =>
      have hfits := unpack_eq_ok h
      cases hlegacy : hasShape (text "PSD1") 16 rawCode with
      | true =>
        rw [hlegacy] at hfits
        exact ⟨(text "PSD1", 16, 9), by simp [layouts], hlegacy, packed, hpacked, hfits⟩
      | false =>
        rw [hlegacy] at hfits
        cases hextended : hasShape (text "PSD2") 21 rawCode with
        | true =>
          exact ⟨(text "PSD2", 21, 12), by simp [layouts], hextended, packed, hpacked, hfits⟩
        | false =>
          cases hselective : hasShape (text "PSD3") 21 rawCode with
          | true =>
            exact ⟨(text "PSD3", 21, 12), by simp [layouts], hselective, packed, hpacked, hfits⟩
          | false => simp [hlegacy, hextended, hselective] at hsome

theorem mapM_middle {middle rest : Text} {u : UInt16} {digits : List Nat}
    (h : (middle ++ u :: rest).mapM (fun u => alphabet.idxOf? u) = some digits) :
    ∃ before d after, digits = before ++ d :: after ∧
      middle.mapM (fun u => alphabet.idxOf? u) = some before ∧ alphabet.idxOf? u = some d ∧
      rest.mapM (fun u => alphabet.idxOf? u) = some after := by
  simp only [List.mapM_append, List.mapM_cons, Option.bind_eq_bind, Option.bind_eq_some_iff] at h
  obtain ⟨before, hbefore, tail, ⟨d, hd, after, hafter, htail⟩, hdigits⟩ := h
  cases htail
  cases hdigits
  exact ⟨before, d, after, rfl, hbefore, hd, hafter⟩

/-- Two codes that are read and differ behind the name in one symbol are equal. -/
theorem Checked.symbol_eq {front middle rest : Text} {x y : UInt16} (hfront : front.length = 4)
    (hx : Checked (front ++ (middle ++ x :: rest))) (hy : Checked (front ++ (middle ++ y :: rest))) :
    x = y := by
  obtain ⟨layout, hlayout, hshape, packed, hpacked, hlength, hcrc⟩ := hx.shape
  obtain ⟨layout', hlayout', hshape', packed', hpacked', hlength', hcrc'⟩ := hy.shape
  have hdrop : ∀ u, (front ++ (middle ++ u :: rest)).drop 4 = middle ++ u :: rest := fun u => by
    rw [← hfront, List.drop_left]
  rw [hdrop] at hpacked hpacked'
  obtain ⟨digits, hdigits, hzero⟩ := run_symbols hpacked hlength hcrc
  obtain ⟨digits', hdigits', hzero'⟩ := run_symbols hpacked' hlength' hcrc'
  obtain ⟨before, d, after, rfl, hbefore, hd, hafter⟩ := mapM_middle hdigits
  obtain ⟨before', d', after', rfl, hbefore', hd', hafter'⟩ := mapM_middle hdigits'
  obtain rfl : before = before' := Option.some.inj (hbefore.symm.trans hbefore')
  obtain rfl : after = after' := Option.some.inj (hafter.symm.trans hafter')
  have hletters : ∀ bits : List Bool, ∀ l ∈ bits.map letter, l < 2 ^ 8 := by
    intro bits l hl
    obtain ⟨bit, -, rfl⟩ := List.mem_map.mp hl
    exact letter_lt bit
  have hrun : run crcShift 0 ((flat 5 before).map letter ++ (bitsOf 5 d).map letter ++
        (flat 5 after).map letter) =
      run crcShift 0 ((flat 5 before).map letter ++ (bitsOf 5 d').map letter ++
        (flat 5 after).map letter) := by
    simp only [flat_append, flat_cons, List.map_append, List.append_assoc] at hzero hzero' ⊢
    rw [hzero, hzero']
  have hbits := run_between crcShift_xor crcShift_zero (fun r _ => crcShift_lt r) (hletters _)
    (hletters _) (hletters _) (hletters _) (by simp) hrun
  obtain ⟨hdlt, hdu⟩ := alphabet_digit hd
  obtain ⟨hdlt', hdu'⟩ := alphabet_digit hd'
  rw [← hdu, ← hdu', run_symbol_inj d hdlt d' hdlt' hbits]

/-- Both codes have the layout that their name says. -/
theorem Checked.length_eq {front a b : Text} (hfront : 4 ≤ front.length) (ha : Checked (front ++ a))
    (hb : Checked (front ++ b)) : a.length = b.length := by
  obtain ⟨layout, hlayout, hshape, -⟩ := ha.shape
  obtain ⟨layout', hlayout', hshape', -⟩ := hb.shape
  simp only [hasShape, Bool.and_eq_true, decide_eq_true_eq, List.isPrefixOf_iff_prefix] at hshape hshape'
  have hnames : ∀ l ∈ layouts, l.1.length = 4 := by decide
  have hname : layout.1 = front.take 4 := by
    have h := List.prefix_iff_eq_take.mp hshape.1.1
    rwa [hnames layout hlayout, List.take_append_of_le_length hfront] at h
  have hname' : layout'.1 = front.take 4 := by
    have h := List.prefix_iff_eq_take.mp hshape'.1.1
    rwa [hnames layout' hlayout', List.take_append_of_le_length hfront] at h
  have hsame : ∀ l ∈ layouts, ∀ l' ∈ layouts, l.1 = l'.1 → l.2.1 = l'.2.1 := by decide
  have hcount := hsame layout hlayout layout' hlayout' (hname.trans hname'.symm)
  have hlength := hshape.1.2
  have hlength' := hshape'.1.2
  simp only [List.length_drop, List.length_append] at hlength hlength'
  omega

/-- A text stands in a text between two others without a cut pair of surrogates. -/
structure Stands (front middle rest : Text) : Prop where
  front : Whole front (middle ++ rest)
  rest : Whole middle rest

theorem UpperCase.stands {toUpperCase : Text → Text} (hupper : UpperCase toUpperCase)
    {front middle rest : Text} (h : Stands front middle rest) :
    strip (toUpperCase (front ++ (middle ++ rest))) =
      strip (toUpperCase front) ++ (strip (toUpperCase middle) ++ strip (toUpperCase rest)) := by
  rw [hupper.append _ _ h.front, hupper.append _ _ h.rest, strip_append, strip_append]

/-- A text in the place of a symbol is read only where it is the same symbol. -/
theorem decode_replaced {toUpperCase : Text → Text} (hupper : UpperCase toUpperCase)
    {front symbol other rest : Text} (hsymbol : Stands front symbol rest)
    (hother : Stands front other rest)
    (hvalid : decode toUpperCase (front ++ (symbol ++ rest)) now = .ok facts)
    (hbody : 4 ≤ (strip (toUpperCase front)).length)
    (hone : (strip (toUpperCase symbol)).length = 1) :
    (∃ thrown, decode toUpperCase (front ++ (other ++ rest)) now = .error thrown) ↔
      strip (toUpperCase other) ≠ strip (toUpperCase symbol) := by
  constructor
  · rintro ⟨thrown, hthrown⟩ hsame
    have hraw : strip (toUpperCase (front ++ (other ++ rest))) =
        strip (toUpperCase (front ++ (symbol ++ rest))) := by
      rw [hupper.stands hsymbol, hupper.stands hother, hsame]
    have heq : decode toUpperCase (front ++ (other ++ rest)) now =
        decode toUpperCase (front ++ (symbol ++ rest)) now := by
      simp only [decode, hraw]
    rw [heq, hvalid] at hthrown
    cases hthrown
  · intro hne
    cases hdecode : decode toUpperCase (front ++ (other ++ rest)) now with
    | error thrown => exact ⟨thrown, rfl⟩
    | ok facts' =>
      have hx := checked_of_decode hvalid
      have hy := checked_of_decode hdecode
      rw [hupper.stands hsymbol] at hx
      rw [hupper.stands hother] at hy
      obtain ⟨x, hx'⟩ := List.length_eq_one_iff.mp hone
      have hlength := hx.length_eq hbody hy
      obtain ⟨y, hy'⟩ : ∃ y, strip (toUpperCase other) = [y] := by
        apply List.length_eq_one_iff.mp
        simp only [List.length_append] at hlength
        omega
      rw [hx'] at hx hne
      rw [hy'] at hy hne
      -- the name is the first four symbols, and what is behind them is the body
      rw [← List.take_append_drop 4 (strip (toUpperCase front)), List.append_assoc] at hx hy
      have hxy := Checked.symbol_eq (by simp [hbody]) hx hy
      exact absurd (by rw [hxy]) hne

/-- A code is read back as what it was made from, in either case and with any white space
and hyphens, and another text in the place of a symbol of its body is read only where it
is, but for those, the same symbol. -/
theorem supportDiagnosticCode_read {toUpperCase : Text → Text} (hupper : UpperCase toUpperCase)
    (now : DateTime) :
    (∀ (diagnosticId platform routeMode connectionState appVersion : Text) (generatedAt : DateTime)
      (code value : Text),
      encode diagnosticId platform routeMode connectionState appVersion generatedAt = .ok code →
      (strip value).map upperUnit = strip code →
        ∃ facts, decode toUpperCase value now = .ok facts ∧
          Describes facts diagnosticId platform routeMode connectionState appVersion generatedAt) ∧
    ∀ (front symbol other rest : Text) (facts : SupportDiagnosticCodeFacts),
      Stands front symbol rest → Stands front other rest →
      decode toUpperCase (front ++ (symbol ++ rest)) now = .ok facts →
      4 ≤ (strip (toUpperCase front)).length → (strip (toUpperCase symbol)).length = 1 →
        ((∃ thrown, decode toUpperCase (front ++ (other ++ rest)) now = .error thrown) ↔
          strip (toUpperCase other) ≠ strip (toUpperCase symbol)) :=
  ⟨fun _ _ _ _ _ _ _ _ hencode hvalue => decode_encode hupper hencode hvalue now,
    fun _ _ _ _ _ hsymbol hother hvalid hbody hone =>
      decode_replaced hupper hsymbol hother hvalid hbody hone⟩

/-- The upper case of ASCII texts. -/
theorem upperCase_units : UpperCase (List.map upperUnit) where
  append a b _ := List.map_append
  ascii u _ := rfl
  space u hu := by
    have hlower : isLower u = false := by
      rw [← Bool.not_eq_true, isLower_iff]
      have := isPatternSpace_iff.mp hu
      omega
    rw [List.map_singleton, upperUnit_of_not_lower hlower]

theorem sampleDay_bounds : -maxMicroseconds ≤ 1780000000000000 ∧ 1780000000000000 ≤ maxMicroseconds := by
  decide

def sampleDay : DateTime := ⟨1780000000000000, sampleDay_bounds.1, sampleDay_bounds.2⟩

theorem encode_sample : encode (text "diag-0123456789abcdef01234567") (text "android")
    (text "full_tunnel") (text "verified") (text "1.2.3+45") sampleDay =
      .ok (text "PSD1-084J-6082-0CPG-28T7") := by
  decide +kernel

theorem decode_sample : ∃ facts, decode (List.map upperUnit) (text "psd1 084j6082 0cpg-28t7")
    sampleDay = .ok facts ∧ Describes facts (text "diag-0123456789abcdef01234567") (text "android")
      (text "full_tunnel") (text "verified") (text "1.2.3+45") sampleDay :=
  (supportDiagnosticCode_read upperCase_units sampleDay).1 _ _ _ _ _ _ _ _ encode_sample
    (by decide +kernel)

/-- A letter of the body in lower case is another character and is read. -/
theorem lowerCase_read : ¬ ∀ toUpperCase, UpperCase toUpperCase → ∀ (front rest : Text) (u v : UInt16)
    (now : DateTime) (facts : SupportDiagnosticCodeFacts),
    decode toUpperCase (front ++ (u :: rest)) now = .ok facts →
      4 ≤ (strip (toUpperCase front)).length → kept u = true → v ≠ u →
        ∃ thrown, decode toUpperCase (front ++ (v :: rest)) now = .error thrown := by
  intro h
  have hread : ∀ v ∈ [unit 'J', unit 'j'], ∃ facts,
      decode (List.map upperUnit) (text "PSD1-084" ++ (v :: text "-6082-0CPG-28T7")) sampleDay =
        .ok facts := by
    intro v hv
    have hvalue : (strip (text "PSD1-084" ++ (v :: text "-6082-0CPG-28T7"))).map upperUnit =
        strip (text "PSD1-084J-6082-0CPG-28T7") := by
      simp only [List.mem_cons, List.not_mem_nil, or_false] at hv
      rcases hv with rfl | rfl <;> decide +kernel
    obtain ⟨facts, hdecode, -⟩ := decode_encode upperCase_units encode_sample hvalue sampleDay
    exact ⟨facts, hdecode⟩
  obtain ⟨facts, hupper⟩ := hread (unit 'J') (by simp)
  obtain ⟨facts', hlower⟩ := hread (unit 'j') (by simp)
  obtain ⟨thrown, hthrown⟩ := h _ upperCase_units (text "PSD1-084") (text "-6082-0CPG-28T7") (unit 'J')
    (unit 'j') sampleDay facts hupper (by decide +kernel) (by decide) (by decide)
  rw [hlower] at hthrown
  cases hthrown

end Pokrov.SupportBundle.SupportDiagnosticCode
