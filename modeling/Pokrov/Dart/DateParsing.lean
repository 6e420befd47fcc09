import Pokrov.Dart.DateTime

/-!
# Parsing of times

`DateTime.tryParse` of any text, where the result is in UTC: the pattern
`([+-]?\d{4,6})-?(\d\d)-?(\d\d)`, then `[ T]` with a time of day, then `Z` or an
offset. Other texts are no time or a local one.
-/

namespace Dart.DateTime

/-! ## The pattern -/

/-- The rest, past one of these units if it comes first. -/
def skip (units : List Char) : Text → Text
  | [] => []
  | u :: rest => if units.any fun c => u = unit c then rest else u :: rest

/-- Two digits. -/
def readPair : Text → Option (Nat × Text)
  | a :: b :: rest => if isDigit a && isDigit b then some (number [a, b], rest) else none
  | _ => none

/-- Two digits that may be missing, after a colon or not. -/
def readOptionalPair (s : Text) : Nat × Text := (readPair (skip [':'] s)).getD (0, s)

/-- A sign and a number of digits. -/
def readYearOf (width : Nat) (s : Text) : Option (Int × Text) :=
  let digits := (skip ['+', '-'] s).take width
  if digits.length = width ∧ digits.all isDigit = true then
    some ((if s.head? = some (unit '-') then -1 else 1) * (number digits : Int),
      (skip ['+', '-'] s).drop width)
  else none

/-- Microseconds after a point or a comma, if there are any. -/
def readMicroseconds (s : Text) : Nat × Text :=
  let digits := (skip ['.', ','] s).takeWhile isDigit
  if skip ['.', ','] s = s ∨ digits = [] then (0, s)
  else (number ((digits ++ List.replicate 6 (digit 0)).take 6),
    (skip ['.', ','] s).dropWhile isDigit)

/-- `Z`, or the minutes of an offset. Nothing follows it. -/
def readZone (s : Text) : Option Int :=
  match skip [' '] s with
  | [u] => if u = unit 'Z' ∨ u = unit 'z' then some 0 else none
  | u :: rest => do
      let sign ← if u = unit '+' then some (1 : Int) else if u = unit '-' then some (-1) else none
      let (hours, rest) ← readPair rest
      let (minutes, rest) := readOptionalPair rest
      if rest = [] then some (sign * (60 * hours + minutes)) else none
  | [] => none

/-- The time of day and what follows it: hour, minute, second and microsecond. Seconds
come only after minutes. -/
def readTimeOfDay (s : Text) : Option (Nat × Nat × Nat × Nat × Text) := do
  let (hour, s) ← readPair s
  match readPair (skip [':'] s) with
  | none => some (hour, 0, 0, 0, s)
  | some (minute, s) =>
    match readPair (skip [':'] s) with
    | none => some (hour, minute, 0, 0, s)
    | some (second, s) =>
      let (fraction, s) := readMicroseconds s
      some (hour, minute, second, fraction, s)

/-- `_brokenDownDateToValue` in UTC. -/
def ofParts (year : Int) (month day hour : Nat) (minute : Int) (second fraction : Nat) :
    Option DateTime :=
  ofMicros (wrap ((((Calendar.daysOf ⟨year, month, day⟩ * 24 + hour) * 60 + minute) * 60 + second) *
    1000000 + fraction))

/-- What follows the year. -/
def parseAfterYear (year : Int) (s : Text) : Option DateTime := do
  let (month, s) ← readPair (skip ['-'] s)
  let (day, s) ← readPair (skip ['-'] s)
  match s with
  | [] => none
  | u :: s => do
      if u = unit ' ' ∨ u = unit 'T' then
        let (hour, minute, second, fraction, s) ← readTimeOfDay s
        let offset ← readZone s
        ofParts year month day hour (minute - offset) second fraction
      else none

/-- The text with a year of so many digits. -/
def parseWidth (width : Nat) (s : Text) : Option DateTime := do
  let (year, s) ← readYearOf width s
  parseAfterYear year s

/-- The pattern takes as many digits for the year as it can. -/
def tryParseUtc (s : Text) : Option DateTime := [6, 5, 4].findSome? fun width => parseWidth width s

/-- `DateTime.tryParse(s)?.toUtc()`. A time without a zone is a local one. -/
def tryParseIn (parseLocal : Text → Option DateTime) (s : Text) : Option DateTime :=
  (tryParseUtc s).or (parseLocal s)

/-! ## What is written is read back -/

theorem skip_minus (rest : Text) : skip ['-'] (unit '-' :: rest) = rest := rfl

theorem skip_colon (rest : Text) : skip [':'] (unit ':' :: rest) = rest := rfl

variable {rest : Text} {width n : Nat} {u : UInt16}

theorem readPair_pad {n : Nat} (h : n < 100) : readPair (pad 2 n ++ rest) = some (n, rest) := by
  have hnumber : number (pad 2 n) = n := number_pad h
  show (if isDigit (digit (n / 10)) && isDigit (digit n) then
    some (number [digit (n / 10), digit n], rest) else none) = _
  rw [isDigit_digit, isDigit_digit]
  exact congrArg (fun k => some (k, rest)) hnumber

theorem isDigit_of_mem_pad (h : u ∈ pad width n) : isDigit u = true :=
  List.all_eq_true.mp (all_pad width n) u h

/-- Digits are not skipped. -/
theorem skip_pad {units : List Char} (hunits : (units.all fun c => !isDigit (unit c)) = true) :
    skip units (pad (width + 1) n ++ rest) = pad (width + 1) n ++ rest := by
  cases hpad : pad (width + 1) n with
  | nil =>
    have hlength := length_pad (width + 1) n
    rw [hpad] at hlength
    cases hlength
  | cons u digits =>
    have hu : isDigit u = true := isDigit_of_mem_pad (hpad ▸ List.mem_cons_self)
    have hnone : ¬ units.any (fun c => u = unit c) = true := by
      rw [List.any_eq_true]
      rintro ⟨c, hc, hsame⟩
      have hunit : isDigit (unit c) = false := by simpa using List.all_eq_true.mp hunits c hc
      rw [of_decide_eq_true hsame, hunit] at hu
      cases hu
    exact if_neg hnone

/-- The sign of a year, as it is written. -/
theorem readYearOf_sign {sign : Int} {first : Text} (hn : n < 10 ^ (width + 1))
    (hfirst : sign = -1 ∧ first = text "-" ∨ sign = 1 ∧ first = text "+" ∨ sign = 1 ∧ first = []) :
    readYearOf (width + 1) (first ++ (pad (width + 1) n ++ rest)) = some (sign * n, rest) := by
  have hdigits := length_pad (width + 1) n
  have hskip : skip ['+', '-'] (first ++ (pad (width + 1) n ++ rest)) = pad (width + 1) n ++ rest := by
    rcases hfirst with ⟨-, rfl⟩ | ⟨-, rfl⟩ | ⟨-, rfl⟩
    · rfl
    · rfl
    · exact skip_pad (by decide)
  have hsign : (if (first ++ (pad (width + 1) n ++ rest)).head? = some (unit '-') then (-1 : Int) else 1) =
      sign := by
    rcases hfirst with ⟨rfl, rfl⟩ | ⟨rfl, rfl⟩ | ⟨rfl, rfl⟩
    · rfl
    · rfl
    · refine if_neg fun hhead => ?_
      cases hpad : pad (width + 1) n with
      | nil =>
        rw [hpad] at hdigits
        cases hdigits
      | cons u digits =>
        rw [hpad] at hhead
        have hu : isDigit u = true := isDigit_of_mem_pad (hpad ▸ List.mem_cons_self)
        rw [Option.some.inj hhead] at hu
        exact absurd hu (by decide)
  have htake : (pad (width + 1) n ++ rest).take (width + 1) = pad (width + 1) n := by
    rw [← hdigits, hdigits, List.take_left' hdigits]
  have hdrop : (pad (width + 1) n ++ rest).drop (width + 1) = rest := List.drop_left' hdigits
  unfold readYearOf
  rw [hskip, hsign]
  dsimp only
  rw [htake, hdrop, if_pos ⟨hdigits, all_pad _ _⟩, number_pad hn]

/-- Fewer digits than that are no year of a width. -/
theorem readYearOf_short {first : Text} {width wider n : Nat} (hu : isDigit u = false)
    (hwider : width + 1 < wider) (hfirst : first = text "-" ∨ first = text "+" ∨ first = []) :
    readYearOf wider (first ++ (pad (width + 1) n ++ u :: rest)) = none := by
  have hskip : skip ['+', '-'] (first ++ (pad (width + 1) n ++ u :: rest)) =
      pad (width + 1) n ++ u :: rest := by
    rcases hfirst with rfl | rfl | rfl
    · rfl
    · rfl
    · exact skip_pad (by decide)
  unfold readYearOf
  rw [hskip]
  refine if_neg fun h => ?_
  have hmem : u ∈ (pad (width + 1) n ++ u :: rest).take wider := by
    rw [List.take_append, length_pad, List.take_of_length_le (by rw [length_pad]; omega)]
    obtain ⟨k, hk⟩ : ∃ k, wider - (width + 1) = k + 1 := ⟨wider - (width + 1) - 1, by omega⟩
    rw [hk, List.take_succ_cons]
    exact List.mem_append_right _ List.mem_cons_self
  rw [List.all_eq_true.mp h.2 u hmem] at hu
  cases hu

theorem parseWidth_eq {width : Nat} {s rest : Text} {year : Int}
    (h : readYearOf width s = some (year, rest)) :
    parseWidth width s = parseAfterYear year rest := by
  unfold parseWidth
  rw [h]
  rfl

theorem parseWidth_none {width : Nat} {s : Text} (h : readYearOf width s = none) :
    parseWidth width s = none := by
  unfold parseWidth
  rw [h]
  rfl

theorem readMicroseconds_digits (hu : isDigit u = false) (hwidth : 0 < width ∧ width ≤ 6)
    (hn : n < 10 ^ width) :
    readMicroseconds (unit '.' :: (pad width n ++ [u])) = (n * 10 ^ (6 - width), [u]) := by
  have hspan : (pad width n ++ u :: []).span isDigit = (pad width n, [u]) := span_pad hu
  rw [List.span_eq_takeWhile_dropWhile] at hspan
  have htakeWhile := (Prod.mk.inj hspan).1
  have hdropWhile := (Prod.mk.inj hspan).2
  have hskip : skip ['.', ','] (unit '.' :: (pad width n ++ [u])) = pad width n ++ [u] := rfl
  have hlonger : pad width n ++ [u] ≠ unit '.' :: (pad width n ++ [u]) := by
    intro heq
    have hlength := congrArg List.length heq
    rw [List.length_cons] at hlength
    omega
  have hne : pad width n ≠ [] := by
    intro heq
    have hlength := length_pad width n
    rw [heq] at hlength
    have hzero : 0 = width := hlength
    omega
  have htake : (pad width n ++ List.replicate 6 (digit 0)).take 6 =
      pad width n ++ List.replicate (6 - width) (digit 0) := by
    rw [List.take_append, length_pad, List.take_of_length_le (by rw [length_pad]; exact hwidth.2),
      List.take_replicate]
    congr 2
    omega
  unfold readMicroseconds
  rw [hskip]
  dsimp only
  rw [htakeWhile, hdropWhile, if_neg (by simp [hlonger, hne]), htake, number_append_zeros,
    number_pad hn]

theorem readMicroseconds_isoFraction (d : DateTime) :
    readMicroseconds (d.isoFraction ++ text "Z") = (d.fraction, text "Z") := by
  have hfraction := d.fraction_lt
  unfold isoFraction
  by_cases hzero : d.fraction % 1000 = 0
  · have hread : readMicroseconds (unit '.' :: (pad 3 (d.fraction / 1000) ++ [unit 'Z'])) =
        (d.fraction / 1000 * 10 ^ (6 - 3), [unit 'Z']) :=
      readMicroseconds_digits (by decide) (by decide) (by omega)
    have hvalue : d.fraction / 1000 * 10 ^ (6 - 3) = d.fraction := by omega
    rw [if_pos hzero, List.append_nil]
    rw [hvalue] at hread
    exact hread
  · have hread : readMicroseconds (unit '.' :: (pad 6 d.fraction ++ [unit 'Z'])) =
        (d.fraction * 10 ^ (6 - 6), [unit 'Z']) :=
      readMicroseconds_digits (by decide) (by decide) (by omega)
    rw [if_neg hzero, pad_three_three]
    rw [Nat.sub_self, Nat.pow_zero, Nat.mul_one] at hread
    exact hread

/-- The fields after the year, as they are written. -/
theorem parseAfterYear_iso (d : DateTime) {month day : Nat} (hmonth : month < 100) (hday : day < 100) :
    parseAfterYear d.year (unit '-' :: (pad 2 month ++ unit '-' :: (pad 2 day ++ unit 'T' ::
      (pad 2 d.hour ++ unit ':' :: (pad 2 d.minute ++ unit ':' :: (pad 2 d.second ++
        (d.isoFraction ++ text "Z"))))))) =
      ofParts d.year month day d.hour d.minute d.second d.fraction := by
  have hhour : d.hour < 100 := Nat.lt_trans d.hour_lt (by decide)
  have hminute : d.minute < 100 := Nat.lt_trans d.minute_lt (by decide)
  have hsecond : d.second < 100 := Nat.lt_trans d.second_lt (by decide)
  have htime : readTimeOfDay (pad 2 d.hour ++ unit ':' :: (pad 2 d.minute ++ unit ':' ::
      (pad 2 d.second ++ (d.isoFraction ++ text "Z")))) =
      some (d.hour, d.minute, d.second, d.fraction, text "Z") := by
    unfold readTimeOfDay
    simp only [Option.bind_eq_bind, Option.bind_some, readPair_pad hhour,
      skip_colon, readPair_pad hminute,
      readPair_pad hsecond, readMicroseconds_isoFraction]
  have hzone : readZone (text "Z") = some 0 := by decide
  unfold parseAfterYear
  simp only [Option.bind_eq_bind, Option.bind_some, skip_minus,
    readPair_pad hmonth, readPair_pad hday, htime, hzone, or_true, if_true, Int.sub_zero]

theorem ofParts_self (d : DateTime) {month day : Nat} (hmonth : (month : Int) = d.date.month)
    (hday : (day : Int) = d.date.day) :
    ofParts d.year month day d.hour d.minute d.second d.fraction = some d := by
  have hdate : (⟨d.year, month, day⟩ : Calendar.Civil) = d.date := by
    rw [hmonth, hday]
    rfl
  have hdays : Calendar.daysOf d.date = d.days := Calendar.daysOf_civilOf d.days
  have hmicros := d.micros_eq
  have hlower := d.lower
  have hupper := d.upper
  unfold maxMicroseconds at hlower hupper
  have hwrap : wrap d.micros = d.micros := by
    unfold wrap
    omega
  unfold ofParts
  rw [hdate, hdays, ← hmicros, hwrap, ofMicros_micros]

/-- The year is found whatever its width. -/
theorem tryParseUtc_yearText {year : Int} (hu : isDigit u = false) (hlower : -999999 ≤ year)
    (hupper : year ≤ 999999) {d : DateTime} (hrest : parseAfterYear year (u :: rest) = some d) :
    tryParseUtc (yearText year ++ u :: rest) = some d := by
  unfold yearText tryParseUtc
  by_cases hfour : -9999 ≤ year ∧ year ≤ 9999
  · have hn : year.natAbs < 10 ^ (3 + 1) := by omega
    rw [if_pos hfour, List.append_assoc]
    obtain ⟨sign, hvalue, hsign⟩ : ∃ sign : Int, sign * year.natAbs = year ∧
        (sign = -1 ∧ (if year < 0 then text "-" else []) = text "-" ∨
          sign = 1 ∧ (if year < 0 then text "-" else []) = text "+" ∨
          sign = 1 ∧ (if year < 0 then text "-" else []) = []) := by
      by_cases hneg : year < 0
      · exact ⟨-1, by omega, .inl ⟨rfl, if_pos hneg⟩⟩
      · exact ⟨1, by omega, .inr (.inr ⟨rfl, if_neg hneg⟩)⟩
    have hshort : ∀ wider, 3 + 1 < wider → parseWidth wider ((if year < 0 then text "-" else []) ++
        (pad (3 + 1) year.natAbs ++ u :: rest)) = none := fun wider hwider =>
      parseWidth_none (readYearOf_short hu hwider (by
        rcases hsign with ⟨-, h⟩ | ⟨-, h⟩ | ⟨-, h⟩
        · exact .inl h
        · exact .inr (.inl h)
        · exact .inr (.inr h)))
    have hread := parseWidth_eq (readYearOf_sign hn hsign :
      readYearOf (3 + 1) (_ ++ (pad (3 + 1) year.natAbs ++ u :: rest)) = _)
    rw [hvalue, hrest] at hread
    simp only [List.findSome?_cons, hshort 6 (by decide), hshort 5 (by decide)]
    rw [hread]
  · have hn : year.natAbs < 10 ^ (5 + 1) := by omega
    rw [if_neg hfour, List.append_assoc]
    obtain ⟨sign, hvalue, hsign⟩ : ∃ sign : Int, sign * year.natAbs = year ∧
        (sign = -1 ∧ (if year < 0 then text "-" else text "+") = text "-" ∨
          sign = 1 ∧ (if year < 0 then text "-" else text "+") = text "+" ∨
          sign = 1 ∧ (if year < 0 then text "-" else text "+") = []) := by
      by_cases hneg : year < 0
      · exact ⟨-1, by omega, .inl ⟨rfl, if_pos hneg⟩⟩
      · exact ⟨1, by omega, .inr (.inl ⟨rfl, if_neg hneg⟩)⟩
    have hread := parseWidth_eq (readYearOf_sign hn hsign :
      readYearOf (5 + 1) (_ ++ (pad (5 + 1) year.natAbs ++ u :: rest)) = _)
    rw [hvalue, hrest] at hread
    simp only [List.findSome?_cons]
    rw [hread]

/-- What was written is read back. -/
theorem tryParseUtc_toIso8601String (d : DateTime) : tryParseUtc d.toIso8601String = some d := by
  obtain ⟨hyear0, hyear⟩ := d.year_bounds
  obtain ⟨hmonth0, hmonth⟩ := Calendar.civilOf_month d.days
  obtain ⟨hday0, hday⟩ := Calendar.civilOf_day d.days
  have hmonth' : ((d.date.month.toNat : Nat) : Int) = d.date.month := Int.toNat_of_nonneg (by
    unfold date
    omega)
  have hday' : ((d.date.day.toNat : Nat) : Int) = d.date.day := Int.toNat_of_nonneg (by
    unfold date
    omega)
  have hmonth1 : d.date.month.toNat < 100 := by
    unfold date
    omega
  have hday1 : d.date.day.toNat < 100 := by
    unfold date
    omega
  have hfields := (parseAfterYear_iso d hmonth1 hday1).trans (ofParts_self d hmonth' hday')
  unfold toIso8601String isoSeconds
  simp only [List.append_assoc, List.cons_append]
  exact tryParseUtc_yearText (by decide) (by omega) (by omega) hfields

end Dart.DateTime
