import Pokrov.Dart.Text
import Pokrov.Lib.Calendar

/-!
# Dart times

`DateTime` in UTC: microseconds since 1970, with the bounds that its
constructors check, and its ISO 8601 text. `tryParse` reads the texts that
`toIso8601String` can write; the app compares what it has parsed with its text
and refuses any other spelling.
-/

namespace Dart

/-- The most microseconds that a time may be away from 1970. -/
def maxMicroseconds : Int := 8640000000000000000

structure DateTime where
  micros : Int
  lower : -maxMicroseconds ≤ micros
  upper : micros ≤ maxMicroseconds
deriving DecidableEq

namespace DateTime

@[ext] theorem ext {a b : DateTime} (h : a.micros = b.micros) : a = b := by
  cases a
  cases b
  cases h
  rfl

def ofMicros (micros : Int) : Option DateTime :=
  if h : -maxMicroseconds ≤ micros ∧ micros ≤ maxMicroseconds then some ⟨micros, h.1, h.2⟩ else none

theorem ofMicros_micros (d : DateTime) : ofMicros d.micros = some d :=
  dif_pos ⟨d.lower, d.upper⟩

variable {d : DateTime} {u : UInt16} {rest : Text}

theorem micros_of_ofMicros {micros : Int} (h : ofMicros micros = some d) : d.micros = micros := by
  unfold ofMicros at h
  split at h
  · cases h
    rfl
  · cases h

/-- A sum of 64-bit integers. -/
def wrap (n : Int) : Int := (n + 9223372036854775808) % 18446744073709551616 - 9223372036854775808

/-- `add`, which throws for a time out of bounds. -/
def add (d : DateTime) (microseconds : Int) : Option DateTime :=
  ofMicros (wrap (d.micros + microseconds))

def isBefore (a b : DateTime) : Bool := a.micros < b.micros

def isAfter (a b : DateTime) : Bool := b.micros < a.micros

/-! ## Fields -/

/-- Days since 1970 and microseconds of the day. -/
def days (d : DateTime) : Int := d.micros / 86400000000

def inDay (d : DateTime) : Nat := (d.micros % 86400000000).toNat

def date (d : DateTime) : Calendar.Civil := Calendar.civilOf d.days

def year (d : DateTime) : Int := d.date.year

def hour (d : DateTime) : Nat := d.inDay / 3600000000

def minute (d : DateTime) : Nat := d.inDay / 60000000 % 60

def second (d : DateTime) : Nat := d.inDay / 1000000 % 60

/-- Microseconds of the second. -/
def fraction (d : DateTime) : Nat := d.inDay % 1000000

theorem year_mono {a b : DateTime} (h : a.micros ≤ b.micros) : a.year ≤ b.year := by
  apply Calendar.civilOf_year_mono
  unfold days
  omega

theorem year_bounds (d : DateTime) : -271821 ≤ d.year ∧ d.year ≤ 275760 := by
  have hlower := d.lower
  have hupper := d.upper
  unfold maxMicroseconds at hlower hupper
  have hfirst : -100000000 ≤ d.days := by
    unfold days
    omega
  have hlast : d.days ≤ 100000000 := by
    unfold days
    omega
  constructor
  · have hyear : (Calendar.civilOf (-100000000)).year = -271821 := by decide
    exact hyear ▸ Calendar.civilOf_year_mono hfirst
  · have hyear : (Calendar.civilOf 100000000).year = 275760 := by decide
    exact hyear ▸ Calendar.civilOf_year_mono hlast

theorem second_lt (d : DateTime) : d.second < 60 := Nat.mod_lt _ (by decide)

theorem minute_lt (d : DateTime) : d.minute < 60 := Nat.mod_lt _ (by decide)

theorem fraction_lt (d : DateTime) : d.fraction < 1000000 := Nat.mod_lt _ (by decide)

theorem hour_lt (d : DateTime) : d.hour < 24 := by
  unfold hour inDay
  omega

/-- A time is its day and its time of the day. -/
theorem micros_eq (d : DateTime) :
    d.micros = (((d.days * 24 + d.hour) * 60 + d.minute) * 60 + d.second) * 1000000 + d.fraction := by
  unfold days hour minute second fraction inDay
  omega

/-! ## Text -/

/-- `_fourDigits` and `_sixDigits` of a year. -/
def yearText (year : Int) : Text :=
  if -9999 ≤ year ∧ year ≤ 9999 then
    (if year < 0 then text "-" else []) ++ pad 4 year.natAbs
  else (if year < 0 then text "-" else text "+") ++ pad 6 year.natAbs

/-- The text up to the seconds. -/
def isoSeconds (d : DateTime) : Text :=
  yearText d.year ++ unit '-' :: (pad 2 d.date.month.toNat ++ unit '-' ::
    (pad 2 d.date.day.toNat ++ unit 'T' :: (pad 2 d.hour ++ unit ':' ::
      (pad 2 d.minute ++ unit ':' :: pad 2 d.second))))

def isoFraction (d : DateTime) : Text :=
  unit '.' :: (pad 3 (d.fraction / 1000) ++
    if d.fraction % 1000 = 0 then [] else pad 3 (d.fraction % 1000))

def toIso8601String (d : DateTime) : Text := d.isoSeconds ++ d.isoFraction ++ text "Z"

theorem length_toIso8601String_le (d : DateTime) : d.toIso8601String.length ≤ 32 := by
  have hyear : (yearText d.year).length ≤ 7 := by
    unfold yearText
    split_ifs <;> simp [text]
  have hfraction : d.isoFraction.length ≤ 7 := by
    unfold isoFraction
    split_ifs <;> simp
  have hmark : (text "Z").length = 1 := rfl
  simp only [toIso8601String, isoSeconds, List.length_append, List.length_cons, length_pad, hmark]
  omega
/-! ## Reading -/

def readYear (s : Text) : Option (Int × Text) :=
  let (sign, rest) : Int × Text := match s with
    | u :: rest => if u = unit '-' then (-1, rest) else if u = unit '+' then (1, rest) else (1, s)
    | [] => (1, s)
  let (digits, rest) := rest.span isDigit
  if 4 ≤ digits.length ∧ digits.length ≤ 6 then some (sign * number digits, rest) else none

/-- A separator and two digits. -/
def readTwo (separator : Char) : Text → Option (Nat × Text)
  | u :: a :: b :: rest =>
    if u = unit separator ∧ isDigit a = true ∧ isDigit b = true then some (number [a, b], rest)
    else none
  | _ => none

/-- Microseconds after a point, if there is one. -/
def readFraction : Text → Option (Nat × Text)
  | u :: rest =>
    if u = unit '.' then
      let (digits, rest) := rest.span isDigit
      if digits = [] then none
      else some (number ((digits ++ List.replicate 6 (digit 0)).take 6), rest)
    else some (0, u :: rest)
  | [] => some (0, [])

/-- Fields outside their range count on. -/
def ofFields (year : Int) (month day hour minute second fraction : Nat) : Option DateTime :=
  ofMicros ((((Calendar.daysOf ⟨year, month, day⟩ * 24 + hour) * 60 + minute) * 60 + second) *
    1000000 + fraction)

def tryParse (s : Text) : Option DateTime := do
  let (year, s) ← readYear s
  let (month, s) ← readTwo '-' s
  let (day, s) ← readTwo '-' s
  let (hour, s) ← readTwo 'T' s
  let (minute, s) ← readTwo ':' s
  let (second, s) ← readTwo ':' s
  let (fraction, s) ← readFraction s
  if s = text "Z" then ofFields year month day hour minute second fraction else none

/-! ## Reading what was written -/

theorem readYear_sign {sign : Int} {width n : Nat} {first : Text} (hu : isDigit u = false)
    (hwidth : 4 ≤ width ∧ width ≤ 6) (hn : n < 10 ^ width)
    (hfirst : sign = -1 ∧ first = text "-" ∨ sign = 1 ∧ first = text "+" ∨ sign = 1 ∧ first = []) :
    readYear (first ++ (pad width n ++ u :: rest)) = some (sign * n, u :: rest) := by
  have hdigits : ∀ sign : Int,
      (let (digits, rest) := (pad width n ++ u :: rest).span isDigit
        if 4 ≤ digits.length ∧ digits.length ≤ 6 then some (sign * (number digits : Int), rest)
        else none) = some (sign * n, u :: rest) := by
    intro sign
    rw [span_pad hu]
    dsimp only
    rw [length_pad, if_pos hwidth, number_pad hn]
  rcases hfirst with ⟨rfl, rfl⟩ | ⟨rfl, rfl⟩ | ⟨rfl, rfl⟩
  · exact hdigits (-1)
  · exact hdigits 1
  · rw [List.nil_append]
    unfold readYear
    cases hpad : pad width n with
    | nil =>
      have hlength := length_pad width n
      rw [hpad] at hlength
      have hzero : 0 = width := hlength
      omega
    | cons v digits =>
      have hv : isDigit v = true :=
        List.all_eq_true.mp (all_pad width n) v (hpad ▸ List.mem_cons_self)
      have hminus : v ≠ unit '-' := by
        rintro rfl
        exact absurd hv (by decide)
      have hplus : v ≠ unit '+' := by
        rintro rfl
        exact absurd hv (by decide)
      have hstart : (if v = unit '-' then ((-1 : Int), digits ++ u :: rest)
          else if v = unit '+' then (1, digits ++ u :: rest)
          else (1, v :: (digits ++ u :: rest))) = (1, v :: (digits ++ u :: rest)) := by
        rw [if_neg hminus, if_neg hplus]
      rw [List.cons_append]
      dsimp only
      rw [hstart, ← List.cons_append, ← hpad]
      exact hdigits 1

theorem readYear_yearText {year : Int} (hu : isDigit u = false) (hlower : -999999 ≤ year)
    (hupper : year ≤ 999999) : readYear (yearText year ++ u :: rest) = some (year, u :: rest) := by
  unfold yearText
  by_cases hfour : -9999 ≤ year ∧ year ≤ 9999
  · have hn : year.natAbs < 10 ^ 4 := by omega
    rw [if_pos hfour, List.append_assoc]
    by_cases hneg : year < 0
    · have hvalue : (-1 : Int) * year.natAbs = year := by omega
      rw [if_pos hneg, readYear_sign hu (by decide) hn (.inl ⟨rfl, rfl⟩), hvalue]
    · have hvalue : (1 : Int) * year.natAbs = year := by omega
      rw [if_neg hneg, readYear_sign hu (by decide) hn (.inr (.inr ⟨rfl, rfl⟩)), hvalue]
  · have hn : year.natAbs < 10 ^ 6 := by omega
    rw [if_neg hfour, List.append_assoc]
    by_cases hneg : year < 0
    · have hvalue : (-1 : Int) * year.natAbs = year := by omega
      rw [if_pos hneg, readYear_sign hu (by decide) hn (.inl ⟨rfl, rfl⟩), hvalue]
    · have hvalue : (1 : Int) * year.natAbs = year := by omega
      rw [if_neg hneg, readYear_sign hu (by decide) hn (.inr (.inl ⟨rfl, rfl⟩)), hvalue]

theorem readTwo_pad {separator : Char} {n : Nat} (h : n < 100) :
    readTwo separator (unit separator :: (pad 2 n ++ rest)) = some (n, rest) := by
  have hnumber : number (pad 2 n) = n := number_pad h
  show (if unit separator = unit separator ∧ isDigit (digit (n / 10)) = true ∧
    isDigit (digit n) = true then some (number [digit (n / 10), digit n], rest) else none) = _
  rw [if_pos ⟨rfl, isDigit_digit _, isDigit_digit _⟩]
  exact congrArg (fun k => some (k, rest)) hnumber

theorem readFraction_digits {width n : Nat} (hwidth : 0 < width ∧ width ≤ 6) (hn : n < 10 ^ width) :
    readFraction (unit '.' :: (pad width n ++ unit 'Z' :: rest)) =
      some (n * 10 ^ (6 - width), unit 'Z' :: rest) := by
  have hne : pad width n ≠ [] := by
    intro heq
    have hlength := length_pad width n
    rw [heq] at hlength
    have hzero : 0 = width := hlength
    omega
  have htake : (pad width n ++ List.replicate 6 (digit 0)).take 6 =
      pad width n ++ List.replicate (6 - width) (digit 0) := by
    rw [List.take_append, length_pad, List.take_of_length_le (by rw [length_pad]; exact hwidth.2),
      List.take_replicate]
    congr 2
    omega
  have hspan : (pad width n ++ unit 'Z' :: rest).span isDigit = (pad width n, unit 'Z' :: rest) :=
    span_pad (by decide)
  unfold readFraction
  simp only [if_true, hspan, hne, if_false]
  rw [htake, number_append_zeros, number_pad hn]

/-- Six digits are three and three. -/
theorem pad_three_three (n : Nat) : pad 3 (n / 1000) ++ pad 3 (n % 1000) = pad 6 n := by
  have h1 : n % 1000 / 10 % 10 = n / 10 % 10 := by omega
  have h2 : n % 1000 / 10 / 10 % 10 = n / 10 / 10 % 10 := by omega
  have h3 : n % 1000 % 10 = n % 10 := by omega
  have h4 : n / 1000 = n / 10 / 10 / 10 := by omega
  simp only [pad, digit, h1, h2, h3, h4, List.nil_append, List.append_assoc]

theorem readFraction_isoFraction (d : DateTime) :
    readFraction (d.isoFraction ++ text "Z") = some (d.fraction, text "Z") := by
  have hfraction := d.fraction_lt
  unfold isoFraction
  by_cases hzero : d.fraction % 1000 = 0
  · have hread : readFraction (unit '.' :: (pad 3 (d.fraction / 1000) ++ unit 'Z' :: [])) =
        some (d.fraction / 1000 * 10 ^ (6 - 3), unit 'Z' :: []) :=
      readFraction_digits (by decide) (by omega)
    have hvalue : d.fraction / 1000 * 10 ^ (6 - 3) = d.fraction := by omega
    rw [if_pos hzero, List.append_nil]
    rw [hvalue] at hread
    exact hread
  · have hread : readFraction (unit '.' :: (pad 6 d.fraction ++ unit 'Z' :: [])) =
        some (d.fraction * 10 ^ (6 - 6), unit 'Z' :: []) :=
      readFraction_digits (by decide) (by omega)
    rw [if_neg hzero, pad_three_three]
    rw [Nat.sub_self, Nat.pow_zero, Nat.mul_one] at hread
    exact hread

/-- The fields that follow are read up to the fraction. -/
theorem tryParse_isoSeconds {fraction : Nat}
    (hfraction : readFraction rest = some (fraction, text "Z")) : tryParse (d.isoSeconds ++ rest) =
      ofMicros (d.micros - d.fraction + fraction) := by
  obtain ⟨hyear0, hyear⟩ := d.year_bounds
  obtain ⟨hmonth0, hmonth⟩ := Calendar.civilOf_month d.days
  obtain ⟨hday0, hday⟩ := Calendar.civilOf_day d.days
  have hmonth' : d.date.month.toNat < 100 := by
    unfold date
    omega
  have hday' : d.date.day.toNat < 100 := by
    unfold date
    omega
  have hdate : (⟨d.year, d.date.month.toNat, d.date.day.toNat⟩ : Calendar.Civil) = d.date := by
    have hm : ((d.date.month.toNat : Nat) : Int) = d.date.month := Int.toNat_of_nonneg (by
      unfold date
      omega)
    have hd : ((d.date.day.toNat : Nat) : Int) = d.date.day := Int.toNat_of_nonneg (by
      unfold date
      omega)
    rw [hm, hd]
    rfl
  have hhour : d.hour < 100 := Nat.lt_trans d.hour_lt (by decide)
  have hminute : d.minute < 100 := Nat.lt_trans d.minute_lt (by decide)
  have hsecond : d.second < 100 := Nat.lt_trans d.second_lt (by decide)
  unfold tryParse isoSeconds
  simp only [List.append_assoc, List.cons_append]
  rw [readYear_yearText (by decide) (by omega) (by omega)]
  simp only [Option.bind_eq_bind, Option.bind_some, readTwo_pad hmonth', readTwo_pad hday',
    readTwo_pad hhour, readTwo_pad hminute, readTwo_pad hsecond, hfraction, if_true]
  unfold ofFields
  rw [hdate]
  have hdays : Calendar.daysOf d.date = d.days := Calendar.daysOf_civilOf d.days
  have hmicros := d.micros_eq
  rw [hdays]
  congr 1
  omega

/-- What was written is read back. -/
theorem tryParse_toIso8601String (d : DateTime) : tryParse d.toIso8601String = some d := by
  unfold toIso8601String
  rw [List.append_assoc, tryParse_isoSeconds (readFraction_isoFraction d), Int.sub_add_cancel,
    ofMicros_micros]

/-! ## Whole seconds -/

/-- The start of its second. -/
def truncated (d : DateTime) : DateTime where
  micros := d.micros - d.fraction
  lower := by
    have hlower := d.lower
    have hfraction : (d.fraction : Int) = d.micros % 86400000000 % 1000000 := by
      unfold fraction inDay
      omega
    unfold maxMicroseconds at *
    omega
  upper := by
    have hupper := d.upper
    omega

@[simp] theorem truncated_micros (d : DateTime) : d.truncated.micros = d.micros - d.fraction := rfl

theorem truncated_days (d : DateTime) : d.truncated.days = d.days := by
  have hfraction := d.fraction_lt
  unfold days fraction inDay at *
  rw [truncated_micros]
  unfold fraction inDay
  omega

theorem truncated_inDay (d : DateTime) : d.truncated.inDay = d.inDay - d.fraction := by
  unfold inDay
  rw [truncated_micros]
  unfold fraction inDay
  omega

theorem truncated_isoSeconds (d : DateTime) : d.truncated.isoSeconds = d.isoSeconds := by
  have hdate : d.truncated.date = d.date := by
    unfold date
    rw [truncated_days]
  have hhour : d.truncated.hour = d.hour := by
    unfold hour
    rw [truncated_inDay]
    unfold fraction
    omega
  have hminute : d.truncated.minute = d.minute := by
    unfold minute
    rw [truncated_inDay]
    unfold fraction
    omega
  have hsecond : d.truncated.second = d.second := by
    unfold second
    rw [truncated_inDay]
    unfold fraction
    omega
  unfold isoSeconds year
  rw [hdate, hhour, hminute, hsecond]

theorem truncated_fraction (d : DateTime) : d.truncated.fraction = 0 := by
  have hinDay := d.truncated_inDay
  unfold fraction at *
  omega

theorem truncated_year (d : DateTime) : d.truncated.year = d.year := by
  unfold year date
  rw [truncated_days]

/-- What may stand in the text up to the seconds. -/
theorem mem_isoSeconds (h : u ∈ d.isoSeconds) :
    isDigit u = true ∨ u ∈ [unit '-', unit '+', unit 'T', unit ':'] := by
  have hpad : ∀ {width n : Nat}, u ∈ pad width n → isDigit u = true := fun hu =>
    List.all_eq_true.mp (all_pad _ _) u hu
  have hyear : u ∈ yearText d.year → isDigit u = true ∨ u = unit '-' ∨ u = unit '+' := by
    unfold yearText
    intro hu
    split at hu
    · rcases List.mem_append.mp hu with hsign | hdigits
      · split at hsign
        · exact .inr (.inl (List.mem_singleton.mp hsign))
        · cases hsign
      · exact .inl (hpad hdigits)
    · rcases List.mem_append.mp hu with hsign | hdigits
      · split at hsign
        · exact .inr (.inl (List.mem_singleton.mp hsign))
        · exact .inr (.inr (List.mem_singleton.mp hsign))
      · exact .inl (hpad hdigits)
  unfold isoSeconds at h
  simp only [List.mem_append, List.mem_cons] at h
  simp only [List.mem_cons, List.not_mem_nil, or_false]
  rcases h with h | h | h | h | h | h | h | h | h | h | h
  · rcases hyear h with hdigit | hminus | hplus
    · exact .inl hdigit
    · exact .inr (.inl hminus)
    · exact .inr (.inr (.inl hplus))
  · exact .inr (.inl h)
  · exact .inl (hpad h)
  · exact .inr (.inl h)
  · exact .inl (hpad h)
  · exact .inr (.inr (.inr (.inl h)))
  · exact .inl (hpad h)
  · exact .inr (.inr (.inr (.inr h)))
  · exact .inl (hpad h)
  · exact .inr (.inr (.inr (.inr h)))
  · exact .inl (hpad h)

/-- The text up to the seconds ends at a unit that it does not have. -/
theorem takeWhile_isoSeconds (hdigit : isDigit u = false)
    (hother : u ∉ [unit '-', unit '+', unit 'T', unit ':']) :
    (d.isoSeconds ++ u :: rest).takeWhile (· ≠ u) = d.isoSeconds := by
  have hall : ∀ v ∈ d.isoSeconds, (decide (v ≠ u)) = true := by
    intro v hv
    rw [decide_eq_true_eq]
    rintro rfl
    rcases mem_isoSeconds hv with h | h
    · rw [hdigit] at h
      exact absurd h Bool.false_ne_true
    · exact hother h
  have hstop : (u :: rest).takeWhile (· ≠ u) = [] := List.takeWhile_cons_of_neg (by simp)
  rw [List.takeWhile_append_of_pos hall, hstop, List.append_nil]

end DateTime

end Dart
