import Mathlib.Tactic.Common

/-!
# The Gregorian calendar

Days and dates of the proleptic Gregorian calendar. A year is counted from its
March, so that a leap day is the last of its year, and 400 years are an era.
-/

namespace Calendar

structure Civil where
  year : Int
  month : Int
  day : Int

/-- The day on which a year starts, from the March of the year 0. -/
def yearStart (year : Int) : Int := 365 * year + year / 4 - year / 100 + year / 400

/-- The day of a year on which a month of it starts. -/
def monthStart (month : Int) : Int := (153 * month + 2) / 5

/-- The year of the era that a day of it falls in. -/
def yearOfEra (day : Int) : Int :=
  let century := min (day / 36524) 3
  let quad := (day - 36524 * century) / 1461
  let rest := day - 36524 * century - 1461 * quad
  100 * century + 4 * quad + min (rest / 365) 3

/-- The month of the year, from a March, that a day of it falls in. -/
def monthOfYear (day : Int) : Int := (5 * day + 2) / 153

/-- From 1970-01-01 back to the March of the year 0. -/
def epoch : Int := 719468

/-- The date of a day, counted from 1970-01-01. -/
def civilOf (days : Int) : Civil :=
  let era := (days + epoch) / 146097
  let inEra := (days + epoch) % 146097
  let year := yearOfEra inEra
  let inYear := inEra - yearStart year
  let month := monthOfYear inYear
  { year := 400 * era + year + if month < 10 then 0 else 1
    month := if month < 10 then month + 3 else month - 9
    day := inYear - monthStart month + 1 }

/-- The day of a date. What lies outside its month counts on. -/
def daysOf (date : Civil) : Int :=
  let year := if date.month ≤ 2 then date.year - 1 else date.year
  let month := if date.month ≤ 2 then date.month + 9 else date.month - 3
  yearStart year + monthStart month + date.day - 1 - epoch

/-! ## Years and months -/

theorem yearStart_era (era year : Int) :
    yearStart (400 * era + year) = 146097 * era + yearStart year := by
  unfold yearStart
  omega

theorem yearStart_mono {year year' : Int} (h : year ≤ year') : yearStart year ≤ yearStart year' := by
  unfold yearStart
  omega

theorem yearStart_parts {century quad year : Int} (hc0 : 0 ≤ century) (hc : century ≤ 3)
    (hq0 : 0 ≤ quad) (hq : quad ≤ 24) (hy0 : 0 ≤ year) (hy : year ≤ 3) :
    yearStart (100 * century + 4 * quad + year) = 36524 * century + 1461 * quad + 365 * year := by
  have h4 : (100 * century + 4 * quad + year) / 4 = 25 * century + quad := by omega
  have h100 : (100 * century + 4 * quad + year) / 100 = century := by omega
  have h400 : (100 * century + 4 * quad + year) / 400 = 0 := by omega
  rw [yearStart, h4, h100, h400]
  omega

theorem yearOfEra_bounds {day : Int} (h0 : 0 ≤ day) (h : day < 146097) :
    0 ≤ yearOfEra day ∧ yearOfEra day < 400 ∧ yearStart (yearOfEra day) ≤ day ∧
      day ≤ yearStart (yearOfEra day) + 365 ∧ day < yearStart (yearOfEra day + 1) := by
  unfold yearOfEra
  dsimp only
  generalize hc : min (day / 36524) 3 = century
  have hcentury : 0 ≤ century ∧ century ≤ 3 ∧ 36524 * century ≤ day ∧
      day - 36524 * century ≤ 36524 ∧ (century < 3 → day - 36524 * century < 36524) := by omega
  generalize hd : day - 36524 * century = inCentury at *
  generalize hq : inCentury / 1461 = quad
  have hquad : 0 ≤ quad ∧ quad ≤ 24 ∧ 1461 * quad ≤ inCentury ∧
      inCentury - 1461 * quad ≤ 1460 := by omega
  generalize hr : inCentury - 1461 * quad = rest at *
  generalize hy : min (rest / 365) 3 = year
  have hyear : 0 ≤ year ∧ year ≤ 3 ∧ 365 * year ≤ rest ∧ rest - 365 * year ≤ 365 ∧
      (year < 3 → rest - 365 * year < 365) := by omega
  obtain ⟨hc0, hc3, -⟩ := hcentury
  obtain ⟨hq0, hq24, -⟩ := hquad
  obtain ⟨hy0, hy3, -⟩ := hyear
  have hstart := yearStart_parts hc0 hc3 hq0 hq24 hy0 hy3
  refine ⟨by omega, by omega, by omega, by omega, ?_⟩
  -- the next year is in the same four, in the next four, in the next century or in the next era
  rcases Int.lt_or_le year 3 with hlt | hge
  · have hnext : yearStart (100 * century + 4 * quad + (year + 1)) =
        36524 * century + 1461 * quad + 365 * (year + 1) :=
      yearStart_parts hc0 hc3 hq0 hq24 (by omega) (by omega)
    rw [← Int.add_assoc] at hnext
    omega
  · obtain rfl : year = 3 := by omega
    rcases Int.lt_or_le quad 24 with hlt | hge
    · have hnext : yearStart (100 * century + 4 * (quad + 1) + 0) =
          36524 * century + 1461 * (quad + 1) + 365 * 0 :=
        yearStart_parts hc0 hc3 (by omega) (by omega) (by omega) (by omega)
      have heq : 100 * century + 4 * quad + 3 + 1 = 100 * century + 4 * (quad + 1) + 0 := by omega
      rw [heq]
      omega
    · obtain rfl : quad = 24 := by omega
      rcases Int.lt_or_le century 3 with hlt | hge
      · have hnext : yearStart (100 * (century + 1) + 4 * 0 + 0) =
            36524 * (century + 1) + 1461 * 0 + 365 * 0 :=
          yearStart_parts (by omega) (by omega) (by omega) (by omega) (by omega) (by omega)
        have heq : 100 * century + 4 * 24 + 3 + 1 = 100 * (century + 1) + 4 * 0 + 0 := by omega
        rw [heq]
        omega
      · obtain rfl : century = 3 := by omega
        have hnext : yearStart (100 * 3 + 4 * 24 + 3 + 1) = 146097 := rfl
        omega

theorem monthOfYear_bounds {day : Int} (h0 : 0 ≤ day) (h : day ≤ 365) :
    0 ≤ monthOfYear day ∧ monthOfYear day ≤ 11 ∧ monthStart (monthOfYear day) ≤ day ∧
      day ≤ monthStart (monthOfYear day) + 30 := by
  unfold monthStart monthOfYear
  omega

theorem monthOfYear_mono {day day' : Int} (h : day ≤ day') : monthOfYear day ≤ monthOfYear day' := by
  unfold monthOfYear
  omega

/-! ## Dates -/

/-- A day as a year that starts in March, a month of it and a day of that. -/
structure Parts (days year month day : Int) : Prop where
  month_nonneg : 0 ≤ month
  month_le : month ≤ 11
  day_nonneg : 0 ≤ day
  day_le : day ≤ 30
  sum : yearStart year + monthStart month + day = days + epoch
  before : days + epoch < yearStart (year + 1)
  month_eq : month = monthOfYear (days + epoch - yearStart year)
  civil : civilOf days =
    ⟨year + if month < 10 then 0 else 1, if month < 10 then month + 3 else month - 9, day + 1⟩

theorem exists_parts (days : Int) : ∃ year month day, Parts days year month day := by
  have hera : 0 ≤ (days + epoch) % 146097 ∧ (days + epoch) % 146097 < 146097 := by omega
  obtain ⟨-, -, hstart, hend, hnext⟩ := yearOfEra_bounds hera.1 hera.2
  have hinEra : 0 ≤ (days + epoch) % 146097 - yearStart (yearOfEra ((days + epoch) % 146097)) := by
    omega
  have hmonth := monthOfYear_bounds hinEra (by omega)
  have hyear := yearStart_era ((days + epoch) / 146097) (yearOfEra ((days + epoch) % 146097))
  have hafter := yearStart_era ((days + epoch) / 146097) (yearOfEra ((days + epoch) % 146097) + 1)
  have hinYear : days + epoch - yearStart (400 * ((days + epoch) / 146097) +
      yearOfEra ((days + epoch) % 146097)) =
      (days + epoch) % 146097 - yearStart (yearOfEra ((days + epoch) % 146097)) := by omega
  refine ⟨_, _, _, hmonth.1, hmonth.2.1, ?_, ?_, ?_, ?_, ?_, rfl⟩
  · exact Int.sub_nonneg_of_le hmonth.2.2.1
  · omega
  · omega
  · rw [Int.add_assoc]
    omega
  · rw [hinYear]

theorem civilOf_month (days : Int) : 1 ≤ (civilOf days).month ∧ (civilOf days).month ≤ 12 := by
  obtain ⟨year, month, day, p⟩ := exists_parts days
  have h0 := p.month_nonneg
  have h := p.month_le
  rw [p.civil]
  dsimp only
  split <;> omega

theorem civilOf_day (days : Int) : 1 ≤ (civilOf days).day ∧ (civilOf days).day ≤ 31 := by
  obtain ⟨year, month, day, p⟩ := exists_parts days
  have h0 := p.day_nonneg
  have h := p.day_le
  rw [p.civil]
  dsimp only
  omega

theorem daysOf_civilOf (days : Int) : daysOf (civilOf days) = days := by
  obtain ⟨year, month, day, p⟩ := exists_parts days
  have h0 := p.month_nonneg
  have h := p.month_le
  have hsum := p.sum
  have hcounted : ∀ y m : Int, y = year → m = month →
      yearStart y + monthStart m + (day + 1) - 1 - epoch = days := by
    rintro y m rfl rfl
    omega
  rw [p.civil]
  refine hcounted _ _ ?_ ?_
  · dsimp only
    split <;> split <;> omega
  · dsimp only
    split <;> split <;> omega

/-- Years go on with the days. -/
theorem civilOf_year_mono {days days' : Int} (h : days ≤ days') :
    (civilOf days).year ≤ (civilOf days').year := by
  obtain ⟨year, month, day, p⟩ := exists_parts days
  obtain ⟨year', month', day', p'⟩ := exists_parts days'
  have hyear : year ≤ year' := by
    by_contra hlt
    have hmono : yearStart (year' + 1) ≤ yearStart year := yearStart_mono (by omega)
    have hafter := p'.before
    have hsum := p.sum
    have hmonth : 0 ≤ monthStart month := by
      have h0 := p.month_nonneg
      unfold monthStart
      omega
    have hday := p.day_nonneg
    omega
  rw [p.civil, p'.civil]
  dsimp only
  rcases Int.lt_or_eq_of_le hyear with hlt | rfl
  · split <;> split <;> omega
  · have hmonth : month ≤ month' := by
      rw [p.month_eq, p'.month_eq]
      exact monthOfYear_mono (by omega)
    split <;> split <;> omega

end Calendar
