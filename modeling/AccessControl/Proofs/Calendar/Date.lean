import AccessControl.Calendar.Date
import Mathlib.Tactic.SplitIfs

/-!
# Day numbers and dates

`Date.ofDays` and `Date.toDays` are related by the parts of a day number: an era of 400 years, in it
a century, four years of the century, one year of these and a day of the year, all counted from the
March before (`EraDay`). Every day number has such parts (`EraDay.exists_number_eq`), and both
directions come down to them. So every day number has a date of the calendar, and is the day number
of its date.
-/

namespace AccessControl.Calendar

/-- A day by its place in the calendar, counted from a first of March: centuries, except the last
of an era, have a leap day less. -/
structure EraDay where
  era : Int
  century : Int
  cycle : Int
  year : Int
  day : Int
  century_mem : 0 ≤ century ∧ century ≤ 3
  cycle_mem : 0 ≤ cycle ∧ cycle ≤ 24
  year_mem : 0 ≤ year ∧ year ≤ 3
  day_mem : 0 ≤ day ∧ day ≤ 365
  /-- The leap day is the last of the last year of its cycle. -/
  leap : day = 365 → year = 3 ∧ (cycle = 24 → century = 3)

namespace EraDay

variable (p : EraDay)

/-- The day in its era. -/
def ofEra : Int :=
  36524 * p.century + 1461 * p.cycle + 365 * p.year + p.day

/-- The day number. -/
def number : Int :=
  146097 * p.era + p.ofEra - 719468

/-- The year of the era. -/
def yearOfEra : Int :=
  100 * p.century + 4 * p.cycle + p.year

/-- The month, counted from March. -/
def month : Int :=
  (5 * p.day + 2) / 153

/-- The date. -/
def date : Date where
  year := p.yearOfEra + p.era * 400 + if p.month < 10 then 0 else 1
  month := (if p.month < 10 then p.month + 3 else p.month - 9).toNat
  day := (p.day - (153 * p.month + 2) / 5 + 1).toNat

/-- An era has 146097 days. -/
theorem ofEra_mem : 0 ≤ p.ofEra ∧ p.ofEra < 146097 := by
  obtain ⟨era, century, cycle, year, day, _, _, _, _, _⟩ := p
  simp only [ofEra]
  omega

/-- Counted from March, there are twelve months. -/
theorem month_mem : 0 ≤ p.month ∧ p.month ≤ 11 := by
  have hday := p.day_mem
  rw [month]
  omega

/-- Every day number has parts. -/
theorem exists_number_eq (days : Int) : ∃ p : EraDay, p.number = days := by
  let ofEra := (days + 719468) % 146097
  let century := min (ofEra / 36524) 3
  let ofCentury := ofEra - 36524 * century
  let cycle := min (ofCentury / 1461) 24
  let ofCycle := ofCentury - 1461 * cycle
  let year := min (ofCycle / 365) 3
  let era := (days + 719468) / 146097
  refine ⟨⟨era, century, cycle, year, ofCycle - 365 * year, ?_, ?_, ?_, ?_, ?_⟩, ?_⟩
  · omega
  · omega
  · omega
  · omega
  · omega
  · simp only [number, EraDay.ofEra]
    omega

/-- The year that is computed from the day of the era is the year of its parts. -/
theorem yearOfEra_eq :
    (p.ofEra - p.ofEra / 1460 + p.ofEra / 36524 - p.ofEra / 146096) / 365 = p.yearOfEra := by
  obtain ⟨era, century, cycle, year, day, _, _, _, _, _⟩ := p
  simp only [ofEra, yearOfEra]
  generalize hofEra : 36524 * century + 1461 * cycle + 365 * year + day = ofEra
  -- the leap days that the centuries so far have less, and those of the cycles so far, or one more
  have hlast : ofEra < 36524 * century + 36524 ∨ century = 3 ∧ ofEra = 146096 := by omega
  have hcenturies : ofEra / 36524 - ofEra / 146096 = century := by
    rcases hlast with hlast | ⟨rfl, rfl⟩
    · have hcentury : ofEra / 36524 = century := by omega
      have hera : ofEra / 146096 = 0 := by omega
      omega
    · rfl
  have hcycles : ofEra / 1460 =
      25 * century + cycle + (24 * century + cycle + 365 * year + day) / 1460 := by omega
  have hday : 0 ≤ day - (24 * century + cycle + 365 * year + day) / 1460 ∧
      day - (24 * century + cycle + 365 * year + day) / 1460 ≤ 364 := by omega
  omega

/-- An era has four hundred years. -/
theorem yearOfEra_mem : 0 ≤ p.yearOfEra ∧ p.yearOfEra ≤ 399 := by
  obtain ⟨era, century, cycle, year, day, _, _, _, _, _⟩ := p
  simp only [yearOfEra]
  omega

/-- The first day of the year of the era. -/
theorem startOfYear_eq :
    365 * p.yearOfEra + p.yearOfEra / 4 - p.yearOfEra / 100 = p.ofEra - p.day := by
  obtain ⟨era, century, cycle, year, day, _, _, _, _, _⟩ := p
  simp only [ofEra, yearOfEra]
  have hquarter : (100 * century + 4 * cycle + year) / 4 = 25 * century + cycle := by omega
  have hhundredth : (100 * century + 4 * cycle + year) / 100 = century := by omega
  omega

/-- The date of a day number is that of its parts. -/
theorem ofDays_number : Date.ofDays p.number = p.date := by
  have hofEra := p.ofEra_mem
  have hera : (p.number + 719468) / 146097 = p.era := by
    rw [number]
    omega
  have hrest : (p.number + 719468) % 146097 = p.ofEra := by
    rw [number]
    omega
  have hday : p.ofEra - (p.ofEra - p.day) = p.day := by omega
  have hmonth : (5 * p.day + 2) / 153 = p.month := rfl
  have hmonth_mem := p.month_mem
  simp only [Date.ofDays, hera, hrest, p.yearOfEra_eq, p.startOfYear_eq, hday, hmonth]
  rw [date]
  congr 1
  split_ifs <;> omega

/-- The day of the date is counted within its month. -/
theorem date_day : (p.date.day : Int) = p.day - (153 * p.month + 2) / 5 + 1 := by
  have hmonth : p.month = (5 * p.day + 2) / 153 := rfl
  have hday := p.day_mem
  simp only [date]
  omega

/-- January and February belong to the next year of the calendar. -/
theorem date_month :
    p.month < 10 ∧ (p.date.month : Int) = p.month + 3 ∧ p.date.year = p.yearOfEra + p.era * 400 ∨
    10 ≤ p.month ∧ (p.date.month : Int) = p.month - 9 ∧
      p.date.year = p.yearOfEra + p.era * 400 + 1 := by
  have hmonth := p.month_mem
  simp only [date]
  split_ifs <;> omega

/-- The day number of the date is the one that the parts make up. -/
theorem toDays_date : p.date.toDays = p.number := by
  have hday := p.date_day
  have hyear := p.yearOfEra_mem
  have hstart := p.startOfYear_eq
  have hmonth : p.month = (5 * p.day + 2) / 153 := rfl
  have hnumber : p.number = 146097 * p.era + p.ofEra - 719468 := rfl
  unfold Date.toDays
  obtain ⟨hlt, hdate, hdateYear⟩ | ⟨hge, hdate, hdateYear⟩ := p.date_month
  · have hlate : ¬ p.date.month ≤ 2 := by have := p.month_mem; omega
    have hera : p.date.year / 400 = p.era := by omega
    have hrest : p.date.year % 400 = p.yearOfEra := by omega
    simp only [if_neg hlate, hera, hrest]
    have hshifted : ((p.date.month - 3 : Nat) : Int) = p.month := by omega
    rw [hshifted]
    omega
  · have hearly : p.date.month ≤ 2 := by have := p.month_mem; omega
    have hera : (p.date.year - 1) / 400 = p.era := by omega
    have hrest : (p.date.year - 1) % 400 = p.yearOfEra := by omega
    simp only [if_pos hearly, hera, hrest]
    have hshifted : ((p.date.month + 9 : Nat) : Int) = p.month := by omega
    rw [hshifted]
    omega

/-- A year has a leap day if its last day, counted from March, is the 366th. -/
theorem isLeap_of_day (h : p.day = 365) : Date.isLeap (p.yearOfEra + p.era * 400 + 1) = true := by
  have hleap := p.leap h
  have hcycle := p.cycle_mem
  have hcentury := p.century_mem
  have hyear : p.yearOfEra = 100 * p.century + 4 * p.cycle + p.year := rfl
  simp only [Date.isLeap, Bool.and_eq_true, Bool.or_eq_true, beq_iff_eq, bne_iff_ne]
  omega

/-- The date is one of the calendar. -/
theorem valid_date : p.date.Valid := by
  have hday := p.date_day
  have hmonth : p.month = (5 * p.day + 2) / 153 := rfl
  have hmem := p.month_mem
  have hday_mem := p.day_mem
  obtain ⟨hlt, hdate, _⟩ | ⟨hge, hdate, hyear⟩ := p.date_month
  · refine ⟨by omega, by omega, by omega, ?_⟩
    rw [Date.daysIn, if_neg (by omega)]
    split_ifs <;> omega
  · refine ⟨by omega, by omega, by omega, ?_⟩
    by_cases hfebruary : p.date.month = 2
    · rw [Date.daysIn, if_pos hfebruary]
      by_cases hlast : p.day = 365
      · rw [hyear, p.isLeap_of_day hlast, if_pos rfl]
        omega
      · split_ifs <;> omega
    · rw [Date.daysIn, if_neg hfebruary]
      split_ifs <;> omega

/-- Days of later years have greater numbers. -/
theorem number_lt_of_year_lt {q : EraDay} (h : p.date.year < q.date.year) :
    p.number < q.number := by
  have hp := p.date_month
  have hq := q.date_month
  obtain ⟨era, century, cycle, year, day, _, _, _, _, _⟩ := p
  obtain ⟨era', century', cycle', year', day', _, _, _, _, _⟩ := q
  -- a day of an earlier year comes before in the era, the century, the cycle, the year or the month
  simp only [number, ofEra, month, yearOfEra] at hp hq ⊢
  omega

end EraDay

namespace Date

/-- A day number is that of its date. -/
theorem toDays_ofDays (days : Int) : (ofDays days).toDays = days := by
  obtain ⟨p, rfl⟩ := EraDay.exists_number_eq days
  rw [p.ofDays_number, p.toDays_date]

/-- The date of a day number is one that the calendar has. -/
theorem valid_ofDays (days : Int) : (ofDays days).Valid := by
  obtain ⟨p, rfl⟩ := EraDay.exists_number_eq days
  rw [p.ofDays_number]
  exact p.valid_date

/-- No month has more than thirty-one days. -/
theorem daysIn_le (year : Int) (month : Nat) : daysIn year month ≤ 31 := by
  rw [daysIn]
  split_ifs <;> decide

/-- Later days are not in earlier years. -/
theorem year_mono {days days' : Int} (h : days ≤ days') :
    (ofDays days).year ≤ (ofDays days').year := by
  obtain ⟨p, rfl⟩ := EraDay.exists_number_eq days
  obtain ⟨q, rfl⟩ := EraDay.exists_number_eq days'
  rw [p.ofDays_number, q.ofDays_number]
  exact Int.not_lt.mp fun hlt => absurd (q.number_lt_of_year_lt hlt) (Int.not_lt.mpr h)

end Date

end AccessControl.Calendar
