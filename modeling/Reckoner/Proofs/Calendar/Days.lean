import Reckoner.Calendar.Moment

/-!
# Days and their dates

The date of a day counts back to that day (`toDays_ofDays`), and it is one that the calendar has
(`isValid_ofDays`). Days are counted in eras of 400 years; within an era they are taken apart into
centuries, leap periods of four years, years and days (`exists_parts`), which settles every division
by a length of years.
-/

namespace Reckoner.Date

/-! ## Years of an era -/

/-- The day of an era as centuries `c`, leap periods `q`, years `k` and days `d`. The last year of a
leap period has one day more, except in the last period of a century that is not the last one. -/
structure Parts (day c q k d : Nat) : Prop where
  sum : day = 36524 * c + 1461 * q + 365 * k + d
  centuries : c ≤ 3
  periods : q ≤ 24
  years : k ≤ 3
  days : d ≤ 365
  leap : d = 365 → k = 3 ∧ (q = 24 → c = 3)

theorem exists_parts {day : Nat} (within : day < 146097) : ∃ c q k d, Parts day c q k d := by
  -- The last century of an era is one day longer, as is the last year of a leap period.
  have century : ∃ c rest, day = 36524 * c + rest ∧ c ≤ 3 ∧ rest ≤ 36524 ∧
      (rest = 36524 → c = 3) :=
    ⟨min 3 (day / 36524), day - 36524 * min 3 (day / 36524), by omega⟩
  obtain ⟨c, inCentury, split, centuries, short, last⟩ := century
  have year : ∃ k rest, inCentury % 1461 = 365 * k + rest ∧ k ≤ 3 ∧ rest ≤ 365 ∧
      (rest = 365 → k = 3) :=
    ⟨min 3 (inCentury % 1461 / 365), inCentury % 1461 - 365 * min 3 (inCentury % 1461 / 365), by
      omega⟩
  obtain ⟨k, d, cut, years, days, leap⟩ := year
  exact ⟨c, inCentury / 1461, k, d, by omega, centuries, by omega, years, days, by omega⟩

section Era

variable {day c q k d : Nat} (parts : Parts day c q k d)

include parts

/-- The year of a day in its era. -/
theorem Parts.year :
    (day - day / 1460 + day / 36524 - day / 146096) / 365 = 100 * c + 4 * q + k := by
  obtain ⟨sum, centuries, periods, years, days, leap⟩ := parts
  -- With the leap days taken off, every year has 365 days.
  have longer : day / 1460 = 25 * c + q + (24 * c + q + 365 * k + d) / 1460 := by omega
  have century : day / 36524 = c + day / 146096 := by
    by_cases last : day = 146096
    · omega
    · have whole : day / 36524 = c := Nat.div_eq_of_lt_le (by omega) (by omega)
      omega
  rw [longer, century]
  omega

/-- The days of an era before a year. -/
theorem Parts.before :
    365 * (100 * c + 4 * q + k) + (100 * c + 4 * q + k) / 4 - (100 * c + 4 * q + k) / 100 =
      36524 * c + 1461 * q + 365 * k := by
  obtain ⟨sum, centuries, periods, years, days, leap⟩ := parts
  have quarter : (100 * c + 4 * q + k) / 4 = 25 * c + q := by omega
  have hundred : (100 * c + 4 * q + k) / 100 = c := by omega
  rw [quarter, hundred]
  omega

end Era

/-! ## Months of a year -/

/-- The month of a day in a year that starts in March, counted from zero. -/
def marchMonth (day : Nat) : Nat := (5 * day + 2) / 153

/-- The days of a year before a month, counted from March. -/
def marchDays (month : Nat) : Nat := (153 * month + 2) / 5

/-- The number of a month that is counted from March. -/
def monthOfMarch (month : Nat) : Nat := if month < 10 then month + 3 else month - 9

/-- The date of a day in a year that starts in March. -/
def ofMarch (year : Int) (day : Nat) : Date :=
  let month := monthOfMarch (marchMonth day)
  ⟨if month ≤ 2 then year + 1 else year, month, day - marchDays (marchMonth day) + 1⟩

theorem ofDays_eq_ofMarch {days : Int} {c q k d : Nat}
    (parts : Parts ((days + 719468) % 146097).toNat c q k d) :
    ofDays days = ofMarch ((100 * c + 4 * q + k : Nat) + (days + 719468) / 146097 * 400) d := by
  have rest : ((days + 719468) % 146097).toNat - (36524 * c + 1461 * q + 365 * k) = d := by
    rw [parts.sum]
    omega
  rw [ofDays, parts.year, parts.before, rest]
  rfl

theorem months_of_year : ∀ day < 366,
    1 ≤ monthOfMarch (marchMonth day) ∧ monthOfMarch (marchMonth day) ≤ 12 ∧
      (monthOfMarch (marchMonth day) + 9) % 12 = marchMonth day ∧
        marchDays (marchMonth day) ≤ day ∧
          day - marchDays (marchMonth day) + 1 ≤
            if day = 365 then 29 else daysInMonth 1 (monthOfMarch (marchMonth day)) := by
  decide +kernel

/-- The days of a date are those of the eras, years and days that it is made of. -/
theorem toDays_ofMarch (year : Int) {day : Nat} (within : day < 366) :
    (ofMarch year day).toDays =
      year / 400 * 146097 + (year % 400 * 365 + year % 400 / 4 - year % 400 / 100 + day)
        - 719468 := by
  obtain ⟨least, most, march, before, -⟩ := months_of_year day within
  have start : (if monthOfMarch (marchMonth day) ≤ 2 then
      (if monthOfMarch (marchMonth day) ≤ 2 then year + 1 else year) - 1
      else (if monthOfMarch (marchMonth day) ≤ 2 then year + 1 else year)) = year := by
    by_cases early : monthOfMarch (marchMonth day) ≤ 2
    · rw [if_pos early, if_pos early]
      omega
    · rw [if_neg early, if_neg early]
  have inYear :
      (153 * marchMonth day + 2) / 5 + (day - marchDays (marchMonth day) + 1) - 1 = day := by
    rw [marchDays] at before ⊢
    omega
  rw [toDays, ofMarch]
  dsimp only
  rw [start, march, inYear]

/-- **The date of a day counts back to that day.** -/
theorem toDays_ofDays (days : Int) : (ofDays days).toDays = days := by
  have within : ((days + 719468) % 146097).toNat < 146097 := by omega
  obtain ⟨c, q, k, d, parts⟩ := exists_parts within
  have before := parts.before
  obtain ⟨sum, centuries, periods, years, few, leap⟩ := id parts
  have small : d < 366 := by omega
  rw [ofDays_eq_ofMarch parts, toDays_ofMarch _ small]
  -- The division by 400 years gives back the era, and the rest of it the year in the era.
  generalize year : 100 * c + 4 * q + k = y at before
  have short : y < 400 := by omega
  have era : ((y : Int) + (days + 719468) / 146097 * 400) / 400 = (days + 719468) / 146097 := by
    omega
  have inEra : ((y : Int) + (days + 719468) / 146097 * 400) % 400 = y := by omega
  rw [era, inEra]
  omega

theorem daysInMonth_le (year : Int) (month : Nat) :
    daysInMonth 1 month ≤ daysInMonth year month := by
  rw [daysInMonth, daysInMonth]
  by_cases february : month = 2
  · rw [if_pos february, if_pos february]
    show 28 ≤ _
    split
    · decide
    · exact Nat.le_refl 28
  · exact Nat.le_of_eq (by rw [if_neg february, if_neg february])

theorem daysInMonth_le_max (year : Int) (month : Nat) : daysInMonth year month ≤ 31 := by
  rw [daysInMonth]
  split
  · split
    · decide
    · decide
  · split
    · decide
    · decide

/-- The last day of a long year is a leap day. -/
theorem Parts.isLeapYear {day c q k : Nat} (parts : Parts day c q k 365) (era : Int) :
    isLeapYear ((100 * c + 4 * q + k : Nat) + era * 400 + 1) = true := by
  obtain ⟨sum, centuries, periods, years, few, leap⟩ := parts
  obtain ⟨rfl, last⟩ := leap rfl
  simp only [Date.isLeapYear, Bool.and_eq_true, Bool.or_eq_true, decide_eq_true_eq]
  refine ⟨by omega, ?_⟩
  by_cases final : q = 24
  · right
    have century := last final
    omega
  · left
    omega

/-- **The date of a day is one that the calendar has**, if its year is. -/
theorem isValid_ofDays {days : Int} (year : isYear (ofDays days).year = true) :
    (ofDays days).isValid = true := by
  have within : ((days + 719468) % 146097).toNat < 146097 := by omega
  obtain ⟨c, q, k, d, parts⟩ := exists_parts within
  have few := parts.days
  obtain ⟨least, most, -, -, short⟩ := months_of_year d (by omega)
  rw [ofDays_eq_ofMarch parts] at year ⊢
  generalize era : (days + 719468) / 146097 = n at year ⊢
  have inMonth : (ofMarch ((100 * c + 4 * q + k : Nat) + n * 400) d).day ≤
      daysInMonth (ofMarch ((100 * c + 4 * q + k : Nat) + n * 400) d).year
        (ofMarch ((100 * c + 4 * q + k : Nat) + n * 400) d).month := by
    -- Only the last day of a long year is one that other years do not have.
    by_cases last : d = 365
    · subst last
      have leap := parts.isLeapYear n
      show 29 ≤ if isLeapYear ((100 * c + 4 * q + k : Nat) + n * 400 + 1) then 29 else 28
      exact Nat.le_of_eq (if_pos leap).symm
    · rw [if_neg last] at short
      exact Nat.le_trans short (daysInMonth_le _ _)
  simp only [isValid, Bool.and_eq_true, decide_eq_true_eq]
  exact ⟨⟨⟨⟨year, least⟩, most⟩, Nat.le_add_left 1 _⟩, inMonth⟩

/-- Days of the years that dates may have. -/
theorem days_of_isYear {days : Int} (year : isYear (ofDays days).year = true) :
    -97000000 ≤ days ∧ days ≤ 97000000 := by
  have within : ((days + 719468) % 146097).toNat < 146097 := by omega
  obtain ⟨c, q, k, d, parts⟩ := exists_parts within
  rw [ofDays_eq_ofMarch parts, ofMarch, isYear, Bool.and_eq_true, decide_eq_true_eq,
    decide_eq_true_eq] at year
  have centuries := parts.centuries
  have periods := parts.periods
  have years := parts.years
  dsimp only at year
  split at year
  · omega
  · omega

end Reckoner.Date
