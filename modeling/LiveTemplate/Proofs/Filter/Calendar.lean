import LiveTemplate.Filter.Calendar
import Mathlib.Data.List.Basic

/-!
Days and their numbers.  Every day has one date that is in the calendar, and every such date is that of one day; and
the date of the day after is the next one.  Years are counted from March, as in the computation itself: then an era of
400 years is cut into centuries, groups of four years and years by the number of days alone, and a month ends where the
next one begins.
-/

namespace LiveTemplate.Date

/-! ### The days of an era -/

/-- A place in an era: a century, a group of four years in it, a year of the group, and a day of the year.  A year has
365 days, and a leap day after them if it ends a group, unless it also ends a century that does not end the era. -/
structure IsPlace (century group year day : Int) : Prop where
  inEra : 0 ≤ century ∧ century ≤ 3
  inCentury : 0 ≤ group ∧ group ≤ 24
  inGroup : 0 ≤ year ∧ year ≤ 3
  inYear : 0 ≤ day ∧ (day < 365 ∨ (day = 365 ∧ year = 3 ∧ (group < 24 ∨ century = 3)))

/-- The number of the day at a place in an era. -/
def dayAt (century group year day : Int) : Int :=
  36524 * century + 1461 * group + 365 * year + day

/-- The number of a year in an era. -/
def yearAt (century group year : Int) : Int :=
  100 * century + 4 * group + year

/-- Every day of an era has a place. -/
theorem exists_dayAt {number : Int} (inEra : 0 ≤ number ∧ number < daysPerEra) :
    ∃ c g y d, IsPlace c g y d ∧ number = dayAt c g y d := by
  simp only [daysPerEra] at inEra
  -- the last century, the last group and the last year may be longer than the others
  obtain ⟨c, isCentury, n, split, inCentury⟩ : ∃ c, (0 ≤ c ∧ c ≤ 3) ∧ ∃ n, number = 36524 * c + n ∧
      (0 ≤ n ∧ (n < 36524 ∨ (n = 36524 ∧ c = 3))) :=
    ⟨min (number / 36524) 3, by omega, number - 36524 * min (number / 36524) 3, by omega, by omega⟩
  obtain ⟨g, isGroup, m, split', inGroup⟩ : ∃ g, (0 ≤ g ∧ g ≤ 24) ∧ ∃ m, n = 1461 * g + m ∧
      (0 ≤ m ∧ (m < 1460 ∨ (m = 1460 ∧ (g < 24 ∨ c = 3)))) :=
    ⟨n / 1461, by omega, n % 1461, by omega, by omega⟩
  obtain ⟨y, isYear, d, split'', inYear⟩ : ∃ y, (0 ≤ y ∧ y ≤ 3) ∧ ∃ d, m = 365 * y + d ∧
      (0 ≤ d ∧ (d < 365 ∨ (d = 365 ∧ y = 3 ∧ m = 1460))) :=
    ⟨min (m / 365) 3, by omega, m - 365 * min (m / 365) 3, by omega, by omega⟩
  refine ⟨c, g, y, d, ⟨isCentury, isGroup, isYear, by omega⟩, ?_⟩
  rw [dayAt]
  omega

namespace IsPlace

variable {c g y d : Int} (place : IsPlace c g y d)

include place

theorem dayAt_bounds : 0 ≤ dayAt c g y d ∧ dayAt c g y d < daysPerEra := by
  obtain ⟨_, _, _, _⟩ := place
  simp only [dayAt, daysPerEra]
  omega

theorem yearAt_bounds : 0 ≤ yearAt c g y ∧ yearAt c g y < 400 := by
  obtain ⟨_, _, _, _⟩ := place
  simp only [yearAt]
  omega

/-- The days in front of a year of an era. -/
theorem dayAt_eq : dayAt c g y d = 365 * yearAt c g y + yearAt c g y / 4 - yearAt c g y / 100 + d := by
  obtain ⟨_, _, _, _⟩ := place
  have groups : yearAt c g y / 4 = 25 * c + g := by simp only [yearAt]; omega
  have centuries : yearAt c g y / 100 = c := by simp only [yearAt]; omega
  rw [groups, centuries, dayAt, yearAt]
  omega

/-- The year is found by leaving out the leap days. -/
theorem yearAt_eq :
    (dayAt c g y d - dayAt c g y d / 1460 + dayAt c g y d / 36524 - dayAt c g y d / 146096) / 365 = yearAt c g y := by
  obtain ⟨_, _, _, _⟩ := place
  have isDay : dayAt c g y d = 36524 * c + 1461 * g + 365 * y + d := rfl
  rw [show yearAt c g y = 100 * c + 4 * g + y from rfl]
  generalize dayAt c g y d = n at isDay
  -- the last day of an era counts as one more century, and as one more era
  have centuries : (n / 36524 = c ∧ n / 146096 = 0) ∨ (n / 36524 = c + 1 ∧ n / 146096 = 1) := by omega
  have groups : (n / 1460 = 25 * c + g ∧ d < 365) ∨ (n / 1460 = 25 * c + g + 1 ∧ 1 ≤ d) := by omega
  generalize n / 36524 = k at *
  generalize n / 146096 = l at *
  generalize n / 1460 = m at *
  omega

end IsPlace

/-- A year from March ends in a leap year just if it ends a group, and does not end a century before the last. -/
theorem isLeapYear_iff {c g y : Int} (inEra : 0 ≤ c ∧ c ≤ 3) (inCentury : 0 ≤ g ∧ g ≤ 24) (inGroup : 0 ≤ y ∧ y ≤ 3)
    (era : Int) : isLeapYear (yearAt c g y + era * 400 + 1) = true ↔ y = 3 ∧ (g < 24 ∨ c = 3) := by
  simp only [isLeapYear, yearAt, Bool.and_eq_true, Bool.or_eq_true, beq_iff_eq, bne_iff_ne]
  omega

/-! ### The months of a year from March -/

/-- The days of a year from March in front of a month. -/
def daysBefore (month : Int) : Int :=
  (153 * month + 2) / 5

/-- The date of a day of a month, both counted from 1 and 0, in a year from March. -/
def ofMarch (year month day : Int) : Date :=
  if month < 10 then ⟨year, (month + 3).toNat, day.toNat⟩ else ⟨year + 1, (month - 9).toNat, day.toNat⟩

/-- The month and the day of a day of the year. -/
structure IsInYear (dayOfYear month day : Int) : Prop where
  inYear : 0 ≤ month ∧ month ≤ 11
  first : 1 ≤ day
  last : month < 11 → day ≤ daysBefore (month + 1) - daysBefore month
  dayOfYear_eq : dayOfYear = daysBefore month + day - 1

/-- Every day of a year is in a month. -/
theorem isInYear_of_lt {d : Int} (inYear : 0 ≤ d ∧ d ≤ 365) :
    IsInYear d ((5 * d + 2) / 153) (d - daysBefore ((5 * d + 2) / 153) + 1) := by
  have inMonths : 0 ≤ (5 * d + 2) / 153 ∧ (5 * d + 2) / 153 ≤ 11 := by omega
  have begun : daysBefore ((5 * d + 2) / 153) ≤ d := by simp only [daysBefore]; omega
  have notOver : d < daysBefore ((5 * d + 2) / 153 + 1) := by simp only [daysBefore]; omega
  exact ⟨inMonths, by omega, fun _ => by omega, by omega⟩

/-- A month ends where the next one begins, and February ends with the year. -/
theorem daysInMonth_ofMarch (year : Int) {m : Int} (k : Int) (inYear : 0 ≤ m ∧ m ≤ 11) :
    (daysInMonth (ofMarch year m k).year (ofMarch year m k).month : Int) =
      if m = 11 then (if isLeapYear (year + 1) then 29 else 28) else daysBefore (m + 1) - daysBefore m := by
  obtain rfl | rfl | rfl | rfl | rfl | rfl | rfl | rfl | rfl | rfl | rfl | rfl : m = 0 ∨ m = 1 ∨ m = 2 ∨ m = 3 ∨
    m = 4 ∨ m = 5 ∨ m = 6 ∨ m = 7 ∨ m = 8 ∨ m = 9 ∨ m = 10 ∨ m = 11 := by omega
  case inr.inr.inr.inr.inr.inr.inr.inr.inr.inr.inr =>
    show ((if isLeapYear (year + 1) then 29 else 28 : Nat) : Int) = _
    split <;> rfl
  all_goals rfl

namespace IsInYear

variable {d m k : Int} (isIn : IsInYear d m k)

include isIn

theorem month_eq (inYear : d ≤ 365) : (5 * d + 2) / 153 = m := by
  obtain ⟨_, _, last, isDay⟩ := isIn
  simp only [daysBefore] at last isDay
  omega

theorem dayNumber_ofMarch (year : Int) : (ofMarch year m k).dayNumber =
    year / 400 * daysPerEra + (year % 400 * 365 + year % 400 / 4 - year % 400 / 100 + d) - daysToEpoch := by
  obtain ⟨inYear, first, last, isDay⟩ := isIn
  simp only [daysBefore] at isDay
  rw [ofMarch]
  split
  · next early =>
    have notBefore : ¬ (m + 3).toNat ≤ 2 := by omega
    simp only [dayNumber, if_neg notBefore]
    rw [isDay, show ((m + 3).toNat : Int) - 3 = m by omega, show (k.toNat : Int) = k by omega]
  · next late =>
    have before : (m - 9).toNat ≤ 2 := by omega
    simp only [dayNumber, if_pos before]
    rw [isDay, show ((m - 9).toNat : Int) + 9 = m by omega, show (k.toNat : Int) = k by omega,
      show year + 1 - 1 = year by omega]

/-- A day of a year has a date in the calendar if the year has room for it. -/
theorem isValid_ofMarch {year : Int} (room : d < 365 ∨ d = 365 ∧ isLeapYear (year + 1)) :
    (ofMarch year m k).isValid := by
  have length := daysInMonth_ofMarch year k isIn.inYear
  obtain ⟨inYear, first, last, isDay⟩ := isIn
  have isMonth : 1 ≤ (ofMarch year m k).month ∧ (ofMarch year m k).month ≤ 12 := by
    rw [ofMarch]
    split <;> simp only [] <;> omega
  have sameDay : (ofMarch year m k).day = k.toNat := by
    rw [ofMarch]
    split <;> rfl
  have inMonth : k ≤ daysInMonth (ofMarch year m k).year (ofMarch year m k).month := by
    rw [length]
    split
    · next isLast =>
      rw [isLast, show daysBefore 11 = 337 from rfl] at isDay
      split
      · omega
      · next noRoom =>
        have short : d < 365 := room.resolve_right fun isLong => noRoom isLong.2
        omega
    · exact last (by omega)
  simp only [isValid, sameDay, Bool.and_eq_true, decide_eq_true_eq]
  omega

end IsInYear

/-- A date whose month is there is that of a day of a month from March. -/
theorem eq_ofMarch {date : Date} (isMonth : 1 ≤ date.month ∧ date.month ≤ 12) :
    ∃ year m : Int, (0 ≤ m ∧ m ≤ 11) ∧ date = ofMarch year m date.day := by
  obtain ⟨year, month, day⟩ := date
  simp only at isMonth
  by_cases early : month ≤ 2
  · refine ⟨year - 1, month + 9, by omega, ?_⟩
    rw [ofMarch, if_neg (by omega), Int.sub_add_cancel, Int.add_sub_cancel, Int.toNat_natCast, Int.toNat_natCast]
  · refine ⟨year, month - 3, by omega, ?_⟩
    rw [ofMarch, if_pos (by omega), Int.sub_add_cancel, Int.toNat_natCast, Int.toNat_natCast]

/-- Every date in the calendar is that of a day of a year from March. -/
theorem exists_ofMarch {date : Date} (valid : date.isValid) : ∃ year d m k, IsInYear d m k ∧
    (d < 365 ∨ d = 365 ∧ isLeapYear (year + 1)) ∧ date = ofMarch year m k := by
  simp only [isValid, Bool.and_eq_true, decide_eq_true_eq] at valid
  have isMonth : 1 ≤ date.month ∧ date.month ≤ 12 := by omega
  obtain ⟨year, m, inYear, same⟩ := eq_ofMarch isMonth
  have length := daysInMonth_ofMarch year date.day inYear
  rw [← same] at length
  refine ⟨year, daysBefore m + date.day - 1, m, date.day, ⟨inYear, by omega, fun early => ?_, rfl⟩, ?_, same⟩
  · rw [if_neg (by omega)] at length
    omega
  · split at length
    · next isLast =>
      rw [isLast, show daysBefore 11 = 337 from rfl]
      by_cases short : 337 + (date.day : Int) - 1 < 365
      · exact Or.inl short
      · split at length
        · next leap => exact Or.inr ⟨by omega, leap⟩
        · omega
    · simp only [daysBefore] at *
      omega

/-! ### Dates and numbers -/

theorem IsPlace.ofDayNumber_eq {c g y d m k : Int} (place : IsPlace c g y d) (isIn : IsInYear d m k) (era : Int) :
    ofDayNumber (era * daysPerEra + dayAt c g y d - daysToEpoch) = ofMarch (yearAt c g y + era * 400) m k := by
  have bounds := place.dayAt_bounds
  have split : era * daysPerEra + dayAt c g y d - daysToEpoch + daysToEpoch = dayAt c g y d + daysPerEra * era := by
    rw [Int.mul_comm]
    omega
  have isEra : (dayAt c g y d + daysPerEra * era) / daysPerEra = era := by
    rw [Int.add_mul_ediv_left _ _ (by decide), Int.ediv_eq_zero_of_lt bounds.1 bounds.2, Int.zero_add]
  have isDay : (dayAt c g y d + daysPerEra * era) % daysPerEra = dayAt c g y d := by
    rw [Int.add_mul_emod_self_left, Int.emod_eq_of_lt bounds.1 bounds.2]
  have dayOfYear : dayAt c g y d - (365 * yearAt c g y + yearAt c g y / 4 - yearAt c g y / 100) = d := by
    have := place.dayAt_eq
    omega
  have isMonth := isIn.month_eq (by have := place.inYear; omega)
  have isDayOfMonth : d - (153 * m + 2) / 5 + 1 = k := by
    have := isIn.dayOfYear_eq
    simp only [daysBefore] at this
    omega
  simp only [ofDayNumber, split, isEra, isDay, place.yearAt_eq, dayOfYear, isMonth, isDayOfMonth]
  rfl

/-- The number of the day at a place is that of its date. -/
theorem IsPlace.dayNumber_eq {c g y d m k : Int} (place : IsPlace c g y d) (isIn : IsInYear d m k) (era : Int) :
    (ofMarch (yearAt c g y + era * 400) m k).dayNumber = era * daysPerEra + dayAt c g y d - daysToEpoch := by
  have bounds := place.yearAt_bounds
  rw [isIn.dayNumber_ofMarch, place.dayAt_eq, show (yearAt c g y + era * 400) / 400 = era by omega,
    show (yearAt c g y + era * 400) % 400 = yearAt c g y by omega]
  omega

/-- Every day is at a place in an era, and in a month. -/
theorem exists_place (number : Int) : ∃ era c g y d m k, IsPlace c g y d ∧ IsInYear d m k ∧
    number = era * daysPerEra + dayAt c g y d - daysToEpoch := by
  have inEra : 0 ≤ (number + daysToEpoch) % daysPerEra ∧ (number + daysToEpoch) % daysPerEra < daysPerEra :=
    ⟨Int.emod_nonneg _ (by decide), Int.emod_lt_of_pos _ (by decide)⟩
  obtain ⟨c, g, y, d, place, isDay⟩ := exists_dayAt inEra
  have isIn := isInYear_of_lt (d := d) (by have := place.inYear; omega)
  refine ⟨(number + daysToEpoch) / daysPerEra, c, g, y, d, _, _, place, isIn, ?_⟩
  rw [← isDay, Int.mul_comm, Int.mul_ediv_add_emod]
  omega

/-- The date of a day is in the calendar. -/
theorem isValid_ofDayNumber (number : Int) : (ofDayNumber number).isValid := by
  obtain ⟨era, c, g, y, d, m, k, place, isIn, rfl⟩ := exists_place number
  rw [place.ofDayNumber_eq isIn]
  apply isIn.isValid_ofMarch
  rw [isLeapYear_iff place.inEra place.inCentury place.inGroup]
  exact place.inYear.2

/-- The day of a date is the day that has the date. -/
theorem dayNumber_ofDayNumber (number : Int) : (ofDayNumber number).dayNumber = number := by
  obtain ⟨era, c, g, y, d, m, k, place, isIn, rfl⟩ := exists_place number
  rw [place.ofDayNumber_eq isIn, place.dayNumber_eq isIn]

/-- A date in the calendar is the date of its day. -/
theorem ofDayNumber_dayNumber {date : Date} (valid : date.isValid) : ofDayNumber date.dayNumber = date := by
  obtain ⟨year, d, m, k, isIn, room, rfl⟩ := exists_ofMarch valid
  obtain ⟨era, c, g, y, inEra, inCentury, inGroup, rfl⟩ : ∃ era c g y : Int, (0 ≤ c ∧ c ≤ 3) ∧ (0 ≤ g ∧ g ≤ 24) ∧
      (0 ≤ y ∧ y ≤ 3) ∧ year = yearAt c g y + era * 400 := by
    refine ⟨year / 400, year % 400 / 100, year % 100 / 4, year % 4, by omega, by omega, by omega, ?_⟩
    rw [yearAt]
    omega
  rw [isLeapYear_iff inEra inCentury inGroup] at room
  have notBefore : 0 ≤ d := by
    obtain ⟨_, _, _, isDay⟩ := isIn
    simp only [daysBefore] at isDay
    omega
  have place : IsPlace c g y d := ⟨inEra, inCentury, inGroup, notBefore, room⟩
  rw [place.dayNumber_eq isIn, place.ofDayNumber_eq isIn]

/-- The days of the years from 0 to 9999. -/
theorem year_ofDayNumber_iff (number : Int) :
    0 ≤ (ofDayNumber number).year ∧ (ofDayNumber number).year ≤ 9999 ↔ -719528 ≤ number ∧ number ≤ 2932896 := by
  obtain ⟨era, c, g, y, d, m, k, place, isIn, rfl⟩ := exists_place number
  rw [place.ofDayNumber_eq isIn, ofMarch]
  have days := place.dayAt_bounds
  have years := place.yearAt_bounds
  -- the year from March ends with January and February of the year after
  have early : m < 10 ↔ d < 306 := by
    obtain ⟨_, _, last, isDay⟩ := isIn
    simp only [daysBefore] at last isDay
    omega
  obtain ⟨_, _, _, _⟩ := place
  have eras : era < -1 ∨ era = -1 ∨ (0 ≤ era ∧ era ≤ 23) ∨ era = 24 ∨ 24 < era := by omega
  simp only [dayAt, yearAt, daysPerEra, daysToEpoch] at *
  rcases eras with before | rfl | within | rfl | after <;> split <;> simp only <;> omega

/-! ### The day after -/

/-- The next date: the next day of the month, or else the first day of the next month. -/
def next (date : Date) : Date :=
  if date.day < daysInMonth date.year date.month then { date with day := date.day + 1 }
  else if date.month < 12 then ⟨date.year, date.month + 1, 1⟩
  else ⟨date.year + 1, 1, 1⟩

/-- A month has one day at least, and 31 at most. -/
theorem daysInMonth_bounds (year : Int) (month : Nat) : 1 ≤ daysInMonth year month ∧ daysInMonth year month ≤ 31 := by
  simp only [daysInMonth]
  split_ifs <;> decide

theorem isValid_next {date : Date} (valid : date.isValid) : date.next.isValid := by
  simp only [isValid, Bool.and_eq_true, decide_eq_true_eq] at valid
  simp only [next]
  split_ifs with inMonth inYear <;> simp only [isValid, Bool.and_eq_true, decide_eq_true_eq]
  · omega
  · exact ⟨⟨by omega, Nat.le_refl 1⟩, (daysInMonth_bounds _ _).1⟩
  · exact ⟨by decide, (daysInMonth_bounds _ _).1⟩

/-- The number of the first of March. -/
def firstOfMarch (year : Int) : Int :=
  dayNumber ⟨year, 3, 1⟩

section

variable {year : Int} {month day : Nat}

/-- January and February are counted from March of the year before. -/
theorem dayNumber_early (early : month ≤ 2) :
    dayNumber ⟨year, month, day⟩ = firstOfMarch (year - 1) + daysBefore (month + 9) + day - 1 := by
  simp only [dayNumber, if_pos early, firstOfMarch, if_neg (show ¬ 3 ≤ 2 by decide), daysBefore]
  omega

theorem dayNumber_late (late : 2 < month) :
    dayNumber ⟨year, month, day⟩ = firstOfMarch year + daysBefore (month - 3) + day - 1 := by
  simp only [dayNumber, if_neg (Nat.not_le.mpr late), firstOfMarch, if_neg (show ¬ 3 ≤ 2 by decide), daysBefore]
  omega

/-- A year from March is as long as the year that it ends in. -/
theorem firstOfMarch_eq (year : Int) :
    firstOfMarch year = firstOfMarch (year - 1) + (if isLeapYear year then 366 else 365) := by
  have groups : year % 4 = year % 400 % 4 := by omega
  have centuries : year % 100 = year % 400 % 100 := by omega
  simp only [firstOfMarch, dayNumber, if_neg (show ¬ 3 ≤ 2 by decide), daysPerEra, isLeapYear, groups, centuries,
    Bool.and_eq_true, beq_iff_eq, Bool.or_eq_true, bne_iff_ne]
  by_cases first : year % 400 = 0
  · rw [show (year - 1) % 400 = 399 by omega, show (year - 1) / 400 = year / 400 - 1 by omega, first]
    simp only [or_true, and_true]
    omega
  · rw [show (year - 1) % 400 = year % 400 - 1 by omega, show (year - 1) / 400 = year / 400 by omega]
    have inEra : 0 < year % 400 ∧ year % 400 < 400 := by omega
    clear groups centuries
    generalize year % 400 = y at *
    split <;> omega

/-- The next month begins as many days later as the month has. -/
theorem dayNumber_nextMonth (year : Int) (positive : 1 ≤ month) (notLast : month < 12) :
    dayNumber ⟨year, month + 1, 1⟩ = dayNumber ⟨year, month, 1⟩ + daysInMonth year month := by
  obtain rfl | rfl | late : month = 1 ∨ month = 2 ∨ 2 < month := by omega
  · rw [dayNumber_early (by decide), dayNumber_early (by decide), show daysInMonth year 1 = 31 from rfl]
    simp only [daysBefore]
    omega
  · rw [dayNumber_late (by decide), dayNumber_early (by decide), firstOfMarch_eq, daysInMonth, if_pos rfl]
    simp only [daysBefore]
    split <;> omega
  · rw [dayNumber_late (by omega), dayNumber_late late]
    simp only [daysBefore, daysInMonth, if_neg (Nat.ne_of_gt late)]
    split
    · omega
    · have long : month = 3 ∨ month = 5 ∨ month = 7 ∨ month = 8 ∨ month = 10 := by omega
      omega

theorem dayNumber_nextYear (year : Int) : dayNumber ⟨year + 1, 1, 1⟩ = dayNumber ⟨year, 12, 1⟩ + 31 := by
  rw [dayNumber_early (by decide), dayNumber_late (by decide), Int.add_sub_cancel]
  simp only [daysBefore]
  omega

theorem dayNumber_day (year : Int) (month day : Nat) :
    dayNumber ⟨year, month, day⟩ = dayNumber ⟨year, month, 1⟩ + day - 1 := by
  simp only [dayNumber]
  omega

end

theorem dayNumber_next {date : Date} (valid : date.isValid) : date.next.dayNumber = date.dayNumber + 1 := by
  obtain ⟨year, month, day⟩ := date
  simp only [isValid, Bool.and_eq_true, decide_eq_true_eq] at valid
  rw [dayNumber_day year month day]
  simp only [next]
  split_ifs with inMonth inYear
  · rw [dayNumber_day]
    omega
  · rw [dayNumber_nextMonth year valid.1.1.1 inYear]
    omega
  · obtain rfl : month = 12 := by omega
    rw [dayNumber_nextYear]
    have length : daysInMonth year 12 = 31 := rfl
    omega

/-- The first day is the first of January 1970. -/
theorem ofDayNumber_zero : ofDayNumber 0 = ⟨1970, 1, 1⟩ := by
  decide

/-- The date of the day after is the next one. -/
theorem ofDayNumber_succ (number : Int) : ofDayNumber (number + 1) = (ofDayNumber number).next := by
  have valid := isValid_ofDayNumber number
  have isNext := ofDayNumber_dayNumber (isValid_next valid)
  rwa [dayNumber_next valid, dayNumber_ofDayNumber] at isNext

end LiveTemplate.Date
