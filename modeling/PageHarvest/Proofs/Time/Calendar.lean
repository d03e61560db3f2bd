import PageHarvest.Time.Date
import Mathlib.Tactic.IntervalCases
import Mathlib.Tactic.SplitIfs

/-!
# Days and their dates

`Date.ofDayNumber?` finds the date whose number it is given (`dayNumber_of_ofDayNumber?`), and finds one
for each day between two days of the calendar (`exists_ofDayNumber?`).  Both rest on the division of
four hundred years into years that begin in March (`yearOfEra_spec`).
-/

namespace PageHarvest.Time

/-! ### Years that begin in March -/

/-- The year in which a day lies, and the day of that year, out of four hundred years that begin in
March.  Only a year that ends in the February of a leap year has a day 365. -/
theorem yearOfEra_spec {day year rest : Int} (hday : 0 ≤ day ∧ day < 146097)
    (hyear : year = (day - day / 1460 + day / 36524 - day / 146096) / 365)
    (hrest : rest = day - (365 * year + year / 4 - year / 100)) :
    (0 ≤ year ∧ year ≤ 399) ∧ (0 ≤ rest ∧ rest ≤ 365) ∧
      (rest = 365 → year % 4 = 3 ∧ (year % 100 = 99 → year = 399)) := by
  -- The last day of all is the only one that the last of the divisions is there for.
  by_cases hlast : day = 146096
  · subst hlast
    obtain rfl : year = 399 := by omega
    omega
  · -- The year is the one of a hundred, of four in that hundred, and of those four.
    obtain ⟨hundred, hhundred⟩ : ∃ c, c = day / 36524 := ⟨_, rfl⟩
    obtain ⟨four, hfour⟩ : ∃ k, k = day / 1460 - 25 * hundred := ⟨_, rfl⟩
    obtain ⟨one, hone⟩ : ∃ j, j = year - 100 * hundred - 4 * four := ⟨_, rfl⟩
    have hera : day / 146096 = 0 := by omega
    rw [hera] at hyear
    have hhundreds : hundred = 0 ∨ hundred = 1 ∨ hundred = 2 ∨ hundred = 3 := by omega
    have hfours : 0 ≤ four ∧ four ≤ 25 := by omega
    have hones : one = -1 ∨ one = 0 ∨ one = 1 ∨ one = 2 ∨ one = 3 := by omega
    have hleap : year / 4 = 25 * hundred + four + one / 4 := by omega
    have hinside : 0 ≤ 4 * four + one ∧ 4 * four + one ≤ 99 := by
      rcases hhundreds with rfl | rfl | rfl | rfl <;> omega
    have hfull : year / 100 = hundred := by omega
    rw [hleap, hfull] at hrest
    -- One of four years, or the year before them, in which no such day lies.
    rcases hones with rfl | rfl | rfl | rfl | rfl <;> omega

/-- The days of whole eras of four hundred years and of the years after them. -/
theorem days_of_eras {era year : Int} (hyear : 0 ≤ year ∧ year ≤ 399) :
    365 * (400 * era + year) + (400 * era + year) / 4 - (400 * era + year) / 100
        + (400 * era + year) / 400
      = 146097 * era + (365 * year + year / 4 - year / 100) := by
  have hfour : (400 * era + year) / 4 = 100 * era + year / 4 := by omega
  have hhundred : (400 * era + year) / 100 = 4 * era + year / 100 := by omega
  have hall : (400 * era + year) / 400 = era := by omega
  rw [hfour, hhundred, hall]
  omega

theorem isLeapYear_iff {y : Int} :
    isLeapYear y = true ↔ y % 4 = 0 ∧ (y % 100 = 0 → y % 400 = 0) := by
  simp only [isLeapYear, Bool.and_eq_true, Bool.or_eq_true, beq_iff_eq, bne_iff_ne, ne_eq]
  omega

/-- The month and the day of the month in which a day lies, out of a year that begins in March. -/
theorem dayOfMonth_spec {rest fromMarch y : Int} (hrest : 0 ≤ rest ∧ rest ≤ 365)
    (hmonth : fromMarch = (5 * rest + 2) / 153) (hleap : rest = 365 → isLeapYear y = true) :
    (0 ≤ fromMarch ∧ fromMarch ≤ 11) ∧ 1 ≤ rest - (153 * fromMarch + 2) / 5 + 1 ∧
      rest - (153 * fromMarch + 2) / 5 + 1
        ≤ daysInMonth y (if fromMarch < 10 then fromMarch + 3 else fromMarch - 9).toNat := by
  have hmonths : 0 ≤ fromMarch ∧ fromMarch ≤ 11 := by omega
  refine ⟨hmonths, by omega, ?_⟩
  obtain ⟨hlow, hhigh⟩ := hmonths
  by_cases hfebruary : fromMarch = 11
  · subst hfebruary
    by_cases hlast : rest = 365
    · simp [daysInMonth, hleap hlast, hlast]
    · simp only [daysInMonth]
      split_ifs <;> omega
  -- From March to January the months have the same days in every year.
  · interval_cases fromMarch <;> simp [daysInMonth] <;> omega

namespace Date

variable {n : Int} {d d' : Date}

/-! ### The day of a number -/

/-- The number of the day with these parts, in any year. -/
def numberOf (y : Int) (m k : Nat) : Int :=
  let inYear := if m ≤ 2 then y - 1 else y
  let fromMarch : Int := (m + 9) % 12
  365 * inYear + inYear / 4 - inYear / 100 + inYear / 400 + (153 * fromMarch + 2) / 5 + k - 719469

theorem dayNumber_eq (d : Date) : d.dayNumber = numberOf d.year d.month d.day := rfl

/-- The parts that are found for a number are those of the day with that number. -/
theorem exists_parts (n : Int) : ∃ (y : Int) (m k : Nat), ofDayNumber? n = ofParts? y m k ∧
    (1 ≤ m ∧ m ≤ 12) ∧ (1 ≤ k ∧ k ≤ daysInMonth y m) ∧ numberOf y m k = n := by
  -- The numbers that the search goes through, each with its equation, so that arithmetic is all
  -- that is left.
  obtain ⟨era, hera⟩ : ∃ e, e = (n + 719468) / 146097 := ⟨_, rfl⟩
  obtain ⟨day, hday⟩ : ∃ d, d = (n + 719468) % 146097 := ⟨_, rfl⟩
  obtain ⟨year, hyear⟩ : ∃ y, y = (day - day / 1460 + day / 36524 - day / 146096) / 365 := ⟨_, rfl⟩
  obtain ⟨rest, hrest⟩ : ∃ r, r = day - (365 * year + year / 4 - year / 100) := ⟨_, rfl⟩
  obtain ⟨fromMarch, hfrom⟩ : ∃ f, f = (5 * rest + 2) / 153 := ⟨_, rfl⟩
  obtain ⟨month, hmonth⟩ : ∃ m, m = if fromMarch < 10 then fromMarch + 3 else fromMarch - 9 :=
    ⟨_, rfl⟩
  obtain ⟨y, hy⟩ : ∃ y, y = 400 * era + year + if month ≤ 2 then 1 else 0 := ⟨_, rfl⟩
  obtain ⟨hyears, hrests, hlast⟩ := yearOfEra_spec (by omega) hyear hrest
  have hleap : rest = 365 → isLeapYear y = true := by
    intro h
    obtain ⟨hfour, hhundred⟩ := hlast h
    rw [isLeapYear_iff]
    split_ifs at hmonth hy <;> omega
  obtain ⟨hmonths, hfirst, hdays⟩ := dayOfMonth_spec hrests hfrom hleap
  rw [← hmonth] at hdays
  refine ⟨y, month.toNat, (rest - (153 * fromMarch + 2) / 5 + 1).toNat, ?_, ?_, by omega, ?_⟩
  · subst hera hday hyear hrest hfrom hmonth hy
    rfl
  · split_ifs at hmonth <;> omega
  · have hback : ((month.toNat : Int) + 9) % 12 = fromMarch := by
      split_ifs at hmonth <;> omega
    have hinYear : (if month.toNat ≤ 2 then y - 1 else y) = 400 * era + year := by
      split_ifs at hy ⊢ <;> omega
    simp only [numberOf, hback, hinYear, days_of_eras hyears]
    omega

theorem dayNumber_of_ofDayNumber? (h : ofDayNumber? n = some d) : d.dayNumber = n := by
  obtain ⟨y, m, k, hparts, -, -, hnumber⟩ := exists_parts n
  rw [hparts, ofParts?_eq_some] at h
  obtain ⟨rfl, rfl, rfl⟩ := h
  exact hnumber

/-! ### The days of the calendar -/

/-- The number of the first day of a year. -/
def newYear (y : Int) : Int :=
  365 * (y - 1) + (y - 1) / 4 - (y - 1) / 100 + (y - 1) / 400 - 719162

theorem newYear_le {y y' : Int} (h : y ≤ y') : newYear y ≤ newYear y' := by
  simp only [newYear]
  omega

theorem daysInMonth_le (y : Int) (m : Nat) : daysInMonth y m ≤ 31 := by
  rw [daysInMonth]
  split_ifs <;> omega

/-- A day lies between the first day of its year and that of the next. -/
theorem numberOf_within {y : Int} {m k : Nat} (hm : 1 ≤ m ∧ m ≤ 12)
    (hk : 1 ≤ k ∧ k ≤ daysInMonth y m) :
    newYear y ≤ numberOf y m k ∧ numberOf y m k < newYear (y + 1) := by
  have hday := daysInMonth_le y m
  simp only [newYear, numberOf]
  split_ifs <;> omega

/-- A day lies between the first day of the calendar and its last. -/
theorem dayNumber_within (d : Date) :
    newYear firstYear ≤ d.dayNumber ∧ d.dayNumber < newYear (lastYear + 1) := by
  obtain ⟨hearliest, hlatest⟩ := d.inCalendar
  obtain ⟨hbegins, hends⟩ := numberOf_within d.isMonth d.isDay
  exact ⟨(newYear_le hearliest).trans hbegins, hends.trans_le (newYear_le (by omega))⟩

/-- The calendar has no gaps. -/
theorem exists_ofDayNumber? (hfirst : d.dayNumber ≤ n) (hlast : n ≤ d'.dayNumber) :
    ∃ e, ofDayNumber? n = some e := by
  obtain ⟨y, m, k, hparts, hm, hk, rfl⟩ := exists_parts n
  obtain ⟨hbegins, hends⟩ := numberOf_within hm hk
  rw [dayNumber_eq] at hfirst hlast
  refine ⟨⟨y, m, k, ⟨?_, ?_⟩, hm, hk⟩, by rw [hparts, ofParts?_eq_some]; exact ⟨rfl, rfl, rfl⟩⟩
  · -- A year before the calendar is over when the year of `d` begins.
    by_contra hearly
    have hover : newYear (y + 1) ≤ newYear d.year := newYear_le (by have := d.inCalendar; omega)
    have hbegun := (numberOf_within d.isMonth d.isDay).1
    omega
  · by_contra hlate
    have hover : newYear (d'.year + 1) ≤ newYear y := newYear_le (by have := d'.inCalendar; omega)
    have hended := (numberOf_within d'.isMonth d'.isDay).2
    omega

end Date

end PageHarvest.Time
