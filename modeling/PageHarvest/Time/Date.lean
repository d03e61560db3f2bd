/-!
# Dates

A `Date` is a day of the calendar in which every fourth year is a leap year, but of the full
hundreds only every fourth.  `dayNumber` counts the days from the first of January 1970, and
`ofDayNumber?` finds the date of a day.  The calendar here has a first and a last year.
-/

namespace PageHarvest.Time

/-- The year has a 29th of February. -/
def isLeapYear (y : Int) : Bool :=
  y % 4 == 0 && (y % 100 != 0 || y % 400 == 0)

/-- The number of days of a month. -/
def daysInMonth (y : Int) (m : Nat) : Nat :=
  if m = 2 then if isLeapYear y then 29 else 28
  else if m = 4 ∨ m = 6 ∨ m = 9 ∨ m = 11 then 30
  else 31

/-- The first year of the calendar. -/
def firstYear : Int := -262143

/-- The last year of the calendar. -/
def lastYear : Int := 262142

/-- A day of the calendar. -/
structure Date where
  year : Int
  month : Nat
  day : Nat
  inCalendar : firstYear ≤ year ∧ year ≤ lastYear
  isMonth : 1 ≤ month ∧ month ≤ 12
  isDay : 1 ≤ day ∧ day ≤ daysInMonth year month
  deriving DecidableEq, Repr

namespace Date

/-- The date with this year, month and day, if there is one. -/
def ofParts? (y : Int) (m d : Nat) : Option Date :=
  if h : (firstYear ≤ y ∧ y ≤ lastYear) ∧ (1 ≤ m ∧ m ≤ 12) ∧ (1 ≤ d ∧ d ≤ daysInMonth y m) then
    some ⟨y, m, d, h.1, h.2.1, h.2.2⟩
  else none

instance : Inhabited Date := ⟨1970, 1, 1, by decide, by decide, by decide⟩

theorem ofParts?_self (d : Date) : ofParts? d.year d.month d.day = some d := by
  rw [ofParts?, dif_pos ⟨d.inCalendar, d.isMonth, d.isDay⟩]

theorem ofParts?_eq_some {d : Date} {y : Int} {m k : Nat} :
    ofParts? y m k = some d ↔ d.year = y ∧ d.month = m ∧ d.day = k := by
  constructor
  · intro h
    rw [ofParts?] at h
    split at h
    · obtain rfl := Option.some.inj h
      exact ⟨rfl, rfl, rfl⟩
    · exact absurd h (by simp)
  · rintro ⟨rfl, rfl, rfl⟩
    exact d.ofParts?_self

/-- The day after. -/
def next? (d : Date) : Option Date :=
  (ofParts? d.year d.month (d.day + 1)).or <|
    if d.month < 12 then ofParts? d.year (d.month + 1) 1 else ofParts? (d.year + 1) 1 1

/-- The day before. -/
def previous? (d : Date) : Option Date :=
  if 1 < d.day then ofParts? d.year d.month (d.day - 1)
  else if 1 < d.month then ofParts? d.year (d.month - 1) (daysInMonth d.year (d.month - 1))
  else ofParts? (d.year - 1) 12 31

/-- The number of days from the first of January 1970.  Counting years from the first of March puts
the leap day at the end, so that the days before a month follow a line. -/
def dayNumber (d : Date) : Int :=
  let y := if d.month ≤ 2 then d.year - 1 else d.year
  let fromMarch : Int := (d.month + 9) % 12
  365 * y + y / 4 - y / 100 + y / 400 + (153 * fromMarch + 2) / 5 + d.day - 719469

/-- The date of a day. -/
def ofDayNumber? (n : Int) : Option Date :=
  let z := n + 719468
  -- An era has 400 years of 365 days and 97 leap days, and begins on the first of March.
  let era := z / 146097
  let dayOfEra := z % 146097
  let yearOfEra := (dayOfEra - dayOfEra / 1460 + dayOfEra / 36524 - dayOfEra / 146096) / 365
  let dayOfYear := dayOfEra - (365 * yearOfEra + yearOfEra / 4 - yearOfEra / 100)
  let fromMarch := (5 * dayOfYear + 2) / 153
  let day := dayOfYear - (153 * fromMarch + 2) / 5 + 1
  let month := if fromMarch < 10 then fromMarch + 3 else fromMarch - 9
  let year := 400 * era + yearOfEra + if month ≤ 2 then 1 else 0
  ofParts? year month.toNat day.toNat

end Date

end PageHarvest.Time
