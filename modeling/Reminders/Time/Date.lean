/-!
# Dates

Dates are those of the Gregorian calendar, counted back and forth without end.
Years before the first have numbers from zero downward.

A *calendar date* is a year, a month and a day of the month.  `dayNumber` counts
days from 1970-01-01, which has the number zero.  It takes the year to start in
March, so that a leap day is the last day of its year, and the lengths of the
months then follow a straight line.  `CalendarDate.ofDayNumber` goes back.

A `Date` is a day number from -262143-01-01 to 262142-12-31.  Its order is that
of the numbers, and its weekday follows from the number alone.
-/

namespace Reminders

/-! ## Calendar dates -/

/-- A year, a month and a day of the month. -/
structure CalendarDate where
  /-- The year. -/
  year : Int
  /-- The month, from 1. -/
  month : Nat
  /-- The day of the month, from 1. -/
  day : Nat
deriving Repr, DecidableEq

/-- Whether a year has a leap day. -/
def isLeapYear (year : Int) : Bool := year % 4 = 0 && (year % 100 ≠ 0 || year % 400 = 0)

/-- The number of days of a month. -/
def daysInMonth (year : Int) (month : Nat) : Nat :=
  match month with
  | 2 => if isLeapYear year then 29 else 28
  | 4 | 6 | 9 | 11 => 30
  | _ => 31

namespace CalendarDate

/-- Whether the calendar has such a date. -/
def isValid (c : CalendarDate) : Bool :=
  1 ≤ c.month && c.month ≤ 12 && 1 ≤ c.day && c.day ≤ daysInMonth c.year c.month

/-- The year that a month belongs to when years start in March. -/
def marchYear (c : CalendarDate) : Int := if c.month ≤ 2 then c.year - 1 else c.year

/-- The months since March. -/
def marchMonth (c : CalendarDate) : Nat := (c.month + 9) % 12

/-- The days from 1970-01-01. -/
def dayNumber (c : CalendarDate) : Int :=
  let y := c.marchYear
  365 * y + y / 4 - y / 100 + y / 400 + Int.ofNat ((153 * c.marchMonth + 2) / 5 + c.day) - 719469

/-- The calendar date of a day number.  A cycle of 400 years has 146097 days. -/
def ofDayNumber (n : Int) : CalendarDate :=
  let shifted := n + 719468
  let cycle := shifted / 146097
  let dayOfCycle := (shifted % 146097).toNat
  let yearOfCycle :=
    (dayOfCycle - dayOfCycle / 1460 + dayOfCycle / 36524 - dayOfCycle / 146096) / 365
  let dayOfYear := dayOfCycle - (365 * yearOfCycle + yearOfCycle / 4 - yearOfCycle / 100)
  let marchMonth := (5 * dayOfYear + 2) / 153
  let month := if marchMonth < 10 then marchMonth + 3 else marchMonth - 9
  let year := Int.ofNat yearOfCycle + cycle * 400
  { year := if month ≤ 2 then year + 1 else year
    month := month
    day := dayOfYear - (153 * marchMonth + 2) / 5 + 1 }

end CalendarDate

/-! ## Dates -/

/-- The day number of the first date. -/
def firstDay : Int := -96465292

/-- The day number of the last date. -/
def lastDay : Int := 95026236

/-- A day of the calendar. -/
structure Date where
  /-- The days from 1970-01-01. -/
  number : Int
  /-- The day is not before the first one. -/
  first_le : firstDay ≤ number
  /-- The day is not behind the last one. -/
  le_last : number ≤ lastDay
deriving DecidableEq

namespace Date

/-- The date with a day number. -/
def ofNumber? (n : Int) : Option Date :=
  if h : firstDay ≤ n ∧ n ≤ lastDay then some ⟨n, h.1, h.2⟩ else none

/-- The date with a year, a month and a day of the month. -/
def ofCalendar? (c : CalendarDate) : Option Date :=
  if c.isValid then ofNumber? c.dayNumber else none

/-- The year, the month and the day of the month. -/
def calendar (d : Date) : CalendarDate := CalendarDate.ofDayNumber d.number

/-- The day of the week, from 1 for Monday to 7 for Sunday. -/
def weekday (d : Date) : Nat := ((d.number + 3) % 7).toNat + 1

/-- The first date. -/
def first : Date := ⟨firstDay, by decide, by decide⟩

instance : Inhabited Date := ⟨first⟩

theorem ofNumber?_number (d : Date) : ofNumber? d.number = some d := by
  rw [ofNumber?, dif_pos ⟨d.first_le, d.le_last⟩]

theorem ofNumber?_eq_some {n : Int} {d : Date} (h : ofNumber? n = some d) : d.number = n := by
  rw [ofNumber?] at h
  split at h
  case isTrue => cases h; rfl
  case isFalse => cases h

end Date

example : CalendarDate.dayNumber ⟨-262143, 1, 1⟩ = firstDay := by decide
example : CalendarDate.dayNumber ⟨262142, 12, 31⟩ = lastDay := by decide
example : CalendarDate.ofDayNumber 11016 = ⟨2000, 2, 29⟩ := by decide
example : (Date.ofCalendar? ⟨1900, 2, 29⟩).isNone := by decide

end Reminders
