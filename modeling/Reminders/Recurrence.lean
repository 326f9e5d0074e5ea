import Reminders.Time.DateTime

/-!
# When a reminder rings

All moments are wall clock times, and the caller says what time it is.

Weekdays, months and days of the month are selected by *masks*: bit `n - 1` of a
mask stands for the number `n`.  `mask` makes one from a list of numbers and
passes over those out of range.

* `afterSeconds?` rings once, a number of seconds from now.
* `nextAlarm` rings at an hour and minute, on the selected weekdays or once.
* `nextCalendar?` rings at a date time once, or at its hour and minute on every
  selected day of every selected month.

A repeating alarm or calendar rings strictly after now.  An alarm that would
have to ring past the last date is an `Overflow`.
-/

namespace Reminders.Recurrence

/-! ## Masks -/

/-- The mask of the numbers from 1 to `greatest` in a list. -/
def mask (greatest : Nat) (values : List UInt8) : Nat :=
  values.foldl
    (fun bits value =>
      if 1 ≤ value.toNat ∧ value.toNat ≤ greatest then bits ||| 1 <<< (value.toNat - 1) else bits)
    0

/-- Whether a mask selects a number. -/
def selects (bits n : Nat) : Bool := bits.testBit (n - 1)

/-- The days of a week. -/
def daysPerWeek : Nat := 7

/-- The months of a year. -/
def monthsPerYear : Nat := 12

/-- The most days a month has. -/
def daysPerMonth : Nat := 31

/-- The mask of the weekdays in a list, Monday being 1. -/
def weekdayMask (days : List UInt8) : Nat := mask daysPerWeek days

/-- The mask of the months in a list. -/
def monthMask (months : List UInt8) : Nat := mask monthsPerYear months

/-- The mask of the days of the month in a list. -/
def dayMask (days : List UInt8) : Nat := mask daysPerMonth days

/-! ## Timers -/

/-- The moment a number of seconds from now, unless it is past the last date. -/
def afterSeconds? (now : DateTime) (seconds : Nat) : Option DateTime := now.later? seconds

/-! ## Alarms -/

/-- The weekday a number of days behind another one. -/
def weekdayAfter (weekday days : Nat) : Nat := (weekday - 1 + days) % daysPerWeek + 1

/-- The next ring of an alarm.  With weekdays selected it is the first of them at
which the time is still ahead.  Without, the alarm rings today if the time is
ahead, and otherwise tomorrow if `tomorrow` holds and else never. -/
def nextAlarm (hour minute : UInt8) (weekdays : Nat) (now : DateTime) (tomorrow : Bool) :
    Except Overflow (Option DateTime) :=
  match TimeOfDay.ofClock? hour.toNat minute.toNat 0 with
  | none => .ok none
  | some time =>
      let today : DateTime := ⟨now.date, time⟩
      if weekdays = 0 then
        if now < today then .ok (some today)
        else if tomorrow then (today.daysLater 1).map some
        else .ok none
      else
        let soonest := if today ≤ now then 1 else 0
        let offset? := (List.range' soonest (daysPerWeek + 1 - soonest)).find? fun days =>
          selects weekdays (weekdayAfter now.date.weekday days)
        match offset? with
        | none => .ok none
        | some days => (today.daysLater days).map some

/-! ## Calendars -/

/-- The year and month that lie a number of months behind another one. -/
def monthAfter (year : Int) (month count : Nat) : Int × Nat :=
  let months := month - 1 + count
  (year + Int.ofNat (months / monthsPerYear), months % monthsPerYear + 1)

/-- The first selected day of a month at which the time is still ahead. -/
def nextInMonth? (time : TimeOfDay) (days : Nat) (now : DateTime) (year : Int) (month : Nat) :
    Option DateTime :=
  (List.range' 1 daysPerMonth).findSome? fun day =>
    if selects days day then
      (Date.ofCalendar? ⟨year, month, day⟩).bind fun date =>
        let candidate : DateTime := ⟨date, time⟩
        if now < candidate then some candidate else none
    else none

/-- The next ring of a calendar reminder.  Unless months and days are both
selected it rings once, at `first`.  The search for a selected day ends with the
month one year from now. -/
def nextCalendar? (first : DateTime) (months days : Nat) (now : DateTime) : Option DateTime :=
  if months = 0 ∨ days = 0 then if now < first then some first else none
  else
    let today := now.date.calendar
    (List.range (monthsPerYear + 1)).findSome? fun count =>
      let (year, month) := monthAfter today.year today.month count
      if selects months month then nextInMonth? first.time.startOfMinute days now year month
      else none

end Reminders.Recurrence
