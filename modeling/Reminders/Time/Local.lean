import Reminders.Json.Record
import Reminders.Text.Decimal
import Reminders.Time.DateTime

/-!
# Local date times

The owner of a calendar reminder gives its date time as plain numbers.  They
need not be those of a date and a time of day, which is for `toDateTime?` to
say.
-/

namespace Reminders

/-- A date time as plain numbers. -/
structure LocalDateTime where
  /-- The year. -/
  year : Int32
  /-- The month, from 1. -/
  month : UInt8
  /-- The day of the month, from 1. -/
  day : UInt8
  /-- The hour. -/
  hour : UInt8
  /-- The minute. -/
  minute : UInt8
  /-- The second. -/
  second : UInt8
deriving DecidableEq, Inhabited

namespace LocalDateTime

/-- The date time with these numbers, if there is one. -/
def toDateTime? (t : LocalDateTime) : Option DateTime := do
  let date ← Date.ofCalendar? ⟨t.year.toInt, t.month.toNat, t.day.toNat⟩
  let time ← TimeOfDay.ofClock? t.hour.toNat t.minute.toNat t.second.toNat
  return ⟨date, time⟩

/-- The numbers of a date time, down to the second. -/
def ofDateTime (t : DateTime) : LocalDateTime :=
  let c := t.date.calendar
  { year := Int32.ofInt c.year
    month := UInt8.ofNat c.month
    day := UInt8.ofNat c.day
    hour := UInt8.ofNat t.time.hour
    minute := UInt8.ofNat t.time.minute
    second := UInt8.ofNat t.time.secondOfMinute }

/-- The numbers with their names, as messages show them. -/
def shown (t : LocalDateTime) : String :=
  let number (n : Nat) : String := Text.decimal (Int.ofNat n)
  "LocalDateTime \x7b year: " ++ Text.decimal t.year.toInt ++ ", month: " ++ number t.month.toNat ++
    ", day: " ++ number t.day.toNat ++ ", hour: " ++ number t.hour.toNat ++ ", minute: " ++
    number t.minute.toNat ++ ", second: " ++ number t.second.toNat ++ " \x7d"

/-- A local date time as a JSON value. -/
def toJson (t : LocalDateTime) : Json :=
  .object [
    ("year", .int t.year.toInt),
    ("month", .int t.month.toNat),
    ("day", .int t.day.toNat),
    ("hour", .int t.hour.toNat),
    ("minute", .int t.minute.toNat),
    ("second", .int t.second.toNat)]

/-- The local date time that a JSON value holds.  The second may be left out. -/
def ofJson? (value : Json) : Option LocalDateTime := do
  let fields ← Json.fields? [.needed "year", .needed "month", .needed "day", .needed "hour",
    .needed "minute", .optional "second"] value
  let year ← fields.required "year" Json.int32?
  let month ← fields.required "month" Json.uint8?
  let day ← fields.required "day" Json.uint8?
  let hour ← fields.required "hour" Json.uint8?
  let minute ← fields.required "minute" Json.uint8?
  let second ← fields.defaulted "second" Json.uint8? 0
  return { year, month, day, hour, minute, second }

end LocalDateTime

end Reminders
