import Reminders.Json.Record
import Reminders.Time.DateTime
import Reminders.Text.Decimal
import Reminders.Text.Space

/-!
# Written date times

A date time is written `2025-03-01T08:00:00`, with a fraction behind a point if
there is one.  A fraction has 3, 6 or 9 digits, the fewest that are exact.  A
year has four digits.  A year below 0 or above 9999 carries a sign, and as many
digits as it needs but at least four.  A leap second is the second 60.

Reading is more tolerant.  Numbers may be shorter, a fraction may have any
number of digits of which nine count, a year may have a plus sign and then any
number of digits, and white space may stand before every number and mark and at
the end, but not around the point.
-/

namespace Reminders

/-! ## Writing -/

/-- The characters of a year. -/
def yearChars (year : Int) : List Char :=
  if 0 ≤ year ∧ year ≤ 9999 then Text.padded 4 year.toNat
  else (if year < 0 then '-' else '+') :: Text.padded 4 year.natAbs

/-- The characters of a date. -/
def Date.chars (d : Date) : List Char :=
  let c := d.calendar
  yearChars c.year ++ '-' :: Text.padded 2 c.month ++ '-' :: Text.padded 2 c.day

/-- The second of the minute that is written, 60 for a leap second. -/
def TimeOfDay.writtenSecond (t : TimeOfDay) : Nat := t.secondOfMinute + t.nano / 1000000000

/-- The characters of hour, minute and second. -/
def TimeOfDay.clockChars (t : TimeOfDay) : List Char :=
  Text.padded 2 t.hour ++ ':' :: Text.padded 2 t.minute ++ ':' :: Text.padded 2 t.writtenSecond

/-- The characters of a fraction of a second, with the fewest digits that are exact. -/
def fractionChars (nano : Nat) : List Char :=
  if nano = 0 then []
  else if nano % 1000000 = 0 then '.' :: Text.padded 3 (nano / 1000000)
  else if nano % 1000 = 0 then '.' :: Text.padded 6 (nano / 1000)
  else '.' :: Text.padded 9 nano

namespace DateTime

/-- The characters of a date time. -/
def chars (t : DateTime) : List Char :=
  t.date.chars ++ 'T' :: t.time.clockChars ++ fractionChars (t.time.nano % 1000000000)

/-- A date time as a text. -/
def text (t : DateTime) : String := String.ofList t.chars

/-- A date time down to the second, with a space between date and time. -/
def plainText (t : DateTime) : String :=
  String.ofList (t.date.chars ++ ' ' :: t.time.clockChars)

end DateTime

/-! ## Reading -/

/-- A number of at most `width` digits behind white space, and what follows it. -/
def number? (width : Nat) (cs : List Char) : Option (Nat × List Char) :=
  let cs := Text.skipSpace cs
  let ds := (cs.take width).takeWhile Char.isDigit
  if ds.isEmpty then none else some (Text.valueOf ds, cs.drop ds.length)

/-- What follows a mark behind white space. -/
def mark? (mark : Char) (cs : List Char) : Option (List Char) :=
  match Text.skipSpace cs with
  | c :: rest => if c = mark then some rest else none
  | [] => none

/-- A run of digits of any length, and what follows it. -/
def digitRun? (cs : List Char) : Option (Nat × List Char) :=
  let ds := cs.takeWhile Char.isDigit
  if ds.isEmpty then none else some (Text.valueOf ds, cs.dropWhile Char.isDigit)

/-- A year behind white space, and what follows it.  A sign allows more than
four digits. -/
def year? (cs : List Char) : Option (Int × List Char) :=
  match Text.skipSpace cs with
  | '-' :: rest => (digitRun? rest).map fun (n, rest) => (-Int.ofNat n, rest)
  | '+' :: rest => (digitRun? rest).map fun (n, rest) => (Int.ofNat n, rest)
  | cs => (number? 4 cs).map fun (n, rest) => (Int.ofNat n, rest)

/-- The nanoseconds of a fraction, if there is one, and what follows it. -/
def fraction? : List Char → Option (Nat × List Char)
  | '.' :: rest =>
      let ds := (rest.take 9).takeWhile Char.isDigit
      if ds.isEmpty then none
      else
        some (Text.valueOf ds * Nat.pow 10 (9 - ds.length),
          (rest.drop ds.length).dropWhile Char.isDigit)
  | cs => some (0, cs)

/-- The time of day that is written with an hour, a minute and a second up to 60. -/
def TimeOfDay.ofWritten? (hour minute second nano : Nat) : Option TimeOfDay :=
  if hour < 24 ∧ minute < 60 then
    if second < 60 then ofSecond? (hour * 3600 + minute * 60 + second) nano
    else if second = 60 then ofSecond? (hour * 3600 + minute * 60 + 59) (1000000000 + nano)
    else none
  else none

/-- The date time that a text holds. -/
def DateTime.read? (s : String) : Option DateTime := do
  let (year, cs) ← year? s.toList
  let cs ← mark? '-' cs
  let (month, cs) ← number? 2 cs
  let cs ← mark? '-' cs
  let (day, cs) ← number? 2 cs
  let cs ← mark? 'T' cs
  let (hour, cs) ← number? 2 cs
  let cs ← mark? ':' cs
  let (minute, cs) ← number? 2 cs
  let cs ← mark? ':' cs
  let (second, cs) ← number? 2 cs
  let (nano, cs) ← fraction? cs
  if Text.skipSpace cs = [] then
    let date ← Date.ofCalendar? ⟨year, month, day⟩
    let time ← TimeOfDay.ofWritten? hour minute second nano
    return ⟨date, time⟩
  else none

/-! ## In JSON -/

/-- A date time as a JSON value. -/
def DateTime.toJson (t : DateTime) : Json := .text t.text

/-- The date time that a JSON value holds. -/
def DateTime.ofJson? (value : Json) : Option DateTime := value.text?.bind DateTime.read?

end Reminders
