import Reminders.Json.Printer
import Reminders.Json.Reader
import Reminders.Schedule.Written

/-!
# Where a schedule is kept

A schedule is kept in a file as a JSON text.  A `Store` is what stands at the
place of that file, for nothing else about it matters.  A missing file holds no
schedule, and a file that holds anything else than a schedule is an error.
-/

namespace Reminders

/-- What stands at the place of a file. -/
inductive Store where
  /-- Nothing, but a file may be put there. -/
  | missing
  /-- A file with a text. -/
  | text (content : String)
  /-- A file that holds no text. -/
  | binary
  /-- A directory. -/
  | directory
  /-- Nothing, and no file may be put there. -/
  | blocked
deriving Repr, DecidableEq, Inhabited

namespace Store

/-- A file with some bytes. -/
def ofBytes (bytes : ByteArray) : Store :=
  match String.fromUTF8? bytes with
  | some content => .text content
  | none => .binary

/-- The text of the file, if there is a file. -/
def read : Store → Except Error (Option String)
  | .missing => .ok none
  | .text content => .ok (some content)
  | .binary => .error (.storage "the file holds no text")
  | .directory => .error (.storage "a directory stands in place of the file")
  | .blocked => .error (.storage "no file can stand there")

/-- The text of the file, if there is one. -/
def content? : Store → Option String
  | .text content => some content
  | _ => none

/-- The place with a file that holds a text. -/
def write (place : Store) (content : String) : Except Error Store :=
  match place with
  | .missing | .text _ | .binary => .ok (.text content)
  | .directory => .error (.storage "a directory stands in place of the file")
  | .blocked => .error (.storage "no file can stand there")

/-- The schedule that a text holds. -/
def schedule? (content : String) : Option Schedule :=
  (Json.read? content).bind (Schedule.ofJson? .text)

/-- The schedule that is kept at a place, if there is a file. -/
def load (place : Store) : Except Error (Option Schedule) := do
  match ← place.read with
  | none => return none
  | some content =>
      match schedule? content with
      | some schedule => return some schedule
      | none => throw (.malformed "the file does not hold a schedule")

/-- The place with a file that holds a schedule. -/
def save (place : Store) (schedule : Schedule) : Except Error Store :=
  place.write schedule.toJson.pretty

end Store

end Reminders
