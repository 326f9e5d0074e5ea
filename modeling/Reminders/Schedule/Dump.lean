import Reminders.Schedule.Basic
import Reminders.Table
import Reminders.Text.Quoted
import Reminders.Time.Written

/-!
# A schedule in words

`Schedule.dump` is a text for people: the number of reminders, and then for each
bundle name, in ascending order, its reminders in the order in which they ring.
-/

namespace Reminders

/-- A truth value in words. -/
def Text.truth (b : Bool) : String := if b then "true" else "false"

/-- A status in words. -/
def ReminderStatus.shown : ReminderStatus → String
  | .active => "Active"
  | .showing alerting => "Showing \x7b alerting: " ++ Text.truth alerting ++ " \x7d"
  | .snoozed => "Snoozed"

/-- The line of an entry. -/
def Entry.dumpLine (e : Entry) : String :=
  let trigger := match e.trigger with
    | some trigger => trigger.plainText
    | none => "-"
  "    [id=" ++ Text.decimal e.id.toInt ++ ", type=" ++ Coded.name e.request.type ++
    ", trigger=" ++ trigger ++ ", status=" ++ e.status.shown ++
    ", expired=" ++ Text.truth e.expired ++ ", title=" ++ Text.quoted e.request.title ++ "]"

namespace Schedule

/-- The names of the bundles that own a reminder, each once and in ascending order. -/
def bundleNames (s : Schedule) : List String :=
  (Table.ofList (s.entries.map fun e => (e.bundle.name, ()))).keys

/-- The reminders under a bundle name, in the order in which they ring. -/
def ownedBy (s : Schedule) (name : String) : List Entry :=
  (s.entries.filter fun e => e.bundle.name == name).mergeSort Entry.precedes

/-- The line with a number of reminders. -/
def countLine (lead : String) (count : Nat) : String :=
  lead ++ "totalCount:" ++ Text.decimal count ++ ","

/-- The lines of a bundle name. -/
def dumpBundle (s : Schedule) (name : String) : List String :=
  let entries := s.ownedBy name
  [name ++ ":\x7b", countLine "    " entries.length] ++ entries.map Entry.dumpLine ++ ["\x7d,"]

/-- The lines in front of the closing brace. -/
def dumpLines (s : Schedule) : List String :=
  countLine "ReminderDataManager\x7b " s.size :: s.bundleNames.flatMap s.dumpBundle

/-- The schedule in words. -/
def dump (s : Schedule) : String :=
  String.join (s.dumpLines.map (· ++ "\n")) ++ "\x7d"

end Schedule

end Reminders
