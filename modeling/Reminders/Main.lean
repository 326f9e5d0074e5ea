import Reminders.Dump
import Std.Time.Zoned

/-!
# The dump program

The program takes its configuration from the environment, runs on the store at
the configured path with the wall clock time, writes the store back if the run
changed it, and prints the schedule in words.
-/

namespace Reminders

/-- The date time of a clock. -/
def DateTime.ofClock? (year : Int) (month day hour minute second nano : Nat) : Option DateTime := do
  let date ← Date.ofCalendar? ⟨year, month, day⟩
  let time ← TimeOfDay.ofWritten? hour minute second nano
  return ⟨date, time⟩

/-- What time it is here. -/
def wallClock : IO DateTime := do
  let now ← Std.Time.PlainDateTime.now
  let moment := DateTime.ofClock? now.date.year now.date.month.toNat now.date.day.toNat
    now.time.hour.toNat now.time.minute.toNat now.time.second.toNat now.time.nanosecond.toNat
  match moment with
  | some moment => return moment
  | none => throw (IO.userError "the clock is past the last date")

/-- What stands at a path. -/
def Store.atPath (path : String) : IO Store := do
  match ← (IO.FS.readBinFile path).toBaseIO with
  | .ok bytes => return .ofBytes bytes
  | .error (.noFileOrDirectory ..) => return .missing
  | .error _ => return .blocked

/-- Writes a store to a path, if it is not what stood there before. -/
def Store.writeBack (store : Store) (path : String) (before : Store) : IO Unit :=
  match store.content? with
  | some content => if store = before then return else IO.FS.writeFile path content
  | none => return

/-- The variables that the configuration reads. -/
def Config.variables : List String := ["ANS_BUNDLE", "ANS_UID", "ANS_STORE_PATH", "ANS_TICK_MS"]

/-- The configuration that the environment gives. -/
def Config.ofEnvironment : IO Config := do
  let values ← Config.variables.mapM fun name => return (name, ← IO.getEnv name)
  return .ofVariables fun name => (values.lookup name).join

end Reminders

open Reminders in
/-- Dumps the store that the environment configures. -/
def main : IO Unit := do
  let config ← Config.ofEnvironment
  let now ← wallClock
  let path := config.storePath.getD ""
  let place ← if config.storePath.isSome then Store.atPath path else pure .missing
  match config.runDump place now with
  | .ok (.ok run) =>
      if let some store := run.store then
        let _ ← (store.writeBack path place).toBaseIO
      IO.println run.dump
  | .ok (.error e) =>
      IO.eprintln ("Failed to dump reminders: failed to build reminder agent: " ++ e.message)
  | .error _ => throw (IO.userError "a reminder would ring past the last date")
