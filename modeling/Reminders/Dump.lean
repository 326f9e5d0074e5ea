import Reminders.Config
import Reminders.Engine
import Reminders.Schedule.Dump

/-!
# Dumping a store

The dump program starts an engine on the store that is configured, ticks once and
prints the schedule in words.
-/

namespace Reminders

/-- What a run of the dump program comes to. -/
structure DumpRun where
  /-- The store behind the run. -/
  store : Option Store
  /-- The schedule in words. -/
  dump : String

/-- A run of the dump program on what stands at the place of the store. -/
def Config.runDump [LocalTime] (c : Config) (place : Store) (now : DateTime) :
    Except Overflow (Except Error DumpRun) := do
  match ← Engine.start c.bundle {} (c.storePath.map fun _ => place) now with
  | .error e => return .error e
  | .ok engine =>
      let (engine, ticked) := engine.tick now
      ticked.map fun _ => .ok { store := engine.store, dump := engine.schedule.dump }

-- No dump shows when a notification was delivered, so any zone does for the program.
attribute [instance] LocalTime.universal

end Reminders
