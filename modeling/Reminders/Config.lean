import Reminders.Bundle

/-!
# Configuration

The program is configured by variables: `ANS_BUNDLE` names the bundle that it
acts for, `ANS_UID` its user, `ANS_STORE_PATH` the file of the store, and
`ANS_TICK_MS` the milliseconds between two ticks.  A variable that is missing,
blank or no number leaves the default, and ticks are never too frequent.
-/

namespace Reminders

/-- How the program is configured. -/
structure Config where
  /-- The name of the bundle. -/
  bundleName : String := "com.example.app"
  /-- The id of the user. -/
  uid : Option Int32 := none
  /-- The path of the store. -/
  storePath : Option String := none
  /-- The milliseconds between two ticks. -/
  tick : Nat := 1000
deriving Repr, DecidableEq, Inhabited

namespace Config

/-- The fewest milliseconds between two ticks. -/
def leastTick : Nat := 10

/-- A variable that says something. -/
def spoken? (value : String) : Option String := if Text.isBlank value then none else some value

/-- The configuration that some variables give. -/
def ofVariables (lookup : String → Option String) : Config :=
  let default : Config := {}
  let number (name : String) (read : String → Option Int) : Option Int :=
    (lookup name).bind fun value => read (Text.trim value)
  { bundleName := (((lookup "ANS_BUNDLE").bind spoken?).map Text.trim).getD default.bundleName
    uid := (number "ANS_UID" Text.integer?).bind int32?
    storePath := (lookup "ANS_STORE_PATH").bind spoken?
    tick :=
      match (number "ANS_TICK_MS" fun s => (Text.natural? s).map Int.ofNat).bind uint64? with
      | some tick => max leastTick tick.toNat
      | none => default.tick }

/-- The bundle that the program acts for. -/
def bundle (c : Config) : Bundle := ⟨c.bundleName, c.uid⟩

end Config

end Reminders
