import Reminders.Json.Record
import Reminders.Text.Decimal
import Reminders.Text.Space

/-!
# Bundles

A *bundle* is the application that a slot, a notification or a reminder belongs
to.  It has a name and may carry the id of the user it runs for.  What a bundle
owns is found by its name alone.
-/

namespace Reminders

/-- An application, with the user it runs for if that is known. -/
structure Bundle where
  /-- The name of the application. -/
  name : String
  /-- The id of the user. -/
  uid : Option Int32 := none
deriving DecidableEq, Inhabited

namespace Bundle

/-- Whether the name says something. -/
def isNamed (b : Bundle) : Bool := !Text.isBlank b.name

/-- The name, with the user behind a `#`. -/
def display (b : Bundle) : String :=
  match b.uid with
  | some uid => b.name ++ "#" ++ Text.decimal uid.toInt
  | none => b.name

/-- A bundle as a JSON value.  A user that is not known is left out. -/
def toJson (b : Bundle) : Json :=
  match b.uid with
  | some uid => .object [("bundle", .text b.name), ("uid", .int uid.toInt)]
  | none => .object [("bundle", .text b.name)]

/-- The bundle that a JSON value holds. -/
def ofJson? (value : Json) : Option Bundle := do
  let fields ← Json.fields? [.needed "bundle", .optional "uid"] value
  let name ← fields.required "bundle" Json.text?
  let uid ← fields.defaulted "uid" (Json.nullable Json.int32?) none
  return { name, uid }

end Bundle

end Reminders
