import Reminders.Coded

/-!
# Actions of a notification

A tap on a notification opens an *ability* of some package.  A notification may
also carry buttons, which close a reminder or snooze it.
-/

namespace Reminders

/-- An ability of a package, which can be opened. -/
structure Ability where
  /-- The name of the package. -/
  package : String
  /-- The name of the ability. -/
  name : String
deriving DecidableEq, Inhabited

namespace Ability

/-- An ability as a JSON value. -/
def toJson (a : Ability) : Json :=
  .object [("pkgName", .text a.package), ("abilityName", .text a.name)]

/-- The ability that a JSON value holds. -/
def ofJson? (value : Json) : Option Ability := do
  let fields ← Json.fields? [.needed "pkgName", .needed "abilityName"] value
  let package ← fields.required "pkgName" Json.text?
  let name ← fields.required "abilityName" Json.text?
  return { package, name }

end Ability

/-- What an action button does. -/
inductive ActionButtonType where
  | close
  | snooze
deriving Repr, DecidableEq, Inhabited

instance : Coded ActionButtonType where
  title := "action button type"
  choices := [.close, .snooze]
  number
    | .close => 0
    | .snooze => 1
  name
    | .close => "Close"
    | .snooze => "Snooze"
  find_number a := by cases a <;> rfl

/-- A button of a notification. -/
structure ActionButton where
  /-- What the button says. -/
  title : String
  /-- What the button does. -/
  type : ActionButtonType
deriving DecidableEq, Inhabited

namespace ActionButton

/-- An action button as a JSON value. -/
def toJson (b : ActionButton) : Json :=
  .object [("title", .text b.title), ("type", Coded.toJson b.type)]

/-- The action button that a JSON value holds. -/
def ofJson? (value : Json) : Option ActionButton := do
  let fields ← Json.fields? [.needed "title", .needed "type"] value
  let title ← fields.required "title" Json.text?
  let type ← fields.required "type" Coded.ofJson?
  return { title, type }

end ActionButton

end Reminders
