import Reminders.Json.Value

/-!
# Alternatives in JSON

An alternative that carries nothing is written as its name.  It may also be
written as an object with its name before null, which is the form of an
alternative that carries something.
-/

namespace Reminders.Json

/-- An alternative: its name, and what it carries if it is written as an object. -/
structure Variant where
  /-- The name. -/
  name : String
  /-- What it carries. -/
  carried : Option Json

/-- The alternative that a JSON value is. -/
def variant? : Json → Option Variant
  | .text name => some ⟨name, none⟩
  | .object [(name, value)] => some ⟨name, some value⟩
  | _ => none

/-- Whether an alternative carries nothing. -/
def Variant.isBare (v : Variant) : Bool :=
  match v.carried with
  | none | some .null => true
  | some _ => false

/-- The choice that a JSON value names, from a list of choices that carry nothing. -/
def choice? {α : Type} (name : α → String) (choices : List α) (value : Json) : Option α := do
  let v ← value.variant?
  if v.isBare then choices.find? fun a => name a == v.name else none

end Reminders.Json
