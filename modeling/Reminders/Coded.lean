import Reminders.Json.Record

/-!
# Choices known by a number

A choice from a short list is written as a number.  The numbers of a list differ,
so a number stands for at most one choice (`Coded.ofNumber?_number`).
-/

namespace Reminders

/-- A type whose values are choices with a number each. -/
class Coded (α : Type) where
  /-- What messages call a choice. -/
  title : String
  /-- All choices. -/
  choices : List α
  /-- The number of a choice. -/
  number : α → Int
  /-- The name of a choice. -/
  name : α → String
  /-- The numbers differ, and no choice is missing. -/
  find_number : ∀ a, choices.find? (fun b => number b == number a) = some a

namespace Coded

variable {α : Type} [Coded α]

/-- The choice a number stands for. -/
def ofNumber? (n : Int) : Option α := (choices : List α).find? fun a => number a == n

/-- A choice as a JSON value. -/
def toJson (a : α) : Json := .int (number a)

/-- The choice that a JSON value holds. -/
def ofJson? (value : Json) : Option α := value.int?.bind ofNumber?

theorem ofNumber?_number (a : α) : ofNumber? (number a) = some a := find_number a

theorem ofJson?_toJson (a : α) : ofJson? (toJson a) = some a := find_number a

end Coded

end Reminders
