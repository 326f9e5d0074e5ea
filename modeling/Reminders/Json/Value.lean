import Reminders.Number.Double

/-!
# JSON values

A value of a JSON text is null, a truth value, a number, a text, an array or an
object.  The fields of an object stand in the order of the text and a name may
come twice.  A *canonical* value has its fields in ascending order of their
names and no name twice.

A number is an integer of at most 64 bits or a double.

Some parts of a text are well formed and still have no value: a number beyond
the doubles, a text with half of a surrogate pair, an array or object inside
127 others.  They are `unreadable`.  A reader that passes over such a part does
not mind it.  `Json.readable` holds of the values without such a part.
-/

namespace Reminders

/-- A number of a JSON text. -/
inductive Number where
  /-- An integer of at most 64 bits. -/
  | integer (n : Int)
  /-- Any other number. -/
  | double (d : Double)
deriving Repr, DecidableEq, Inhabited

/-- A value of a JSON text. -/
inductive Json where
  | null
  | bool (b : Bool)
  | number (n : Number)
  | text (s : String)
  | array (items : List Json)
  | object (fields : List (String × Json))
  /-- A well formed part of a text that has no value. -/
  | unreadable
deriving Inhabited, Repr, BEq

namespace Json

mutual

/-- Whether every part of a value can be read. -/
def readable : Json → Bool
  | .unreadable => false
  | .array items => readableItems items
  | .object fields => readableFields fields
  | _ => true

/-- Whether every item can be read. -/
def readableItems : List Json → Bool
  | [] => true
  | item :: rest => readable item && readableItems rest

/-- Whether every field can be read. -/
def readableFields : List (String × Json) → Bool
  | [] => true
  | (_, value) :: rest => readable value && readableFields rest

end

/-- An integer as a value. -/
def int (n : Int) : Json := .number (.integer n)

/-- A value that may be missing, with null for a missing one. -/
def option {α : Type} (write : α → Json) : Option α → Json
  | none => .null
  | some a => write a

/-- A list of values. -/
def list {α : Type} (write : α → Json) (items : List α) : Json := .array (items.map write)

end Json

end Reminders
