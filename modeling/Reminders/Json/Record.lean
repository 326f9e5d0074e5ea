import Reminders.Json.Value
import Reminders.Number.Word

/-!
# Records in JSON

A *record* is written as an object with a field for each of its parts.  It may
also be written as an array of its parts in their order.  `fields?` opens either
form and returns the parts under their names.

* An object may hold other fields, which do not count.  A part that comes twice
  is refused.
* An array may leave out parts at its end, if each of them is one that may be
  left out.  It holds no further items.

The parts of one record may stand among those of another.  `mergedFields?` opens
such an object, and minds also the fields that do not count: each of them must be
readable before anyone knows whose part it is.

`required`, `defaulted` and `nullable` read a part: one that must be there, one
with a value that stands for a missing part, and one that may be null.
-/

namespace Reminders.Json

/-! ## Simple values -/

/-- The truth value, if the value is one. -/
def bool? : Json → Option Bool
  | .bool b => some b
  | _ => none

/-- The text, if the value is one. -/
def text? : Json → Option String
  | .text s => some s
  | _ => none

/-- The integer, if the value is one. -/
def int? : Json → Option Int
  | .number (.integer n) => some n
  | _ => none

/-- The signed 32-bit integer, if the value is one. -/
def int32? (value : Json) : Option Int32 := value.int?.bind Reminders.int32?

/-- The signed 64-bit integer, if the value is one. -/
def int64? (value : Json) : Option Int64 := value.int?.bind Reminders.int64?

/-- The 8-bit natural number, if the value is one. -/
def uint8? (value : Json) : Option UInt8 := value.int?.bind Reminders.uint8?

/-- The 32-bit natural number, if the value is one. -/
def uint32? (value : Json) : Option UInt32 := value.int?.bind Reminders.uint32?

/-- The 64-bit natural number, if the value is one. -/
def uint64? (value : Json) : Option UInt64 := value.int?.bind Reminders.uint64?

/-- The items, if the value is an array of values that can be read. -/
def list? {α : Type} (read : Json → Option α) : Json → Option (List α)
  | .array items => items.mapM read
  | _ => none

/-- A value or null. -/
def nullable {α : Type} (read : Json → Option α) : Json → Option (Option α)
  | .null => some none
  | value => (read value).map some

/-! ## The parts of a record -/

/-- A part of a record: its name, and whether an array may end before it. -/
structure Part where
  /-- The name of its field. -/
  name : String
  /-- Whether it may be left out of an array. -/
  mayEnd : Bool
deriving Repr, DecidableEq

/-- A part that an array must hold. -/
def Part.needed (name : String) : Part := ⟨name, false⟩

/-- A part that an array may end before. -/
def Part.optional (name : String) : Part := ⟨name, true⟩

/-- The parts of a record under their names. -/
abbrev Fields := List (String × Json)

/-- The part under a name. -/
def Fields.get? (fields : Fields) (name : String) : Option Json := fields.lookup name

/-- How often a name comes among the fields. -/
def Fields.count (fields : Fields) (name : String) : Nat :=
  (fields.filter fun f => f.1 == name).length

/-- Whether none of the names comes twice. -/
def Fields.unrepeated (fields : Fields) (names : List String) : Bool :=
  names.all fun name => fields.count name ≤ 1

/-- A part that must be there. -/
def Fields.required {α : Type} (fields : Fields) (name : String) (read : Json → Option α) :
    Option α :=
  (fields.get? name).bind read

/-- A part with a value that stands for a missing one. -/
def Fields.defaulted {α : Type} (fields : Fields) (name : String) (read : Json → Option α)
    (default : α) : Option α :=
  match fields.get? name with
  | some value => read value
  | none => some default

/-- The fields of an object in which none of the given names comes twice. -/
def objectFields? (names : List String) : Json → Option Fields
  | .object fields => if Fields.unrepeated fields names then some fields else none
  | _ => none

/-- Whether every part can be read that goes by another name than those given. -/
def Fields.othersReadable (fields : Fields) (names : List String) : Bool :=
  (fields.filter fun f => !names.contains f.1).all fun f => f.2.readable

/-- The fields of an object that holds the parts of a record, and among them those of another
one.  No part of either comes twice. -/
def mergedFields? (names others : List String) (value : Json) : Option Fields := do
  let fields ← objectFields? (others ++ names) value
  if fields.othersReadable names then some fields else none

/-- Whether a part stands before another one. -/
def Fields.standsBefore (fields : Fields) (name other : String) : Bool :=
  (fields.find? fun f => f.1 == name || f.1 == other).any fun f => f.1 == name

/-- The parts of a record in either form. -/
def fields? (parts : List Part) : Json → Option Fields
  | .array items =>
      if items.length ≤ parts.length ∧ (parts.drop items.length).all Part.mayEnd then
        some ((parts.map Part.name).zip items)
      else none
  | value => objectFields? (parts.map Part.name) value

end Reminders.Json
