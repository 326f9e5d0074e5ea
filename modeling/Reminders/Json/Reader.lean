import Reminders.Json.Token
import Reminders.Table

/-!
# Reading a JSON text

The tokens of a text are read one by one.  Between two tokens the reader holds
the arrays and objects that are still open, innermost first, and what it expects
next.  `step?` takes one token.  `read?` succeeds on the texts that hold one
value and nothing else but blanks.

An array or object inside 127 others is unreadable, and so is an object with a
name that is.  `parse?` reads a text that must be readable in every part, and
returns its canonical value: where a name comes twice the last one counts.
-/

namespace Reminders.Json

/-- An array or object that is still open. -/
inductive Frame where
  /-- The items so far, newest first. -/
  | array (items : List Json)
  /-- The fields so far, newest first, and the name that waits for its value. -/
  | object (fields : List (Option String × Json)) (name : Option String)
deriving Inhabited

/-- What the reader expects next. -/
inductive Expected where
  /-- A value. -/
  | value
  /-- The first item of an array, or its end. -/
  | firstItem
  /-- The first name of an object, or its end. -/
  | firstName
  /-- A further name of an object. -/
  | name
  /-- The colon behind a name. -/
  | colon
  /-- A comma, or the end of the innermost array or object. -/
  | more
  /-- Nothing: the value is complete. -/
  | nothing (value : Json)
deriving Inhabited

/-- The state of the reader between two tokens. -/
structure Reading where
  /-- What stands next. -/
  expected : Expected
  /-- The arrays and objects that are still open, innermost first. -/
  frames : List Frame
deriving Inhabited

/-- How many arrays and objects may stand inside one another. -/
def greatestDepth : Nat := 127

/-- The fields with their names, unless a name has no text. -/
def named? : List (Option String × Json) → Option (List (String × Json))
  | [] => some []
  | (none, _) :: _ => none
  | (some name, value) :: rest => (named? rest).map ((name, value) :: ·)

namespace Reading

/-- The state before the first token. -/
def start : Reading := ⟨.value, []⟩

/-- The state after a value that stood where one was expected. -/
def deliver (value : Json) : List Frame → Reading
  | [] => ⟨.nothing value, []⟩
  | .array items :: outer => ⟨.more, .array (value :: items) :: outer⟩
  | .object fields name :: outer => ⟨.more, .object ((name, value) :: fields) none :: outer⟩

/-- Whether an array or object inside some others is too deep.  Only as many of
them are looked at as it takes. -/
def isTooDeep (outer : List Frame) : Bool := !(outer.drop (greatestDepth - 1)).isEmpty

theorem isTooDeep_iff {outer : List Frame} : isTooDeep outer ↔ greatestDepth ≤ outer.length := by
  simp only [isTooDeep, greatestDepth, Bool.not_eq_true', List.isEmpty_eq_false_iff, ne_eq,
    List.drop_eq_nil_iff]
  omega

/-- The value of an array or object that ends inside `outer`. -/
def closed (frame : Frame) (outer : List Frame) : Json :=
  if isTooDeep outer then .unreadable
  else
    match frame with
    | .array items => .array items.reverse
    | .object fields _ =>
        match named? fields.reverse with
        | some fields => .object fields
        | none => .unreadable

/-- The state after the end of an array. -/
def closeArray? : List Frame → Option Reading
  | .array items :: outer => some (deliver (closed (.array items) outer) outer)
  | _ => none

/-- The state after the end of an object. -/
def closeObject? : List Frame → Option Reading
  | .object fields name :: outer => some (deliver (closed (.object fields name) outer) outer)
  | _ => none

/-- The state after a token that starts a value. -/
def begin? (frames : List Frame) : Token → Option Reading
  | .openArray => some ⟨.firstItem, .array [] :: frames⟩
  | .openObject => some ⟨.firstName, .object [] none :: frames⟩
  | .null => some (deliver .null frames)
  | .bool b => some (deliver (.bool b) frames)
  | .number (some n) => some (deliver (.number n) frames)
  | .text (some s) => some (deliver (.text s) frames)
  | .number none => some (deliver .unreadable frames)
  | .text none => some (deliver .unreadable frames)
  | _ => none

/-- The state after a name. -/
def name? (frames : List Frame) : Token → Option Reading
  | .text s =>
      match frames with
      | .object fields _ :: outer => some ⟨.colon, .object fields s :: outer⟩
      | _ => none
  | _ => none

/-- The state after a comma. -/
def comma? : List Frame → Option Reading
  | .array items :: outer => some ⟨.value, .array items :: outer⟩
  | .object fields name :: outer => some ⟨.name, .object fields name :: outer⟩
  | [] => none

/-- The state after one more token. -/
def step? (r : Reading) (token : Token) : Option Reading :=
  match r.expected with
  | .value => begin? r.frames token
  | .firstItem => if token = .closeArray then closeArray? r.frames else begin? r.frames token
  | .firstName => if token = .closeObject then closeObject? r.frames else name? r.frames token
  | .name => name? r.frames token
  | .colon => if token = .colon then some ⟨.value, r.frames⟩ else none
  | .more =>
      match token with
      | .comma => comma? r.frames
      | .closeArray => closeArray? r.frames
      | .closeObject => closeObject? r.frames
      | _ => none
  | .nothing _ => none

/-- The state after a row of tokens. -/
def run? (r : Reading) : List Token → Option Reading
  | [] => some r
  | token :: rest =>
      match step? r token with
      | some next => run? next rest
      | none => none

/-- The value, once it is complete. -/
def value? (r : Reading) : Option Json :=
  match r.expected with
  | .nothing value => some value
  | _ => none

end Reading

/-- The value of a text, with every field in its place. -/
def read? (s : String) : Option Json := do
  let tokens ← tokens? s.toList
  let last ← Reading.start.run? tokens
  last.value?

/-! ## Canonical values -/

mutual

/-- The canonical form of a value: fields in ascending order of their names, the
last one of each name. -/
def canonical : Json → Json
  | .array items => .array (canonicalItems items)
  | .object fields => .object (Table.ofList (canonicalFields fields)).entries
  | value => value

/-- The canonical forms of a list of items. -/
def canonicalItems : List Json → List Json
  | [] => []
  | item :: rest => canonical item :: canonicalItems rest

/-- The fields with the canonical forms of their values. -/
def canonicalFields : List (String × Json) → List (String × Json)
  | [] => []
  | (name, value) :: rest => (name, canonical value) :: canonicalFields rest

end

/-- The canonical value of a text that is readable in every part. -/
def parse? (s : String) : Option Json :=
  (read? s).bind fun value => if value.readable then some value.canonical else none

end Reminders.Json
