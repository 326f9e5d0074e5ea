import Reminders.Json.Value
import Reminders.Number.Shortest
import Reminders.Text.Quoted

/-!
# Writing a JSON text

Texts are written between double quotes.  A quote, a backslash and the control
characters below the space are escaped, the usual five with a letter and the
others with four hexadecimal digits in lower case.  All else stands for itself.

`compact` writes a value without blanks.  `pretty` puts every item and field on
a line of its own, two spaces deeper than the array or object around it, with a
space behind the colon.  Empty arrays and objects stay on one line.
-/

namespace Reminders.Json

/-- How one character is written inside a quoted text. -/
def escapedChar (c : Char) : List Char :=
  if c = '"' then ['\\', '"']
  else if c = '\\' then ['\\', '\\']
  else if c = '\x08' then ['\\', 'b']
  else if c = '\x0c' then ['\\', 'f']
  else if c = '\n' then ['\\', 'n']
  else if c = '\r' then ['\\', 'r']
  else if c = '\t' then ['\\', 't']
  else if c.toNat < 0x20 then
    ['\\', 'u', '0', '0', Text.hexDigit (c.toNat / 16), Text.hexDigit (c.toNat % 16)]
  else [c]

/-- A text between quotes. -/
def textChars (s : String) : List Char := '"' :: s.toList.flatMap escapedChar ++ ['"']

/-- The characters of a number. -/
def numberChars : Number → List Char
  | .integer n => Text.decimalChars n
  | .double d => d.chars

/-- The characters of a value that is neither an array nor an object.  An
unreadable part has no characters of its own and is written as null. -/
def scalarChars : Json → List Char
  | .bool true => ['t', 'r', 'u', 'e']
  | .bool false => ['f', 'a', 'l', 's', 'e']
  | .number n => numberChars n
  | .text s => textChars s
  | _ => ['n', 'u', 'l', 'l']

/-! ## Without blanks -/

mutual

/-- The characters of a value, without blanks. -/
def compactChars : Json → List Char
  | .array [] => ['[', ']']
  | .array (item :: rest) => '[' :: compactChars item ++ compactItems rest
  | .object [] => ['{', '}']
  | .object ((name, value) :: rest) =>
      '{' :: textChars name ++ ':' :: compactChars value ++ compactFields rest
  | value => scalarChars value

/-- The items behind the first one, and the end of their array. -/
def compactItems : List Json → List Char
  | [] => [']']
  | item :: rest => ',' :: compactChars item ++ compactItems rest

/-- The fields behind the first one, and the end of their object. -/
def compactFields : List (String × Json) → List Char
  | [] => ['}']
  | (name, value) :: rest =>
      ',' :: textChars name ++ ':' :: compactChars value ++ compactFields rest

end

/-- A value as a text without blanks. -/
def compact (value : Json) : String := String.ofList (compactChars value)

/-! ## On lines of their own -/

/-- A new line at a level. -/
def newLine (level : Nat) : List Char := '\n' :: List.replicate (2 * level) ' '

mutual

/-- The characters of a value that starts on a line of the given level. -/
def prettyChars (level : Nat) : Json → List Char
  | .array [] => ['[', ']']
  | .array (item :: rest) =>
      '[' :: newLine (level + 1) ++ prettyChars (level + 1) item ++ prettyItems level rest
  | .object [] => ['{', '}']
  | .object ((name, value) :: rest) =>
      '{' :: newLine (level + 1) ++ textChars name ++ ':' :: ' ' ::
        prettyChars (level + 1) value ++ prettyFields level rest
  | value => scalarChars value

/-- The items behind the first one, and the end of their array. -/
def prettyItems (level : Nat) : List Json → List Char
  | [] => newLine level ++ [']']
  | item :: rest =>
      ',' :: newLine (level + 1) ++ prettyChars (level + 1) item ++ prettyItems level rest

/-- The fields behind the first one, and the end of their object. -/
def prettyFields (level : Nat) : List (String × Json) → List Char
  | [] => newLine level ++ ['}']
  | (name, value) :: rest =>
      ',' :: newLine (level + 1) ++ textChars name ++ ':' :: ' ' ::
        prettyChars (level + 1) value ++ prettyFields level rest

end

/-- A value as a text with every item and field on a line of its own. -/
def pretty (value : Json) : String := String.ofList (prettyChars 0 value)

end Reminders.Json
