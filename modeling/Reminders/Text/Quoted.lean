import Reminders.Text.Unprintable

/-!
# Quoted texts

Messages and reports show a text that someone else chose between double quotes,
so that its ends and its invisible characters can be seen.  A quote and a
backslash are preceded by a backslash.  Tab, line feed, carriage return and the
null character are written with a letter.  Any other character without a
printed form is written with its code point in hexadecimal, between braces.
An apostrophe stands for itself.
-/

namespace Reminders.Text

/-- The hexadecimal digit that stands for a number below sixteen, in lower case. -/
def hexDigit (n : Nat) : Char :=
  if n < 10 then Char.ofNat ('0'.toNat + n) else Char.ofNat ('a'.toNat + (n - 10))

/-- The hexadecimal digits of a number, without leading zeros. -/
def hexDigits (n : Nat) : List Char :=
  if n < 16 then [hexDigit n] else hexDigits (n / 16) ++ [hexDigit (n % 16)]

/-- How one character is written between quotes. -/
def quotedChar (c : Char) : List Char :=
  if c = '"' then ['\\', '"']
  else if c = '\\' then ['\\', '\\']
  else if c = '\t' then ['\\', 't']
  else if c = '\n' then ['\\', 'n']
  else if c = '\r' then ['\\', 'r']
  else if c.toNat = 0 then ['\\', '0']
  else if isUnprintable c then "\\u\x7b".toList ++ hexDigits c.toNat ++ ['}']
  else [c]

/-- A text between quotes, with every character that would be misread spelled out. -/
def quoted (s : String) : String :=
  String.ofList ('"' :: s.toList.flatMap quotedChar ++ ['"'])

end Reminders.Text
