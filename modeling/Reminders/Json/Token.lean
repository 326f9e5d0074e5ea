import Reminders.Json.Numeral
import Reminders.Text.Quoted

/-!
# The tokens of a JSON text

A JSON text is a row of tokens with blanks between them: the six marks, the
three words, numerals and quoted texts.  `tokens?` splits a text into them.  The
blanks are space, tab, line feed and carriage return.

A quoted text holds characters from the space on, and escapes.  An escape
`\u` with four hexadecimal digits is a unit of UTF-16, and two of them may form
a surrogate pair.  A text with half of a pair is a token without a text, as a
numeral beyond the doubles is a token without a number.
-/

namespace Reminders.Json

/-- A token of a JSON text. -/
inductive Token where
  | openArray
  | closeArray
  | openObject
  | closeObject
  | comma
  | colon
  | null
  | bool (b : Bool)
  /-- A numeral, with its number unless it is beyond the doubles. -/
  | number (n : Option Number)
  /-- A quoted text, with its characters unless half of a pair is among them. -/
  | text (s : Option String)
deriving Repr, DecidableEq

/-! ## Quoted texts -/

/-- The number a hexadecimal digit stands for. -/
def hexValue? (c : Char) : Option Nat :=
  let n := c.toNat
  if c.isDigit then some (n - '0'.toNat)
  else if 'a'.toNat ≤ n ∧ n ≤ 'f'.toNat then some (n - 'a'.toNat + 10)
  else if 'A'.toNat ≤ n ∧ n ≤ 'F'.toNat then some (n - 'A'.toNat + 10)
  else none

/-- The unit that four hexadecimal digits stand for. -/
def unit? (a b c d : Char) : Option Nat := do
  let a ← hexValue? a
  let b ← hexValue? b
  let c ← hexValue? c
  let d ← hexValue? d
  return ((a * 16 + b) * 16 + c) * 16 + d

/-- The character that an escape with a single letter stands for. -/
def escaped? (c : Char) : Option Char :=
  match c with
  | '"' => some '"'
  | '\\' => some '\\'
  | '/' => some '/'
  | 'b' => some '\x08'
  | 'f' => some '\x0c'
  | 'n' => some '\n'
  | 'r' => some '\r'
  | 't' => some '\t'
  | _ => none

/-- The units of a quoted text up to its closing quote, newest first, and what
stands behind the quote.  A character stands for its code point, and an escape
of four digits for a unit of UTF-16. -/
def units? (done : List Nat) : List Char → Option (List Nat × List Char)
  | [] => none
  | '"' :: rest => some (done, rest)
  | '\\' :: 'u' :: a :: b :: c :: d :: rest =>
      match unit? a b c d with
      | some u => units? (u :: done) rest
      | none => none
  | '\\' :: c :: rest =>
      match escaped? c with
      | some e => units? (e.toNat :: done) rest
      | none => none
  | c :: rest => if c.toNat < 0x20 then none else units? (c.toNat :: done) rest

/-- Whether a unit is the first half of a surrogate pair. -/
def isHigh (u : Nat) : Bool := 0xD800 ≤ u && u < 0xDC00

/-- Whether a unit is the second half of a surrogate pair. -/
def isLow (u : Nat) : Bool := 0xDC00 ≤ u && u < 0xE000

/-- The characters of a row of units, behind those already found, newest first.
There are none for half of a pair. -/
def join? (done : List Char) : List Nat → Option (List Char)
  | [] => some done.reverse
  | u :: rest =>
      if isHigh u then
        match rest with
        | v :: rest =>
            if isLow v then
              join? (Char.ofNat (0x10000 + (u - 0xD800) * 0x400 + (v - 0xDC00)) :: done) rest
            else none
        | [] => none
      else if isLow u then none
      else join? (Char.ofNat u :: done) rest

/-- A quoted text behind its opening quote, as a token and what follows it. -/
def quotedToken? (cs : List Char) : Option (Token × List Char) :=
  (units? [] cs).map fun (units, rest) =>
    (.text ((join? [] units.reverse).map String.ofList), rest)

/-! ## The other tokens -/

/-- Whether a character separates tokens. -/
def isBlank (c : Char) : Bool := c = ' ' || c = '\t' || c = '\n' || c = '\r'

/-- The token of a single mark. -/
def mark? (c : Char) : Option Token :=
  match c with
  | '[' => some .openArray
  | ']' => some .closeArray
  | '{' => some .openObject
  | '}' => some .closeObject
  | ',' => some .comma
  | ':' => some .colon
  | _ => none

/-- A word, as a token and what follows it. -/
def word? : List Char → Option (Token × List Char)
  | 'n' :: 'u' :: 'l' :: 'l' :: rest => some (.null, rest)
  | 't' :: 'r' :: 'u' :: 'e' :: rest => some (.bool true, rest)
  | 'f' :: 'a' :: 'l' :: 's' :: 'e' :: rest => some (.bool false, rest)
  | _ => none

/-- A numeral, as a token and what follows it. -/
def numeralToken? (cs : List Char) : Option (Token × List Char) :=
  (Numeral.read? (cs.takeWhile Numeral.isPart)).map fun n =>
    (.number n.number?, cs.dropWhile Numeral.isPart)

/-- The first token of a text that starts with the given character, and what follows it. -/
def token? (c : Char) (rest : List Char) : Option (Token × List Char) :=
  match mark? c with
  | some mark => some (mark, rest)
  | none =>
      if c = '"' then quotedToken? rest
      else if Numeral.isPart c && c ≠ 'e' && c ≠ 'E' then numeralToken? (c :: rest)
      else word? (c :: rest)

/-! ## A token takes at least one character -/

theorem units?_length {done : List Nat} {cs : List Char} {found : List Nat × List Char}
    (h : units? done cs = some found) : found.2.length < cs.length := by
  fun_induction units? done cs <;> grind

theorem word?_length {cs : List Char} {found : Token × List Char} (h : word? cs = some found) :
    found.2.length < cs.length := by
  fun_cases word? cs <;> grind [word?]

theorem token?_length {c : Char} {rest : List Char} {found : Token × List Char}
    (h : token? c rest = some found) : found.2.length ≤ rest.length := by
  unfold token? at h
  split at h
  case h_1 => cases h; exact Nat.le_refl _
  case h_2 =>
    split at h
    case isTrue =>
      obtain ⟨u, hu, rfl⟩ := Option.map_eq_some_iff.1 h
      exact Nat.le_of_lt (units?_length hu)
    case isFalse =>
      split at h
      case isTrue hc =>
        obtain ⟨n, -, rfl⟩ := Option.map_eq_some_iff.1 h
        have hp : Numeral.isPart c = true := by simp_all
        simpa [hp] using (List.dropWhile_suffix Numeral.isPart (l := rest)).length_le
      case isFalse => exact Nat.le_of_lt_succ (word?_length h)

/-! ## The whole text -/

/-- The tokens of a text. -/
def tokens? : List Char → Option (List Token)
  | [] => some []
  | c :: rest =>
      if isBlank c then tokens? rest
      else
        match _taken : token? c rest with
        | none => none
        | some (token, after) => (tokens? after).map (token :: ·)
termination_by cs => cs.length
decreasing_by
  · simp
  · have : after.length ≤ rest.length := token?_length _taken
    simp only [List.length_cons]
    omega

end Reminders.Json
