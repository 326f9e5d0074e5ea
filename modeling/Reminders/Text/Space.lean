/-!
# White space

The characters that count as white space are those of the Unicode property
`White_Space`: the ASCII blanks and control blanks, U+0085, U+00A0, U+1680,
U+2000 to U+200A, U+2028, U+2029, U+202F, U+205F and U+3000.  The zero width
characters and the ASCII separators U+001C to U+001F are not among them.

`trim` drops white space from both ends of a text.  A text is *blank* when it
has no other character, and `trim_eq_empty_iff` says that these are the texts
of which `trim` leaves nothing.
-/

namespace Reminders.Text

/-- Whether a character is white space. -/
def isSpace (c : Char) : Bool :=
  let n := c.toNat
  (9 ≤ n && n ≤ 13) || n == 0x20 || n == 0x85 || n == 0xA0 || n == 0x1680 ||
    (0x2000 ≤ n && n ≤ 0x200A) || n == 0x2028 || n == 0x2029 || n == 0x202F ||
    n == 0x205F || n == 0x3000

/-- The characters after the leading white space. -/
def skipSpace (cs : List Char) : List Char := cs.dropWhile isSpace

/-- The characters without the white space at either end. -/
def trimChars (cs : List Char) : List Char := (skipSpace (skipSpace cs).reverse).reverse

/-- A text without the white space at either end. -/
def trim (s : String) : String := String.ofList (trimChars s.toList)

/-- Whether a text holds nothing but white space. -/
def isBlank (s : String) : Bool := s.toList.all isSpace

theorem skipSpace_eq_nil_iff (cs : List Char) : skipSpace cs = [] ↔ cs.all isSpace := by
  induction cs with
  | nil => simp [skipSpace]
  | cons c rest ih =>
    by_cases hc : isSpace c
    · have hskip : skipSpace (c :: rest) = skipSpace rest := by simp [skipSpace, hc]
      rw [hskip, ih, List.all_cons, hc, Bool.true_and]
    · simp [skipSpace, hc]

theorem trimChars_eq_nil_iff (cs : List Char) : trimChars cs = [] ↔ cs.all isSpace := by
  rw [trimChars, List.reverse_eq_nil_iff, skipSpace_eq_nil_iff, List.all_reverse]
  induction cs with
  | nil => simp [skipSpace]
  | cons c rest ih =>
    by_cases hc : isSpace c
    · simpa [skipSpace, hc] using ih
    · simp [skipSpace, hc]

theorem trim_eq_empty_iff (s : String) : trim s = "" ↔ isBlank s := by
  rw [← String.toList_inj]
  simp [trim, isBlank, trimChars_eq_nil_iff]

end Reminders.Text
