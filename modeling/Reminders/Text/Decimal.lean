/-!
# Decimal numbers in texts

Numbers are written with the digits `0` to `9`, without a leading zero.
`decimal` writes an integer with a minus sign where it needs one, and `padded`
writes a natural number with zeros in front up to a width.

Reading takes ASCII digits alone, and at least one of them.  `natural?` reads a
natural number and allows a leading `+`.  `integer?` reads an integer and
allows one sign of either kind.  Leading zeros are allowed in both.
`valueOf_digits` says that the digits written for a number have that value.
-/

namespace Reminders.Text

/-! ## Digits -/

/-- The digit that stands for a number below ten. -/
def digit (n : Nat) : Char := Char.ofNat ('0'.toNat + n)

/-- The number a digit stands for. -/
def digitValue (c : Char) : Nat := c.toNat - '0'.toNat

/-- The decimal digits of a number. -/
def digits (n : Nat) : List Char :=
  if n < 10 then [digit n] else digits (n / 10) ++ [digit (n % 10)]

/-- The number a list of digits stands for. -/
def valueOf (cs : List Char) : Nat := cs.foldl (fun v c => v * 10 + digitValue c) 0

/-! ## Writing -/

/-- The digits of a number with zeros in front, at least `width` of them. -/
def padded (width n : Nat) : List Char :=
  let ds := digits n
  List.replicate (width - ds.length) '0' ++ ds

/-- The characters of an integer. -/
def decimalChars (n : Int) : List Char :=
  if n < 0 then '-' :: digits n.natAbs else digits n.natAbs

/-- An integer as a text. -/
def decimal (n : Int) : String := String.ofList (decimalChars n)

/-! ## Reading -/

/-- The number written by a nonempty list of digits. -/
def digits? (cs : List Char) : Option Nat :=
  if !cs.isEmpty && cs.all Char.isDigit then some (valueOf cs) else none

/-- The natural number a text holds, with an optional plus sign. -/
def natural? (s : String) : Option Nat :=
  match s.toList with
  | '+' :: rest => digits? rest
  | cs => digits? cs

/-- The integer a text holds, with an optional sign. -/
def integer? (s : String) : Option Int :=
  match s.toList with
  | '+' :: rest => (digits? rest).map Int.ofNat
  | '-' :: rest => (digits? rest).map fun n => -Int.ofNat n
  | cs => (digits? cs).map Int.ofNat

/-! ## What is written has the value it was written for -/

theorem digit_toNat {n : Nat} (h : n < 10) : (digit n).toNat = 48 + n := by
  have every : ∀ m ∈ List.range 10, (digit m).toNat = 48 + m := by decide
  exact every n (List.mem_range.2 h)

theorem digitValue_digit {n : Nat} (h : n < 10) : digitValue (digit n) = n := by
  rw [digitValue, digit_toNat h]
  exact Nat.add_sub_cancel_left 48 n

theorem isDigit_digit {n : Nat} (h : n < 10) : (digit n).isDigit = true := by
  have every : ∀ m ∈ List.range 10, (digit m).isDigit = true := by decide
  exact every n (List.mem_range.2 h)

theorem valueOf_append_digit (cs : List Char) {n : Nat} (h : n < 10) :
    valueOf (cs ++ [digit n]) = valueOf cs * 10 + n := by
  simp [valueOf, digitValue_digit h]

theorem valueOf_digits (n : Nat) : valueOf (digits n) = n := by
  induction n using Nat.strongRecOn with
  | ind n ih =>
    rw [digits]
    split
    case isTrue h => simpa [valueOf] using digitValue_digit h
    case isFalse h =>
      rw [valueOf_append_digit _ (Nat.mod_lt n (by decide)), ih (n / 10) (by omega)]
      omega

theorem digits_isDigit (n : Nat) : (digits n).all Char.isDigit = true := by
  induction n using Nat.strongRecOn with
  | ind n ih =>
    rw [digits]
    split
    case isTrue h => simpa using isDigit_digit h
    case isFalse h =>
      simp only [List.all_append, List.all_cons, List.all_nil, Bool.and_true, Bool.and_eq_true]
      exact ⟨ih (n / 10) (by omega), isDigit_digit (Nat.mod_lt n (by decide))⟩

theorem digits_ne_nil (n : Nat) : digits n ≠ [] := by
  rw [digits]
  split <;> simp

theorem digits?_digits (n : Nat) : digits? (digits n) = some n := by
  simp [digits?, digits_isDigit, digits_ne_nil, valueOf_digits]

end Reminders.Text
