import Reminders.Json.Value
import Reminders.Text.Decimal

/-!
# Numerals

A numeral of a JSON text has an optional minus sign, digits without a leading
zero, an optional fraction and an optional power of ten.

A numeral without fraction and power is an integer if it fits into 64 bits: a
positive one without a sign bit, a negative one with it.  Minus zero is not an
integer.  Every other numeral is a double.  Its digits are taken into a
significand of 64 bits.  The digits of the whole part that no longer fit count
as powers of ten, and the digits of the fraction from the first that does not
fit are dropped.
-/

namespace Reminders

/-- The parts of a numeral. -/
structure Numeral where
  /-- Whether a minus sign stands in front. -/
  negative : Bool
  /-- The digits before the point. -/
  whole : List Char
  /-- The digits behind the point, if there is one. -/
  fraction : Option (List Char)
  /-- The power of ten, if one is given. -/
  power : Option Int
deriving Repr, DecidableEq

namespace Numeral

/-! ## The grammar -/

/-- Whether a character may stand in a numeral. -/
def isPart (c : Char) : Bool := c.isDigit || "+-.eE".toList.contains c

/-- The power of ten written behind an `e`. -/
def power? : List Char → Option Int
  | '+' :: rest => (Text.digits? rest).map Int.ofNat
  | '-' :: rest => (Text.digits? rest).map fun n => -Int.ofNat n
  | cs => (Text.digits? cs).map Int.ofNat

/-- The numeral with what stands behind its fraction, if that is a power or nothing. -/
def withPower? (n : Numeral) : List Char → Option Numeral
  | [] => some n
  | c :: rest =>
      if c = 'e' ∨ c = 'E' then (power? rest).map fun p => { n with power := some p } else none

/-- The numeral with what stands behind its whole part. -/
def withFraction? (n : Numeral) : List Char → Option Numeral
  | '.' :: rest =>
      let ds := rest.takeWhile Char.isDigit
      if ds.isEmpty then none
      else withPower? { n with fraction := some ds } (rest.dropWhile Char.isDigit)
  | cs => withPower? n cs

/-- The numeral that starts with the given sign and holds these characters. -/
def unsigned? (negative : Bool) (cs : List Char) : Option Numeral :=
  let ds := cs.takeWhile Char.isDigit
  if ds.isEmpty || (ds.head? == some '0' && ds.length > 1) then none
  else withFraction? ⟨negative, ds, none, none⟩ (cs.dropWhile Char.isDigit)

/-- The numeral that these characters are. -/
def read? : List Char → Option Numeral
  | '-' :: rest => unsigned? true rest
  | cs => unsigned? false cs

/-! ## The value -/

/-- The greatest significand. -/
def greatestSignificand : Nat := UInt64.size - 1

/-- Takes digits into a significand while they fit, and returns the rest. -/
def absorb (significand : Nat) : List Char → Nat × List Char
  | [] => (significand, [])
  | c :: rest =>
      let next := significand * 10 + Text.digitValue c
      if next ≤ greatestSignificand then absorb next rest else (significand, c :: rest)

/-- The magnitude of a numeral read as a double. -/
def magnitude? (n : Numeral) : Option Magnitude :=
  let (whole, beyond) := absorb 0 n.whole
  let fraction := n.fraction.getD []
  let (significand, dropped) := absorb whole fraction
  let taken := fraction.length - dropped.length
  let exponent := Int.ofNat beyond.length - Int.ofNat taken + n.power.getD 0
  Magnitude.ofDecimal? significand exponent

/-- The integer a numeral stands for, if it is written as one and fits. -/
def integer? (n : Numeral) : Option Int :=
  if n.fraction.isSome ∨ n.power.isSome then none
  else
    let value := Text.valueOf n.whole
    if n.negative then
      if 0 < value ∧ value ≤ Nat.pow 2 63 then some (-Int.ofNat value) else none
    else if value ≤ greatestSignificand then some (Int.ofNat value)
    else none

/-- The number a numeral stands for, if it is not beyond the doubles. -/
def number? (n : Numeral) : Option Number :=
  match n.integer? with
  | some value => some (.integer value)
  | none => n.magnitude?.map fun m => .double ⟨n.negative, m⟩

end Numeral

end Reminders
