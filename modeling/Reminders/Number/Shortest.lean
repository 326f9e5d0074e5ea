import Reminders.Number.Double
import Reminders.Text.Decimal

/-!
# The shortest text of a double

A double is written with the fewest decimal digits that read back to it.  The
numbers that round to a magnitude form an interval around it.  For one digit,
two digits and so on, the two neighbours of the magnitude with that many digits
are tried.  The first that lie in the interval win, and of two the nearer, or the
even one if they are equally near.

`Double.chars` lays the digits out.  With the point after the first digit, an
exponent from -5 to 15 is written out, and the text then always has a point.
Any other exponent is written behind an `e`, with a sign.
-/

namespace Reminders

/-- The decimal number `value * 10 ^ place`. -/
structure Scaled where
  /-- The digits as one number. -/
  value : Nat
  /-- The power of ten of the last digit. -/
  place : Int
deriving Repr, DecidableEq

namespace Magnitude

/-- The lower end of the interval of numbers that round to the magnitude, the
magnitude itself and the upper end, in units of a quarter of the last bit. -/
def interval (m : Magnitude) : Nat × Nat × Nat :=
  let v := 4 * m.mantissa
  let below := if m.mantissa = Nat.pow 2 52 ∧ m.exponent ≠ leastExponent then 1 else 2
  (v - below, v, v + 2)

/-- The least `k` with `num / den < 10 ^ k`, for a ratio in the range of the doubles. -/
def decimalPoint (num den : Nat) : Int :=
  match (List.range 700).find? fun i => num * Nat.pow 10 330 < den * Nat.pow 10 i with
  | some i => Int.ofNat i - 330
  | none => 370

/-- Twice the distance of two naturals, used to compare which is nearer. -/
def distance (a b : Nat) : Nat := (a - b) + (b - a)

/-- The best number with `count` digits that reads back to the magnitude, if any does. -/
def withDigits? (m : Magnitude) (point : Int) (count : Nat) : Option Scaled :=
  let (low, v, high) := m.interval
  let unit := m.exponent - 2
  let place := point - Int.ofNat count
  -- Everything is compared as integers over one common denominator.
  let up := Nat.pow 2 unit.toNat * Nat.pow 10 (-place).toNat
  let down := Nat.pow 2 (-unit).toNat * Nat.pow 10 place.toNat
  let inside (d : Nat) : Bool :=
    if m.mantissa % 2 = 0 then low * up ≤ d * down && d * down ≤ high * up
    else low * up < d * down && d * down < high * up
  let floor := v * up / down
  let ceiling := floor + 1
  match inside floor, inside ceiling with
  | true, true =>
      let below := distance (floor * down) (v * up)
      let above := distance (ceiling * down) (v * up)
      if below < above ∨ (below = above ∧ floor % 2 = 0) then some ⟨floor, place⟩
      else some ⟨ceiling, place⟩
  | true, false => some ⟨floor, place⟩
  | false, true => some ⟨ceiling, place⟩
  | false, false => none

/-- The fewest digits that read back to a magnitude other than zero, and how many
places the point stands behind the start of them. -/
def shortest (m : Magnitude) : List Char × Int :=
  let point := decimalPoint m.numerator m.denominator
  match (List.range' 1 17).findSome? (m.withDigits? point) with
  | none => (Text.digits m.mantissa, point)
  | some found =>
      let ds := Text.digits found.value
      ((ds.reverse.dropWhile (· = '0')).reverse, found.place + Int.ofNat ds.length)

end Magnitude

namespace Double

/-- The layout of digits with the point `point` places after the start. -/
def layout (ds : List Char) (point : Int) : List Char :=
  let exponent := point - 1
  if exponent < -5 ∨ 16 ≤ exponent then
    let fraction := match ds with
      | first :: [] => [first]
      | first :: rest => first :: '.' :: rest
      | [] => []
    let sign := if exponent < 0 then '-' else '+'
    fraction ++ 'e' :: sign :: Text.digits exponent.natAbs
  else if point ≤ 0 then '0' :: '.' :: List.replicate (-point).toNat '0' ++ ds
  else
    let whole := point.toNat
    let zeros := List.replicate (whole - ds.length) '0'
    let fraction := ds.drop whole
    ds.take whole ++ zeros ++ '.' :: (if fraction.isEmpty then ['0'] else fraction)

/-- The characters of a double. -/
def chars (d : Double) : List Char :=
  let body :=
    if d.magnitude.mantissa = 0 then ['0', '.', '0']
    else
      let (ds, point) := d.magnitude.shortest
      layout ds point
  if d.negative then '-' :: body else body

end Double

end Reminders
