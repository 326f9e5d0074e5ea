/-!
# Binary floating-point numbers

A *double* is a sign and a magnitude `mantissa * 2 ^ exponent`, with a mantissa
below `2 ^ 53` and an exponent from `-1074` to `971`.  A magnitude is in normal
form when its mantissa has 53 bits, or when its exponent is the least one.
There are no infinities and no values that are not numbers.

`nearest?` rounds a ratio of natural numbers to the nearest magnitude, a tie to
the even mantissa.  It refuses a ratio beyond the greatest magnitude.

`ofDecimal?` reads `significand * 10 ^ exponent`.  The significand is rounded
first.  It is then multiplied or divided by the double of the power of ten and
rounded again.  Powers of ten are doubles up to `10 ^ 308`, so a smaller
exponent takes several divisions.
-/

namespace Reminders

/-- The magnitude of a double, `mantissa * 2 ^ exponent`. -/
structure Magnitude where
  /-- The bits, at most 53 of them. -/
  mantissa : Nat
  /-- The power of two they are multiplied by. -/
  exponent : Int
deriving Repr, DecidableEq, Inhabited

/-- A finite double. -/
structure Double where
  /-- Whether the number carries a minus sign.  Zero may carry one too. -/
  negative : Bool
  /-- The number without its sign. -/
  magnitude : Magnitude
deriving Repr, DecidableEq, Inhabited

namespace Magnitude

/-- The least exponent of a double. -/
def leastExponent : Int := -1074

/-- The greatest exponent of a double. -/
def greatestExponent : Int := 971

/-- The magnitude zero. -/
def zero : Magnitude := ⟨0, leastExponent⟩

/-- The numerator of a magnitude written as a ratio. -/
def numerator (m : Magnitude) : Nat := m.mantissa * Nat.pow 2 m.exponent.toNat

/-- The denominator of a magnitude written as a ratio. -/
def denominator (m : Magnitude) : Nat := Nat.pow 2 (-m.exponent).toNat

/-- A ratio divided and rounded to the nearest natural number, a tie to the even one. -/
def roundDiv (num den : Nat) : Nat :=
  let q := num / den
  let twice := 2 * (num % den)
  if twice < den ∨ (twice = den ∧ q % 2 = 0) then q else q + 1

/-- The ratio `num / den` in units of `2 ^ exponent`, as a numerator and a denominator. -/
def scaled (num den : Nat) (exponent : Int) : Nat × Nat :=
  (num * Nat.pow 2 (-exponent).toNat, den * Nat.pow 2 exponent.toNat)

/-- The exponent at which `num / den` has 53 bits before the point, or the least exponent. -/
def fittingExponent (num den : Nat) : Int :=
  let guess := max (Int.ofNat num.log2 - Int.ofNat den.log2 - 53) leastExponent
  let (n, d) := scaled num den guess
  if n / d < Nat.pow 2 53 then guess else guess + 1

/-- The magnitude nearest to `num / den`, if it is not beyond the greatest one. -/
def nearest? (num den : Nat) : Option Magnitude :=
  if num = 0 then some zero
  else
    let exponent := fittingExponent num den
    let (n, d) := scaled num den exponent
    let mantissa := roundDiv n d
    let rounded : Magnitude :=
      if mantissa < Nat.pow 2 53 then ⟨mantissa, exponent⟩ else ⟨Nat.pow 2 52, exponent + 1⟩
    if rounded.exponent ≤ greatestExponent then some rounded else none

/-- The double nearest to a power of ten. -/
def powerOfTen? (k : Nat) : Option Magnitude := nearest? (Nat.pow 10 k) 1

/-- The rounded product of two magnitudes. -/
def mul? (a b : Magnitude) : Option Magnitude :=
  nearest? (a.numerator * b.numerator) (a.denominator * b.denominator)

/-- The rounded quotient of two magnitudes. -/
def div? (a b : Magnitude) : Option Magnitude :=
  nearest? (a.numerator * b.denominator) (a.denominator * b.numerator)

/-- The greatest power of ten that is a double. -/
def greatestPower : Nat := 308

/-- A magnitude divided `count` times by the greatest power of ten.  Once zero
is reached nothing changes any more. -/
def shrink? : Nat → Magnitude → Option Magnitude
  | 0, m => some m
  | count + 1, m =>
      if m.mantissa = 0 then some m
      else ((powerOfTen? greatestPower).bind m.div?).bind (shrink? count)

/-- A magnitude times `10 ^ exponent`. -/
def scaleDecimal? (m : Magnitude) (exponent : Int) : Option Magnitude :=
  if 0 ≤ exponent then
    if exponent ≤ greatestPower then (powerOfTen? exponent.toNat).bind m.mul?
    else if m.mantissa = 0 then some m
    else none
  else
    let power := exponent.natAbs
    let count := (power - 1) / greatestPower
    (shrink? count m).bind fun smaller =>
      (powerOfTen? (power - count * greatestPower)).bind smaller.div?

/-- The magnitude read from `significand * 10 ^ exponent`. -/
def ofDecimal? (significand : Nat) (exponent : Int) : Option Magnitude :=
  (nearest? significand 1).bind fun m => scaleDecimal? m exponent

end Magnitude

end Reminders
