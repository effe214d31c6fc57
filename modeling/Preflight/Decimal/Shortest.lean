import Preflight.Decimal.Binary

/-!
# Shortest decimals

The shortest decimal number that reads back as a given binary number, and of those the nearest.
The reals that round to `mantissa · 2 ^ exponent` form an interval; the ends belong to it exactly
when the mantissa is even. On each decimal grid, coarse ones first, only the two neighbours of the
number have to be tried.
-/

set_option autoImplicit false

namespace Preflight.Decimal

open Binary (twoTo tenTo)

/-- A positive decimal number `digits · 10 ^ power`. -/
structure Numeral where
  digits : Nat
  power : Int
  deriving Repr, DecidableEq

/-- A number and the ends of the interval that rounds to it, over one denominator. -/
structure Interval where
  low : Nat
  value : Nat
  high : Nat
  denominator : Nat
  closed : Bool

/-- The interval of the reals that round to `mantissa · 2 ^ exponent`. Below a power of two the
neighbour is half as far as above it. -/
def Interval.of (mantissa : Nat) (exponent : Int) : Interval :=
  let up := twoTo (exponent - 2).toNat
  let nearBelow := mantissa = twoTo 52 && Binary.minExponent < exponent
  { low := (if nearBelow then 4 * mantissa - 1 else 4 * mantissa - 2) * up
    value := 4 * mantissa * up
    high := (4 * mantissa + 2) * up
    denominator := twoTo (2 - exponent).toNat
    closed := mantissa % 2 = 0 }

/-- The decimal number `digits · 10 ^ power` and an end of an interval over one denominator. -/
def Interval.sides (i : Interval) (digits : Nat) (power : Int) (edge : Nat) : Nat × Nat :=
  (digits * tenTo power.toNat * i.denominator, edge * tenTo (-power).toNat)

/-- The decimal number is in the interval. -/
def Interval.holds (i : Interval) (digits : Nat) (power : Int) : Bool :=
  let (a, low) := i.sides digits power i.low
  let (b, high) := i.sides digits power i.high
  if i.closed then low ≤ a && b ≤ high else low < a && b < high

/-- The number in the interval on the grid of `10 ^ power` that is nearest to the value; of two
equally near ones the even one. -/
def Interval.onGrid (i : Interval) (power : Int) : Option Numeral :=
  let num := i.value * tenTo (-power).toNat
  let den := tenTo power.toNat * i.denominator
  let below := num / den
  let nearest := Binary.roundDiv num den
  let other := if nearest = below then below + 1 else below
  if i.holds nearest power then some ⟨nearest, power⟩
  else if i.holds other power then some ⟨other, power⟩
  else none

/-- The shortest decimal number in the interval of `mantissa · 2 ^ exponent`. The coarsest grid
tried is above the number, and seventeen digits always suffice. -/
def shortest (mantissa : Nat) (exponent : Int) : Numeral :=
  let i := Interval.of mantissa exponent
  let top := Int.fdiv ((Int.ofNat mantissa.log2 + exponent) * 30103) 100000 + 2
  ((List.range 24).findSome? fun (step : Nat) => i.onGrid (top - step)).getD ⟨mantissa, exponent⟩

/-- How a number with a fraction is written. -/
structure Style where
  /-- The place of the point from which on numbers are written with an exponent. -/
  lowPoint : Int
  /-- The last place of the point of a number written without an exponent. -/
  highPoint : Int
  /-- The least number of digits of an exponent. -/
  exponentDigits : Nat

/-- Digits with the point after the first `point` of them, zeros filled in. -/
def positional (digits : List Char) (point : Int) : List Char :=
  if point ≤ 0 then ['0', '.'] ++ List.replicate (-point).toNat '0' ++ digits
  else
    let n := point.toNat
    if digits.length ≤ n then digits ++ List.replicate (n - digits.length) '0' ++ ['.', '0']
    else digits.take n ++ ['.'] ++ digits.drop n

/-- Digits with the point after the first of them and an exponent. -/
def scientific (style : Style) (digits : List Char) (point : Int) : List Char :=
  let exponent := point - 1
  let size := (toString exponent.natAbs).toList
  digits.take 1 ++ (if digits.length > 1 then '.' :: digits.drop 1 else []) ++
    ['e', if exponent < 0 then '-' else '+'] ++
    List.replicate (style.exponentDigits - size.length) '0' ++ size

/-- The text of a positive decimal number in a style. -/
def Numeral.text (style : Style) (d : Numeral) : List Char :=
  let digits := (toString d.digits).toList
  let point := Int.ofNat digits.length + d.power
  if style.lowPoint < point ∧ point ≤ style.highPoint then positional digits point
  else scientific style digits point

/-- Numbers from a ten-thousandth up to ten to the sixteenth have no exponent, and an exponent has
two digits at least. -/
def plainStyle : Style := ⟨-4, 16, 2⟩

/-- The text of a number: the shortest digits that read back. -/
def text : Binary → List Char
  | .notANumber => "nan".toList
  | .infinite negative => (if negative then "-inf" else "inf").toList
  | .finite negative mantissa exponent =>
    (if negative then ['-'] else []) ++
      if mantissa = 0 then "0.0".toList else (shortest mantissa exponent).text plainStyle

end Preflight.Decimal
