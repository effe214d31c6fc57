/-!
# Binary floating point

Numbers with a fraction are kept in the precision of 64-bit binary floating point, as exact
integers: a mantissa below 2^53 and a power of two. `ofDecimal` rounds a decimal number to the
nearest such number, a tie to the even mantissa.
-/

set_option autoImplicit false

namespace Preflight

/-- A 64-bit binary floating-point number. -/
inductive Binary
  /-- `mantissa · 2 ^ exponent` with its sign; zero has a sign, too. -/
  | finite (negative : Bool) (mantissa : Nat) (exponent : Int)
  | infinite (negative : Bool)
  | notANumber
  deriving Repr, DecidableEq

namespace Binary

/-- A power of two. -/
def twoTo (n : Nat) : Nat := Nat.pow 2 n

/-- A power of ten. -/
def tenTo (n : Nat) : Nat := Nat.pow 10 n

/-- The least exponent, that of the numbers nearest to zero. -/
def minExponent : Int := -1074

/-- The quotient rounded to the nearest integer, a tie to the even one. -/
def roundDiv (num den : Nat) : Nat :=
  let low := num / den
  let twice := 2 * (num % den)
  if twice < den then low else if den < twice then low + 1 else low + low % 2

/-- The fraction `num / den` as mantissas and exponents see it: numerator and denominator after a
division by `2 ^ exponent`. -/
def scaled (num den : Nat) (exponent : Int) : Nat × Nat :=
  if 0 ≤ exponent then (num, den * twoTo exponent.toNat) else (num * twoTo (-exponent).toNat, den)

/-- The exponent at which the fraction has a mantissa of 53 bits, or the least one. -/
def exponentOf (num den : Nat) : Int :=
  let guess : Int := Int.ofNat num.log2 - Int.ofNat den.log2 - 52
  let (n, d) := scaled num den guess
  max minExponent (if n < twoTo 52 * d then guess - 1 else guess)

/-- The number nearest to the positive fraction `num / den`. -/
def ofFraction (negative : Bool) (num den : Nat) : Binary :=
  let exponent := exponentOf num den
  let (n, d) := scaled num den exponent
  let mantissa := roundDiv n d
  let (mantissa, exponent) :=
    if mantissa = twoTo 53 then (twoTo 52, exponent + 1) else (mantissa, exponent)
  if exponent > 971 then .infinite negative else .finite negative mantissa exponent

/-- The number nearest to `digits · 10 ^ power`. A power that takes the value out of the range is
answered without computing it. -/
def ofDecimal (negative : Bool) (digits : Nat) (power : Int) : Binary :=
  if digits = 0 then .finite negative 0 minExponent
  else if power ≥ 310 then .infinite negative
  else if Int.ofNat digits.log2 + 1 + 3 * power < -1080 then .finite negative 0 minExponent
  else if 0 ≤ power then ofFraction negative (digits * tenTo power.toNat) 1
  else ofFraction negative digits (tenTo (-power).toNat)

/-- The number is zero, of either sign. -/
def isZero : Binary → Bool
  | .finite _ 0 _ => true
  | _ => false

/-- The number `mantissa · 2 ^ exponent` as numerator and denominator. -/
def ratio (mantissa : Nat) (exponent : Int) : Nat × Nat :=
  if 0 ≤ exponent then (mantissa * twoTo exponent.toNat, 1)
  else (mantissa, twoTo (-exponent).toNat)

/-- The integer that the number is, if it is one. -/
def toInt? : Binary → Option Int
  | .finite negative mantissa exponent =>
    let size : Option Nat :=
      if 0 ≤ exponent then some (mantissa * twoTo exponent.toNat)
      else
        let unit := twoTo (-exponent).toNat
        if mantissa % unit = 0 then some (mantissa / unit) else none
    size.map fun n => if negative then -(n : Int) else n
  | _ => none

end Binary

end Preflight
