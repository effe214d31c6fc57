import Preflight.Decimal.Binary
import Preflight.Moment.Basic

/-!
# Moments by counting

A moment may also be given as a count of seconds from the start of 1970 in the zone of Greenwich, or
of milliseconds if the count is large. Moments of the years 0 to 9999 can be given so.
-/

set_option autoImplicit false

namespace Preflight.Moment

/-! ## Days and seconds -/

/-- The date so many days after the first of January of the year 0. The years are counted from March
of 400 years earlier, so that a leap day is the last day of its year; 153 days are the five months
from March to July, and those from August to December. -/
def ofDay (day : Nat) : Moment :=
  let shifted := day + 146097 - 60
  let inEra := shifted % 146097
  let yearOfEra := (inEra - inEra / 1460 + inEra / 36524 - inEra / 146096) / 365
  let inYear := inEra - (365 * yearOfEra + yearOfEra / 4 - yearOfEra / 100)
  let march := (5 * inYear + 2) / 153
  let year := yearOfEra + shifted / 146097 * 400
  { year := (if march < 10 then year else year + 1) - 400
    month := if march < 10 then march + 3 else march - 9
    day := inYear - (153 * march + 2) / 5 + 1 }

/-- The seconds from the start of the year 0 to the start of 1970. -/
def secondsBefore1970 : Nat := 62167219200

/-- The seconds from the start of the year 0 to the end of the year 9999. -/
def secondsInAll : Nat := 315569520000

/-- The moment so many seconds and microseconds after the start of 1970. -/
def ofSeconds? (seconds : Int) (micro : Nat) : Option Moment :=
  let count := seconds + (micro / 1000000 : Nat) + secondsBefore1970
  if 0 ≤ count && count < secondsInAll then
    let second := count.toNat % 86400
    some
      { ofDay (count.toNat / 86400) with
        hour := second / 3600
        minute := second / 60 % 60
        second := second % 60
        micro := micro % 1000000
        zone := some 0 }
  else none

/-- The largest count that counts seconds. -/
def mostSeconds : Nat := 20000000000

/-- The moment that a whole count and microseconds beside it give. -/
def ofCount? (count : Int) (micro : Nat) : Option Moment :=
  if count.natAbs ≤ mostSeconds then ofSeconds? count micro
  else ofSeconds? (count / 1000) (micro + (count % 1000).toNat * 1000)

/-! ## Counts with a fraction -/

/-- The microseconds in a fraction of a second, to the nearest, a half upwards. The product with a
million is rounded to the precision of binary numbers first. -/
def microseconds (num den : Nat) : Nat :=
  if num = 0 then 0
  else
    match Binary.ofFraction false (num * 1000000) den with
    | .finite _ mantissa exponent =>
      let (num, den) := Binary.ratio mantissa exponent
      (2 * num + den) / (2 * den)
    | _ => 0

/-- The moment that a number gives: its floor is the count, and the distance from there is a part of
a second, also where the count is of milliseconds. The distance is rounded to the precision of binary
numbers. -/
def ofNumber? : Binary → Option Moment
  | .finite negative mantissa exponent =>
    let (num, den) := Binary.ratio mantissa exponent
    let signed : Int := if negative then -(num : Int) else num
    let rest := (signed % (den : Int)).toNat
    let micro :=
      if rest = 0 then 0
      else
        match Binary.ofFraction false rest den with
        | .finite _ mantissa exponent =>
          let (num, den) := Binary.ratio mantissa exponent
          microseconds num den
        | _ => 0
    ofCount? (signed / (den : Int)) micro
  | _ => none

/-- The moment that a number of seconds gives, or of milliseconds with their fraction if it is
large. -/
def ofScaled? : Binary → Option Moment
  | .finite negative mantissa exponent =>
    let (num, den) := Binary.ratio mantissa exponent
    ofNumber? <|
      if mostSeconds * den < num then Binary.ofFraction negative num (den * 1000)
      else .finite negative mantissa exponent
  | _ => none

/-- The moment that a text gives as a count: digits, with a sign in front or not, and with a point
and more digits behind them or not. -/
def ofNumeral? (chars : List Char) : Option Moment :=
  let (negative, digits) :=
    match chars with
    | '-' :: digits => (true, digits)
    | '+' :: digits => (false, digits)
    | _ => (false, chars)
  let whole := digits.takeWhile Text.isAsciiDigit
  if whole.isEmpty then none
  else
    match digits.dropWhile Text.isAsciiDigit with
    | [] =>
      let count : Int := Text.numeral whole
      ofCount? (if negative then -count else count) 0
    | '.' :: places =>
      if places.all Text.isAsciiDigit then
        ofScaled? (Binary.ofDecimal negative (Text.numeral (whole ++ places)) (-places.length))
      else none
    | _ => none

end Preflight.Moment
