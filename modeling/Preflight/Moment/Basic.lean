import Preflight.Text.Digit

/-!
# Moments

A moment is a date and a time of day to the microsecond, with or without the zone in which it is
told. `Moment.ofChars?` reads the usual ways of writing one, `Moment.text` writes one way.
-/

set_option autoImplicit false

namespace Preflight

/-- A date and a time of day. -/
structure Moment where
  year : Nat
  month : Nat
  day : Nat
  hour : Nat := 0
  minute : Nat := 0
  second : Nat := 0
  micro : Nat := 0
  /-- The minutes by which the zone is ahead, where a zone is given. -/
  zone : Option Int := none
  deriving Repr, DecidableEq

namespace Moment

/-- A year with a leap day. -/
def isLeap (year : Nat) : Bool :=
  year % 4 == 0 && (year % 100 != 0 || year % 400 == 0)

/-- The number of days in a month. -/
def daysIn (year month : Nat) : Nat :=
  if month = 2 then (if isLeap year then 29 else 28)
  else if month = 4 || month = 6 || month = 9 || month = 11 then 30
  else 31

/-- The date and time exist; the year 0 counts as one. -/
def isValid (m : Moment) : Bool :=
  1 ≤ m.month && m.month ≤ 12 && 1 ≤ m.day && m.day ≤ daysIn m.year m.month &&
    m.hour ≤ 23 && m.minute ≤ 59 && m.second ≤ 59

/-! ## Writing -/

/-- A number with leading zeros up to the width. -/
def padded (width n : Nat) : String :=
  let digits := toString n
  String.ofList (List.replicate (width - digits.length) '0') ++ digits

/-- A zone as its distance in hours and minutes. -/
def zoneText (minutes : Int) : String :=
  (if minutes < 0 then "-" else "+") ++ padded 2 (minutes.natAbs / 60) ++ ":" ++
    padded 2 (minutes.natAbs % 60)

/-- The moment as text; microseconds are written if there are any. -/
def text (m : Moment) : String :=
  padded 4 m.year ++ "-" ++ padded 2 m.month ++ "-" ++ padded 2 m.day ++ "T" ++
    padded 2 m.hour ++ ":" ++ padded 2 m.minute ++ ":" ++ padded 2 m.second ++
    (if m.micro = 0 then "" else "." ++ padded 6 m.micro) ++ (m.zone.elim "" zoneText)

/-! ## Reading -/

/-- A number of exactly so many digits at the start, and what follows. -/
def digits? (count : Nat) (chars : List Char) : Option (Nat × List Char) :=
  let digits := chars.take count
  if digits.length = count && digits.all Text.isAsciiDigit then
    some (Text.numeral digits, chars.drop count)
  else none

/-- What follows a character at the start. -/
def after? (expected : Char → Bool) : List Char → Option (List Char)
  | c :: rest => if expected c then some rest else none
  | [] => none

/-- A date, and what follows it. -/
def date? (chars : List Char) : Option (Moment × List Char) := do
  let (year, chars) ← digits? 4 chars
  let (month, chars) ← digits? 2 (← after? (· == '-') chars)
  let (day, chars) ← digits? 2 (← after? (· == '-') chars)
  return ({ year, month, day }, chars)

/-- Seconds with a fraction, both of which may be missing: the fraction in microseconds, and what
follows. Places after the sixth are dropped. -/
def seconds? (chars : List Char) : Option (Nat × Nat × List Char) :=
  match chars with
  | ':' :: chars => do
    let (second, chars) ← digits? 2 chars
    match chars with
    | c :: fraction =>
      if c == '.' || c == ',' then
        let places := fraction.takeWhile Text.isAsciiDigit
        if places.isEmpty then none
        else
          let micro := Text.numeral ((places ++ List.replicate 6 '0').take 6)
          return (second, micro, fraction.dropWhile Text.isAsciiDigit)
      else return (second, 0, chars)
    | [] => return (second, 0, [])
  | _ => some (0, 0, chars)

/-- A zone at the end, which may be missing. -/
def zone? : List Char → Option (Option Int)
  | [] => some none
  | [c] => if c == 'Z' || c == 'z' then some (some 0) else none
  | sign :: chars => do
    let (hours, chars) ← digits? 2 chars
    let (minutes, chars) ← digits? 2 (match chars with | ':' :: chars => chars | _ => chars)
    if chars.isEmpty && hours ≤ 23 && minutes ≤ 59 then
      let distance : Int := hours * 60 + minutes
      if sign == '+' then some (some distance)
      else if sign == '-' || sign == '\u2212' then some (some (-distance))
      else none
    else none

/-- The moment that the characters write: a date, which stands for its midnight, or a date and a
time with or without a zone. -/
def ofChars? (chars : List Char) : Option Moment := do
  let (date, chars) ← date? chars
  let moment ← match chars with
    | [] => some date
    | c :: chars =>
      if c == 'T' || c == 't' || c == ' ' || c == '_' then do
        let (hour, chars) ← digits? 2 chars
        let (minute, chars) ← digits? 2 (← after? (· == ':') chars)
        let (second, micro, chars) ← seconds? chars
        let zone ← zone? chars
        some { date with hour, minute, second, micro, zone }
      else none
  if moment.isValid then some moment else none

end Moment

end Preflight
