import Preflight.Text.Lowercase
import Preflight.Text.Part

/-!
# Durations

Durations are counted in seconds. A month has thirty days and a year three hundred and sixty-five.
`Duration.unit` gives the length of a named unit, `Duration.format` writes a duration in the
largest unit that it fills.
-/

set_option autoImplicit false

namespace Preflight.Duration

/-- Seconds of a minute. -/
def minute : Nat := 60
/-- Seconds of an hour. -/
def hour : Nat := 60 * minute
/-- Seconds of a day. -/
def day : Nat := 24 * hour
/-- Seconds of a week. -/
def week : Nat := 7 * day
/-- Seconds of a month. -/
def month : Nat := 30 * day
/-- Seconds of a year. -/
def year : Nat := 365 * day

/-- A unit: the word that names it anywhere in a text, and its short names. -/
structure UnitName where
  word : Option String
  short : List String
  seconds : Nat
  deriving Repr, DecidableEq

/-- The units from the longest to the shortest. A bare `m` is a month. -/
def units : List UnitName :=
  [⟨some "year", ["y", "yr", "yrs"], year⟩,
   ⟨some "month", ["m", "mo", "mon", "mos"], month⟩,
   ⟨some "week", ["w", "wk", "wks"], week⟩,
   ⟨some "day", ["d"], day⟩,
   ⟨some "hour", ["h", "hr", "hrs"], hour⟩,
   ⟨some "min", [], minute⟩]

/-- The text, in lower case, names the unit. -/
def UnitName.isNamedBy (u : UnitName) (text : String) : Bool :=
  u.word.any (Text.mentions · text) || u.short.contains text

/-- The seconds of the first unit that the text names in any case; one if it names none. -/
def unit (text : String) : Nat :=
  match units.find? (·.isNamedBy (Text.lower text)) with
  | some u => u.seconds
  | none => 1

/-- The units in which a duration is written: a duration below the bound is written so. -/
def scale : List (Nat × Nat × String) :=
  [(minute, 1, " seconds"), (hour, minute, " minutes"), (day, hour, " hours"),
   (month, day, " days"), (year, month, " months")]

/-- The duration in the largest unit that it fills, rounded down. -/
def format (seconds : Int) : String :=
  match scale.find? fun (bound, _) => seconds < bound with
  | some (_, length, name) => toString (Int.fdiv seconds length) ++ name
  | none => toString (Int.fdiv seconds year) ++ " years"

end Preflight.Duration
