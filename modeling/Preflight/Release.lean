import Preflight.Failure
import Preflight.Text.Digit

/-!
# Release numbers

A release number is a list of numbers, compared number by number with zeros filled in at the end.
`Release.declared?` finds the first one in a version range such as `^4.16.0`, which is the lowest
version that the range admits.
-/

set_option autoImplicit false

namespace Preflight

/-- A release number, the most significant part first. -/
structure Release where
  parts : List Nat
  deriving Repr, DecidableEq

namespace Release

/-- Points between the parts. -/
def text (r : Release) : String :=
  String.intercalate "." (r.parts.map toString)

/-- The first list comes before the second when zeros are filled in at the end of either. -/
def partsBefore : List Nat → List Nat → Bool
  | [], [] => false
  | [], b :: bs => 0 < b || partsBefore [] bs
  | _ :: _, [] => false
  | a :: as, b :: bs => a < b || (a == b && partsBefore as bs)

/-- The release is older than the other. -/
def isBefore (r other : Release) : Bool :=
  partsBefore r.parts other.parts

/-- The digits of the parts of a release number at the start of a text: runs of digits with single
points between them. -/
def digitRuns : (bound : Nat) → List Char → List (List Char)
  | 0, _ => []
  | bound + 1, chars =>
    match chars.takeWhile Text.isDigit with
    | [] => []
    | digits =>
      match chars.dropWhile Text.isDigit with
      | '.' :: rest => digits :: digitRuns bound rest
      | _ => [digits]

/-- The numbers that the runs write, unless one of them is too long. -/
def readParts (runs : List (List Char)) : Except Failure (List Nat) :=
  runs.mapM fun digits =>
    if digits.length > 4300 then .error (.tooManyDigits digits.length)
    else .ok (Text.numeral digits)

/-- The first release number in a version range. A number in digits other than the ASCII ones is
no release number. -/
def declared? (spec : String) : Except Failure (Option Release) :=
  let chars := spec.toList.dropWhile (!Text.isDigit ·)
  match digitRuns chars.length chars with
  | [] => .ok none
  | runs =>
    if runs.all (·.all Text.isAsciiDigit) then (readParts runs).map (some ⟨·⟩) else .ok none

end Release

end Preflight
