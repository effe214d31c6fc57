import Preflight.Duration
import Preflight.Failure
import Preflight.Pattern.Basic

/-!
# Token expiry

A setting such as `expiresIn: '7d'` says how long a token lives: a number, and a unit or seconds.
Of the forms of a setting the first that occurs anywhere in the text decides, at its first place.
-/

set_option autoImplicit false

namespace Preflight.Source

open Pattern

/-- A letter of the Latin alphabet in any case, with the four letters that fold to one. -/
def isUnitLetter (c : Char) : Bool :=
  c.isAlpha || c == '\u0130' || c == '\u0131' || c == '\u017f' || c == '\u212a'

/-- The name of a setting and its number. -/
def expirySetting (name : String) : Pattern :=
  wordAnyCase name ++ blanks ++ one (fun c => c == ':' || c == '=') ++ blanks ++
    optional (one isQuote) ++ keep (runOne Text.isDigit)

/-- The name of a setting, its number and its unit. -/
def expirySettingWithUnit (name : String) : Pattern :=
  expirySetting name ++ run (fun c => c == ' ' || c == '\t') ++ keep (runOne isUnitLetter) ++
    optional (one isQuote)

/-- The forms of a setting; an earlier form is preferred wherever it stands. -/
def expiryForms : List Pattern :=
  [expirySettingWithUnit "expiresIn", expirySetting "expiresIn",
   expirySettingWithUnit "JWT_EXPIRY", expirySetting "JWT_EXPIRY"]

/-- The number that digits write, unless there are too many of them. -/
def readNumeral (digits : List Char) : Except Failure Nat :=
  if digits.length > 4300 then .error (.tooManyDigits digits.length)
  else .ok (Text.numeral digits)

/-- The seconds that a kept number and unit stand for; a number alone counts seconds. -/
def expirySeconds : List (List Char) → Except Failure Nat
  | [] => .ok 0
  | [digits] => readNumeral digits
  | digits :: unit :: _ => (readNumeral digits).map (· * Duration.unit (String.ofList unit))

/-- The token expiry that the text sets, in seconds. -/
def expiry? (code : String) : Except Failure (Option Nat) :=
  match expiryForms.findSome? (·.find? code.toList) with
  | some found => (expirySeconds found.kept).map some
  | none => .ok none

end Preflight.Source
