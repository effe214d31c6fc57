import Preflight.Text.Blank
import Preflight.Text.Digit
import Preflight.Text.Part

/-!
# Kinds of values

What a value of an environment file can look like: an address for mail, a number, or a placeholder
that is filled in elsewhere.
-/

set_option autoImplicit false

namespace Preflight.Env

/-- The text without one line feed at its end. -/
def dropFinalFeed (chars : List Char) : List Char :=
  if chars.getLast? == some '\n' then chars.dropLast else chars

/-- A character of a part of a mail address. -/
def isMailChar (c : Char) : Bool := !Text.isBlank c && c != '@'

/-- The value is a mail address: a part, an at sign, and parts around a point, with no blank or
further at sign. A line feed at the end is passed over. -/
def isEmail (value : String) : Bool :=
  let chars := dropFinalFeed value.toList
  let name := chars.takeWhile (· != '@')
  match chars.dropWhile (· != '@') with
  | _ :: domain =>
    !name.isEmpty && name.all isMailChar && domain.all isMailChar &&
      (domain.drop 1).dropLast.contains '.'
  | [] => false

/-- The text without a sign in front. -/
def dropSign : List Char → List Char
  | '+' :: rest => rest
  | '-' :: rest => rest
  | chars => chars

/-- The value is a decimal number with a point or without, blanks around it apart. -/
def isNumber (value : String) : Bool :=
  let chars := dropSign (Text.stripChars value.toList)
  match chars.takeWhile Text.isDigit, chars.dropWhile Text.isDigit with
  | _ :: _, [] => true
  | _ :: _, '.' :: fraction => fraction.all Text.isDigit
  | [], '.' :: fraction => !fraction.isEmpty && fraction.all Text.isDigit
  | _, _ => false

/-- The value is filled in elsewhere. -/
def isPlaceholder (value : String) : Bool :=
  Text.beginsWith "$\x7b" value

end Preflight.Env
