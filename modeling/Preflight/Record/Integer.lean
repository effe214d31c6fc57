import Preflight.Record.Reading
import Preflight.Text.Blank
import Preflight.Text.Digit

/-!
# Reading integers

An integer may be given as a number without a fraction, as a flag, or as a text. A text is brought
into the form of a numeral first: blanks around it are dropped, a plus in front, zeros and
underscores in front of the digits, a point with zeros behind them, and single underscores between
them. What is left has to be a numeral, which is ASCII digits without a zero in front of others,
after a minus or not.

A numeral has a limit of characters. A text that starts with a longer one is refused for its size;
a text that becomes a longer one only by what is dropped is refused as unreadable.
-/

set_option autoImplicit false

namespace Preflight.Record

open Json

/-! ## Numerals -/

/-- The most characters of a numeral, its minus among them. -/
def numeralLimit : Nat := 4300

/-- The natural number that digits write, if no zero stands in front of others. -/
def naturalOf? : List Char → Option Nat
  | [] => none
  | ['0'] => some 0
  | '0' :: _ => none
  | digits => if digits.all Text.isAsciiDigit then some (Text.numeral digits) else none

/-- The integer that a numeral within the limit writes. -/
def integerOf? (chars : List Char) : Option Int :=
  if numeralLimit < chars.length then none
  else
    match chars with
    | '-' :: digits => (naturalOf? digits).map fun n => -(n : Int)
    | digits => (naturalOf? digits).map Int.ofNat

/-- The number of digits with which the characters start; a zero in front has none behind it. -/
def leadingDigits : List Char → Nat
  | '0' :: _ => 1
  | chars => (chars.takeWhile Text.isAsciiDigit).length

/-- The characters start with a numeral beyond the limit. -/
def startsTooLong : List Char → Bool
  | '-' :: chars => numeralLimit < 1 + leadingDigits chars
  | chars => numeralLimit < leadingDigits chars

/-! ## From texts to numerals -/

/-- The characters without the blanks around them; the separators U+001C to U+001F stay. -/
def trim (chars : List Char) : List Char :=
  let isSpace := fun c => Text.isBlank c && !(0x1C ≤ c.toNat && c.toNat ≤ 0x1F)
  ((chars.dropWhile isSpace).reverse.dropWhile isSpace).reverse

/-- The characters behind a zero, from the first on that is neither zero nor underscore: a digit, or
a minus, which may stand behind zeros. One zero is kept in front of a point, or if nothing else is
there, and must be the last character before it. -/
def afterZero? : List Char → Option (List Char)
  | [] => some ['0']
  | ['_'] | '_' :: '.' :: _ => none
  | '0' :: rest | '_' :: rest => afterZero? rest
  | '.' :: rest => some ('0' :: '.' :: rest)
  | c :: rest => if c == '-' || Text.isAsciiDigit c then some (c :: rest) else none

/-- The characters without the zeros in front; they must start with a digit. -/
def dropZeros? : List Char → Option (List Char)
  | [] => none
  | '0' :: rest => afterZero? rest
  | c :: rest => if Text.isAsciiDigit c then some (c :: rest) else none

/-- The characters in front of the first point if one zero or more and nothing else follow it; all of
them otherwise. -/
def dropPoint (chars : List Char) : List Char :=
  match chars.span (· != '.') with
  | (whole, '.' :: '0' :: zeros) => if zeros.all (· == '0') then whole else chars
  | _ => chars

/-- The characters without underscores, each of which must stand between two others. -/
def dropUnderscores? : List Char → Option (List Char)
  | [] => some []
  | '_' :: _ | [_, '_'] => none
  | c :: '_' :: rest => (dropUnderscores? rest).map (c :: ·)
  | c :: rest => (dropUnderscores? rest).map (c :: ·)

/-- The numeral that characters without a sign in front stand for. -/
def unsignedNumeral? (chars : List Char) : Option (List Char) :=
  (dropZeros? chars).bind fun digits => dropUnderscores? (dropPoint digits)

/-- The numeral that a text stands for. A minus is kept in front, a plus is dropped. -/
def numeralOf? (chars : List Char) : Option (List Char) :=
  match trim chars with
  | '-' :: rest => (unsignedNumeral? rest).map ('-' :: ·)
  | '+' :: rest => unsignedNumeral? rest
  | rest => unsignedNumeral? rest

/-! ## Reading -/

/-- The integer that a text writes. -/
def integerOfText (chars : List Char) : Reading Int :=
  if startsTooLong chars then .refuse .tooLarge
  else
    match (numeralOf? chars).bind integerOf? with
    | some n => .accepted n
    | none => .refuse .unreadableInteger

/-- An integer. -/
def integer : Value → Reading Int
  | .int n => .accepted n
  | .bool b => .accepted (if b then 1 else 0)
  | .real x => integral x
  | .text t => (whole t).andThen integerOfText
  | _ => .refuse .notInteger

/-- An integer that is not below the bound, which is no less than zero. -/
def atLeast (bound : Nat) (value : Value) : Reading Nat :=
  (integer value).andThen fun n =>
    if n < bound then .refuse .tooSmall else .accepted n.toNat

end Preflight.Record
