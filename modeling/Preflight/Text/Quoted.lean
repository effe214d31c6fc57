import Preflight.Text.Printable

/-!
# Quoted texts

A text between quotation marks: the single mark, unless the text holds it and not the double one.
The mark, the backslash and characters that are not printable are escaped.
-/

set_option autoImplicit false

namespace Preflight.Text

/-- The hexadecimal digit of a number below sixteen. -/
def hexDigit (n : Nat) : Char :=
  Char.ofNat (if n < 10 then 0x30 + n else 0x57 + n)

/-- The last `width` hexadecimal digits of a number. -/
def hexDigits : (width n : Nat) → List Char
  | 0, _ => []
  | width + 1, n => hexDigits width (n / 16) ++ [hexDigit (n % 16)]

/-- The escape of a character that is not printable, by the size of its code. -/
def codeEscape (code : Nat) : List Char :=
  if code < 0x100 then '\\' :: 'x' :: hexDigits 2 code
  else if code < 0x10000 then '\\' :: 'u' :: hexDigits 4 code
  else '\\' :: 'U' :: hexDigits 8 code

/-- The characters that show a character between marks. -/
def quotedChar (mark : Char) : Char → List Char
  | '\\' => ['\\', '\\']
  | '\n' => ['\\', 'n']
  | '\r' => ['\\', 'r']
  | '\t' => ['\\', 't']
  | c =>
    if c == mark then ['\\', c]
    else if isPrintable c then [c]
    else codeEscape c.toNat

/-- The mark around a text that holds single marks, double ones, or neither. -/
def markFor (holdsSingle holdsDouble : Bool) : Char :=
  if holdsSingle && !holdsDouble then '\x22' else '\x27'

/-- A text between quotation marks. -/
def quoted (text : String) : String :=
  let chars := text.toList
  let mark := markFor (chars.contains '\x27') (chars.contains '\x22')
  String.ofList (mark :: chars.flatMap (quotedChar mark) ++ [mark])

end Preflight.Text
