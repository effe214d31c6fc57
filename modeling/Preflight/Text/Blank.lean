/-!
# Blanks

The blank characters of Unicode, with the four separators U+001C to U+001F among them and the
zero-width characters not. `strip` takes blanks off both ends.
-/

set_option autoImplicit false

namespace Preflight.Text

/-- A blank: tab to carriage return, the separators U+001C to U+001F, and the Unicode spaces. -/
def isBlank (c : Char) : Bool :=
  let n := c.toNat
  (0x09 ≤ n && n ≤ 0x0D) || (0x1C ≤ n && n ≤ 0x20) || n == 0x85 || n == 0xA0 || n == 0x1680 ||
    (0x2000 ≤ n && n ≤ 0x200A) || n == 0x2028 || n == 0x2029 || n == 0x202F || n == 0x205F ||
    n == 0x3000

/-- A blank that does not end a line. -/
def isLineBlank (c : Char) : Bool :=
  isBlank c && c != '\n' && c != '\r'

/-- The characters without the blanks at the end. -/
def stripEnd (chars : List Char) : List Char :=
  (chars.reverse.dropWhile isBlank).reverse

/-- The characters without the blanks at either end. -/
def stripChars (chars : List Char) : List Char :=
  stripEnd (chars.dropWhile isBlank)

/-- The text without the blanks at either end. -/
def strip (s : String) : String :=
  String.ofList (stripChars s.toList)

end Preflight.Text
