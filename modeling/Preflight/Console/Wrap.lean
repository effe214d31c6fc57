import Preflight.Text.Blank

/-!
# Lines of a width

A line that is too long is broken between words. A word takes the blanks after it along, and the
blanks at the end of a line count only up to the width. A word that is longer than a line is cut
into pieces, unless it is to be kept whole.
-/

set_option autoImplicit false

namespace Preflight.Console

/-- The width of the console. -/
def width : Nat := 80

/-- The width between tab stops. -/
def tabWidth : Nat := 8

/-- Characters that are not shown: bell, backspace, vertical tab, form feed, carriage return. -/
def isControl (c : Char) : Bool :=
  c == '\x07' || c == '\x08' || c == '\x0b' || c == '\x0c' || c == '\r'

/-- The line with its tabs replaced by blanks up to the next tab stop. -/
def expandTabs (column : Nat) : List Char → List Char
  | [] => []
  | c :: rest =>
    if c == '\t' then
      let blanks := tabWidth - column % tabWidth
      List.replicate blanks ' ' ++ expandTabs (column + blanks) rest
    else c :: expandTabs (column + 1) rest

/-- The words of a line, each with the blanks after it; the first has those before it, too. A line
of blanks is one word. -/
def words : (started : Bool) → List Char → List (List Char)
  | _, [] => [[]]
  | _, [c] => [[c]]
  | started, c :: next :: rest =>
    let started := started || !Text.isBlank c
    match words started (next :: rest) with
    | [] => [[c]]
    | word :: more =>
      if started && Text.isBlank c && !Text.isBlank next then [c] :: word :: more
      else (c :: word) :: more

/-- The characters in pieces of a length. -/
def cut (length : Nat) (chars : List Char) : List (List Char) :=
  (List.range ((chars.length + length - 1) / length)).map fun n =>
    (chars.drop (n * length)).take length

/-- The lines of words. `line` is the current line, of which `used` columns are used up. -/
def fill (width : Nat) (keepWords : Bool) : (line : List Char) → (used : Nat) →
    List (List Char) → List (List Char)
  | line, _, [] => [line]
  | line, used, word :: rest =>
    let length := (Text.stripEnd word).length
    let done := if line.isEmpty then [] else [line]
    if used + length ≤ width then fill width keepWords (line ++ word) (used + word.length) rest
    else if width < length && !keepWords then
      let parts := cut width word
      let last := parts.getLastD []
      done ++ parts.dropLast ++ fill width keepWords last last.length rest
    else done ++ fill width keepWords word word.length rest

/-- The line without the blanks at its end that stand beyond the width. -/
def cropBlanks (width : Nat) (line : List Char) : List Char :=
  line.take (max width (Text.stripEnd line).length)

/-- The lines of a text that are no wider than the width, blanks included. -/
def wrap (width : Nat) (keepWords : Bool) (text : List Char) : List (List Char) :=
  (text.splitOn '\n').flatMap fun line =>
    (fill width keepWords [] 0 (words false (expandTabs 0 line))).map (cropBlanks width)

end Preflight.Console
