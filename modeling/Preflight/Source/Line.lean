/-!
# Lines of a text

Lines are numbered from one and end at line feeds. `lineOf` gives the line of an offset,
`lines` the lines themselves, `slice` the lines between two numbers.
-/

set_option autoImplicit false

namespace Preflight.Source

/-- The line of the offset: one more than the number of line feeds before it. -/
def lineOf (text : List Char) (offset : Nat) : Nat :=
  (text.take offset).count '\n' + 1

/-- The line of an offset, where a negative offset counts from the end of the text. -/
def lineOfOffset (text : List Char) (offset : Int) : Nat :=
  if 0 ≤ offset then lineOf text offset.toNat
  else lineOf text (text.length + offset).toNat

/-- The lines of a text, without the line feeds between them; one more than there are feeds. -/
def lines (text : List Char) : List (List Char) :=
  text.splitOn '\n'

/-- The elements from index `start` up to index `stop`, where a negative `stop` counts from the
end of the list. -/
def slice {α : Type} (items : List α) (start : Nat) (stop : Int) : List α :=
  let stop := if 0 ≤ stop then stop.toNat else (items.length + stop).toNat
  (items.take stop).drop start

end Preflight.Source
