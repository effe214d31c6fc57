/-!
# Sets of code points as ranges

A property of characters is a list of closed ranges of code points.
-/

set_option autoImplicit false

namespace Preflight.Text

/-- A closed range of code points. -/
structure CodeRange where
  first : Nat
  last : Nat
  deriving Repr, DecidableEq

namespace CodeRange

/-- The range holds the code point. -/
def contains (r : CodeRange) (code : Nat) : Bool :=
  r.first ≤ code && code ≤ r.last

/-- The character is in one of the ranges. -/
def hold (table : List CodeRange) (c : Char) : Bool :=
  table.any (·.contains c.toNat)

end CodeRange

end Preflight.Text
