/-!
# Case mappings as shifts

A case mapping sends most letters a fixed distance away, over runs of letters that follow each
other at a stride of one or two code points.
-/

set_option autoImplicit false

namespace Preflight.Text

/-- Every `stride`-th code point from `first` to `last` moves by `distance`. -/
structure Shift where
  first : Nat
  last : Nat
  stride : Nat
  distance : Int
  deriving Repr, DecidableEq

namespace Shift

/-- The code point is one of those that move. -/
def covers (s : Shift) (code : Nat) : Bool :=
  s.first ≤ code && code ≤ s.last && (code - s.first) % s.stride == 0

/-- The character moved by the first shift that covers it; itself if none does. -/
def apply (table : List Shift) (c : Char) : Char :=
  match table.find? (·.covers c.toNat) with
  | some s => Char.ofNat (c.toNat + s.distance).toNat
  | none => c

end Shift

end Preflight.Text
