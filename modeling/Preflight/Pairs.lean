/-!
# Pairs in order

A table is a list of pairs in which each key stands at its first place, with the value that it was
given last.
-/

set_option autoImplicit false

namespace Preflight.Pairs

variable {κ α : Type} [DecidableEq κ]

/-- The pairs with the key's value replaced in its place, or put at the end. -/
def put (key : κ) (value : α) : List (κ × α) → List (κ × α)
  | [] => [(key, value)]
  | (k, v) :: rest => if k = key then (k, value) :: rest else (k, v) :: put key value rest

/-- The pairs put one after the other. -/
def putAll (pairs : List (κ × α)) : List (κ × α) :=
  pairs.foldl (fun table (key, value) => put key value table) []

end Preflight.Pairs
