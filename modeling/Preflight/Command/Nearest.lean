/-!
# Nearest names

How close two names are, and which of some names are close enough to a misspelt one to be proposed.
Closeness is counted in characters that stand in common runs: the longest run first, and then those
on its left and on its right.
-/

set_option autoImplicit false

namespace Preflight.Command

/-! ## Common runs -/

/-- The number of characters that two texts have in common at their start. -/
def commonStart : List Char → List Char → Nat
  | c :: a, d :: b => if c = d then commonStart a b + 1 else 0
  | _, _ => 0

/-- A run that stands in two texts: where it starts in each, and its length. -/
structure Run where
  first : Nat
  second : Nat
  length : Nat
  deriving Repr, DecidableEq

/-- The longest run that two texts have in common; of several the one that starts first in the
first text, and then in the second. -/
def longestRun (a b : List Char) : Run :=
  let runs := (List.range a.length).flatMap fun i =>
    (List.range b.length).map fun j => ⟨i, j, commonStart (a.drop i) (b.drop j)⟩
  runs.foldl (fun best run => if best.length < run.length then run else best) ⟨0, 0, 0⟩

/-- The number of characters in common runs. -/
def commonCount (a b : List Char) : Nat :=
  match longestRun a b with
  | ⟨first, second, length⟩ =>
    if 0 < length ∧ first < a.length then
      length + commonCount (a.take first) (b.take second) +
        commonCount (a.drop (first + length)) (b.drop (second + length))
    else 0
termination_by a.length
decreasing_by
  · simp only [List.length_take]; omega
  · simp only [List.length_drop]; omega

/-! ## Proposals -/

/-- A name with its closeness to another one: the common characters among all characters. -/
structure Likeness where
  name : String
  common : Nat
  total : Nat
  deriving Repr, DecidableEq

/-- How close a name is to the one that was written. -/
def Likeness.of (written name : String) : Likeness :=
  ⟨name, commonCount name.toList written.toList, name.length + written.length⟩

/-- Twice the common characters are three fifths of all. -/
def Likeness.isClose (l : Likeness) : Bool := 3 * l.total ≤ 10 * l.common

/-- The first is at least as close as the second; of two that are equally close the later name goes
first. -/
def Likeness.isBefore (l m : Likeness) : Bool :=
  m.common * l.total < l.common * m.total ||
    (m.common * l.total == l.common * m.total && m.name ≤ l.name)

/-- The number of names that are proposed at most. -/
def maxProposals : Nat := 3

/-- The names to propose for the one that was written: the closest ones, in alphabetical order. -/
def nearest (written : String) (names : List String) : List String :=
  let close := (names.map (Likeness.of written)).filter Likeness.isClose
  (((close.mergeSort Likeness.isBefore).take maxProposals).map Likeness.name).mergeSort (· ≤ ·)

end Preflight.Command
