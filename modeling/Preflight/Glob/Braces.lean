/-!
# Brace alternatives

A group such as `{js,ts}` stands for each of its alternatives. `expand` replaces the first group
without a group inside by each of its alternatives in turn, until no group is left; a brace
without a partner stays. Each round takes one opening brace away, so there are no more rounds than
opening braces.
-/

set_option autoImplicit false

namespace Preflight.Glob

/-- A brace of either kind. -/
def isBrace (c : Char) : Bool := c == '\x7b' || c == '\x7d'

/-- A group and what stands around it. -/
structure Group where
  before : List Char
  body : List Char
  after : List Char

/-- The group that starts at the opening brace before these characters, if it holds no brace. -/
def groupAt? (before rest : List Char) : Option Group :=
  match rest.dropWhile (!isBrace ·) with
  | '\x7d' :: after => some ⟨before, rest.takeWhile (!isBrace ·), after⟩
  | _ => none

/-- The first group without a group inside; `before` holds the characters already passed, last
one first. -/
def findGroup? (before : List Char) : List Char → Option Group
  | [] => none
  | c :: rest =>
    match if c == '\x7b' then groupAt? before.reverse rest else none with
    | some group => some group
    | none => findGroup? (c :: before) rest

/-- The patterns after at most so many rounds of replacing the first group. -/
def expandRounds : (rounds : Nat) → List Char → List (List Char)
  | 0, pattern => [pattern]
  | rounds + 1, pattern =>
    match findGroup? [] pattern with
    | none => [pattern]
    | some group =>
      (group.body.splitOn ',').flatMap fun option =>
        expandRounds rounds (group.before ++ option ++ group.after)

/-- The patterns that a pattern with groups stands for, in order. -/
def expand (pattern : List Char) : List (List Char) :=
  expandRounds (pattern.count '\x7b') pattern

end Preflight.Glob
