import Preflight.Glob.Braces

/-!
# File patterns

A file pattern is read from left to right, the longest token first: `**/` stands for any number of
directories, `**` for any run of characters within a line, `*` for any run without a slash, `?`
for one character other than a slash; every other character stands for itself. A pattern matches a
path as a whole. Groups in braces stand for alternatives.
-/

set_option autoImplicit false

namespace Preflight.Glob

/-- A part of a pattern. -/
inductive Token
  /-- Any number of directories, each with its slash. -/
  | directories
  /-- Any run of characters other than line feeds. -/
  | anything
  /-- Any run of characters other than slashes. -/
  | anyName
  /-- One character other than a slash. -/
  | anyChar
  /-- The character itself. -/
  | char (c : Char)
  deriving Repr, DecidableEq

/-- The tokens of a pattern. -/
def tokens : List Char → List Token
  | '*' :: '*' :: '/' :: rest => .directories :: tokens rest
  | '*' :: '*' :: rest => .anything :: tokens rest
  | '*' :: rest => .anyName :: tokens rest
  | '?' :: rest => .anyChar :: tokens rest
  | c :: rest => .char c :: tokens rest
  | [] => []

/-- What can be left of the path after a run of characters of a set. -/
def runEnds (set : Char → Bool) : List Char → List (List Char)
  | [] => [[]]
  | c :: rest => (c :: rest) :: if set c then runEnds set rest else []

/-- What can be left of the path after one directory or more; `named` says that the first of them
has begun. -/
def directoryEnds (named : Bool) : List Char → List (List Char)
  | [] => []
  | c :: rest =>
    if c == '/' then (if named then rest :: directoryEnds false rest else [])
    else directoryEnds true rest

/-- What can be left of the path after the token. -/
def Token.ends : Token → List Char → List (List Char)
  | .directories, path => path :: directoryEnds false path
  | .anything, path => runEnds (· != '\n') path
  | .anyName, path => runEnds (· != '/') path
  | .anyChar, path =>
    match path with
    | c :: rest => if c == '/' then [] else [rest]
    | [] => []
  | .char c, path =>
    match path with
    | d :: rest => if c == d then [rest] else []
    | [] => []

/-- The tokens match the path as a whole. -/
def matchesTokens : List Token → List Char → Bool
  | [], path => path.isEmpty
  | token :: rest, path => (token.ends path).any (matchesTokens rest)

end Preflight.Glob

namespace Preflight

/-- A file pattern: the token lists of its alternatives. -/
structure Glob where
  alternatives : List (List Glob.Token)
  deriving Repr, DecidableEq

namespace Glob

/-- The pattern that a text writes. -/
def ofString (pattern : String) : Glob :=
  ⟨(expand pattern.toList).map tokens⟩

/-- The pattern matches the path. -/
def isMatch (g : Glob) (path : String) : Bool :=
  g.alternatives.any (matchesTokens · path.toList)

/-- The paths that the pattern matches, in order. -/
def select (pattern : String) (paths : List String) : List String :=
  let g := ofString pattern
  paths.filter g.isMatch

end Glob

end Preflight
