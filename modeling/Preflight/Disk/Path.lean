/-!
# Paths

A path is a start (where one stands, or the top) and a list of names. Single points and empty
names are no names, two points are one and stay. `Path.text` writes what `Path.ofString` reads.
-/

set_option autoImplicit false

namespace Preflight

/-- Where a path starts. -/
inductive Start
  /-- Where one stands. -/
  | here
  /-- The top. -/
  | top
  /-- The top, written with two slashes, which are kept. -/
  | doubleTop
  deriving Repr, DecidableEq

/-- How a start is written. -/
def Start.text : Start → String
  | .here => ""
  | .top => "/"
  | .doubleTop => "//"

/-- A path: a start and names. -/
structure Path where
  start : Start
  names : List String
  deriving Repr, DecidableEq

namespace Path

/-- The names between slashes, without empty ones and single points. -/
def namesOf (chars : List Char) : List String :=
  ((chars.splitOn '/').filter fun name => name != [] && name != ['.']).map String.ofList

/-- The path that a string writes. -/
def ofString (s : String) : Path :=
  let chars := s.toList
  let start := match (chars.takeWhile (· == '/')).length with
    | 0 => Start.here
    | 2 => .doubleTop
    | _ => .top
  ⟨start, namesOf chars⟩

/-- The path as a string; a path without start and names is a point. -/
def text (p : Path) : String :=
  if p.start = .here && p.names.isEmpty then "."
  else p.start.text ++ String.intercalate "/" p.names

/-- The path of the second, taken from the first; a path from the top stands for itself. -/
def join (p q : Path) : Path :=
  if q.start = .here then ⟨p.start, p.names ++ q.names⟩ else q

instance : HDiv Path String Path := ⟨fun p name => p.join (ofString name)⟩

/-- The text of a path with a name after it. A slash stands between them, unless the text ends with
one. -/
def joinText (text name : String) : String :=
  if text.toList.getLast? = some '/' then text ++ name else text ++ "/" ++ name

/-- The text by which a walk from the path names what the names lead to. -/
def walkText (p : Path) (names : List String) : String := names.foldl joinText p.text

/-- The path from `base` to `p`, if `p` lies below it. -/
def relativeTo? (base p : Path) : Option Path :=
  if p.start = base.start && base.names.isPrefixOf p.names then
    some ⟨.here, p.names.drop base.names.length⟩
  else none

end Path

end Preflight
