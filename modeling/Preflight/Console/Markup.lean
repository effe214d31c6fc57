import Preflight.Failure
import Preflight.Text.Blank

/-!
# Markup

Console text may hold tags in square brackets, which open and close styles. Where styles are not
shown the tags vanish; a backslash in front of a tag makes it text. `escape` writes a text so that
its tags are text. A closing tag that closes nothing is a failure.
-/

set_option autoImplicit false

namespace Preflight.Console

/-! ## Tags -/

/-- The character may start a tag. -/
def startsTag (c : Char) : Bool :=
  ('a' ≤ c && c ≤ 'z') || c == '#' || c == '/' || c == '@'

/-- The body of a tag at the start of what follows an opening bracket, and what follows the tag.
There is no opening bracket in either. -/
def tag? : List Char → Option (List Char × List Char)
  | [] => none
  | c :: rest =>
    if startsTag c then
      match rest.span (· != ']') with
      | (body, _ :: after) => some (c :: body, after)
      | (_, []) => none
    else none

/-- The backslashes at the end of the characters. -/
def endSlashes (chars : List Char) : Nat :=
  (chars.reverse.takeWhile (· == '\\')).length

/-- The segments between the opening brackets. -/
def segments (chars : List Char) : List (List Char) := chars.splitOn '['

/-! ## Escaping -/

/-- The segments after the first with their brackets; the backslashes in front of a tag are
doubled, and one more makes it text. `before` is what has been written. -/
def escapeSegments (before : List Char) : List (List Char) → List Char
  | [] => before
  | segment :: rest =>
    let slashes := match tag? segment with
      | some _ => List.replicate (endSlashes before + 1) '\\'
      | none => []
    escapeSegments (before ++ slashes ++ '[' :: segment) rest

/-- The text as markup in which its tags are text. A single backslash at the end is doubled. -/
def escape (text : List Char) : List Char :=
  let markup := match segments text with
    | [] => []
    | first :: rest => escapeSegments first rest
  if endSlashes markup = 1 then markup ++ ['\\'] else markup

/-! ## Reading -/

/-- A piece of markup: text, or a tag with its place. -/
inductive MarkupPiece
  | text (chars : List Char)
  | tag (place : Nat) (body : List Char)
  deriving Repr, DecidableEq

/-- The pieces of markup. `before` is the text in front of the next bracket, which starts at
`place`. Two backslashes in front of a tag write one, and a single one makes the tag text. -/
def pieces (place : Nat) (before : List Char) : List (List Char) → List MarkupPiece
  | [] => [.text before]
  | segment :: rest =>
    match tag? segment with
    | none => pieces place (before ++ '[' :: segment) rest
    | some (body, after) =>
      let slashes := endSlashes before
      let isText := slashes % 2 == 1
      let bracket := place + before.length
      .text (before.take (before.length - slashes)) :: .text (List.replicate (slashes / 2) '\\') ::
        (if isText then .text ('[' :: body ++ [']']) else .tag bracket body) ::
        pieces (bracket + body.length + 2) after rest

/-- The text of a piece: a backslash in front of a bracket that starts no tag is dropped. -/
def unescape : List Char → List Char
  | '\\' :: '[' :: rest => '[' :: unescape rest
  | c :: rest => c :: unescape rest
  | [] => []

/-- The name of a style in one spelling. -/
def styleName (name : List Char) : List Char :=
  match (Text.stripChars name).map Char.toLower with
  | ['b'] => "bold".toList
  | name => name

/-- The names of the open styles after a tag, the last one first. -/
def applyTag (place : Nat) (body : List Char) (openNames : List (List Char)) :
    Except Failure (List (List Char)) :=
  let name := body.takeWhile (· != '=')
  match name with
  | '/' :: closing =>
    if (Text.stripChars closing).isEmpty then
      match openNames with
      | _ :: rest => .ok rest
      | [] => .error (.strayTag ("closing tag '[/]' at position " ++ toString place ++
          " has nothing to close"))
    else if openNames.contains (styleName closing) then .ok (openNames.erase (styleName closing))
    else .error (.strayTag ("closing tag '[" ++ String.ofList body ++ "]' at position " ++
        toString place ++ " doesn't match any open tag"))
  | _ => .ok (styleName name :: openNames)

/-- The text of the pieces without the tags. -/
def plainOf (openNames : List (List Char)) : List MarkupPiece → Except Failure (List Char)
  | [] => .ok []
  | .text chars :: rest => do return unescape chars ++ (← plainOf openNames rest)
  | .tag place body :: rest => do plainOf (← applyTag place body openNames) rest

/-- The text that markup shows. -/
def plain (markup : List Char) : Except Failure (List Char) :=
  match segments markup with
  | [] | [_] => .ok markup
  | first :: rest => plainOf [] (pieces 0 first rest)

end Preflight.Console
