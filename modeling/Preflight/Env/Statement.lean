import Preflight.Text.Blank

/-!
# Statements of an environment file

An environment file is a sequence of statements `KEY=VALUE`, with comments, an optional `export`,
and quoted keys and values. A statement that cannot be read is passed over to the end of its line
and noted with the line on which it starts. Statements are read by a reader that counts lines as
it goes on.
-/

set_option autoImplicit false

namespace Preflight.Env

/-- A statement of an environment file. -/
inductive Statement
  /-- A key, with a value if an equals sign follows it. -/
  | binding (key : String) (value : Option String)
  /-- A comment or an end without a key. -/
  | blank
  /-- Something else, on the line with this number. -/
  | unreadable (line : Nat)
  deriving Repr, DecidableEq

/-- The place that a reader has come to. -/
structure Place where
  line : Nat
  rest : List Char

/-- The line ends in a piece of text: a return and a feed together are one. -/
def lineEnds : List Char → Nat
  | '\r' :: '\n' :: rest => lineEnds rest + 1
  | '\r' :: rest => lineEnds rest + 1
  | '\n' :: rest => lineEnds rest + 1
  | _ :: rest => lineEnds rest
  | [] => 0

/-- The place after a piece of the given length. -/
def Place.advance (p : Place) (length : Nat) : Place :=
  ⟨p.line + lineEnds (p.rest.take length), p.rest.drop length⟩

/-- The place after the characters of a set. -/
def Place.skip (p : Place) (set : Char → Bool) : Place :=
  p.advance (p.rest.takeWhile set).length

/-- A character that does not end a line. -/
def inLine (c : Char) : Bool := c != '\r' && c != '\n'

/-- The place after the word `export` and the blanks that must follow it. -/
def Place.skipExport (p : Place) : Place :=
  match p.rest with
  | 'e' :: 'x' :: 'p' :: 'o' :: 'r' :: 't' :: rest =>
    match rest.takeWhile Text.isLineBlank with
    | [] => p
    | blanks => p.advance (6 + blanks.length)
  | _ => p

/-- A key and the place after it; none if there is no key where one must be. The key is absent
before a comment. -/
def Place.readKey (p : Place) : Option (Option (List Char) × Place) :=
  match p.rest with
  | '#' :: _ => some (none, p)
  | '\x27' :: rest =>
    match rest.takeWhile (· != '\x27'), rest.dropWhile (· != '\x27') with
    | c :: key, _ :: _ => some (some (c :: key), p.advance ((c :: key).length + 2))
    | _, _ => none
  | chars =>
    match chars.takeWhile fun c => c != '=' && c != '#' && !Text.isBlank c with
    | [] => none
    | key => some (some key, p.advance key.length)

/-- The characters up to the closing mark, in which a backslash takes the next character with it;
none if the mark is missing. -/
def closedBy (mark : Char) : List Char → Option (List Char)
  | [] => none
  | '\\' :: c :: rest => (closedBy mark rest).map ('\\' :: c :: ·)
  | c :: rest =>
    if c == mark then some []
    else if c == '\\' then none
    else (closedBy mark rest).map (c :: ·)

/-- The escapes of a value in single marks. -/
def singleEscapes : List (Char × Char) := [('\\', '\\'), ('\x27', '\x27')]

/-- The escapes of a value in double marks. -/
def doubleEscapes : List (Char × Char) :=
  [('\\', '\\'), ('\x27', '\x27'), ('\x22', '\x22'), ('a', '\x07'), ('b', '\x08'), ('f', '\x0c'),
   ('n', '\n'), ('r', '\r'), ('t', '\t'), ('v', '\x0b')]

/-- The characters with their escapes replaced; other backslashes stay. -/
def unescape (escapes : List (Char × Char)) : List Char → List Char
  | '\\' :: c :: rest =>
    match escapes.lookup c with
    | some e => e :: unescape escapes rest
    | none => '\\' :: unescape escapes (c :: rest)
  | c :: rest => c :: unescape escapes rest
  | [] => []

/-- The characters before a comment: before blanks that a number sign follows. -/
def beforeComment : List Char → List Char
  | [] => []
  | c :: rest =>
    if Text.isBlank c && (rest.dropWhile Text.isBlank).head? == some '#' then []
    else c :: beforeComment rest

/-- A value and the place after it; none if a mark is not closed. -/
def Place.readValue (p : Place) : Option (List Char × Place) :=
  match p.rest with
  | '\x27' :: rest =>
    (closedBy '\x27' rest).map fun body =>
      (unescape singleEscapes body, p.advance (body.length + 2))
  | '\x22' :: rest =>
    (closedBy '\x22' rest).map fun body =>
      (unescape doubleEscapes body, p.advance (body.length + 2))
  | chars =>
    let part := chars.takeWhile inLine
    some (Text.stripEnd (beforeComment part), p.advance part.length)

/-- The value after an equals sign and blanks. A comment right after blanks leaves it empty. -/
def Place.readAssigned (p : Place) : Option (List Char × Place) :=
  let blanks := (p.rest.drop 1).takeWhile Text.isLineBlank
  let after := p.advance (1 + blanks.length)
  if !blanks.isEmpty && after.rest.head? == some '#' then some ([], after) else after.readValue

/-- The place after a comment, if there is one. -/
def Place.skipComment (p : Place) : Place :=
  match p.rest.dropWhile Text.isLineBlank with
  | '#' :: _ => p.advance
      ((p.rest.takeWhile Text.isLineBlank).length +
        ((p.rest.dropWhile Text.isLineBlank).takeWhile inLine).length)
  | _ => p

/-- The place after the end of a line; none if something else comes first. -/
def Place.skipLineEnd (p : Place) : Option Place :=
  let blanks := (p.rest.takeWhile Text.isLineBlank).length
  match p.rest.drop blanks with
  | [] => some (p.advance blanks)
  | '\r' :: '\n' :: _ => some (p.advance (blanks + 2))
  | '\r' :: _ | '\n' :: _ => some (p.advance (blanks + 1))
  | _ => none

/-- The place after the line that could not be read, with one character of its end. -/
def Place.skipLine (p : Place) : Place :=
  let length := (p.rest.takeWhile inLine).length
  p.advance (match p.rest.drop length with
    | [] => length
    | _ => length + 1)

/-- The end of a statement, where a failure is noted with the line `start`. -/
def endStatement (start : Nat) (found : Statement) (p : Place) : Statement × Place :=
  match p.skipComment.skipLineEnd with
  | some after => (found, after)
  | none => (.unreadable start, p.skipComment.skipLine)

/-- The statement for a key and a value. -/
def Statement.of (key value : Option (List Char)) : Statement :=
  match key with
  | some key => .binding (String.ofList key) (value.map String.ofList)
  | none => .blank

/-- One statement after blanks, and the place after it. -/
def Place.readStatement (p : Place) : Statement × Place :=
  let first := p.skip Text.isBlank
  if first.rest.isEmpty then (.blank, first)
  else
    let named := first.skipExport
    match named.readKey with
    | none => (.unreadable p.line, named.skipLine)
    | some (key, keyEnd) =>
      let next := keyEnd.skip Text.isLineBlank
      match next.rest with
      | '=' :: _ =>
        match next.readAssigned with
        | some (value, after) => endStatement p.line (.of key (some value)) after
        | none =>
          let blanks := (next.rest.drop 1).takeWhile Text.isLineBlank
          (.unreadable p.line, (next.advance (1 + blanks.length)).skipLine)
      | _ => endStatement p.line (.of key none) next

/-- The statements from a place on. Each one takes a character at least, so there are no more
statements than characters. -/
def readStatements : (bound : Nat) → Place → List Statement
  | 0, _ => []
  | bound + 1, p =>
    if p.rest.isEmpty then []
    else
      let (found, after) := p.readStatement
      found :: readStatements bound after

/-- The statements of a text. One byte order mark at its start is passed over. -/
def statements (text : String) : List Statement :=
  let chars := match text.toList with
    | '\ufeff' :: rest => rest
    | chars => chars
  readStatements chars.length ⟨1, chars⟩

end Preflight.Env
