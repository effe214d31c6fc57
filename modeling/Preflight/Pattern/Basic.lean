import Preflight.Text.Blank
import Preflight.Text.Digit

/-!
# Patterns

A pattern is a value: characters from a set, runs of such characters, sequence, choice, and parts
that are kept. `readings` gives every way a pattern can be read at the start of a text, the
preferred one first; the pattern occurs where there is a reading. Everything here is structural
recursion on the pattern or on the text, so no pattern can loop.
-/

set_option autoImplicit false

namespace Preflight

/-- What is looked for in a text. -/
inductive Pattern
  /-- Nothing, read anywhere. -/
  | empty
  /-- One character of a set. -/
  | one (set : Char → Bool)
  /-- The longest run of characters of a set, which may be empty. -/
  | run (set : Char → Bool)
  /-- Any run of characters of a set, longer ones first. -/
  | gap (set : Char → Bool)
  /-- The one and then the other. -/
  | seq (first second : Pattern)
  /-- The one or the other, the first preferred. -/
  | either (first second : Pattern)
  /-- The inner pattern, with the characters it reads kept. -/
  | keep (inner : Pattern)

namespace Pattern

/-- One way to read a pattern at the start of a text. -/
structure Reading where
  /-- The number of characters that were read. -/
  width : Nat
  /-- The kept parts in the order they were read. -/
  kept : List (List Char)
  /-- The characters after those that were read. -/
  rest : List Char

/-- The runs of characters of `set` that go on after the first `width` characters, put before
those of `shorter`: the longest comes first. -/
def runsFrom (set : Char → Bool) (width : Nat) (shorter : List Reading) :
    List Char → List Reading
  | [] => ⟨width, [], []⟩ :: shorter
  | c :: rest =>
    let found := ⟨width, [], c :: rest⟩ :: shorter
    if set c then runsFrom set (width + 1) found rest else found

/-- Every way to read the pattern at the start of the text, the preferred one first. -/
def readings : Pattern → List Char → List Reading
  | .empty, text => [⟨0, [], text⟩]
  | .one _, [] => []
  | .one set, c :: rest => if set c then [⟨1, [], rest⟩] else []
  | .run set, text => [⟨(text.takeWhile set).length, [], text.dropWhile set⟩]
  | .gap set, text => runsFrom set 0 [] text
  | .seq first second, text =>
    (first.readings text).flatMap fun a =>
      (second.readings a.rest).map fun b => ⟨a.width + b.width, a.kept ++ b.kept, b.rest⟩
  | .either first second, text => first.readings text ++ second.readings text
  | .keep inner, text =>
    (inner.readings text).map fun a => { a with kept := text.take a.width :: a.kept }

/-! ## Building patterns -/

instance : Append Pattern := ⟨.seq⟩

instance : OrElse Pattern := ⟨fun first second => .either first (second ())⟩

/-- The pattern or nothing, the pattern preferred. -/
def optional (p : Pattern) : Pattern := .either p .empty

/-- The longest run of at least one character of a set. -/
def runOne (set : Char → Bool) : Pattern := .seq (.one set) (.run set)

/-- One given character. -/
def char (c : Char) : Pattern := .one (· == c)

/-- The characters one after the other, as written. -/
def chars : List Char → Pattern
  | [] => .empty
  | [c] => char c
  | c :: rest => .seq (char c) (chars rest)

/-- A word as written. -/
def word (w : String) : Pattern := chars w.toList

/-- The letters that count as `letter` when case is ignored: both cases, and for `i`, `s` and `k`
the four letters outside ASCII that fold to them. -/
def sameLetter (letter c : Char) : Bool :=
  c.toLower == letter.toLower ||
    (letter.toLower == 'i' && (c == '\u0130' || c == '\u0131')) ||
    (letter.toLower == 's' && c == '\u017f') ||
    (letter.toLower == 'k' && c == '\u212a')

/-- The characters one after the other in any case. -/
def charsAnyCase : List Char → Pattern
  | [] => .empty
  | [c] => .one (sameLetter c)
  | c :: rest => .seq (.one (sameLetter c)) (charsAnyCase rest)

/-- A word in any case. -/
def wordAnyCase (w : String) : Pattern := charsAnyCase w.toList

/-- The first of the patterns that can be read. -/
def choice : List Pattern → Pattern
  | [] => .one fun _ => false
  | [p] => p
  | p :: rest => .either p (choice rest)

/-- One of the words in any case. -/
def anyWord (words : List String) : Pattern := choice (words.map wordAnyCase)

/-- Blanks, or nothing. -/
def blanks : Pattern := .run Text.isBlank

/-- One of the three quotation marks of a literal. -/
def isQuote (c : Char) : Bool := c == '\x27' || c == '\x22' || c == '\x60'

/-- A single or double quotation mark. -/
def isPlainQuote (c : Char) : Bool := c == '\x27' || c == '\x22'

/-- Any character that does not end a line. -/
def inLine (c : Char) : Bool := c != '\n'

/-! ## Searching -/

/-- The preferred reading at the start of the text. -/
def read? (p : Pattern) (text : List Char) : Option Reading :=
  (p.readings text).head?

/-- The pattern can be read at the start of the text. -/
def startsAt (p : Pattern) (text : List Char) : Bool :=
  (p.read? text).isSome

/-- The pattern can be read somewhere in the text. -/
def occursIn (p : Pattern) : List Char → Bool
  | [] => p.startsAt []
  | c :: rest => p.startsAt (c :: rest) || p.occursIn rest

/-- A place in a text where a pattern was read. -/
structure Occurrence where
  /-- The number of characters before the place. -/
  offset : Nat
  /-- The characters that were read. -/
  text : List Char
  /-- The kept parts. -/
  kept : List (List Char)

/-- The first place at or after `offset` where the pattern can be read. -/
def findFrom? (p : Pattern) (offset : Nat) : List Char → Option Occurrence
  | [] => (p.read? []).map fun r => ⟨offset, [], r.kept⟩
  | c :: rest =>
    match p.read? (c :: rest) with
    | some r => some ⟨offset, (c :: rest).take r.width, r.kept⟩
    | none => p.findFrom? (offset + 1) rest

/-- The first place where the pattern can be read. -/
def find? (p : Pattern) (text : List Char) : Option Occurrence :=
  p.findFrom? 0 text

/-- The places where the pattern is read from left to right: the next `skip` characters belong to
the reading before, and each reading starts after the end of the last. -/
def findAllFrom (p : Pattern) : (skip offset : Nat) → List Char → List Occurrence
  | _, _, [] => []
  | skip + 1, offset, _ :: rest => p.findAllFrom skip (offset + 1) rest
  | 0, offset, c :: rest =>
    match p.read? (c :: rest) with
    | some r =>
      ⟨offset, (c :: rest).take r.width, r.kept⟩ :: p.findAllFrom (r.width - 1) (offset + 1) rest
    | none => p.findAllFrom 0 (offset + 1) rest

/-- All places where the pattern is read, from left to right and without overlap. -/
def findAll (p : Pattern) (text : List Char) : List Occurrence :=
  p.findAllFrom 0 0 text

end Pattern

end Preflight
