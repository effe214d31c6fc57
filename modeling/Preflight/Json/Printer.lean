import Preflight.Decimal.Shortest
import Preflight.Failure
import Preflight.Json.Basic
import Preflight.Text.Quoted

/-!
# Writing JSON

Values are written in ASCII: a character outside the printable ASCII range is escaped, by two
escapes if it lies beyond the first plane. A layout says where lines are broken. A value with an
integer of too many digits is not written at all.
-/

set_option autoImplicit false

namespace Preflight.Json

/-- The escape of one unit of a text. -/
def unitEscape (unit : Nat) : List Char :=
  '\\' :: 'u' :: Text.hexDigits 4 unit

/-- The escape of a character by its unit, or by the two halves of its surrogate pair. -/
def charEscape (code : Nat) : List Char :=
  if code < 0x10000 then unitEscape code
  else
    let past := code - 0x10000
    unitEscape (0xD800 + past / 0x400) ++ unitEscape (0xDC00 + past % 0x400)

/-- The characters that write a symbol inside a text. -/
def Symbol.written : Symbol → List Char
  | .half unit => unitEscape unit
  | .char '\x22' => ['\\', '\x22']
  | .char '\\' => ['\\', '\\']
  | .char '\n' => ['\\', 'n']
  | .char '\r' => ['\\', 'r']
  | .char '\t' => ['\\', 't']
  | .char '\x08' => ['\\', 'b']
  | .char '\x0c' => ['\\', 'f']
  | .char c => if ' ' ≤ c && c ≤ '~' then [c] else charEscape c.toNat

/-- A text between its marks. -/
def Text.written (t : Text) : List Char :=
  '\x22' :: t.flatMap Symbol.written ++ ['\x22']

/-- Where lines are broken: what stands before an item at a level, and after a comma. -/
structure Layout where
  lineBreak : Nat → List Char
  comma : List Char

/-- Everything on one line. -/
def Layout.flat : Layout := ⟨fun _ => [], [',', ' ']⟩

/-- Every item on a line of its own, two spaces further in than what holds it. -/
def Layout.indented : Layout := ⟨fun level => '\n' :: List.replicate (2 * level) ' ', [',']⟩

/-- The text of a number with a fraction, which may be one of the three that JSON lacks. -/
def realWritten : Binary → List Char
  | .notANumber => "NaN".toList
  | .infinite negative => (if negative then "-Infinity" else "Infinity").toList
  | x => Decimal.text x

mutual

/-- A value whose lines are broken for the given level. -/
def write (layout : Layout) (level : Nat) : Value → List Char
  | .null => "null".toList
  | .bool true => "true".toList
  | .bool false => "false".toList
  | .int n => (toString n).toList
  | .real x => realWritten x
  | .text t => t.written
  | .list [] => ['[', ']']
  | .list (item :: items) =>
    '[' :: layout.lineBreak (level + 1) ++ write layout (level + 1) item ++
      writeItems layout (level + 1) items ++ layout.lineBreak level ++ [']']
  | .object [] => ['\x7b', '\x7d']
  | .object ((key, value) :: fields) =>
    '\x7b' :: layout.lineBreak (level + 1) ++ key.written ++ [':', ' '] ++
      write layout (level + 1) value ++
      writeFields layout (level + 1) fields ++ layout.lineBreak level ++ ['\x7d']

/-- The items after the first. -/
def writeItems (layout : Layout) (level : Nat) :
    List Value → List Char
  | [] => []
  | item :: items =>
    layout.comma ++ layout.lineBreak level ++ write layout level item ++
      writeItems layout level items

/-- The fields after the first. -/
def writeFields (layout : Layout) (level : Nat) :
    List (Text × Value) → List Char
  | [] => []
  | (key, value) :: fields =>
    layout.comma ++ layout.lineBreak level ++ key.written ++ [':', ' '] ++
      write layout level value ++ writeFields layout level fields

end

mutual

/-- The integers in a value. -/
def Value.numbers : Value → List Int
  | .int n => [n]
  | .list items => numbersOfItems items
  | .object fields => numbersOfFields fields
  | _ => []

/-- The integers in the items of a list. -/
def numbersOfItems : List Value → List Int
  | [] => []
  | item :: items => item.numbers ++ numbersOfItems items

/-- The integers in the values of fields. -/
def numbersOfFields : List (Text × Value) → List Int
  | [] => []
  | (_, value) :: fields => value.numbers ++ numbersOfFields fields

end

/-- An integer has no more digits than the limit. -/
def IsShort (limit : Nat) (n : Int) : Prop := (Nat.toDigits 10 n.natAbs).length ≤ limit

instance (limit : Nat) (n : Int) : Decidable (IsShort limit n) :=
  inferInstanceAs (Decidable (_ ≤ _))

/-- A value on lines of its own, as a report file holds it. -/
def Value.indented (v : Value) : Except Failure String :=
  if ∀ n ∈ v.numbers, IsShort digitLimit n then .ok (String.ofList (write .indented 0 v))
  else .error .numberTooLong

/-- A value on one line. -/
def Value.flat (v : Value) : String :=
  String.ofList (write .flat 0 v)

end Preflight.Json
