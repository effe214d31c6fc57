import Preflight.Decimal.Shortest
import Preflight.Json.Basic
import Preflight.Text.Quoted

/-!
# Showing JSON values

The text of a value where a text is wanted: a text is its own, `null` is `None`, and a list or
object shows its parts with texts in quotation marks.
-/

set_option autoImplicit false

namespace Preflight.Json

/-- The characters that show a symbol between quotation marks. -/
def Symbol.quoted (mark : Char) : Symbol → List Char
  | .half unit => Text.codeEscape unit
  | .char c => Text.quotedChar mark c

/-- The mark around a text. -/
def Text.mark (t : Text) : Char :=
  Text.markFor (t.contains (.char '\x27')) (t.contains (.char '\x22'))

/-- A text between quotation marks. -/
def Text.quoted (t : Text) : List Char :=
  t.mark :: t.flatMap (Symbol.quoted t.mark) ++ [t.mark]

mutual

/-- A value inside a list or object. -/
def shown : Value → List Char
  | .null => "None".toList
  | .bool true => "True".toList
  | .bool false => "False".toList
  | .int n => (toString n).toList
  | .real x => Decimal.text x
  | .text t => t.quoted
  | .list [] => ['[', ']']
  | .list (item :: items) => '[' :: shown item ++ shownItems items ++ [']']
  | .object [] => ['\x7b', '\x7d']
  | .object ((key, value) :: fields) =>
    '\x7b' :: key.quoted ++ [':', ' '] ++ shown value ++ shownFields fields ++ ['\x7d']

/-- The items after the first. -/
def shownItems : List Value → List Char
  | [] => []
  | item :: items => ',' :: ' ' :: shown item ++ shownItems items

/-- The fields after the first. -/
def shownFields : List (Text × Value) → List Char
  | [] => []
  | (key, value) :: fields =>
    ',' :: ' ' :: key.quoted ++ [':', ' '] ++ shown value ++ shownFields fields

end

/-- The text of a value: a text is its own. -/
def Value.display : Value → Text
  | .text t => t
  | v => (shown v).map .char

/-- A value that stands for nothing: null, false, zero, and what is empty. -/
def Value.isBlank : Value → Bool
  | .null => true
  | .bool b => !b
  | .int n => n == 0
  | .real x => x.isZero
  | .text t => t.isEmpty
  | .list items => items.isEmpty
  | .object fields => fields.isEmpty

end Preflight.Json
