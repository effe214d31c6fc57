import Preflight.Decimal.Binary

/-!
# JSON values

A JSON value with its fields in order. An object has each key once: a later field of the same key
takes the place of the earlier one. A text is a list of symbols, because an escape can write half
of a surrogate pair alone, which is no character.
-/

set_option autoImplicit false

namespace Preflight.Json

/-- The most digits of an integer that is read or written, where no other limit is set. -/
def digitLimit : Nat := 4300

/-- A symbol of a JSON text. -/
inductive Symbol
  | char (c : Char)
  /-- Half of a surrogate pair that stands alone. -/
  | half (unit : Nat)
  deriving Repr, DecidableEq

/-- The symbol as a character; a lone half becomes the replacement character. -/
def Symbol.toChar : Symbol → Char
  | .char c => c
  | .half _ => '\ufffd'

/-- The symbol is a character. -/
def Symbol.isChar : Symbol → Bool
  | .char _ => true
  | .half _ => false

/-- A JSON text. -/
abbrev Text := List Symbol

/-- The text of a string. -/
def Text.ofString (s : String) : Text :=
  s.toList.map .char

/-- The string of a text; lone halves become replacement characters. -/
def Text.toString (t : Text) : String :=
  String.ofList (t.map Symbol.toChar)

/-- A string comes back from its text. -/
theorem Text.toString_ofString (s : String) : Text.toString (Text.ofString s) = s := by
  simp [Text.toString, Text.ofString, Function.comp_def, Symbol.toChar]

/-- A JSON value. -/
inductive Value
  | null
  | bool (b : Bool)
  | int (n : Int)
  | real (x : Binary)
  | text (t : Text)
  | list (items : List Value)
  | object (fields : List (Text × Value))

namespace Value

/-- A string as a value. -/
def string (s : String) : Value := .text (Text.ofString s)

/-- A natural number as a value. -/
def nat (n : Nat) : Value := .int n

/-- A string, or null if there is none. -/
def string? : Option String → Value
  | some s => string s
  | none => .null

/-- An object from named fields. -/
def record (fields : List (String × Value)) : Value :=
  .object (fields.map fun (key, value) => (Text.ofString key, value))

/-- A list of strings. -/
def strings (items : List String) : Value :=
  .list (items.map string)

end Value

/-- The value of a key. -/
def field? {α : Type} (key : String) (fields : List (Text × α)) : Option α :=
  fields.lookup (Text.ofString key)

end Preflight.Json
