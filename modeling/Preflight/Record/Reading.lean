import Preflight.Failure
import Preflight.Json.Basic

/-!
# Readings

A value is read as a part of a record, or refused with the way to every part that is wrong. Fields
are read independently of each other: the refusals of all of them are kept, in the order in which
the record declares its fields.
-/

set_option autoImplicit false

namespace Preflight.Record

open Json

/-- What reading gives: the part that was read, or the refusals. -/
inductive Reading (α : Type)
  | accepted (part : α)
  | refused (errors : List FieldError)
  deriving Repr

namespace Reading

variable {α β : Type}

/-- Refuses the value itself. -/
def refuse (refusal : Refusal) : Reading α := .refused [⟨[], refusal⟩]

/-- What two readings give together: the refusals of the first and then those of the second. -/
def both : Reading (α → β) → Reading α → Reading β
  | .accepted f, .accepted a => .accepted (f a)
  | .accepted _, .refused errors => .refused errors
  | .refused errors, .accepted _ => .refused errors
  | .refused errors, .refused more => .refused (errors ++ more)

instance : Applicative Reading where
  pure := .accepted
  seq f a := both f (a ())

/-- A second look at a part that was accepted. -/
def andThen : Reading α → (α → Reading β) → Reading β
  | .accepted a, look => look a
  | .refused errors, _ => .refused errors

/-- The reading of what stands behind a step: the way of each refusal starts with the step. -/
def behind (step : Step) : Reading α → Reading α
  | .accepted a => .accepted a
  | .refused errors => .refused (errors.map fun e => { e with way := step :: e.way })

/-- The part, or the refusals as a failure. -/
def toExcept : Reading α → Except Failure α
  | .accepted a => .ok a
  | .refused errors => .error (.refused errors)

end Reading

/-! ## Objects and lists -/

/-- The fields of an object. -/
abbrev Fields := List (Text × Value)

variable {α : Type}

/-- A record is read from the fields of an object; anything else is refused for `reason`. -/
def object (reason : Refusal) (read : Fields → Reading α) : Value → Reading α
  | .object fields => read fields
  | _ => .refuse reason

/-- The field must be there. -/
def field (name : String) (read : Value → Reading α) (fields : Fields) : Reading α :=
  match field? name fields with
  | some value => (read value).behind (.field name)
  | none => .refused [⟨[.field name], .absent⟩]

/-- A field that is not there has the usual value. -/
def fieldOr (name : String) (usual : α) (read : Value → Reading α) (fields : Fields) : Reading α :=
  match field? name fields with
  | some value => (read value).behind (.field name)
  | none => .accepted usual

/-- Null stands for nothing. -/
def orNull (read : Value → Reading α) : Value → Reading (Option α)
  | .null => .accepted none
  | value => some <$> read value

/-- A field that may be null or not there. -/
def field? (name : String) (read : Value → Reading α) (fields : Fields) : Reading (Option α) :=
  fieldOr name none (orNull read) fields

/-- The items of a list, each behind its place; `place` is that of the first. -/
def items (read : Value → Reading α) : (place : Nat) → List Value → Reading (List α)
  | _, [] => .accepted []
  | place, value :: rest =>
    List.cons <$> (read value).behind (.place place) <*> items read (place + 1) rest

/-- A list, item by item. -/
def list (read : Value → Reading α) : Value → Reading (List α)
  | .list values => items read 0 values
  | _ => .refuse .notList

/-- The values of an object, each behind its key. -/
def entries (read : Value → Reading α) : Fields → Reading (List (String × α))
  | [] => .accepted []
  | (key, value) :: rest =>
    List.cons <$> (Prod.mk key.toString <$> (read value).behind (.field key.toString)) <*>
      entries read rest

/-- An object whose keys are free. -/
def table (read : Value → Reading α) : Value → Reading (List (String × α)) :=
  object .notObject (entries read)

/-! ## Texts and choices -/

/-- A text. -/
def text : Value → Reading String
  | .text t => .accepted t.toString
  | _ => .refuse .notText

/-- The characters of a text in which no half of a surrogate pair stands alone. -/
def whole (t : Text) : Reading (List Char) :=
  if t.all (·.isChar) then .accepted t.toString.toList else .refuse .brokenText

/-- One of the values that tags name. -/
def choice (ofTag? : String → Option α) : Value → Reading α
  | .text t =>
    (whole t).andThen fun chars =>
      match ofTag? (String.ofList chars) with
      | some a => .accepted a
      | none => .refuse .notAChoice
  | _ => .refuse .notAChoice

/-! ## Whole numbers and flags -/

/-- The integer that a number with a point is. It must have no fraction and be less than `2 ^ 63` in
size. -/
def integral : Binary → Reading Int
  | .finite negative mantissa exponent =>
    match (Binary.finite negative mantissa exponent).toInt? with
    | some n => if n.natAbs < Binary.twoTo 63 then .accepted n else .refuse .tooLarge
    | none => .refuse .fractional
  | _ => .refuse .notFinite

/-- The words for yes. -/
def yesWords : List String := ["1", "on", "t", "true", "y", "yes"]

/-- The words for no. -/
def noWords : List String := ["0", "off", "f", "false", "n", "no"]

/-- The flag that a word stands for, in capitals or not. -/
def flagOfWord (word : List Char) : Reading Bool :=
  let word := String.ofList (word.map Char.toLower)
  if yesWords.contains word then .accepted true
  else if noWords.contains word then .accepted false
  else .refuse .unreadableFlag

/-- The flag that a number stands for: one or zero. A number outside the range of 64-bit words is
nothing that could be a flag. -/
def flagOfInt (n : Int) : Reading Bool :=
  if n = 1 then .accepted true
  else if n = 0 then .accepted false
  else if -(Binary.twoTo 63 : Int) ≤ n && n < Binary.twoTo 63 then .refuse .unreadableFlag
  else .refuse .notFlag

/-- A flag, or a word or number that stands for one. -/
def flag : Value → Reading Bool
  | .bool b => .accepted b
  | .int n => flagOfInt n
  | .real x =>
    match integral x with
    | .accepted n => flagOfInt n
    | .refused _ => .refuse .notFlag
  | .text t => (whole t).andThen flagOfWord
  | _ => .refuse .notFlag

end Preflight.Record
