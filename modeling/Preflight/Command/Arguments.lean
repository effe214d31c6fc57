import Preflight.Command.Complaint
import Preflight.Command.Nearest
import Preflight.Command.Setting

/-!
# Arguments

The arguments of a command line are settings and words. A long setting is written by its name, with
its value behind an equals sign or as the next argument; letters can be written together after one
dash, and what follows a letter that takes a value is its value. After two dashes alone, everything
is a word.
-/

set_option autoImplicit false

namespace Preflight.Command

/-- A setting as it was given; one that takes no value has none. -/
structure Given where
  setting : Setting
  value : String := ""
  deriving Repr, DecidableEq

/-- Settings in the order in which they were given, and words. -/
structure Arguments where
  given : List Given := []
  words : List String := []
  deriving Repr, DecidableEq

namespace Arguments

/-- The setting is given. -/
def has (a : Arguments) (s : Setting) : Bool := a.given.any (·.setting == s)

/-- The value that was given last for a setting, or the usual one. -/
def valueOr (a : Arguments) (s : Setting) (usual : String) : String :=
  ((a.given.filter (·.setting == s)).map Given.value).getLastD usual

/-- The arguments with more settings. -/
def give (a : Arguments) (given : List Given) : Arguments := { a with given := a.given ++ given }

/-- The arguments with more words. -/
def say (a : Arguments) (words : List String) : Arguments := { a with words := a.words ++ words }

/-! ## Reading -/

/-- A setting that waits for its value, under the name by which it was called. -/
structure Waiting where
  called : String
  setting : Setting

/-- What one argument gives. -/
abbrev Reading := Except Complaint (List Given × Option Waiting)

/-- The settings that letters after one dash give. -/
def readLetters (settings : List Setting) : List Char → Reading
  | [] => .ok ([], none)
  | c :: rest =>
    let called := String.ofList ['-', c]
    match settings.find? (·.letter? == some c) with
    | none => .error (.unknownSetting called [])
    | some setting =>
      if setting.takesValue then
        if rest.isEmpty then .ok ([], some ⟨called, setting⟩)
        else .ok ([⟨setting, String.ofList rest⟩], none)
      else do
        let (given, waiting) ← readLetters settings rest
        return (⟨setting, ""⟩ :: given, waiting)

/-- What a long setting gives, with the value behind an equals sign. -/
def readLong (setting : Setting) (value? : Option String) : Reading :=
  match setting.takesValue, value? with
  | true, some value => .ok ([⟨setting, value⟩], none)
  | true, none => .ok ([], some ⟨setting.name, setting⟩)
  | false, some _ => .error (.valueUnwanted setting.name)
  | false, none => .ok ([⟨setting, ""⟩], none)

/-- What stands before the first equals sign, and what stands behind it. -/
def splitValue (argument : List Char) : String × Option String :=
  match argument.span (· != '=') with
  | (name, _ :: value) => (String.ofList name, some (String.ofList value))
  | (name, []) => (String.ofList name, none)

/-- What an argument that starts with a dash gives. -/
def readSetting (settings : List Setting) (argument : List Char) : Reading :=
  let (name, value?) := splitValue argument
  match settings.find? (·.name == name) with
  | some setting => readLong setting value?
  | none =>
    if ['-', '-'].isPrefixOf argument then
      .error (.unknownSetting name (nearest name (settings.map Setting.name)))
    else readLetters settings argument.tail

/-- The argument is no word: more stands behind a dash. -/
def isSetting (argument : String) : Bool :=
  match argument.toList with
  | '-' :: _ :: _ => true
  | _ => false

/-- Reads arguments behind those that were read before. If `mixed` does not allow settings behind a
word, the first word and everything behind it are words. -/
def readFrom (settings : List Setting) (mixed : Bool) :
    Option Waiting → Arguments → List String → Except Complaint Arguments
  | none, before, [] => .ok before
  | some waiting, _, [] => .error (.valueMissing waiting.called)
  | some waiting, before, value :: rest =>
    readFrom settings mixed none (before.give [⟨waiting.setting, value⟩]) rest
  | none, before, argument :: rest =>
    if argument = "--" then .ok (before.say rest)
    else if isSetting argument then
      match readSetting settings argument.toList with
      | .error complaint => .error complaint
      | .ok (given, waiting) => readFrom settings mixed waiting (before.give given) rest
    else if mixed then readFrom settings mixed none (before.say [argument]) rest
    else .ok (before.say (argument :: rest))

/-- Reads arguments. -/
def read (settings : List Setting) (mixed : Bool) (arguments : List String) :
    Except Complaint Arguments :=
  readFrom settings mixed none {} arguments

end Arguments

end Preflight.Command
