import Preflight.Text.Quoted

/-!
# Complaints

What can be wrong with a command line, and the sentence that says so. A name is quoted as it was
written; if there are names close to it, they are proposed.
-/

set_option autoImplicit false

namespace Preflight.Command

open Text (quoted)

/-- What can be wrong with a command line. -/
inductive Complaint
  | noVerb
  | unknownVerb (name : String) (near : List String)
  | unknownSetting (name : String) (near : List String)
  | valueMissing (name : String)
  | valueUnwanted (name : String)
  | pathIsFile (path : String)
  | extraWords (words : List String)
  deriving Repr, DecidableEq

/-- The names that are proposed, if there are any. -/
def proposal (near : List String) : String :=
  match near with
  | [] => ""
  | [name] => " Did you mean " ++ quoted name ++ "?"
  | names => " (Possible options: " ++ String.intercalate ", " (names.map quoted) ++ ")"

namespace Complaint

/-- The sentence that says what is wrong. -/
def message : Complaint → String
  | noVerb => "Missing command."
  | unknownVerb name near => "No such command " ++ quoted name ++ "." ++ proposal near
  | unknownSetting name near => "No such option " ++ quoted name ++ "." ++ proposal near
  | valueMissing name => "Option " ++ quoted name ++ " requires an argument."
  | valueUnwanted name => "Option " ++ quoted name ++ " does not take a value."
  | pathIsFile path =>
    "Invalid value for '--path' / '-p': Directory " ++ quoted path ++ " is a file."
  | extraWords words =>
    "Got unexpected extra argument" ++ (if words.length = 1 then "" else "s") ++ " (" ++
      String.intercalate " " words ++ ")"

/-- The complaint is shown below the usage. -/
def showsUsage : Complaint → Bool
  | valueMissing _ | valueUnwanted _ => false
  | _ => true

end Complaint

end Preflight.Command
