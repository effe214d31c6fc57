/-!
# Settings

What can be set on a command line. A setting has a long name, some have a letter too, and some take
a value. `Setting.term` is how a help page writes it.
-/

set_option autoImplicit false

namespace Preflight.Command

/-- What can be set. -/
inductive Setting
  | path
  | json
  | verbose
  | skip
  | apply
  | version
  | debug
  | help
  deriving Repr, DecidableEq

namespace Setting

/-- The long name. -/
def name : Setting → String
  | path => "--path"
  | json => "--json"
  | verbose => "--verbose"
  | skip => "--skip"
  | apply => "--apply"
  | version => "--version"
  | debug => "--debug"
  | help => "--help"

/-- The letter that stands for the setting after a single dash. -/
def letter? : Setting → Option Char
  | path => some 'p'
  | verbose => some 'v'
  | _ => none

/-- What the value is called, for a setting that takes one. -/
def valueName? : Setting → Option String
  | path => some "DIRECTORY"
  | skip => some "TEXT"
  | _ => none

/-- The setting takes a value. -/
def takesValue (s : Setting) : Bool := s.valueName?.isSome

/-- What the setting does. -/
def summary : Setting → String
  | path => "Project root to validate  [default: .]"
  | json => "Save ready-to-ship-report.json in the project"
  | verbose => "List every issue and warning by module"
  | skip => "Comma-separated modules to skip (e.g. database,dependencies)"
  | apply => "Write files instead of previewing"
  | version => "Show the version and exit."
  | debug => "Enable debug logging"
  | help => "Show this message and exit."

/-- The names of the setting and of its value. -/
def term (s : Setting) : String :=
  (match s.letter? with | some c => String.ofList ['-', c, ',', ' '] | none => "") ++ s.name ++
    (match s.valueName? with | some value => " " ++ value | none => "")

end Setting

end Preflight.Command
