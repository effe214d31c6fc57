import Preflight.Check.Module
import Preflight.Command.Setting

/-!
# Verbs

What the program can be told to do: to run one check, to report on all of them, or to fix what they
find. A name leads back to its verb.
-/

set_option autoImplicit false

namespace Preflight.Command

/-- What the program can be told to do. -/
inductive Verb
  | check (module : Check.Module)
  | report
  | fix
  deriving Repr, DecidableEq

namespace Verb

/-- The verbs, the checks in the order of a report. -/
def all : List Verb := Check.Module.all.map check ++ [report, fix]

/-- The name of a verb. -/
def name : Verb → String
  | check m => m.name
  | report => "report"
  | fix => "fix"

/-- The verb with the name. -/
def ofName? (n : String) : Option Verb := all.find? (·.name == n)

/-- A name leads back to its verb. -/
theorem ofName?_name (v : Verb) : ofName? v.name = some v := by
  cases v with
  | check m => cases m <;> decide
  | report => decide
  | fix => decide

/-- What a check looks at. -/
def checkSummary : Check.Module → String
  | .env => "Validate .env against .env.example and check secret strength."
  | .auth => "Check that sensitive routes carry auth middleware and JWT expiry is sane."
  | .api => "Check for a health endpoint and basic REST consistency."
  | .project => "Check README, .env.example, folder layout, error handling and package.json."
  | .security => "Check CORS, security headers, rate limiting, eval() and dynamic RegExp."
  | .dependencies => "Check package.json, lock file, frameworks and outdated packages."
  | .database => "Check database connection handling, pooling and migrations."

/-- What a verb does. -/
def summary : Verb → String
  | check m => checkSummary m
  | report => "Run every validator and print the combined verdict."
  | fix => "Generate fixes for common findings (dry-run unless --apply)."

/-- What can be set for a verb. -/
def settings : Verb → List Setting
  | check _ => [.path, .help]
  | report => [.path, .json, .verbose, .skip, .help]
  | fix => [.path, .apply, .help]

end Verb

/-- What can be set in front of a verb. -/
def programSettings : List Setting := [.version, .debug, .help]

end Preflight.Command
