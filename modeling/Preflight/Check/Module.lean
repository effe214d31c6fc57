import Preflight.Check.Api
import Preflight.Check.Auth
import Preflight.Check.Database
import Preflight.Check.Dependencies
import Preflight.Check.Environment
import Preflight.Check.Layout
import Preflight.Check.Security

/-!
# Check modules

The seven checks in the order of a report. A check that is stopped by a failure gives a result
that says so, and the other checks go on.
-/

set_option autoImplicit false

namespace Preflight.Check

/-- The checks. -/
inductive Module
  | env
  | auth
  | api
  | project
  | security
  | dependencies
  | database
  deriving Repr, DecidableEq

namespace Module

/-- The checks in the order of a report. -/
def all : List Module := [.env, .auth, .api, .project, .security, .dependencies, .database]

/-- The name of a check. -/
def name : Module → String
  | .env => "env"
  | .auth => "auth"
  | .api => "api"
  | .project => "project"
  | .security => "security"
  | .dependencies => "dependencies"
  | .database => "database"

/-- The check with the name. -/
def ofName? (n : String) : Option Module := all.find? (·.name == n)

/-- A name leads back to its check. -/
theorem ofName?_name (m : Module) : ofName? m.name = some m := by
  cases m <;> decide

/-- The program of a check. -/
def scan : Module → Project → Scan Verdict
  | .env => Environment.run
  | .auth => Auth.run
  | .api => Api.run
  | .project => Layout.run
  | .security => Security.run
  | .dependencies => Dependencies.run
  | .database => Database.run

/-- The result of a check, which a failure stops. -/
def settle (m : Module) : Except Failure Verdict → Verdict
  | .ok verdict => verdict
  | .error failure => .stopped m.name failure.label

/-- The result of a check with the store that it leaves. -/
def run (m : Module) (p : Project) (store : Store) : Verdict × Store :=
  let (answer, store) := (m.scan p).run p.disk store
  (m.settle answer, store)

/-- The result of a check on its own. -/
def runFresh (m : Module) (p : Project) : Verdict := (m.run p (.fresh p.root)).1

end Module

end Preflight.Check
