import Preflight.Finding.Basic
import Preflight.Source.Route

/-!
# Results of checks

What a check says about a project: whether it passed, what it found, and what it noted besides.
-/

set_option autoImplicit false

namespace Preflight

/-- The result of one check. -/
structure Verdict where
  /-- The name of the check. -/
  name : String
  passed : Bool
  /-- The check did not apply; it counts as passed. -/
  skipped : Bool := false
  issues : List Finding := []
  warnings : List Finding := []
  /-- What speaks for the project. -/
  notes : List String := []
  /-- All routes, where the check looks at routes. -/
  routes : Option (List Route) := none
  /-- Sensitive routes without authentication, where the check looks for them. -/
  vulnerable : Option (List Route) := none
  /-- The database that the project uses. -/
  database : Option String := none
  /-- The number of declared dependencies. -/
  dependencies : Option Int := none
  deriving Repr, DecidableEq

namespace Verdict

/-- The check passed or did not apply. -/
def countsAsPassed (v : Verdict) : Bool := v.passed || v.skipped

/-- Issues and then warnings. -/
def findings (v : Verdict) : List Finding := v.issues ++ v.warnings

/-- The result of a check from what it found: it passes without issues, and praise is noted if
there is nothing to report at all. -/
def ofFindings (name : String) (issues warnings : List Finding) (notes : List String)
    (praise : String) : Verdict :=
  { name, passed := issues.isEmpty, issues, warnings
    notes := notes ++ if issues.isEmpty && warnings.isEmpty then [praise] else [] }

/-- The result of a check that was stopped by a failure. -/
def stopped (name : String) (failure : String) : Verdict :=
  { name, passed := false
    issues := [.issue .moduleError { subject := some name, detail := some failure }] }

end Verdict

end Preflight
