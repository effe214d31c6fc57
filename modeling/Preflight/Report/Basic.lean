import Preflight.Moment.Basic
import Preflight.Verdict

/-!
# Reports

A report holds the results of the checks that were run, in order, each under its name. A project is
ready if every result counts as passed.
-/

set_option autoImplicit false

namespace Preflight

/-- The results of the checks of a project. -/
structure Report where
  /-- When the checks were run. -/
  made : Moment
  /-- The root of the project. -/
  path : String
  /-- The results by name. -/
  results : List (String × Verdict) := []
  deriving Repr, DecidableEq

namespace Report

/-- The results in order. -/
def verdicts (r : Report) : List Verdict := r.results.map (·.2)

/-- The project is ready. -/
def isReady (r : Report) : Bool := r.verdicts.all Verdict.countsAsPassed

/-- The word for the state of the project. -/
def word (r : Report) : String := if r.isReady then "READY" else "NOT_READY"

/-- The sum of some counts. -/
def total (counts : List Nat) : Nat := counts.foldr (· + ·) 0

/-- The number of issues. -/
def issueCount (r : Report) : Nat := total (r.verdicts.map (·.issues.length))

/-- The number of warnings. -/
def warningCount (r : Report) : Nat := total (r.verdicts.map (·.warnings.length))

/-- Everything that was found, result by result, issues first. -/
def findings (r : Report) : List Finding := r.verdicts.flatMap Verdict.findings

/-- The issues, result by result. -/
def issues (r : Report) : List Finding := r.verdicts.flatMap Verdict.issues

end Report

end Preflight
