import Preflight.Console.Table
import Preflight.Report.Basic
import Preflight.Text.Uppercase

/-!
# Printing reports

Each result is printed as a section that ends with what it comes to, and a report as a table with
the totals and the final verdict. `Ending.isReady` says which endings speak for a project.
-/

set_option autoImplicit false

namespace Preflight.Console

/-! ## Sections -/

/-- How the section of a result ends. -/
inductive Ending
  | skipped
  | noRoutes
  | ready
  | readyWithWarnings
  | notReady
  deriving Repr, DecidableEq

namespace Ending

/-- The ending for a result. -/
def of (v : Verdict) : Ending :=
  if v.skipped then .skipped
  else if v.issues.any (·.kind == .noRouteFiles) then .noRoutes
  else if v.passed then (if v.warnings.isEmpty then .ready else .readyWithWarnings)
  else .notReady

/-- The ending speaks for the project. -/
def isReady : Ending → Bool
  | .skipped | .ready | .readyWithWarnings => true
  | .noRoutes | .notReady => false

/-- The ending in words. -/
def text : Ending → String
  | .skipped => "SKIPPED (No database detected)"
  | .noRoutes => "NOT READY (No routes found)"
  | .ready => "READY"
  | .readyWithWarnings => "READY (with warnings)"
  | .notReady => "NOT READY"

end Ending

/-- A closing line: what something comes to. -/
def verdictLine (isReady : Bool) (message : String) : String :=
  "\n" ++ styled (if isReady then "success" else "error") (literal message)

/-- A finding. -/
def findingLine (f : Finding) : String :=
  match f.severity with
  | .issue => error f.message
  | .warning => warning f.message

/-- A route without authentication. -/
def routeLine (r : Route) : String :=
  error (r.method ++ " " ++ r.path ++ " (" ++ r.file ++ ":" ++ toString r.line ++ ")")

/-- The routes without authentication under their heading; no heading without routes. -/
def routeLines (routes : List Route) : List String :=
  if routes.isEmpty then []
  else ("\n" ++ styled "bold" "Vulnerable Routes:") :: routes.map routeLine

/-- What a section says between its heading and its ending. A skipped check says nothing. -/
def sectionBody (v : Verdict) : List String :=
  if v.skipped then []
  else v.notes.map success ++ v.issues.map findingLine ++ v.warnings.map findingLine ++
    routeLines (v.vulnerable.getD [])

/-- The section of a result. -/
def sectionLines (v : Verdict) : List String :=
  let name := Text.upper v.name
  ("\n" ++ styled "info" (name ++ " VALIDATION") ++ "\n") :: sectionBody v ++
    [verdictLine (Ending.of v).isReady (name ++ ": " ++ (Ending.of v).text)]

/-- Prints the section of a result. -/
def printSection (v : Verdict) : Except Failure String := printAll (sectionLines v)

/-! ## Summary -/

/-- The word for a result in the summary. -/
def statusWord (v : Verdict) : String :=
  if v.skipped then "SKIP" else if v.passed then "PASS" else "FAIL"

/-- The columns of the summary. -/
def summaryColumns : List Column :=
  [⟨"Module", .left⟩, ⟨"Status", .left⟩, ⟨"Issues", .right⟩, ⟨"Warnings", .right⟩]

/-- The row of a result in the summary. -/
def summaryRow (name : String) (v : Verdict) : Except Failure (List (List Char)) := do
  let shown ← plain (Text.upper name).toList
  return [shown, (statusWord v).toList, (toString v.issues.length).toList,
    (toString v.warnings.length).toList]

/-- The findings of the results that have any, each under its name. -/
def detailLines (r : Report) : List String :=
  ("\n" ++ styled "bold" "Detailed Issues:") :: r.results.flatMap fun (name, v) =>
    if v.findings.isEmpty then []
    else ("\n" ++ styled "bold" (Text.upper name ++ ":")) :: v.findings.map findingLine

/-- The lines at the end of a summary. -/
def closingLines (isReady : Bool) : List String :=
  if isReady then
    [verdictLine true "FINAL VERDICT: READY TO SHIP",
     success "Your backend project looks ready for deployment!"]
  else
    [verdictLine false "FINAL VERDICT: NOT READY",
     error "Please fix the issues above before deploying."]

/-- Prints the summary of a report: the table, the totals, the findings if `verbose` asks for
them, and the final verdict. -/
def printSummary (r : Report) (verbose : Bool) : Except Failure String := do
  let rows ← r.results.mapM fun (name, v) => summaryRow name v
  let totals :=
    ["Total Issues: " ++ toString r.issueCount, "Total Warnings: " ++ toString r.warningCount]
  let rest ← printAll
    (totals ++ (if verbose then detailLines r else []) ++ closingLines r.isReady)
  return rule "SUMMARY" ++ table summaryColumns rows ++ rest

/-- Prints the sections of all results and then the summary. -/
def printReport (r : Report) (verbose : Bool) : Except Failure String := do
  let sections ← r.verdicts.mapM printSection
  return String.join sections ++ (← printSummary r verbose)

end Preflight.Console
