import Preflight.Command.Outcome
import Preflight.Console.Report
import Preflight.Fix.Apply
import Preflight.Record.Report
import Preflight.Report.Validation

/-!
# Performing verbs

What a check, a report and a fix show and do. A check and a report exit with zero exactly if the
project is ready. A report that is saved is written into the project. A fix is previewed unless it
is to be applied.
-/

set_option autoImplicit false

namespace Preflight.Command

open Console

/-! ## Check -/

/-- The outcome of one check: its section is shown. -/
def runCheck (host : Host) (config : Config) (m : Check.Module) : Outcome :=
  let answer := do
    let report ← validate host config (some [m.name])
    return (report, ← report.verdicts.mapM printSection)
  match answer with
  | .error failure => .stopped host.disk failure ""
  | .ok (report, sections) => .saying host.disk (exitCode report.isReady) (String.join sections)

/-! ## Report -/

/-- The file into which a report is saved. -/
def reportFile : String := "ready-to-ship-report.json"

/-- The heading above a report. -/
def reportHeading : String := rule "READY-TO-SHIP REPORT"

/-- Saves a report in the project: the disk after it, and the message about it. -/
def saveReport (disk : Disk) (report : Report) : Except Failure (Disk × String) := do
  let target := Path.ofString report.path / reportFile
  let text ← Record.reportText report
  let disk ← disk.writeText target text
  return (disk, ← print (success ("JSON report saved to: " ++ target.text)))

/-- The outcome of a report on all checks: it is shown, and saved if `save` says so. -/
def runReport (host : Host) (config : Config) (save verbose : Bool) : Outcome :=
  let answer := do
    let report ← validate host config
    return (report, ← printReport report verbose)
  match answer with
  | .error failure => .stopped host.disk failure reportHeading
  | .ok (report, shown) =>
    let output := reportHeading ++ shown
    let code := exitCode report.isReady
    if save then
      match saveReport host.disk report with
      | .error failure => .stopped host.disk failure output
      | .ok (disk, message) => .saying disk code (output ++ message)
    else .saying host.disk code output

/-! ## Fix -/

/-- The checks whose findings can be fixed. -/
def fixable : List Check.Module := [.env, .auth, .api, .project, .security]

/-- The heading above fixes. -/
def fixHeading : String := rule "AUTO-FIX"

/-- Shows what became of an action. -/
def printOutcome (o : FixOutcome) : Except Failure String :=
  let file := match o.action.remedy with
    | .create template => template.file
    | .suggest _ => ""
  match o.status with
  | .created => print (success ("Created " ++ file))
  | .skipped => print (warning (file ++ " already exists, skipping"))
  | .wouldCreate => print (info ("[DRY RUN] Would create " ++ file))
  | .suggestion => .ok (printPlain ("  - " ++ o.action.remedy.description).toList)

/-- Shows what became of all actions, and how to apply them after a preview. -/
def printResponse (r : FixResponse) : Except Failure String := do
  let outcomes ← r.outcomes.mapM printOutcome
  let closing ← printAll
    (info r.summary :: if r.isPreview then [info "Run with --apply to write files."] else [])
  return String.join outcomes ++ closing

/-- The actions for what the fixable checks find, with the root of the project. -/
def fixActions (host : Host) (config : Config) : Except Failure (Path × List Action) := do
  let report ← validate host config (some (fixable.map Check.Module.name))
  return (← config.root host, Action.ofFindings report.findings)

/-- The outcome that shows a text behind a heading, or the heading alone if a failure stops the
run. -/
def showingBehind (disk : Disk) (heading : String) : Except Failure String → Outcome
  | .error failure => .stopped disk failure heading
  | .ok text => .saying disk 0 (heading ++ text)

/-- The outcome of a fix: the actions for what the fixable checks find are applied or previewed. -/
def runFix (host : Host) (config : Config) (apply : Bool) : Outcome :=
  match fixActions host config with
  | .error failure => .stopped host.disk failure ""
  | .ok (_, []) =>
    showingBehind host.disk fixHeading (print (success "No auto-fixable issues found!"))
  | .ok (root, actions) =>
    let (response, disk) :=
      if apply then Action.applyAll host.disk root actions
      else (.ok (Action.previewAll root actions), host.disk)
    showingBehind disk fixHeading (response >>= printResponse)

end Preflight.Command
