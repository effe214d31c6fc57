import Preflight.Manifest
import Preflight.Release
import Preflight.Scan
import Preflight.Text.Part
import Preflight.Verdict

/-!
# The dependency check

Looks at the manifest and the lock file. Only a missing or malformed manifest is an issue;
everything else is a warning.
-/

set_option autoImplicit false

namespace Preflight.Check.Dependencies

/-- The names of a lock file. -/
def lockFiles : List String := ["package-lock.json", "yarn.lock", "pnpm-lock.yaml"]

/-- The packages of the usual web frameworks. -/
def webFrameworks : List String := ["express", "fastify", "koa", "nestjs", "@nestjs/core"]

/-- The packages that a service should have for its security. -/
def securityPackages : List String :=
  ["helmet", "cors", "express-rate-limit", "bcrypt", "jsonwebtoken"]

/-- Packages with the oldest release that is safe. -/
def minimums : List (String × Release) :=
  [("express", ⟨[4, 17, 0]⟩), ("lodash", ⟨[4, 17, 21]⟩)]

/-- Why older releases are reported. -/
def outdatedReason : String := "Older versions have security vulnerabilities"

/-- Tools that do not belong into a start script. -/
def devTools : List String := ["nodemon", "ts-node-dev"]

/-- More dependencies are too many. -/
def maxDependencies : Nat := 100

/-- The warning about a package whose declared range admits a release below the minimum. -/
def outdatedWarning? (m : Manifest) (package : String) (minimum : Release) :
    Except Failure (Option Finding) := do
  match m.range? package with
  | none => return none
  | some range =>
    return (← Release.declared? range).bind fun declared =>
      if declared.isBefore minimum then
        some (.warning .outdatedPackage
          { subject := some package, detail := some outdatedReason, file := some "package.json" })
      else none

/-- The text of the start script; one that stands for nothing is empty. -/
def startScript (m : Manifest) : String :=
  (m.startScript?.map fun v => v.display.toString).getD ""

/-- The result for a well-formed manifest. -/
def verdict (m : Manifest) (hasLock : Bool) : Except Failure Verdict := do
  let outdated ← minimums.mapM fun (package, minimum) => outdatedWarning? m package minimum
  let hasFramework := webFrameworks.any m.declares
  let missing := securityPackages.filter (!m.declares ·)
  let total := m.dependencies.length
  let warnings :=
    (if hasLock then [] else [Finding.warning .lockFileMissing]) ++
    (if hasFramework then [] else [Finding.warning .noWebFramework]) ++
    (if missing.isEmpty then []
      else [Finding.warning .missingSecurityPackages
        { detail := some (String.intercalate ", " missing) }]) ++
    outdated.filterMap id ++
    (if total > maxDependencies then
        [Finding.warning .tooManyDependencies { detail := some (toString total) }]
      else []) ++
    (if devTools.any (Text.mentions · (startScript m)) then
        [Finding.warning .devToolsInStart { file := some "package.json" }]
      else [])
  let notes :=
    (if hasLock then ["Lock file found"] else []) ++
    (if hasFramework then ["Web framework detected"] else [])
  return { Verdict.ofFindings "dependencies" [] warnings notes "Dependencies look good" with
    dependencies := some total }

/-- The result for a manifest that gives nothing to look at. -/
def failed (issue : Finding) : Verdict :=
  { name := "dependencies", passed := false, issues := [issue] }

/-- One of the names is a file in the project; names after the first that is one are not tried. -/
def anyFile (p : Project) : List String → Except Failure Bool
  | [] => .ok false
  | name :: rest => do
    if ← p.disk.isFile (p.root / name) then return true else anyFile p rest

/-- Checks the dependencies of a project. -/
def run (p : Project) : Scan Verdict := do
  match ← Manifest.load p.disk p.root with
  | .missing => return failed (.issue .packageJsonMissing)
  | .malformed => return failed (.issue .packageJsonMalformed { file := some "package.json" })
  | m => do
    let hasLock ← anyFile p lockFiles
    Scan.ofExcept (verdict m hasLock)

end Preflight.Check.Dependencies
