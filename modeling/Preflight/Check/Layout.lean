import Preflight.Check.RouteFiles
import Preflight.Manifest
import Preflight.Source.ErrorHandling
import Preflight.Verdict

/-!
# The project check

What a project should have for the people who work on it: an example environment file, a README
that says how to install or use it, a usual directory layout, error handling, and a manifest with a
start script and a description.
-/

set_option autoImplicit false

namespace Preflight.Check.Layout

open Pattern

/-- The names of a README; the first one that is there is read. -/
def readmeNames : List String := ["README.md", "README.txt", "readme.md"]

/-- The directories of a usual layout. -/
def usualFolders : List String :=
  ["src", "routes", "config", "middleware", "controllers", "models"]

/-- A README of at most this length is too short. -/
def minReadmeLength : Nat := 100

/-- Words of installing. -/
def installWords : Pattern := anyWord ["install", "setup", "getting started"]

/-- Words of using. -/
def usageWords : Pattern := anyWord ["usage", "how to", "example"]

/-- The files in which error handling is looked for, pattern by pattern. -/
def errorHandlerFiles : List String :=
  ["**/middleware/**/*.\x7bjs,ts\x7d", "**/middleware.\x7bjs,ts\x7d", "**/error*.\x7bjs,ts\x7d",
   "**/src/**/*.\x7bjs,ts\x7d"]

/-- One of the first `cap` files that the pattern matches handles errors. -/
def handlesErrorsIn (p : Project) (cap : Nat) (pattern : String) : Scan Bool := do
  let files ← p.find [pattern]
  Scan.anyOf (files.take cap) fun path => do
    return (← Scan.code? path).any Source.handlesErrors

/-- The project handles errors in one of the usual places, or in its main files. -/
def handlesErrors (p : Project) : Scan Bool := do
  if ← Scan.anyOf errorHandlerFiles (handlesErrorsIn p p.limits.errorHandlerFilesPerGlob) then
    return true
  else handlesErrorsIn p p.limits.errorHandlerMainFiles mainFiles

/-- The warning about the text of a README. -/
def readmeWarning? (name content : String) : Option Finding :=
  if content.length ≤ minReadmeLength then
    some (.warning .readmeTooShort { file := some name })
  else if !installWords.occursIn content.toList && !usageWords.occursIn content.toList then
    some (.warning .readmeNoInstructions { file := some name })
  else none

/-- The issue about a manifest. -/
def manifestIssue? : Manifest → Option Finding
  | .missing => some (.issue .packageJsonMissing)
  | _ => none

/-- The warnings about a manifest. -/
def manifestWarnings : Manifest → List Finding
  | .missing => []
  | .malformed => [.warning .packageJsonMalformed { file := some "package.json" }]
  | m =>
    (if m.startScript?.isSome then []
      else [.warning .missingStartScript { file := some "package.json" }]) ++
    (if m.description.isEmpty then
        [.warning .missingDescription { file := some "package.json" }]
      else [])

/-- What was found out about a project. -/
structure Facts where
  hasExample : Bool
  /-- The README and its text. -/
  readme : Option (String × String)
  hasFolders : Bool
  handlesErrors : Bool
  manifest : Manifest

/-- The result from the facts. -/
def verdict (f : Facts) : Verdict :=
  let issues :=
    (if f.hasExample then [] else [.issue .envExampleMissing { detail := some "required" }]) ++
    (if f.readme.isSome then [] else [.issue .readmeMissing]) ++
    (if f.handlesErrors then [] else [.issue .noErrorHandler]) ++
    (manifestIssue? f.manifest).toList
  let warnings :=
    (f.readme.bind fun (name, content) => readmeWarning? name content).toList ++
    (if f.hasFolders then [] else [.warning .noStandardStructure]) ++
    manifestWarnings f.manifest
  let notes :=
    (if f.hasExample then [".env.example found"] else []) ++
    (if f.readme.isSome then ["README found"] else []) ++
    (if f.handlesErrors then ["Error handling found"] else [])
  .ofFindings "project" issues warnings notes "Project structure looks good"

/-- The first of the names that is a file in the project. -/
def firstFile? (p : Project) : List String → Except Failure (Option String)
  | [] => .ok none
  | name :: rest => do
    if ← p.disk.isFile (p.root / name) then return some name else firstFile? p rest

/-- The README and its text; one that is unreadable has none. -/
def readme? (p : Project) : Scan (Option (String × String)) := do
  match ← firstFile? p readmeNames with
  | none => return none
  | some name => return some (name, (← Scan.text (p.root / name)).getD "")

/-- One of the names leads to something in the project. -/
def anyExists (p : Project) (names : List String) : Except Failure Bool :=
  names.foldlM (fun found name => return (← p.disk.pathExists (p.root / name)) || found) false

/-- Checks the layout of a project. -/
def run (p : Project) : Scan Verdict := do
  let hasExample ← p.disk.isFile (p.root / ".env.example")
  let readme ← readme? p
  let hasFolders ← anyExists p usualFolders
  let handlesErrors ← handlesErrors p
  let manifest ← Manifest.load p.disk p.root
  return verdict { hasExample, readme, hasFolders, handlesErrors, manifest }

end Preflight.Check.Layout
