import Preflight.Env.Table
import Preflight.Env.ValueKind
import Preflight.Scan
import Preflight.Text.Uppercase
import Preflight.Url.Parts
import Preflight.Verdict

/-!
# The environment check

Compares `.env` with `.env.example`, and looks at the values of `.env`: secrets that are empty or
short, and values that are not the URL, mail address or number that their key promises.
-/

set_option autoImplicit false

namespace Preflight.Check.Environment

open Pattern Env

/-- A key that names a secret. -/
def secretKey : Pattern := anyWord ["SECRET", "KEY", "PASSWORD", "TOKEN"]

/-- A key that names a password. -/
def passwordKey : Pattern := anyWord ["PASSWORD", "KEY"]

/-- Shorter secrets are weak. -/
def minSecretLength : Nat := 32

/-- Shorter passwords are doubtful. -/
def minKeyLength : Nat := 16

/-- The table of an environment file; a missing or unreadable one is empty. -/
def loadTable (disk : Disk) (path : Path) : Except Failure Table := do
  return match ← disk.readText? path with
  | some text => Table.ofText text
  | none => []

/-- The finding about the secret of a key: empty, weak or short, the first that applies. -/
def secretFinding? (key value : String) : Option Finding :=
  if !secretKey.occursIn key.toList then none
  else if value.isEmpty then some (.issue .emptySecret { subject := some key })
  else if value.length < minSecretLength && Text.mentions "SECRET" (Text.upper key) then
    some (.issue .weakSecret { subject := some key })
  else if value.length < minKeyLength && passwordKey.occursIn key.toList then
    some (.warning .shortSecret { subject := some key })
  else none

/-- What the part of a key promises of its value. -/
def promises : List (String × (String → Bool) × Kind) :=
  [("URL", Url.isValid, .invalidUrl), ("EMAIL", isEmail, .invalidEmail),
   ("PORT", isNumber, .invalidPort)]

/-- The warnings about a value that breaks a promise of its key. An empty value and a placeholder
break none. -/
def brokenPromises (key value : String) : List Finding :=
  if value.isEmpty then []
  else promises.filterMap fun (part, keeps, kind) =>
    if Text.mentions part key && !isPlaceholder value && !keeps value then
      some (.warning kind { subject := some key })
    else none

/-- The warning about keys that the example does not have. -/
def unusedWarning (expected actual : Table) : List Finding :=
  match actual.keys.filter (!expected.keys.contains ·) with
  | [] => []
  | unused => [.warning .unusedEnvVars { detail := some (String.intercalate ", " unused) }]

/-- The result from the two tables, where an absent file has none. -/
def verdict (actual expected : Option Table) : Verdict :=
  let values := actual.getD []
  let wanted := expected.getD []
  let secrets := values.filterMap fun (key, value) => secretFinding? key value
  let issues :=
    (if actual.isSome then [] else [Finding.issue .envFileMissing]) ++
    (wanted.keys.filter (!values.keys.contains ·)).map
      (fun key => Finding.issue .missingEnvVar { subject := some key }) ++
    secrets.filter (·.severity == .issue)
  let warnings :=
    (if expected.isSome then []
      else [Finding.warning .envExampleMissing { detail := some "recommended" }]) ++
    secrets.filter (·.severity == .warning) ++
    (if expected.isSome then unusedWarning wanted values else []) ++
    values.flatMap fun (key, value) => brokenPromises key value
  .ofFindings "env" issues warnings [] "All environment variables are properly configured"

/-- The table of a file if there is one. -/
def table? (disk : Disk) (path : Path) : Except Failure (Option Table) := do
  if ← disk.isFile path then return some (← loadTable disk path) else return none

/-- Checks the environment files of a project. -/
def run (p : Project) : Scan Verdict := do
  let actual ← table? p.disk (p.root / ".env")
  let expected ← table? p.disk (p.root / ".env.example")
  return verdict actual expected

end Preflight.Check.Environment
