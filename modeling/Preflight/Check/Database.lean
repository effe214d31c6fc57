import Preflight.Check.Environment
import Preflight.DatabaseKind
import Preflight.Manifest

/-!
# The database check

Applies when the environment or the manifest speaks of a database. It looks for error handling and
pooling where connections are made, for migrations, and for a URL that leads to the same machine.
-/

set_option autoImplicit false

namespace Preflight.Check.Database

open Pattern

/-- A key that speaks of a database. -/
def databaseKey : Pattern := anyWord ["DATABASE", "DB", "MONGO", "POSTGRES", "MYSQL", "REDIS"]

/-- The handling of a failed connection. -/
def connectionHandling : Pattern :=
  choice [wordAnyCase "catch", wordAnyCase "error",
    wordAnyCase "on(" ++ one isPlainQuote ++ wordAnyCase "error" ++ one isPlainQuote ++ char ')']

/-- A pool of connections. -/
def pooling : Pattern :=
  choice [wordAnyCase "pool", wordAnyCase "pooling",
    wordAnyCase "max" ++ gap inLine ++ wordAnyCase "connection"]

/-- The files in which connections are made. -/
def connectionFiles : List String :=
  ["**/\x7bdb,database,config\x7d/**/*.\x7bjs,ts\x7d", "**/*connection*.\x7bjs,ts\x7d"]

/-- The files of models and schemas. -/
def modelFiles : List String := ["**/\x7bmodels,schemas\x7d/**/*.\x7bjs,ts\x7d"]

/-- The files of migrations. -/
def migrationFiles : List String := ["**/\x7bmigrations,migrate\x7d/**/*.\x7bjs,ts,sql\x7d"]

/-- What was found out about the database of a project. -/
structure Facts where
  /-- The connection URL, empty if there is none. -/
  url : String
  /-- The database of the first declared driver. -/
  driver : Option String
  /-- Connection files were looked at. -/
  hasConnection : Bool
  handled : Bool
  pooled : Bool
  hasMigrations : Bool
  hasModels : Bool

/-- The database that the URL names, or else that of the driver. -/
def Facts.database? (f : Facts) : Option String :=
  (DatabaseKind.ofUrl? f.url).or f.driver

/-- The URL leads to the same machine. -/
def Facts.isLocal (f : Facts) : Bool :=
  Text.mentions "localhost" f.url || Text.mentions "127.0.0.1" f.url

/-- The result from the facts. -/
def verdict (f : Facts) : Verdict :=
  let issues :=
    if f.hasConnection && !f.handled then [Finding.issue .dbConnectionHandlingMissing] else []
  let warnings :=
    (if f.isLocal then [Finding.warning .dbLocalhostUrl { subject := some "DATABASE_URL" }]
      else []) ++
    (if f.driver.isSome && !f.pooled then [Finding.warning .dbPoolingMissing] else []) ++
    (if f.driver.isSome && !f.hasMigrations then [Finding.warning .dbMigrationsMissing] else [])
  let notes :=
    (f.database?.map ("Database type detected: " ++ ·)).toList ++
    (if f.hasConnection then ["Database connection file found"] else []) ++
    (if f.hasModels then ["Database models/schemas found"] else []) ++
    (if f.handled then ["Connection error handling found"] else [])
  { Verdict.ofFindings "database" issues warnings notes "Database configuration looks good" with
    database := f.database? }

/-- The result for a project without a database. -/
def notNeeded : Verdict := { name := "database", passed := true, skipped := true }

/-- The database of the first driver package that is declared. -/
def driver? (m : Manifest) : Option String :=
  (DatabaseKind.drivers.find? fun (package, _) => m.declares package).map (·.2)

/-- Checks the database of a project. -/
def run (p : Project) : Scan Verdict := do
  let env ← Environment.loadTable p.disk (p.root / ".env")
  let manifest ← Manifest.load p.disk p.root
  let driver := driver? manifest
  if !((Env.Table.keys env).any fun key => databaseKey.occursIn key.toList) && driver.isNone then
    return notNeeded
  else
    let files ← p.find connectionFiles
    let files := files.take p.limits.databaseConnectionFiles
    let sources := (← Scan.forEach files Scan.code?).filterMap id
    let all ← Scan.files
    return verdict
      { url := (Env.Table.get? env "DATABASE_URL").getD ""
        driver
        hasConnection := !files.isEmpty
        handled := sources.any (connectionHandling.occursIn ·.toList)
        pooled := sources.any (pooling.occursIn ·.toList)
        hasMigrations := !(Glob.find p.root all migrationFiles).isEmpty
        hasModels := !(Glob.find p.root all modelFiles).isEmpty }

end Preflight.Check.Database
