import Preflight.Record.Integer
import Preflight.Verdict

/-!
# Reading and writing results

Routes, findings and the results of checks, from the values that give them and back. The message
of a finding follows from the rest: it is written, and passed over in reading.
-/

set_option autoImplicit false

namespace Preflight.Record

open Json

/-! ## Reading -/

/-- A route from the fields of an object. -/
def routeOf (fields : Fields) : Reading Route :=
  Route.mk
    <$> field "method" text fields
    <*> field "path" text fields
    <*> field "line" (atLeast 1) fields
    <*> fieldOr "file" "" text fields

/-- A route. -/
def route : Value → Reading Route := object .notRecord routeOf

/-- What a finding is about, from the fields of the finding. -/
def payloadOf (fields : Fields) : Reading Payload :=
  Payload.mk
    <$> field? "subject" text fields
    <*> field? "method" text fields
    <*> field? "path" text fields
    <*> field? "file" text fields
    <*> field? "line" integer fields
    <*> field? "detail" text fields

/-- A finding from the fields of an object. -/
def findingOf (fields : Fields) : Reading Finding :=
  Finding.mk
    <$> field "kind" (choice Kind.ofTag?) fields
    <*> field "severity" (choice Severity.ofTag?) fields
    <*> payloadOf fields

/-- A finding. -/
def finding : Value → Reading Finding := object .notRecord findingOf

/-- The result of a check from the fields of an object. -/
def verdictOf (fields : Fields) : Reading Verdict :=
  Verdict.mk
    <$> field "module" text fields
    <*> field "passed" flag fields
    <*> fieldOr "skipped" false flag fields
    <*> fieldOr "issues" [] (list finding) fields
    <*> fieldOr "warnings" [] (list finding) fields
    <*> fieldOr "notes" [] (list text) fields
    <*> field? "routes" (list route) fields
    <*> field? "vulnerable_routes" (list route) fields
    <*> field? "db_type" text fields
    <*> field? "total_dependencies" integer fields

/-- The result of a check. -/
def verdict : Value → Reading Verdict := object .notRecord verdictOf

/-! ## Writing -/

/-- An integer, or null if there is none. -/
def ofInt? : Option Int → Value
  | some n => .int n
  | none => .null

/-- A route as a value. -/
def ofRoute (r : Route) : Value :=
  .record
    [("method", .string r.method), ("path", .string r.path), ("line", .nat r.line),
     ("file", .string r.file)]

/-- A list of routes, or null if there is none. -/
def ofRoutes? : Option (List Route) → Value
  | some routes => .list (routes.map ofRoute)
  | none => .null

/-- A finding as a value, with its message. -/
def ofFinding (f : Finding) : Value :=
  .record
    [("kind", .string f.kind.tag), ("severity", .string f.severity.tag),
     ("subject", .string? f.payload.subject), ("method", .string? f.payload.method),
     ("path", .string? f.payload.path), ("file", .string? f.payload.file),
     ("line", ofInt? f.payload.line), ("detail", .string? f.payload.detail),
     ("message", .string f.message)]

/-- The result of a check as a value. -/
def ofVerdict (v : Verdict) : Value :=
  .record
    [("module", .string v.name), ("passed", .bool v.passed), ("skipped", .bool v.skipped),
     ("issues", .list (v.issues.map ofFinding)), ("warnings", .list (v.warnings.map ofFinding)),
     ("notes", .strings v.notes), ("routes", ofRoutes? v.routes),
     ("vulnerable_routes", ofRoutes? v.vulnerable), ("db_type", .string? v.database),
     ("total_dependencies", ofInt? v.dependencies)]

end Preflight.Record
