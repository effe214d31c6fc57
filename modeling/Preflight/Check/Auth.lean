import Preflight.Check.RouteFiles
import Preflight.Source.Expiry
import Preflight.Source.Guard
import Preflight.Source.RoutePath
import Preflight.Verdict

/-!
# The authentication check

A route whose path looks sensitive must have authentication mentioned around it, and tokens must
not live too long.
-/

set_option autoImplicit false

namespace Preflight.Check.Auth

/-- Tokens that live longer get a warning. -/
def recommendedExpiry : Nat := 7 * Duration.day

/-- Tokens that live longer are an issue. -/
def allowedExpiry : Nat := Duration.year

/-- The sensitive routes of a text without authentication around them. -/
def unguarded (code : String) (routes : List Route) : List Route :=
  routes.filter fun r => RoutePath.isSensitive r.path && !Source.isGuarded code r.line

/-- The issue about a route without authentication. -/
def unguardedIssue (r : Route) : Finding :=
  .issue .unprotectedRoute
    { method := some r.method, path := some r.path, file := some r.file, line := some r.line }

/-- The finding about a token expiry in a file. -/
def expiryFinding? (file : String) (expiry : Nat) : Option Finding :=
  let payload : Payload := { detail := some (Duration.format expiry), file := some file }
  if expiry > allowedExpiry then some (.issue .jwtExpiryTooLong payload)
  else if expiry > recommendedExpiry then some (.warning .jwtExpiryLong payload)
  else none

/-- What one file gives: its unguarded routes, and the finding about its token expiry. -/
structure FileReport where
  unguarded : List Route := []
  expiry : Option Finding := none

/-- Looks at one file; a missing or empty one gives nothing. -/
def checkFile (p : Project) (path : Path) : Scan FileReport := do
  match ← Scan.code? path with
  | none => return {}
  | some code =>
    let routes ← Scan.routesIn path
    let expiry ← Source.expiry? code
    return ⟨unguarded code routes, expiry.bind (expiryFinding? (p.relative path))⟩

/-- The result from the reports of the files in order. -/
def verdict (reports : List FileReport) : Verdict :=
  let issues := reports.flatMap fun r =>
    r.unguarded.map unguardedIssue ++ r.expiry.toList.filter (·.severity == .issue)
  let warnings := reports.flatMap fun r => r.expiry.toList.filter (·.severity == .warning)
  { Verdict.ofFindings "auth" issues warnings [] "All routes are properly protected" with
    vulnerable := some (reports.flatMap (·.unguarded)) }

/-- The result for a project without route files. -/
def noRoutes : Verdict :=
  { name := "auth", passed := false, issues := [.issue .noRouteFiles], vulnerable := some [] }

/-- Checks the authentication of a project. -/
def run (p : Project) : Scan Verdict := do
  match ← findRouteFiles p true with
  | [] => return noRoutes
  | files => return verdict (← Scan.forEach files (checkFile p))

end Preflight.Check.Auth
