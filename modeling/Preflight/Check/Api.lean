import Preflight.Check.RouteFiles
import Preflight.Source.RoutePath
import Preflight.Verdict

/-!
# The API check

An API should have a health endpoint, and what can be created or changed should be readable.
-/

set_option autoImplicit false

namespace Preflight.Check.Api

/-- The route paths in the order of their first registration. -/
def paths (routes : List Route) : List String := (routes.map (·.path)).eraseDups

/-- The verbs registered for a path, in order. -/
def methods (routes : List Route) (path : String) : List String :=
  (routes.filter (·.path == path)).map (·.method)

/-- The path can be read. -/
def isReadable (routes : List Route) (path : String) : Bool :=
  (methods routes path).contains "GET"

/-- The warning about a path that is posted to while neither it nor its collection is readable. -/
def creationWarning? (routes : List Route) (path : String) : Option Finding :=
  let parent := RoutePath.collection path
  if (methods routes path).contains "POST" && !isReadable routes path && parent != path &&
      !isReadable routes parent then
    some (.warning .postWithoutCollectionGet { path := some path })
  else none

/-- The warning about a path that is changed but not readable, with the first verb of change. -/
def updateWarning? (routes : List Route) (path : String) : Option Finding :=
  if isReadable routes path then none
  else ((methods routes path).find? fun m => m == "PUT" || m == "PATCH").map fun m =>
    .warning .updateWithoutGet { method := some m, path := some path }

/-- The result for the routes of all files. -/
def verdict (routes : List Route) : Verdict :=
  let healthy := routes.any fun r => RoutePath.isHealth r.path
  let issues := if healthy then [] else [.issue .missingHealthEndpoint]
  let warnings := (paths routes).flatMap fun path =>
    (creationWarning? routes path).toList ++ (updateWarning? routes path).toList
  { Verdict.ofFindings "api" issues warnings (if healthy then ["Health endpoint found"] else [])
      "API structure looks good" with
    routes := some routes }

/-- The result for a project without route files. -/
def noRoutes : Verdict :=
  { name := "api", passed := false, issues := [.issue .noRouteFiles], routes := some [] }

/-- Checks the API of a project. -/
def run (p : Project) : Scan Verdict := do
  match ← findRouteFiles p false with
  | [] => return noRoutes
  | files => return verdict (← Scan.forEach files Scan.routesIn).flatten

end Preflight.Check.Api
