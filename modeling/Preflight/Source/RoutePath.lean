import Preflight.Pattern.Basic
import Preflight.Text.Part

/-!
# Route paths

What a route path says by itself: that the route is sensitive, that it answers health checks, and
the collection that it belongs to.
-/

set_option autoImplicit false

namespace Preflight.RoutePath

open Pattern

/-- Beginnings of a sensitive path. -/
def sensitiveStarts : List Pattern :=
  [wordAnyCase "/admin", wordAnyCase "/api/admin"]

/-- Parts that make a path sensitive wherever they stand. -/
def sensitiveParts : List Pattern :=
  (["/users", "/profile", "/settings", "/account", "/dashboard", "/delete", "/update", "/create",
    "/edit", "/password", "/auth/change"].map wordAnyCase) ++
  [wordAnyCase "/api/v" ++ runOne Text.isDigit ++ char '/' ++ gap inLine ++
    anyWord ["user", "admin", "auth", "profile", "settings"]]

/-- The path looks as if its route needed authentication. -/
def isSensitive (path : String) : Bool :=
  sensitiveStarts.any (·.startsAt path.toList) || sensitiveParts.any (·.occursIn path.toList)

/-- The paths at which a health check is expected. -/
def healthPaths : List String := ["/health", "/healthz", "/ping", "/status", "/api/health"]

/-- The path is one of the health paths or lies below one. -/
def isHealth (path : String) : Bool :=
  healthPaths.any fun h => path == h || Text.beginsWith (h ++ "/") path

/-- The path without its last segment: the last slash and what follows it, if anything does. -/
def collection (path : String) : String :=
  let chars := path.toList.reverse
  match chars.takeWhile (· != '/'), chars.dropWhile (· != '/') with
  | _ :: _, _ :: before => String.ofList before.reverse
  | _, _ => path

end Preflight.RoutePath
