import Preflight.Scan

/-!
# Route files

The source files in which routes are looked for: those in the usual directories, or else the main
files of the application.
-/

set_option autoImplicit false

namespace Preflight.Check

/-- The main files of an application. -/
def mainFiles : String := "**/\x7bapp,server,index,main\x7d.\x7bjs,ts\x7d"

/-- Source files in route, API and source directories, and `routes` files. -/
def routeFiles : List String :=
  ["**/routes/**/*.\x7bjs,ts,jsx,tsx\x7d", "**/routes.\x7bjs,ts,jsx,tsx\x7d",
   "**/api/**/*.\x7bjs,ts,jsx,tsx\x7d"]

/-- Source files in controller directories. -/
def controllerFiles : List String := ["**/controllers/**/*.\x7bjs,ts,jsx,tsx\x7d"]

/-- All files in source directories. -/
def sourceFiles : List String := ["**/src/**/*.\x7bjs,ts,jsx,tsx\x7d"]

/-- The files in which routes are looked for. -/
def findRouteFiles (p : Project) (withControllers : Bool) : Scan (List Path) := do
  let controllers := if withControllers then controllerFiles else []
  let found ← p.find (routeFiles ++ controllers ++ sourceFiles)
  if found.isEmpty then p.find [mainFiles] else return found

end Preflight.Check
