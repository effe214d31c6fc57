import Preflight.Config
import Preflight.Homes
import Preflight.Moment.Basic

/-!
# Hosts

What a command sees of the machine it runs on. The root of a project is found with it: the path of
a configuration is taken from where one stands, with a home directory and all links resolved.
-/

set_option autoImplicit false

namespace Preflight

/-- The machine a command runs on. -/
structure Host extends Homes where
  disk : Disk
  /-- The directory in which one stands. -/
  here : Path
  now : Moment

/-- The root of the project that a configuration names. -/
def Config.root (c : Config) (host : Host) : Except Failure Path := do
  host.disk.realPath host.here (← host.expand c.path)

end Preflight
