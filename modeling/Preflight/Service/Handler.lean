import Preflight.Report.Validation
import Preflight.Service.Fetch
import Preflight.Service.Request

/-!
# Handling report requests

A report is made of the project at a path, or of one that is fetched for it. Failures of a fetch
and of a validation become replies. The path is looked at before that: a failure of this look is not
turned into a reply.
-/

set_option autoImplicit false

namespace Preflight.Service

/-- What handling comes to. -/
structure Handled where
  /-- The reply, or a failure that nothing took care of. -/
  reply : Except Failure Reply
  /-- What was to be fetched, if anything was. -/
  fetched : Option FetchOrder := none
  disk : Disk

/-- The reply to a report that was to be made. -/
def replyOf : Except Failure Report → Reply
  | .ok report => .report report
  | .error failure => .validationFailed failure

/-- The report on the project at a path. -/
def reportOn (host : Host) (path : Path) (skip : List String) : Except Failure Report :=
  validate host ⟨path, Skip.normal skip, {}⟩

/-- The directory that the path of a request leads to, with a home directory in place, if it leads to
one. -/
def directory? (host : Host) (path : String) : Except Failure (Option Path) := do
  let expanded ← host.expand (.ofString path)
  if ← host.disk.isDirectory (host.here.join expanded) then return some expanded
  else return none

/-- Handles a request for a report on the project at a path. -/
def handlePath (host : Host) (path : String) (skip : List String) : Handled :=
  match directory? host path with
  | .error failure => { reply := .error failure, disk := host.disk }
  | .ok none => { reply := .ok (.noProject path), disk := host.disk }
  | .ok (some directory) =>
    { reply := .ok (replyOf (reportOn host directory skip)), disk := host.disk }

/-- Handles a request for a report on a project that is fetched. -/
def handleFetched (host : Host) (remote : Remote) (order : FetchOrder) (skip : List String) :
    Handled :=
  let (report, disk) := remote.withClone order host.disk fun disk =>
    (reportOn { host with disk } remote.path skip, disk)
  { reply := .ok (replyOf report), fetched := some order, disk }

/-- Handles a request for a report. -/
def handle (host : Host) (remote : Remote) (request : ReportRequest) : Handled :=
  match request.target with
  | .path path => handlePath host path request.skip
  | .address url branch => handleFetched host remote (.of url branch) request.skip

end Preflight.Service
