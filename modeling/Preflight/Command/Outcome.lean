import Preflight.Command.Manual
import Preflight.Command.Complaint
import Preflight.Disk.Basic

/-!
# Outcomes

What a run of the program comes to: what was shown, the disk that is left, and an exit code or the
failure that stopped it. What was shown before a failure stays.
-/

set_option autoImplicit false

namespace Preflight.Command

/-- What a run comes to. -/
structure Outcome where
  /-- The exit code, or the failure that stopped the run. -/
  exit : Except Failure Nat
  output : String
  disk : Disk

namespace Outcome

/-- A run that shows a text and leaves the disk as it is. -/
def saying (disk : Disk) (code : Nat) (text : String) : Outcome := ⟨.ok code, text, disk⟩

/-- A run that a failure stops. -/
def stopped (disk : Disk) (failure : Failure) (output : String) : Outcome :=
  ⟨.error failure, output, disk⟩

/-- A run that a complaint ends, about the program or a verb. -/
def refused (disk : Disk) (verb? : Option Verb) (complaint : Complaint) : Outcome :=
  let header := if complaint.showsUsage then [usage verb?, helpHint verb?, ""] else []
  .saying disk 2 (linesText (header ++ ["Error: " ++ complaint.message]))

end Outcome

/-- The exit code of a verdict: zero speaks for the project. -/
def exitCode (isReady : Bool) : Nat := if isReady then 0 else 1

end Preflight.Command
