import Preflight.Disk.Basic
import Preflight.Fix.Action

/-!
# Applying actions

Actions are previewed or applied at the root of a project, in order. Applying creates the file of a
template unless something is there already; a failure stops it, and what was created before stays.
-/

set_option autoImplicit false

namespace Preflight

/-- What became of an action. -/
inductive FixStatus
  | created
  | skipped
  | wouldCreate
  | suggestion
  deriving Repr, DecidableEq

/-- The name of the status in an answer. -/
def FixStatus.tag : FixStatus → String
  | .created => "created"
  | .skipped => "skipped"
  | .wouldCreate => "would_create"
  | .suggestion => "suggestion"

/-- An action with what became of it. -/
structure FixOutcome where
  action : Action
  status : FixStatus
  /-- The path of the file that the action is about. -/
  path : Option Path := none
  deriving Repr, DecidableEq

/-- Why nothing was done. -/
def FixOutcome.reason (o : FixOutcome) : Option String :=
  if o.status = .skipped then some "File already exists" else none

/-- What became of all actions. -/
structure FixResponse where
  /-- Nothing was written. -/
  isPreview : Bool
  outcomes : List FixOutcome
  deriving Repr, DecidableEq

namespace FixResponse

/-- The number of actions with a status. -/
def count (r : FixResponse) (status : FixStatus) : Nat :=
  (r.outcomes.filter (·.status == status)).length

/-- What was done, in a sentence. -/
def summary (r : FixResponse) : String :=
  let suggestions := toString (r.count .suggestion) ++ " suggestion(s)"
  if r.isPreview then
    "Dry-run complete. " ++ toString (r.count .wouldCreate) ++ " file(s) would be created, " ++
      suggestions
  else "Created " ++ toString (r.count .created) ++ " file(s), " ++ suggestions

end FixResponse

namespace Action

/-- What applying an action would do, without a look at what is there. -/
def preview (root : Path) (action : Action) : FixOutcome :=
  match action.remedy with
  | .create template => ⟨action, .wouldCreate, some (root / template.file)⟩
  | .suggest _ => ⟨action, .suggestion, none⟩

/-- What applying all actions would do. -/
def previewAll (root : Path) (actions : List Action) : FixResponse :=
  ⟨true, actions.map (preview root)⟩

/-- Applies an action: what became of it, with the disk after it. -/
def apply (disk : Disk) (root : Path) (action : Action) : Except Failure (FixOutcome × Disk) :=
  match action.remedy with
  | .suggest _ => .ok (⟨action, .suggestion, none⟩, disk)
  | .create template => do
    let target := root / template.file
    if ← disk.pathExists target then return (⟨action, .skipped, some target⟩, disk)
    else return (⟨action, .created, some target⟩, ← disk.writeText target template.content)

/-- Applies actions in order until one fails: what became of them, or the failure, with the disk
that is left. -/
def applyEach (disk : Disk) (root : Path) : List Action → Except Failure (List FixOutcome) × Disk
  | [] => (.ok [], disk)
  | action :: rest =>
    match action.apply disk root with
    | .error failure => (.error failure, disk)
    | .ok (outcome, disk) =>
      let (outcomes, disk) := applyEach disk root rest
      (outcomes.map (outcome :: ·), disk)

/-- Applies all actions. -/
def applyAll (disk : Disk) (root : Path) (actions : List Action) :
    Except Failure FixResponse × Disk :=
  let (outcomes, disk) := applyEach disk root actions
  (outcomes.map (⟨false, ·⟩), disk)

end Action

end Preflight
