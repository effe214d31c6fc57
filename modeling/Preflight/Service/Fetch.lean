import Preflight.Disk.Basic

/-!
# Fetched projects

A remote project is fetched into a scratch directory, used there, and cleared away whatever the use
comes to. A fetch that fails leaves nothing behind. Where a project is fetched that has no commit,
finding its tip fails after the fetch, and the directory stays.
-/

set_option autoImplicit false

namespace Preflight.Service

/-- What is to be fetched: the newest state of one branch. -/
structure FetchOrder where
  url : String
  /-- The branch, where it is not the usual one. -/
  branch : Option String := none
  /-- The number of commits of the history. -/
  depth : Nat := 1
  /-- Other branches are left out. -/
  singleBranch : Bool := true
  deriving Repr, DecidableEq

/-- The order for a branch of the project behind an address; an empty name is no branch. -/
def FetchOrder.of (url : String) (branch : Option String) : FetchOrder :=
  { url, branch := branch.filter (· != "") }

/-- What fetching comes to. -/
inductive FetchResult
  /-- Nothing is fetched. -/
  | failed (failure : Failure)
  /-- A project is fetched, but its tip is not found. -/
  | noTip (failure : Failure)
  /-- A project is fetched; its tip is the commit. -/
  | tip (commit : String)
  deriving Repr, DecidableEq

/-- Where projects are fetched from, and to. -/
structure Remote where
  /-- The directory into which projects are fetched. -/
  scratch : Location
  /-- Fetches into the directory: what fetching comes to, with the disk after it. -/
  fetch : FetchOrder → Disk → FetchResult × Disk

namespace Remote

/-- The path of the scratch directory. -/
def path (r : Remote) : Path := ⟨.top, r.scratch⟩

/-- The disk without the scratch directory. -/
def clear (r : Remote) (disk : Disk) : Disk := disk.eraseBelow r.scratch

/-- Fetches a project. A fetch that fails is cleared away. -/
def clone (r : Remote) (order : FetchOrder) (disk : Disk) : Except Failure Unit × Disk :=
  match r.fetch order (disk.makeDirectories r.scratch) with
  | (.failed failure, disk) => (.error failure, r.clear disk)
  | (.noTip failure, disk) => (.error failure, disk)
  | (.tip _, disk) => (.ok (), disk)

/-- Fetches a project and uses it. After the use the project is cleared away. -/
def withClone {α : Type} (r : Remote) (order : FetchOrder) (disk : Disk)
    (use : Disk → Except Failure α × Disk) : Except Failure α × Disk :=
  match r.clone order disk with
  | (.error failure, disk) => (.error failure, disk)
  | (.ok (), disk) =>
    let (answer, disk) := use disk
    (answer, r.clear disk)

end Remote

end Preflight.Service
