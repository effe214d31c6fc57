import Preflight.Disk.Basic

/-!
# Visible files

The visible files below a directory: those that real directories lead to, none of them hidden or a
package cache. A link counts unless it leads to a directory. The walk names directories and links by
their path from the root: a directory whose path is too long is not opened and a link whose path is
too long leads nowhere, without a complaint. The listing is sorted by code points, so that look-ups
in it are the same every time.
-/

set_option autoImplicit false

namespace Preflight.Disk

/-- A hidden name starts with a point. -/
def isHidden (name : String) : Bool := name.toList.head? == some '.'

/-- The directories of installed packages. -/
def packageCaches : List String := ["node_modules"]

/-- The name of a directory that is looked into. -/
def isOpenDirectory (name : String) : Bool := !isHidden name && !packageCaches.contains name

/-- The nodes below a location, by the names that lead to them from there. -/
def below (disk : Disk) (base : Location) : List (Location × Node) :=
  disk.nodes.filterMap fun (location, node) =>
    if base.isPrefixOf location && location != base then some (location.drop base.length, node)
    else none

/-- The names lead through open directories. -/
def isReached (nodes : List (Location × Node)) (names : Location) : Bool :=
  names.dropLast.all isOpenDirectory &&
    (names.ancestors.drop 1).all fun way => nodes.lookup way == some .directory

/-- The path by which a walk from a root names what the names lead to is not too long. -/
def canName (root : Path) (names : Location) : Bool :=
  decide ((root.walkText names).utf8ByteSize ≤ maxPathBytes)

/-- A walk from a root opens every directory on the way to what the names lead to. -/
def isOpened (root : Path) (names : Location) : Bool :=
  (names.ancestors.drop 1).all (canName root)

/-- A walk from a root takes the link that the names lead to for a directory. -/
def seesDirectory (disk : Disk) (root : Path) (names : Location) : Bool :=
  canName root names &&
    match disk.stat ⟨root.start, root.names ++ names⟩ with
    | .ok .directory => true
    | _ => false

/-- The node counts as a file of a listing: no directory, and no link to one. -/
def isListed (disk : Disk) (root : Path) (names : Location) : Node → Bool
  | .file _ _ => true
  | .directory => false
  | .link _ => !disk.seesDirectory root names

/-- The visible files below the location that a root leads to, in the order of the disk, as paths from
there. -/
def listedBelow (disk : Disk) (root : Path) (base : Location) : List String :=
  let nodes := disk.below base
  let listed := nodes.filter fun (names, node) =>
    !isHidden (names.getLastD "") && isReached nodes names && isOpened root names &&
      disk.isListed root names node
  listed.map fun (names, _) => String.intercalate "/" names

/-- The visible files below the location that a root leads to, sorted. -/
def visibleBelow (disk : Disk) (root : Path) (base : Location) : List String :=
  (disk.listedBelow root base).mergeSort fun a b => decide (a ≤ b)

/-- The visible files of the directory that a path leads to; none if it leads to no directory. -/
def visibleFiles (disk : Disk) (root : Path) : Except Failure (List String) :=
  match disk.isDirectory root with
  | .error failure => .error failure
  | .ok false => .ok []
  | .ok true =>
    match disk.locate root with
    | .ok found => .ok (disk.visibleBelow root found.location)
    | .error _ => .ok []

end Preflight.Disk
