import Preflight.Disk.Basic

/-!
# Real paths

The real path of a path has no links and no double points. A name that leads nowhere is kept, and
the walk goes on; a circle of links stops it.
-/

set_option autoImplicit false

namespace Preflight.Disk

/-- Where following the links has come to: the location, and the names that are left because a
circle of links was met. -/
structure Followed where
  location : Location
  left : List String
  deriving Repr, DecidableEq

/-- Follows the names from a location. `enter` follows a link: it is given the link's location,
the location of its directory and its target. -/
def followNames (disk : Disk) (enter : Location → Location → Path → Followed) :
    Location → List String → Followed
  | at_, [] => ⟨at_, []⟩
  | at_, name :: rest =>
    if name = ".." then followNames disk enter at_.dropLast rest
    else
      match disk.node? (at_ ++ [name]) with
      | some (.link target) =>
        match enter (at_ ++ [name]) at_ (Path.ofString target) with
        | ⟨location, []⟩ => followNames disk enter location rest
        | ⟨location, left⟩ => ⟨location, left ++ rest⟩
      | _ => followNames disk enter (at_ ++ [name]) rest

/-- Follows the names from a location through at most `depth` links inside each other; `entered`
holds the links on the way. A link that is entered again closes a circle and stays. -/
def follow (disk : Disk) : (depth : Nat) → (entered : List Location) → Location → List String →
    Followed
  | 0, _ => followNames disk fun link _ _ => ⟨link.dropLast, [link.getLastD ""]⟩
  | depth + 1, entered => followNames disk fun link at_ target =>
      if entered.contains link then ⟨link.dropLast, [link.getLastD ""]⟩
      else follow disk depth (link :: entered) (if target.start = .here then at_ else [])
        target.names

/-- The names without double points: each takes away the name before it. -/
def dropDoublePoints (names : List String) : Location :=
  names.foldl (fun at_ name => if name = ".." then at_.dropLast else at_ ++ [name]) []

/-- The path from where one stands, `cwd`, with links and double points resolved. Links inside
each other are no more than there are nodes. -/
def realPath (disk : Disk) (cwd path : Path) : Except Failure Path :=
  if path.text.toList.contains '\x00' then .error .nulInPath
  else
    let followed := disk.follow (disk.nodes.length + 1) [] [] (cwd.join path).names
    let real : Path := ⟨.top, dropDoublePoints (followed.location ++ followed.left)⟩
    match disk.stat real with
    | .error .tooManyLinks => .error (.linkCircle real.text)
    | _ => .ok real

end Preflight.Disk
