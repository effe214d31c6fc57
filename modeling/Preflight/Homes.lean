import Preflight.Disk.Path
import Preflight.Failure
import Preflight.Text.Part

/-!
# Home directories

A path may start from a home directory: `~` is one's own, and `~` with a name that of the user with
the name. The machine knows them, or does not.
-/

set_option autoImplicit false

namespace Preflight

/-- The home directories that a machine knows. -/
structure Homes where
  /-- One's own. -/
  home : Option Path := none
  /-- Those of users, by their names. -/
  users : List (String × Path) := []

/-- The first name of a path, if it stands for a home directory. -/
def Path.homeName? (p : Path) : Option String :=
  match p.start, p.names with
  | .here, name :: _ => if Text.beginsWith "~" name then some name else none
  | _, _ => none

namespace Homes

/-- The directory that a machine's table gives as a home. An empty one is the top. -/
def ofText (text : String) : Path :=
  if text.toList.all (· == '/') then ⟨.top, []⟩ else .ofString text

/-- The home directory that a name with a leading `~` stands for. -/
def named? (homes : Homes) (name : String) : Option Path :=
  if name = "~" then homes.home else homes.users.lookup (String.ofList (name.toList.drop 1))

/-- The path from the home directory that its first name stands for; other paths stay. A home that
starts from a home itself is as good as none. -/
def expand (homes : Homes) (path : Path) : Except Failure Path :=
  match path.homeName? with
  | none => .ok path
  | some name =>
    if name.toList.contains '\x00' then .error .nulInPath
    else
      match homes.named? name with
      | none => .error .unknownHome
      | some home =>
        if home.homeName?.isSome then .error .unknownHome
        else .ok ⟨home.start, home.names ++ path.names.drop 1⟩

end Homes

end Preflight
