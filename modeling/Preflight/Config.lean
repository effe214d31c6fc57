import Preflight.Check.Module
import Preflight.Disk.RealPath
import Preflight.Json.Basic
import Preflight.Text.Lowercase

/-!
# Configurations

A configuration says where the project is, which checks to leave out, and how many files to open.
Names in a skip list are compared without blanks around them and in lower case; a name that is no
check is ignored with a note.
-/

set_option autoImplicit false

namespace Preflight

/-- Where to look and what to leave out. -/
structure Config where
  /-- The path of the project as it was given. -/
  path : Path
  /-- The names of the checks to leave out. -/
  skip : List String := []
  limits : Limits := {}

/-! ## Skip lists -/

namespace Skip

open Json

/-- The names in lower case and without blanks around them; those of blanks alone are dropped. -/
def normal (names : List String) : List String :=
  (names.filter fun name => !(Text.strip name).isEmpty).map fun name =>
    Text.lower (Text.strip name)

/-- The parts of a text between its commas. -/
def parts (text : String) : List String :=
  (text.toList.splitOn ',').map String.ofList

/-- The skip list that a text with commas writes. -/
def ofText (text : String) : List String := normal (parts text)

/-- What a value is called in a complaint about it. -/
def kindOf : Value → String
  | .null => "NoneType"
  | .bool _ => "bool"
  | .int _ => "int"
  | .real _ => "float"
  | .text _ => "str"
  | .list _ => "list"
  | .object _ => "dict"

/-- The name that an entry gives: an entry that stands for nothing gives none, and any other that
is not a text is refused. -/
def nameOf? : Value → Except Failure (Option String)
  | .text t => .ok (some t.toString)
  | entry => if entry.isBlank then .ok none else .error (.skipEntryNotText (kindOf entry))

/-- The skip list that a value writes: a text with commas, a list of names, or the keys of an
object. -/
def ofValue : Value → Except Failure (List String)
  | .text t => .ok (ofText t.toString)
  | .list entries => do return normal ((← entries.mapM nameOf?).filterMap id)
  | .object fields => .ok (normal (fields.map fun (key, _) => key.toString))
  | value => .error (.skipNotAList (kindOf value))

end Skip

/-! ## What a configuration chooses -/

namespace Config

/-- The names in the skip list that are no checks. -/
def unknown (c : Config) : List String :=
  c.skip.filter fun name => (Check.Module.ofName? name).isNone

/-- The note about names that are no checks. -/
def note? (c : Config) : Option String :=
  if c.unknown.isEmpty then none
  else some ("Ignoring unknown modules in skip list: " ++ String.intercalate ", " c.unknown)

/-- The checks that are not left out, in the order of a report. -/
def modules (c : Config) : List Check.Module :=
  Check.Module.all.filter fun m => !c.skip.contains m.name

/-- The checks to run when only some are wanted. -/
def selected (c : Config) (only : Option (List String)) : List Check.Module :=
  c.modules.filter fun m => only.all fun names => names.contains m.name

end Config

end Preflight
