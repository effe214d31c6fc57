import Preflight.Disk.Basic
import Preflight.Json.Display
import Preflight.Json.Parser

/-!
# Package manifests

The file `package.json` of a project: it may be missing, and what it holds may be no object.
`Manifest.load` reads it; an integer or a nesting that is not read is a failure.
-/

set_option autoImplicit false

namespace Preflight

/-- What `package.json` says. -/
inductive Manifest
  | missing
  | malformed
  | object (fields : List (Json.Text × Json.Value))

namespace Manifest

/-- The manifest that a text writes. -/
def ofText (text : String) : Except Failure Manifest :=
  match Json.parse text with
  | .ok (.object fields) => .ok (.object fields)
  | .ok _ => .ok .malformed
  | .error (.malformed _) => .ok .malformed
  | .error (.refused failure) => .error failure

/-- The manifest of the project at the root. -/
def load (disk : Disk) (root : Path) : Except Failure Manifest := do
  if ← disk.isFile (root / "package.json") then
    match ← disk.readText? (root / "package.json") with
    | some text => ofText text
    | none => return .malformed
  else return .missing

/-- The fields of a manifest; a missing or malformed one has none. -/
def entries : Manifest → List (Json.Text × Json.Value)
  | .object fields => fields
  | _ => []

/-- The fields of an object under a key; anything else has none. -/
def section? (m : Manifest) (key : String) : List (Json.Text × Json.Value) :=
  match Json.field? key m.entries with
  | some (.object fields) => fields
  | _ => []

/-- The declared packages with the texts of their version ranges: those of the second section
come after those of the first, or take their place. -/
def dependencies (m : Manifest) : List (Json.Text × Json.Text) :=
  Pairs.putAll <|
    (m.section? "dependencies" ++ m.section? "devDependencies").map fun (name, value) =>
      (name, value.display)

/-- The version range of a declared package. -/
def range? (m : Manifest) (package : String) : Option String :=
  (Json.field? package m.dependencies).map Json.Text.toString

/-- The package is declared. -/
def declares (m : Manifest) (package : String) : Bool :=
  (Json.field? package m.dependencies).isSome

/-- The scripts by name. -/
def scripts (m : Manifest) : List (Json.Text × Json.Value) := m.section? "scripts"

/-- The start script, unless it stands for nothing. -/
def startScript? (m : Manifest) : Option Json.Value :=
  (Json.field? "start" m.scripts).filter (!·.isBlank)

/-- The description; none if it is not a text. -/
def description (m : Manifest) : Json.Text :=
  match Json.field? "description" m.entries with
  | some (.text t) => t
  | _ => []

end Manifest

end Preflight
