import Preflight.Disk.Path
import Preflight.Failure
import Preflight.Text.Utf8

/-!
# Disks

A disk maps locations to files, directories and links. A location is the list of names from the
top; the top is a directory. A path is walked name by name: every name but the last must lead to a
directory, and a link leads on to its target, at most forty times in one walk.
-/

set_option autoImplicit false

namespace Preflight

/-- A place on a disk: the names from the top. -/
abbrev Location := List String

/-- The locations above a location, the top first. -/
def Location.ancestors (location : Location) : List Location :=
  (List.range location.length).map fun n => List.take n location

/-- What stands at a location. -/
inductive Node
  /-- A file with its bytes and the stamp of its last change. -/
  | file (content : List UInt8) (stamp : Int)
  | directory
  /-- A link to the path that its target writes, taken from where the link stands. -/
  | link (target : String)
  deriving Repr, DecidableEq

/-- A stamp, by which a change is noticed: the time of a file's last change. A directory has a stamp
that no file has; when it changes tells nothing about a text. -/
inductive Stamp
  | file (time : Int)
  | directory
  deriving Repr, DecidableEq

/-- The nodes of a disk, each location once. -/
structure Disk where
  nodes : List (Location × Node)
  deriving Repr, DecidableEq

namespace Disk

/-- A disk with nothing but its top. -/
def empty : Disk := ⟨[]⟩

/-- The node at a location. -/
def node? (disk : Disk) (location : Location) : Option Node :=
  if location.isEmpty then some .directory else disk.nodes.lookup location

/-- The disk with the node at the location. -/
def set (disk : Disk) (location : Location) (node : Node) : Disk :=
  if (disk.nodes.lookup location).isSome then
    ⟨disk.nodes.map fun (l, n) => if l = location then (l, node) else (l, n)⟩
  else ⟨disk.nodes ++ [(location, node)]⟩

/-- The disk without what stands at the location. -/
def erase (disk : Disk) (location : Location) : Disk :=
  ⟨disk.nodes.filter fun (l, _) => l != location⟩

/-- The disk without what stands at the location or below it. -/
def eraseBelow (disk : Disk) (location : Location) : Disk :=
  ⟨disk.nodes.filter fun (l, _) => !location.isPrefixOf l⟩

/-! ## Walking a path -/

/-- The number of links that are followed in one walk. -/
def maxLinks : Nat := 40

/-- The bytes that a name may have. -/
def maxNameBytes : Nat := 255

/-- The bytes that a path may have. -/
def maxPathBytes : Nat := 4095

/-- What a walk came to: a location, and the node there if there is one. -/
structure Found where
  location : Location
  node? : Option Node
  deriving Repr, DecidableEq

/-- What a walk that ends with a link comes to, from what the target of the link leads to: a target
that ends with a slash or a single point leads to a directory or nowhere. -/
def arrive (target : String) (found : Found) : Except Failure Found :=
  if found.node? = some .directory then .ok found
  else
    let ending := target.toList.reverse
    match ending.dropWhile (· == '/') with
    | '.' :: '/' :: _ => .error (if found.node?.isNone then .notFound else .notDirectory)
    | name => if name.length < ending.length then .error .isDirectory else .ok found

/-- Walks the names from a location. `jump` goes on from a link: it is given the location of the
link's directory, the target and the names that are left. A last link is followed if `followLast`
says so. -/
def walkNames (disk : Disk) (followLast : Bool)
    (jump : Location → Path → List String → Except Failure Found) :
    Location → List String → Except Failure Found
  | at_, [] => .ok ⟨at_, disk.node? at_⟩
  | at_, name :: rest =>
    if name.utf8ByteSize > maxNameBytes then .error .nameTooLong
    else if name = ".." then walkNames disk followLast jump at_.dropLast rest
    else
      match disk.node? (at_ ++ [name]) with
      | none => if rest.isEmpty then .ok ⟨at_ ++ [name], none⟩ else .error .notFound
      | some .directory => walkNames disk followLast jump (at_ ++ [name]) rest
      | some (.file content stamp) =>
        if rest.isEmpty then .ok ⟨at_ ++ [name], some (.file content stamp)⟩
        else .error .notDirectory
      | some (.link target) =>
        if rest.isEmpty then
          if followLast then jump at_ (Path.ofString target) [] >>= arrive target
          else .ok ⟨at_ ++ [name], some (.link target)⟩
        else jump at_ (Path.ofString target) rest

/-- Walks the names from a location and follows at most `links` links. -/
def walk (disk : Disk) (followLast : Bool) :
    (links : Nat) → Location → List String → Except Failure Found
  | 0 => walkNames disk followLast fun _ _ _ => .error .tooManyLinks
  | links + 1 => walkNames disk followLast fun at_ target rest =>
      walk disk followLast links (if target.start = .here then at_ else []) (target.names ++ rest)

/-- Where a path leads, without a look at what stands there: a zero character or too many bytes
are refused. -/
def checkPath (path : Path) : Except Failure Unit :=
  if path.text.toList.contains '\x00' then .error .nulInPath
  else if path.text.utf8ByteSize > maxPathBytes then .error .nameTooLong
  else .ok ()

/-- Where a path from the top leads. The location may have no node if only the last name is
missing. -/
def locate (disk : Disk) (path : Path) (followLast : Bool := true) : Except Failure Found :=
  match checkPath path with
  | .error failure => .error failure
  | .ok () => disk.walk followLast maxLinks [] path.names

/-- The node that a path leads to. -/
def stat (disk : Disk) (path : Path) : Except Failure Node :=
  match disk.locate path with
  | .error failure => .error failure
  | .ok ⟨_, some node⟩ => .ok node
  | .ok ⟨_, none⟩ => .error .notFound

/-- A path leads to a node with the property. A path that leads nowhere leads to no node; only a
path that is too long is refused. -/
def leadsTo (disk : Disk) (path : Path) (property : Node → Bool) : Except Failure Bool :=
  match disk.stat path with
  | .ok node => .ok (property node)
  | .error .nameTooLong => .error .nameTooLong
  | .error _ => .ok false

/-- The path leads to something. -/
def pathExists (disk : Disk) (path : Path) : Except Failure Bool :=
  disk.leadsTo path fun _ => true

/-- The path leads to a file. -/
def isFile (disk : Disk) (path : Path) : Except Failure Bool :=
  disk.leadsTo path fun node => node matches .file _ _

/-- The path leads to a directory. -/
def isDirectory (disk : Disk) (path : Path) : Except Failure Bool :=
  disk.leadsTo path fun node => node matches .directory

/-! ## Reading and writing -/

/-- The stamp of what a path leads to, nothing if it leads nowhere. -/
def stamp? (disk : Disk) (path : Path) : Except Failure (Option Stamp) :=
  match disk.stat path with
  | .ok (.file _ time) => .ok (some (.file time))
  | .ok _ => .ok (some .directory)
  | .error .nulInPath => .error .nulInPath
  | .error _ => .ok none

/-- The text of the file that a path leads to, nothing if it leads to none. -/
def readText? (disk : Disk) (path : Path) : Except Failure (Option String) :=
  match disk.stat path with
  | .ok (.file content _) => .ok (some (Text.Utf8.fileText content))
  | .error .nulInPath => .error .nulInPath
  | _ => .ok none

/-- The disk with the bytes in the file that the path leads to. A missing file is made, where the
last link leads if the path ends in one. -/
def write (disk : Disk) (path : Path) (content : List UInt8) (stamp : Int := 0) :
    Except Failure Disk :=
  match disk.locate path with
  | .error failure => .error failure
  | .ok ⟨_, some .directory⟩ => .error .isDirectory
  | .ok ⟨location, _⟩ => .ok (disk.set location (.file content stamp))

/-- The disk with the text in the file that the path leads to. -/
def writeText (disk : Disk) (path : Path) (text : String) : Except Failure Disk :=
  disk.write path (Text.Utf8.encode text)

/-- The disk without the file or link that the path names. -/
def remove (disk : Disk) (path : Path) : Except Failure Disk :=
  match disk.locate path false with
  | .error failure => .error failure
  | .ok ⟨_, none⟩ => .error .notFound
  | .ok ⟨_, some .directory⟩ => .error .isDirectory
  | .ok ⟨location, some _⟩ => .ok (disk.erase location)

/-- The disk with directories at the location and above it, where nothing stands. -/
def makeDirectories (disk : Disk) (location : Location) : Disk :=
  (location.ancestors ++ [location]).foldl
    (fun disk l => if (disk.node? l).isSome then disk else disk.set l .directory) disk

end Disk

end Preflight
