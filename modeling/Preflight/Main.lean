import Preflight.Command.Run
import Std.Time.DateTime

/-!
# The command line

The program on a machine. What the machine has at the path of a project is taken onto a disk, the
program is run with it, and what the program shows and writes is passed on. All decisions are those
of `Command.run`.
-/

set_option autoImplicit false

namespace Preflight.Machine

/-! ## Taking a project onto a disk -/

/-- A location as the machine writes it. -/
def placeText (location : Location) : String := Path.text ⟨.top, location⟩

/-- Takes the file or directory at a location onto the disk. -/
def takeNode (disk : Disk) (location : Location) : IO Disk := do
  let place := (← IO.currentDir) / placeText location
  match (← place.metadata).type with
  | .dir => return disk.makeDirectories location
  | .file =>
    let content ← IO.FS.readBinFile place
    return (disk.makeDirectories location.dropLast).set location (.file content.toList 0)
  | _ => return disk

/-- Takes a link onto the disk, and what it leads to. A link that leads nowhere leads to itself. -/
def takeLink (disk : Disk) (location : Location) : IO Disk := do
  try
    let target ← IO.FS.realPath (placeText location)
    let disk ← takeNode disk (Path.ofString target.toString).names
    return disk.set location (.link target.toString)
  catch _ => return disk.set location (.link (placeText location))

/-- Takes what stands at a location onto the disk, if the machine lets it be seen. -/
def take (disk : Disk) (location : Location) : IO Disk := do
  try
    let place := (← IO.currentDir) / placeText location
    match (← place.symlinkMetadata).type with
    | .symlink => takeLink disk location
    | _ => takeNode disk location
  catch _ => return disk

/-- Takes what the names lead through onto the disk: the disk, and the location they lead to. -/
def takeAlong (disk : Disk) (names : List String) : IO (Disk × Location) := do
  let mut disk := disk
  let mut location : Location := []
  for name in names do
    if name = ".." then location := location.dropLast
    else
      disk ← take disk (location ++ [name])
      location := match disk.node? (location ++ [name]) with
        | some (.link target) => (Path.ofString target).names
        | _ => location ++ [name]
  return (disk, location)

/-- Takes what stands below a directory onto the disk. Hidden directories and package caches are
not looked into. -/
partial def takeBelow (disk : Disk) (location : Location) : IO Disk := do
  let place := (← IO.currentDir) / placeText location
  let mut disk := disk
  for entry in ← place.readDir do
    let inner := location ++ [entry.fileName]
    disk ← take disk inner
    if disk.node? inner == some .directory && Disk.isOpenDirectory entry.fileName then
      disk ← takeBelow disk inner
  return disk

/-- Takes the project at a path onto the disk. -/
def takeProject (disk : Disk) (here path : Path) : IO Disk := do
  let (disk, location) ← takeAlong disk (here.join path).names
  if disk.node? location == some .directory then
    try takeBelow disk location catch _ => return disk
  else return disk

/-- Takes what a command line asks about onto a disk. -/
def takeAsked (here : Path) (homes : Homes) (arguments : List String) : IO Disk := do
  match Command.Order.ofArguments arguments with
  | .ok (.perform _ a) =>
    let path := Path.ofString (a.valueOr .path ".")
    let (disk, _) ← takeAlong .empty (here.join path).names
    match homes.expand path with
    | .ok expanded => takeProject disk here expanded
    | .error _ => return disk
  | _ => return .empty

/-! ## Home directories -/

/-- The home directories of the users that the machine lists, one on a line. -/
def users : IO (List (String × Path)) := do
  try
    let listed ← IO.FS.readFile "/etc/passwd"
    return (listed.splitOn "\n").filterMap fun line =>
      match line.splitOn ":" with
      | [name, _, _, _, _, home, _] => some (name, Homes.ofText home)
      | _ => none
  catch _ => return []

/-- The home directories that the machine knows. -/
def homes : IO Homes := do
  return { home := (← IO.getEnv "HOME").map Homes.ofText, users := ← users }

/-! ## Passing on what the program did -/

/-- Writes the files in which the disk after a run differs from the one before. -/
def writeChanges (before after : Disk) : IO Unit := do
  for (location, node) in after.nodes do
    if let .file content _ := node then
      unless before.node? location == some node do
        IO.FS.writeBinFile (placeText location) ⟨content.toArray⟩

/-- The moment on the clock, told in the zone of Greenwich. -/
def clock : IO Moment := do
  let stamp ← Std.Time.Timestamp.now
  let time := Std.Time.PlainDateTime.ofWallTime (stamp.toWallTime .zero)
  return {
    year := time.date.year.toInt.toNat
    month := time.date.month.val.toNat
    day := time.date.day.val.toNat
    hour := time.time.hour.val.toNat
    minute := time.time.minute.val.toNat
    second := time.time.second.val.toNat
    micro := time.time.nanosecond.val.toNat / 1000
    zone := some 0 }

end Preflight.Machine

open Preflight in
/-- Runs the program with the arguments of a command line. -/
def main (arguments : List String) : IO UInt32 := do
  let here := Path.ofString (← IO.currentDir).toString
  let homes ← Machine.homes
  let disk ← Machine.takeAsked here homes arguments
  let outcome := Command.run { homes with disk, here, now := ← Machine.clock } arguments
  IO.print outcome.output
  Machine.writeChanges disk outcome.disk
  match outcome.exit with
  | .ok code => return code.toUInt32
  | .error failure =>
    IO.eprintln (failure.label ++ ": " ++ failure.message)
    return 1
