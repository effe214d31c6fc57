import Preflight.Disk.Listing
import Preflight.Source.Route

/-!
# Fact stores

A store remembers the listing of a project, the texts of files and the routes in them, each text
and route list with the stamp that the file had. What it remembers is used again as long as the
stamp is the same; the listing is made once. Without a change of a file under its stamp, nothing
that is asked can tell the store from the disk.
-/

set_option autoImplicit false

namespace Preflight

/-- What is remembered about a project. -/
structure Store where
  root : Path
  listing? : Option (List String) := none
  /-- Texts with the stamps under which they were read, by path. -/
  texts : List (Path × Option Stamp × Option String) := []
  /-- Routes with the stamps under which they were extracted, by path. -/
  routeLists : List (Path × Option Stamp × List Route) := []
  /-- How often routes were extracted. -/
  extractions : Nat := 0
  deriving Repr, DecidableEq

namespace Store

/-- A store that remembers nothing. -/
def fresh (root : Path) : Store := { root }

/-- The pairs with the value of a path replaced, or put in front. -/
def remember {α : Type} (path : Path) (value : α) (known : List (Path × α)) : List (Path × α) :=
  (path, value) :: known.filter fun (p, _) => p != path

/-- The path as a report names it: from the root if it lies below it. -/
def relativeTo (root path : Path) : String :=
  match root.relativeTo? path with
  | some rest => rest.text
  | none => path.text

/-- The text of a path that has the stamp, read from the disk. -/
def readFresh (disk : Disk) (path : Path) (stamp : Option Stamp) : Except Failure (Option String) :=
  if stamp.isSome then disk.readText? path else .ok none

/-- The text of the file at a path. -/
def read (disk : Disk) (path : Path) (store : Store) : Except Failure (Option String) × Store :=
  match disk.stamp? path with
  | .error failure => (.error failure, store)
  | .ok stamp =>
    match store.texts.lookup path with
    | some (known, text) =>
      if known = stamp then (.ok text, store) else refresh store stamp
    | none => refresh store stamp
where
  /-- Reads the text and remembers it. -/
  refresh (store : Store) (stamp : Option Stamp) : Except Failure (Option String) × Store :=
    match readFresh disk path stamp with
    | .error failure => (.error failure, store)
    | .ok text => (.ok text, { store with texts := remember path (stamp, text) store.texts })

/-- The routes of a text; a missing or empty text has none. -/
def routesOf (root path : Path) : Option String → List Route
  | none => []
  | some code => if code.isEmpty then [] else Route.extract code (relativeTo root path)

/-- The text has to be looked through for routes. -/
def needsExtraction : Option String → Bool
  | none => false
  | some code => !code.isEmpty

/-- The routes of the file at a path. -/
def routes (disk : Disk) (path : Path) (store : Store) : Except Failure (List Route) × Store :=
  match disk.stamp? path with
  | .error failure => (.error failure, store)
  | .ok stamp =>
    match store.routeLists.lookup path with
    | some (known, found) =>
      if known = stamp then (.ok found, store) else refresh store stamp
    | none => refresh store stamp
where
  /-- Extracts the routes from the text and remembers them. -/
  refresh (store : Store) (stamp : Option Stamp) : Except Failure (List Route) × Store :=
    match store.read disk path with
    | (.error failure, store) => (.error failure, store)
    | (.ok text, store) =>
      let found := routesOf store.root path text
      (.ok found, { store with
        routeLists := remember path (stamp, found) store.routeLists
        extractions := store.extractions + if needsExtraction text then 1 else 0 })

/-- The visible files of the project. -/
def listing (disk : Disk) (store : Store) : Except Failure (List String) × Store :=
  match store.listing? with
  | some files => (.ok files, store)
  | none =>
    match disk.visibleFiles store.root with
    | .error failure => (.error failure, store)
    | .ok files => (.ok files, { store with listing? := some files })

end Store

end Preflight
