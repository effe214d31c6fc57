import Preflight.Glob.Basic
import Preflight.Limits
import Preflight.Store

/-!
# Scans

A scan is a program of questions: it asks for the text of a file, for the routes in it, or for the
listing of the project, and goes on with the answer. `Scan.eval` answers from the disk,
`Scan.run` from a store, which remembers what was asked. That the two agree on an unchanged disk is
one induction over the program, whatever the checks ask.
-/

set_option autoImplicit false

namespace Preflight

/-- A program of questions about a project. -/
inductive Scan (α : Type)
  | done (answer : α)
  | stop (failure : Failure)
  | read (path : Path) (next : Option String → Scan α)
  | routes (path : Path) (next : List Route → Scan α)
  | listing (next : List String → Scan α)

namespace Scan

variable {α β : Type}

/-- The second program after the first, given its answer. -/
def andThen : Scan α → (α → Scan β) → Scan β
  | .done a, f => f a
  | .stop failure, _ => .stop failure
  | .read path next, f => .read path fun text => (next text).andThen f
  | .routes path next, f => .routes path fun found => (next found).andThen f
  | .listing next, f => .listing fun files => (next files).andThen f

instance : Monad Scan where
  pure := .done
  bind := andThen

/-- An answer that is known already, or a failure. -/
def ofExcept : Except Failure α → Scan α
  | .ok a => .done a
  | .error failure => .stop failure

instance : MonadLift (Except Failure) Scan := ⟨ofExcept⟩

/-- Asks for the text of a file. -/
def text (path : Path) : Scan (Option String) := .read path .done

/-- Asks for the text of a file, and passes over a missing or empty one. -/
def code? (path : Path) : Scan (Option String) :=
  .read path fun text => .done (text.filter (!·.isEmpty))

/-- Asks for the routes of a file. -/
def routesIn (path : Path) : Scan (List Route) := .routes path .done

/-- Asks for the visible files. -/
def files : Scan (List String) := .listing .done

/-- The answers to a question for each of the items in turn. -/
def forEach (items : List β) (question : β → Scan α) : Scan (List α) :=
  match items with
  | [] => .done []
  | item :: rest =>
    (question item).andThen fun answer =>
      (forEach rest question).andThen fun answers => .done (answer :: answers)

/-- One of the items has the property; those after the first that has it are not asked about. -/
def anyOf (items : List β) (question : β → Scan Bool) : Scan Bool :=
  match items with
  | [] => .done false
  | item :: rest =>
    (question item).andThen fun found => if found then .done true else anyOf rest question

/-! ## Answers -/

/-- Answers every question from the disk. -/
def eval (disk : Disk) (root : Path) : Scan α → Except Failure α
  | .done a => .ok a
  | .stop failure => .error failure
  | .read path next => do
    let stamp ← disk.stamp? path
    let text ← Store.readFresh disk path stamp
    (next text).eval disk root
  | .routes path next => do
    let stamp ← disk.stamp? path
    let text ← Store.readFresh disk path stamp
    (next (Store.routesOf root path text)).eval disk root
  | .listing next => do
    let files ← disk.visibleFiles root
    (next files).eval disk root

/-- What comes after an answer of the store; a failure ends the program. -/
def afterAnswer (next : β → Store → Except Failure α × Store) :
    Except Failure β × Store → Except Failure α × Store
  | (.error failure, store) => (.error failure, store)
  | (.ok answer, store) => next answer store

/-- Answers every question from the store, which goes on to remember. -/
def run (disk : Disk) : Scan α → Store → Except Failure α × Store
  | .done a, store => (.ok a, store)
  | .stop failure, store => (.error failure, store)
  | .read path next, store =>
    afterAnswer (fun text store => (next text).run disk store) (store.read disk path)
  | .routes path next, store =>
    afterAnswer (fun found store => (next found).run disk store) (store.routes disk path)
  | .listing next, store =>
    afterAnswer (fun files store => (next files).run disk store) (store.listing disk)

end Scan

/-- The paths from the root that one of the patterns matches, in the order of the patterns, each
path once. -/
def Glob.find (root : Path) (files patterns : List String) : List Path :=
  (patterns.flatMap fun pattern => (Glob.select pattern files).map (root / ·)).eraseDups

/-- A project to be checked. -/
structure Project where
  disk : Disk
  root : Path
  limits : Limits := {}

namespace Project

/-- Asks for the files that one of the patterns matches. Where there is no pattern, the listing is
not asked for. -/
def find (p : Project) : (patterns : List String) → Scan (List Path)
  | [] => .done []
  | pattern :: more => .listing fun files => .done (Glob.find p.root files (pattern :: more))

/-- The path as a report names it. -/
def relative (p : Project) (path : Path) : String := Store.relativeTo p.root path

end Project

end Preflight
