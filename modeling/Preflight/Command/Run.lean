import Preflight.Command.Arguments
import Preflight.Command.Perform

/-!
# Running the program

A command line names a verb with its settings behind it; settings of the program stand in front of
it. Help and version are given as soon as the arguments can be told apart, before any word or value
is looked at.
-/

set_option autoImplicit false

namespace Preflight.Command

/-! ## Reading a command line -/

/-- What a command line asks for. -/
inductive Order
  /-- Nothing was said. -/
  | nothing
  | version
  /-- The help page of the program or of a verb. -/
  | help (verb? : Option Verb)
  | perform (verb : Verb) (arguments : Arguments)
  deriving Repr, DecidableEq

/-- A complaint about the program or a verb. -/
structure Refused where
  verb? : Option Verb
  complaint : Complaint
  deriving Repr, DecidableEq

namespace Order

/-- Reads arguments and complains about the program or a verb. -/
def readArguments (verb? : Option Verb) (arguments : List String) : Except Refused Arguments :=
  let settings := verb?.elim programSettings Verb.settings
  match Arguments.read settings verb?.isSome arguments with
  | .ok a => .ok a
  | .error complaint => .error ⟨verb?, complaint⟩

/-- What is asked for by the first of the settings that goes before everything else. -/
def early? (verb? : Option Verb) (a : Arguments) : Option Order :=
  a.given.findSome? fun given =>
    match given.setting with
    | .help => some (.help verb?)
    | .version => some .version
    | _ => none

/-- What is asked for by a verb and its arguments. -/
def ofVerb (verb : Verb) (arguments : List String) : Except Refused Order := do
  let a ← readArguments (some verb) arguments
  return (early? (some verb) a).getD (.perform verb a)

/-- What is asked for where the first word is no verb: it may be a setting of the program that was
taken for a word. -/
def ofUnknown (name : String) (rest : List String) : Except Refused Order := do
  let a ← readArguments none (name :: rest)
  match early? none a with
  | some order => return order
  | none => throw ⟨none, .unknownVerb name (nearest name (Verb.all.map Verb.name))⟩

/-- What is asked for by the words of a command line. -/
def ofWords : List String → Except Refused Order
  | [] => .error ⟨none, .noVerb⟩
  | name :: rest =>
    match Verb.ofName? name with
    | some verb => ofVerb verb rest
    | none => ofUnknown name rest

/-- What a command line asks for. -/
def ofArguments (arguments : List String) : Except Refused Order :=
  if arguments.isEmpty then .ok .nothing
  else do
    let a ← readArguments none arguments
    match early? none a with
    | some order => return order
    | none => ofWords a.words

end Order

/-! ## The path of the project -/

/-- The path is written as that of a directory. -/
def endsAsDirectory (text : String) : Bool :=
  match text.toList.reverse with
  | '/' :: _ => true
  | '.' :: '/' :: _ => true
  | _ => false

/-- The path leads to a file. A path that cannot be followed leads to none, unless no path can be
written that way. -/
def namesFile (host : Host) (text : String) : Except Failure Bool :=
  match host.disk.stat (host.here.join (.ofString text)) with
  | .ok (.file _ _) => .ok !(endsAsDirectory text)
  | .error .nulInPath => .error .nulInPath
  | _ => .ok false

/-! ## Running -/

/-- Performs a verb in the project at a path. -/
def Verb.perform (host : Host) (path : String) (a : Arguments) : Verb → Outcome
  | .check m => runCheck host ⟨.ofString path, [], {}⟩ m
  | .report =>
    runReport host ⟨.ofString path, Skip.ofText (a.valueOr .skip ""), {}⟩ (a.has .json)
      (a.has .verbose)
  | .fix => runFix host ⟨.ofString path, [], {}⟩ (a.has .apply)

/-- Performs a verb if its arguments are in order. -/
def performChecked (host : Host) (verb : Verb) (a : Arguments) : Outcome :=
  let path := a.valueOr .path "."
  match namesFile host path with
  | .error failure => .stopped host.disk failure ""
  | .ok true => .refused host.disk (some verb) (.pathIsFile path)
  | .ok false =>
    if a.words.isEmpty then verb.perform host path a
    else .refused host.disk (some verb) (.extraWords a.words)

/-- Does what is asked for. -/
def Order.run (host : Host) : Order → Outcome
  | .nothing => .saying host.disk 2 (page none)
  | .version => .saying host.disk 0 versionText
  | .help verb? => .saying host.disk 0 (page verb?)
  | .perform verb a => performChecked host verb a

/-- Runs the program with arguments. -/
def run (host : Host) (arguments : List String) : Outcome :=
  match Order.ofArguments arguments with
  | .ok order => order.run host
  | .error ⟨verb?, complaint⟩ => .refused host.disk verb? complaint

end Preflight.Command
