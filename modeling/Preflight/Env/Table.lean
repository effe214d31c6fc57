import Preflight.Env.Statement
import Preflight.Pairs

/-!
# Environment tables

The table of an environment file: keys in the order of their first place, each with the value of
its last one. Keys without a value, and keys of blanks only, are left out.
-/

set_option autoImplicit false

namespace Preflight.Env

open Pairs (put)

/-- Keys and values in order, each key once. -/
abbrev Table := List (String × String)

/-- The keys of the statements as written, each with its last value or none. -/
def bindings (found : List Statement) : List (String × Option String) :=
  found.foldl (fun table s => match s with
    | .binding key value => put key value table
    | _ => table) []

/-- The table of raw keys and values: keys lose the blanks around them. -/
def Table.ofBindings (raw : List (String × Option String)) : Table :=
  raw.foldl (fun table (key, value) => match value with
    | some value => if (Text.strip key).isEmpty then table else put (Text.strip key) value table
    | none => table) []

/-- The table that statements make. -/
def Table.ofStatements (found : List Statement) : Table := .ofBindings (bindings found)

/-- The table of an environment file. -/
def Table.ofText (text : String) : Table := .ofStatements (statements text)

/-- The notes on statements that could not be read. -/
def notes (text : String) : List String :=
  (statements text).filterMap fun
    | .unreadable line =>
      some ("python-dotenv could not parse statement starting at line " ++ toString line)
    | _ => none

/-- The value of a key. -/
def Table.get? (t : Table) (key : String) : Option String := t.lookup key

/-- The keys in order. -/
def Table.keys (t : Table) : List String := t.map (·.1)

end Preflight.Env
