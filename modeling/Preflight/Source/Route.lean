import Preflight.Pattern.Basic
import Preflight.Source.Line

/-!
# Route registrations

A route is registered by a call such as `router.get('/users', handler)`: an object, a verb, an
opening parenthesis and a quoted path. Calls on `app` or `router` and calls on `Route` are looked
for one after the other, each from left to right and without overlap.
-/

set_option autoImplicit false

namespace Preflight

/-- A route registration found in a source text. -/
structure Route where
  /-- The verb in capitals. -/
  method : String
  /-- The path literal of the call. -/
  path : String
  /-- The line on which the call starts. -/
  line : Nat
  /-- The file, relative to the project. -/
  file : String
  deriving Repr, DecidableEq

namespace Route

open Pattern

/-- The verbs of a registration. -/
def verbs : List String := ["get", "post", "put", "delete", "patch"]

/-- A point, a verb, an opening parenthesis and a quoted path; verb and path are kept. -/
def call : Pattern :=
  char '.' ++ keep (choice (verbs.map word)) ++ blanks ++ char '(' ++ blanks ++ one isQuote ++
    keep (runOne fun c => !isQuote c) ++ one isQuote

/-- The two kinds of registration: on `app` or `router`, and on `Route`. -/
def registrations : List Pattern :=
  [choice [word "app", word "router"] ++ call, word "Route" ++ call]

/-- The route of an occurrence in `code`. -/
def ofOccurrence (code : List Char) (file : String) (found : Occurrence) : Route :=
  match found.kept with
  | verb :: path :: _ =>
    ⟨String.ofList (verb.map Char.toUpper), String.ofList path,
      Source.lineOf code found.offset, file⟩
  | _ => ⟨"", "", Source.lineOf code found.offset, file⟩

/-- The routes of one kind of registration in the order of the text. -/
def ofKind (code : List Char) (file : String) (kind : Pattern) : List Route :=
  (kind.findAll code).map (ofOccurrence code file)

/-- The routes that a source text registers. -/
def extract (code : String) (file : String := "") : List Route :=
  registrations.flatMap (ofKind code.toList file)

end Route

end Preflight
