import Preflight.Json.Parser
import Preflight.Record.Reading
import Preflight.Service.Reply

/-!
# Report requests

A report is asked for by an object that names a project, either by its path or by an address to
fetch it from, but not both. The body of a request holds the object as JSON.
-/

set_option autoImplicit false

namespace Preflight.Service

open Json Record

/-- The project that a report is about. -/
inductive Target
  | path (text : String)
  | address (url : String) (branch : Option String)
  deriving Repr, DecidableEq

/-- What is asked for. -/
structure ReportRequest where
  target : Target
  /-- The names of the checks to leave out, as they were given. -/
  skip : List String
  deriving Repr, DecidableEq

namespace ReportRequest

/-- The request that the fields ask for, if they name exactly one project. -/
def ofFields (path url branch : Option String) (skip : List String) : Reading ReportRequest :=
  match path, url with
  | some path, none => .accepted ⟨.path path, skip⟩
  | none, some url => .accepted ⟨.address url branch, skip⟩
  | _, _ => .refuse (.custom "Provide exactly one of 'path' or 'repo_url'")

/-- The request in the fields of an object. -/
def read (fields : Fields) : Reading ReportRequest :=
  (ofFields
    <$> field? "path" text fields
    <*> field? "repo_url" text fields
    <*> field? "branch" text fields
    <*> fieldOr "skip" [] (list text) fields).andThen id

/-- Refuses the body of a request. -/
def refuse (errors : List FieldError) : Reply :=
  .refused (errors.map fun e => { e with way := .field "body" :: e.way })

/-- The body without a byte order mark at its start. -/
def withoutMark (body : String) : String :=
  match body.toList with
  | '\ufeff' :: rest => String.ofList rest
  | _ => body

/-- The request in a body, or the reply to a body that holds none. -/
def ofBody (body : String) : Except Reply ReportRequest :=
  if body.isEmpty then .error (refuse [⟨[], .absent⟩])
  else
    match parse (withoutMark body) with
    | .error (.malformed position) => .error (refuse [⟨[.place position], .malformedText⟩])
    | .error (.refused _) => .error .unreadable
    | .ok value =>
      match object .notBody read value with
      | .accepted request => .ok request
      | .refused errors => .error (refuse errors)

end ReportRequest

end Preflight.Service
