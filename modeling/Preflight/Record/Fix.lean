import Preflight.Fix.Apply
import Preflight.Json.Basic

/-!
# Writing actions

Actions and what became of them, as values.
-/

set_option autoImplicit false

namespace Preflight.Record

open Json

/-- An action as a value. -/
def ofAction (a : Action) : Value :=
  .record <|
    match a.remedy with
    | .create template =>
      [("fix_type", .string "create_file"), ("description", .string a.remedy.description),
       ("file", .string template.file), ("content", .string template.content),
       ("source", .string a.source.tag)]
    | .suggest text =>
      [("fix_type", .string "suggestion"), ("description", .string text), ("file", .null),
       ("content", .null), ("source", .string a.source.tag)]

/-- What became of an action, as a value. -/
def ofOutcome (o : FixOutcome) : Value :=
  .record
    [("action", ofAction o.action), ("status", .string o.status.tag),
     ("file_path", .string? (o.path.map Path.text)), ("reason", .string? o.reason)]

/-- What became of all actions, as a value. -/
def ofResponse (r : FixResponse) : Value :=
  .record
    [("dry_run", .bool r.isPreview), ("results", .list (r.outcomes.map ofOutcome)),
     ("summary", .string r.summary)]

end Preflight.Record
