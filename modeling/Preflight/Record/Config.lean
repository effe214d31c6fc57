import Preflight.Config
import Preflight.Record.Integer

/-!
# Reading configurations

Scan limits and configurations from the values that give them. A skip list that cannot be taken
apart is a failure of its own, which goes before the refusals of the fields.
-/

set_option autoImplicit false

namespace Preflight.Record

open Json

/-- Scan limits from the fields of an object. -/
def limitsOf (fields : Fields) : Reading Limits :=
  Limits.mk
    <$> fieldOr "error_handler_files_per_glob" 10 (atLeast 0) fields
    <*> fieldOr "error_handler_main_files" 3 (atLeast 0) fields
    <*> fieldOr "security_feature_files" 20 (atLeast 0) fields
    <*> fieldOr "security_antipattern_files" 10 (atLeast 0) fields
    <*> fieldOr "database_connection_files" 10 (atLeast 0) fields

/-- Scan limits. -/
def limits : Value → Reading Limits := object .notRecord limitsOf

/-- A path. -/
def path : Value → Reading Path
  | .text t => .accepted (Path.ofString t.toString)
  | _ => .refuse .notPath

/-- The skip list among the fields of a configuration, empty if there is none. -/
def skipOf (fields : Fields) : Except Failure (List String) :=
  match Json.field? "skip" fields with
  | some value => Skip.ofValue value
  | none => .ok []

/-- A configuration from the fields of an object. -/
def configOf (fields : Fields) : Except Failure Config := do
  let skip ← skipOf fields
  let config := Config.mk
    <$> fieldOr "project_path" (Path.ofString ".") path fields
    <*> .accepted skip
    <*> fieldOr "limits" {} limits fields
  config.toExcept

/-- Scan limits as a value. -/
def ofLimits (l : Limits) : Value :=
  .record
    [("error_handler_files_per_glob", .nat l.errorHandlerFilesPerGlob),
     ("error_handler_main_files", .nat l.errorHandlerMainFiles),
     ("security_feature_files", .nat l.securityFeatureFiles),
     ("security_antipattern_files", .nat l.securityAntipatternFiles),
     ("database_connection_files", .nat l.databaseConnectionFiles)]

end Preflight.Record
