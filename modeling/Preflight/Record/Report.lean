import Preflight.Json.Printer
import Preflight.Moment.Epoch
import Preflight.Record.Verdict
import Preflight.Report.Basic

/-!
# Reading and writing reports

A report is written with a summary that counts the findings of each result, and with the results in
full, in which parts that are missing are left out.
-/

set_option autoImplicit false

namespace Preflight.Record

open Json

/-! ## Reading -/

/-- A moment that is not in the year 0. -/
def since1 (m : Moment) : Reading Moment :=
  if m.year = 0 then .refuse .timeOutOfRange else .accepted m

/-- A moment, written as a date and a time or as a count. A number that is too large to be a number
with a point is no count. -/
def moment : Value → Reading Moment
  | .text t =>
    (whole t).andThen fun chars =>
      match (Moment.ofChars? chars).or (Moment.ofNumeral? chars) with
      | some m => since1 m
      | none => .refuse .unreadableTime
  | .int n =>
    match Moment.ofCount? n 0, Binary.ofFraction false n.natAbs 1 with
    | some m, _ => since1 m
    | none, .finite _ _ _ => .refuse .timeOutOfRange
    | none, _ => .refuse .notTime
  | .real x =>
    match Moment.ofNumber? x with
    | some m => since1 m
    | none => .refuse .timeOutOfRange
  | _ => .refuse .notTime

/-- A report from the fields of an object. -/
def reportOf (fields : Fields) : Reading Report :=
  Report.mk
    <$> field "timestamp" moment fields
    <*> field "project_path" text fields
    <*> fieldOr "results" [] (table verdict) fields

/-! ## Writing -/

mutual

/-- The value without the fields that are null, at any depth. -/
def withoutNulls : Value → Value
  | .list items => .list (itemsWithoutNulls items)
  | .object fields => .object (fieldsWithoutNulls fields)
  | value => value

/-- The items without the fields in them that are null. -/
def itemsWithoutNulls : List Value → List Value
  | [] => []
  | item :: items => withoutNulls item :: itemsWithoutNulls items

/-- The fields that are not null. -/
def fieldsWithoutNulls : List (Text × Value) → List (Text × Value)
  | [] => []
  | (_, .null) :: fields => fieldsWithoutNulls fields
  | (key, value) :: fields => (key, withoutNulls value) :: fieldsWithoutNulls fields

end

/-- How a result is summed up. -/
def summary (v : Verdict) : Value :=
  .record
    [("passed", .bool v.passed), ("issues", .nat v.issues.length),
     ("warnings", .nat v.warnings.length)]

/-- The report as a value. -/
def ofReport (r : Report) : Value :=
  .record
    [("timestamp", .string r.made.text), ("projectPath", .string r.path),
     ("verdict", .string r.word),
     ("summary", .record (r.results.map fun (name, v) => (name, summary v))),
     ("details", .record (r.results.map fun (name, v) => (name, withoutNulls (ofVerdict v))))]

/-- The text of a report file. -/
def reportText (r : Report) : Except Failure String := (ofReport r).indented

end Preflight.Record
