import Preflight.Text.Quoted

/-!
# Failures

What can stop an operation, by cause. `Failure.label` is the word by which a report names the kind
of a failure, `Failure.message` the text that explains it.
-/

set_option autoImplicit false

namespace Preflight

/-- Why one field of a record was refused. -/
inductive Refusal
  | absent
  | notText
  | brokenText
  | notInteger
  | unreadableInteger
  | tooLarge
  | fractional
  | tooSmall
  | notFinite
  | notFlag
  | unreadableFlag
  | notList
  | notObject
  | notRecord
  | notPath
  | notBody
  | notAChoice
  | notTime
  | unreadableTime
  | timeOutOfRange
  | custom (text : String)
  | malformedText
  deriving Repr, DecidableEq

/-- The tag of a refusal in an error answer. -/
def Refusal.tag : Refusal → String
  | .absent => "missing"
  | .notText => "string_type"
  | .brokenText => "string_unicode"
  | .notInteger => "int_type"
  | .unreadableInteger => "int_parsing"
  | .tooLarge => "int_parsing_size"
  | .fractional => "int_from_float"
  | .tooSmall => "greater_than_equal"
  | .notFinite => "finite_number"
  | .notFlag => "bool_type"
  | .unreadableFlag => "bool_parsing"
  | .notList => "list_type"
  | .notObject => "dict_type"
  | .notRecord => "model_type"
  | .notPath => "path_type"
  | .notBody => "model_attributes_type"
  | .notAChoice => "enum"
  | .notTime => "datetime_type"
  | .unreadableTime => "datetime_from_date_parsing"
  | .timeOutOfRange => "datetime_parsing"
  | .custom _ => "value_error"
  | .malformedText => "json_invalid"

/-- One step on the way to a refused field: a field name, or a place in a list. -/
inductive Step
  | field (name : String)
  | place (index : Nat)
  deriving Repr, DecidableEq

/-- The step as it is written in an error text. -/
def Step.text : Step → String
  | .field name => name
  | .place index => toString index

/-- A refused field and the way to it. -/
structure FieldError where
  way : List Step
  refusal : Refusal
  deriving Repr, DecidableEq

/-- The way, joined by points, and the tag. -/
def FieldError.text (e : FieldError) : String :=
  String.intercalate "." (e.way.map Step.text) ++ ": " ++ e.refusal.tag

/-- What can stop an operation. -/
inductive Failure
  /-- A numeral of more digits than are read. -/
  | tooManyDigits (count : Nat)
  /-- A number of more digits than are written. -/
  | numberTooLong
  /-- Values nested more deeply than are read. -/
  | tooDeep
  /-- A path leads to nothing. -/
  | notFound
  /-- A directory stands where a file is needed. -/
  | isDirectory
  /-- Something else stands where a directory is needed. -/
  | notDirectory
  /-- More links lead on from a path than are followed. -/
  | tooManyLinks
  /-- A name in a path, or the path, is too long. -/
  | nameTooLong
  /-- A path holds a zero character. -/
  | nulInPath
  /-- A path goes round in a circle of links. -/
  | linkCircle (path : String)
  /-- A path starts from a home directory that is not known. -/
  | unknownHome
  /-- A project could not be fetched. -/
  | fetchFailed (text : String)
  /-- No check has the name. -/
  | unknownModule (name : String)
  /-- A skip list that is neither a text nor a list. -/
  | skipNotAList (kind : String)
  /-- An entry of a skip list that is not a text. -/
  | skipEntryNotText (kind : String)
  /-- A closing tag in console text that closes nothing. -/
  | strayTag (text : String)
  /-- Fields of a record that were refused. -/
  | refused (errors : List FieldError)
  deriving Repr, DecidableEq

namespace Failure

/-- The word by which a report names the kind of a failure. -/
def label : Failure → String
  | tooManyDigits _ | numberTooLong | nulInPath => "ValueError"
  | tooDeep => "RecursionError"
  | notFound => "FileNotFoundError"
  | isDirectory => "IsADirectoryError"
  | notDirectory => "NotADirectoryError"
  | tooManyLinks | nameTooLong => "OSError"
  | linkCircle _ | unknownHome | fetchFailed _ => "RuntimeError"
  | unknownModule _ => "KeyError"
  | skipNotAList _ => "TypeError"
  | skipEntryNotText _ => "AttributeError"
  | strayTag _ => "MarkupError"
  | refused _ => "ValidationError"

/-- The text that explains a failure. -/
def message : Failure → String
  | tooManyDigits count =>
    "Exceeds the limit (4300 digits) for integer string conversion: value has " ++
      toString count ++ " digits; use sys.set_int_max_str_digits() to increase the limit"
  | numberTooLong =>
    "Exceeds the limit (4300 digits) for integer string conversion; " ++
      "use sys.set_int_max_str_digits() to increase the limit"
  | tooDeep => ""
  | notFound => "No such file or directory"
  | isDirectory => "Is a directory"
  | notDirectory => "Not a directory"
  | tooManyLinks => "Too many levels of symbolic links"
  | nameTooLong => "File name too long"
  | nulInPath => "embedded null byte"
  | linkCircle path => "Symlink loop from " ++ Text.quoted path
  | unknownHome => "Could not determine home directory."
  | fetchFailed text => text
  | unknownModule name => Text.quoted name
  | skipNotAList kind => "'" ++ kind ++ "' object is not iterable"
  | skipEntryNotText kind => "'" ++ kind ++ "' object has no attribute 'strip'"
  | strayTag text => text
  | refused errors => String.intercalate "; " (errors.map FieldError.text)

end Failure

end Preflight
