import Preflight.Console.Markup
import Preflight.Console.Wrap

/-!
# Printing

What the console shows for a text: tags vanish, characters that cannot be shown are dropped, and
long lines are broken. Every text ends its last line.
-/

set_option autoImplicit false

namespace Preflight.Console

/-- A text as it stands, on lines of the console. -/
def printPlain (text : List Char) : String :=
  String.ofList (['\n'].intercalate (wrap width false (text.filter (!isControl ·))) ++ ['\n'])

/-- Markup on lines of the console. -/
def print (markup : String) : Except Failure String := do
  return printPlain (← plain markup.toList)

/-- Texts of markup one after the other. -/
def printAll (texts : List String) : Except Failure String := do
  return String.join (← texts.mapM print)

/-- A text as markup in which its tags are text. -/
def literal (text : String) : String := String.ofList (escape text.toList)

/-- A text in a style. -/
def styled (style text : String) : String := "[" ++ style ++ "]" ++ text ++ "[/" ++ style ++ "]"

/-- A message behind a label. -/
def labelled (style label message : String) : String :=
  styled style (label ++ ":") ++ " " ++ literal message

/-- A message of success. -/
def success (message : String) : String := labelled "success" "OK" message

/-- A message of an error. -/
def error (message : String) : String := labelled "error" "ERROR" message

/-- A warning. -/
def warning (message : String) : String := labelled "warning" "WARNING" message

/-- A hint. -/
def info (message : String) : String := labelled "info" "INFO" message

/-- A title in the middle of a line. -/
def rule (title : String) : String :=
  let side := (width - title.length) / 2
  let left := side - 1
  let right := width - left - title.length - 2
  let dashes := fun n => String.ofList (List.replicate n '─')
  dashes left ++ " " ++ title ++ " " ++ dashes right ++ "\n"

end Preflight.Console
