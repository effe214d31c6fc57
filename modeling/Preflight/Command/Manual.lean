import Preflight.Command.Verb
import Preflight.Console.Wrap

/-!
# Help pages

The page of the program and those of its verbs: how to call it, what it does, and a list of terms
with what they stand for. Pages are a little narrower than the console.
-/

set_option autoImplicit false

namespace Preflight.Command

/-- The name of the program. -/
def programName : String := "ready-to-ship"

/-- What the program does. -/
def programSummary : String := "Check whether a Node.js backend is ready for production."

/-- The version of the program. -/
def version : String := "0.1.0"

/-- The width of a page. -/
def pageWidth : Nat := Console.width - 2

/-! ## Filling lines -/

/-- The words in lines that are no wider than the width; a word that is wider has a line of its
own. `line` is the current line. -/
def fillLines (width : Nat) : (line : String) → List String → List String
  | line, [] => [line]
  | line, word :: rest =>
    if line.length + 1 + word.length ≤ width then fillLines width (line ++ " " ++ word) rest
    else line :: fillLines width word rest

/-- The words between the blanks of a text. -/
def wordsOf (text : String) : List String := (text.toList.splitOn ' ').map String.ofList

/-- A text in lines that are no wider than the width. -/
def linesOf (width : Nat) (text : String) : List String :=
  match wordsOf text with
  | [] => []
  | word :: rest => fillLines width word rest

/-- The words that fit into a width with three points behind them. -/
def shortened (width : Nat) : (kept : String) → List String → String
  | kept, [] => kept ++ "..."
  | kept, word :: rest =>
    let more := if kept.isEmpty then word else kept ++ " " ++ word
    if more.length + 3 ≤ width then shortened width more rest else kept ++ "..."

/-- A sentence that fits into a width: if it is too long, as many of its words as fit. -/
def shorten (width : Nat) (sentence : String) : String :=
  if sentence.length ≤ width then sentence else shortened width "" (wordsOf sentence)

/-! ## Lists of terms -/

/-- Blanks. -/
def blanks (count : Nat) : String := String.ofList (List.replicate count ' ')

/-- The width of the column for terms: two blanks follow the longest. -/
def termColumn (entries : List (String × String)) : Nat :=
  (entries.map fun (term, _) => term.length).foldl max 0 + 2

/-- The lines of an entry: a term and, in the second column, what it stands for. -/
def entryLines (column : Nat) (term text : String) : List String :=
  match linesOf (pageWidth - column - 2) text with
  | [] => ["  " ++ term]
  | first :: rest =>
    ("  " ++ term ++ blanks (column - term.length) ++ first) ::
      rest.map fun line => blanks (column + 2) ++ line

/-- A list of terms under its heading. -/
def termList (heading : String) (entries : List (String × String)) : List String :=
  heading :: entries.flatMap fun (term, text) => entryLines (termColumn entries) term text

/-! ## Pages -/

/-- How to call the program, or a verb. -/
def usage : Option Verb → String
  | none => "Usage: " ++ programName ++ " [OPTIONS] COMMAND [ARGS]..."
  | some verb => "Usage: " ++ programName ++ " " ++ verb.name ++ " [OPTIONS]"

/-- How to ask for the page. -/
def helpHint (verb? : Option Verb) : String :=
  "Try '" ++ String.intercalate " " (programName :: (verb?.map Verb.name).toList ++ ["--help"]) ++
    "' for help."

/-- The settings with what they do. -/
def settingList (settings : List Setting) : List String :=
  termList "Options:" (settings.map fun s => (s.term, s.summary))

/-- The verbs in the order of their names, with what they do in short. -/
def verbList : List String :=
  let verbs := Verb.all.mergeSort fun v w => v.name ≤ w.name
  let column := termColumn (verbs.map fun v => (v.name, ""))
  termList "Commands:" (verbs.map fun v => (v.name, shorten (pageWidth - column - 4) v.summary))

/-- The lines of the page of the program, or of a verb. -/
def pageLines : Option Verb → List String
  | none =>
    [usage none, "", "  " ++ programSummary, ""] ++ settingList programSettings ++ [""] ++ verbList
  | some verb =>
    [usage (some verb), "", "  " ++ verb.summary, ""] ++ settingList verb.settings

/-- Lines as a text. -/
def linesText (lines : List String) : String := String.join (lines.map (· ++ "\n"))

/-- The page of the program, or of a verb. -/
def page (verb? : Option Verb) : String := linesText (pageLines verb?)

/-- The text about the version. -/
def versionText : String := programName ++ ", version " ++ version ++ "\n"

end Preflight.Command
