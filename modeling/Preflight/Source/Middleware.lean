import Preflight.Pattern.Basic

/-!
# Middleware

What is handed to a `.use(` call: a quoted text, or else a name. All quoted texts come first.
-/

set_option autoImplicit false

namespace Preflight.Source

open Pattern

/-- A character that can start a name in a source text. -/
def isNameStart (c : Char) : Bool := c.isAlpha || c == '_' || c == '$'

/-- A character that can go on in a name. -/
def isNameChar (c : Char) : Bool := isNameStart c || c.isDigit

/-- A `.use(` call up to its first argument. -/
def useCall : Pattern := word ".use" ++ blanks ++ char '(' ++ blanks

/-- The first argument of a `.use(` call, as a literal and as a name. -/
def middlewareForms : List Pattern :=
  [useCall ++ one isQuote ++ keep (runOne fun c => !isQuote c) ++ one isQuote,
   useCall ++ keep (one isNameStart ++ run isNameChar)]

/-- The middleware that a source text uses. -/
def middleware (code : String) : List String :=
  middlewareForms.flatMap fun form =>
    (form.findAll code.toList).flatMap fun found => found.kept.map String.ofList

end Preflight.Source
