import Preflight.Pattern.Basic

/-!
# Error handling

The constructs that count as handling errors in a source text.
-/

set_option autoImplicit false

namespace Preflight.Source

open Pattern

/-- A catch clause or call, a named handler, or an error handler handed to the application. -/
def errorHandlingForms : List Pattern :=
  [word "catch" ++ blanks ++ char '(',
   word ".catch" ++ blanks ++ char '(',
   anyWord ["errorHandler", "error-handler", "errorMiddleware"],
   word "express.errorHandler",
   wordAnyCase "app.use" ++ gap inLine ++ wordAnyCase "error"]

/-- The text handles errors somewhere. -/
def handlesErrors (code : String) : Bool :=
  errorHandlingForms.any (·.occursIn code.toList)

end Preflight.Source
