import Preflight.Pattern.Basic
import Preflight.Source.Line

/-!
# Authentication around a line

A registration counts as guarded when the lines around it mention authentication.
-/

set_option autoImplicit false

namespace Preflight.Source

open Pattern

/-- The number of lines before and after a line that count as its surroundings. -/
def guardRadius : Nat := 2

/-- The words and calls that mention authentication. -/
def guardForms : List Pattern :=
  [anyWord ["authenticate", "auth", "jwt", "verifyToken", "requireAuth", "isAuthenticated"],
   choice [word "passport.authenticate",
     word "express" ++ one (fun c => c == 'j' || c == 'J') ++ word "wt" ++ blanks ++ char '('],
   wordAnyCase "middleware" ++ gap inLine ++ wordAnyCase "auth"]

/-- The lines around the given line, joined again. Line numbers outside the text give the part of
the window that is inside; below one, the end of the window counts from the end of the text. -/
def surroundings (code : List Char) (line : Int) : List Char :=
  ['\n'].intercalate (slice (lines code) (line - 1 - guardRadius).toNat (line + guardRadius))

/-- Authentication is mentioned around the line. -/
def isGuarded (code : String) (line : Int) : Bool :=
  let window := surroundings code.toList line
  guardForms.any (·.occursIn window)

end Preflight.Source
