/-!
# Scan limits

How many of the files that match are opened. Every limit is a soft cap on one look for evidence.
-/

set_option autoImplicit false

namespace Preflight

/-- Caps on the number of files that a check opens. -/
structure Limits where
  errorHandlerFilesPerGlob : Nat := 10
  errorHandlerMainFiles : Nat := 3
  securityFeatureFiles : Nat := 20
  securityAntipatternFiles : Nat := 10
  databaseConnectionFiles : Nat := 10
  deriving Repr, DecidableEq

end Preflight
