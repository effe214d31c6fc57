import Mathlib.Algebra.Group.Nat.Defs
import Preflight.Text.Digit

/-!
# Digits of all scripts

A digit stands within ten code points of the zero of its run (`isDigit_iff`), so that a character in
none of the runs is no digit. A number is less than the power of ten of its digits (`numeral_lt`).
-/

set_option autoImplicit false

namespace Preflight.Text

/-- A digit stands in the run of some zero. -/
theorem isDigit_iff {c : Char} :
    isDigit c = true ↔ ∃ start ∈ zeros, start ≤ c.toNat ∧ c.toNat < start + 10 := by
  have hscripts : (digitValue? c).isSome = true ↔
      ∃ start ∈ zeros, start ≤ c.toNat ∧ c.toNat < start + 10 := by
    simp [digitValue?]
  have hfirst : ∀ start ∈ zeros, start < 0x80 → start = 0x30 := by decide
  have hzero : 0x30 ∈ zeros := by decide
  unfold isDigit
  split
  · rename_i hsmall
    rw [Bool.and_eq_true, decide_eq_true_eq, decide_eq_true_eq]
    constructor
    · rintro ⟨hlow, hhigh⟩
      have hlow : 0x30 ≤ c.toNat := hlow
      have hhigh : c.toNat ≤ 0x39 := hhigh
      exact ⟨0x30, hzero, hlow, by omega⟩
    · rintro ⟨start, hstart, hlow, hhigh⟩
      obtain rfl := hfirst start hstart (by omega)
      exact ⟨hlow, show c.toNat ≤ 0x39 by omega⟩
  · exact hscripts

/-- A character counts for less than ten. -/
theorem digitValue_lt (c : Char) : digitValue c < 10 := by
  unfold digitValue
  split
  · rename_i hdigit
    rw [isAsciiDigit, Bool.and_eq_true, decide_eq_true_eq, decide_eq_true_eq] at hdigit
    have hhigh : c.toNat ≤ 0x39 := hdigit.2
    omega
  · cases hvalue : digitValue? c with
    | none => exact Nat.succ_pos 9
    | some value =>
      obtain ⟨start, hstart, rfl⟩ := Option.map_eq_some_iff.mp hvalue
      have hrun := List.find?_some hstart
      rw [Bool.and_eq_true, decide_eq_true_eq, decide_eq_true_eq] at hrun
      show c.toNat - start < 10
      omega

/-- **A number is less than the power of ten of its digits.** -/
theorem numeral_lt (digits : List Char) : numeral digits < 10 ^ digits.length := by
  have hfold : ∀ (chars : List Char) (total bound : Nat), total < bound →
      chars.foldl (fun total c => total * 10 + digitValue c) total <
        bound * 10 ^ chars.length := by
    intro chars
    induction chars with
    | nil =>
      intro total bound htotal
      simpa using htotal
    | cons c chars ih =>
      intro total bound htotal
      have hvalue := digitValue_lt c
      have hnext := ih (total * 10 + digitValue c) (bound * 10) (by omega)
      rw [List.foldl_cons, List.length_cons, Nat.pow_succ']
      rwa [Nat.mul_assoc] at hnext
  have hall := hfold digits 0 1 Nat.one_pos
  rwa [Nat.one_mul] at hall

end Preflight.Text
