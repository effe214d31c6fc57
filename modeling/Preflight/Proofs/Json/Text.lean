import Preflight.Json.Parser
import Preflight.Json.Printer
import Preflight.Proofs.Text.Utf8

/-!
# Texts that are read back

A text of characters is read back from what is written for it (`readText_written`), whatever the
characters are: a mark, a backslash, a control character, or a character beyond the first plane,
which is written as two halves that the reader joins. What is written is ASCII.
-/

set_option autoImplicit false

namespace Preflight.Json

/-! ## Escapes -/

theorem hexValue?_hexDigit {n : Nat} (h : n < 16) : hexValue? (Text.hexDigit n) = some n := by
  have hall : ∀ n < 16, hexValue? (Text.hexDigit n) = some n := by decide
  exact hall n h

/-- Four hexadecimal digits write a unit. -/
theorem hexDigits_four (unit : Nat) : ∃ a b c d, Text.hexDigits 4 unit = [a, b, c, d] ∧
    (unit < 0x10000 → hexNumber? [a, b, c, d] = some unit) := by
  refine ⟨_, _, _, _, rfl, fun h => ?_⟩
  have hdigit : ∀ n, hexValue? (Text.hexDigit (n % 16)) = some (n % 16) :=
    fun n => hexValue?_hexDigit (Nat.mod_lt n (by decide))
  simp only [hexNumber?, List.foldl_cons, List.foldl_nil, hdigit, Option.bind_eq_bind,
    Option.bind_some, Option.pure_def, Option.some.injEq]
  omega

variable {opening : Nat} {found : Text} {rest : List Char}

/-- An escaped unit is read as its symbol, if something follows. -/
theorem readText_unitEscape {unit : Nat} (h : unit < 0x10000) (hrest : rest ≠ []) :
    readText opening found (unitEscape unit ++ rest) =
      readText opening (.ofUnit unit :: found) rest := by
  obtain ⟨a, b, c, d, hdigits, hnumber⟩ := hexDigits_four unit
  obtain ⟨next, more, rfl⟩ := List.exists_cons_of_ne_nil hrest
  rw [unitEscape, hdigits]
  simp only [List.cons_append, List.nil_append]
  rw [readText]
  exact hnumber h

/-! ## Characters -/

/-- A character as the reader finds it before it joins halves: as it is, or as two halves if it lies
beyond the first plane. -/
def unitsOf (c : Char) : Text :=
  if c.toNat < 0x10000 then [.char c]
  else
    let past := c.toNat - 0x10000
    [.half (0xD800 + past / 0x400), .half (0xDC00 + past % 0x400)]

theorem ofUnit_toNat (c : Char) : Symbol.ofUnit c.toNat = .char c := by
  have hvalid : c.toNat < 0xD800 ∨ 0xDFFF < c.toNat ∧ c.toNat < 0x110000 := c.valid
  rw [Symbol.ofUnit, if_neg, Char.ofNat_toNat]
  simp only [isHighHalf, isLowHalf, Bool.or_eq_true, Bool.and_eq_true, decide_eq_true_eq]
  omega

theorem toNat_lt (c : Char) : c.toNat < 0x110000 := by
  have hvalid : c.toNat < 0xD800 ∨ 0xDFFF < c.toNat ∧ c.toNat < 0x110000 := c.valid
  omega

/-- The escape of a character is read. -/
theorem readText_charEscape (c : Char) (hrest : rest ≠ []) :
    readText opening found (charEscape c.toNat ++ rest) =
      readText opening ((unitsOf c).reverse ++ found) rest := by
  have hsize := toNat_lt c
  unfold charEscape unitsOf
  by_cases hplane : c.toNat < 0x10000
  · rw [if_pos hplane, if_pos hplane, readText_unitEscape hplane hrest, ofUnit_toNat]
    rfl
  · rw [if_neg hplane, if_neg hplane]
    dsimp only
    rw [List.append_assoc, readText_unitEscape (by omega) (by simp [unitEscape]),
      readText_unitEscape (by omega) hrest]
    have hhigh : Symbol.ofUnit (0xD800 + (c.toNat - 0x10000) / 0x400) =
        .half (0xD800 + (c.toNat - 0x10000) / 0x400) := by
      rw [Symbol.ofUnit, if_pos]
      simp only [isHighHalf, isLowHalf, Bool.or_eq_true, Bool.and_eq_true, decide_eq_true_eq]
      omega
    have hlow : Symbol.ofUnit (0xDC00 + (c.toNat - 0x10000) % 0x400) =
        .half (0xDC00 + (c.toNat - 0x10000) % 0x400) := by
      rw [Symbol.ofUnit, if_pos]
      simp only [isHighHalf, isLowHalf, Bool.or_eq_true, Bool.and_eq_true, decide_eq_true_eq]
      omega
    rw [hhigh, hlow]
    rfl

/-- **What is written for a character is read** as its units. -/
theorem readText_written_char (c : Char) (hrest : rest ≠ []) :
    readText opening found (Symbol.written (.char c) ++ rest) =
      readText opening ((unitsOf c).reverse ++ found) rest := by
  unfold Symbol.written
  split
  case h_1 heq => cases heq
  case h_9 d hmark hslash _ _ _ _ _ heq =>
    cases heq
    split
    · -- A printable character that is no mark and no backslash stands for itself.
      rename_i hprintable
      simp only [Bool.and_eq_true, decide_eq_true_eq] at hprintable
      have hlow : 0x20 ≤ c.toNat := hprintable.1
      have hhigh : c.toNat ≤ 0x7E := hprintable.2
      have hunits : unitsOf c = [.char c] := if_pos (by omega)
      rw [List.singleton_append, readText, if_neg (by omega), hunits]
      · rfl
      · exact hmark
      all_goals
        intros
        exact hslash (by assumption)
    · exact readText_charEscape c hrest
  all_goals
    rename_i heq
    cases heq
    rfl

/-! ## Texts -/

/-- The units of characters are joined to the characters. -/
theorem joinHalves_unitsOf (chars : List Char) :
    joinHalves (chars.flatMap unitsOf) = chars.map .char := by
  induction chars with
  | nil => rfl
  | cons c rest ih =>
    rw [List.flatMap_cons, List.map_cons, unitsOf]
    have hsize := toNat_lt c
    split
    · rw [List.singleton_append, joinHalves, ih]
      · nofun
    · dsimp only [List.cons_append, List.nil_append]
      have hhigh : isHighHalf (0xD800 + (c.toNat - 0x10000) / 0x400) = true := by
        simp only [isHighHalf, Bool.and_eq_true, decide_eq_true_eq]
        omega
      have hlow : isLowHalf (0xDC00 + (c.toNat - 0x10000) % 0x400) = true := by
        simp only [isLowHalf, Bool.and_eq_true, decide_eq_true_eq]
        omega
      have hcode : 0x10000 + (0xD800 + (c.toNat - 0x10000) / 0x400 - 0xD800) * 0x400 +
          (0xDC00 + (c.toNat - 0x10000) % 0x400 - 0xDC00) = c.toNat := by omega
      rw [joinHalves, hhigh, hlow, hcode, Char.ofNat_toNat, ih]
      rfl

/-- Written characters are read up to the closing mark. -/
theorem readText_flatMap_written (chars : List Char) : ∀ found,
    readText opening found ((chars.map Symbol.char).flatMap Symbol.written ++ '\x22' :: rest) =
      .ok (joinHalves (found.reverse ++ chars.flatMap unitsOf), rest) := by
  induction chars with
  | nil =>
    intro found
    rw [List.map_nil, List.flatMap_nil, List.nil_append, readText, List.flatMap_nil,
      List.append_nil]
  | cons c chars ih =>
    intro found
    rw [List.map_cons, List.flatMap_cons, List.append_assoc, readText_written_char c (by simp), ih]
    simp

/-- **A text of characters is read back** up to its closing mark. -/
theorem readText_written (s : String) (rest : List Char) :
    readText opening [] ((Text.ofString s).flatMap Symbol.written ++ '\x22' :: rest) =
      .ok (Text.ofString s, rest) := by
  rw [Text.ofString, readText_flatMap_written, List.reverse_nil, List.nil_append,
    joinHalves_unitsOf]

/-! ## Plain characters -/

open Text.Utf8 (isPlain)

theorem isPlain_unitEscape (unit : Nat) : ∀ c ∈ unitEscape unit, isPlain c = true := by
  have hdigit : ∀ n < 16, isPlain (Text.hexDigit n) = true := by decide
  have hdigits : ∀ width n, ∀ c ∈ Text.hexDigits width n, isPlain c = true := by
    intro width
    induction width with
    | zero => exact fun _ => List.forall_mem_nil _
    | succ width ih =>
      intro n
      rw [Text.hexDigits, List.forall_mem_append, List.forall_mem_singleton]
      exact ⟨ih _, hdigit _ (Nat.mod_lt n (by decide))⟩
  rw [unitEscape, List.forall_mem_cons, List.forall_mem_cons]
  exact ⟨by decide, by decide, hdigits 4 unit⟩

/-- What is written for a symbol is plain. -/
theorem isPlain_written (symbol : Symbol) : ∀ c ∈ symbol.written, isPlain c = true := by
  unfold Symbol.written
  split
  case h_1 => exact isPlain_unitEscape _
  case h_9 c _ _ _ hreturn _ _ _ =>
    split
    · rename_i hprintable
      simp only [Bool.and_eq_true, decide_eq_true_eq] at hprintable
      have hhigh : c.toNat ≤ 0x7E := hprintable.2
      rw [List.forall_mem_singleton, isPlain, Bool.and_eq_true, decide_eq_true_eq, bne_iff_ne]
      exact ⟨by omega, hreturn⟩
    · unfold charEscape
      split
      · exact isPlain_unitEscape _
      · exact List.forall_mem_append.mpr ⟨isPlain_unitEscape _, isPlain_unitEscape _⟩
  all_goals exact List.all_eq_true.mp (by decide)

theorem Text.isPlain_written (t : Text) : ∀ c ∈ t.written, isPlain c = true := by
  rw [Text.written, List.cons_append, List.forall_mem_cons, List.forall_mem_append,
    List.forall_mem_flatMap, List.forall_mem_singleton]
  exact ⟨by decide, fun symbol _ => Json.isPlain_written symbol, by decide⟩

end Preflight.Json
