import Mathlib.Data.List.DropRight
import Preflight.Proofs.Text.Case
import Preflight.Text.Blank

/-!
# Texts without blanks around them

A text that has lost the blanks around it has none at its ends (`EndsPlain.stripChars`), and a text
without blanks at its ends loses nothing (`EndsPlain.eq`). A small letter is a blank no more than the
letter was, so an ASCII text that has lost its blanks and was put in lower case stays as it is when its
blanks are taken off again (`strip_lower_strip`) and it is put in lower case again (`lower_lower`).
-/

set_option autoImplicit false

namespace Preflight.Text

variable {chars : List Char}

/-- Neither end of the text is a blank. -/
structure EndsPlain (chars : List Char) : Prop where
  head : ∀ c ∈ chars.head?, isBlank c = false
  last : ∀ c ∈ chars.getLast?, isBlank c = false

/-- What is left of a text stood in it. -/
theorem stripChars_subset : stripChars chars ⊆ chars := fun _ hc =>
  (List.dropWhile_suffix isBlank).subset ((List.rdropWhile_prefix isBlank _).subset hc)

/-- What is left of a text has no blank at its ends. -/
theorem EndsPlain.stripChars (chars : List Char) : EndsPlain (stripChars chars) where
  head c hc := by
    obtain ⟨rest, hrest⟩ : ∃ rest, Text.stripChars chars = c :: rest :=
      List.head?_eq_some_iff.mp hc
    -- what the blanks at the end leave starts as the text without the blanks in front
    obtain ⟨back, hback⟩ : Text.stripChars chars <+: chars.dropWhile isBlank :=
      List.rdropWhile_prefix isBlank _
    rw [hrest, List.cons_append] at hback
    have hfront := List.head_dropWhile_not isBlank (l := chars) (by rw [← hback]; simp)
    simpa [← hback] using hfront
  last c hc := by
    obtain ⟨hne, rfl⟩ := List.mem_getLast?_eq_getLast hc
    exact Bool.eq_false_iff.mpr (List.rdropWhile_last_not isBlank (chars.dropWhile isBlank) hne)

/-- A text without blanks at its ends loses nothing. -/
theorem EndsPlain.eq (h : EndsPlain chars) : Text.stripChars chars = chars := by
  have hfront : chars.dropWhile isBlank = chars := by
    cases chars with
    | nil => rfl
    | cons c rest => exact List.dropWhile_cons_of_neg (by simp [h.head c rfl])
  have hback : chars.rdropWhile isBlank = chars :=
    List.rdropWhile_eq_self_iff.mpr fun hne => by
      simp [h.last _ (List.getLast?_eq_some_getLast hne)]
  show List.rdropWhile isBlank (chars.dropWhile isBlank) = chars
  rw [hfront, hback]

/-- A small letter is a blank no more than the letter. -/
theorem isBlank_toLower {c : Char} (h : c.toNat < 0x80) : isBlank c.toLower = isBlank c :=
  forall_ascii (P := fun c => isBlank c.toLower = isBlank c) (by decide +kernel) c h

/-- In small letters the ends of an ASCII text are blanks no more than they were. -/
theorem EndsPlain.map_toLower (h : EndsPlain chars) (hascii : IsAscii chars) :
    EndsPlain (chars.map Char.toLower) where
  head c hc := by
    rw [List.head?_map, Option.mem_def, Option.map_eq_some_iff] at hc
    obtain ⟨old, hold, rfl⟩ := hc
    rw [isBlank_toLower (hascii old (List.mem_of_mem_head? hold)), h.head old hold]
  last c hc := by
    rw [List.getLast?_map, Option.mem_def, Option.map_eq_some_iff] at hc
    obtain ⟨old, hold, rfl⟩ := hc
    rw [isBlank_toLower (hascii old (List.mem_of_mem_getLast? hold)), h.last old hold]

/-- What is left of an ASCII text is ASCII. -/
theorem IsAscii.strip {text : String} (h : IsAscii text.toList) : IsAscii (strip text).toList := by
  rw [Text.strip, String.toList_ofList]
  exact fun c hc => h c (stripChars_subset hc)

/-- An ASCII text in lower case is ASCII. -/
theorem IsAscii.lower {text : String} (h : IsAscii text.toList) : IsAscii (lower text).toList := by
  rw [toList_lower h]
  intro c hc
  obtain ⟨old, hold, rfl⟩ := List.mem_map.mp hc
  exact forall_ascii (P := fun c => c.toLower.toNat < 0x80) (by decide +kernel) old (h old hold)

/-- An ASCII text in lower case is in lower case. -/
theorem lower_lower {text : String} (h : IsAscii text.toList) : lower (lower text) = lower text := by
  apply String.toList_inj.mp
  rw [toList_lower h.lower, toList_lower h, List.map_map]
  exact List.map_congr_left fun c hc =>
    forall_ascii (P := fun c => c.toLower.toLower = c.toLower) (by decide +kernel) c (h c hc)

/-- An ASCII text without blanks around it gets none in lower case. -/
theorem strip_lower_strip {text : String} (h : IsAscii text.toList) :
    strip (lower (strip text)) = lower (strip text) := by
  have hends : EndsPlain (lower (strip text)).toList := by
    rw [toList_lower h.strip]
    refine EndsPlain.map_toLower ?_ h.strip
    rw [strip, String.toList_ofList]
    exact .stripChars text.toList
  rw [strip, hends.eq, String.ofList_toList]

end Preflight.Text
