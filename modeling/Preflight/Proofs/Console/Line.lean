import Preflight.Proofs.Console.Markup

/-!
# Lines that are shown as they stand

A text whose lines are no wider than the console, and that has neither tabs nor control characters,
is shown as it stands (`Fits.printPlain_eq`); so is a plain text in a style, without the tags around
it (`IsStyle.print_styled`). `lastLine` reads the last line of what was shown.
-/

set_option autoImplicit false

namespace Preflight.Console

/-! ## Wrapping -/

@[simp] theorem flatten_words : ∀ (started : Bool) (chars : List Char),
    (words started chars).flatten = chars
  | _, [] => rfl
  | _, [_] => rfl
  | started, c :: next :: rest => by
    have ih := flatten_words (started || !Text.isBlank c) (next :: rest)
    rw [words]
    cases hwords : words (started || !Text.isBlank c) (next :: rest) with
    | nil =>
      rw [hwords] at ih
      cases ih
    | cons word more =>
      rw [hwords, List.flatten_cons] at ih
      dsimp only
      split <;> simp [ih]

theorem length_stripEnd_le (chars : List Char) : (Text.stripEnd chars).length ≤ chars.length := by
  calc (Text.stripEnd chars).length
    _ = (chars.reverse.dropWhile Text.isBlank).length := List.length_reverse
    _ ≤ chars.reverse.length := (List.dropWhile_sublist _).length_le
    _ = chars.length := List.length_reverse

/-- Words that all have room stand on one line. -/
theorem fill_of_room {width : Nat} {keepWords : Bool} {ws : List (List Char)} :
    ∀ {line : List Char} {used : Nat}, used + ws.flatten.length ≤ width →
      fill width keepWords line used ws = [line ++ ws.flatten] := by
  induction ws with
  | nil =>
    intro line used _
    simp [fill]
  | cons word rest ih =>
    intro line used hroom
    rw [List.flatten_cons, List.length_append] at hroom
    have hword := length_stripEnd_le word
    rw [fill]
    dsimp only
    rw [if_pos (by omega), ih (by omega), List.flatten_cons, List.append_assoc]

theorem expandTabs_eq {line : List Char} (h : '\t' ∉ line) :
    ∀ column, expandTabs column line = line := by
  induction line with
  | nil => exact fun _ => rfl
  | cons c rest ih =>
    intro column
    rw [List.mem_cons, not_or] at h
    rw [expandTabs, if_neg (by simpa using fun heq : c = '\t' => h.1 heq.symm), ih h.2]

/-- A line that has room is left as it is. -/
theorem wrap_line {width : Nat} {keepWords : Bool} {line : List Char} (htabs : '\t' ∉ line)
    (hroom : line.length ≤ width) :
    (fill width keepWords [] 0 (words false (expandTabs 0 line))).map (cropBlanks width) =
      [line] := by
  have hwords : 0 + (words false line).flatten.length ≤ width := by simpa using hroom
  rw [expandTabs_eq htabs, fill_of_room hwords, flatten_words, List.nil_append, List.map_singleton,
    cropBlanks, List.take_of_length_le (by omega)]

/-- The text has room on the console, and nothing in it is dropped or replaced. -/
structure Fits (text : List Char) : Prop where
  lines : ∀ line ∈ text.splitOn '\n', '\t' ∉ line ∧ line.length ≤ width
  noControl : ∀ c ∈ text, isControl c = false

theorem Fits.printPlain_eq {text : List Char} (h : Fits text) :
    printPlain text = String.ofList (text ++ ['\n']) := by
  have hshown : text.filter (!isControl ·) = text :=
    List.filter_eq_self.mpr fun c hc => by simp [h.noControl c hc]
  have hwrap : wrap width false text = text.splitOn '\n' := by
    have hlines : ∀ line ∈ text.splitOn '\n', (fill width false [] 0
        (words false (expandTabs 0 line))).map (cropBlanks width) = [line] := by
      intro line hline
      obtain ⟨htabs, hroom⟩ := h.lines line hline
      exact wrap_line htabs hroom
    rw [wrap, List.flatMap_def, List.map_congr_left hlines, ← List.flatMap_def,
      List.flatMap_singleton']
  rw [printPlain, hshown, hwrap, List.intercalate_splitOn]

/-- There is nothing in the text that the console drops, replaces or takes for more than one
line. -/
def IsLine (text : String) : Prop :=
  ∀ c ∈ text.toList, c ≠ '\n' ∧ c ≠ '\t' ∧ isControl c = false

instance (text : String) : Decidable (IsLine text) := List.decidableBAll _ _

namespace IsLine

variable {text more : String}

@[simp] theorem append : IsLine (text ++ more) ↔ IsLine text ∧ IsLine more := by
  simp only [IsLine, String.toList_append, List.forall_mem_append]

theorem noNewline (h : IsLine text) : '\n' ∉ text.toList := fun hmem => (h _ hmem).1 rfl

/-- A line that has room is shown as it stands below an empty one. -/
theorem fits (h : IsLine text) (hroom : text.length ≤ width) : Fits ("\n" ++ text).toList := by
  have htext : ("\n" ++ text).toList = '\n' :: text.toList := String.toList_append
  have hlines : ('\n' :: text.toList).splitOn '\n' = [[], text.toList] := by
    rw [List.splitOn_cons_eq_if_modifyHead, beq_self_eq_true, if_pos rfl,
      List.splitOn_eq_singleton h.noNewline]
  rw [htext]
  constructor
  · rw [hlines]
    simp only [List.forall_mem_cons]
    refine ⟨?_, ?_, List.forall_mem_nil _⟩
    · exact ⟨List.not_mem_nil, Nat.zero_le _⟩
    · exact ⟨fun hmem => (h _ hmem).2.1 rfl, by rwa [String.length_toList]⟩
  · exact List.forall_mem_cons.mpr ⟨by decide, fun c hc => (h c hc).2.2⟩

end IsLine

/-! ## Styles -/

/-- **A plain text in a style is shown as it stands**, and what stands around it. -/
theorem IsStyle.print_styled {style : String} (hstyle : IsStyle style.toList)
    {before text after : String} (hbefore : IsPlain before) (htext : IsPlain text)
    (hafter : IsPlain after) (hfits : Fits (before ++ text ++ after).toList) :
    print (before ++ styled style text ++ after) = .ok (before ++ text ++ after ++ "\n") := by
  have hshown : String.ofList ((before ++ text ++ after).toList ++ ['\n']) =
      before ++ text ++ after ++ "\n" := by
    rw [String.ofList_append, String.ofList_toList]
  rw [print, hstyle.plain_styled hbefore htext hafter, ← hshown, ← hfits.printPlain_eq]
  rfl

/-! ## Last lines -/

/-- The last line of what was shown. -/
def lastLine (shown : String) : String :=
  String.ofList (shown.toList.dropLast.reverse.takeWhile (· != '\n')).reverse

theorem lastLine_append {line : String} (h : '\n' ∉ line.toList) (before : String) :
    lastLine (before ++ "\n" ++ line ++ "\n") = line := by
  have hchars : (before ++ "\n" ++ line ++ "\n").toList.dropLast.reverse =
      line.toList.reverse ++ '\n' :: before.toList.reverse := by
    rw [String.toList_append, show "\n".toList = ['\n'] from rfl, List.dropLast_concat]
    simp [String.toList_append]
  have hline : ∀ c ∈ line.toList.reverse, (c != '\n') = true := by
    intro c hc
    rw [List.mem_reverse] at hc
    exact bne_iff_ne.mpr (ne_of_mem_of_not_mem hc h)
  rw [lastLine, hchars, List.takeWhile_append_of_pos hline]
  simp

end Preflight.Console
