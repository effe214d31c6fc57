import Preflight.Source.Line

/-!
# Lines and offsets

The line of an offset counts the line feeds before it: it does not decrease with the offset and
never exceeds the number of lines. It is the line on which the text goes on there: a part of a text
without line feeds stands on the line of its offset (`exists_line_of_part`).

So counting and splitting agree (`offsets_agree_with_lines`): the line that is counted is the one of
the split text that holds the offset (`IsLineAt`), and no other does. A line feed belongs to the
line that it ends. The induction is on the text, one character at a time (`IsLineAt.cons_feed`,
`IsLineAt.cons_char`).
-/

set_option autoImplicit false

namespace Preflight.Source

/-- A line feed starts a line, and any other character goes in front of the first one. -/
theorem lines_cons (c : Char) (text : List Char) :
    lines (c :: text) = if c == '\n' then [] :: lines text else (lines text).modifyHead (c :: ·) :=
  List.splitOn_cons_eq_if_modifyHead ..

/-- There is a first line. -/
theorem exists_lines_eq (text : List Char) : ∃ first others, lines text = first :: others :=
  List.exists_cons_of_ne_nil (List.splitOn_ne_nil '\n' text)

/-- Any character but a line feed goes in front of the first line. -/
theorem lines_cons_char {c : Char} (hc : c ≠ '\n') {text first : List Char}
    {others : List (List Char)} (h : lines text = first :: others) :
    lines (c :: text) = (c :: first) :: others := by
  rw [lines_cons, if_neg (by simpa using hc), h, List.modifyHead_cons]

/-- There is one line more than there are line feeds. -/
theorem length_lines (text : List Char) : (lines text).length = text.count '\n' + 1 := by
  induction text with
  | nil => rfl
  | cons c text ih =>
    rw [lines_cons, List.count_cons]
    split
    · rw [List.length_cons, ih]
    · rw [List.length_modifyHead, ih]

/-- A later offset is on no earlier line. -/
theorem lineOf_mono (text : List Char) {offset later : Nat} (h : offset ≤ later) :
    lineOf text offset ≤ lineOf text later :=
  Nat.succ_le_succ ((List.take_sublist_take_left h).count_le '\n')

/-- Every offset is on one of the lines. -/
theorem lineOf_le (text : List Char) (offset : Nat) :
    lineOf text offset ≤ (lines text).length := by
  rw [length_lines]
  exact Nat.succ_le_succ ((List.take_sublist offset text).count_le '\n')

/-! ## Parts of lines -/

/-- A text without line feeds starts on the first line. -/
theorem exists_head_lines {part : List Char} (h : '\n' ∉ part) (rest : List Char) :
    ∃ line others, lines (part ++ rest) = line :: others ∧ part <+: line := by
  induction part with
  | nil =>
    obtain ⟨line, others, hlines⟩ := exists_lines_eq rest
    exact ⟨line, others, hlines, List.nil_prefix⟩
  | cons c part ih =>
    obtain ⟨hc, hpart⟩ := List.ne_and_not_mem_of_not_mem_cons h
    obtain ⟨line, others, hlines, hstart⟩ := ih hpart
    exact ⟨c :: line, others, lines_cons_char hc.symm hlines,
      List.cons_prefix_cons.mpr ⟨rfl, hstart⟩⟩

/-- **A part of a text without line feeds stands on the line of its offset.** -/
theorem exists_line_of_part {part : List Char} (h : '\n' ∉ part) (front rest : List Char) :
    ∃ line, (lines (front ++ (part ++ rest)))[front.count '\n']? = some line ∧ part <:+: line := by
  induction front with
  | nil =>
    obtain ⟨line, others, hlines, hstart⟩ := exists_head_lines h rest
    exact ⟨line, by rw [List.nil_append, hlines]; rfl, hstart.isInfix⟩
  | cons c front ih =>
    obtain ⟨line, hline, hinfix⟩ := ih
    rw [List.cons_append, lines_cons, List.count_cons]
    split
    · exact ⟨line, by rwa [List.getElem?_cons_succ], hinfix⟩
    · rw [Nat.add_zero, List.getElem?_modifyHead, hline]
      split
      · exact ⟨c :: line, rfl, hinfix.trans (List.suffix_cons _ _).isInfix⟩
      · exact ⟨line, rfl, hinfix⟩

/-! ## Lines that hold offsets -/

/-- The offset at which the line with the index starts: the lines before it, each with its line
feed. -/
def lineStart (lines : List (List Char)) (index : Nat) : Nat :=
  (lines.take index).foldr (fun line rest => line.length + 1 + rest) 0

/-- A line starts behind the end of every line before it. -/
theorem lineStart_add_length_lt {line : List Char} {lines : List (List Char)} :
    ∀ {index later : Nat}, index < later → lines[index]? = some line →
      lineStart lines index + line.length < lineStart lines later := by
  induction lines with
  | nil => exact fun _ h => nomatch h
  | cons first others ih =>
    intro index later hlt hline
    obtain ⟨later, rfl⟩ := Nat.exists_eq_add_one_of_ne_zero (Nat.ne_zero_of_lt hlt)
    cases index with
    | zero =>
      obtain rfl : first = line := Option.some.inj hline
      simp only [lineStart, List.take_zero, List.take_succ_cons, List.foldr_nil, List.foldr_cons]
      omega
    | succ index =>
      have hothers := ih (Nat.lt_of_succ_lt_succ hlt) hline
      simp only [lineStart, List.take_succ_cons, List.foldr_cons] at hothers ⊢
      omega

/-- The line with the index holds the offset, which is that of one of its characters or that of the
line feed that ends it. -/
structure IsLineAt (text : List Char) (offset index : Nat) (chars : List Char) : Prop where
  stands : (lines text)[index]? = some chars
  start_le : lineStart (lines text) index ≤ offset
  le_end : offset ≤ lineStart (lines text) index + chars.length
  holds : ∀ c, text[offset]? = some c →
    chars[offset - lineStart (lines text) index]? = some c ∨
      offset = lineStart (lines text) index + chars.length ∧ c = '\n'

variable {text line : List Char} {offset index : Nat}

/-- No offset is on two lines. -/
theorem IsLineAt.index_unique {other : Nat} {line' : List Char}
    (h : IsLineAt text offset index line) (h' : IsLineAt text offset other line') :
    index = other := by
  rcases Nat.lt_trichotomy index other with hlt | heq | hlt
  · have hstart := lineStart_add_length_lt hlt h.stands
    have := h.le_end
    have := h'.start_le
    omega
  · exact heq
  · have hstart := lineStart_add_length_lt hlt h'.stands
    have := h'.le_end
    have := h.start_le
    omega

/-- The first line holds the first offset. -/
theorem exists_isLineAt_zero (text : List Char) : ∃ line, IsLineAt text 0 0 line := by
  cases text with
  | nil => exact ⟨[], rfl, Nat.le_refl 0, Nat.le_refl 0, nofun⟩
  | cons c text =>
    by_cases hc : c = '\n'
    · subst hc
      refine ⟨[], rfl, Nat.le_refl 0, Nat.le_refl 0, fun d hd => .inr ⟨rfl, ?_⟩⟩
      exact (Option.some.inj hd).symm
    · obtain ⟨first, others, hlines⟩ := exists_lines_eq text
      exact ⟨c :: first, by rw [lines_cons_char hc hlines]; rfl, Nat.le_refl 0, Nat.zero_le _,
        fun d hd => .inl hd⟩

/-- A line feed in front is a line of its own. -/
theorem IsLineAt.cons_feed (h : IsLineAt text offset index line) :
    IsLineAt ('\n' :: text) (offset + 1) (index + 1) line := by
  obtain ⟨hstands, hstart, hend, hholds⟩ := h
  have hlines : lines ('\n' :: text) = [] :: lines text := lines_cons '\n' text
  have hmoved : lineStart (lines ('\n' :: text)) (index + 1) =
      lineStart (lines text) index + 1 := by
    rw [hlines, lineStart, List.take_succ_cons, List.foldr_cons, List.length_nil, Nat.zero_add,
      Nat.add_comm, lineStart]
  refine ⟨by rwa [hlines], ?_, ?_, fun c hc => ?_⟩ <;> rw [hmoved]
  · omega
  · omega
  · rw [Nat.add_sub_add_right]
    exact (hholds c hc).imp_right fun ⟨hlast, hfeed⟩ => ⟨by omega, hfeed⟩

/-- Any other character goes in front of the first line and moves the others. -/
theorem IsLineAt.cons_char {c : Char} (hc : c ≠ '\n') (h : IsLineAt text offset index line) :
    ∃ line', IsLineAt (c :: text) (offset + 1) index line' := by
  obtain ⟨hstands, hstart, hend, hholds⟩ := h
  obtain ⟨first, others, hfirst⟩ := exists_lines_eq text
  have hlines := lines_cons_char hc hfirst
  rw [hfirst] at hstands hstart hend hholds
  cases index with
  | zero =>
    obtain rfl : first = line := Option.some.inj hstands
    refine ⟨c :: first, ?_, ?_, ?_, fun d hd => ?_⟩ <;> rw [hlines]
    · rfl
    · exact Nat.zero_le _
    · exact Nat.succ_le_succ hend
    · exact (hholds d hd).imp_right fun ⟨hlast, hfeed⟩ => ⟨congrArg (· + 1) hlast, hfeed⟩
  | succ index =>
    have hmoved : lineStart ((c :: first) :: others) (index + 1) =
        lineStart (first :: others) (index + 1) + 1 := by
      simp only [lineStart, List.take_succ_cons, List.foldr_cons, List.length_cons]
      omega
    refine ⟨line, ?_, ?_, ?_, fun d hd => ?_⟩ <;> rw [hlines]
    · exact hstands
    · rw [hmoved]
      omega
    · rw [hmoved]
      omega
    · rw [hmoved, Nat.add_sub_add_right]
      exact (hholds d hd).imp_right fun ⟨hlast, hfeed⟩ => ⟨by omega, hfeed⟩

/-- **The line that is counted holds the offset.** -/
theorem exists_isLineAt {text : List Char} :
    ∀ {offset : Nat}, offset ≤ text.length →
      ∃ line, IsLineAt text offset (lineOf text offset - 1) line := by
  induction text with
  | nil =>
    intro offset h
    obtain rfl := Nat.le_zero.mp h
    exact exists_isLineAt_zero []
  | cons c text ih =>
    intro offset h
    cases offset with
    | zero => exact exists_isLineAt_zero (c :: text)
    | succ offset =>
      obtain ⟨line, hline⟩ := ih (Nat.le_of_succ_le_succ h)
      by_cases hc : c = '\n'
      · subst hc
        have hcount : lineOf ('\n' :: text) (offset + 1) - 1 = lineOf text offset - 1 + 1 := by
          simp [lineOf]
        rw [hcount]
        exact ⟨line, hline.cons_feed⟩
      · have hcount : lineOf (c :: text) (offset + 1) = lineOf text offset := by
          simp [lineOf, hc]
        rw [hcount]
        exact hline.cons_char hc

/-- **Offsets and lines agree.** The line of an offset in a text is one of the lines of the split
text, and the only one that holds the offset. Of two offsets the later is on no earlier line, and
behind the end of the text every offset is on the last one. The same line is given for an offset
that might be negative and is not. -/
theorem offsets_agree_with_lines (text : List Char) :
    (∀ offset < text.length, ∃ line, IsLineAt text offset (lineOf text offset - 1) line ∧
      ∀ index other, IsLineAt text offset index other → index = lineOf text offset - 1) ∧
    (∀ offset later, offset ≤ later → lineOf text offset ≤ lineOf text later) ∧
    (∀ offset, text.length ≤ offset → lineOf text offset = (lines text).length) ∧
    ∀ offset : Nat, lineOfOffset text offset = lineOf text offset := by
  refine ⟨fun offset hoffset => ?_, fun _ _ => lineOf_mono text, fun offset hoffset => ?_,
    fun offset => ?_⟩
  · obtain ⟨line, hline⟩ := exists_isLineAt (Nat.le_of_lt hoffset)
    exact ⟨line, hline, fun index other hother => hother.index_unique hline⟩
  · rw [lineOf, List.take_of_length_le hoffset, length_lines]
  · rw [lineOfOffset, if_pos (Int.natCast_nonneg offset), Int.toNat_natCast]

/-- A line feed that ends an empty line is on that line, and the character behind it on the next. -/
theorem empty_line_holds_its_feed :
    let text := "ab\n\nc".toList
    3 < text.length ∧ 3 ≤ 4 ∧ text.length ≤ 9 ∧
      (∃ line, IsLineAt text 3 1 line ∧
        ∀ index other, IsLineAt text 3 index other → index = 1) ∧
      lineOf text 3 < lineOf text 4 ∧ lineOf text 9 = 3 := by
  intro text
  obtain ⟨hholds, hmono, hbehind, -⟩ := offsets_agree_with_lines text
  have hline : lineOf text 3 = 2 := by decide
  have hnext : lineOf text 4 ≠ 2 := by decide
  have hlines : (lines text).length = 3 := by decide
  have hthere := hholds 3 (by decide)
  rw [hline] at hthere
  have hle := hmono 3 4 (by decide)
  refine ⟨by decide, by decide, by decide, hthere, ?_, (hbehind 9 (by decide)).trans hlines⟩
  omega

end Preflight.Source
