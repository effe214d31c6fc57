import Preflight.Proofs.Pattern.Occurrence
import Preflight.Proofs.Text.Split
import Preflight.Source.ErrorHandling
import Preflight.Source.Line

/-!
# What handles errors

A text handles errors if one of five forms occurs in it, and two of these say nothing of their own:
a call of `.catch` is a call of `catch` (`Calls.inner`), and `express.errorHandler` names a handler.
The other three are a matter of what stands in the text (`handlesErrors_iff`): a call of `catch` as it
is written, one of three names in any case, or `app.use` and behind it `error` on one line.

What stands in a part of a text stands in the text. So a text handles errors if a part of it does
(`handlesErrors_of_infix`), whatever is written around the part. A line may become longer by that,
but no line feed comes between what stood on it.
-/

set_option autoImplicit false

namespace Preflight.Source

open Pattern

variable {text part : List Char}

/-! ## Calls -/

/-- The text calls the word as it is written: blanks at most stand between it and a parenthesis. -/
def Calls (word : String) (text : List Char) : Prop :=
  ∃ space, (∀ c ∈ space, Text.isBlank c = true) ∧ word.toList ++ (space ++ ['(']) <:+: text

/-- A call of a word is what is read where the pattern of it occurs. -/
theorem occursIn_call_iff {w : String} :
    (word w ++ blanks ++ char '(').occursIn text = true ↔ Calls w text := by
  rw [occursIn_iff]
  constructor
  · rintro ⟨before, _, _, rest, hreads, rfl⟩
    obtain ⟨_, _, _, _, htoBlanks, hparenthesis, rfl, -⟩ := reads_append_iff.mp hreads
    obtain ⟨_, space, _, _, hword, hspace, rfl, -⟩ := reads_append_iff.mp htoBlanks
    obtain ⟨rfl, -⟩ := reads_char_iff.mp hparenthesis
    obtain ⟨rfl, -⟩ := reads_chars_iff.mp hword
    exact ⟨space, (reads_run_iff.mp hspace).1, before, rest, by simp⟩
  · rintro ⟨space, hspace, before, rest, rfl⟩
    have hstop : ∀ c ∈ (['('] ++ rest).head?, Text.isBlank c = false := by
      intro c hc
      obtain rfl : '(' = c := Option.some.inj hc
      decide
    have htoBlanks : (word w ++ blanks).Reads (w.toList ++ space) [] (['('] ++ rest) :=
      reads_append_iff.mpr ⟨_, _, _, _, reads_chars_iff.mpr ⟨rfl, rfl⟩,
        reads_run_iff.mpr ⟨hspace, hstop, rfl⟩, rfl, rfl⟩
    exact ⟨before, _, _, rest, reads_append_iff.mpr ⟨_, _, _, _, htoBlanks,
      reads_char_iff.mpr ⟨rfl, rfl⟩, rfl, rfl⟩, by simp⟩

/-- A text calls what a part of it calls. -/
theorem Calls.mono {w : String} (h : Calls w part) (hpart : part <:+: text) : Calls w text := by
  obtain ⟨space, hspace, hcall⟩ := h
  exact ⟨space, hspace, hcall.trans hpart⟩

/-- A call of a word calls every word that it ends with. -/
theorem Calls.inner {w inner : String} (hinner : inner.toList <:+ w.toList) (h : Calls w text) :
    Calls inner text := by
  obtain ⟨space, hspace, hcall⟩ := h
  obtain ⟨front, hfront⟩ := hinner
  refine ⟨space, hspace, List.IsInfix.trans ⟨front, [], ?_⟩ hcall⟩
  rw [List.append_nil, ← List.append_assoc, hfront]

/-! ## Names -/

/-- The names of error handlers. -/
def handlerNames : List String := ["errorHandler", "error-handler", "errorMiddleware"]

/-- The text names an error handler, in any case. -/
def NamesHandler (text : List Char) : Prop := ∃ name ∈ handlerNames, Mentions name text

/-- A text names the error handlers that a part of it names. -/
theorem NamesHandler.mono (h : NamesHandler part) (hpart : part <:+: text) :
    NamesHandler text := by
  obtain ⟨name, hname, hmentions⟩ := h
  exact ⟨name, hname, hmentions.mono hpart⟩

/-- The handler of a library has one of the names. -/
theorem namesHandler_of_library (h : (word "express.errorHandler").occursIn text = true) :
    NamesHandler text := by
  obtain ⟨before, _, _, rest, hreads, rfl⟩ := occursIn_iff.mp h
  obtain ⟨rfl, -⟩ := reads_chars_iff.mp hreads
  have hmentions : Mentions "errorHandler" "express.errorHandler".toList :=
    (spells_self "express.errorHandler").mentions (by decide)
  exact ⟨"errorHandler", by decide, hmentions.mono ⟨before, rest, List.append_assoc ..⟩⟩

/-! ## Handing over -/

/-- On a line of the text `error` stands somewhere behind `app.use`, in any case. -/
def HandsOver (text : List Char) : Prop :=
  ∃ line ∈ lines text, ∃ use between error, Spells "app.use" use ∧ Spells "error" error ∧
    use ++ (between ++ error) <:+: line

/-- Both stand on one line if no line feed is between them. -/
theorem handsOver_iff : HandsOver text ↔ ∃ use between error, Spells "app.use" use ∧
    Spells "error" error ∧ '\n' ∉ between ∧ use ++ (between ++ error) <:+: text := by
  have hplain : ∀ {use between error}, Spells "app.use" use → Spells "error" error →
      '\n' ∉ between → '\n' ∉ use ++ (between ++ error) ∧ use ++ (between ++ error) ≠ [] := by
    intro use between error huse herror hbetween
    simp only [List.mem_append, not_or]
    exact ⟨⟨huse.notMem (by decide), hbetween, herror.notMem (by decide)⟩,
      List.append_ne_nil_of_left_ne_nil (huse.ne_nil (by decide)) _⟩
  have hlines : ['\n'].intercalate (lines text) = text := List.intercalate_splitOn '\n'
  constructor
  · rintro ⟨line, hline, use, between, error, huse, herror, hwithin⟩
    have hfeed : '\n' ∉ line := Text.notMem_of_mem_splitOn hline
    have hbetween : '\n' ∉ between := fun hmem =>
      hfeed (hwithin.subset (List.mem_append_right _ (List.mem_append_left _ hmem)))
    obtain ⟨hpart, hne⟩ := hplain huse herror hbetween
    refine ⟨use, between, error, huse, herror, hbetween, ?_⟩
    have htext := (Text.infix_intercalate_iff hpart hne).mpr ⟨line, hline, hwithin⟩
    rwa [hlines] at htext
  · rintro ⟨use, between, error, huse, herror, hbetween, hwithin⟩
    obtain ⟨hpart, hne⟩ := hplain huse herror hbetween
    rw [← hlines] at hwithin
    obtain ⟨line, hline, hstands⟩ := (Text.infix_intercalate_iff hpart hne).mp hwithin
    exact ⟨line, hline, use, between, error, huse, herror, hstands⟩

/-- A text hands over what a part of it hands over. -/
theorem HandsOver.mono (h : HandsOver part) (hpart : part <:+: text) : HandsOver text := by
  obtain ⟨use, between, error, huse, herror, hbetween, hwithin⟩ := handsOver_iff.mp h
  exact handsOver_iff.mpr ⟨use, between, error, huse, herror, hbetween, hwithin.trans hpart⟩

/-- The two words on one line are what is read where the pattern of it occurs. -/
theorem occursIn_handsOver_iff :
    (wordAnyCase "app.use" ++ gap inLine ++ wordAnyCase "error").occursIn text = true ↔
      HandsOver text := by
  have hinLine : ∀ {chars : List Char}, (∀ c ∈ chars, inLine c = true) ↔ '\n' ∉ chars := by
    simp [inLine, List.forall_mem_ne']
  rw [occursIn_iff, handsOver_iff]
  constructor
  · rintro ⟨before, _, _, rest, hreads, rfl⟩
    obtain ⟨_, error, _, _, htoGap, herror, rfl, -⟩ := reads_append_iff.mp hreads
    obtain ⟨use, between, _, _, huse, hbetween, rfl, -⟩ := reads_append_iff.mp htoGap
    exact ⟨use, between, error, (reads_wordAnyCase_iff.mp huse).1,
      (reads_wordAnyCase_iff.mp herror).1, hinLine.mp (reads_gap_iff.mp hbetween).1, before, rest,
      by simp⟩
  · rintro ⟨use, between, error, huse, herror, hbetween, before, rest, rfl⟩
    have htoGap : (wordAnyCase "app.use" ++ gap inLine).Reads (use ++ between) []
        (error ++ rest) :=
      reads_append_iff.mpr ⟨_, _, _, _, reads_wordAnyCase_iff.mpr ⟨huse, rfl⟩,
        reads_gap_iff.mpr ⟨hinLine.mpr hbetween, rfl⟩, rfl, rfl⟩
    exact ⟨before, _, _, rest, reads_append_iff.mpr ⟨_, _, _, _, htoGap,
      reads_wordAnyCase_iff.mpr ⟨herror, rfl⟩, rfl, rfl⟩, by simp⟩

/-! ## Texts that handle errors -/

/-- The forms of which one occurs wherever a text handles errors. -/
def decisiveForms : List Pattern :=
  [word "catch" ++ blanks ++ char '(', anyWord handlerNames,
   wordAnyCase "app.use" ++ gap inLine ++ wordAnyCase "error"]

/-- What the three forms look for stands in the text. -/
theorem any_decisiveForms_iff : decisiveForms.any (·.occursIn text) = true ↔
    Calls "catch" text ∨ NamesHandler text ∨ HandsOver text := by
  simp only [decisiveForms, List.any_cons, List.any_nil, Bool.or_false, Bool.or_eq_true,
    occursIn_call_iff, occursIn_anyWord_iff, occursIn_handsOver_iff]
  rfl

/-- **Three of the five forms decide.** -/
theorem handlesErrors_eq_decisive (code : String) :
    handlesErrors code = decisiveForms.any (·.occursIn code.toList) := by
  rw [Bool.eq_iff_iff, any_decisiveForms_iff]
  simp only [handlesErrors, errorHandlingForms, List.any_cons, List.any_nil, Bool.or_false,
    Bool.or_eq_true, occursIn_call_iff, occursIn_handsOver_iff]
  rw [← handlerNames, occursIn_anyWord_iff]
  constructor
  · rintro (hcatch | hmethod | hname | hlibrary | hover)
    · exact .inl hcatch
    · exact .inl (hmethod.inner (by decide))
    · exact .inr (.inl hname)
    · exact .inr (.inl (namesHandler_of_library hlibrary))
    · exact .inr (.inr hover)
  · rintro (hcatch | hname | hover)
    · exact .inl hcatch
    · exact .inr (.inr (.inl hname))
    · exact .inr (.inr (.inr (.inr hover)))

/-- A text handles errors by what stands in it. -/
theorem handlesErrors_iff {code : String} : handlesErrors code = true ↔
    Calls "catch" code.toList ∨ NamesHandler code.toList ∨ HandsOver code.toList := by
  rw [handlesErrors_eq_decisive, any_decisiveForms_iff]

/-- What handles errors calls `catch` or mentions an error. -/
theorem calls_or_mentions_of_handlesErrors {code : String} (h : handlesErrors code = true) :
    Calls "catch" code.toList ∨ Mentions "error" code.toList := by
  have hinner : ∀ name ∈ handlerNames,
      "error".toList.map Char.toLower <:+: name.toList.map Char.toLower := by decide
  refine (handlesErrors_iff.mp h).imp_right ?_
  rintro (⟨name, hname, hmentions⟩ | hover)
  · exact hmentions.inner (hinner name hname)
  · obtain ⟨use, between, error, -, herror, -, hwithin⟩ := handsOver_iff.mp hover
    have hpart : error <:+: use ++ (between ++ error) :=
      ⟨use ++ between, [], by rw [List.append_nil, List.append_assoc]⟩
    exact ⟨error, hpart.trans hwithin, herror⟩

/-- **A text handles errors if a part of it does.** -/
theorem handlesErrors_of_infix {code whole : String} (h : code.toList <:+: whole.toList)
    (hcode : handlesErrors code = true) : handlesErrors whole = true := by
  rw [handlesErrors_iff] at hcode ⊢
  exact hcode.imp (·.mono h) (.imp (·.mono h) (·.mono h))

/-- The case counts for a call and not for a name, and a comment between the two words does not
part them. -/
example : handlesErrors "Catch (e)" = false ∧ handlesErrors "ERRORhandler" = true ∧
    handlesErrors "App.use(/* no */ errors)" = true ∧ handlesErrors "app.use(\nerrors)" = false := by
  decide +kernel

end Preflight.Source
