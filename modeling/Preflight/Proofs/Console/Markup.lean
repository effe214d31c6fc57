import Mathlib.Data.List.TakeDrop
import Mathlib.Data.List.TakeWhile
import Preflight.Console.Print
import Preflight.Proofs.Text.Split

/-!
# Markup that can be read

Markup is read segment by segment; only a tag that closes nothing stops it (`Shows`). What was
escaped has no tags to stop at (`shows_escapedFrom`): in front of each of its tags stands an odd number
of backslashes, whatever the text has in front of it. So a message can be shown behind every label
(`IsStyle.prints_labelled`), whatever it says.
-/

set_option autoImplicit false

namespace Preflight.Console

/-! ## Backslashes at the end -/

theorem endSlashes_append_cons {c : Char} (hc : c ≠ '\\') (before after : List Char) :
    endSlashes (before ++ c :: after) = endSlashes after := by
  have hstop : (c :: before.reverse).takeWhile (· == '\\') = [] :=
    List.takeWhile_cons_of_neg (by simpa using hc)
  rw [endSlashes, List.reverse_append, List.reverse_cons, List.append_assoc, List.singleton_append,
    List.takeWhile_append, hstop, List.append_nil]
  split
  · rename_i hall
    exact hall.symm
  · rfl

theorem endSlashes_append_replicate (chars : List Char) (n : Nat) :
    endSlashes (chars ++ List.replicate n '\\') = n + endSlashes chars := by
  rw [endSlashes, List.reverse_append, List.reverse_replicate, List.takeWhile_append_of_pos (by simp),
    List.length_append, List.length_replicate, endSlashes]

/-! ## Tags -/

/-- A tag is a name that can start one, up to the first closing bracket. -/
theorem tag?_eq_some_iff {segment body after : List Char} :
    tag? segment = some (body, after) ↔ ∃ c name, startsTag c = true ∧ ']' ∉ name ∧
      body = c :: name ∧ segment = c :: name ++ ']' :: after := by
  constructor
  · intro h
    cases segment with
    | nil => cases h
    | cons c rest =>
      rw [tag?, List.span_eq_takeWhile_dropWhile] at h
      split at h
      · rename_i hstarts
        have hwhole := List.takeWhile_append_dropWhile (p := (· != ']')) (l := rest)
        split at h
        · rename_i name last found hspan
          obtain ⟨hname, hrest⟩ := Prod.mk.inj hspan
          cases h
          have hlast := List.head?_dropWhile_not (· != ']') rest
          rw [hrest] at hlast
          obtain rfl : last = ']' := by simpa using hlast
          refine ⟨c, name, hstarts, ?_, rfl, ?_⟩
          · intro hmem
            rw [← hname] at hmem
            simpa using List.mem_takeWhile_imp hmem
          · rw [List.cons_append, ← hwhole, hname, hrest]
        · cases h
      · cases h
  · rintro ⟨c, name, hstarts, hname, rfl, rfl⟩
    have hall : ∀ x ∈ name, (x != ']') = true := by
      intro x hx
      exact bne_iff_ne.mpr (ne_of_mem_of_not_mem hx hname)
    have hspan : (name ++ ']' :: after).span (· != ']') = (name, ']' :: after) := by
      rw [List.span_eq_takeWhile_dropWhile, List.takeWhile_append_of_pos hall,
        List.dropWhile_append_of_pos hall]
      simp
    rw [List.cons_append, tag?, if_pos hstarts, hspan]

/-- Backslashes behind a segment stand behind its tag. -/
theorem tag?_append_replicate (segment : List Char) (n : Nat) :
    tag? (segment ++ List.replicate n '\\') =
      (tag? segment).map fun (body, after) => (body, after ++ List.replicate n '\\') := by
  have hslash : ']' ∉ List.replicate n '\\' := by simp
  cases htag : tag? segment with
  | some found =>
    obtain ⟨c, name, hstarts, hname, hbody, hsegment⟩ := tag?_eq_some_iff.mp htag
    exact tag?_eq_some_iff.mpr ⟨c, name, hstarts, hname, hbody, by simp [hsegment]⟩
  | none =>
    rw [Option.map_none, Option.eq_none_iff_forall_ne_some]
    rintro ⟨body, after⟩ hfound
    obtain ⟨c, name, hstarts, hname, rfl, hwhole⟩ := tag?_eq_some_iff.mp hfound
    -- The closing bracket is none of the backslashes, so it stands in the segment.
    obtain ⟨more, -, hslashes⟩ | ⟨more, hmore, hslashes⟩ := List.append_eq_append_iff.mp hwhole
    · exact hslash (hslashes ▸ List.mem_append_right _ List.mem_cons_self)
    · cases more with
      | nil =>
        rw [List.nil_append] at hslashes
        exact hslash (hslashes ▸ List.mem_cons_self)
      | cons d more =>
        obtain ⟨rfl, -⟩ := List.cons.inj hslashes
        rw [tag?_eq_some_iff.mpr ⟨c, name, hstarts, hname, rfl, hmore⟩] at htag
        cases htag

/-! ## Reading on -/

/-- What follows can be read where some styles are open and some text stands in front of it. -/
def Shows (openNames : List (List Char)) (before : List Char) (rest : List (List Char)) : Prop :=
  ∀ place, ∃ shown, plainOf openNames (pieces place before rest) = .ok shown

namespace Shows

variable {openNames openNames' rest : List (List Char)} {before segment body after : List Char}

theorem nil : Shows openNames before [] := fun _ => ⟨_, rfl⟩

/-- Texts can always be read. -/
theorem plainOf_text (texts : List (List Char)) {more : List MarkupPiece}
    (h : ∃ shown, plainOf openNames more = .ok shown) :
    ∃ shown, plainOf openNames (texts.map .text ++ more) = .ok shown := by
  induction texts with
  | nil => exact h
  | cons chars texts ih =>
    obtain ⟨shown, hshown⟩ := ih
    refine ⟨unescape chars ++ shown, ?_⟩
    rw [List.map_cons, List.cons_append, plainOf, hshown]
    rfl

/-- A segment without a tag belongs to the text. -/
theorem noTag (htag : tag? segment = none)
    (h : Shows openNames (before ++ '[' :: segment) rest) :
    Shows openNames before (segment :: rest) := by
  intro place
  rw [pieces, htag]
  exact h place

/-- A tag with an odd number of backslashes in front of it is text. -/
theorem tagText (htag : tag? segment = some (body, after)) (hodd : endSlashes before % 2 = 1)
    (h : Shows openNames after rest) : Shows openNames before (segment :: rest) := by
  intro place
  simp only [pieces, htag, hodd, beq_self_eq_true, if_true]
  exact plainOf_text [_, _, _] (h _)

/-- A tag without backslashes in front of it opens and closes styles. -/
theorem tag (htag : tag? segment = some (body, after)) (hnone : endSlashes before = 0)
    (happly : ∀ place, applyTag place body openNames = .ok openNames')
    (h : Shows openNames' after rest) : Shows openNames before (segment :: rest) := by
  intro place
  simp only [pieces, htag, hnone]
  refine plainOf_text [_, _] ?_
  obtain ⟨shown, hshown⟩ := h (place + before.length + body.length + 2)
  refine ⟨shown, ?_⟩
  rw [← hshown]
  show (applyTag _ body openNames >>= fun names => plainOf names _) = _
  rw [happly]
  rfl

end Shows

/-- Markup can be read if what follows its first segment can. -/
theorem plain_isOk {first : List Char} {rest : List (List Char)}
    (hplain : ∀ segment ∈ first :: rest, '[' ∉ segment) (h : Shows [] first rest) :
    ∃ shown, plain (['['].intercalate (first :: rest)) = .ok shown := by
  have hsegments : segments (['['].intercalate (first :: rest)) = first :: rest :=
    List.splitOn_intercalate '[' hplain (List.cons_ne_nil _ _)
  unfold plain
  rw [hsegments]
  split
  · exact ⟨_, rfl⟩
  · exact ⟨_, rfl⟩
  · rename_i heq
    obtain ⟨rfl, rfl⟩ := List.cons.inj heq
    exact h 0

/-! ## Escaping -/

/-- The segments that escaping writes for a segment and those after it; the last one gets some
backslashes, too. -/
def escapedFrom (last : Nat) (segment : List Char) : List (List Char) → List (List Char)
  | [] => [segment ++ List.replicate last '\\']
  | next :: rest =>
    (segment ++ List.replicate (if (tag? next).isSome then endSlashes segment + 1 else 0) '\\') ::
      escapedFrom last next rest

theorem escapedFrom_eq_cons (last : Nat) (segment : List Char) (rest : List (List Char)) :
    ∃ head tail, escapedFrom last segment rest = head :: tail := by
  cases rest with
  | nil => exact ⟨_, _, rfl⟩
  | cons next rest => exact ⟨_, _, rfl⟩

/-- What has been written up to the last bracket stays as it is. -/
theorem intercalate_escapedFrom (last : Nat) (before segment : List Char)
    (rest : List (List Char)) :
    ['['].intercalate (escapedFrom last (before ++ '[' :: segment) rest) =
      before ++ '[' :: ['['].intercalate (escapedFrom last segment rest) := by
  cases rest with
  | nil => simp [escapedFrom]
  | cons next rest =>
    obtain ⟨head, tail, htail⟩ := escapedFrom_eq_cons last next rest
    simp only [escapedFrom, htail, List.intercalate_cons_cons,
      endSlashes_append_cons (show '[' ≠ '\\' by decide)]
    simp

theorem escapeSegments_eq (last : Nat) (rest : List (List Char)) : ∀ before : List Char,
    escapeSegments before rest ++ List.replicate last '\\' =
      ['['].intercalate (escapedFrom last before rest) := by
  induction rest with
  | nil =>
    intro before
    simp [escapeSegments, escapedFrom]
  | cons next rest ih =>
    intro before
    obtain ⟨head, tail, htail⟩ := escapedFrom_eq_cons last next rest
    rw [escapeSegments, ih, intercalate_escapedFrom, escapedFrom, htail,
      List.intercalate_cons_cons]
    cases tag? next <;> simp

/-- What is written for segments without brackets has none. -/
theorem notMem_escapedFrom {last : Nat} (rest : List (List Char)) : ∀ {segment : List Char},
    (∀ s ∈ segment :: rest, '[' ∉ s) → ∀ s ∈ escapedFrom last segment rest, '[' ∉ s := by
  induction rest with
  | nil =>
    intro segment h s hs
    obtain rfl := List.mem_singleton.mp hs
    simpa using h
  | cons next rest ih =>
    intro segment h s hs
    obtain ⟨hsegment, hrest⟩ := List.forall_mem_cons.mp h
    rcases List.mem_cons.mp hs with rfl | hs
    · simpa using hsegment
    · exact ih hrest s hs

/-- **What was escaped can be read.** In front of a tag the text has some backslashes, and one more
than them was added: the number is odd. -/
theorem shows_escapedFrom (last : Nat) (rest : List (List Char)) :
    ∀ segment, ∃ added tail,
      escapedFrom last segment rest = (segment ++ List.replicate added '\\') :: tail ∧
        ∀ openNames before, endSlashes before = endSlashes segment →
          Shows openNames (before ++ List.replicate added '\\') tail := by
  induction rest with
  | nil => exact fun segment => ⟨last, [], rfl, fun _ _ _ => .nil⟩
  | cons next rest ih =>
    intro segment
    obtain ⟨added, tail, htail, hshows⟩ := ih next
    refine ⟨_, _, by rw [escapedFrom, htail], fun openNames before hbefore => ?_⟩
    cases htag : tag? next with
    | none =>
      -- What stands in front grows by a bracket, so the backslashes are counted anew behind it.
      apply Shows.noTag (by rw [tag?_append_replicate, htag, Option.map_none])
      have hnext := hshows openNames (before ++ '[' :: next) (endSlashes_append_cons (by decide) _ _)
      simpa using hnext
    | some found =>
      obtain ⟨body, after⟩ := found
      apply Shows.tagText (by rw [tag?_append_replicate, htag, Option.map_some])
      · rw [endSlashes_append_replicate, hbefore, Option.isSome_some, if_pos rfl]
        omega
      · obtain ⟨c, name, -, -, rfl, hnext⟩ := tag?_eq_some_iff.mp htag
        apply hshows openNames after
        rw [hnext]
        exact (endSlashes_append_cons (by decide) _ _).symm

/-- An escaped text as segments that can be read behind any character but a backslash. -/
theorem exists_escape (text : List Char) : ∃ head tail,
    escape text = ['['].intercalate (head :: tail) ∧ (∀ segment ∈ head :: tail, '[' ∉ segment) ∧
      ∀ openNames c, c ≠ '\\' → Shows openNames (c :: head) tail := by
  obtain ⟨first, rest, hsegments⟩ := List.exists_cons_of_ne_nil
    (show segments text ≠ [] from List.splitOn_ne_nil '[' text)
  have hplain : ∀ segment ∈ first :: rest, '[' ∉ segment := by
    rw [← hsegments]
    exact fun segment hsegment => Text.notMem_of_mem_splitOn hsegment
  obtain ⟨last, hescape⟩ : ∃ last, escape text = ['['].intercalate (escapedFrom last first rest) := by
    unfold escape
    rw [hsegments]
    dsimp only
    split
    · exact ⟨1, escapeSegments_eq 1 rest first⟩
    · refine ⟨0, ?_⟩
      rw [← escapeSegments_eq]
      simp
  obtain ⟨added, tail, htail, hshows⟩ := shows_escapedFrom last rest first
  refine ⟨_, tail, by rw [hescape, htail], ?_, fun openNames c hc => ?_⟩
  · rw [← htail]
    exact notMem_escapedFrom rest hplain
  · exact hshows openNames (c :: first) (endSlashes_append_cons hc [] first)

/-! ## Styles -/

/-- The name of a style as tags write it. -/
structure IsStyle (style : List Char) : Prop where
  starts : ∃ c rest, style = c :: rest ∧ startsTag c = true ∧ c ≠ '/'
  noBracket : '[' ∉ style
  noEnd : ']' ∉ style
  noValue : '=' ∉ style
  name_eq : styleName style = style
  notBlank : Text.stripChars style ≠ []

namespace IsStyle

variable {style : List Char}

theorem opens (h : IsStyle style) (rest : List Char) :
    tag? (style ++ ']' :: rest) = some (style, rest) := by
  obtain ⟨c, name, rfl, hstarts, -⟩ := h.starts
  exact tag?_eq_some_iff.mpr ⟨c, name, hstarts, fun hmem => h.noEnd (by simp [hmem]), rfl, rfl⟩

theorem closes (h : IsStyle style) (rest : List Char) :
    tag? ('/' :: style ++ ']' :: rest) = some ('/' :: style, rest) :=
  tag?_eq_some_iff.mpr ⟨'/', style, by decide, h.noEnd, rfl, rfl⟩

theorem takeWhile_eq {chars : List Char} (h : '=' ∉ chars) :
    chars.takeWhile (· != '=') = chars := by
  refine List.takeWhile_eq_self_iff.mpr fun c hc => ?_
  exact bne_iff_ne.mpr (ne_of_mem_of_not_mem hc h)

theorem applyTag_opening (h : IsStyle style) (place : Nat) (openNames : List (List Char)) :
    applyTag place style openNames = .ok (style :: openNames) := by
  obtain ⟨c, name, hstyle, -, hc⟩ := h.starts
  unfold applyTag
  rw [takeWhile_eq h.noValue]
  dsimp only
  split
  · cases hstyle
    exact absurd rfl hc
  · rw [h.name_eq]

theorem applyTag_closing (h : IsStyle style) (place : Nat) (openNames : List (List Char)) :
    applyTag place ('/' :: style) (style :: openNames) = .ok openNames := by
  have hvalue : '=' ∉ '/' :: style := by simpa using h.noValue
  have hblank : (Text.stripChars style).isEmpty = false := by simpa using h.notBlank
  simp [applyTag, takeWhile_eq hvalue, hblank, h.name_eq]

end IsStyle

/-- The console can show the markup. -/
def Prints (markup : String) : Prop := ∃ shown, print markup = .ok shown

theorem prints_of_shows {markup : String} {first : List Char} {rest : List (List Char)}
    (hmarkup : markup.toList = ['['].intercalate (first :: rest))
    (hplain : ∀ segment ∈ first :: rest, '[' ∉ segment) (h : Shows [] first rest) :
    Prints markup := by
  obtain ⟨shown, hshown⟩ := plain_isOk hplain h
  refine ⟨printPlain shown, ?_⟩
  rw [print, hmarkup, hshown]
  rfl

/-- There is nothing in the text that markup could read. -/
def IsPlain (text : String) : Prop := '[' ∉ text.toList ∧ '\\' ∉ text.toList

namespace IsPlain

@[simp] theorem append {text more : String} : IsPlain (text ++ more) ↔ IsPlain text ∧ IsPlain more := by
  simp only [IsPlain, String.toList_append, List.mem_append, not_or]
  exact and_and_and_comm

theorem ofNat (n : Nat) : IsPlain (toString n) := by
  have hdigits : ∀ c : Char, c.isDigit = false → c ∉ (toString n).toList := by
    intro c hc hmem
    rw [Nat.toString_eq_ofList_toDigits, String.toList_ofList] at hmem
    rw [Nat.isDigit_of_mem_toDigits (by decide) (by decide) hmem] at hc
    cases hc
  exact ⟨hdigits _ (by decide), hdigits _ (by decide)⟩

theorem endSlashes_eq {text : String} (h : IsPlain text) : endSlashes text.toList = 0 := by
  have hnone : (text.toList.reverse.takeWhile (· == '\\')) = [] := by
    rw [List.takeWhile_eq_nil_iff]
    intro hpos
    have hmem : text.toList.reverse[0] ∈ text.toList :=
      List.mem_reverse.mp (List.getElem_mem hpos)
    exact fun heq => h.2 (eq_of_beq heq ▸ hmem)
  rw [endSlashes, hnone, List.length_nil]

/-- Escaping leaves a plain text as it is. -/
theorem literal_eq {text : String} (h : IsPlain text) : literal text = text := by
  have hsegments : segments text.toList = [text.toList] := List.splitOn_eq_singleton h.1
  rw [literal, escape, hsegments]
  simp [escapeSegments, h.endSlashes_eq]

/-- A plain text is read as it stands. -/
theorem plain_eq {text : String} (h : IsPlain text) : plain text.toList = .ok text.toList := by
  have hsegments : segments text.toList = [text.toList] := List.splitOn_eq_singleton h.1
  rw [plain, hsegments]

theorem print_eq {text : String} (h : IsPlain text) : print text = .ok (printPlain text.toList) := by
  rw [print, h.plain_eq]
  rfl

end IsPlain

theorem unescape_eq {chars : List Char} (h : '\\' ∉ chars) : unescape chars = chars := by
  induction chars with
  | nil => rfl
  | cons c rest ih =>
    rw [List.mem_cons, not_or] at h
    have hc : c ≠ '\\' := fun heq => h.1 heq.symm
    rw [unescape, ih h.2]
    · exact fun _ hslash _ => hc hslash

/-- A plain text in a style is read without its tags. -/
theorem IsStyle.plain_styled {style : String} (hstyle : IsStyle style.toList)
    {before text after : String} (hbefore : IsPlain before) (htext : IsPlain text)
    (hafter : IsPlain after) :
    plain (before ++ styled style text ++ after).toList = .ok (before ++ text ++ after).toList := by
  have hsegments : segments (before ++ styled style text ++ after).toList =
      [before.toList, style.toList ++ ']' :: text.toList,
        '/' :: style.toList ++ ']' :: after.toList] := by
    have hmarkup : (before ++ styled style text ++ after).toList = ['['].intercalate
        [before.toList, style.toList ++ ']' :: text.toList,
          '/' :: style.toList ++ ']' :: after.toList] := by
      simp [styled, String.toList_append]
    rw [hmarkup]
    refine List.splitOn_intercalate '[' ?_ (List.cons_ne_nil _ _)
    simp [hbefore.1, htext.1, hafter.1, hstyle.noBracket]
  have hpieces : ∃ opened closed, pieces 0 before.toList [style.toList ++ ']' :: text.toList,
      '/' :: style.toList ++ ']' :: after.toList] =
      [.text before.toList, .text [], .tag opened style.toList, .text text.toList, .text [],
        .tag closed ('/' :: style.toList), .text after.toList] := by
    simp only [pieces, hstyle.opens, hstyle.closes, hbefore.endSlashes_eq, htext.endSlashes_eq,
      Nat.sub_zero, List.take_length]
    exact ⟨_, _, rfl⟩
  obtain ⟨opened, closed, hpieces⟩ := hpieces
  rw [plain, hsegments]
  dsimp only
  rw [hpieces]
  simp only [plainOf, hstyle.applyTag_opening, hstyle.applyTag_closing, bind, Except.bind,
    unescape_eq hbefore.2, unescape_eq htext.2, unescape_eq hafter.2]
  simp [unescape, pure, Except.pure]

/-- **A text in a style can be shown**, if it is plain, and what stands around it. -/
theorem IsStyle.prints_styled {style : String} (hstyle : IsStyle style.toList)
    {before text after : String} (hbefore : IsPlain before) (htext : IsPlain text)
    (hafter : IsPlain after) : Prints (before ++ styled style text ++ after) :=
  ⟨_, by rw [print, hstyle.plain_styled hbefore htext hafter]; rfl⟩

/-- **A message can be shown behind a label, whatever it says.** -/
theorem IsStyle.prints_labelled {style : String} (hstyle : IsStyle style.toList)
    {label : String} (hlabel : IsPlain label) (message : String) :
    Prints (labelled style label message) := by
  obtain ⟨head, tail, hescape, hplain, hshows⟩ := exists_escape message.toList
  obtain ⟨hhead, htail⟩ := List.forall_mem_cons.mp hplain
  have hmarkup : (labelled style label message).toList = ['['].intercalate
      ([] :: (style.toList ++ ']' :: (label.toList ++ [':'])) ::
        ('/' :: style.toList ++ ']' :: ' ' :: head) :: tail) := by
    cases tail <;> simp [labelled, styled, literal, String.toList_append, hescape]
  apply prints_of_shows hmarkup
  · simpa [hlabel.1, hhead, hstyle.noBracket] using htail
  apply Shows.tag (hstyle.opens _) rfl fun place => hstyle.applyTag_opening place []
  apply Shows.tag (hstyle.closes _) (endSlashes_append_cons (by decide) label.toList [])
    fun place => hstyle.applyTag_closing place []
  exact hshows [] ' ' (by decide)

end Preflight.Console
