import Mathlib.Data.List.Forall2
import Mathlib.Data.List.Infix
import Preflight.Proofs.Pattern.Reading

/-!
# Where patterns occur

A pattern occurs in a text exactly if it reads a part of it, with what follows that part as the rest
(`occursIn_iff`).

For words in any case this is a matter of the letters alone: such a word occurs exactly if a part of
the text spells it (`occursIn_wordAnyCase_iff`). So a word that stands in another occurs wherever
the other does (`Mentions.inner`).

A word at the end of a pattern makes it blind for what follows (`IsBlind`), also where a run in
front of the word must be the longest. A blind pattern occurs in a text if it occurs in a part of it.
-/

set_option autoImplicit false

namespace Preflight.Pattern

variable {p : Pattern} {part rest text : List Char} {kept : List (List Char)}

/-! ## Places -/

/-- A pattern starts a text if it reads a part at its start. -/
theorem startsAt_iff : p.startsAt text = true ↔
    ∃ part kept rest, p.Reads part kept rest ∧ text = part ++ rest := by
  rw [startsAt, Option.isSome_iff_ne_none, Ne, read?_eq_none_iff]
  push Not
  rfl

/-- **A pattern occurs in a text if it reads a part of it.** -/
theorem occursIn_iff : p.occursIn text = true ↔
    ∃ before part kept rest, p.Reads part kept rest ∧ text = before ++ (part ++ rest) := by
  induction text with
  | nil =>
    rw [occursIn, startsAt_iff]
    constructor
    · rintro ⟨part, kept, rest, hreads, htext⟩
      exact ⟨[], part, kept, rest, hreads, htext⟩
    · rintro ⟨before, part, kept, rest, hreads, htext⟩
      exact ⟨part, kept, rest, hreads, (List.append_eq_nil_iff.mp htext.symm).2.symm⟩
  | cons c text ih =>
    rw [occursIn, Bool.or_eq_true, startsAt_iff, ih]
    constructor
    · rintro (⟨part, kept, rest, hreads, htext⟩ | ⟨before, part, kept, rest, hreads, rfl⟩)
      · exact ⟨[], part, kept, rest, hreads, htext⟩
      · exact ⟨c :: before, part, kept, rest, hreads, rfl⟩
    · rintro ⟨before, part, kept, rest, hreads, htext⟩
      cases before with
      | nil => exact .inl ⟨part, kept, rest, hreads, htext⟩
      | cons d before =>
        exact .inr ⟨before, part, kept, rest, hreads, (List.cons.inj htext).2⟩

/-- One of two patterns. -/
theorem occursIn_either_iff {q : Pattern} : (either p q).occursIn text = true ↔
    p.occursIn text = true ∨ q.occursIn text = true := by
  simp only [occursIn_iff, reads_either_iff, or_and_right, exists_or]

/-- Where one pattern occurs behind another, both occur. -/
theorem occursIn_of_append {q : Pattern} (h : (p ++ q).occursIn text = true) :
    p.occursIn text = true ∧ q.occursIn text = true := by
  obtain ⟨before, _, _, rest, hreads, rfl⟩ := occursIn_iff.mp h
  obtain ⟨front, last, _, _, hfront, hlast, rfl, -⟩ := reads_append_iff.mp hreads
  constructor
  · exact occursIn_iff.mpr ⟨before, front, _, _, hfront, by rw [List.append_assoc]⟩
  · exact occursIn_iff.mpr ⟨before ++ front, last, _, _, hlast, by simp⟩

/-! ## Words in any case -/

/-- The part spells the word, in any case. -/
def Spells (word : String) (part : List Char) : Prop :=
  List.Forall₂ (fun letter c => sameLetter letter c = true) word.toList part

/-- A part of the text spells the word. -/
def Mentions (word : String) (text : List Char) : Prop :=
  ∃ part, part <:+: text ∧ Spells word part

/-- A word as it is written is one way to spell it. -/
theorem spells_self (word : String) : Spells word word.toList :=
  List.forall₂_same.mpr fun c _ => by simp [sameLetter]

/-- What spells a word holds no character that counts as none of its letters. -/
theorem Spells.notMem {word : String} {c : Char} (h : Spells word part)
    (hword : word.toList.all (!sameLetter · c) = true) : c ∉ part := by
  intro hmem
  obtain ⟨i, hi, hc⟩ := List.mem_iff_getElem.mp hmem
  have hlength := (List.Forall₂.length_eq h).trans_gt hi
  have hsame := List.Forall₂.get h hlength hi
  rw [List.get_eq_getElem, List.get_eq_getElem, hc] at hsame
  have hother := List.all_eq_true.mp hword _ (List.getElem_mem hlength)
  rw [hsame] at hother
  cases hother

/-- What spells a word has characters if the word has. -/
theorem Spells.ne_nil {word : String} (h : Spells word part) (hword : word.toList ≠ []) :
    part ≠ [] := by
  rintro rfl
  exact hword (List.forall₂_nil_right_iff.mp h)

/-- Characters in any case. -/
theorem reads_charsAnyCase_iff {letters : List Char} :
    ∀ {part rest : List Char} {kept : List (List Char)},
      (charsAnyCase letters).Reads part kept rest ↔
        List.Forall₂ (fun letter c => sameLetter letter c = true) letters part ∧ kept = [] := by
  intro part rest kept
  fun_induction charsAnyCase letters generalizing part rest kept with
  | case1 =>
    rw [List.forall₂_nil_left_iff]
    constructor
    · intro h
      cases h
      exact ⟨rfl, rfl⟩
    · rintro ⟨rfl, rfl⟩
      exact .empty
  | case2 letter =>
    simp only [reads_one_iff, List.forall₂_cons_left_iff, List.forall₂_nil_left_iff,
      exists_and_left, exists_eq_left, ← exists_and_right, and_assoc]
  | case3 letter more _ ih =>
    simp only [reads_seq_iff, reads_one_iff, ih, List.forall₂_cons_left_iff]
    constructor
    · rintro ⟨_, more, _, _, ⟨c, hc, rfl, rfl⟩, ⟨hmore, rfl⟩, rfl, rfl⟩
      exact ⟨⟨c, more, hc, hmore, rfl⟩, rfl⟩
    · rintro ⟨⟨c, more, hc, hmore, rfl⟩, rfl⟩
      exact ⟨[c], more, [], [], ⟨c, hc, rfl, rfl⟩, ⟨hmore, rfl⟩, rfl, rfl⟩

/-- A word in any case is read where it is spelled. -/
theorem reads_wordAnyCase_iff {word : String} :
    (wordAnyCase word).Reads part kept rest ↔ Spells word part ∧ kept = [] :=
  reads_charsAnyCase_iff

/-- One of several words in any case. -/
theorem reads_anyWord_iff {words : List String} :
    (anyWord words).Reads part kept rest ↔ (∃ word ∈ words, Spells word part) ∧ kept = [] := by
  induction words with
  | nil => simp [anyWord, choice, reads_one_iff]
  | cons word words ih =>
    cases words with
    | nil => simp [anyWord, choice, reads_wordAnyCase_iff]
    | cons other words =>
      rw [anyWord, List.map_cons, choice, reads_either_iff, reads_wordAnyCase_iff, ← anyWord, ih]
      · simp only [List.mem_cons, or_and_right, exists_or, exists_eq_left]
      · exact List.cons_ne_nil _ _

/-- **A word in any case occurs where a part of the text spells it.** -/
theorem occursIn_wordAnyCase_iff {word : String} :
    (wordAnyCase word).occursIn text = true ↔ Mentions word text := by
  simp only [occursIn_iff, reads_wordAnyCase_iff]
  constructor
  · rintro ⟨before, part, kept, rest, ⟨hpart, -⟩, rfl⟩
    exact ⟨part, ⟨before, rest, List.append_assoc ..⟩, hpart⟩
  · rintro ⟨part, ⟨before, rest, rfl⟩, hpart⟩
    exact ⟨before, part, [], rest, ⟨hpart, rfl⟩, List.append_assoc ..⟩

/-- One of several words in any case occurs where one of them is mentioned. -/
theorem occursIn_anyWord_iff {words : List String} :
    (anyWord words).occursIn text = true ↔ ∃ word ∈ words, Mentions word text := by
  simp only [occursIn_iff, reads_anyWord_iff]
  constructor
  · rintro ⟨before, part, kept, rest, ⟨⟨word, hword, hpart⟩, -⟩, rfl⟩
    exact ⟨word, hword, part, ⟨before, rest, List.append_assoc ..⟩, hpart⟩
  · rintro ⟨word, hword, part, ⟨before, rest, rfl⟩, hpart⟩
    exact ⟨before, part, [], rest, ⟨⟨word, hword, hpart⟩, rfl⟩, List.append_assoc ..⟩

/-- So does one behind another pattern. -/
theorem occursIn_append_anyWord_iff {words : List String} :
    (p ++ anyWord words).occursIn text = true ↔
      ∃ word ∈ words, (p ++ wordAnyCase word).occursIn text = true := by
  simp only [occursIn_iff, reads_append_iff, reads_anyWord_iff, reads_wordAnyCase_iff]
  constructor
  · rintro ⟨before, _, _, rest, ⟨a, b, k, l, hp, ⟨⟨word, hword, hb⟩, rfl⟩, rfl, rfl⟩, rfl⟩
    exact ⟨word, hword, before, _, _, rest, ⟨a, b, k, [], hp, ⟨hb, rfl⟩, rfl, rfl⟩, rfl⟩
  · rintro ⟨word, hword, before, _, _, rest, ⟨a, b, k, l, hp, ⟨hb, rfl⟩, rfl, rfl⟩, rfl⟩
    exact ⟨before, _, _, rest, ⟨a, b, k, [], hp, ⟨⟨word, hword, hb⟩, rfl⟩, rfl, rfl⟩, rfl⟩

/-- Where a word occurs behind another pattern it is mentioned. -/
theorem mentions_of_occursIn_append {word : String}
    (h : (p ++ wordAnyCase word).occursIn text = true) : Mentions word text :=
  occursIn_wordAnyCase_iff.mp (occursIn_of_append h).2

/-- A text that mentions a word holds each of its letters, in any case. -/
theorem Mentions.exists_letter {word : String} {letter : Char} (h : Mentions word text)
    (hletter : letter ∈ word.toList) : ∃ c ∈ text, sameLetter letter c = true := by
  obtain ⟨part, hpart, hspells⟩ := h
  obtain ⟨i, hi, rfl⟩ := List.mem_iff_getElem.mp hletter
  have hlength := hi.trans_eq (List.Forall₂.length_eq hspells)
  exact ⟨part[i], hpart.subset (List.getElem_mem hlength), List.Forall₂.get hspells hi hlength⟩

/-! ## Words in words -/

/-- A text mentions what a part of it mentions. -/
theorem Mentions.mono {word : String} (h : Mentions word part) (hpart : part <:+: text) :
    Mentions word text := by
  obtain ⟨spelled, hspelled, hspells⟩ := h
  exact ⟨spelled, hspelled.trans hpart, hspells⟩

/-- Letters that differ in their case only are spelled alike. -/
theorem forall₂_sameLetter_congr {letters letters' : List Char}
    (h : List.Forall₂ (fun letter c => sameLetter letter c = true) letters part)
    (hlower : letters.map Char.toLower = letters'.map Char.toLower) :
    List.Forall₂ (fun letter c => sameLetter letter c = true) letters' part := by
  induction h generalizing letters' with
  | nil =>
    obtain rfl := List.map_eq_nil_iff.mp hlower.symm
    exact .nil
  | @cons letter c letters part hc _ ih =>
    obtain ⟨letter', letters', rfl, hletter, hletters⟩ := List.map_eq_cons_iff.mp hlower.symm
    refine .cons ?_ (ih hletters.symm)
    rwa [sameLetter, hletter, ← sameLetter]

/-- What spells a word mentions every word that stands in it, whatever the cases. -/
theorem Spells.mentions {word inner : String}
    (hinner : inner.toList.map Char.toLower <:+: word.toList.map Char.toLower)
    (h : Spells word part) : Mentions inner part := by
  obtain ⟨middle, ⟨before, behind, hword⟩, hlower⟩ := List.infix_map_iff.mp hinner
  rw [Spells, ← hword, List.append_assoc] at h
  have hmiddle := List.forall₂_take middle.length (List.forall₂_drop before.length h)
  rw [List.drop_left, List.take_left] at hmiddle
  exact ⟨_, (List.take_prefix _ _).isInfix.trans (List.drop_suffix _ _).isInfix,
    forall₂_sameLetter_congr hmiddle hlower.symm⟩

/-- **A text that mentions a word mentions every word that stands in it.** -/
theorem Mentions.inner {word inner : String}
    (hinner : inner.toList.map Char.toLower <:+: word.toList.map Char.toLower)
    (h : Mentions word text) : Mentions inner text := by
  obtain ⟨part, hpart, hspells⟩ := h
  exact (hspells.mentions hinner).mono hpart

/-! ## What follows -/

/-- Of what follows a part no more than the first character has a say in whether it is read: that
character may go on with a run. -/
theorem Reads.congr_rest (h : p.Reads part kept rest) :
    ∀ {rest' : List Char}, rest.head? = rest'.head? → p.Reads part kept rest' := by
  induction h with
  | empty => exact fun _ => .empty
  | one hc => exact fun _ => .one hc
  | run hpart hstop => exact fun hhead => .run hpart (hhead ▸ hstop)
  | gap hpart => exact fun _ => .gap hpart
  | @seq p q a b rest k l _ _ ihfirst ihsecond =>
    intro rest' hhead
    refine .seq (ihfirst ?_) (ihsecond hhead)
    rw [List.head?_append, List.head?_append, hhead]
  | first _ ih => exact fun hhead => .first (ih hhead)
  | second _ ih => exact fun hhead => .second (ih hhead)
  | keep _ ih => exact fun hhead => .keep (ih hhead)

/-- What follows has no say in what the pattern reads. -/
def IsBlind (p : Pattern) : Prop :=
  ∀ ⦃part kept rest⦄, p.Reads part kept rest → ∀ rest', p.Reads part kept rest'

/-- Words in any case are read whatever follows. -/
theorem isBlind_anyWord (words : List String) : (anyWord words).IsBlind :=
  fun _ _ _ h _ => reads_anyWord_iff.mpr (reads_anyWord_iff.mp h)

/-- So is one word. -/
theorem isBlind_wordAnyCase (word : String) : (wordAnyCase word).IsBlind :=
  fun _ _ _ h _ => reads_wordAnyCase_iff.mpr (reads_wordAnyCase_iff.mp h)

/-- **A word at the end shuts off what follows**, also from a run in front of it. -/
theorem isBlind_append_anyWord (p : Pattern) {words : List String}
    (hwords : ∀ word ∈ words, word.toList ≠ []) : (p ++ anyWord words).IsBlind := by
  intro part kept rest h rest'
  obtain ⟨a, b, k, l, hfront, hword, rfl, rfl⟩ := reads_append_iff.mp h
  obtain ⟨⟨word, hmem, hspells⟩, -⟩ := reads_anyWord_iff.mp hword
  have hhead : (b ++ rest).head? = (b ++ rest').head? := by
    obtain ⟨c, b, rfl⟩ := List.exists_cons_of_ne_nil (hspells.ne_nil (hwords word hmem))
    rfl
  exact reads_append_iff.mpr ⟨a, b, k, l, hfront.congr_rest hhead,
    isBlind_anyWord words hword rest', rfl, rfl⟩

/-- A pattern that does not look at what follows starts every text that goes on. -/
theorem IsBlind.startsAt_append (hp : p.IsBlind) (h : p.startsAt text = true) (more : List Char) :
    p.startsAt (text ++ more) = true := by
  obtain ⟨part, kept, rest, hreads, rfl⟩ := startsAt_iff.mp h
  exact startsAt_iff.mpr ⟨part, kept, rest ++ more, hp hreads _, List.append_assoc ..⟩

/-- **It occurs in a text if it occurs in a part of it.** -/
theorem IsBlind.occursIn_mono (hp : p.IsBlind) {part : List Char} (hpart : part <:+: text)
    (h : p.occursIn part = true) : p.occursIn text = true := by
  obtain ⟨front, behind, rfl⟩ := hpart
  obtain ⟨before, read, kept, rest, hreads, rfl⟩ := occursIn_iff.mp h
  exact occursIn_iff.mpr ⟨front ++ before, read, kept, rest ++ behind, hp hreads _, by simp⟩

end Preflight.Pattern
