import Preflight.Proofs.Pattern.Occurrence
import Preflight.Proofs.Source.Line
import Preflight.Proofs.Text.Split
import Preflight.Source.Guard

/-!
# What guards a line

A line is guarded by what the text around it says. Of all that is looked for only three words matter
(`guardWords`): each of the other words holds one of them, what is looked for as a call of a library
mentions one, and so does a middleware whose line goes on to `auth` (`any_guardForms_iff`). None of
the three goes over a line feed, so that the lines around may be looked at one by one
(`surroundings_iff`).

The law (`guarded_by_nearby_words`): a line is guarded exactly if one of the lines around it
mentions one of the three words, in any case. What counts as any case is the matter of
`Pattern.sameLetter`. A word in a comment guards a line as a call does: the law says what is looked
for, not that a request is let in by it.
-/

set_option autoImplicit false

namespace Preflight.Source

open Pattern

/-! ## Words -/

/-- The words of which one stands in everything that mentions authentication. -/
def guardWords : List String := ["auth", "jwt", "verifyToken"]

/-- The words that are looked for. -/
def wordsLookedFor : List String :=
  ["authenticate", "auth", "jwt", "verifyToken", "requireAuth", "isAuthenticated"]

/-- One of the words that matter stands in the text, in any case. -/
def MentionsGuard (text : List Char) : Prop := ∃ word ∈ guardWords, Mentions word text

/-- A text mentions what a part of it mentions. -/
theorem MentionsGuard.mono {part text : List Char} (h : MentionsGuard part)
    (hpart : part <:+: text) : MentionsGuard text := by
  obtain ⟨word, hword, hmentions⟩ := h
  exact ⟨word, hword, hmentions.mono hpart⟩

/-- One of the words that are looked for occurs where one of the three does, which it holds. -/
theorem occursIn_words_iff {text : List Char} :
    (anyWord wordsLookedFor).occursIn text = true ↔ MentionsGuard text := by
  have hinner : ∀ word ∈ wordsLookedFor, ∃ inner ∈ guardWords,
      inner.toList.map Char.toLower <:+: word.toList.map Char.toLower := by decide
  rw [occursIn_anyWord_iff]
  constructor
  · intro ⟨word, hword, hmentions⟩
    obtain ⟨inner, hmem, hinfix⟩ := hinner word hword
    exact ⟨inner, hmem, hmentions.inner hinfix⟩
  · intro ⟨word, hword, hmentions⟩
    have hlooked : guardWords ⊆ wordsLookedFor := by decide
    exact ⟨word, hlooked hword, hmentions⟩

/-- What the calls of libraries read holds one of the words. -/
theorem mentionsGuard_of_calls {part rest : List Char} {kept : List (List Char)}
    (h : (choice [word "passport.authenticate",
      word "express" ++ one (fun c => c == 'j' || c == 'J') ++ word "wt" ++ blanks ++
        char '(']).Reads part kept rest) : MentionsGuard part := by
  rcases reads_either_iff.mp h with hpassport | hexpress
  · obtain ⟨rfl, -⟩ := reads_chars_iff.mp hpassport
    exact ⟨"auth", by decide, (spells_self "passport.authenticate").mentions (by decide)⟩
  · obtain ⟨_, parenthesis, _, _, htoBlanks, -, rfl, -⟩ := reads_append_iff.mp hexpress
    obtain ⟨_, gap, _, _, htoName, -, rfl, -⟩ := reads_append_iff.mp htoBlanks
    obtain ⟨_, _, _, _, htoLetter, hwt, rfl, -⟩ := reads_append_iff.mp htoName
    obtain ⟨express, _, _, _, -, hone, rfl, -⟩ := reads_append_iff.mp htoLetter
    obtain ⟨letter, hletter, rfl, -⟩ := reads_one_iff.mp hone
    obtain ⟨rfl, -⟩ := reads_chars_iff.mp hwt
    refine ⟨"jwt", by decide, letter :: "wt".toList, ⟨express, gap ++ parenthesis, by simp⟩, ?_⟩
    simp only [Bool.or_eq_true, beq_iff_eq] at hletter
    rcases hletter with rfl | rfl
    · exact .cons (by decide) (spells_self "wt")
    · exact .cons (by decide) (spells_self "wt")

/-- **Of all that is looked for only the three words matter.** -/
theorem any_guardForms_iff {text : List Char} :
    guardForms.any (·.occursIn text) = true ↔ MentionsGuard text := by
  simp only [guardForms, List.any_cons, List.any_nil, Bool.or_false, Bool.or_eq_true]
  rw [← wordsLookedFor, occursIn_words_iff]
  constructor
  · rintro (hword | hcall | hmiddleware)
    · exact hword
    · obtain ⟨before, part, kept, rest, hreads, rfl⟩ := occursIn_iff.mp hcall
      exact (mentionsGuard_of_calls hreads).mono ⟨before, rest, List.append_assoc ..⟩
    · exact ⟨"auth", by decide, mentions_of_occursIn_append hmiddleware⟩
  · exact .inl

/-- What spells one of the words has characters, and no line feed among them. -/
theorem plain_of_spells {word : String} (hword : word ∈ guardWords) {part : List Char}
    (h : Spells word part) : '\n' ∉ part ∧ part ≠ [] := by
  have hletters : ∀ word ∈ guardWords,
      word.toList ≠ [] ∧ word.toList.all (!sameLetter · '\n') = true := by decide
  obtain ⟨hne, hplain⟩ := hletters word hword
  exact ⟨h.notMem hplain, h.ne_nil hne⟩

/-! ## Lines around a line -/

/-- The lines that count as the surroundings of a line. -/
def IsNear (code : List Char) (line k : Nat) : Prop :=
  max 1 (line - guardRadius) ≤ k ∧ k ≤ min (lines code).length (line + guardRadius)

/-- A part of a list between two numbers. -/
theorem mem_slice_iff {α : Type} {items : List α} {start stop : Nat} {item : α} :
    item ∈ slice items start stop ↔ ∃ i, start ≤ i ∧ i < stop ∧ items[i]? = some item := by
  rw [slice, if_pos (Int.natCast_nonneg stop), Int.toNat_natCast, List.mem_iff_getElem?]
  constructor
  · intro ⟨i, hi⟩
    rw [List.getElem?_drop, List.getElem?_take] at hi
    split at hi
    · exact ⟨start + i, Nat.le_add_right _ _, ‹_›, hi⟩
    · cases hi
  · intro ⟨i, hstart, hstop, hi⟩
    refine ⟨i - start, ?_⟩
    rw [List.getElem?_drop, Nat.add_sub_of_le hstart, List.getElem?_take_of_lt hstop, hi]

/-- What the text around a line mentions is mentioned on one of its lines. -/
theorem surroundings_iff {code : List Char} {line : Nat} :
    MentionsGuard (surroundings code line) ↔
      ∃ k text, IsNear code line k ∧ (lines code)[k - 1]? = some text ∧ MentionsGuard text := by
  have hwindow : surroundings code line = ['\n'].intercalate
      (slice (lines code) (line - 1 - guardRadius) (line + guardRadius : Nat)) := by
    rw [surroundings]
    congr 2
    omega
  rw [hwindow]
  constructor
  · intro ⟨word, hword, part, hpart, hspells⟩
    obtain ⟨hplain, hne⟩ := plain_of_spells hword hspells
    obtain ⟨text, hmem, hinfix⟩ := (Text.infix_intercalate_iff hplain hne).mp hpart
    obtain ⟨i, hstart, hstop, hi⟩ := mem_slice_iff.mp hmem
    have hlength := (List.getElem?_eq_some_iff.mp hi).1
    refine ⟨i + 1, text, ⟨by omega, by omega⟩, hi, word, hword, part, hinfix, hspells⟩
  · intro ⟨k, text, ⟨hfirst, hlast⟩, htext, word, hword, part, hpart, hspells⟩
    obtain ⟨hplain, hne⟩ := plain_of_spells hword hspells
    refine ⟨word, hword, part, (Text.infix_intercalate_iff hplain hne).mpr ⟨text, ?_, hpart⟩,
      hspells⟩
    exact mem_slice_iff.mpr ⟨k - 1, by omega, by omega, htext⟩

/-- One of the lines around the given one mentions one of the words that matter. -/
def NamesGuard (code : String) (line : Nat) : Prop :=
  ∃ k text, IsNear code.toList line k ∧ (lines code.toList)[k - 1]? = some text ∧
    MentionsGuard text

/-- A line is guarded by the words on the lines around it. -/
theorem isGuarded_iff {code : String} {line : Nat} :
    isGuarded code line = true ↔ NamesGuard code line :=
  any_guardForms_iff.trans surroundings_iff

instance (code : String) (line : Nat) : Decidable (NamesGuard code line) :=
  decidable_of_iff (isGuarded code line = true) isGuarded_iff

/-- A part of a text that mentions one of the words guards the line on which it starts, if it goes
over no more line feeds than count as around. -/
theorem isGuarded_of_part {code : String} {before part rest : List Char}
    (hcode : code.toList = before ++ (part ++ rest)) (hlines : part.count '\n' ≤ guardRadius)
    (h : MentionsGuard part) : isGuarded code (before.count '\n' + 1 : Nat) = true := by
  obtain ⟨word, hword, spelled, ⟨front, back, rfl⟩, hspells⟩ := h
  obtain ⟨text, htext, hinfix⟩ := exists_line_of_part (plain_of_spells hword hspells).1
    (before ++ front) (back ++ rest)
  have hall : before ++ (front ++ spelled ++ back ++ rest) =
      before ++ front ++ (spelled ++ (back ++ rest)) := by simp
  rw [← hall, ← hcode] at htext
  have hlength := (List.getElem?_eq_some_iff.mp htext).1
  simp only [List.count_append] at hlines hlength htext
  refine isGuarded_iff.mpr ⟨before.count '\n' + front.count '\n' + 1, text, ⟨?_, ?_⟩, htext,
    word, hword, spelled, hinfix, hspells⟩
  · omega
  · omega

/-- Texts that are alike around a line guard it alike. -/
theorem isGuarded_of_alike {code other : String} {line : Nat}
    (hsame : ∀ k, max 1 (line - guardRadius) ≤ k → k ≤ line + guardRadius →
      (lines other.toList)[k - 1]? = (lines code.toList)[k - 1]?)
    (h : isGuarded code line = true) : isGuarded other line = true := by
  obtain ⟨k, text, ⟨hfirst, hlast⟩, htext, hmentions⟩ := isGuarded_iff.mp h
  have hother := (hsame k hfirst (by omega)).trans htext
  have hlength := (List.getElem?_eq_some_iff.mp hother).1
  exact isGuarded_iff.mpr ⟨k, text, ⟨hfirst, by omega⟩, hother, hmentions⟩

/-- **What guards a line.** A line is guarded exactly if one of the lines from two before it to two
behind it, as far as there are such lines, mentions one of the three words in any case. The calls of
libraries that are looked for and the middleware have no say in it, nor has any other line of the
text. -/
theorem guarded_by_nearby_words (code : String) (line : Nat) :
    (isGuarded code line = true ↔ ∃ k text, max 1 (line - 2) ≤ k ∧
      k ≤ min (lines code.toList).length (line + 2) ∧ (lines code.toList)[k - 1]? = some text ∧
        ∃ word ∈ ["auth", "jwt", "verifyToken"], Mentions word text) ∧
    isGuarded code line = (anyWord wordsLookedFor).occursIn (surroundings code.toList line) ∧
    ∀ other : String, (∀ k, max 1 (line - 2) ≤ k → k ≤ line + 2 →
      (lines other.toList)[k - 1]? = (lines code.toList)[k - 1]?) →
        isGuarded other line = isGuarded code line := by
  refine ⟨?_, ?_, fun other hsame => ?_⟩
  · rw [isGuarded_iff, NamesGuard]
    exact exists_congr fun k => exists_congr fun text => and_assoc
  · rw [Bool.eq_iff_iff, occursIn_words_iff]
    exact any_guardForms_iff
  · rw [Bool.eq_iff_iff]
    exact ⟨isGuarded_of_alike fun k hfirst hlast => (hsame k hfirst hlast).symm,
      isGuarded_of_alike hsame⟩

/-- A word two lines off guards a line, and one three lines off does not. -/
example : isGuarded "// VerifyTO\u212aEN\n\napp.get('/admin', h)\napp.get('/users', h)" 3 = true ∧
    isGuarded "// VerifyTO\u212aEN\n\napp.get('/admin', h)\napp.get('/users', h)" 4 = false := by
  decide +kernel

end Preflight.Source
