import Preflight.Proofs.Pattern.Occurrence
import Preflight.Text.Lowercase
import Preflight.Text.Part
import Preflight.Text.Uppercase

/-!
# Cases of ASCII letters

What is to be said of every ASCII character may be looked up (`forall_ascii`). In an ASCII text a
word of capitals is mentioned in any case exactly if the text in capitals holds it
(`mentions_iff_of_ascii`), and the text in upper case is the text in capitals
(`mentions_upper_iff`). So it does not matter in which of the two ways a word is looked for.

In lower case the sigma is the one letter whose image depends on its neighbours. An ASCII word has
none, so for such a word a text may be put in lower case character by character
(`mentions_lower_iff`).
-/

set_option autoImplicit false

namespace Preflight

namespace Text

/-- The characters are ASCII. -/
def IsAscii (chars : List Char) : Prop := ∀ c ∈ chars, c.toNat < 0x80

instance (chars : List Char) : Decidable (IsAscii chars) := List.decidableBAll _ chars

/-- What holds of the first 128 characters holds of every ASCII character. -/
theorem forall_ascii {P : Char → Prop} (h : ∀ code < 0x80, P (Char.ofNat code)) :
    ∀ c : Char, c.toNat < 0x80 → P c := by
  intro c hc
  have hchar := h c.toNat hc
  rwa [Char.ofNat_toNat] at hchar

/-- The capitals of a text are its letters as capitals. -/
def capitals (chars : List Char) : List Char := chars.map Char.toUpper

/-- An ASCII text in upper case is the text in capitals. -/
theorem toList_upper {text : String} (h : IsAscii text.toList) :
    (upper text).toList = capitals text.toList := by
  have hchars : ∀ chars : List Char, IsAscii chars → chars.flatMap upperChar = capitals chars := by
    intro chars
    induction chars with
    | nil => exact fun _ => rfl
    | cons c chars ih =>
      intro hchars
      obtain ⟨hc, hrest⟩ := List.forall_mem_cons.mp hchars
      rw [List.flatMap_cons, ih hrest, upperChar, if_pos hc]
      rfl
  rw [upper, String.toList_ofList, hchars _ h]

/-- A part of it in upper case is a part of it in capitals. -/
theorem mentions_upper_iff {word text : String} (h : IsAscii text.toList) :
    mentions word (upper text) = true ↔ word.toList <:+: capitals text.toList := by
  rw [mentions, holdsPart_iff, toList_upper h]

/-! ## Lower case -/

/-- The small sigma that ends a word as the one within a word. -/
def plainSigma (c : Char) : Char := if c = '\u03c2' then '\u03c3' else c

/-- An ASCII text in lower case is the text in small letters, for it holds no sigma. -/
theorem toList_lower {text : String} (h : IsAscii text.toList) :
    (lower text).toList = text.toList.map Char.toLower := by
  have hchars : ∀ chars before : List Char, IsAscii chars →
      lowerAfter before chars = chars.map Char.toLower := by
    intro chars
    induction chars with
    | nil => exact fun _ _ => rfl
    | cons c rest ih =>
      intro before hchars
      obtain ⟨hc, hrest⟩ := List.forall_mem_cons.mp hchars
      have hsigma : (c == '\u03a3') = false := by
        refine beq_eq_false_iff_ne.mpr fun heq => ?_
        rw [heq] at hc
        exact absurd hc (by decide)
      rw [lowerAfter, ih (c :: before) hrest, hsigma, lowerChar, if_pos hc]
      rfl
  rw [lower, String.toList_ofList, hchars _ [] h]

/-- Up to the two small sigmas, each character is put in lower case by itself. -/
theorem map_lowerAfter (before chars : List Char) :
    (lowerAfter before chars).map plainSigma = (chars.flatMap lowerChar).map plainSigma := by
  induction chars generalizing before with
  | nil => rfl
  | cons c rest ih =>
    rw [lowerAfter, List.flatMap_cons, List.map_append, List.map_append, ih]
    congr 1
    split
    · rename_i hsigma
      rw [Bool.and_eq_true, Bool.and_eq_true, beq_iff_eq] at hsigma
      obtain ⟨⟨rfl, -⟩, -⟩ := hsigma
      decide +kernel
    · rfl

/-- Only a sigma is changed, and its image is not ASCII. -/
theorem plainSigma_of_ascii {c : Char} (h : (plainSigma c).toNat < 0x80) : plainSigma c = c := by
  rw [plainSigma] at h ⊢
  split at h
  · exact absurd h (by decide)
  · rename_i hne
    exact if_neg hne

/-- An ASCII word holds neither sigma, so it stands in both texts or in none. -/
theorem infix_map_plainSigma_iff {word chars : List Char} (h : IsAscii word) :
    word <:+: chars.map plainSigma ↔ word <:+: chars := by
  rw [List.infix_map_iff]
  constructor
  · intro hpart
    obtain ⟨part, hpart, rfl⟩ := hpart
    have hsame : ∀ c ∈ part, plainSigma c = c :=
      fun c hc => plainSigma_of_ascii (h _ (List.mem_map_of_mem hc))
    rwa [List.map_congr_left hsame, List.map_id']
  · intro hpart
    have hsame : ∀ c ∈ word, plainSigma c = c := by
      intro c hc
      refine if_neg fun hsigma => ?_
      have hsmall := h c hc
      rw [hsigma] at hsmall
      exact absurd hsmall (by decide)
    exact ⟨word, hpart, by rw [List.map_congr_left hsame, List.map_id']⟩

/-- **An ASCII word stands in a text in lower case if it stands in the lower cases of its
characters.** -/
theorem mentions_lower_iff {word text : String} (h : IsAscii word.toList) :
    mentions word (lower text) = true ↔ word.toList <:+: text.toList.flatMap lowerChar := by
  rw [mentions, holdsPart_iff, lower, String.toList_ofList, ← infix_map_plainSigma_iff h,
    map_lowerAfter, infix_map_plainSigma_iff h]

end Text

namespace Pattern

open Text (IsAscii capitals)

/-- A capital in any case is an ASCII character of which it is the capital. -/
theorem sameLetter_iff_of_ascii {letter c : Char} (hletter : letter.isUpper = true)
    (hc : c.toNat < 0x80) : sameLetter letter c = true ↔ letter = c.toUpper := by
  have hfold : sameLetter letter c = (c.toLower == letter.toLower) := by
    have hother : ∀ other : Char, 0x80 ≤ other.toNat → (c == other) = false := by
      intro other hlarge
      refine beq_eq_false_iff_ne.mpr fun heq => ?_
      rw [heq] at hc
      omega
    rw [sameLetter, hother '\u0130' (by decide), hother '\u0131' (by decide),
      hother '\u017f' (by decide), hother '\u212a' (by decide)]
    simp
  have hsmall : letter.toNat < 0x80 := by
    have hle : letter.toNat ≤ 'Z'.toNat := (of_decide_eq_true hletter).2
    exact Nat.lt_of_le_of_lt hle (by decide)
  have hcapital : letter.toLower.toUpper = letter :=
    Text.forall_ascii (P := fun c => c.isUpper = true → c.toLower.toUpper = c) (by decide +kernel)
      letter hsmall hletter
  have hraise : c.toLower.toUpper = c.toUpper :=
    Text.forall_ascii (P := fun c => c.toLower.toUpper = c.toUpper) (by decide +kernel) c hc
  have hlower : c.toUpper.toLower = c.toLower :=
    Text.forall_ascii (P := fun c => c.toUpper.toLower = c.toLower) (by decide +kernel) c hc
  rw [hfold, beq_iff_eq]
  constructor
  · intro heq
    rw [← hcapital, ← heq, hraise]
  · rintro rfl
    exact hlower.symm

/-- Capitals are spelled by an ASCII text of which they are the capitals. -/
theorem spells_iff_of_ascii {word : String} (hword : word.toList.all Char.isUpper = true)
    {part : List Char} (h : IsAscii part) : Spells word part ↔ word.toList = capitals part := by
  have hspells : ∀ {letters part : List Char}, (∀ letter ∈ letters, letter.isUpper = true) →
      IsAscii part → (List.Forall₂ (fun letter c => sameLetter letter c = true) letters part ↔
        letters = capitals part) := by
    intro letters
    induction letters with
    | nil =>
      intro part _ _
      rw [List.forall₂_nil_left_iff, capitals, List.nil_eq, List.map_eq_nil_iff]
    | cons letter letters ih =>
      intro part hletters hpart
      obtain ⟨hletter, hrest⟩ := List.forall_mem_cons.mp hletters
      cases part with
      | nil => simp [capitals]
      | cons c part =>
        obtain ⟨hc, hpart⟩ := List.forall_mem_cons.mp hpart
        rw [List.forall₂_cons, sameLetter_iff_of_ascii hletter hc, ih hrest hpart]
        exact List.cons_eq_cons.symm
  exact hspells (List.all_eq_true.mp hword) h

/-- **A word of capitals is mentioned in an ASCII text where the text in capitals holds it.** -/
theorem mentions_iff_of_ascii {word : String} (hword : word.toList.all Char.isUpper = true)
    {text : List Char} (h : IsAscii text) :
    Mentions word text ↔ word.toList <:+: capitals text := by
  have hpart : ∀ part, part <:+: text → (Spells word part ↔ word.toList = capitals part) :=
    fun part hpart => spells_iff_of_ascii hword fun c hc => h c (hpart.subset hc)
  rw [capitals, List.infix_map_iff]
  exact exists_congr fun part => and_congr_right (hpart part)

end Pattern

end Preflight
