import Mathlib.Data.List.Basic
import Mathlib.Data.List.TakeWhile
import Preflight.Env.ValueKind

/-!
# Mail addresses

A mail address by its grammar is a part, an at sign, and two parts with a point between them
(`IsMailAddress`); the second and the third part may hold further points, so one address can be read
in several ways.

**The law** (`address_or_address_and_feed`): the values that are taken for a mail address are these,
and these with one line feed behind. So an accepted value has exactly one at sign, but it need not be
free of blanks: the grammar itself admits none (`IsMailAddress.not_isBlank`), the line feed behind it is
a blank, and a value that was read with its line end is accepted as it stands
(`address_with_feed_is_taken`).

The proof leaves the line feed to `dropFinalFeed_cases`, and reads the grammar off the test in two
steps: what stands before the first at sign is the name, and a point with something on both sides is a
point that neither end of the text is (`mem_inside_iff`).
-/

set_option autoImplicit false

namespace Preflight.Env

/-- A part of a mail address: some characters, none of them a blank or an at sign. -/
def IsMailPart (part : List Char) : Prop :=
  part ≠ [] ∧ ∀ c ∈ part, Text.isBlank c = false ∧ c ≠ '@'

/-- A mail address: a part, an at sign, a part, a point and a part. -/
def IsMailAddress (chars : List Char) : Prop :=
  ∃ name host domain, IsMailPart name ∧ IsMailPart host ∧ IsMailPart domain ∧
    chars = name ++ '@' :: (host ++ '.' :: domain)

/-! ## What the grammar admits -/

variable {chars : List Char}

/-- No character of a mail address is a blank. -/
theorem IsMailAddress.not_isBlank (h : IsMailAddress chars) : ∀ c ∈ chars, Text.isBlank c = false := by
  obtain ⟨name, host, domain, ⟨-, hname⟩, ⟨-, hhost⟩, ⟨-, hdomain⟩, rfl⟩ := h
  intro c hc
  simp only [List.mem_append, List.mem_cons] at hc
  obtain hc | rfl | hc | rfl | hc := hc
  · exact (hname c hc).1
  · decide
  · exact (hhost c hc).1
  · decide
  · exact (hdomain c hc).1

/-- A part has no at sign. -/
theorem IsMailPart.count_at {part : List Char} (h : IsMailPart part) : part.count '@' = 0 :=
  List.count_eq_zero.mpr fun hmem => (h.2 '@' hmem).2 rfl

/-- A mail address has one at sign. -/
theorem IsMailAddress.count_at (h : IsMailAddress chars) : chars.count '@' = 1 := by
  obtain ⟨name, host, domain, hname, hhost, hdomain, rfl⟩ := h
  simp [hname.count_at, hhost.count_at, hdomain.count_at]

/-! ## What the test admits -/

/-- All characters of a part pass their test. -/
theorem all_isMailChar_iff :
    chars.all isMailChar = true ↔ ∀ c ∈ chars, Text.isBlank c = false ∧ c ≠ '@' := by
  simp [isMailChar]

/-- What stands inside a text has something on both sides. -/
theorem mem_inside_iff {α : Type} {items : List α} {a : α} :
    a ∈ (items.drop 1).dropLast ↔
      ∃ front back, front ≠ [] ∧ back ≠ [] ∧ items = front ++ a :: back := by
  constructor
  · intro h
    obtain _ | ⟨first, rest⟩ := items
    · simp at h
    obtain rfl | ⟨inside, last, rfl⟩ := rest.eq_nil_or_concat'
    · simp at h
    rw [List.drop_succ_cons, List.drop_zero, List.dropLast_concat] at h
    obtain ⟨before, after, rfl⟩ := List.append_of_mem h
    exact ⟨first :: before, after ++ [last], by simp, by simp, by simp⟩
  · rintro ⟨_ | ⟨first, before⟩, back, hfront, hback, rfl⟩
    · exact absurd rfl hfront
    · have hlast : a :: back ≠ [] := List.cons_ne_nil a back
      rw [List.cons_append, List.drop_succ_cons, List.drop_zero, List.dropLast_append_of_ne_nil hlast,
        List.dropLast_cons_of_ne_nil hback]
      simp

/-- Behind the at sign of an address stand two parts with a point between them. -/
theorem domain_iff {rest : List Char} :
    (rest.all isMailChar && (rest.drop 1).dropLast.contains '.') = true ↔
      ∃ host domain, IsMailPart host ∧ IsMailPart domain ∧ rest = host ++ '.' :: domain := by
  rw [Bool.and_eq_true, all_isMailChar_iff, List.contains_iff_mem, mem_inside_iff]
  constructor
  · rintro ⟨hall, host, domain, hhost, hdomain, rfl⟩
    exact ⟨host, domain, ⟨hhost, fun c hc => hall c (by simp [hc])⟩,
      ⟨hdomain, fun c hc => hall c (by simp [hc])⟩, rfl⟩
  · rintro ⟨host, domain, ⟨hhost, hhostAll⟩, ⟨hdomain, hdomainAll⟩, rfl⟩
    refine ⟨fun c hc => ?_, host, domain, hhost, hdomain, rfl⟩
    simp only [List.mem_append, List.mem_cons] at hc
    obtain hc | rfl | hc := hc
    · exact hhostAll c hc
    · decide
    · exact hdomainAll c hc

/-- Before the first at sign stands the name. -/
theorem before_at_iff {name rest : List Char} :
    chars.takeWhile (· != '@') = name ∧ chars.dropWhile (· != '@') = '@' :: rest ↔
      '@' ∉ name ∧ chars = name ++ '@' :: rest := by
  constructor
  · rintro ⟨rfl, hrest⟩
    refine ⟨fun hmem => by simpa using List.mem_takeWhile_imp hmem, ?_⟩
    rw [← hrest, List.takeWhile_append_dropWhile]
  · rintro ⟨hname, rfl⟩
    have hbefore : ∀ c ∈ name, (c != '@') = true := fun c hc => by
      rw [bne_iff_ne]
      rintro rfl
      exact hname hc
    rw [List.takeWhile_append_of_pos hbefore, List.dropWhile_append_of_pos hbefore]
    simp

/-- The test asks for the grammar, a line feed at the end apart. -/
theorem isEmail_iff {value : String} :
    isEmail value = true ↔ IsMailAddress (dropFinalFeed value.toList) := by
  unfold isEmail
  generalize dropFinalFeed value.toList = chars
  dsimp only
  constructor
  · intro h
    cases hrest : chars.dropWhile (· != '@') with
    | nil => simp [hrest] at h
    | cons first rest =>
      have hfirst : first = '@' := by
        have hstop := List.head_dropWhile_not (· != '@') (by simp [hrest] : chars.dropWhile (· != '@') ≠ [])
        simpa [hrest] using hstop
      subst hfirst
      simp only [hrest, Bool.and_assoc, Bool.and_eq_true] at h
      obtain ⟨hname, hall, hrestAll, hpoint⟩ := h
      obtain ⟨host, domain, hhost, hdomain, rfl⟩ := domain_iff.mp (by rw [hrestAll, hpoint]; rfl)
      obtain ⟨-, hchars⟩ := before_at_iff.mp ⟨rfl, hrest⟩
      exact ⟨_, host, domain, ⟨by simpa using hname, all_isMailChar_iff.mp hall⟩, hhost, hdomain,
        hchars⟩
  · rintro ⟨name, host, domain, ⟨hname, hall⟩, hhost, hdomain, hchars⟩
    obtain ⟨htake, hdrop⟩ := before_at_iff.mpr ⟨fun hmem => (hall '@' hmem).2 rfl, hchars⟩
    have hdomain := domain_iff.mpr ⟨host, domain, hhost, hdomain, rfl⟩
    rw [hdrop, htake]
    simp only [Bool.and_assoc, hdomain, all_isMailChar_iff.mpr hall]
    simpa using hname

/-- A text ends in a line feed that is dropped, or stays as it is. -/
theorem dropFinalFeed_cases (chars : List Char) :
    chars = dropFinalFeed chars ++ ['\n'] ∨ dropFinalFeed chars = chars := by
  unfold dropFinalFeed
  split
  · rename_i hlast
    exact .inl (List.dropLast_append_getLast? '\n' (by simpa using hlast)).symm
  · exact .inr rfl

/-- The line feed that is dropped is one that stands behind the text. -/
theorem dropFinalFeed_concat : dropFinalFeed (chars ++ ['\n']) = chars := by
  simp [dropFinalFeed]

/-- An address loses nothing, for it has no line feed. -/
theorem IsMailAddress.dropFinalFeed_eq (h : IsMailAddress chars) : dropFinalFeed chars = chars := by
  obtain hend | hsame := dropFinalFeed_cases chars
  · have hfeed := h.not_isBlank '\n' (by rw [hend]; simp)
    exact absurd hfeed (by decide)
  · exact hsame

/-- What is taken for an address is one, or one with a line feed behind. -/
theorem isEmail_cases {value : String} :
    isEmail value = true ↔ IsMailAddress value.toList ∨
      ∃ address, IsMailAddress address ∧ value.toList = address ++ ['\n'] := by
  rw [isEmail_iff]
  constructor
  · intro h
    obtain hend | hsame := dropFinalFeed_cases value.toList
    · exact .inr ⟨_, h, hend⟩
    · exact .inl (hsame ▸ h)
  · rintro (h | ⟨address, h, hvalue⟩)
    · rwa [h.dropFinalFeed_eq]
    · rwa [hvalue, dropFinalFeed_concat]

/-- With a line feed behind an address that feed is the one blank, at the end. -/
theorem IsMailAddress.blank_behind (h : IsMailAddress chars) {front back : List Char} {c : Char}
    (hparts : chars ++ ['\n'] = front ++ c :: back) (hblank : Text.isBlank c = true) :
    c = '\n' ∧ back = [] := by
  obtain rfl | ⟨before, last, rfl⟩ := back.eq_nil_or_concat'
  · obtain ⟨-, hlast⟩ := List.append_inj' hparts rfl
    exact ⟨(by simpa using hlast.symm), rfl⟩
  · -- the blank would stand inside the address
    rw [← List.cons_append, ← List.append_assoc] at hparts
    obtain ⟨rfl, -⟩ := List.append_inj' hparts rfl
    have hc := h.not_isBlank c (by simp)
    rw [hc] at hblank
    cases hblank

/-- **A value is taken for a mail address exactly if it is one, or one with a line feed behind.** So it
has one at sign, and the only blank that it can have is that line feed, at its end. -/
theorem address_or_address_and_feed (value : String) :
    (isEmail value = true ↔
      IsMailAddress value.toList ∨
        ∃ address, IsMailAddress address ∧ value.toList = address ++ ['\n']) ∧
    (isEmail value = true → value.toList.count '@' = 1) ∧
    (isEmail value = true → ∀ front c back, value.toList = front ++ c :: back →
      Text.isBlank c = true → c = '\n' ∧ back = []) := by
  refine ⟨isEmail_cases, fun h => ?_, fun h front c back hvalue hblank => ?_⟩
  · obtain h | ⟨address, h, hvalue⟩ := isEmail_cases.mp h
    · exact h.count_at
    · rw [hvalue, List.count_append, h.count_at]
      decide
  · obtain h | ⟨address, h, hend⟩ := isEmail_cases.mp h
    · have hc := h.not_isBlank c (by rw [hvalue]; simp)
      rw [hc] at hblank
      cases hblank
    · exact h.blank_behind (hend.symm.trans hvalue) hblank

/-- **An address with a line feed behind is taken for an address, but it is none.** -/
theorem address_with_feed_is_taken :
    isEmail "a@b.co\n" = true ∧ ¬ IsMailAddress "a@b.co\n".toList := by
  refine ⟨by decide +kernel, fun h => ?_⟩
  have hblank := h.not_isBlank '\n' (by decide +kernel)
  exact absurd hblank (by decide)

end Preflight.Env
