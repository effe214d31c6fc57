import Preflight.Proofs.Pattern.Occurrence
import Preflight.Proofs.Pattern.Scan

/-!
# The first place of a pattern

A search gives what is read at the first place where a pattern can be read, and nothing where there
is no such place (`find?_eq_none_iff`, `find?_eq_some_iff`). Places are told by what stands there
(`StandsAt`), also where a pattern could read it in another way.
-/

set_option autoImplicit false

namespace Preflight.Pattern

variable {p : Pattern} {text part : List Char} {place : Nat}

/-- The part stands in the text behind so many characters. -/
def StandsAt (part text : List Char) (place : Nat) : Prop :=
  ∃ before rest, text = before ++ (part ++ rest) ∧ before.length = place

/-- What is read at a place stands there. -/
theorem IsReadAt.standsAt {o : Occurrence} (h : p.IsReadAt text o) :
    StandsAt o.text text o.offset := by
  obtain ⟨before, rest, htext, hbefore, -⟩ := h
  exact ⟨before, rest, htext, hbefore⟩

/-- What is read at a place is one way to read the pattern. -/
theorem IsReadAt.exists_reads {o : Occurrence} (h : p.IsReadAt text o) :
    ∃ rest, p.Reads o.text o.kept rest := by
  obtain ⟨before, rest, -, -, hread⟩ := h
  obtain ⟨part, kept, rest', hreads, htext, hreading⟩ := reads_of_read? hread
  injection hreading with hlength hkept hrest
  obtain ⟨rfl, -⟩ := List.append_inj htext hlength
  exact ⟨rest', hkept ▸ hreads⟩

/-- At a place where a pattern can be read, it is read. -/
theorem exists_isReadAt {before rest : List Char} {kept : List (List Char)}
    (h : p.Reads part kept rest) (htext : text = before ++ (part ++ rest)) :
    ∃ o, p.IsReadAt text o ∧ o.offset = before.length := by
  cases hread : p.read? (part ++ rest) with
  | none => exact absurd rfl (read?_eq_none_iff.mp hread part kept rest h)
  | some r =>
    obtain ⟨part', kept', rest', -, hsame, rfl⟩ := reads_of_read? hread
    rw [hsame] at htext hread
    exact ⟨⟨before.length, part', kept'⟩, ⟨before, rest', htext, rfl, hread⟩, rfl⟩

/-- A search from a place on comes to the first place there, or there is none. -/
theorem findFrom?_cases (rest : List Char) : ∀ before : List Char,
    match p.findFrom? before.length rest with
    | some found => p.IsReadAt (before ++ rest) found ∧
        ∀ o, p.IsReadAt (before ++ rest) o → before.length ≤ o.offset → found.offset ≤ o.offset
    | none => ∀ o, p.IsReadAt (before ++ rest) o → o.offset < before.length := by
  induction rest with
  | nil =>
    intro before
    rw [findFrom?, List.append_nil]
    cases hread : p.read? [] with
    | some r =>
      obtain ⟨part, kept, rest, -, htext, rfl⟩ := reads_of_read? hread
      obtain ⟨rfl, rfl⟩ := List.append_eq_nil_iff.mp htext.symm
      exact ⟨⟨before, [], by simp, rfl, hread⟩, fun o _ hle => hle⟩
    | none =>
      intro o ho
      obtain ⟨before', rest', htext, hbefore, hread'⟩ := ho
      rw [← hbefore, htext, List.length_append]
      have hne : o.text ++ rest' ≠ [] := by
        rintro hnil
        rw [hnil, hread] at hread'
        cases hread'
      have := List.length_pos_of_ne_nil hne
      omega
  | cons c rest ih =>
    intro before
    have hnext := ih (before ++ [c])
    rw [List.append_assoc, List.singleton_append, List.length_append, List.length_singleton] at hnext
    rw [findFrom?]
    cases hread : p.read? (c :: rest) with
    | some r =>
      obtain ⟨htext, hwidth⟩ := exists_part_of_read? hread
      refine ⟨⟨before, r.rest, by rw [← htext], rfl, ?_⟩, fun o _ hle => hle⟩
      rw [← htext, hread, hwidth]
    | none =>
      -- nothing is read here, so that a place from here on is one behind
      have hbehind : ∀ o, p.IsReadAt (before ++ c :: rest) o → before.length ≤ o.offset →
          before.length + 1 ≤ o.offset := by
        intro o ⟨before', rest', htext, hbefore, hread'⟩ hle
        refine Nat.lt_of_le_of_ne hle fun heq => ?_
        obtain ⟨-, hsame⟩ := List.append_inj htext (heq.trans hbefore.symm)
        rw [← hsame, hread] at hread'
        cases hread'
      dsimp only
      split at hnext
      · rename_i found hfound
        exact ⟨hnext.1, fun o ho hle => hnext.2 o ho (hbehind o ho hle)⟩
      · intro o ho
        have hlt := hnext o ho
        have := hbehind o ho
        omega

/-- **A search comes to the first place of a pattern.** -/
theorem find?_eq_some_iff {found : Occurrence} : p.find? text = some found ↔
    p.IsReadAt text found ∧ ∀ o, p.IsReadAt text o → found.offset ≤ o.offset := by
  have hcases := findFrom?_cases (p := p) text []
  simp only [List.nil_append, List.length_nil, Nat.zero_le, forall_const] at hcases
  rw [find?]
  constructor
  · intro h
    rwa [h] at hcases
  · rintro ⟨hread, hfirst⟩
    split at hcases
    · rename_i first hfound
      rw [hfound, hcases.1.eq hread (Nat.le_antisymm (hcases.2 _ hread) (hfirst _ hcases.1))]
    · exact absurd (hcases _ hread) (Nat.not_lt_zero _)

/-- And it comes to none where the pattern is nowhere read. -/
theorem find?_eq_none_iff : p.find? text = none ↔ ∀ o, ¬ p.IsReadAt text o := by
  have hcases := findFrom?_cases (p := p) text []
  simp only [List.nil_append, List.length_nil, Nat.zero_le, forall_const] at hcases
  rw [find?]
  constructor
  · intro h o ho
    rw [h] at hcases
    exact Nat.not_lt_zero _ (hcases o ho)
  · intro hnone
    split at hcases
    · exact absurd hcases.1 (hnone _)
    · assumption

end Preflight.Pattern
