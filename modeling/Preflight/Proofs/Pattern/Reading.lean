import Mathlib.Data.List.TakeWhile
import Preflight.Pattern.Basic

/-!
# What patterns read

`Reads` says what a pattern reads at the start of a text: the part that is used up, what of it is
kept, and the rest, which has a say where a run must be the longest. The readings of a text are all
of these and no others (`mem_readings_iff`). Which of several is preferred is not said here: where
there is one at most, it is that one (`IsDecided.read?_eq`).
-/

set_option autoImplicit false

namespace Preflight.Pattern

/-- The pattern reads a part and keeps some of it, in a text that goes on with the rest. -/
inductive Reads : (p : Pattern) → (part : List Char) → (kept : List (List Char)) →
    (rest : List Char) → Prop
  | empty {rest : List Char} : Reads .empty [] [] rest
  | one {set : Char → Bool} {c : Char} {rest : List Char} :
      set c = true → Reads (.one set) [c] [] rest
  /-- A run ends where no character of the set follows. -/
  | run {set : Char → Bool} {part rest : List Char} :
      (∀ c ∈ part, set c = true) → (∀ c ∈ rest.head?, set c = false) →
        Reads (.run set) part [] rest
  | gap {set : Char → Bool} {part rest : List Char} :
      (∀ c ∈ part, set c = true) → Reads (.gap set) part [] rest
  | seq {p q : Pattern} {a b rest : List Char} {k l : List (List Char)} :
      Reads p a k (b ++ rest) → Reads q b l rest → Reads (.seq p q) (a ++ b) (k ++ l) rest
  | first {p q : Pattern} {part rest : List Char} {kept : List (List Char)} :
      Reads p part kept rest → Reads (.either p q) part kept rest
  | second {p q : Pattern} {part rest : List Char} {kept : List (List Char)} :
      Reads q part kept rest → Reads (.either p q) part kept rest
  | keep {p : Pattern} {part rest : List Char} {kept : List (List Char)} :
      Reads p part kept rest → Reads (.keep p) part (part :: kept) rest

/-! ## Readings -/

/-- The runs that are tried: those found before, and every run that goes on. -/
theorem mem_runsFrom_iff {set : Char → Bool} {text : List Char} {r : Reading} :
    ∀ {width : Nat} {shorter : List Reading}, r ∈ runsFrom set width shorter text ↔
      r ∈ shorter ∨ ∃ part rest, (∀ c ∈ part, set c = true) ∧ text = part ++ rest ∧
        r = ⟨width + part.length, [], rest⟩ := by
  induction text with
  | nil =>
    intro width shorter
    rw [runsFrom, List.mem_cons, or_comm]
    refine or_congr_right ⟨?_, ?_⟩
    · rintro rfl
      exact ⟨[], [], nofun, rfl, rfl⟩
    · rintro ⟨part, rest, -, htext, rfl⟩
      obtain ⟨rfl, rfl⟩ := List.append_eq_nil_iff.mp htext.symm
      rfl
  | cons c text ih =>
    intro width shorter
    have hhere : r ∈ (⟨width, [], c :: text⟩ : Reading) :: shorter → r ∈ shorter ∨
        ∃ part rest, (∀ d ∈ part, set d = true) ∧ c :: text = part ++ rest ∧
          r = ⟨width + part.length, [], rest⟩ := by
      intro h
      obtain rfl | h := List.mem_cons.mp h
      · exact .inr ⟨[], c :: text, nofun, rfl, rfl⟩
      · exact .inl h
    unfold runsFrom
    split
    · rename_i hc
      rw [ih]
      constructor
      · rintro (h | ⟨part, rest, hpart, rfl, rfl⟩)
        · exact hhere h
        · refine .inr ⟨c :: part, rest, List.forall_mem_cons.mpr ⟨hc, hpart⟩, rfl, ?_⟩
          rw [List.length_cons, Nat.add_assoc, Nat.add_comm 1]
      · rintro (h | ⟨part, rest, hpart, htext, rfl⟩)
        · exact .inl (List.mem_cons_of_mem _ h)
        · cases part with
          | nil =>
            obtain rfl : c :: text = rest := htext
            exact .inl List.mem_cons_self
          | cons d part =>
            obtain ⟨rfl, rfl⟩ := List.cons.inj htext
            refine .inr ⟨part, rest, (List.forall_mem_cons.mp hpart).2, rfl, ?_⟩
            rw [List.length_cons, Nat.add_assoc, Nat.add_comm 1]
    · rename_i hc
      refine ⟨hhere, ?_⟩
      rintro (h | ⟨part, rest, hpart, htext, rfl⟩)
      · exact List.mem_cons_of_mem _ h
      · cases part with
        | nil =>
          obtain rfl : c :: text = rest := htext
          exact List.mem_cons_self
        | cons d part =>
          obtain ⟨rfl, -⟩ := List.cons.inj htext
          exact absurd (List.forall_mem_cons.mp hpart).1 hc

/-- The longest run at the start of a text is the one that no character of the set follows. -/
theorem takeWhile_append_of_stop {set : Char → Bool} {part rest : List Char}
    (hpart : ∀ c ∈ part, set c = true) (hstop : ∀ c ∈ rest.head?, set c = false) :
    (part ++ rest).takeWhile set = part ∧ (part ++ rest).dropWhile set = rest := by
  rw [List.takeWhile_append_of_pos hpart, List.dropWhile_append_of_pos hpart]
  cases rest with
  | nil => exact ⟨List.append_nil part, rfl⟩
  | cons c rest =>
    have hc : set c = false := hstop c rfl
    simp [hc]

/-- So a text starts with one such run only. -/
theorem append_inj_of_stop {set : Char → Bool} {part part' rest rest' : List Char}
    (hpart : ∀ c ∈ part, set c = true) (hpart' : ∀ c ∈ part', set c = true)
    (hstop : ∀ c ∈ rest.head?, set c = false) (hstop' : ∀ c ∈ rest'.head?, set c = false)
    (h : part ++ rest = part' ++ rest') : part = part' ∧ rest = rest' := by
  obtain ⟨htake, hdrop⟩ := takeWhile_append_of_stop hpart hstop
  obtain ⟨htake', hdrop'⟩ := takeWhile_append_of_stop hpart' hstop'
  exact ⟨by rw [← htake, h, htake'], by rw [← hdrop, h, hdrop']⟩

/-- No character of the set follows the longest run. -/
theorem notMem_head?_dropWhile (set : Char → Bool) (text : List Char) :
    ∀ c ∈ (text.dropWhile set).head?, set c = false := by
  intro c hc
  have hhead := List.head?_dropWhile_not set text
  rwa [Option.mem_def.mp hc] at hhead

/-- **The readings of a text are what the pattern reads at its start.** -/
theorem mem_readings_iff {p : Pattern} : ∀ {text : List Char} {r : Reading},
    r ∈ p.readings text ↔ ∃ part kept rest, p.Reads part kept rest ∧ text = part ++ rest ∧
      r = ⟨part.length, kept, rest⟩ := by
  induction p with
  | empty =>
    intro text r
    rw [readings, List.mem_singleton]
    constructor
    · rintro rfl
      exact ⟨[], [], text, .empty, rfl, rfl⟩
    · rintro ⟨_, _, rest, ⟨⟩, rfl, rfl⟩
      rfl
  | one set =>
    intro text r
    constructor
    · intro h
      cases text with
      | nil => cases h
      | cons c rest =>
        rw [readings] at h
        split at h
        · rename_i hc
          exact ⟨[c], [], rest, .one hc, rfl, List.mem_singleton.mp h⟩
        · cases h
    · rintro ⟨_, _, rest, hreads, rfl, rfl⟩
      cases hreads with
      | one hc => simp [readings, hc]
  | run set =>
    intro text r
    rw [readings, List.mem_singleton]
    constructor
    · rintro rfl
      exact ⟨_, [], _, .run (fun c hc => List.mem_takeWhile_imp hc)
        (notMem_head?_dropWhile set text), List.takeWhile_append_dropWhile.symm, rfl⟩
    · rintro ⟨part, kept, rest, hreads, rfl, rfl⟩
      cases hreads with
      | run hpart hstop =>
        obtain ⟨htake, hdrop⟩ := takeWhile_append_of_stop hpart hstop
        rw [htake, hdrop]
  | gap set =>
    intro text r
    rw [readings, mem_runsFrom_iff]
    constructor
    · rintro (h | ⟨part, rest, hpart, rfl, rfl⟩)
      · cases h
      · exact ⟨part, [], rest, .gap hpart, rfl, by rw [Nat.zero_add]⟩
    · rintro ⟨part, _, rest, hreads, rfl, rfl⟩
      cases hreads with
      | gap hpart => exact .inr ⟨part, rest, hpart, rfl, by rw [Nat.zero_add]⟩
  | seq first second ihfirst ihsecond =>
    intro text r
    simp only [readings, List.mem_flatMap, List.mem_map]
    constructor
    · rintro ⟨_, ha, _, hb, rfl⟩
      obtain ⟨a, k, _, hfirst, rfl, rfl⟩ := ihfirst.mp ha
      obtain ⟨b, l, rest, hsecond, rfl, rfl⟩ := ihsecond.mp hb
      exact ⟨a ++ b, k ++ l, rest, .seq hfirst hsecond, (List.append_assoc ..).symm,
        by rw [List.length_append]⟩
    · rintro ⟨_, _, rest, hreads, rfl, rfl⟩
      cases hreads with
      | @seq _ _ a b _ k l hfirst hsecond =>
        refine ⟨⟨a.length, k, b ++ rest⟩,
          ihfirst.mpr ⟨a, k, b ++ rest, hfirst, List.append_assoc .., rfl⟩,
          ⟨b.length, l, rest⟩, ihsecond.mpr ⟨b, l, rest, hsecond, rfl, rfl⟩, ?_⟩
        rw [List.length_append]
  | either first second ihfirst ihsecond =>
    intro text r
    rw [readings, List.mem_append, ihfirst, ihsecond]
    constructor
    · rintro (⟨part, kept, rest, hreads, h⟩ | ⟨part, kept, rest, hreads, h⟩)
      · exact ⟨part, kept, rest, .first hreads, h⟩
      · exact ⟨part, kept, rest, .second hreads, h⟩
    · rintro ⟨part, kept, rest, hreads, h⟩
      cases hreads with
      | first hreads => exact .inl ⟨part, kept, rest, hreads, h⟩
      | second hreads => exact .inr ⟨part, kept, rest, hreads, h⟩
  | keep inner ih =>
    intro text r
    simp only [readings, List.mem_map]
    constructor
    · rintro ⟨_, ha, rfl⟩
      obtain ⟨part, kept, rest, hreads, rfl, rfl⟩ := ih.mp ha
      exact ⟨part, part :: kept, rest, .keep hreads, rfl, by simp⟩
    · rintro ⟨part, _, rest, hreads, rfl, rfl⟩
      cases hreads with
      | keep hreads => exact ⟨_, ih.mpr ⟨part, _, rest, hreads, rfl, rfl⟩, by simp⟩

/-! ## The preferred reading -/

/-- There is one reading at most of every text. -/
def IsDecided (p : Pattern) : Prop :=
  ∀ ⦃part kept rest part' kept' rest'⦄, p.Reads part kept rest → p.Reads part' kept' rest' →
    part ++ rest = part' ++ rest' → part = part' ∧ kept = kept'

/-- The preferred reading is one. -/
theorem reads_of_read? {p : Pattern} {text : List Char} {r : Reading} (h : p.read? text = some r) :
    ∃ part kept rest, p.Reads part kept rest ∧ text = part ++ rest ∧
      r = ⟨part.length, kept, rest⟩ :=
  mem_readings_iff.mp (List.mem_of_head? h)

/-- There is no preferred reading where there is none. -/
theorem read?_eq_none_iff {p : Pattern} {text : List Char} :
    p.read? text = none ↔ ∀ part kept rest, p.Reads part kept rest → text ≠ part ++ rest := by
  rw [read?, List.head?_eq_none_iff]
  constructor
  · intro hnil part kept rest hreads htext
    have hmem : (⟨part.length, kept, rest⟩ : Reading) ∈ p.readings text :=
      mem_readings_iff.mpr ⟨part, kept, rest, hreads, htext, rfl⟩
    rw [hnil] at hmem
    cases hmem
  · intro hnone
    refine List.eq_nil_iff_forall_not_mem.mpr fun r hr => ?_
    obtain ⟨part, kept, rest, hreads, htext, -⟩ := mem_readings_iff.mp hr
    exact hnone part kept rest hreads htext

/-- **One reading at most is the preferred one.** -/
theorem IsDecided.read?_eq {p : Pattern} (h : p.IsDecided) {part rest : List Char}
    {kept : List (List Char)} (hreads : p.Reads part kept rest) :
    p.read? (part ++ rest) = some ⟨part.length, kept, rest⟩ := by
  cases hread : p.read? (part ++ rest) with
  | none => exact absurd rfl (read?_eq_none_iff.mp hread part kept rest hreads)
  | some r =>
    obtain ⟨part', kept', rest', hreads', htext, rfl⟩ := reads_of_read? hread
    obtain ⟨rfl, rfl⟩ := h hreads hreads' htext
    rw [List.append_cancel_left htext]

/-! ## Parts of patterns -/

section

variable {p q : Pattern} {part rest : List Char} {kept : List (List Char)}

/-- The one and then the other. -/
theorem reads_seq_iff : (seq p q).Reads part kept rest ↔ ∃ a b k l,
    p.Reads a k (b ++ rest) ∧ q.Reads b l rest ∧ part = a ++ b ∧ kept = k ++ l := by
  constructor
  · intro h
    cases h with
    | seq hp hq => exact ⟨_, _, _, _, hp, hq, rfl, rfl⟩
  · rintro ⟨a, b, k, l, hp, hq, rfl, rfl⟩
    exact .seq hp hq

/-- The same for patterns that are written one after the other. -/
theorem reads_append_iff : (p ++ q).Reads part kept rest ↔ ∃ a b k l,
    p.Reads a k (b ++ rest) ∧ q.Reads b l rest ∧ part = a ++ b ∧ kept = k ++ l := reads_seq_iff

/-- One of the two. -/
theorem reads_either_iff : (either p q).Reads part kept rest ↔
    p.Reads part kept rest ∨ q.Reads part kept rest := by
  constructor
  · intro h
    cases h with
    | first h => exact .inl h
    | second h => exact .inr h
  · rintro (h | h)
    · exact .first h
    · exact .second h

/-- The pattern or nothing. -/
theorem reads_optional_iff : (optional p).Reads part kept rest ↔
    p.Reads part kept rest ∨ part = [] ∧ kept = [] := by
  rw [optional, reads_either_iff]
  refine or_congr_right ⟨?_, ?_⟩
  · intro h
    cases h
    exact ⟨rfl, rfl⟩
  · rintro ⟨rfl, rfl⟩
    exact .empty

/-- What is read is kept in front of what is kept of it. -/
theorem reads_keep_iff : (keep p).Reads part kept rest ↔
    ∃ inner, p.Reads part inner rest ∧ kept = part :: inner := by
  constructor
  · intro h
    cases h with
    | keep h => exact ⟨_, h, rfl⟩
  · rintro ⟨inner, h, rfl⟩
    exact .keep h

/-- One character of a set. -/
theorem reads_one_iff {set : Char → Bool} : (one set).Reads part kept rest ↔
    ∃ c, set c = true ∧ part = [c] ∧ kept = [] := by
  constructor
  · intro h
    cases h with
    | one hc => exact ⟨_, hc, rfl, rfl⟩
  · rintro ⟨c, hc, rfl, rfl⟩
    exact .one hc

/-- One given character. -/
theorem reads_char_iff {c : Char} : (char c).Reads part kept rest ↔ part = [c] ∧ kept = [] := by
  rw [char, reads_one_iff]
  constructor
  · rintro ⟨d, hd, hpart, hkept⟩
    exact ⟨beq_iff_eq.mp hd ▸ hpart, hkept⟩
  · rintro ⟨hpart, hkept⟩
    exact ⟨c, beq_self_eq_true c, hpart, hkept⟩

/-- The longest run of a set. -/
theorem reads_run_iff {set : Char → Bool} : (run set).Reads part kept rest ↔
    (∀ c ∈ part, set c = true) ∧ (∀ c ∈ rest.head?, set c = false) ∧ kept = [] := by
  constructor
  · intro h
    cases h with
    | run hpart hstop => exact ⟨hpart, hstop, rfl⟩
  · rintro ⟨hpart, hstop, rfl⟩
    exact .run hpart hstop

/-- Any run of a set. -/
theorem reads_gap_iff {set : Char → Bool} : (gap set).Reads part kept rest ↔
    (∀ c ∈ part, set c = true) ∧ kept = [] := by
  constructor
  · intro h
    cases h with
    | gap hpart => exact ⟨hpart, rfl⟩
  · rintro ⟨hpart, rfl⟩
    exact .gap hpart

/-- The longest run of a set that is not empty. -/
theorem reads_runOne_iff {set : Char → Bool} : (runOne set).Reads part kept rest ↔ part ≠ [] ∧
    (∀ c ∈ part, set c = true) ∧ (∀ c ∈ rest.head?, set c = false) ∧ kept = [] := by
  rw [runOne, reads_seq_iff]
  constructor
  · rintro ⟨a, b, k, l, ha, hb, rfl, rfl⟩
    obtain ⟨c, hc, rfl, rfl⟩ := reads_one_iff.mp ha
    obtain ⟨hmore, hstop, rfl⟩ := reads_run_iff.mp hb
    exact ⟨List.cons_ne_nil _ _, List.forall_mem_cons.mpr ⟨hc, hmore⟩, hstop, rfl⟩
  · rintro ⟨hne, hpart, hstop, rfl⟩
    obtain ⟨c, more, rfl⟩ := List.exists_cons_of_ne_nil hne
    obtain ⟨hc, hmore⟩ := List.forall_mem_cons.mp hpart
    exact ⟨[c], more, [], [], .one hc, .run hmore hstop, rfl, rfl⟩

/-- Characters as written. -/
theorem reads_chars_iff {cs : List Char} : ∀ {part rest : List Char} {kept : List (List Char)},
    (chars cs).Reads part kept rest ↔ part = cs ∧ kept = [] := by
  intro part rest kept
  fun_induction chars cs generalizing part rest kept with
  | case1 =>
    constructor
    · intro h
      cases h
      exact ⟨rfl, rfl⟩
    · rintro ⟨rfl, rfl⟩
      exact .empty
  | case2 c => exact reads_char_iff
  | case3 c more _ ih =>
    rw [reads_seq_iff]
    constructor
    · rintro ⟨a, b, k, l, ha, hb, rfl, rfl⟩
      obtain ⟨rfl, rfl⟩ := reads_char_iff.mp ha
      obtain ⟨rfl, rfl⟩ := ih.mp hb
      exact ⟨rfl, rfl⟩
    · rintro ⟨rfl, rfl⟩
      exact ⟨[c], more, [], [], reads_char_iff.mpr ⟨rfl, rfl⟩, ih.mpr ⟨rfl, rfl⟩, rfl, rfl⟩

/-- One of several words. -/
theorem reads_choice_words_iff {words : List String} :
    (choice (words.map word)).Reads part kept rest ↔
      (∃ w ∈ words, part = w.toList) ∧ kept = [] := by
  induction words with
  | nil => simp [choice, reads_one_iff]
  | cons w words ih =>
    have hword : (word w).Reads part kept rest ↔ part = w.toList ∧ kept = [] := reads_chars_iff
    cases words with
    | nil => simp [choice, hword]
    | cons v words =>
      simp only [List.map_cons] at ih ⊢
      rw [choice, reads_either_iff, ih, hword]
      · simp only [List.mem_cons, or_and_right, exists_or, exists_eq_left]
      · exact List.cons_ne_nil _ _

end

end Preflight.Pattern
