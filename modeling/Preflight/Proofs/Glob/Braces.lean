import Mathlib.Data.List.Infix
import Mathlib.Data.List.TakeWhile
import Preflight.Glob.Braces
import Preflight.Proofs.Text.Split

/-!
# What groups in braces stand for

A pattern with balanced braces is read as letters and groups, and groups hold patterns again
(`Nested`). A group stands for whatever one of its alternatives stands for, which are the parts
between the commas that are in no deeper group; a letter outside of all groups, also a comma, stands
for itself (`Nested.Denotes`).

Expansion goes the other way: it replaces an innermost group of the text, the first one, and cuts it
at all its commas. The law (`mem_expand_iff_denotes`): it comes to what the pattern denotes. One
round puts a group of letters away, which leaves a choice of patterns (`Nested.Replaces`), and the
pattern denotes what one of these denotes (`Nested.Replaces.denotes_iff`).

Strings are compared as sets: a pattern such as `{a{b,c},d}` has its alternatives in another order
when its inner group is expanded first, and some of them twice.
-/

set_option autoImplicit false

namespace Preflight.Glob

/-! ## Balanced braces -/

/-- So many groups are open before the characters, and these close them and all their own. -/
structure Closes (depth : Nat) (chars : List Char) : Prop where
  /-- No brace is closed that was not opened. -/
  opened : ∀ before, before <+: chars → before.count '\x7d' ≤ depth + before.count '\x7b'
  /-- And every one is closed. -/
  closed : chars.count '\x7d' = depth + chars.count '\x7b'

/-- The braces are balanced. -/
def IsBalanced (chars : List Char) : Prop := Closes 0 chars

instance : DecidablePred IsBalanced := fun chars =>
  decidable_of_iff ((∀ before ∈ chars.inits, before.count '\x7d' ≤ 0 + before.count '\x7b') ∧
    chars.count '\x7d' = 0 + chars.count '\x7b')
    ⟨fun h => ⟨fun before hbefore => h.1 before ((List.mem_inits _ _).mpr hbefore), h.2⟩,
      fun h => ⟨fun before hbefore => h.opened before ((List.mem_inits _ _).mp hbefore), h.closed⟩⟩

theorem closes_nil_iff {depth : Nat} : Closes depth [] ↔ depth = 0 := by
  constructor
  · intro h
    have hclosed := h.closed
    simp only [List.count_nil] at hclosed
    omega
  · rintro rfl
    refine ⟨fun before h => ?_, rfl⟩
    rw [List.prefix_nil.mp h]
    simp

/-- One character more closes a group if it is a closing brace, and opens one if it is an opening
brace. -/
theorem closes_cons_iff {depth : Nat} {c : Char} {rest : List Char} :
    Closes (depth + [c].count '\x7d') (c :: rest) ↔ Closes (depth + [c].count '\x7b') rest := by
  have hcount (brace : Char) (chars : List Char) :
      (c :: chars).count brace = [c].count brace + chars.count brace := by
    rw [← List.singleton_append, List.count_append]
  constructor
  · intro ⟨hopened, hclosed⟩
    rw [hcount _ rest, hcount _ rest] at hclosed
    refine ⟨fun before hbefore => ?_, by omega⟩
    have hmore := hopened (c :: before) ((List.prefix_cons_inj c).mpr hbefore)
    rw [hcount _ before, hcount _ before] at hmore
    omega
  · intro ⟨hopened, hclosed⟩
    refine ⟨fun before hbefore => ?_, ?_⟩
    · obtain rfl | ⟨tail, rfl, htail⟩ := List.prefix_cons_iff.mp hbefore
      · simp
      · have hless := hopened tail htail
        rw [hcount _ tail, hcount _ tail]
        omega
    · rw [hcount _ rest, hcount _ rest]
      omega

theorem closes_opening_iff {depth : Nat} {rest : List Char} :
    Closes depth ('\x7b' :: rest) ↔ Closes (depth + 1) rest :=
  closes_cons_iff (c := '\x7b')

theorem closes_closing_iff {depth : Nat} {rest : List Char} :
    Closes (depth + 1) ('\x7d' :: rest) ↔ Closes depth rest :=
  closes_cons_iff (c := '\x7d')

/-- Where no group is open, none is closed. -/
theorem not_closes_closing {rest : List Char} : ¬ Closes 0 ('\x7d' :: rest) := by
  intro h
  have hopened := h.opened ['\x7d'] (List.prefix_append ['\x7d'] rest)
  simp at hopened

/-! ## Patterns as they are read -/

/-- A character other than a brace. -/
abbrev Letter := { c : Char // isBrace c = false }

/-- The letter between alternatives. -/
def comma : Letter := ⟨',', by decide⟩

theorem Letter.ne_braces (c : Letter) : c.val ≠ '\x7b' ∧ c.val ≠ '\x7d' := by
  simpa [isBrace] using c.property

/-- A letter opens and closes nothing. -/
theorem closes_letter_iff {depth : Nat} {c : Letter} {rest : List Char} :
    Closes depth (c.val :: rest) ↔ Closes depth rest := by
  have hcons : Closes (depth + [c.val].count '\x7d') (c.val :: rest) ↔
      Closes (depth + [c.val].count '\x7b') rest := closes_cons_iff
  rwa [List.count_singleton, List.count_singleton, if_neg (by simpa using c.ne_braces.2),
    if_neg (by simpa using c.ne_braces.1)] at hcons

/-- A pattern with its groups: nothing, a letter and more, or a group and more. -/
inductive Nested
  | nil
  | char (c : Letter) (rest : Nested)
  | group (body rest : Nested)

namespace Nested

/-- The characters of a pattern. -/
def text : Nested → List Char
  | nil => []
  | char c rest => c.val :: rest.text
  | group body rest => '\x7b' :: body.text ++ '\x7d' :: rest.text

/-- The parts between the commas that are in no group of the pattern. -/
def alternatives : Nested → List Nested
  | nil => [nil]
  | char c rest =>
    if c = comma then nil :: rest.alternatives else rest.alternatives.modifyHead (char c)
  | group body rest => rest.alternatives.modifyHead (group body)

/-- What a pattern stands for: its letters, and for each group what one of its alternatives stands
for, one after the other. -/
inductive Denotes : Nested → List Char → Prop
  | nil : Denotes nil []
  | char {c : Letter} {rest : Nested} {s : List Char} :
    Denotes rest s → Denotes (char c rest) (c.val :: s)
  | group {body rest option : Nested} {t s : List Char} :
    option ∈ body.alternatives → Denotes option t → Denotes rest s →
      Denotes (group body rest) (t ++ s)

/-- No string that a pattern stands for holds a brace. -/
theorem Denotes.noBrace {p : Nested} {s : List Char} (h : p.Denotes s) :
    ∀ c ∈ s, isBrace c = false := by
  induction h with
  | nil => exact nofun
  | @char c rest s _ ih => exact List.forall_mem_cons.mpr ⟨c.property, ih⟩
  | group _ _ _ ihOption ihRest => exact List.forall_mem_append.mpr ⟨ihOption, ihRest⟩

/-! ## Balanced texts are patterns -/

/-- The text of a pattern closes what it opens. -/
theorem closes_text_append_iff (p : Nested) : ∀ {depth : Nat} {rest : List Char},
    Closes depth (p.text ++ rest) ↔ Closes depth rest := by
  induction p with
  | nil => exact Iff.rfl
  | char c p ih =>
    intro depth rest
    rw [text, List.cons_append, closes_letter_iff, ih]
  | group body p ihBody ihRest =>
    intro depth rest
    rw [text, List.append_assoc, List.cons_append, List.cons_append, closes_opening_iff, ihBody,
      closes_closing_iff, ihRest]

/-- What closes so many groups is a pattern, and one more behind each closing brace. -/
theorem exists_texts {chars : List Char} : ∀ {depth : Nat}, Closes depth chars →
    ∃ (p : Nested) (behind : List Nested), behind.length = depth ∧
      chars = p.text ++ behind.flatMap ('\x7d' :: ·.text) := by
  induction chars with
  | nil =>
    intro depth h
    exact ⟨nil, [], (closes_nil_iff.mp h).symm, rfl⟩
  | cons c rest ih =>
    intro depth h
    by_cases hopening : c = '\x7b'
    · subst hopening
      obtain ⟨body, behind, hlength, rfl⟩ := ih (closes_opening_iff.mp h)
      obtain ⟨p, behind, rfl⟩ := List.exists_cons_of_length_eq_add_one hlength
      exact ⟨group body p, behind, by simpa using hlength, by simp [text]⟩
    by_cases hclosing : c = '\x7d'
    · subst hclosing
      cases depth with
      | zero => exact absurd h not_closes_closing
      | succ depth =>
        obtain ⟨p, behind, rfl, rfl⟩ := ih (closes_closing_iff.mp h)
        exact ⟨nil, p :: behind, rfl, by simp [text]⟩
    · let letter : Letter := ⟨c, by simp [isBrace, hopening, hclosing]⟩
      obtain ⟨p, behind, hlength, rfl⟩ := ih (closes_letter_iff (c := letter) |>.mp h)
      exact ⟨char letter p, behind, hlength, by simp [text, letter]⟩

/-- **Balanced texts are the texts of patterns.** -/
theorem isBalanced_iff {chars : List Char} : IsBalanced chars ↔ ∃ p : Nested, p.text = chars := by
  constructor
  · intro h
    obtain ⟨p, behind, hnone, rfl⟩ := exists_texts h
    rw [List.eq_nil_of_length_eq_zero hnone]
    exact ⟨p, by simp⟩
  · rintro ⟨p, rfl⟩
    rw [IsBalanced, ← List.append_nil p.text, closes_text_append_iff]
    exact closes_nil_iff.mpr rfl

/-! ## Letters alone -/

/-- The letters and then the pattern. -/
def letters (cs : List Letter) (rest : Nested) : Nested := cs.foldr char rest

theorem text_letters (cs : List Letter) (rest : Nested) :
    (letters cs rest).text = cs.map Subtype.val ++ rest.text := by
  induction cs with
  | nil => rfl
  | cons c cs ih => exact congrArg (c.val :: ·) ih

/-- Letters stand for themselves. -/
theorem denotes_letters_iff {cs : List Letter} {rest : Nested} {s : List Char} :
    (letters cs rest).Denotes s ↔ ∃ t, rest.Denotes t ∧ s = cs.map Subtype.val ++ t := by
  induction cs generalizing s with
  | nil => simp [letters]
  | cons c cs ih =>
    have hcons : letters (c :: cs) rest = char c (letters cs rest) := rfl
    rw [hcons]
    constructor
    · rintro (_ | h | _)
      obtain ⟨t, ht, rfl⟩ := ih.mp h
      exact ⟨t, ht, rfl⟩
    · rintro ⟨t, ht, rfl⟩
      exact .char (ih.mpr ⟨t, ht, rfl⟩)

theorem denotes_letters_nil_iff {cs : List Letter} {s : List Char} :
    (letters cs nil).Denotes s ↔ s = cs.map Subtype.val := by
  rw [denotes_letters_iff]
  constructor
  · rintro ⟨_, _ | _, rfl⟩
    exact List.append_nil _
  · rintro rfl
    exact ⟨[], .nil, (List.append_nil _).symm⟩

/-- There is a first alternative. -/
theorem exists_alternatives (p : Nested) : ∃ first others, p.alternatives = first :: others := by
  induction p with
  | nil => exact ⟨nil, [], rfl⟩
  | char c rest ih =>
    obtain ⟨first, others, hrest⟩ := ih
    rw [alternatives, hrest]
    split
    · exact ⟨nil, first :: others, rfl⟩
    · exact ⟨char c first, others, rfl⟩
  | group body rest _ ih =>
    obtain ⟨first, others, hrest⟩ := ih
    exact ⟨group body first, others, by rw [alternatives, hrest, List.modifyHead_cons]⟩

/-- Letters without commas stand at the start of the first alternative. -/
theorem alternatives_letters {cs : List Letter} (h : comma ∉ cs) {rest first : Nested}
    {others : List Nested} (hrest : rest.alternatives = first :: others) :
    (letters cs rest).alternatives = letters cs first :: others := by
  induction cs with
  | nil => exact hrest
  | cons c cs ih =>
    rw [List.mem_cons, not_or] at h
    obtain ⟨hc, hcs⟩ := h
    have hcons : letters (c :: cs) rest = char c (letters cs rest) := rfl
    rw [hcons, alternatives, if_neg (Ne.symm hc), ih hcs, List.modifyHead_cons]
    rfl

/-- The alternatives of letters are what stands between the commas. -/
theorem alternatives_letters_nil (cs : List Letter) :
    (letters cs nil).alternatives = (cs.splitOn comma).map (letters · nil) := by
  induction cs with
  | nil => rfl
  | cons c cs ih =>
    have hcons : letters (c :: cs) nil = char c (letters cs nil) := rfl
    obtain ⟨first, others, hsplit⟩ := List.exists_cons_of_ne_nil (List.splitOn_ne_nil comma cs)
    rw [hcons, alternatives, ih, List.splitOn_cons_eq_if_modifyHead, hsplit]
    by_cases hc : c = comma
    · simp [hc, letters]
    · rw [if_neg hc, if_neg (by rwa [beq_iff_eq])]
      rfl

/-! ## One group less -/

/-- The first group that holds letters only, if the pattern has groups: its letters, and the pattern
with an option in its place. The group stands within the first group of all. -/
inductive Replaces (body : List Letter) : Nested → (List Letter → Nested) → Prop
  | here (rest : Nested) : Replaces body (group (letters body nil) rest) (letters · rest)
  | char (c : Letter) {p : Nested} {with_ : List Letter → Nested} :
    Replaces body p with_ → Replaces body (char c p) fun option => char c (with_ option)
  | inner {inside : Nested} {with_ : List Letter → Nested} (rest : Nested) :
    Replaces body inside with_ → Replaces body (group inside rest) fun option =>
      group (with_ option) rest

variable {body option : List Letter} {p : Nested} {with_ : List Letter → Nested} {s : List Char}

/-- **One alternative holds the group**, and the others are the same for every option. -/
theorem Replaces.alternatives (h : Replaces body p with_) :
    ∃ before q after withOne, p.alternatives = before ++ q :: after ∧ Replaces body q withOne ∧
      ∀ option, comma ∉ option →
        (with_ option).alternatives = before ++ withOne option :: after := by
  induction h with
  | here rest =>
    obtain ⟨first, others, hrest⟩ := rest.exists_alternatives
    refine ⟨[], group (letters body nil) first, others, _, ?_, .here first, fun _ hoption => ?_⟩
    · rw [Nested.alternatives, hrest]
      rfl
    · exact alternatives_letters hoption hrest
  | @char c p with_ _ ih =>
    obtain ⟨before, q, after, withOne, hsplit, hq, hall⟩ := ih
    simp only [Nested.alternatives]
    split
    · exact ⟨nil :: before, q, after, withOne, by rw [hsplit]; rfl, hq, fun option hoption =>
        congrArg (nil :: ·) (hall option hoption)⟩
    -- The letter stands in front of the first alternative, whether the group is in it or not.
    cases before with
    | nil =>
      exact ⟨[], Nested.char c q, after, _, by rw [hsplit]; rfl, hq.char c, fun option hoption =>
        congrArg (List.modifyHead (Nested.char c)) (hall option hoption)⟩
    | cons first before =>
      exact ⟨Nested.char c first :: before, q, after, withOne, by rw [hsplit]; rfl, hq,
        fun option hoption => congrArg (List.modifyHead (Nested.char c)) (hall option hoption)⟩
  | inner rest hinside _ =>
    obtain ⟨first, others, hrest⟩ := rest.exists_alternatives
    simp only [Nested.alternatives, hrest]
    exact ⟨[], _, others, _, rfl, hinside.inner first, fun option _ => rfl⟩

/-- A group of letters denotes each of its options. -/
theorem denotes_of_here {rest replaced : Nested} (hoption : option ∈ body.splitOn comma)
    (heq : letters option rest = replaced) (hs : replaced.Denotes s) :
    (group (letters body nil) rest).Denotes s := by
  subst heq
  obtain ⟨t, ht, rfl⟩ := denotes_letters_iff.mp hs
  have hmem : letters option nil ∈ (letters body nil).alternatives := by
    rw [alternatives_letters_nil]
    exact List.mem_map_of_mem hoption
  exact .group hmem (denotes_letters_nil_iff.mpr rfl) ht

/-- With an option the pattern denotes no more than it does. -/
theorem Replaces.denotes_of_option (h : Replaces body p with_)
    (hoption : option ∈ body.splitOn comma) (hs : (with_ option).Denotes s) : p.Denotes s := by
  -- On what is denoted: the alternative that holds the group is no part of the pattern.
  generalize heq : with_ option = replaced at hs
  induction hs generalizing p with_ with
  | nil =>
    cases h with
    | here => exact denotes_of_here hoption heq .nil
    | _ => cases heq
  | char hrest ih =>
    cases h with
    | here => exact denotes_of_here hoption heq (.char hrest)
    | char c hp =>
      cases heq
      exact .char (ih hp rfl)
    | _ => cases heq
  | group halternative ht hrest ihOption _ =>
    cases h with
    | here => exact denotes_of_here hoption heq (.group halternative ht hrest)
    | char => cases heq
    | @inner inside _ rest hinside =>
      cases heq
      obtain ⟨before, q, after, withOne, hsplit, hq, hall⟩ := hinside.alternatives
      have hcomma : comma ∉ option := Text.notMem_of_mem_splitOn hoption
      rw [hall option hcomma, List.mem_append, List.mem_cons] at halternative
      rcases halternative with hbefore | rfl | hafter
      · exact .group (by simp [hsplit, hbefore]) ht hrest
      · have hmem : q ∈ inside.alternatives := by
          rw [hsplit]
          exact List.mem_append_right _ List.mem_cons_self
        exact .group hmem (ihOption hq rfl) hrest
      · exact .group (by simp [hsplit, hafter]) ht hrest

/-- What a pattern denotes it denotes with one of the options. -/
theorem Replaces.exists_option (h : Replaces body p with_) (hs : p.Denotes s) :
    ∃ option ∈ body.splitOn comma, (with_ option).Denotes s := by
  induction hs generalizing with_ with
  | nil => cases h
  | char _ ih =>
    cases h with
    | char c hp =>
      obtain ⟨option, hoption, hs⟩ := ih hp
      exact ⟨option, hoption, .char hs⟩
  | @group _ _ _ t s halternative ht hs ihOption _ =>
    cases h with
    | here =>
      rw [alternatives_letters_nil, List.mem_map] at halternative
      obtain ⟨option, hoption, rfl⟩ := halternative
      obtain rfl := denotes_letters_nil_iff.mp ht
      exact ⟨option, hoption, denotes_letters_iff.mpr ⟨s, hs, rfl⟩⟩
    | @inner _ with_ rest hinside =>
      obtain ⟨before, q, after, withOne, hsplit, hq, hall⟩ := hinside.alternatives
      have hmem : ∀ option ∈ body.splitOn comma, ∀ p,
          p ∈ before ∨ p = withOne option ∨ p ∈ after → p ∈ (with_ option).alternatives := by
        intro option hoption p hp
        rw [hall option (Text.notMem_of_mem_splitOn hoption)]
        exact List.mem_append.mpr (hp.imp_right List.mem_cons.mpr)
      obtain ⟨first, hfirst⟩ := List.exists_mem_of_ne_nil _ (List.splitOn_ne_nil comma body)
      rw [hsplit, List.mem_append, List.mem_cons] at halternative
      rcases halternative with hbefore | rfl | hafter
      · exact ⟨first, hfirst, .group (hmem first hfirst _ (.inl hbefore)) ht hs⟩
      · obtain ⟨option, hoption, ht⟩ := ihOption hq
        exact ⟨option, hoption, .group (hmem option hoption _ (.inr (.inl rfl))) ht hs⟩
      · exact ⟨first, hfirst, .group (hmem first hfirst _ (.inr (.inr hafter))) ht hs⟩

/-- **A pattern denotes what it denotes with its options in place of a group.** -/
theorem Replaces.denotes_iff (h : Replaces body p with_) :
    p.Denotes s ↔ ∃ option ∈ body.splitOn comma, (with_ option).Denotes s :=
  ⟨h.exists_option, fun ⟨_, hoption, hs⟩ => h.denotes_of_option hoption hs⟩

/-- Letters alone, or a first group of letters. -/
theorem eq_letters_or_replaces (p : Nested) :
    (∃ cs, p = letters cs nil) ∨ ∃ body with_, Replaces body p with_ := by
  induction p with
  | nil => exact .inl ⟨[], rfl⟩
  | char c p ih =>
    rcases ih with ⟨cs, rfl⟩ | ⟨body, with_, hp⟩
    · exact .inl ⟨c :: cs, rfl⟩
    · exact .inr ⟨body, _, hp.char c⟩
  | group inside rest ih _ =>
    rcases ih with ⟨cs, rfl⟩ | ⟨body, with_, hinside⟩
    · exact .inr ⟨cs, _, .here rest⟩
    · exact .inr ⟨body, _, hinside.inner rest⟩

end Nested

/-! ## The group that is found -/

/-- Letters go by. -/
theorem dropWhile_letters_append (cs : List Letter) (rest : List Char) :
    (cs.map Subtype.val ++ rest).dropWhile (!isBrace ·) = rest.dropWhile (!isBrace ·) := by
  refine List.dropWhile_append_of_pos fun c hc => ?_
  obtain ⟨letter, -, rfl⟩ := List.mem_map.mp hc
  rw [letter.property]
  rfl

/-- A group of letters is one. -/
theorem groupAt?_closing (before : List Char) (cs : List Letter) (after : List Char) :
    groupAt? before (cs.map Subtype.val ++ '\x7d' :: after) =
      some ⟨before, cs.map Subtype.val, after⟩ := by
  have htake : (cs.map Subtype.val ++ '\x7d' :: after).takeWhile (!isBrace ·) =
      cs.map Subtype.val := by
    rw [List.takeWhile_append_of_pos fun c hc => ?_]
    · exact List.append_nil _
    · obtain ⟨letter, -, rfl⟩ := List.mem_map.mp hc
      rw [letter.property]
      rfl
  rw [groupAt?, dropWhile_letters_append, htake]
  rfl

/-- A group with a group inside is none. -/
theorem groupAt?_opening (before : List Char) (cs : List Letter) (rest : List Char) :
    groupAt? before (cs.map Subtype.val ++ '\x7b' :: rest) = none := by
  rw [groupAt?, dropWhile_letters_append]
  rfl

theorem findGroup?_letter (passed : List Char) (c : Letter) (rest : List Char) :
    findGroup? passed (c.val :: rest) = findGroup? (c.val :: passed) rest := by
  rw [findGroup?, if_neg (by simpa using c.ne_braces.1)]

theorem findGroup?_opening (passed rest : List Char) : findGroup? passed ('\x7b' :: rest) =
    (groupAt? passed.reverse rest).or (findGroup? ('\x7b' :: passed) rest) := by
  rw [findGroup?, if_pos (by rfl)]
  cases groupAt? passed.reverse rest <;> rfl

namespace Nested

variable {body : List Letter} {p : Nested} {with_ : List Letter → Nested} {s : List Char}

theorem findGroup?_letters (cs : List Letter) (passed : List Char) :
    findGroup? passed (letters cs nil).text = none := by
  induction cs generalizing passed with
  | nil => rfl
  | cons c cs ih => exact (findGroup?_letter passed c _).trans (ih _)

/-- **The first group of letters is found**, whatever stands around the pattern. -/
theorem Replaces.exists_text (h : Replaces body p with_) : ∃ before after,
    (∀ option, (with_ option).text = before ++ option.map Subtype.val ++ after) ∧
    (∀ passed rest, findGroup? passed (p.text ++ rest) =
      some ⟨passed.reverse ++ before, body.map Subtype.val, after ++ rest⟩) ∧
    ∃ cs : List Letter, ∃ tail, p.text = cs.map Subtype.val ++ '\x7b' :: tail := by
  induction h with
  | here rest =>
    refine ⟨[], rest.text, (text_letters · rest), fun passed more => ?_, [], _, rfl⟩
    have htext : (group (letters body nil) rest).text ++ more =
        '\x7b' :: (body.map Subtype.val ++ '\x7d' :: (rest.text ++ more)) := by
      simp [text, text_letters]
    rw [htext, findGroup?_opening, groupAt?_closing, List.append_nil]
    rfl
  | char c _ ih =>
    obtain ⟨before, after, htext, hfind, cs, tail, hopening⟩ := ih
    refine ⟨c.val :: before, after, fun option => congrArg (c.val :: ·) (htext option),
      fun passed rest => ?_, c :: cs, tail, congrArg (c.val :: ·) hopening⟩
    rw [text, List.cons_append, findGroup?_letter, hfind, List.reverse_cons, List.append_assoc]
    rfl
  | @inner inside with_ rest _ ih =>
    obtain ⟨before, after, htext, hfind, cs, tail, hopening⟩ := ih
    refine ⟨'\x7b' :: before, after ++ '\x7d' :: rest.text, fun option => ?_, fun passed more => ?_,
      [], _, rfl⟩
    · rw [text, htext]
      simp
    · have htext : (group inside rest).text ++ more =
          '\x7b' :: (inside.text ++ ('\x7d' :: rest.text ++ more)) := by simp [text]
      -- The outer group is passed by, since a group opens in it.
      have houter : groupAt? passed.reverse (inside.text ++ ('\x7d' :: rest.text ++ more)) =
          none := by
        rw [hopening, List.append_assoc, List.cons_append, groupAt?_opening]
      rw [htext, findGroup?_opening, houter, Option.none_or, hfind]
      simp

end Nested

/-! ## Rounds -/

/-- A group that is found is in the text, and no brace in it. -/
structure Group.StandsIn (group : Group) (chars : List Char) : Prop where
  text : chars = group.before ++ '\x7b' :: group.body ++ '\x7d' :: group.after
  body : ∀ c ∈ group.body, isBrace c = false

theorem groupAt?_standsIn {before rest : List Char} {group : Group}
    (h : groupAt? before rest = some group) : group.StandsIn (before ++ '\x7b' :: rest) := by
  rw [groupAt?] at h
  split at h
  · rename_i after hafter
    obtain rfl := Option.some.inj h
    have hsplit := List.takeWhile_append_dropWhile (p := (!isBrace ·)) (l := rest)
    rw [hafter] at hsplit
    exact ⟨by simp [hsplit], fun c hc => by simpa using List.mem_takeWhile_imp hc⟩
  · cases h

theorem findGroup?_standsIn {passed chars : List Char} {group : Group}
    (h : findGroup? passed chars = some group) : group.StandsIn (passed.reverse ++ chars) := by
  induction chars generalizing passed with
  | nil => cases h
  | cons c rest ih =>
    rw [findGroup?] at h
    split at h
    · rename_i hfound
      obtain rfl := Option.some.inj h
      split at hfound
      · rename_i hc
        rw [eq_of_beq hc]
        exact groupAt?_standsIn hfound
      · cases hfound
    · simpa using ih h

/-- A round takes one opening brace away. -/
theorem Group.StandsIn.count_lt {group : Group} {chars option : List Char}
    (h : group.StandsIn chars) (hoption : option ∈ group.body.splitOn ',') :
    (group.before ++ option ++ group.after).count '\x7b' < chars.count '\x7b' := by
  have hnone : option.count '\x7b' = 0 := by
    refine List.count_eq_zero.mpr fun hmem => ?_
    have hbrace := h.body _ (Text.mem_of_mem_splitOn hoption hmem)
    contradiction
  rw [h.text]
  simp only [List.count_append, List.count_cons, hnone, beq_self_eq_true, if_true]
  omega

/-- Without a group nothing is replaced. -/
theorem expandRounds_of_none {pattern : List Char} (h : findGroup? [] pattern = none)
    (rounds : Nat) : expandRounds rounds pattern = [pattern] := by
  cases rounds with
  | zero => rfl
  | succ rounds => rw [expandRounds, h]

/-- **So the rounds suffice**: with more of them nothing else comes out. -/
theorem expandRounds_add {rounds : Nat} {pattern : List Char}
    (h : pattern.count '\x7b' ≤ rounds) (more : Nat) :
    expandRounds (rounds + more) pattern = expandRounds rounds pattern := by
  induction rounds generalizing pattern with
  | zero =>
    have hnone : findGroup? [] pattern = none := by
      refine Option.eq_none_iff_forall_ne_some.mpr fun group hgroup => ?_
      have htext := (findGroup?_standsIn hgroup).text
      rw [List.reverse_nil, List.nil_append] at htext
      have hmem : '\x7b' ∈ pattern := by simp [htext]
      exact absurd (List.count_pos_iff.mpr hmem) (by omega)
    rw [expandRounds_of_none hnone, expandRounds_of_none hnone]
  | succ rounds ih =>
    rw [Nat.add_right_comm, expandRounds, expandRounds]
    cases hgroup : findGroup? [] pattern with
    | none => rfl
    | some group =>
      refine List.flatMap_congr fun option hoption => ih ?_
      have hless := (findGroup?_standsIn hgroup).count_lt hoption
      rw [List.reverse_nil, List.nil_append] at hless
      omega

/-- **Expansion replaces the first group by each of its options and expands again.** -/
theorem expand_of_some {pattern : List Char} {group : Group}
    (h : findGroup? [] pattern = some group) : expand pattern =
      (group.body.splitOn ',').flatMap fun option =>
        expand (group.before ++ option ++ group.after) := by
  have hstands := findGroup?_standsIn h
  rw [List.reverse_nil, List.nil_append] at hstands
  have hmore := expandRounds_add (Nat.le_refl (pattern.count '\x7b')) 1
  rw [expand, ← hmore, expandRounds, h]
  refine List.flatMap_congr fun option hoption => ?_
  have hless := hstands.count_lt hoption
  rw [expand, ← expandRounds_add (Nat.le_refl _) (pattern.count '\x7b' - _),
    Nat.add_sub_cancel' (Nat.le_of_lt hless)]

/-! ## Expansion -/

/-- Options are cut from the characters as from the letters. -/
theorem splitOn_map_letters (body : List Letter) :
    (body.map Subtype.val).splitOn ',' = (body.splitOn comma).map (List.map Subtype.val) := by
  induction body with
  | nil => rfl
  | cons c body ih =>
    obtain ⟨first, others, hsplit⟩ := List.exists_cons_of_ne_nil (List.splitOn_ne_nil comma body)
    have hcomma : (c.val == ',') = (c == comma) := rfl
    rw [List.map_cons, List.splitOn_cons_eq_if_modifyHead, List.splitOn_cons_eq_if_modifyHead, ih,
      hsplit, hcomma]
    split <;> rfl

namespace Nested

variable {body : List Letter} {p : Nested} {with_ : List Letter → Nested}

/-- **Expansion replaces the first group of letters**, whatever follows the pattern. -/
theorem Replaces.expand_append (h : Replaces body p with_) (rest : List Char) :
    expand (p.text ++ rest) = (body.splitOn comma).flatMap fun option =>
      expand ((with_ option).text ++ rest) := by
  obtain ⟨before, after, htext, hfind, -⟩ := h.exists_text
  rw [expand_of_some (hfind [] rest), splitOn_map_letters, List.flatMap_map]
  refine List.flatMap_congr fun option _ => ?_
  rw [htext, List.reverse_nil, List.nil_append, List.append_assoc _ after]

/-- Each option takes an opening brace away. -/
theorem Replaces.count_lt (h : Replaces body p with_) {option : List Letter}
    (hoption : option ∈ body.splitOn comma) :
    (with_ option).text.count '\x7b' < p.text.count '\x7b' := by
  obtain ⟨before, after, htext, hfind, -⟩ := h.exists_text
  have hgroup := hfind [] []
  rw [List.append_nil, List.append_nil, List.reverse_nil, List.nil_append] at hgroup
  have hmem : option.map Subtype.val ∈ (body.map Subtype.val).splitOn ',' := by
    rw [splitOn_map_letters]
    exact List.mem_map_of_mem hoption
  rw [htext]
  exact (findGroup?_standsIn hgroup).count_lt hmem

end Nested

/-- **Expansion comes to what the pattern denotes.** -/
theorem mem_expand_iff_denotes {p : Nested} {s : List Char} :
    s ∈ expand p.text ↔ p.Denotes s := by
  -- On the number of groups, which each replacement makes smaller.
  induction hcount : p.text.count '\x7b' using Nat.strong_induction_on generalizing p with
  | _ n ih =>
    rcases p.eq_letters_or_replaces with ⟨cs, rfl⟩ | ⟨body, with_, hp⟩
    · rw [expand, expandRounds_of_none (Nested.findGroup?_letters cs []), List.mem_singleton,
        Nested.denotes_letters_nil_iff, Nested.text_letters, Nested.text, List.append_nil]
    · have hexpand := hp.expand_append []
      simp only [List.append_nil] at hexpand
      rw [hexpand, hp.denotes_iff, List.mem_flatMap]
      refine exists_congr fun option => and_congr_right fun hoption => ?_
      exact ih _ (hcount ▸ hp.count_lt hoption) rfl

/-- **Expansion of balanced braces is what they denote.** The rounds suffice, no brace is left, and
the pattern can be read; whatever it is read as denotes just the strings that come out. -/
theorem expand_denotes (pattern : List Char) (h : IsBalanced pattern) :
    (∀ more, expandRounds (pattern.count '\x7b' + more) pattern = expand pattern) ∧
      (∀ s ∈ expand pattern, ∀ c ∈ s, isBrace c = false) ∧
      (∃ p : Nested, p.text = pattern) ∧
      ∀ p : Nested, p.text = pattern → ∀ s, s ∈ expand pattern ↔ p.Denotes s := by
  obtain ⟨p, rfl⟩ := Nested.isBalanced_iff.mp h
  refine ⟨expandRounds_add (Nat.le_refl _), fun s hs => ?_, ⟨p, rfl⟩, fun q hq s => ?_⟩
  · exact (mem_expand_iff_denotes.mp hs).noBrace
  · rw [← hq]
    exact mem_expand_iff_denotes

/-- A group is part of its alternative, with what follows it there. -/
theorem nested_group_denotes : IsBalanced "\x7ba,\x7bb,c\x7dd\x7d".toList ∧
    ∃ p : Nested, p.text = "\x7ba,\x7bb,c\x7dd\x7d".toList ∧ p.Denotes "cd".toList := by
  have hbalanced : IsBalanced "\x7ba,\x7bb,c\x7dd\x7d".toList := by decide
  obtain ⟨-, -, ⟨p, hp⟩, hdenotes⟩ := expand_denotes _ hbalanced
  exact ⟨hbalanced, p, hp, (hdenotes p hp _).mp (by decide)⟩

end Preflight.Glob
