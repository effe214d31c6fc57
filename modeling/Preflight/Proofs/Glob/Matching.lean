import Preflight.Glob.Basic

/-!
# What file patterns match

`Reads` says on the characters of a pattern what it stands for: the pattern is read from left to
right, the longest token first, and each token stands for a part of the path, which is used up as a
whole. Matching decides it (`matchesTokens_tokens_iff`): the search tries every end that a part can
have, and these are all ends and no others (`mem_ends_iff`). So a pattern with groups selects the
paths that one of its alternatives stands for (`select_eq_filter`).
-/

set_option autoImplicit false

namespace Preflight.Glob

/-! ## Tokens -/

/-- A name of a directory on a path: some characters, none of them a slash. -/
def IsSegment (name : List Char) : Prop := name ≠ [] ∧ '/' ∉ name

/-- The names with a slash behind each. -/
def directoryPath (names : List (List Char)) : List Char := names.flatMap (· ++ ['/'])

/-- What a token stands for. -/
def Token.StandsFor : Token → List Char → Prop
  | .directories, part => ∃ names, (∀ name ∈ names, IsSegment name) ∧ part = directoryPath names
  | .anything, part => '\n' ∉ part
  | .anyName, part => '/' ∉ part
  | .anyChar, part => ∃ c, c ≠ '/' ∧ part = [c]
  | .char c, part => part = [c]

/-- What is left after a run of characters of a set. -/
theorem mem_runEnds_iff {set : Char → Bool} {path rest : List Char} :
    rest ∈ runEnds set path ↔ ∃ run, (∀ c ∈ run, set c = true) ∧ path = run ++ rest := by
  induction path with
  | nil =>
    rw [runEnds, List.mem_singleton]
    exact ⟨fun h => ⟨[], nofun, h.symm⟩, fun ⟨_, _, h⟩ => (List.append_eq_nil_iff.mp h.symm).2⟩
  | cons c path ih =>
    unfold runEnds
    rw [List.mem_cons]
    constructor
    · rintro (rfl | h)
      · exact ⟨[], by simp, rfl⟩
      · split at h
        · rename_i hc
          obtain ⟨run, hrun, rfl⟩ := ih.mp h
          exact ⟨c :: run, by simpa [hc] using hrun, rfl⟩
        · cases h
    · rintro ⟨run, hrun, heq⟩
      cases run with
      | nil => exact .inl heq.symm
      | cons d run =>
        obtain ⟨rfl, rfl⟩ := List.cons.inj heq
        obtain ⟨hc, hrun⟩ := List.forall_mem_cons.mp hrun
        rw [if_pos hc]
        exact .inr (ih.mpr ⟨run, hrun, rfl⟩)

/-- What is left after a run without a character. -/
theorem mem_runEnds_ne_iff {stop : Char} {path rest : List Char} :
    rest ∈ runEnds (· != stop) path ↔ ∃ run, stop ∉ run ∧ path = run ++ rest := by
  have hset : ∀ run : List Char, (∀ c ∈ run, (c != stop) = true) ↔ stop ∉ run := fun run => by
    simp only [bne_iff_ne, ne_eq]
    exact ⟨fun h hmem => h stop hmem rfl, fun h c hc heq => h (heq ▸ hc)⟩
  simp only [mem_runEnds_iff, hset]

/-- What is left after one directory or more. The first of them may have begun before the path; if
it has not, it begins with the path. -/
theorem mem_directoryEnds_iff {path rest : List Char} : ∀ {named : Bool},
    rest ∈ directoryEnds named path ↔ ∃ name names, (named = false → name ≠ []) ∧ '/' ∉ name ∧
      (∀ other ∈ names, IsSegment other) ∧ path = name ++ '/' :: directoryPath names ++ rest := by
  induction path with
  | nil => simp [directoryEnds]
  | cons c path ih =>
    intro named
    unfold directoryEnds
    by_cases hc : c = '/'
    · subst hc
      rw [if_pos (beq_self_eq_true '/')]
      -- the slash ends the name that has begun; without one there is no directory here
      cases named with
      | false =>
        refine iff_of_false (List.not_mem_nil) ?_
        rintro ⟨name, names, hsome, hslash, -, heq⟩
        obtain ⟨d, name, rfl⟩ := List.exists_cons_of_ne_nil (hsome rfl)
        cases heq
        exact hslash List.mem_cons_self
      | true =>
        rw [if_pos rfl, List.mem_cons, ih]
        constructor
        · rintro (rfl | ⟨name, names, hsome, hslash, hnames, rfl⟩)
          · exact ⟨[], [], nofun, List.not_mem_nil, nofun, rfl⟩
          · refine ⟨[], name :: names, nofun, List.not_mem_nil, ?_, ?_⟩
            · exact List.forall_mem_cons.mpr ⟨⟨hsome rfl, hslash⟩, hnames⟩
            · simp [directoryPath]
        · rintro ⟨name, names, -, hslash, hnames, heq⟩
          cases name with
          | cons d name =>
            cases heq
            exact absurd List.mem_cons_self hslash
          | nil =>
            cases names with
            | nil =>
              cases heq
              exact .inl rfl
            | cons name names =>
              obtain ⟨⟨hsome, hslash⟩, hnames⟩ := List.forall_mem_cons.mp hnames
              refine .inr ⟨name, names, fun _ => hsome, hslash, hnames, ?_⟩
              simpa [directoryPath] using heq
    · rw [if_neg (by simpa using hc), ih]
      constructor
      · rintro ⟨name, names, -, hslash, hnames, rfl⟩
        refine ⟨c :: name, names, fun _ => List.cons_ne_nil _ _, ?_, hnames, rfl⟩
        exact List.not_mem_cons_of_ne_of_not_mem (Ne.symm hc) hslash
      · rintro ⟨name, names, -, hslash, hnames, heq⟩
        cases name with
        | nil => exact absurd (List.cons.inj heq).1 hc
        | cons d name =>
          obtain ⟨rfl, rfl⟩ := List.cons.inj heq
          exact ⟨name, names, nofun, List.not_mem_of_not_mem_cons hslash, hnames, rfl⟩

/-- **The ends that are tried are those that there are**: the path without a part that the token
stands for. -/
theorem mem_ends_iff {token : Token} {path rest : List Char} :
    rest ∈ token.ends path ↔ ∃ part, token.StandsFor part ∧ path = part ++ rest := by
  cases token with
  | directories =>
    show rest ∈ path :: directoryEnds false path ↔ _
    rw [List.mem_cons, mem_directoryEnds_iff]
    constructor
    · rintro (rfl | ⟨name, names, hsome, hslash, hnames, rfl⟩)
      · exact ⟨[], ⟨[], nofun, rfl⟩, rfl⟩
      · refine ⟨_, ⟨name :: names, ?_, rfl⟩, by simp [directoryPath]⟩
        exact List.forall_mem_cons.mpr ⟨⟨hsome rfl, hslash⟩, hnames⟩
    · rintro ⟨_, ⟨names, hnames, rfl⟩, rfl⟩
      cases names with
      | nil => exact .inl rfl
      | cons name names =>
        obtain ⟨⟨hsome, hslash⟩, hnames⟩ := List.forall_mem_cons.mp hnames
        exact .inr ⟨name, names, fun _ => hsome, hslash, hnames, by simp [directoryPath]⟩
  | anything => exact mem_runEnds_ne_iff
  | anyName => exact mem_runEnds_ne_iff
  | anyChar =>
    constructor
    · intro h
      cases path with
      | nil => cases h
      | cons c path =>
        simp only [Token.ends] at h
        split at h
        · cases h
        · rename_i hc
          rw [List.mem_singleton.mp h]
          exact ⟨[c], ⟨c, by simpa using hc, rfl⟩, rfl⟩
    · rintro ⟨_, ⟨c, hc, rfl⟩, rfl⟩
      simp [Token.ends, hc]
  | char c =>
    constructor
    · intro h
      cases path with
      | nil => cases h
      | cons d path =>
        simp only [Token.ends] at h
        split at h
        · rename_i hd
          rw [List.mem_singleton.mp h, ← beq_iff_eq.mp hd]
          exact ⟨[c], rfl, rfl⟩
        · cases h
    · rintro ⟨_, rfl, rfl⟩
      simp [Token.ends]

/-- A token and more tokens match a path that starts with a part for the token and goes on with a
path that the others match. -/
theorem matchesTokens_cons_iff {token : Token} {tokens : List Token} {path : List Char} :
    matchesTokens (token :: tokens) path = true ↔ ∃ part rest, token.StandsFor part ∧
      path = part ++ rest ∧ matchesTokens tokens rest = true := by
  rw [matchesTokens, List.any_eq_true]
  constructor
  · rintro ⟨rest, hrest, hmatch⟩
    obtain ⟨part, hpart, heq⟩ := mem_ends_iff.mp hrest
    exact ⟨part, rest, hpart, heq, hmatch⟩
  · rintro ⟨part, rest, hpart, heq, hmatch⟩
    exact ⟨rest, mem_ends_iff.mpr ⟨part, hpart, heq⟩, hmatch⟩

/-! ## Patterns -/

/-- The pattern, without groups, stands for the path: it is read from left to right, the longest
token first. -/
inductive Reads : (pattern path : List Char) → Prop
  | done : Reads [] []
  /-- `**/` stands for any number of directories, each with its slash. -/
  | directories {pattern path : List Char} {names : List (List Char)} :
      (∀ name ∈ names, IsSegment name) → Reads pattern path →
        Reads ('*' :: '*' :: '/' :: pattern) (directoryPath names ++ path)
  /-- `**` stands for a run of characters within a line. -/
  | anything {pattern path run : List Char} :
      pattern.head? ≠ some '/' → '\n' ∉ run → Reads pattern path →
        Reads ('*' :: '*' :: pattern) (run ++ path)
  /-- `*` stands for a run of characters within a name. -/
  | anyName {pattern path run : List Char} :
      pattern.head? ≠ some '*' → '/' ∉ run → Reads pattern path →
        Reads ('*' :: pattern) (run ++ path)
  /-- `?` stands for one character of a name. -/
  | anyChar {pattern path : List Char} {c : Char} :
      c ≠ '/' → Reads pattern path → Reads ('?' :: pattern) (c :: path)
  /-- Any other character stands for itself. -/
  | char {pattern path : List Char} {c : Char} :
      c ≠ '*' → c ≠ '?' → Reads pattern path → Reads (c :: pattern) (c :: path)

/-- Two stars without a slash behind them are a token. -/
theorem tokens_anything {pattern : List Char} (h : pattern.head? ≠ some '/') :
    tokens ('*' :: '*' :: pattern) = .anything :: tokens pattern := by
  rw [tokens]
  rintro after rfl
  exact h rfl

/-- A star without another behind it is a token. -/
theorem tokens_anyName {pattern : List Char} (h : pattern.head? ≠ some '*') :
    tokens ('*' :: pattern) = .anyName :: tokens pattern := by
  rw [tokens]
  all_goals
    rintro after rfl
    exact h rfl

/-- A character that is no sign is a token. -/
theorem tokens_char {c : Char} (hstar : c ≠ '*') (hmark : c ≠ '?') (pattern : List Char) :
    tokens (c :: pattern) = .char c :: tokens pattern := by
  rw [tokens]
  · exact fun _ h _ => hstar h
  · exact fun _ h _ => hstar h
  · exact hstar
  · exact hmark

/-- **Matching the tokens of a pattern decides what it stands for.** -/
theorem matchesTokens_tokens_iff {pattern path : List Char} :
    matchesTokens (tokens pattern) path = true ↔ Reads pattern path := by
  constructor
  · intro h
    fun_induction tokens pattern generalizing path with
    | case1 pattern ih =>
      obtain ⟨_, rest, ⟨names, hnames, rfl⟩, rfl, hmatch⟩ := matchesTokens_cons_iff.mp h
      exact .directories hnames (ih hmatch)
    | case2 pattern hslash ih =>
      obtain ⟨run, rest, hrun, rfl, hmatch⟩ := matchesTokens_cons_iff.mp h
      refine .anything (fun hhead => ?_) hrun (ih hmatch)
      obtain ⟨after, rfl⟩ := List.head?_eq_some_iff.mp hhead
      exact hslash after rfl
    | case3 pattern _ hstar ih =>
      obtain ⟨run, rest, hrun, rfl, hmatch⟩ := matchesTokens_cons_iff.mp h
      refine .anyName (fun hhead => ?_) hrun (ih hmatch)
      obtain ⟨after, rfl⟩ := List.head?_eq_some_iff.mp hhead
      exact hstar after rfl
    | case4 pattern ih =>
      obtain ⟨_, rest, ⟨c, hc, rfl⟩, rfl, hmatch⟩ := matchesTokens_cons_iff.mp h
      exact .anyChar hc (ih hmatch)
    | case5 c pattern _ _ hstar hmark ih =>
      obtain ⟨_, rest, rfl, rfl, hmatch⟩ := matchesTokens_cons_iff.mp h
      exact .char hstar hmark (ih hmatch)
    | case6 =>
      rw [matchesTokens, List.isEmpty_iff] at h
      exact h ▸ .done
  · intro h
    induction h with
    | done => rfl
    | directories hnames _ ih =>
      exact matchesTokens_cons_iff.mpr ⟨_, _, ⟨_, hnames, rfl⟩, rfl, ih⟩
    | anything hslash hrun _ ih =>
      rw [tokens_anything hslash]
      exact matchesTokens_cons_iff.mpr ⟨_, _, hrun, rfl, ih⟩
    | anyName hstar hrun _ ih =>
      rw [tokens_anyName hstar]
      exact matchesTokens_cons_iff.mpr ⟨_, _, hrun, rfl, ih⟩
    | anyChar hc _ ih => exact matchesTokens_cons_iff.mpr ⟨_, _, ⟨_, hc, rfl⟩, rfl, ih⟩
    | char hstar hmark _ ih =>
      rw [tokens_char hstar hmark]
      exact matchesTokens_cons_iff.mpr ⟨_, _, rfl, rfl, ih⟩

instance {pattern path : List Char} : Decidable (Reads pattern path) :=
  decidable_of_iff _ matchesTokens_tokens_iff

/-- **What a pattern selects**: of the paths, in their order and as often as they are there, those
that one of its alternatives stands for. -/
theorem select_eq_filter (pattern : String) (paths : List String) :
    select pattern paths = paths.filter fun path =>
      decide (∃ alternative ∈ expand pattern.toList, Reads alternative path.toList) := by
  refine List.filter_congr fun path _ => Bool.eq_iff_iff.mpr ?_
  rw [isMatch, ofString, List.any_map, List.any_eq_true, decide_eq_true_iff]
  exact exists_congr fun alternative => and_congr_right fun _ => matchesTokens_tokens_iff

/-- Characters that mean something elsewhere stand for themselves. -/
example : select "**/{a+b,[c]}.?s" ["x/a+b.js", "aab.js", "[c].ts", "x/a+b.js", "c.ts"] =
    ["x/a+b.js", "[c].ts", "x/a+b.js"] := by decide +kernel

end Preflight.Glob
