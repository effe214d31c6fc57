import Preflight.Proofs.Disk.Path
import Preflight.Proofs.Glob.Matching

/-!
# Where patterns end

A pattern that ends in plain characters matches only paths that end in them
(`suffix_of_matchesTokens`), and these are the ends of names (`suffix_last_of_suffix_intercalate`).
So a pattern of source files matches nothing but files whose names end as those of source files do
(`endsAsSource_of_isMatch`).
-/

set_option autoImplicit false

namespace Preflight.Glob

/-! ## Ends of paths -/

/-- Plain characters match themselves, and the tokens behind them what follows. -/
theorem matchesTokens_chars_append_iff {tokens : List Token} (chars : List Char) :
    ∀ {path : List Char}, matchesTokens (chars.map .char ++ tokens) path = true ↔
      ∃ rest, path = chars ++ rest ∧ matchesTokens tokens rest = true := by
  induction chars with
  | nil => simp
  | cons c chars ih =>
    intro path
    rw [List.map_cons, List.cons_append, matchesTokens_cons_iff]
    constructor
    · rintro ⟨_, _, rfl, rfl, hmatch⟩
      obtain ⟨rest, rfl, hrest⟩ := ih.mp hmatch
      exact ⟨rest, rfl, hrest⟩
    · rintro ⟨rest, rfl, hrest⟩
      exact ⟨[c], chars ++ rest, rfl, rfl, ih.mpr ⟨rest, rfl, hrest⟩⟩

/-- Nothing but plain characters match themselves only. -/
theorem matchesTokens_chars_iff {chars path : List Char} :
    matchesTokens (chars.map .char) path = true ↔ path = chars := by
  have h : matchesTokens (chars.map .char ++ []) path = true ↔
      ∃ rest, path = chars ++ rest ∧ matchesTokens [] rest = true :=
    matchesTokens_chars_append_iff chars
  rw [List.append_nil] at h
  rw [h]
  simp [matchesTokens]

/-- **What a pattern ends in, its matches end in.** -/
theorem suffix_of_matchesTokens {ending : List Char} (front : List Token) : ∀ {path : List Char},
    matchesTokens (front ++ ending.map .char) path = true → ending <:+ path := by
  induction front with
  | nil =>
    intro path h
    obtain rfl := matchesTokens_chars_iff.mp h
    exact List.suffix_rfl
  | cons token front ih =>
    intro path h
    obtain ⟨part, rest, -, rfl, hmatch⟩ := matchesTokens_cons_iff.mp h
    exact (ih hmatch).trans (List.suffix_append part rest)

/-- Names between slashes end in the last name, alone or behind a slash. -/
theorem intercalate_last (name : String) (names : List String) : ∃ front,
    ['/'].intercalate ((name :: names).map String.toList) =
      front ++ ((name :: names).getLastD "").toList ∧ (front = [] ∨ ['/'] <:+ front) := by
  induction names generalizing name with
  | nil => exact ⟨[], by simp [List.intercalate], .inl rfl⟩
  | cons next rest ih =>
    obtain ⟨front, hfront, hend⟩ := ih next
    refine ⟨name.toList ++ '/' :: front, ?_, .inr ?_⟩
    · have hcons : ['/'].intercalate ((name :: next :: rest).map String.toList) =
          name.toList ++ '/' :: ['/'].intercalate ((next :: rest).map String.toList) := by
        simp [List.intercalate]
      rw [hcons, hfront]
      simp
    · obtain rfl | hend := hend
      · exact List.suffix_append _ _
      · exact (hend.trans (List.suffix_cons _ _)).trans (List.suffix_append _ _)

/-- An ending without a slash is the ending of the last name. -/
theorem suffix_last_of_suffix_intercalate {ending : List Char} (hslash : '/' ∉ ending)
    (names : List String) (h : ending <:+ (String.intercalate "/" names).toList) :
    ending <:+ (names.getLastD "").toList := by
  cases names with
  | nil => exact h
  | cons name names =>
    rw [Path.toList_intercalate_names] at h
    obtain ⟨front, hfront, rfl | ⟨before, rfl⟩⟩ := intercalate_last name names
    · rwa [hfront] at h
    · rw [hfront, List.append_assoc] at h
      obtain h | h := List.suffix_or_suffix_of_suffix h (List.suffix_append _ _)
      · obtain heq | h := List.suffix_cons_iff.mp h
        · exact absurd (heq ▸ List.mem_cons_self) hslash
        · exact h
      · exact absurd (h.subset List.mem_cons_self) hslash

/-! ## Source files -/

/-- The endings of the names of source files. -/
def sourceEndings : List String := [".js", ".ts", ".jsx", ".tsx", ".sql"]

/-- The name ends as that of a source file. -/
def EndsAsSource (name : String) : Prop :=
  ∃ ending ∈ sourceEndings, ending.toList <:+ name.toList

instance : DecidablePred EndsAsSource := fun name =>
  inferInstanceAs (Decidable (∃ ending ∈ sourceEndings, ending.toList <:+ name.toList))

/-- Every alternative of the pattern ends as the name of a source file. -/
def isOfSources (g : Glob) : Bool :=
  g.alternatives.all fun tokens =>
    sourceEndings.any fun ending => (ending.toList.map .char).isSuffixOf tokens

/-- **A pattern of source files matches source files only.** -/
theorem endsAsSource_of_isMatch {g : Glob} (hg : g.isOfSources = true) {names : List String}
    (h : g.isMatch (String.intercalate "/" names) = true) :
    EndsAsSource (names.getLastD "") := by
  obtain ⟨tokens, htokens, hmatch⟩ := List.any_eq_true.mp h
  obtain ⟨ending, hending, hsuffix⟩ := List.any_eq_true.mp (List.all_eq_true.mp hg tokens htokens)
  obtain ⟨front, rfl⟩ := List.isSuffixOf_iff_suffix.mp hsuffix
  have hslash : ∀ ending ∈ sourceEndings, '/' ∉ ending.toList := by decide
  exact ⟨ending, hending, suffix_last_of_suffix_intercalate (hslash ending hending) names
    (suffix_of_matchesTokens front hmatch)⟩

end Preflight.Glob
