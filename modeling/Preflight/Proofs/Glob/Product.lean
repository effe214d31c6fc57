import Preflight.Proofs.Glob.Braces

/-!
# Patterns one after the other

What a balanced pattern in front of another one expands to does not depend on what follows: the
expansion of the two is every string of the first in front of every string of the second, each as
often as it comes out, and in their order (`expand_append_of_isBalanced`). The pattern behind need
not be balanced, since no brace of it finds its partner in front.

Expansion starts in front, and the groups there are all put away before one behind is found. So the
order of the strings in front is the outer one.
-/

set_option autoImplicit false

namespace Preflight.Glob

/-! ## Letters in front -/

/-- What was passed stands in front of the group that is found. -/
theorem findGroup?_passed (passed chars : List Char) :
    findGroup? passed chars = (findGroup? [] chars).map fun group =>
      { group with before := passed.reverse ++ group.before } := by
  have hgroupAt (before rest : List Char) : groupAt? before rest =
      (groupAt? [] rest).map fun group => { group with before := before ++ group.before } := by
    unfold groupAt?
    split
    · simp
    · rfl
  induction chars generalizing passed with
  | nil => rfl
  | cons c rest ih =>
    by_cases hopening : c = '\x7b'
    · subst hopening
      rw [findGroup?_opening, findGroup?_opening, hgroupAt, ih ('\x7b' :: passed), ih ['\x7b'],
        List.reverse_nil]
      cases groupAt? [] rest <;> simp [Function.comp_def]
    · have hstep (passed : List Char) :
          findGroup? passed (c :: rest) = findGroup? (c :: passed) rest := by
        rw [findGroup?, if_neg (by simpa using hopening)]
      rw [hstep, hstep, ih (c :: passed), ih [c]]
      simp [Function.comp_def]

/-- Letters go by, and stand in front of the group that is found. -/
theorem findGroup?_letters_append (cs : List Letter) (rest : List Char) :
    findGroup? [] (cs.map Subtype.val ++ rest) = (findGroup? [] rest).map fun group =>
      { group with before := cs.map Subtype.val ++ group.before } := by
  have hpass (passed : List Char) : findGroup? passed (cs.map Subtype.val ++ rest) =
      findGroup? ((cs.map Subtype.val).reverse ++ passed) rest := by
    induction cs generalizing passed with
    | nil => rfl
    | cons c cs ih =>
      rw [List.map_cons, List.cons_append, findGroup?_letter, ih, List.reverse_cons,
        List.append_assoc, List.singleton_append]
  rw [hpass, List.append_nil, findGroup?_passed, List.reverse_reverse]

/-- **Letters stay in front** of whatever the rest expands to. -/
theorem expand_letters_append (cs : List Letter) (rest : List Char) :
    expand (cs.map Subtype.val ++ rest) = (expand rest).map (cs.map Subtype.val ++ ·) := by
  -- On the number of groups, which each replacement makes smaller.
  induction hcount : rest.count '\x7b' using Nat.strong_induction_on generalizing rest with
  | _ n ih =>
    have hfound := findGroup?_letters_append cs rest
    cases hgroup : findGroup? [] rest with
    | none =>
      rw [hgroup, Option.map_none] at hfound
      rw [expand, expand, expandRounds_of_none hfound, expandRounds_of_none hgroup]
      rfl
    | some group =>
      have hstands := findGroup?_standsIn hgroup
      rw [List.reverse_nil, List.nil_append] at hstands
      rw [hgroup, Option.map_some] at hfound
      rw [expand_of_some hfound, expand_of_some hgroup, List.map_flatMap]
      refine List.flatMap_congr fun option hoption => ?_
      have hrest := ih _ (hcount ▸ hstands.count_lt hoption) _ rfl
      rw [← hrest]
      simp only [List.append_assoc]

/-! ## Patterns in front -/

/-- A pattern in front is expanded on its own. -/
theorem Nested.expand_text_append (p : Nested) (rest : List Char) :
    expand (p.text ++ rest) =
      (expand p.text).flatMap fun front => (expand rest).map (front ++ ·) := by
  induction hcount : p.text.count '\x7b' using Nat.strong_induction_on generalizing p with
  | _ n ih =>
    rcases p.eq_letters_or_replaces with ⟨cs, rfl⟩ | ⟨body, with_, hp⟩
    · have hletters : expand (letters cs nil).text = [cs.map Subtype.val] := by
        rw [expand, expandRounds_of_none (findGroup?_letters cs []), text_letters, text,
          List.append_nil]
      rw [hletters, List.flatMap_singleton, text_letters, text, List.append_nil,
        expand_letters_append]
    · have halone := hp.expand_append []
      simp only [List.append_nil] at halone
      rw [hp.expand_append rest, halone, List.flatMap_assoc]
      refine List.flatMap_congr fun option hoption => ?_
      exact ih _ (hcount ▸ hp.count_lt hoption) _ rfl

/-- **Expansion of patterns one after the other is the product in order**, if the first has balanced
braces: each string of the first, in turn, in front of each string of the second, in turn. -/
theorem expand_append_of_isBalanced (p q : List Char) (h : IsBalanced p) :
    expand (p ++ q) = (expand p).flatMap fun front => (expand q).map fun back => front ++ back := by
  obtain ⟨nested, rfl⟩ := Nested.isBalanced_iff.mp h
  exact nested.expand_text_append q

/-- Strings that come out twice do so in the product, and the stray braces behind stay there. -/
theorem stray_braces_stay_behind : IsBalanced "\x7b\x7ba,b\x7d,\x7da".toList ∧
    expand ("\x7b\x7ba,b\x7d,\x7da".toList ++ "\x7d\x7bc,d\x7d\x7b".toList) =
      ["aa\x7dc\x7b", "aa\x7dd\x7b", "a\x7dc\x7b", "a\x7dd\x7b",
       "ba\x7dc\x7b", "ba\x7dd\x7b", "a\x7dc\x7b", "a\x7dd\x7b"].map String.toList := by
  have hbalanced : IsBalanced "\x7b\x7ba,b\x7d,\x7da".toList := by decide
  refine ⟨hbalanced, ?_⟩
  rw [expand_append_of_isBalanced _ _ hbalanced]
  decide

end Preflight.Glob
