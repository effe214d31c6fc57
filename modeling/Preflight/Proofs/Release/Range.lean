import Preflight.Proofs.Release.Reading

/-!
# Version ranges

A range is comparators with single spaces between them, and admits the versions that all of them
admit (`Range.Admits`). What is read of it is the version of its first comparator
(`Range.declared?_text_cases`). That is a lower bound of what the range admits, unless the first
comparator is an upper bound, and then so is what is read (`Operator.not_before_of_admits`,
`Operator.not_above_of_admits`).

Versions are releases of three numbers. Pre-releases are left out: a range without one admits none.
-/

set_option autoImplicit false

namespace Preflight.Release

/-! ## Versions -/

/-- A release of three numbers. -/
structure Version where
  major : Nat
  minor : Nat
  patch : Nat
  deriving DecidableEq

namespace Version

variable {v w : Version}

/-- The numbers in order. -/
def parts (v : Version) : List Nat := [v.major, v.minor, v.patch]

/-- The first number that differs is less. -/
def Before (v w : Version) : Prop :=
  v.major < w.major ∨ v.major = w.major ∧
    (v.minor < w.minor ∨ v.minor = w.minor ∧ v.patch < w.patch)

instance : DecidableRel Before := fun v w => by
  unfold Before
  infer_instance

theorem Before.irrefl (v : Version) : ¬ v.Before v := by
  unfold Before
  omega

theorem Before.asymm (h : v.Before w) : ¬ w.Before v := by
  unfold Before at h ⊢
  omega

/-- What is not before a version is not before an earlier one. -/
theorem Before.of_not_before {u : Version} (h : v.Before w) (hu : ¬ v.Before u) : u.Before w := by
  unfold Before at h hu ⊢
  omega

/-- Versions come in the order of their numbers. -/
theorem before_iff_isOlder : v.Before w ↔ IsOlder v.parts w.parts := by
  have hcons (a b : Nat) (as bs : List Nat) : IsOlder (a :: as) (b :: bs) ↔
      a < b ∨ a = b ∧ IsOlder as bs := isOlder_iff_headD_tail
  have hlast : IsOlder [v.patch] [w.patch] ↔ v.patch < w.patch := by
    rw [hcons, or_iff_left fun h => not_isOlder_nil [] h.2]
  rw [parts, parts, hcons, hcons, hlast]
  exact Iff.rfl

/-- The first version that is not compatible with the version: the first number that is not zero
has changed. -/
def caretEnd (v : Version) : Version :=
  if 0 < v.major then ⟨v.major + 1, 0, 0⟩
  else if 0 < v.minor then ⟨0, v.minor + 1, 0⟩
  else ⟨0, 0, v.patch + 1⟩

/-- The first version that is not a patch of the version. -/
def tildeEnd (v : Version) : Version := ⟨v.major, v.minor + 1, 0⟩

end Version

/-! ## Comparators -/

/-- ASCII digits that write a number. -/
structure Numeral where
  digits : List Char
  any : digits ≠ []
  ascii : ∀ c ∈ digits, Text.isAsciiDigit c = true

/-- Digits that are given one by one. -/
def Numeral.ofDigits (first : Char) (rest : List Char)
    (h : (first :: rest).all Text.isAsciiDigit = true) : Numeral where
  digits := first :: rest
  any := List.cons_ne_nil _ _
  ascii := List.all_eq_true.mp h

/-- The number. -/
def Numeral.value (n : Numeral) : Nat := Text.numeral n.digits

/-- What a comparator asks of a version. -/
inductive Operator
  | bare
  | equal
  | caret
  | tilde
  | atLeast
  | above
  | atMost
  | below
  deriving DecidableEq

namespace Operator

/-- How the operator is written. -/
def symbol : Operator → List Char
  | bare => []
  | equal => ['=']
  | caret => ['^']
  | tilde => ['~']
  | atLeast => ['>', '=']
  | above => ['>']
  | atMost => ['<', '=']
  | below => ['<']

/-- The operator bounds versions from above only. -/
def IsUpper (operator : Operator) : Prop := operator = atMost ∨ operator = below

/-- The operator admits the version next to the bound. -/
def Admits (operator : Operator) (bound v : Version) : Prop :=
  match operator with
  | bare | equal => v = bound
  | caret => ¬ v.Before bound ∧ v.Before bound.caretEnd
  | tilde => ¬ v.Before bound ∧ v.Before bound.tildeEnd
  | atLeast => ¬ v.Before bound
  | above => bound.Before v
  | atMost => ¬ bound.Before v
  | below => v.Before bound

variable {operator : Operator} {bound v : Version}

/-- No version below the bound is admitted, unless the bound is an upper one. -/
theorem not_before_of_admits (hop : ¬ operator.IsUpper) (h : operator.Admits bound v) :
    ¬ v.Before bound := by
  cases operator with
  | bare | equal =>
    rw [show v = bound from h]
    exact Version.Before.irrefl bound
  | caret | tilde => exact h.1
  | atLeast => exact h
  | above => exact Version.Before.asymm h
  | atMost => exact absurd (.inl rfl) hop
  | below => exact absurd (.inr rfl) hop

/-- No version above an upper bound is admitted. -/
theorem not_above_of_admits (hop : operator.IsUpper) (h : operator.Admits bound v) :
    ¬ bound.Before v := by
  obtain rfl | rfl := hop
  · exact h
  · exact Version.Before.asymm h

end Operator

/-- An operator and a version. -/
structure Comparator where
  operator : Operator
  major : Numeral
  minor : Numeral
  patch : Numeral

namespace Comparator

/-- The version. -/
def version (c : Comparator) : Version := ⟨c.major.value, c.minor.value, c.patch.value⟩

/-- The digits of its numbers. -/
def runs (c : Comparator) : List (List Char) := [c.major.digits, c.minor.digits, c.patch.digits]

/-- The operator is written in front of the numbers, which have points between them. -/
def text (c : Comparator) : List Char := c.operator.symbol ++ ['.'].intercalate c.runs

/-- The comparator admits the version. -/
def Admits (c : Comparator) (v : Version) : Prop := c.operator.Admits c.version v

theorem digits_runs (c : Comparator) : ∀ digits ∈ c.runs, digits ≠ [] ∧
    ∀ d ∈ digits, Text.isAsciiDigit d = true := by
  intro digits hmem
  simp only [runs, List.mem_cons, List.not_mem_nil, or_false] at hmem
  rcases hmem with rfl | rfl | rfl
  · exact ⟨c.major.any, c.major.ascii⟩
  · exact ⟨c.minor.any, c.minor.ascii⟩
  · exact ⟨c.patch.any, c.patch.ascii⟩

end Comparator

/-! ## Ranges -/

/-- Comparators, at least one. -/
structure Range where
  first : Comparator
  rest : List Comparator

namespace Range

/-- The comparators are written with single spaces between them. -/
def text (r : Range) : String :=
  String.ofList ([' '].intercalate ((r.first :: r.rest).map Comparator.text))

/-- A version is admitted that all comparators admit. -/
def Admits (r : Range) (v : Version) : Prop := ∀ c ∈ r.first :: r.rest, c.Admits v

/-- The first run of numbers is that of the first comparator. -/
theorem isFirstRun_text (r : Range) : IsFirstRun r.text.toList r.first.runs := by
  have hsymbol : ∀ operator : Operator, ∀ c ∈ operator.symbol, Text.isDigit c = false := by
    intro operator c hc
    have hnone : operator.symbol.all (!Text.isDigit ·) = true := by cases operator <;> decide
    simpa using List.all_eq_true.mp hnone c hc
  have hspace : ∀ rest, Ends (' ' :: rest) := fun rest =>
    ⟨fun c more h => by cases h; decide, fun c more h => by cases h⟩
  refine ⟨⟨r.first.operator.symbol, ?_⟩, List.cons_ne_nil _ _, fun digits hmem => ?_⟩
  · rw [text, String.toList_ofList, List.map_cons]
    cases r.rest with
    | nil => exact ⟨[], by simp [Comparator.text], hsymbol _, .nil⟩
    | cons second rest =>
      rw [List.map_cons, List.intercalate_cons_cons, List.append_assoc]
      exact ⟨_, rfl, hsymbol _, hspace _⟩
  · obtain ⟨hne, hascii⟩ := r.first.digits_runs digits hmem
    exact ⟨hne, fun c hc => isDigit_of_isAsciiDigit (hascii c hc)⟩

/-- **The version that is read of a range is that of its first comparator**, unless one of its
numbers is too long. -/
theorem declared?_text_cases (r : Range) :
    (∃ digits ∈ r.first.runs, 4300 < digits.length ∧
      declared? r.text = .error (.tooManyDigits digits.length)) ∨
    declared? r.text = .ok (some ⟨r.first.version.parts⟩) := by
  have hascii : AreAscii r.first.runs := fun digits hmem => (r.first.digits_runs digits hmem).2
  rcases declared?_of_isFirstRun r.isFirstRun_text with ⟨-, hread⟩ | ⟨hnot, -⟩
  · rw [hread]
    rcases readParts_cases r.first.runs with ⟨digits, hmem, hlong, hparts⟩ | ⟨-, hparts⟩
    · exact .inl ⟨digits, hmem, hlong, by rw [hparts]; rfl⟩
    · exact .inr (by rw [hparts]; rfl)
  · exact absurd hascii hnot

/-- What is admitted is admitted by the first comparator. -/
theorem Admits.first {r : Range} {v : Version} (h : r.Admits v) : r.first.Admits v :=
  h r.first List.mem_cons_self

end Range

end Preflight.Release
