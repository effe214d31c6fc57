import Preflight.Proofs.Release
import Preflight.Proofs.Scan.Answers

/-!
# The first release number of a text

The first release number of a text is the first run of digits with single points between them, as
long as it goes (`IsFirstRun`). There is one exactly if there is a digit (`exists_isFirstRun_iff`),
and it is the one that is read (`declared?_of_isFirstRun`).

Numbers are compared place by place, where places that are missing count as zero (`IsOlder`).
-/

set_option autoImplicit false

namespace Preflight.Release

/-! ## Comparison -/

/-- At the first place where the numbers differ the former is less; missing places count as zero. -/
def IsOlder (parts others : List Nat) : Prop :=
  ∃ place, (∀ before < place, parts.getD before 0 = others.getD before 0) ∧
    parts.getD place 0 < others.getD place 0

/-- The first places decide, or the rest does. -/
theorem isOlder_iff_headD_tail {parts others : List Nat} : IsOlder parts others ↔
    parts.headD 0 < others.headD 0 ∨
      parts.headD 0 = others.headD 0 ∧ IsOlder parts.tail others.tail := by
  have hhead (parts : List Nat) : parts.getD 0 0 = parts.headD 0 := by cases parts <;> rfl
  have htail (parts : List Nat) (place : Nat) :
      parts.getD (place + 1) 0 = parts.tail.getD place 0 := by cases parts <;> rfl
  constructor
  · intro h
    obtain ⟨place, hbefore, hplace⟩ := h
    cases place with
    | zero =>
      rw [hhead, hhead] at hplace
      exact .inl hplace
    | succ place =>
      have hfirst := hbefore 0 place.succ_pos
      rw [hhead, hhead] at hfirst
      rw [htail, htail] at hplace
      refine .inr ⟨hfirst, place, fun before h => ?_, hplace⟩
      rw [← htail, ← htail]
      exact hbefore (before + 1) (Nat.succ_lt_succ h)
  · rintro (hless | ⟨hfirst, place, hbefore, hplace⟩)
    · refine ⟨0, nofun, ?_⟩
      rwa [hhead, hhead]
    · refine ⟨place + 1, fun before h => ?_, ?_⟩
      · cases before with
        | zero => rwa [hhead, hhead]
        | succ before =>
          rw [htail, htail]
          exact hbefore before (Nat.lt_of_succ_lt_succ h)
      · rwa [htail, htail]

/-- Nothing is older than nothing. -/
theorem not_isOlder_nil (parts : List Nat) : ¬ IsOlder parts [] := by
  rintro ⟨place, -, hplace⟩
  simp at hplace

/-- **The comparison is the one of lists filled with zeros.** -/
theorem partsBefore_iff {parts others : List Nat} :
    partsBefore parts others = true ↔ IsOlder parts others := by
  fun_induction partsBefore parts others with
  | case1 => exact iff_of_false nofun (not_isOlder_nil [])
  | case2 b bs ih =>
    have hsplit : IsOlder [] (b :: bs) ↔ 0 < b ∨ 0 = b ∧ IsOlder [] bs := isOlder_iff_headD_tail
    rw [hsplit, Bool.or_eq_true, decide_eq_true_eq, ih]
    rcases Nat.eq_zero_or_pos b with rfl | hb
    · simp
    · exact iff_of_true (.inl hb) (.inl hb)
  | case3 a as => exact iff_of_false nofun (not_isOlder_nil _)
  | case4 a as b bs ih =>
    rw [isOlder_iff_headD_tail, Bool.or_eq_true, decide_eq_true_eq, Bool.and_eq_true, beq_iff_eq,
      ih]
    rfl

/-! ## The first run -/

/-- A run of numbers goes no further than here: there is no digit, nor a point and a digit. -/
structure Ends (after : List Char) : Prop where
  digit : ∀ c rest, after = c :: rest → Text.isDigit c = false
  point : ∀ c rest, after = '.' :: c :: rest → Text.isDigit c = false

theorem Ends.nil : Ends [] where
  digit := fun _ _ h => absurd h.symm (List.cons_ne_nil _ _)
  point := fun _ _ h => absurd h.symm (List.cons_ne_nil _ _)

/-- The texts of the numbers in the first run, which goes on to where it ends. -/
structure IsFirstRun (chars : List Char) (runs : List (List Char)) : Prop where
  stands : ∃ before after, chars = before ++ ['.'].intercalate runs ++ after ∧
    (∀ c ∈ before, Text.isDigit c = false) ∧ Ends after
  any : runs ≠ []
  digits : ∀ digits ∈ runs, digits ≠ [] ∧ ∀ c ∈ digits, Text.isDigit c = true

/-- Runs start with a digit. -/
theorem exists_head_of_runs {runs : List (List Char)} (hany : runs ≠ [])
    (hdigits : ∀ digits ∈ runs, digits ≠ [] ∧ ∀ c ∈ digits, Text.isDigit c = true) :
    ∃ c rest, ['.'].intercalate runs = c :: rest ∧ Text.isDigit c = true := by
  obtain ⟨digits, others, rfl⟩ := List.exists_cons_of_ne_nil hany
  obtain ⟨hne, hfirst⟩ := hdigits digits List.mem_cons_self
  obtain ⟨c, rest, rfl⟩ := List.exists_cons_of_ne_nil hne
  refine ⟨c, ?_⟩
  cases others with
  | nil => exact ⟨rest, List.intercalate_singleton, hfirst c List.mem_cons_self⟩
  | cons second others =>
    exact ⟨_, List.intercalate_cons_cons, hfirst c List.mem_cons_self⟩

/-- Where there is no digit there is no run. -/
theorem digitRuns_of_not_digit {chars : List Char}
    (h : ∀ c rest, chars = c :: rest → Text.isDigit c = false) (bound : Nat) :
    digitRuns bound chars = [] := by
  cases bound with
  | zero => rfl
  | succ bound =>
    cases chars with
    | nil => rfl
    | cons c rest =>
      rw [digitRuns, List.takeWhile_cons_of_neg]
      rw [h c rest rfl]
      exact Bool.false_ne_true

/-- Digits are a run, and behind a point the next one may follow. -/
theorem digitRuns_append {digits after : List Char} (hne : digits ≠ [])
    (hdigits : ∀ c ∈ digits, Text.isDigit c = true)
    (hafter : ∀ c rest, after = c :: rest → Text.isDigit c = false) (bound : Nat) :
    digitRuns (bound + 1) (digits ++ after) =
      digits :: if after.head? = some '.' then digitRuns bound after.tail else [] := by
  have htake : (digits ++ after).takeWhile Text.isDigit = digits := by
    rw [List.takeWhile_append_of_pos hdigits]
    cases after with
    | nil => exact List.append_nil _
    | cons c rest =>
      rw [List.takeWhile_cons_of_neg, List.append_nil]
      rw [hafter c rest rfl]
      exact Bool.false_ne_true
  have hdrop : (digits ++ after).dropWhile Text.isDigit = after := by
    rw [List.dropWhile_append_of_pos hdigits]
    cases after with
    | nil => rfl
    | cons c rest =>
      rw [List.dropWhile_cons_of_neg]
      rw [hafter c rest rfl]
      exact Bool.false_ne_true
  rw [digitRuns, htake, hdrop]
  split
  · contradiction
  · split
    · rfl
    · rename_i hpoint
      rw [if_neg]
      intro hhead
      obtain ⟨rest, hrest⟩ := List.head?_eq_some_iff.mp hhead
      exact hpoint rest hrest

/-- Runs are found up to where they end. -/
theorem digitRuns_intercalate {runs : List (List Char)} {after : List Char} (hany : runs ≠ [])
    (hdigits : ∀ digits ∈ runs, digits ≠ [] ∧ ∀ c ∈ digits, Text.isDigit c = true)
    (hafter : Ends after) {bound : Nat}
    (hbound : (['.'].intercalate runs ++ after).length ≤ bound) :
    digitRuns bound (['.'].intercalate runs ++ after) = runs := by
  induction runs generalizing bound with
  | nil => contradiction
  | cons digits runs ih =>
    obtain ⟨⟨hne, hfirst⟩, hothers⟩ := List.forall_mem_cons.mp hdigits
    cases bound with
    | zero =>
      obtain ⟨c, rest, hhead, -⟩ := exists_head_of_runs hany hdigits
      simp [hhead] at hbound
    | succ bound =>
      cases runs with
      | nil =>
        rw [List.intercalate_singleton, digitRuns_append hne hfirst hafter.digit]
        split
        · rename_i hpoint
          obtain ⟨rest, rfl⟩ := List.head?_eq_some_iff.mp hpoint
          refine congrArg (digits :: ·) (digitRuns_of_not_digit ?_ bound)
          exact fun c rest h => hafter.point c rest (congrArg ('.' :: ·) h)
        · rfl
      | cons second runs =>
        have hpoint : ∀ c rest, '.' :: (['.'].intercalate (second :: runs) ++ after) = c :: rest →
            Text.isDigit c = false := by
          intro c rest h
          obtain ⟨rfl, -⟩ := List.cons.inj h
          rfl
        have htext : ['.'].intercalate (digits :: second :: runs) ++ after =
            digits ++ '.' :: (['.'].intercalate (second :: runs) ++ after) := by
          rw [List.intercalate_cons_cons]
          simp
        rw [htext, List.length_append, List.length_cons] at hbound
        rw [htext, digitRuns_append hne hfirst hpoint]
        exact congrArg (digits :: ·) (ih (List.cons_ne_nil _ _) hothers (by omega))

/-- The numbers are in ASCII digits. -/
def AreAscii (runs : List (List Char)) : Prop :=
  ∀ digits ∈ runs, ∀ c ∈ digits, Text.isAsciiDigit c = true

instance : DecidablePred AreAscii := fun runs =>
  decidable_of_iff (runs.all (·.all Text.isAsciiDigit) = true) <| by
    simp only [List.all_eq_true, AreAscii]

/-- Where there is a digit a run starts. -/
theorem exists_runs {chars : List Char} {c : Char} (hstart : chars.head? = some c)
    (hc : Text.isDigit c = true) : ∃ runs after, chars = ['.'].intercalate runs ++ after ∧
      runs ≠ [] ∧ (∀ digits ∈ runs, digits ≠ [] ∧ ∀ c ∈ digits, Text.isDigit c = true) ∧
        Ends after := by
  induction hlength : chars.length using Nat.strong_induction_on generalizing chars c with
  | _ length ih =>
    let digits := chars.takeWhile Text.isDigit
    let after := chars.dropWhile Text.isDigit
    have hsplit : chars = digits ++ after := List.takeWhile_append_dropWhile.symm
    have hdigits : digits ≠ [] ∧ ∀ c ∈ digits, Text.isDigit c = true := by
      refine ⟨?_, fun c => List.mem_takeWhile_imp⟩
      obtain ⟨rest, rfl⟩ := List.head?_eq_some_iff.mp hstart
      simp [digits, hc]
    have hafter : ∀ c rest, after = c :: rest → Text.isDigit c = false := by
      intro c rest h
      have hhead := List.head?_dropWhile_not Text.isDigit chars
      rw [show chars.dropWhile Text.isDigit = c :: rest from h] at hhead
      simpa using hhead
    by_cases hpoint : ∃ d rest, after = '.' :: d :: rest ∧ Text.isDigit d = true
    · obtain ⟨d, rest, heq, hd⟩ := hpoint
      have hless : (d :: rest).length < length := by
        rw [← hlength, hsplit, heq]
        simp
        omega
      obtain ⟨runs, more, hmore, hany, hruns, hends⟩ := ih _ hless rfl hd rfl
      refine ⟨digits :: runs, more, ?_, List.cons_ne_nil _ _,
        List.forall_mem_cons.mpr ⟨hdigits, hruns⟩, hends⟩
      rw [hsplit, heq, hmore, List.intercalate_cons_of_ne_nil hany]
      simp
    · refine ⟨[digits], after, by rwa [List.intercalate_singleton], List.cons_ne_nil _ _,
        List.forall_mem_singleton.mpr hdigits, hafter, fun d rest h => ?_⟩
      rw [← Bool.not_eq_true]
      exact fun hd => hpoint ⟨d, rest, h, hd⟩

/-- **There is a first run exactly if there is a digit.** -/
theorem exists_isFirstRun_iff {chars : List Char} :
    (∃ runs, IsFirstRun chars runs) ↔ ∃ c ∈ chars, Text.isDigit c = true := by
  constructor
  · intro h
    obtain ⟨runs, ⟨before, after, rfl, -, -⟩, hany, hdigits⟩ := h
    obtain ⟨c, rest, hhead, hc⟩ := exists_head_of_runs hany hdigits
    exact ⟨c, by simp [hhead], hc⟩
  · intro h
    obtain ⟨c, hfind⟩ := Option.isSome_iff_exists.mp (List.find?_isSome.mpr h)
    obtain ⟨hc, before, rest, rfl, hbefore⟩ := List.find?_eq_some_iff_append.mp hfind
    have hhead : (c :: rest).head? = some c := rfl
    obtain ⟨runs, after, heq, hany, hdigits, hends⟩ := exists_runs hhead hc
    refine ⟨runs, ⟨before, after, by rw [heq, List.append_assoc], fun c hc => ?_, hends⟩, hany,
      hdigits⟩
    simpa using hbefore c hc

/-! ## The release number that is read -/

/-- Numbers are read unless one of them is too long. -/
theorem readParts_cases (runs : List (List Char)) :
    (∃ digits ∈ runs, 4300 < digits.length ∧
      readParts runs = .error (.tooManyDigits digits.length)) ∨
    (∀ digits ∈ runs, digits.length ≤ 4300) ∧ readParts runs = .ok (runs.map Text.numeral) := by
  induction runs with
  | nil => exact .inr ⟨nofun, rfl⟩
  | cons digits runs ih =>
    rw [readParts, List.mapM_cons]
    by_cases hlong : digits.length > 4300
    · exact .inl ⟨digits, List.mem_cons_self, hlong, by rw [if_pos hlong]; rfl⟩
    rw [if_neg hlong]
    rcases ih with ⟨other, hmem, hother, herror⟩ | ⟨hshort, hread⟩
    · refine .inl ⟨other, List.mem_cons_of_mem _ hmem, hother, ?_⟩
      rw [readParts] at herror
      rw [herror]
      rfl
    · refine .inr ⟨List.forall_mem_cons.mpr ⟨Nat.le_of_not_gt hlong, hshort⟩, ?_⟩
      rw [readParts] at hread
      rw [hread]
      rfl

/-- The release number that is read is that of the first run, if its digits are ASCII digits. -/
theorem declared?_of_isFirstRun {spec : String} {runs : List (List Char)}
    (h : IsFirstRun spec.toList runs) : (AreAscii runs ∧
        declared? spec = (readParts runs).map fun parts => some ⟨parts⟩) ∨
      (¬ AreAscii runs ∧ declared? spec = .ok none) := by
  obtain ⟨⟨before, after, htext, hbefore, hends⟩, hany, hdigits⟩ := h
  have hdrop : spec.toList.dropWhile (!Text.isDigit ·) = ['.'].intercalate runs ++ after := by
    obtain ⟨c, rest, hhead, hc⟩ := exists_head_of_runs hany hdigits
    have hpassed : ∀ c ∈ before, (!Text.isDigit c) = true := fun c hc => by rw [hbefore c hc]; rfl
    rw [htext, List.append_assoc, List.dropWhile_append_of_pos hpassed, hhead, List.cons_append,
      List.dropWhile_cons_of_neg (by simp [hc])]
  have hruns := digitRuns_intercalate hany hdigits hends (Nat.le_refl _)
  have hascii : (runs.all fun digits => digits.all Text.isAsciiDigit) = true ↔ AreAscii runs := by
    simp only [AreAscii, List.all_eq_true]
  rw [declared?, hdrop, hruns, ← hascii]
  split
  · contradiction
  · split
    · rename_i hall
      exact .inl ⟨hall, rfl⟩
    · rename_i hall
      exact .inr ⟨hall, rfl⟩

/-- A text without digits has none. -/
theorem declared?_of_not_digit {spec : String}
    (h : ¬ ∃ c ∈ spec.toList, Text.isDigit c = true) : declared? spec = .ok none := by
  have hdrop : spec.toList.dropWhile (!Text.isDigit ·) = [] := by
    rw [List.dropWhile_eq_nil_iff]
    intro c hc
    rw [Bool.not_eq_true', ← Bool.not_eq_true]
    exact fun hdigit => h ⟨c, hc, hdigit⟩
  rw [declared?, hdrop]
  rfl

/-- A text is refused for a number of its first run. -/
theorem exists_long_of_declared? {spec : String} {failure : Failure}
    (h : declared? spec = .error failure) : ∃ runs, IsFirstRun spec.toList runs ∧ AreAscii runs ∧
      ∃ digits ∈ runs, 4300 < digits.length ∧ failure = .tooManyDigits digits.length := by
  by_cases hdigit : ∃ c ∈ spec.toList, Text.isDigit c = true
  · obtain ⟨runs, hruns⟩ := exists_isFirstRun_iff.mpr hdigit
    rcases declared?_of_isFirstRun hruns with ⟨hascii, hread⟩ | ⟨-, hread⟩
    · refine ⟨runs, hruns, hascii, ?_⟩
      rw [hread] at h
      rcases readParts_cases runs with ⟨digits, hmem, hlong, hparts⟩ | ⟨-, hparts⟩
      · rw [hparts] at h
        exact ⟨digits, hmem, hlong, (Except.error.inj h).symm⟩
      · rw [hparts] at h
        cases h
    · rw [hread] at h
      cases h
  · rw [declared?_of_not_digit hdigit] at h
    cases h

/-- **The release number that is read is older than another** exactly if there is a first run, its
digits are ASCII digits, and its numbers are older. -/
theorem isBefore_declared?_iff {spec : String} {declared : Option Release}
    (h : declared? spec = .ok declared) (minimum : Release) :
    (∃ r, declared = some r ∧ r.isBefore minimum = true) ↔ ∃ runs, IsFirstRun spec.toList runs ∧
      AreAscii runs ∧ IsOlder (runs.map Text.numeral) minimum.parts := by
  have hruns : ∀ runs, IsFirstRun spec.toList runs → AreAscii runs →
      declared = some ⟨runs.map Text.numeral⟩ := by
    intro runs hruns hascii
    rcases declared?_of_isFirstRun hruns with ⟨-, hread⟩ | ⟨hnot, -⟩
    · rw [h] at hread
      rcases readParts_cases runs with ⟨_, -, -, hparts⟩ | ⟨-, hparts⟩
      · rw [hparts] at hread
        cases hread
      · rw [hparts] at hread
        exact Except.ok.inj hread
    · exact absurd hascii hnot
  constructor
  · intro hbefore
    obtain ⟨r, rfl, hbefore⟩ := hbefore
    have hdigit : ∃ c ∈ spec.toList, Text.isDigit c = true := by
      by_contra hnone
      rw [declared?_of_not_digit hnone] at h
      cases h
    obtain ⟨runs, hfirst⟩ := exists_isFirstRun_iff.mpr hdigit
    have hascii : AreAscii runs := by
      rcases declared?_of_isFirstRun hfirst with ⟨hascii, -⟩ | ⟨-, hread⟩
      · exact hascii
      · rw [h] at hread
        cases hread
    obtain rfl := Option.some.inj (hruns runs hfirst hascii)
    exact ⟨runs, hfirst, hascii, partsBefore_iff.mp hbefore⟩
  · intro holder
    obtain ⟨runs, hfirst, hascii, holder⟩ := holder
    exact ⟨_, hruns runs hfirst hascii, partsBefore_iff.mpr holder⟩

end Preflight.Release
