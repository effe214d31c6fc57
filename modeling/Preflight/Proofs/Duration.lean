import Mathlib.Data.Nat.Digits.Defs
import Preflight.Proofs.Json.Number
import Preflight.Proofs.Release
import Preflight.Proofs.Source.Expiry

/-!
# Durations, written and read

A duration is written as a count of the largest unit that it fills (`format_eq`), and the word that
is written names that unit when it is read (`unit_name`). What is rounded down fills the same unit
as often (`largest_floor`, `count_floor`), so that reading gives a duration that is written alike.

The law (`write_survives_reading`) is about every duration that can be written at all, and every one
that is read can be.
-/

set_option autoImplicit false

namespace Preflight.Duration

open Json (digitsOf)

/-! ## The largest unit -/

/-- A unit in which durations are written. -/
structure WrittenUnit where
  seconds : Nat
  name : String
  deriving DecidableEq

/-- The units of more than a second, from the longest to the shortest. -/
def longUnits : List WrittenUnit :=
  [⟨year, "years"⟩, ⟨month, "months"⟩, ⟨day, "days"⟩, ⟨hour, "hours"⟩, ⟨minute, "minutes"⟩]

/-- The unit of what fills no longer one. -/
def second : WrittenUnit := ⟨1, "seconds"⟩

/-- The largest unit that a duration fills. -/
def largest (s : Nat) : WrittenUnit := (longUnits.find? (·.seconds ≤ s)).getD second

/-- How often a duration fills that unit. -/
def count (s : Nat) : Nat := s / (largest s).seconds

/-- The duration in words, unless its count has too many digits to be written. -/
def write (s : Nat) : Except Failure String :=
  if 4300 < (digitsOf (count s)).length then .error (.tooManyDigits (digitsOf (count s)).length)
  else .ok (format s)

variable {s : Nat}

/-- A duration fills no longer unit, or the first of them that it fills is its largest. -/
theorem largest_cases (s : Nat) :
    (∀ v ∈ longUnits, s < v.seconds) ∧ largest s = second ∨
      ∃ longer shorter, longUnits = longer ++ largest s :: shorter ∧
        (largest s).seconds ≤ s ∧ ∀ v ∈ longer, s < v.seconds := by
  cases hfind : longUnits.find? (·.seconds ≤ s) with
  | none =>
    refine .inl ⟨fun v hv => ?_, by rw [largest, hfind, Option.getD_none]⟩
    have hnot := List.find?_eq_none.mp hfind v hv
    simpa using hnot
  | some u =>
    obtain ⟨hfills, longer, shorter, hsplit, hlonger⟩ := List.find?_eq_some_iff_append.mp hfind
    refine .inr ⟨longer, shorter, ?_, ?_, fun v hv => ?_⟩
    · rwa [largest, hfind, Option.getD_some]
    · simpa [largest, hfind] using hfills
    · simpa using hlonger v hv

/-- What is split at a unit that a duration fills, but no earlier one, is split at its largest. -/
theorem largest_eq {u : WrittenUnit} {longer shorter : List WrittenUnit}
    (hsplit : longUnits = longer ++ u :: shorter) (hfills : u.seconds ≤ s)
    (hlonger : ∀ v ∈ longer, s < v.seconds) : largest s = u := by
  have hfind : longUnits.find? (·.seconds ≤ s) = some u :=
    List.find?_eq_some_iff_append.mpr ⟨by simpa using hfills, longer, shorter, hsplit,
      fun v hv => by simpa using hlonger v hv⟩
  rw [largest, hfind, Option.getD_some]

/-- The largest unit is one of those in which durations are written. -/
theorem largest_mem (s : Nat) : largest s ∈ second :: longUnits := by
  rcases largest_cases s with ⟨-, hsecond⟩ | ⟨longer, shorter, hsplit, -⟩
  · simp [hsecond]
  · simp [hsplit]

/-- What holds of the units in which durations are written holds of the largest. -/
theorem forall_largest {P : WrittenUnit → Prop} (h : ∀ u ∈ second :: longUnits, P u) (s : Nat) :
    P (largest s) :=
  h _ (largest_mem s)

/-- No unit is empty. -/
theorem largest_pos (s : Nat) : 0 < (largest s).seconds :=
  forall_largest (P := fun u => 0 < u.seconds) (by decide) s

/-- **The name of the unit is read as the unit.** -/
theorem unit_name (s : Nat) : unit (largest s).name = (largest s).seconds :=
  forall_largest (P := fun u => unit u.name = u.seconds) (by decide +kernel) s

/-- The name is made of letters. -/
theorem name_letter (s : Nat) : ∀ c ∈ (largest s).name.toList, Source.isUnitLetter c = true :=
  List.all_eq_true.mp <| forall_largest
    (P := fun u => u.name.toList.all Source.isUnitLetter = true) (by decide +kernel) s

theorem name_ne (s : Nat) : (largest s).name.toList ≠ [] :=
  forall_largest (P := fun u => u.name.toList ≠ []) (by decide +kernel) s

/-- No unit is longer than a year. -/
theorem unit_le_year (name : String) : unit name ≤ year := by
  unfold unit
  split
  · rename_i u hfound
    have hbound : ∀ u ∈ units, u.seconds ≤ year := by decide
    exact hbound u (List.mem_of_find?_eq_some hfound)
  · decide

/-! ## Writing -/

/-- **A duration is written as a count of its largest unit.** -/
theorem format_eq (s : Nat) : format s = toString (count s) ++ " " ++ (largest s).name := by
  have hwritten (length : Nat) : toString (Int.fdiv s length) = toString (s / length) := by
    rw [Int.fdiv_eq_ediv_of_nonneg _ (Int.natCast_nonneg _), ← Int.natCast_ediv]
    rfl
  have hbelow (bound : Nat) : decide ((s : Int) < bound) = !decide (bound ≤ s) := by
    rw [Bool.eq_iff_iff]
    simp
  have hbounds : minute < hour ∧ hour < day ∧ day < month ∧ month < year := by decide
  simp only [format, scale, count, largest, longUnits, List.find?_cons, List.find?_nil, hbelow,
    hwritten, String.append_assoc]
  by_cases hminute : minute ≤ s
  · by_cases hhour : hour ≤ s
    · by_cases hday : day ≤ s
      · by_cases hmonth : month ≤ s
        · by_cases hyear : year ≤ s
          · simp [*]
          · simp [*]
        · simp [*, show ¬ year ≤ s by omega]
      · simp [*, show ¬ year ≤ s ∧ ¬ month ≤ s by omega]
    · simp [*, show ¬ year ≤ s ∧ ¬ month ≤ s ∧ ¬ day ≤ s by omega]
  · simp [*, second, show ¬ year ≤ s ∧ ¬ month ≤ s ∧ ¬ day ≤ s ∧ ¬ hour ≤ s by omega]

/-- What is rounded down to a count of the largest unit. -/
def floor (s : Nat) : Nat := count s * (largest s).seconds

theorem floor_le (s : Nat) : floor s ≤ s := Nat.div_mul_le_self s _

/-- Less than one unit is lost. -/
theorem sub_floor_lt (s : Nat) : s - floor s < (largest s).seconds := by
  have hmod := Nat.mod_lt s (largest_pos s)
  have hsplit := Nat.div_add_mod' s (largest s).seconds
  rw [floor, count]
  omega

/-- **What is rounded down has the same largest unit.** -/
theorem largest_floor (s : Nat) : largest (floor s) = largest s := by
  rcases largest_cases s with ⟨hnone, hsecond⟩ | ⟨longer, shorter, hsplit, hfills, hlonger⟩
  · -- seconds are not rounded
    rw [floor, count, hsecond, second, Nat.div_one, Nat.mul_one, ← second, ← hsecond]
  · refine largest_eq hsplit ?_ fun v hv => Nat.lt_of_le_of_lt (floor_le s) (hlonger v hv)
    exact Nat.le_mul_of_pos_left _ (Nat.div_pos hfills (largest_pos s))

/-- It fills that unit as often. -/
theorem count_floor (s : Nat) : count (floor s) = count s := by
  rw [count, largest_floor, floor, Nat.mul_div_cancel _ (largest_pos s)]

/-- So it is written alike. -/
theorem format_floor (s : Nat) : format (floor s) = format s := by
  rw [format_eq, format_eq, count_floor, largest_floor]

/-! ## Reading -/

/-- The setting of a token's life to a duration in quotation marks. -/
def setting (s : Nat) {gap : List Char} (hgap : ∀ c ∈ gap, Text.isBlank c = true) {quote : Char}
    (hquote : Pattern.isQuote quote = true) : Source.Setting where
  form := ⟨"expiresIn", true⟩
  lead :=
    { spelled := "expiresIn".toList
      before := []
      sign := ':'
      behind := gap
      opening := some quote
      spelled_name := Pattern.spells_self _
      before_blank := nofun
      sign_mem := by decide
      behind_blank := hgap
      opening_quote := by
        rintro c ⟨⟩
        exact hquote }
  digits := digitsOf (count s)
  gap := [' ']
  unit := (largest s).name.toList
  digits_ne := by
    obtain ⟨c, more, hdigits, -⟩ := Json.digitsOf_starts (count s)
    rw [hdigits]
    exact List.cons_ne_nil c more
  digits_digit := fun _ hc => Release.isDigit_of_isAsciiDigit (Json.isAsciiDigit_of_mem hc)
  gap_blank := List.forall_mem_singleton.mpr (by decide)
  unit_letter := name_letter s
  unit_ne := fun _ => name_ne s
  bare := nofun

/-- The text of such a setting: the name, a colon, blanks, and the duration in quotation marks. -/
def settingText (gap : List Char) (quote : Char) (duration : String) : String :=
  "expiresIn:" ++ String.ofList gap ++ String.singleton quote ++ duration ++ String.singleton quote

variable {gap : List Char} {quote : Char}

/-- The text is the setting and its closing quotation mark. -/
theorem toList_settingText (s : Nat) (hgap : ∀ c ∈ gap, Text.isBlank c = true)
    (hquote : Pattern.isQuote quote = true) :
    (settingText gap quote (format s)).toList = (setting s hgap hquote).text ++ [quote] := by
  unfold settingText
  simp [setting, Source.Setting.text, Source.Lead.text, format_eq]

/-- The setting decides about the expiry that its text sets. -/
theorem setting_decides (s : Nat) (hgap : ∀ c ∈ gap, Text.isBlank c = true)
    (hquote : Pattern.isQuote quote = true) :
    (setting s hgap hquote).Decides (settingText gap quote (format s)).toList 0 where
  whole := by
    refine ⟨[], [quote], toList_settingText s hgap hquote, rfl, ?_⟩
    rintro _ ⟨⟩
    show Source.isUnitLetter quote = false
    simp only [Pattern.isQuote, Bool.or_eq_true, beq_iff_eq] at hquote
    obtain (rfl | rfl) | rfl := hquote <;> decide
  first := fun _ place _ _ => Nat.zero_le place
  preferred := ⟨[], _, rfl, nofun⟩

/-- **What is written in a setting is read, rounded down.** -/
theorem expiry?_settingText (hgap : ∀ c ∈ gap, Text.isBlank c = true)
    (hquote : Pattern.isQuote quote = true) (hcount : (digitsOf (count s)).length ≤ 4300) :
    Source.expiry? (settingText gap quote (format s)) = .ok (some (floor s)) := by
  rw [Source.expiry?_of_decides (setting_decides s hgap hquote),
    Source.Setting.reading_eq_ok_iff]
  refine ⟨hcount, ?_⟩
  rw [Source.Setting.seconds, setting, if_pos rfl, Json.numeral_digitsOf, String.ofList_toList,
    unit_name, floor]

/-! ## What is read can be written -/

/-- A number below the power of ten has no more digits. -/
theorem length_digitsOf_le {n digits : Nat} (hpos : 0 < digits) (h : n < 10 ^ digits) :
    (digitsOf n).length ≤ digits :=
  Nat.toDigits_length 10 n digits hpos h

/-- A number of units, none of them longer than a year, counts no more years than there are units;
and what fills no year has less than nine digits. -/
theorem count_mul_lt {n m digits : Nat} (hunit : m ≤ year) (hdigits : 8 ≤ digits)
    (hn : n < 10 ^ digits) : count (n * m) < 10 ^ digits := by
  by_cases hyear : year ≤ n * m
  · have hsplit : longUnits = [] ++ ⟨year, "years"⟩ :: longUnits.tail := rfl
    have hlargest : largest (n * m) = ⟨year, "years"⟩ := largest_eq hsplit hyear nofun
    have hle : n * m ≤ year * n := by
      rw [Nat.mul_comm n]
      exact Nat.mul_le_mul_right n hunit
    rw [count, hlargest]
    exact Nat.lt_of_le_of_lt (Nat.div_le_of_le_mul hle) hn
  · have hshort : year < 10 ^ 8 := by decide
    calc count (n * m) ≤ n * m := Nat.div_le_self _ _
      _ < year := Nat.not_le.mp hyear
      _ < 10 ^ 8 := hshort
      _ ≤ 10 ^ digits := Nat.pow_le_pow_right (by decide) hdigits

/-- A setting stands for a number of units of which none is longer than a year. -/
theorem seconds_eq (t : Source.Setting) :
    ∃ m ≤ year, t.seconds = Text.numeral t.digits * m := by
  unfold Source.Setting.seconds
  split
  · exact ⟨_, unit_le_year _, rfl⟩
  · exact ⟨1, by decide, rfl⟩

/-- What a setting stands for counts no more digits than the setting has, or eight. -/
theorem length_count_seconds_le (t : Source.Setting) {limit : Nat} (hlimit : 8 ≤ limit)
    (h : t.digits.length ≤ limit) : (digitsOf (count t.seconds)).length ≤ limit := by
  obtain ⟨m, hm, hseconds⟩ := seconds_eq t
  have hnumeral : Text.numeral t.digits < 10 ^ limit :=
    Nat.lt_of_lt_of_le (Text.numeral_lt t.digits) (Nat.pow_le_pow_right (by decide) h)
  rw [hseconds]
  exact length_digitsOf_le (by omega) (count_mul_lt hm hlimit hnumeral)

/-- **What is read can be written.** -/
theorem length_count_of_expiry? {code : String} {n : Nat}
    (h : Source.expiry? code = .ok (some n)) : (digitsOf (count n)).length ≤ 4300 := by
  obtain ⟨t, place, -, hread⟩ := (Source.expiry?_eq_iff (by simp)).mp h
  obtain ⟨hdigits, rfl⟩ := Source.Setting.reading_eq_ok_iff.mp hread
  exact length_count_seconds_le t (by decide) hdigits

/-- A duration is written as it is formatted if its count has no more digits than can be written. -/
theorem write_eq (h : (digitsOf (count s)).length ≤ 4300) : write s = .ok (format s) :=
  if_neg (Nat.not_lt.mpr h)

/-- **Durations survive writing and reading.** A duration is written as a count of the largest unit
that it fills. Where the count has few enough digits to be written, the setting of it in quotation
marks is read as a duration that is no longer, shorter by less than the unit that is written, and
written alike. Every expiry that any text sets can be written. -/
theorem write_survives_reading :
    (∀ s : Nat, format s = toString (count s) ++ " " ++ (largest s).name) ∧
    (∀ (s : Nat) (gap : List Char) (quote : Char), (∀ c ∈ gap, Text.isBlank c = true) →
      Pattern.isQuote quote = true → (digitsOf (count s)).length ≤ 4300 →
        write s = .ok (format s) ∧ ∃ t,
          Source.expiry? (settingText gap quote (format s)) = .ok (some t) ∧
            t ≤ s ∧ s - t < unit (largest s).name ∧ format t = format s) ∧
    ∀ code n, Source.expiry? code = .ok (some n) →
      (digitsOf (count n)).length ≤ 4300 ∧ write n = .ok (format n) := by
  refine ⟨format_eq, fun s gap quote hgap hquote hcount => ⟨write_eq hcount, floor s,
    expiry?_settingText hgap hquote hcount, floor_le s, ?_, format_floor s⟩, fun code n hread => ?_⟩
  · rw [unit_name]
    exact sub_floor_lt s
  · have hcount := length_count_of_expiry? hread
    exact ⟨hcount, write_eq hcount⟩

/-- A year and some days are written as a year, and what is written is read so. -/
theorem write_survives_reading_of_year :
    (∀ c ∈ [' '], Text.isBlank c = true) ∧ Pattern.isQuote '\x22' = true ∧
      (digitsOf (count 34000000)).length ≤ 4300 ∧ ∃ t,
        Source.expiry? (settingText [' '] '\x22' (format 34000000)) = .ok (some t) ∧
          t ≤ 34000000 ∧ 34000000 - t < unit (largest 34000000).name ∧
            format t = format 34000000 := by
  have hblank : ∀ c ∈ [' '], Text.isBlank c = true := List.forall_mem_singleton.mpr (by decide)
  have hquote : Pattern.isQuote '\x22' = true := by decide
  have hcount : (digitsOf (count 34000000)).length ≤ 4300 := by decide +kernel
  exact ⟨hblank, hquote, hcount,
    (write_survives_reading.2.1 34000000 [' '] '\x22' hblank hquote hcount).2⟩

end Preflight.Duration
