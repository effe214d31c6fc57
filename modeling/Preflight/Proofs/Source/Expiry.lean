import Preflight.Proofs.Pattern.Search
import Preflight.Proofs.Text.Digit
import Preflight.Source.Expiry

/-!
# Settings of a token expiry

A setting is a name in any case, a sign, a number and, in two of the four forms, a unit (`Setting`).
What the pattern of a form reads are the settings whose last run is not gone on with
(`Setting.reads`, `Setting.exists_of_reads`); any other setting stands at a place where such a one
stands as well (`Setting.exists_whole`), and there is one of them at most (`IsWholeAt.unique`).

The law (`expiry?_follows_setting`): of the forms that occur in a text the first decides, at its
first place, wherever settings of other forms stand, and its number is a whole run of digits.
-/

set_option autoImplicit false

namespace Preflight.Source

open Pattern

/-! ## Characters -/

/-- A digit is neither a blank, nor a quotation mark, nor a letter of a unit. -/
theorem digit_stops : ∀ c, Text.isDigit c = true →
    Text.isBlank c = false ∧ isQuote c = false ∧ isUnitLetter c = false := by
  intro c hc
  obtain ⟨start, hstart, hlow, hhigh⟩ := Text.isDigit_iff.mp hc
  -- The other characters lie in the gaps between the runs of digits.
  have hruns : ∀ start ∈ Text.zeros, start = 0x30 ∨ 0x660 ≤ start ∧ start ≤ 0x1090 ∨
      0x17E0 ≤ start ∧ start ≤ 0x1C50 ∨ 0xA620 ≤ start := by decide
  have hrun := hruns start hstart
  have hne {d : Char} (h : c.toNat ≠ d.toNat) : c ≠ d := fun heq => h (congrArg Char.toNat heq)
  refine ⟨?_, ?_, ?_⟩
  · simp only [Text.isBlank, Bool.or_eq_false_iff, Bool.and_eq_false_iff, decide_eq_false_iff_not,
      beq_eq_false_iff_ne]
    omega
  · simp only [isQuote, Bool.or_eq_false_iff, beq_eq_false_iff_ne]
    refine ⟨⟨hne ?_, hne ?_⟩, hne ?_⟩ <;> simp only [Char.reduceToNat] <;> omega
  · have hupper : c.isUpper = false :=
      decide_eq_false (show ¬ (65 ≤ c.toNat ∧ c.toNat ≤ 90) by omega)
    have hlower : c.isLower = false := by
      refine Bool.eq_false_iff.mpr fun hletter => ?_
      obtain ⟨hfrom, hto⟩ := Bool.and_eq_true_iff.mp hletter
      have hfrom : 97 ≤ c.toNat := of_decide_eq_true hfrom
      have hto : c.toNat ≤ 122 := of_decide_eq_true hto
      omega
    have halpha : c.isAlpha = false := Bool.or_eq_false_iff.mpr ⟨hupper, hlower⟩
    simp only [isUnitLetter, halpha, Bool.or_eq_false_iff, beq_eq_false_iff_ne]
    refine ⟨⟨⟨⟨trivial, hne ?_⟩, hne ?_⟩, hne ?_⟩, hne ?_⟩ <;> simp only [Char.reduceToNat] <;> omega

/-- A quotation mark is no blank. -/
theorem quote_stops {c : Char} (h : isQuote c = true) : Text.isBlank c = false := by
  simp only [isQuote, Bool.or_eq_true, beq_iff_eq] at h
  obtain (rfl | rfl) | rfl := h <;> decide

/-- A blank that may stand between a number and its unit. -/
def isGap (c : Char) : Bool := c == ' ' || c == '\t'

/-- Such a blank is neither a digit nor a letter. -/
theorem gap_stops {c : Char} (h : isGap c = true) :
    Text.isDigit c = false ∧ isUnitLetter c = false := by
  simp only [isGap, Bool.or_eq_true, beq_iff_eq] at h
  obtain rfl | rfl := h <;> decide

/-- A letter of a unit is neither a digit nor such a blank. -/
theorem letter_stops {c : Char} (h : isUnitLetter c = true) :
    Text.isDigit c = false ∧ isGap c = false := by
  constructor
  · refine Bool.eq_false_iff.mpr fun hdigit => ?_
    rw [(digit_stops c hdigit).2.2] at h
    cases h
  · refine Bool.eq_false_iff.mpr fun hgap => ?_
    rw [(gap_stops hgap).2] at h
    cases h

/-- No character of a set follows a part that starts with another one. -/
theorem stop_append {set : Char → Bool} {part : List Char} (hne : part ≠ [])
    (hpart : ∀ c ∈ part, set c = false) (rest : List Char) :
    ∀ c ∈ (part ++ rest).head?, set c = false := by
  obtain ⟨d, more, rfl⟩ := List.exists_cons_of_ne_nil hne
  rintro c ⟨⟩
  exact hpart d List.mem_cons_self

/-! ## Settings -/

/-- A form of a setting: its name, and whether the number has a unit. -/
structure Form where
  name : String
  hasUnit : Bool
  deriving DecidableEq

/-- The forms, an earlier one preferred. -/
def forms : List Form :=
  [⟨"expiresIn", true⟩, ⟨"expiresIn", false⟩, ⟨"JWT_EXPIRY", true⟩, ⟨"JWT_EXPIRY", false⟩]

/-- The pattern of a form. -/
def Form.pattern (f : Form) : Pattern :=
  if f.hasUnit then expirySettingWithUnit f.name else expirySetting f.name

/-- The forms are those that are looked for. -/
theorem expiryForms_eq : expiryForms = forms.map Form.pattern := rfl

/-- The characters that go on with the last run of a form. -/
def Form.goesOn (f : Form) : Char → Bool := if f.hasUnit then isUnitLetter else Text.isDigit

theorem Form.goesOn_unit {f : Form} (h : f.hasUnit = true) : f.goesOn = isUnitLetter := if_pos h

theorem Form.goesOn_bare {f : Form} (h : f.hasUnit = false) : f.goesOn = Text.isDigit :=
  if_neg (by simp [h])

/-- What stands before the number of a setting, as it is written. -/
structure Lead (name : String) where
  spelled : List Char
  before : List Char
  sign : Char
  behind : List Char
  opening : Option Char
  spelled_name : Spells name spelled
  before_blank : ∀ c ∈ before, Text.isBlank c = true
  sign_mem : (sign == ':' || sign == '=') = true
  behind_blank : ∀ c ∈ behind, Text.isBlank c = true
  opening_quote : ∀ c ∈ opening, isQuote c = true

/-- The characters before the number. -/
def Lead.text {name : String} (l : Lead name) : List Char :=
  l.spelled ++ (l.before ++ l.sign :: (l.behind ++ l.opening.toList))

/-- A setting, as it is written. A quotation mark behind it is no part of it. -/
structure Setting where
  form : Form
  lead : Lead form.name
  digits : List Char
  /-- The blanks before the unit. -/
  gap : List Char
  unit : List Char
  digits_ne : digits ≠ []
  digits_digit : ∀ c ∈ digits, Text.isDigit c = true
  gap_blank : ∀ c ∈ gap, isGap c = true
  unit_letter : ∀ c ∈ unit, isUnitLetter c = true
  unit_ne : form.hasUnit = true → unit ≠ []
  bare : form.hasUnit = false → gap = [] ∧ unit = []

namespace Setting

/-- The characters of a setting. -/
def text (s : Setting) : List Char := s.lead.text ++ (s.digits ++ (s.gap ++ s.unit))

/-- What is kept of a setting. -/
def kept (s : Setting) : List (List Char) :=
  if s.form.hasUnit then [s.digits, s.unit] else [s.digits]

/-- The seconds that a setting stands for: a number alone counts seconds. -/
def seconds (s : Setting) : Nat :=
  Text.numeral s.digits * if s.form.hasUnit then Duration.unit (String.ofList s.unit) else 1

/-- What is set by a setting that decides: a number of too many digits is refused. -/
def reading (s : Setting) : Except Failure (Option Nat) :=
  if 4300 < s.digits.length then .error (.tooManyDigits s.digits.length) else .ok (some s.seconds)

/-- No character of the rest goes on with the last run. -/
def IsWhole (s : Setting) (rest : List Char) : Prop := ∀ c ∈ rest.head?, s.form.goesOn c = false

end Setting

/-! ## What stands before the number -/

section

variable {name : String} {part rest : List Char} {kept : List (List Char)}

/-- What starts with a digit stops a run of blanks. -/
theorem blank_stops {digits : List Char} (hne : digits ≠ [])
    (hdigits : ∀ c ∈ digits, Text.isDigit c = true) (opening : Option Char)
    (hopening : ∀ c ∈ opening, isQuote c = true) (rest : List Char) :
    ∀ c ∈ (opening.toList ++ (digits ++ rest)).head?, Text.isBlank c = false := by
  cases opening with
  | none => exact stop_append hne (fun c hc => (digit_stops c (hdigits c hc)).1) rest
  | some quote =>
    rintro c ⟨⟩
    exact quote_stops (hopening _ rfl)

/-- The sign stops a run of blanks. -/
theorem sign_stops {sign : Char} (h : (sign == ':' || sign == '=') = true) (rest : List Char) :
    ∀ c ∈ (sign :: rest).head?, Text.isBlank c = false := by
  rintro c ⟨⟩
  rw [Bool.or_eq_true, beq_iff_eq, beq_iff_eq] at h
  obtain rfl | rfl := h <;> decide

/-- **The pattern of a number alone** reads what stands before it and a whole run of digits. -/
theorem reads_expirySetting_iff : (expirySetting name).Reads part kept rest ↔
    ∃ (l : Lead name) (digits : List Char), part = l.text ++ digits ∧ kept = [digits] ∧
      digits ≠ [] ∧ (∀ c ∈ digits, Text.isDigit c = true) ∧
        ∀ c ∈ rest.head?, Text.isDigit c = false := by
  constructor
  · intro h
    obtain ⟨_, digits, _, _, htoOpening, hkeep, rfl, rfl⟩ := reads_append_iff.mp h
    obtain ⟨_, opening, _, _, htoBehind, hoptional, rfl, rfl⟩ := reads_append_iff.mp htoOpening
    obtain ⟨_, behind, _, _, htoSign, hbehind, rfl, rfl⟩ := reads_append_iff.mp htoBehind
    obtain ⟨_, _, _, _, htoBefore, hsign, rfl, rfl⟩ := reads_append_iff.mp htoSign
    obtain ⟨spelled, before, _, _, hword, hbefore, rfl, rfl⟩ := reads_append_iff.mp htoBefore
    obtain ⟨hspelled, rfl⟩ := reads_wordAnyCase_iff.mp hword
    obtain ⟨hblank, -, rfl⟩ := reads_run_iff.mp hbefore
    obtain ⟨sign, hmem, rfl, rfl⟩ := reads_one_iff.mp hsign
    obtain ⟨hblank', -, rfl⟩ := reads_run_iff.mp hbehind
    obtain ⟨_, hrun, rfl⟩ := reads_keep_iff.mp hkeep
    obtain ⟨hne, hdigits, hstop, rfl⟩ := reads_runOne_iff.mp hrun
    rcases reads_optional_iff.mp hoptional with hquote | ⟨rfl, rfl⟩
    · obtain ⟨quote, hmark, rfl, rfl⟩ := reads_one_iff.mp hquote
      have hopening : ∀ c ∈ some quote, isQuote c = true := by
        rintro c ⟨⟩
        exact hmark
      exact ⟨⟨spelled, before, sign, behind, some quote, hspelled, hblank, hmem, hblank', hopening⟩,
        digits, by simp [Lead.text], rfl, hne, hdigits, hstop⟩
    · exact ⟨⟨spelled, before, sign, behind, none, hspelled, hblank, hmem, hblank', nofun⟩, digits,
        by simp [Lead.text], rfl, hne, hdigits, hstop⟩
  · rintro ⟨l, digits, rfl, rfl, hne, hdigits, hstop⟩
    have hword (rest : List Char) : (wordAnyCase name).Reads l.spelled [] rest :=
      reads_wordAnyCase_iff.mpr ⟨l.spelled_name, rfl⟩
    have hbefore : blanks.Reads l.before []
        ([l.sign] ++ (l.behind ++ (l.opening.toList ++ (digits ++ rest)))) :=
      .run l.before_blank (sign_stops l.sign_mem _)
    have hbehind : blanks.Reads l.behind [] (l.opening.toList ++ (digits ++ rest)) :=
      .run l.behind_blank (blank_stops hne hdigits l.opening l.opening_quote rest)
    have hopening : (optional (one isQuote)).Reads l.opening.toList [] (digits ++ rest) := by
      refine reads_optional_iff.mpr ?_
      cases hl : l.opening with
      | none => exact .inr ⟨rfl, rfl⟩
      | some quote => exact .inl (.one (l.opening_quote quote hl))
    have hdigits : (keep (runOne Text.isDigit)).Reads digits [digits] rest :=
      .keep (reads_runOne_iff.mpr ⟨hne, hdigits, hstop, rfl⟩)
    have htext : l.text ++ digits =
        l.spelled ++ l.before ++ [l.sign] ++ l.behind ++ l.opening.toList ++ digits := by
      simp [Lead.text]
    rw [htext]
    exact (((((hword _).seq hbefore).seq (.one l.sign_mem)).seq hbehind).seq hopening).seq hdigits

/-- Before digits there is one reading at most of what stands before a number. -/
theorem Lead.text_append_inj {l l' : Lead name} {digits digits' : List Char} (hne : digits ≠ [])
    (hne' : digits' ≠ []) (hdigits : ∀ c ∈ digits, Text.isDigit c = true)
    (hdigits' : ∀ c ∈ digits', Text.isDigit c = true) {rest rest' : List Char}
    (h : l.text ++ (digits ++ rest) = l'.text ++ (digits' ++ rest')) :
    l = l' ∧ digits ++ rest = digits' ++ rest' := by
  obtain ⟨spelled, before, sign, behind, opening, hspelled, hbefore, hsign, hbehind, hopening⟩ := l
  obtain ⟨spelled', before', sign', behind', opening', hspelled', hbefore', hsign', hbehind',
    hopening'⟩ := l'
  simp only [Lead.text, List.append_assoc, List.cons_append] at h
  have hlength : spelled.length = spelled'.length :=
    (List.Forall₂.length_eq hspelled).symm.trans (List.Forall₂.length_eq hspelled')
  obtain ⟨rfl, hfromBefore⟩ := List.append_inj h hlength
  obtain ⟨rfl, hfromSign⟩ := append_inj_of_stop hbefore hbefore' (sign_stops hsign _)
    (sign_stops hsign' _) hfromBefore
  obtain ⟨rfl, hfromBehind⟩ := List.cons.inj hfromSign
  obtain ⟨rfl, hfromOpening⟩ := append_inj_of_stop hbehind hbehind'
    (blank_stops hne hdigits opening hopening rest)
    (blank_stops hne' hdigits' opening' hopening' rest') hfromBehind
  -- a quotation mark is no digit, so both have one or none has
  have hquote : ∀ {quote : Char} (digits : List Char) {rest rest' : List Char},
      isQuote quote = true → digits ≠ [] → (∀ c ∈ digits, Text.isDigit c = true) →
        quote :: rest' ≠ digits ++ rest := by
    intro quote digits rest rest' hquote hne hdigits heq
    obtain ⟨d, more, rfl⟩ := List.exists_cons_of_ne_nil hne
    obtain ⟨rfl, -⟩ := List.cons.inj heq
    rw [(digit_stops _ (hdigits _ List.mem_cons_self)).2.1] at hquote
    cases hquote
  cases opening with
  | none =>
    cases opening' with
    | none => exact ⟨rfl, hfromOpening⟩
    | some quote' => exact absurd hfromOpening.symm (hquote digits (hopening' _ rfl) hne hdigits)
  | some quote =>
    cases opening' with
    | none => exact absurd hfromOpening (hquote digits' (hopening _ rfl) hne' hdigits')
    | some quote' =>
      obtain ⟨rfl, hrest⟩ := List.cons.inj hfromOpening
      exact ⟨rfl, hrest⟩

end

/-! ## What the patterns read -/

namespace Setting

variable {form : Form} {part rest rest' : List Char} {kept : List (List Char)}

/-- What follows the digits of a whole setting is no digit. -/
theorem IsWhole.digits_stop {s : Setting} (h : s.IsWhole rest) :
    ∀ c ∈ (s.gap ++ (s.unit ++ rest)).head?, Text.isDigit c = false := by
  cases hunit : s.form.hasUnit with
  | false =>
    obtain ⟨hgap, hnone⟩ := s.bare hunit
    rw [IsWhole, Form.goesOn_bare hunit] at h
    rwa [hgap, hnone]
  | true =>
    cases hgap : s.gap with
    | nil =>
      exact stop_append (s.unit_ne hunit) (fun c hc => (letter_stops (s.unit_letter c hc)).1) rest
    | cons d gap =>
      rintro _ ⟨⟩
      exact (gap_stops (s.gap_blank d (by simp [hgap]))).1

/-- What follows the blanks before a unit is no such blank. -/
theorem gap_stop (s : Setting) (hunit : s.form.hasUnit = true) (rest : List Char) :
    ∀ c ∈ (s.unit ++ rest).head?, isGap c = false :=
  stop_append (s.unit_ne hunit) (fun c hc => (letter_stops (s.unit_letter c hc)).2) rest

/-- What follows the unit of a whole setting is no letter. -/
theorem IsWhole.unit_stop {s : Setting} (h : s.IsWhole rest) (hunit : s.form.hasUnit = true) :
    ∀ c ∈ rest.head?, isUnitLetter c = false := by
  rwa [IsWhole, Form.goesOn_unit hunit] at h

/-- What the pattern of a form reads starts with a setting that is not gone on with. -/
theorem exists_of_reads (h : form.pattern.Reads part kept rest) :
    ∃ (s : Setting) (behind : List Char), s.form = form ∧ part ++ rest = s.text ++ behind ∧
      s.IsWhole behind ∧ kept = s.kept := by
  unfold Form.pattern at h
  split at h
  · rename_i hunit
    obtain ⟨_, closing, _, _, htoUnit, hclosing, rfl, rfl⟩ := reads_append_iff.mp h
    obtain ⟨_, unit, _, _, htoGap, hkeep, rfl, rfl⟩ := reads_append_iff.mp htoUnit
    obtain ⟨_, gap, _, _, hsetting, hgap, rfl, rfl⟩ := reads_append_iff.mp htoGap
    obtain ⟨lead, digits, rfl, rfl, hne, hdigits, -⟩ := reads_expirySetting_iff.mp hsetting
    obtain ⟨hblank, -, rfl⟩ := reads_run_iff.mp hgap
    obtain ⟨_, hrun, rfl⟩ := reads_keep_iff.mp hkeep
    obtain ⟨hsome, hletters, hstop, rfl⟩ := reads_runOne_iff.mp hrun
    refine ⟨⟨form, lead, digits, gap, unit, hne, hdigits, hblank, hletters, fun _ => hsome,
      by simp [hunit]⟩, closing ++ rest, rfl, by simp [text], ?_, ?_⟩
    · rwa [IsWhole, Form.goesOn_unit hunit]
    · rcases reads_optional_iff.mp hclosing with hmark | ⟨-, rfl⟩
      · obtain ⟨_, -, -, rfl⟩ := reads_one_iff.mp hmark
        exact (if_pos hunit).symm
      · exact (if_pos hunit).symm
  · rename_i hbare
    obtain ⟨lead, digits, rfl, rfl, hne, hdigits, hstop⟩ := reads_expirySetting_iff.mp h
    have hunit : form.hasUnit = false := by simpa using hbare
    refine ⟨⟨form, lead, digits, [], [], hne, hdigits, nofun, nofun, by simp [hunit],
      fun _ => ⟨rfl, rfl⟩⟩, rest, rfl, by simp [text], ?_, (if_neg hbare).symm⟩
    rwa [IsWhole, Form.goesOn_bare hunit]

/-- And every setting that is not gone on with is read. -/
theorem reads {s : Setting} (h : s.IsWhole rest) : s.form.pattern.Reads s.text s.kept rest := by
  cases hunit : s.form.hasUnit with
  | false =>
    obtain ⟨hgap, hnone⟩ := s.bare hunit
    rw [Form.pattern, kept, text, hgap, hnone, if_neg (by simp [hunit]), if_neg (by simp [hunit]),
      List.append_nil, List.append_nil]
    refine reads_expirySetting_iff.mpr
      ⟨s.lead, s.digits, rfl, rfl, s.digits_ne, s.digits_digit, ?_⟩
    rwa [IsWhole, Form.goesOn_bare hunit] at h
  | true =>
    have hsetting : (expirySetting s.form.name).Reads (s.lead.text ++ s.digits) [s.digits]
        (s.gap ++ (s.unit ++ rest)) :=
      reads_expirySetting_iff.mpr
        ⟨s.lead, s.digits, rfl, rfl, s.digits_ne, s.digits_digit, h.digits_stop⟩
    have hgap : (run isGap).Reads s.gap [] (s.unit ++ rest) :=
      .run s.gap_blank (s.gap_stop hunit rest)
    have hletters : (keep (runOne isUnitLetter)).Reads s.unit [s.unit] rest :=
      .keep (reads_runOne_iff.mpr ⟨s.unit_ne hunit, s.unit_letter, h.unit_stop hunit, rfl⟩)
    have hclosing : (optional (one isQuote)).Reads [] [] rest :=
      reads_optional_iff.mpr (.inr ⟨rfl, rfl⟩)
    have htext : s.text = s.lead.text ++ s.digits ++ s.gap ++ s.unit ++ [] := by simp [text]
    rw [Form.pattern, kept, if_pos hunit, if_pos hunit, htext]
    exact ((hsetting.seq hgap).seq hletters).seq hclosing

/-- A text starts with one setting of a form at most that is not gone on with. -/
theorem text_append_inj {s t : Setting} (hform : s.form = t.form) (hs : s.IsWhole rest)
    (ht : t.IsWhole rest') (h : s.text ++ rest = t.text ++ rest') : s = t := by
  have hdigits := hs.digits_stop
  have hdigits' := ht.digits_stop
  have hgap := s.gap_stop
  have hgap' := t.gap_stop
  have hunit := hs.unit_stop
  have hunit' := ht.unit_stop
  obtain ⟨form, lead, digits, gap, unit, hne, hdigit, hblank, hletter, _, hbare⟩ := s
  obtain ⟨_, lead', digits', gap', unit', hne', hdigit', hblank', hletter', _, hbare'⟩ := t
  obtain rfl := hform
  simp only [text, List.append_assoc] at h hdigits hdigits' hgap hgap' hunit hunit'
  obtain ⟨rfl, hfromDigits⟩ := Lead.text_append_inj hne hne' hdigit hdigit' h
  obtain ⟨rfl, hfromGap⟩ := append_inj_of_stop hdigit hdigit' hdigits hdigits' hfromDigits
  cases hform : form.hasUnit with
  | false =>
    obtain ⟨rfl, rfl⟩ := hbare hform
    obtain ⟨rfl, rfl⟩ := hbare' hform
    rfl
  | true =>
    obtain ⟨rfl, hfromUnit⟩ := append_inj_of_stop hblank hblank' (hgap hform rest)
      (hgap' hform rest') hfromGap
    obtain ⟨rfl, -⟩ := append_inj_of_stop hletter hletter' (hunit hform) (hunit' hform) hfromUnit
    rfl

/-- Where a setting stands, one that is not gone on with stands. -/
theorem exists_whole (s : Setting) (rest : List Char) : ∃ (t : Setting) (behind : List Char),
    t.form = s.form ∧ s.text ++ rest = t.text ++ behind ∧ t.IsWhole behind := by
  have hrun (set : Char → Bool) : rest.takeWhile set ++ rest.dropWhile set = rest :=
    List.takeWhile_append_dropWhile
  cases hunit : s.form.hasUnit with
  | false =>
    obtain ⟨hgap, hnone⟩ := s.bare hunit
    refine ⟨{ s with
      digits := s.digits ++ rest.takeWhile Text.isDigit
      digits_ne := by simp [s.digits_ne]
      digits_digit := List.forall_mem_append.mpr
        ⟨s.digits_digit, fun c hc => List.mem_takeWhile_imp hc⟩ },
      rest.dropWhile Text.isDigit, rfl, ?_, ?_⟩
    · simp [text, hgap, hnone]
    · rw [IsWhole, Form.goesOn_bare hunit]
      exact notMem_head?_dropWhile Text.isDigit rest
  | true =>
    refine ⟨{ s with
      unit := s.unit ++ rest.takeWhile isUnitLetter
      unit_letter := List.forall_mem_append.mpr
        ⟨s.unit_letter, fun c hc => List.mem_takeWhile_imp hc⟩
      unit_ne := fun _ => by simp [s.unit_ne hunit]
      bare := by simp [hunit] }, rest.dropWhile isUnitLetter, rfl, ?_, ?_⟩
    · simp [text]
    · rw [IsWhole, Form.goesOn_unit hunit]
      exact notMem_head?_dropWhile isUnitLetter rest

/-! ## Places -/

variable {code : List Char} {place place' : Nat}

/-- The setting stands at the place and is not gone on with. -/
def IsWholeAt (s : Setting) (code : List Char) (place : Nat) : Prop :=
  ∃ before rest, code = before ++ (s.text ++ rest) ∧ before.length = place ∧ s.IsWhole rest

/-- It stands there. -/
theorem IsWholeAt.standsAt {s : Setting} (h : s.IsWholeAt code place) :
    StandsAt s.text code place := by
  obtain ⟨before, rest, hcode, hbefore, -⟩ := h
  exact ⟨before, rest, hcode, hbefore⟩

/-- At one place one setting of a form stands at most that is not gone on with. -/
theorem IsWholeAt.unique {s t : Setting} (hs : s.IsWholeAt code place) (ht : t.IsWholeAt code place)
    (hform : s.form = t.form) : s = t := by
  obtain ⟨before, rest, hcode, hbefore, hwhole⟩ := hs
  obtain ⟨before', rest', hcode', hbefore', hwhole'⟩ := ht
  obtain ⟨-, hrest⟩ := List.append_inj (hcode.symm.trans hcode') (hbefore.trans hbefore'.symm)
  exact text_append_inj hform hwhole hwhole' hrest

/-- Where the pattern of a form is read, such a setting stands, and it tells what is kept. -/
theorem exists_of_isReadAt {o : Occurrence} (h : form.pattern.IsReadAt code o) :
    ∃ s : Setting, s.form = form ∧ s.IsWholeAt code o.offset ∧ o.kept = s.kept := by
  obtain ⟨before, rest, hcode, hbefore, hread⟩ := h
  obtain ⟨part, kept, rest', hreads, htext, hreading⟩ := reads_of_read? hread
  obtain ⟨s, behind, hform, hpart, hwhole, hkept⟩ := exists_of_reads hreads
  rw [htext, hpart] at hcode
  exact ⟨s, hform, ⟨before, behind, hcode, hbefore, hwhole⟩,
    (congrArg Reading.kept hreading).trans hkept⟩

/-- Where a setting stands, gone on with or not, the pattern of its form is read. -/
theorem exists_isReadAt {s : Setting} (h : StandsAt s.text code place) :
    ∃ o, s.form.pattern.IsReadAt code o ∧ o.offset = place := by
  obtain ⟨before, rest, hcode, rfl⟩ := h
  obtain ⟨t, behind, hform, htext, hwhole⟩ := s.exists_whole rest
  rw [htext] at hcode
  rw [← hform]
  exact Pattern.exists_isReadAt (reads hwhole) hcode

end Setting

/-- A setting of the form stands somewhere in the text. -/
def Form.Occurs (form : Form) (code : List Char) : Prop :=
  ∃ (s : Setting) (place : Nat), s.form = form ∧ StandsAt s.text code place

/-- A search for the pattern of a form comes to nothing where no setting of the form stands. -/
theorem Form.find?_eq_none_iff {form : Form} {code : List Char} :
    form.pattern.find? code = none ↔ ¬ form.Occurs code := by
  rw [Pattern.find?_eq_none_iff]
  constructor
  · rintro hnone ⟨s, place, rfl, hs⟩
    obtain ⟨o, ho, -⟩ := Setting.exists_isReadAt hs
    exact hnone o ho
  · intro hnone o ho
    obtain ⟨s, hform, hs, -⟩ := Setting.exists_of_isReadAt ho
    exact hnone ⟨s, o.offset, hform, hs.standsAt⟩

/-! ## The setting that decides -/

/-- The setting at the place decides about the expiry: it is not gone on with, no setting of its form
stands before it, and no form that is preferred to its own occurs anywhere. -/
structure Setting.Decides (s : Setting) (code : List Char) (place : Nat) : Prop where
  whole : s.IsWholeAt code place
  first : ∀ (other : Setting) (place' : Nat), other.form = s.form →
    StandsAt other.text code place' → place ≤ place'
  preferred : ∃ earlier later, forms = earlier ++ s.form :: later ∧
    ∀ form ∈ earlier, ¬ form.Occurs code

/-- The part is a whole run of the set at the place of the text: neither before it nor behind it a
character of the set stands. -/
def IsWholeRun (set : Char → Bool) (part text : List Char) (place : Nat) : Prop :=
  ∃ before rest, text = before ++ (part ++ rest) ∧ before.length = place ∧
    (∀ c ∈ part, set c = true) ∧ (∀ c ∈ before.getLast?, set c = false) ∧
      ∀ c ∈ rest.head?, set c = false

namespace Setting

variable {s t : Setting} {code : List Char} {place place' : Nat}

/-- No digit stands before the number. -/
theorem getLast?_lead (s : Setting) (before : List Char) :
    ∀ c ∈ (before ++ s.lead.text).getLast?, Text.isDigit c = false := by
  have htext : before ++ s.lead.text = before ++ s.lead.spelled ++ s.lead.before ++
      s.lead.sign :: (s.lead.behind ++ s.lead.opening.toList) := by simp [Lead.text]
  intro c hc
  rw [htext, List.getLast?_append_of_ne_nil _ (List.cons_ne_nil _ _)] at hc
  refine Bool.eq_false_iff.mpr fun hdigit => ?_
  obtain ⟨hblank, hquote, -⟩ := digit_stops c hdigit
  rcases List.mem_cons.mp (List.mem_of_getLast? hc) with rfl | hmem
  · have hsign := s.lead.sign_mem
    rw [Bool.or_eq_true, beq_iff_eq, beq_iff_eq] at hsign
    rcases hsign with hsign | hsign <;> rw [hsign] at hdigit <;> cases hdigit
  · rcases List.mem_append.mp hmem with hbehind | hopening
    · rw [s.lead.behind_blank c hbehind] at hblank
      cases hblank
    · rw [s.lead.opening_quote c (Option.mem_toList.mp hopening)] at hquote
      cases hquote

/-- **The number of a setting that decides is a whole run of digits.** -/
theorem Decides.digits_whole (h : s.Decides code place) :
    IsWholeRun Text.isDigit s.digits code (place + s.lead.text.length) := by
  obtain ⟨before, rest, rfl, rfl, hwhole⟩ := h.whole
  exact ⟨before ++ s.lead.text, s.gap ++ (s.unit ++ rest), by simp [text], by simp,
    s.digits_digit, s.getLast?_lead before, hwhole.digits_stop⟩

/-- The form of a setting that decides occurs. -/
theorem Decides.occurs (h : s.Decides code place) : s.form.Occurs code :=
  ⟨s, place, rfl, h.whole.standsAt⟩

/-- It is one of the forms. -/
theorem Decides.form_mem (h : s.Decides code place) : s.form ∈ forms := by
  obtain ⟨earlier, later, hforms, -⟩ := h.preferred
  simp [hforms]

/-- One setting at most decides. -/
theorem Decides.unique (hs : s.Decides code place) (ht : t.Decides code place') :
    s = t ∧ place = place' := by
  obtain ⟨earlier, later, hforms, hnone⟩ := hs.preferred
  obtain ⟨earlier', later', hforms', hnone'⟩ := ht.preferred
  -- a form that comes before the other's occurs nowhere, though both occur
  have hform : s.form = t.form := by
    rcases List.append_eq_append_iff.mp (hforms.symm.trans hforms') with
      ⟨_ | ⟨form, more⟩, rfl, hrest⟩ | ⟨_ | ⟨form, more⟩, rfl, hrest⟩
    · exact (List.cons.inj hrest).1
    · obtain ⟨rfl, -⟩ := List.cons.inj hrest
      exact absurd hs.occurs (hnone' _ (by simp))
    · exact (List.cons.inj hrest).1.symm
    · obtain ⟨rfl, -⟩ := List.cons.inj hrest
      exact absurd ht.occurs (hnone _ (by simp))
  obtain rfl : place = place' := Nat.le_antisymm
    (hs.first t place' hform.symm ht.whole.standsAt) (ht.first s place hform hs.whole.standsAt)
  exact ⟨hs.whole.unique ht.whole hform, rfl⟩

/-- What is kept of a setting tells what it sets. -/
theorem expirySeconds_kept (s : Setting) : (expirySeconds s.kept).map some = s.reading := by
  unfold kept reading seconds
  by_cases hunit : s.form.hasUnit = true
  · rw [if_pos hunit, if_pos hunit, expirySeconds, readNumeral]
    split <;> rfl
  · rw [if_neg hunit, if_neg hunit, expirySeconds, readNumeral, Nat.mul_one]
    split <;> rfl

/-- A setting sets a number of seconds unless it has too many digits. -/
theorem reading_eq_ok_iff {n : Nat} :
    s.reading = .ok (some n) ↔ s.digits.length ≤ 4300 ∧ n = s.seconds := by
  unfold reading
  split
  · rename_i hlong
    exact ⟨nofun, fun ⟨hshort, _⟩ => absurd hlong (Nat.not_lt.mpr hshort)⟩
  · rename_i hshort
    rw [Except.ok.injEq, Option.some.injEq, eq_comm]
    exact ⟨fun h => ⟨Nat.not_lt.mp hshort, h⟩, And.right⟩

/-- And it is refused if it has. -/
theorem reading_eq_error_iff {failure : Failure} : s.reading = .error failure ↔
    4300 < s.digits.length ∧ failure = .tooManyDigits s.digits.length := by
  unfold reading
  split
  · rename_i hlong
    rw [Except.error.injEq, eq_comm]
    exact ⟨fun h => ⟨hlong, h⟩, And.right⟩
  · rename_i hshort
    exact ⟨nofun, fun ⟨hlong, _⟩ => absurd hlong hshort⟩

end Setting

/-! ## The law -/

/-- The search comes to nothing where no form occurs. -/
theorem findSome?_eq_none_iff {code : List Char} :
    expiryForms.findSome? (·.find? code) = none ↔ ∀ form ∈ forms, ¬ form.Occurs code := by
  rw [expiryForms_eq, List.findSome?_map, List.findSome?_eq_none_iff]
  exact forall₂_congr fun form _ => Form.find?_eq_none_iff

/-- What the search comes to is what a setting that decides tells. -/
theorem exists_decides {code : List Char} {found : Occurrence}
    (h : expiryForms.findSome? (·.find? code) = some found) :
    ∃ (s : Setting) (place : Nat), s.Decides code place ∧ found.kept = s.kept := by
  rw [expiryForms_eq, List.findSome?_map] at h
  obtain ⟨earlier, form, later, hforms, hfound, hnone⟩ := List.findSome?_eq_some_iff.mp h
  obtain ⟨hread, hfirst⟩ := Pattern.find?_eq_some_iff.mp hfound
  obtain ⟨s, rfl, hwhole, hkept⟩ := Setting.exists_of_isReadAt hread
  refine ⟨s, found.offset, ⟨hwhole, fun other place' hform hstands => ?_, earlier, later, hforms,
    fun form hmem => Form.find?_eq_none_iff.mp (hnone form hmem)⟩, hkept⟩
  obtain ⟨o, ho, rfl⟩ := Setting.exists_isReadAt hstands
  rw [hform] at ho
  exact hfirst o ho

/-- A text sets nothing, or what the setting that decides sets. -/
theorem expiry?_cases (code : String) :
    (∀ form ∈ forms, ¬ form.Occurs code.toList) ∧ expiry? code = .ok none ∨
      ∃ (s : Setting) (place : Nat), s.Decides code.toList place ∧ expiry? code = s.reading := by
  cases hfound : expiryForms.findSome? (·.find? code.toList) with
  | none => exact .inl ⟨findSome?_eq_none_iff.mp hfound, by simp only [expiry?, hfound]⟩
  | some found =>
    obtain ⟨s, place, hs, hkept⟩ := exists_decides hfound
    refine .inr ⟨s, place, hs, ?_⟩
    simp only [expiry?, hfound, hkept, s.expirySeconds_kept]

/-- A text in which a setting decides sets what that setting does. -/
theorem expiry?_of_decides {code : String} {s : Setting} {place : Nat}
    (h : s.Decides code.toList place) : expiry? code = s.reading := by
  rcases expiry?_cases code with ⟨hnone, -⟩ | ⟨t, place', ht, hresult⟩
  · exact absurd h.occurs (hnone s.form h.form_mem)
  · rwa [(h.unique ht).1]

/-- What is set, or refused, is so by a setting that decides. -/
theorem expiry?_eq_iff {code : String} {result : Except Failure (Option Nat)}
    (hsome : result ≠ .ok none) : expiry? code = result ↔
      ∃ (s : Setting) (place : Nat), s.Decides code.toList place ∧ s.reading = result := by
  constructor
  · rintro rfl
    rcases expiry?_cases code with ⟨-, hresult⟩ | ⟨s, place, hs, hresult⟩
    · exact absurd hresult hsome
    · exact ⟨s, place, hs, hresult.symm⟩
  · rintro ⟨s, place, hs, rfl⟩
    exact expiry?_of_decides hs

/-- Nothing is set exactly where no form occurs. -/
theorem expiry?_eq_none_iff {code : String} :
    expiry? code = .ok none ↔ ∀ form ∈ forms, ¬ form.Occurs code.toList := by
  rcases expiry?_cases code with ⟨hnone, hresult⟩ | ⟨s, place, hs, hresult⟩
  · exact ⟨fun _ => hnone, fun _ => hresult⟩
  · constructor
    · intro hnothing
      rw [hresult, Setting.reading] at hnothing
      split at hnothing <;> cases hnothing
    · intro hnone
      exact absurd hs.occurs (hnone s.form hs.form_mem)

/-- **The expiry that a text sets** is that of the setting that decides: the first setting of the
first form that occurs anywhere, wherever settings of later forms stand. Its number is a whole run
of digits, and it is multiplied with the seconds of its unit if it has one. Nothing is set exactly
if no form occurs, and a number is refused exactly if the setting that decides has more than 4300
digits. -/
theorem expiry?_follows_setting (code : String) :
    (expiry? code = .ok none ↔ ∀ form ∈ forms, ¬ form.Occurs code.toList) ∧
    (∀ n, expiry? code = .ok (some n) ↔ ∃ (s : Setting) (place : Nat),
      s.Decides code.toList place ∧ s.digits.length ≤ 4300 ∧ n = s.seconds) ∧
    (∀ failure, expiry? code = .error failure ↔ ∃ (s : Setting) (place : Nat),
      s.Decides code.toList place ∧ 4300 < s.digits.length ∧
        failure = .tooManyDigits s.digits.length) ∧
    (∀ (s : Setting) (place : Nat), s.Decides code.toList place →
      IsWholeRun Text.isDigit s.digits code.toList (place + s.lead.text.length)) ∧
    ∀ (s t : Setting) (place place' : Nat), s.Decides code.toList place →
      t.Decides code.toList place' → s = t ∧ place = place' := by
  refine ⟨expiry?_eq_none_iff, fun n => ?_, fun failure => ?_, fun s place hs => hs.digits_whole,
    fun s t place place' hs ht => hs.unique ht⟩
  · rw [expiry?_eq_iff (by simp)]
    exact exists_congr fun s => exists_congr fun place => and_congr_right fun _ =>
      Setting.reading_eq_ok_iff
  · rw [expiry?_eq_iff (by simp)]
    exact exists_congr fun s => exists_congr fun place => and_congr_right fun _ =>
      Setting.reading_eq_error_iff

-- Two settings stand before the one that decides: one of a later form, and one without a unit.
example : (expiry? "JWT_EXPIRY=1d; expiresIn: 5, expiresIn: '2h'").toOption = some (some 7200) := by
  decide +kernel

end Preflight.Source
