import Preflight.Json.Parser
import Preflight.Json.Printer

/-!
# Numbers that are read back

An integer within the limit of digits is read back from what is written for it, where something
follows that no number goes on with (`Breaks`).
-/

set_option autoImplicit false

namespace Preflight.Json

/-- No number goes on with what follows. -/
def Breaks (rest : List Char) : Prop :=
  ∀ c ∈ rest.head?, isBlank c = true ∨ c = ',' ∨ c = ']' ∨ c = '\x7d'

namespace Breaks

variable {rest : List Char}

theorem nil : Breaks [] := nofun

theorem cons {c : Char} (h : isBlank c = true ∨ c = ',' ∨ c = ']' ∨ c = '\x7d') :
    Breaks (c :: rest) := by
  rintro d ⟨⟩
  exact h

/-- What follows starts neither with a digit, nor with a point, nor with the letter of an
exponent. -/
theorem noNumber (h : Breaks rest) :
    ∀ c ∈ rest.head?, Text.isAsciiDigit c = false ∧ c ≠ '.' ∧ c ≠ 'e' ∧ c ≠ 'E' := by
  intro c hc
  have hblank : isBlank c = true → c = ' ' ∨ c = '\t' ∨ c = '\n' ∨ c = '\r' := by
    simp only [isBlank, Bool.or_eq_true, beq_iff_eq, or_assoc]
    exact id
  rcases h c hc with hc | rfl | rfl | rfl
  · rcases hblank hc with rfl | rfl | rfl | rfl <;> decide
  all_goals decide

end Breaks

/-! ## Digits -/

/-- The digits of a number. -/
abbrev digitsOf (n : Nat) : List Char := Nat.toDigits 10 n

theorem ne_of_isAsciiDigit {c d : Char} (hc : Text.isAsciiDigit c = true)
    (hd : Text.isAsciiDigit d = false) : d ≠ c := by
  rintro rfl
  rw [hc] at hd
  cases hd

theorem isAsciiDigit_of_mem {n : Nat} {c : Char} (h : c ∈ digitsOf n) :
    Text.isAsciiDigit c = true := by
  have hdigit := Nat.isDigit_of_mem_toDigits (by decide) (by decide) h
  simp only [Char.isDigit, Bool.and_eq_true, decide_eq_true_eq] at hdigit
  rw [Text.isAsciiDigit, Bool.and_eq_true, decide_eq_true_eq, decide_eq_true_eq]
  exact hdigit

/-- Digits write the number that they are the digits of. -/
theorem numeral_digitsOf (n : Nat) : Text.numeral (digitsOf n) = n := by
  have hfold : ∀ chars : List Char, (∀ c ∈ chars, Text.isAsciiDigit c = true) → ∀ total,
      chars.foldl (fun total c => total * 10 + Text.digitValue c) total =
        Nat.ofDigitChars 10 chars total := by
    intro chars
    induction chars with
    | nil => exact fun _ _ => rfl
    | cons c chars ih =>
      intro hchars total
      obtain ⟨hc, hrest⟩ := List.forall_mem_cons.mp hchars
      have hvalue : Text.digitValue c = c.toNat - '0'.toNat := if_pos hc
      rw [List.foldl_cons, ih hrest, Nat.ofDigitChars_cons, hvalue, Nat.mul_comm]
  rw [Text.numeral, hfold _ (fun c hc => isAsciiDigit_of_mem hc),
    Nat.ofDigitChars_toDigits (by decide) (by decide)]

/-- Digits are a zero alone, or start with another digit. -/
theorem digitsOf_cases (n : Nat) :
    digitsOf n = ['0'] ∨ ∃ c rest, digitsOf n = c :: rest ∧ c ≠ '0' := by
  induction n using Nat.strongRecOn with
  | ind n ih =>
    by_cases hsmall : n < 10
    · have hdigit : ∀ n < 10, n ≠ 0 → Nat.digitChar n ≠ '0' := by decide
      rw [digitsOf, Nat.toDigits_of_lt_base hsmall]
      by_cases hzero : n = 0
      · rw [hzero]
        exact .inl rfl
      · exact .inr ⟨_, [], rfl, hdigit n hsmall hzero⟩
    · rw [digitsOf, Nat.toDigits_of_base_le (by decide) (by omega)]
      obtain hzero | ⟨c, rest, hdigits, hc⟩ := ih (n / 10) (by omega)
      · have hvalue := numeral_digitsOf (n / 10)
        rw [hzero, show Text.numeral ['0'] = 0 from rfl] at hvalue
        omega
      · exact .inr ⟨c, _, by rw [← digitsOf, hdigits, List.cons_append], hc⟩

theorem digitsOf_starts (n : Nat) :
    ∃ c more, digitsOf n = c :: more ∧ Text.isAsciiDigit c = true := by
  obtain hzero | ⟨c, more, hdigits, -⟩ := digitsOf_cases n
  · exact ⟨'0', [], hzero, by decide⟩
  · exact ⟨c, more, hdigits, isAsciiDigit_of_mem (n := n) (by simp [hdigits])⟩

theorem toList_toString (n : Nat) : (toString n).toList = digitsOf n := by
  rw [Nat.toString_eq_ofList_toDigits, String.toList_ofList]

theorem spanDigits_append {digits rest : List Char} (h : ∀ c ∈ digits, Text.isAsciiDigit c = true)
    (hrest : Breaks rest) : spanDigits (digits ++ rest) = (digits, rest) := by
  rw [spanDigits, List.takeWhile_append_of_pos h, List.dropWhile_append_of_pos h]
  cases rest with
  | nil => simp
  | cons c rest => simp [(hrest.noNumber c rfl).1]

/-! ## Numbers -/

variable {limit : Nat} {rest : List Char}

theorem spanWhole_append (n : Nat) (hrest : Breaks rest) :
    spanWhole (digitsOf n ++ rest) = (digitsOf n, rest) := by
  obtain hzero | ⟨c, more, hdigits, hc⟩ := digitsOf_cases n
  · rw [hzero]
    rfl
  · have hspan := spanDigits_append (fun c hc => isAsciiDigit_of_mem (n := n) hc) hrest
    rw [hdigits] at hspan ⊢
    rw [← hspan, List.cons_append, spanWhole]
    rintro _ ⟨⟩
    exact hc rfl

theorem spanFraction_of_breaks (hrest : Breaks rest) : spanFraction rest = ([], rest) := by
  cases rest with
  | nil => rfl
  | cons c rest =>
    rw [spanFraction]
    rintro _ ⟨⟩
    exact (hrest.noNumber _ rfl).2.1 rfl

theorem spanExponent_of_breaks (hrest : Breaks rest) : spanExponent rest = (none, rest) := by
  cases rest with
  | nil => rfl
  | cons c rest =>
    obtain ⟨-, -, he, hE⟩ := hrest.noNumber c rfl
    unfold spanExponent
    exact if_neg (by simp [he, hE])

/-- The digits of a short integer are read behind its sign. -/
theorem readNumber_append {n : Nat} (h : (digitsOf n).length ≤ limit) (negative : Bool)
    (hrest : Breaks rest) : readNumber limit negative (digitsOf n ++ rest) =
      .ok (.int (if negative then -(n : Int) else n), rest) := by
  have hne : digitsOf n ≠ [] := by
    obtain ⟨c, more, hdigits, -⟩ := digitsOf_starts n
    simp [hdigits]
  have hnumeral := numeral_digitsOf n
  unfold readNumber
  rw [spanWhole_append n hrest]
  split
  · rename_i heq
    exact absurd (congrArg Prod.fst heq) hne
  · rename_i whole rest' _ heq
    obtain ⟨rfl, rfl⟩ := Prod.mk.inj heq
    simp only [spanFraction_of_breaks hrest, spanExponent_of_breaks hrest, hnumeral,
      List.isEmpty_nil, Option.isNone_none, Bool.and_self, if_true]
    exact if_neg (by omega)

/-! ## Signs -/

/-- No word starts with a digit, with a sign in front or not. -/
theorem readScalar_of_digit {c : Char} (h : Text.isAsciiDigit c = true) (more : List Char) :
    readScalar limit (c :: more) = readNumber limit false (c :: more) ∧
      readScalar limit ('-' :: c :: more) = readNumber limit true (c :: more) := by
  have hn : 'n' ≠ c := ne_of_isAsciiDigit h (by decide)
  have ht : 't' ≠ c := ne_of_isAsciiDigit h (by decide)
  have hf : 'f' ≠ c := ne_of_isAsciiDigit h (by decide)
  have hN : 'N' ≠ c := ne_of_isAsciiDigit h (by decide)
  have hI : 'I' ≠ c := ne_of_isAsciiDigit h (by decide)
  have hsign : '-' ≠ c := ne_of_isAsciiDigit h (by decide)
  have hnone : ∀ entry ∈ literals, afterWord? entry.1 (c :: more) = none ∧
      afterWord? entry.1 ('-' :: c :: more) = none := by
    simp [literals, afterWord?, *]
  constructor
  · rw [readScalar, List.findSome?_eq_none_iff.mpr]
    · intro entry hentry
      exact congrArg (Option.map _) (hnone entry hentry).1
    · rintro _ ⟨⟩
      exact hsign rfl
  · rw [readScalar, List.findSome?_eq_none_iff.mpr]
    intro entry hentry
    exact congrArg (Option.map _) (hnone entry hentry).2

/-- An integer is written as its digits, behind a sign if it is negative. -/
theorem toString_cases (n : Int) :
    n = n.natAbs ∧ (toString n).toList = digitsOf n.natAbs ∨
      n = -(n.natAbs : Int) ∧ (toString n).toList = '-' :: digitsOf n.natAbs := by
  cases n with
  | ofNat m => exact .inl ⟨rfl, toList_toString m⟩
  | negSucc m =>
    refine .inr ⟨rfl, ?_⟩
    rw [Int.natAbs_negSucc, ← toList_toString]
    exact String.toList_append

theorem toString_starts (n : Int) :
    ∃ c more, (toString n).toList = c :: more ∧ (Text.isAsciiDigit c = true ∨ c = '-') := by
  obtain ⟨c, more, hdigits, hc⟩ := digitsOf_starts n.natAbs
  obtain ⟨-, htext⟩ | ⟨-, htext⟩ := toString_cases n
  · exact ⟨c, more, htext.trans hdigits, .inl hc⟩
  · exact ⟨'-', _, htext, .inr rfl⟩

/-- **What is written for a short integer is read back.** -/
theorem readScalar_int {n : Int} (h : IsShort limit n) (hrest : Breaks rest) :
    readScalar limit ((toString n).toList ++ rest) = .ok (.int n, rest) := by
  obtain ⟨c, more, hdigits, hc⟩ := digitsOf_starts n.natAbs
  obtain ⟨hn, htext⟩ | ⟨hn, htext⟩ := toString_cases n
  · have hread := readNumber_append h false hrest
    rw [htext]
    rw [hdigits] at hread ⊢
    rw [List.cons_append, (readScalar_of_digit hc _).1, hn]
    exact hread
  · have hread := readNumber_append h true hrest
    rw [htext]
    rw [hdigits] at hread ⊢
    rw [List.cons_append, List.cons_append, (readScalar_of_digit hc _).2, hn]
    exact hread

/-! ## Numbers in values -/

theorem numbersOfItems_eq (items : List Value) :
    numbersOfItems items = items.flatMap Value.numbers := by
  induction items with
  | nil => rfl
  | cons item items ih => rw [numbersOfItems, ih, List.flatMap_cons]

theorem numbersOfFields_eq (fields : List (Text × Value)) :
    numbersOfFields fields = fields.flatMap fun field => field.2.numbers := by
  induction fields with
  | nil => rfl
  | cons field fields ih => rw [numbersOfFields, ih, List.flatMap_cons]

theorem Value.numbers_list (items : List Value) :
    (Value.list items).numbers = items.flatMap Value.numbers := numbersOfItems_eq items

theorem Value.numbers_record (fields : List (String × Value)) :
    (Value.record fields).numbers = fields.flatMap fun field => field.2.numbers := by
  rw [Value.record, Value.numbers, numbersOfFields_eq, List.flatMap_map]

/-- A value is written exactly if its numbers are short. -/
theorem Value.indented_eq_ok {v : Value} (h : ∀ n ∈ v.numbers, IsShort digitLimit n) :
    v.indented = .ok (String.ofList (write .indented 0 v)) := if_pos h

theorem Value.indented_eq_error {v : Value} (h : ¬ ∀ n ∈ v.numbers, IsShort digitLimit n) :
    v.indented = .error .numberTooLong := if_neg h

end Preflight.Json
