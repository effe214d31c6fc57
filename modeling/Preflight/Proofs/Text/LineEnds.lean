import Preflight.Text.Utf8

/-!
# Line ends of files

A text is the same whether its lines end with a line feed or with a return and a line feed
(`fileText_withReturns`), as long as no return stood in it before. A line end is written by bytes of
its own: no character goes on with one, and no broken character reaches beyond it
(`firstChar?_takeWhile`). So the law holds for all bytes, also where they write no character.
-/

set_option autoImplicit false

namespace Preflight.Text.Utf8

/-- The byte of a line feed. -/
def feed : UInt8 := 10

/-- The byte of a return. -/
def carriageReturn : UInt8 := 13

/-- The bytes with a return in front of every line feed. -/
def withReturns : List UInt8 → List UInt8
  | [] => []
  | b :: rest =>
    if b = feed then carriageReturn :: feed :: withReturns rest else b :: withReturns rest

theorem withReturns_of_ne {b : UInt8} (hb : b ≠ feed) (rest : List UInt8) :
    withReturns (b :: rest) = b :: withReturns rest := by
  rw [withReturns, if_neg hb]

/-! ## First characters -/

theorem code_of_two {a b : UInt8} (h : (0xC2 ≤ a && a < 0xE0) = true) :
    0x80 ≤ a.toNat % 0x20 * 0x40 + payload b := by
  simp only [Bool.and_eq_true, decide_eq_true_eq, UInt8.le_iff_toNat_le, UInt8.lt_iff_toNat_lt,
    UInt8.reduceToNat] at h
  omega

theorem code_of_three {a b c : UInt8} (h : (0xE0 ≤ a && a < 0xF0) = true)
    (hb : isContinuation b = true)
    (hshortest : ((a == 0xE0 && b < 0xA0) || (a == 0xED && b ≥ 0xA0)) = false) :
    0x80 ≤ a.toNat % 0x10 * 0x1000 + payload b * 0x40 + payload c := by
  simp only [isContinuation, Bool.and_eq_true, Bool.or_eq_false_iff, Bool.and_eq_false_imp,
    beq_iff_eq, decide_eq_true_eq, decide_eq_false_iff_not, UInt8.le_iff_toNat_le,
    UInt8.lt_iff_toNat_lt, ← UInt8.toNat_inj, UInt8.reduceToNat] at h hb hshortest
  simp only [payload]
  omega

theorem code_of_four {a b c d : UInt8} (h : (0xF0 ≤ a && a < 0xF5) = true)
    (hb : isContinuation b = true)
    (hshortest : ((a == 0xF0 && b < 0x90) || (a == 0xF4 && b ≥ 0x90)) = false) :
    0x80 ≤ a.toNat % 0x08 * 0x40000 + payload b * 0x1000 + payload c * 0x40 + payload d := by
  simp only [isContinuation, Bool.and_eq_true, Bool.or_eq_false_iff, Bool.and_eq_false_imp,
    beq_iff_eq, decide_eq_true_eq, decide_eq_false_iff_not, UInt8.le_iff_toNat_le,
    UInt8.lt_iff_toNat_lt, ← UInt8.toNat_inj, UInt8.reduceToNat] at h hb hshortest
  simp only [payload]
  omega

/-- **What a first character is**: that of one byte of ASCII, or one beyond ASCII that is written
with no more bytes than there are. -/
theorem firstChar?_cases {a : UInt8} {rest : List UInt8} {c : Char} {length : Nat}
    (h : firstChar? (a :: rest) = some (c, length)) :
    a < 0x80 ∧ c = Char.ofNat a.toNat ∧ length = 1 ∨
      ∃ code, 0x80 ≤ code ∧ c = Char.ofNat code ∧ length ≤ rest.length + 1 := by
  unfold firstChar? at h
  dsimp only at h
  split at h
  · rename_i hascii
    cases h
    exact .inl ⟨hascii, rfl, rfl⟩
  right
  split at h
  · cases h
  split at h
  · cases h
  rename_i hgoes
  split at h
  · rename_i htwo
    cases h
    exact ⟨_, code_of_two htwo, rfl, by simp⟩
  split at h
  · cases h
  split at h
  · cases h
  split at h
  · split at h
    · cases h
    rename_i hthree hshortest
    cases h
    exact ⟨_, code_of_three hthree (by simpa using hgoes) (by simpa using hshortest), rfl, by simp⟩
  split at h
  · cases h
  split at h
  · cases h
  split at h
  · split at h
    · cases h
    rename_i hfour hshortest
    cases h
    exact ⟨_, code_of_four hfour (by simpa using hgoes) (by simpa using hshortest), rfl, by simp⟩
  · cases h

/-- A first character is told from the bytes that may go on with it. -/
theorem firstChar?_takeWhile (a : UInt8) (rest : List UInt8) :
    firstChar? (a :: rest.takeWhile isContinuation) = firstChar? (a :: rest) := by
  rcases rest with _ | ⟨b, rest⟩
  · rfl
  cases hb : isContinuation b
  · rw [List.takeWhile_cons_of_neg (by simp [hb])]
    simp only [firstChar?, hb, Bool.not_false, if_true]
  rw [List.takeWhile_cons_of_pos hb]
  rcases rest with _ | ⟨c, rest⟩
  · rfl
  cases hc : isContinuation c
  · rw [List.takeWhile_cons_of_neg (by simp [hc])]
    simp only [firstChar?, hb, hc, Bool.not_false, if_true]
  rw [List.takeWhile_cons_of_pos hc]
  rcases rest with _ | ⟨d, rest⟩
  · rfl
  cases hd : isContinuation d
  · rw [List.takeWhile_cons_of_neg (by simp [hd])]
    simp only [firstChar?, hb, hc, hd, Bool.not_false, if_true]
  rw [List.takeWhile_cons_of_pos hd]
  simp only [firstChar?, hb, hc, hd]

/-- All bytes of a first character but the first go on with it. -/
theorem length_of_firstChar? {a : UInt8} {rest : List UInt8} {c : Char} {length : Nat}
    (h : firstChar? (a :: rest) = some (c, length)) :
    length - 1 ≤ (rest.takeWhile isContinuation).length := by
  rw [← firstChar?_takeWhile] at h
  obtain ⟨-, -, rfl⟩ | ⟨_, -, -, hlength⟩ := firstChar?_cases h <;> omega

theorem toNat_ofNat_cases (n : Nat) : (Char.ofNat n).toNat = n ∨ (Char.ofNat n).toNat = 0 := by
  by_cases h : n.isValidChar
  · exact .inl (by rw [Char.ofNat, dif_pos h]; rfl)
  · exact .inr (by rw [Char.ofNat, dif_neg h]; rfl)

/-- Only its own byte writes a return. -/
theorem ne_return_of_firstChar? {a : UInt8} {rest : List UInt8} {c : Char} {length : Nat}
    (ha : a ≠ carriageReturn) (h : firstChar? (a :: rest) = some (c, length)) : c ≠ '\r' := by
  have hcode : ∀ code, code ≠ 13 → Char.ofNat code ≠ '\r' := by
    intro code hcode heq
    have hreturn : (Char.ofNat code).toNat = 13 := by rw [heq]; rfl
    obtain hsame | hzero := toNat_ofNat_cases code <;> omega
  obtain ⟨-, rfl, -⟩ | ⟨code, hbeyond, rfl, -⟩ := firstChar?_cases h
  · exact hcode _ fun heq => ha (UInt8.toNat_inj.mp heq)
  · exact hcode code (by omega)

/-! ## Texts -/

/-- What goes on with a character is the same with returns and without. -/
theorem takeWhile_withReturns (bytes : List UInt8) :
    (withReturns bytes).takeWhile isContinuation = bytes.takeWhile isContinuation := by
  induction bytes with
  | nil => rfl
  | cons b rest ih =>
    by_cases hb : b = feed
    · subst hb
      rfl
    · rw [withReturns_of_ne hb, List.takeWhile_cons, List.takeWhile_cons, ih]

theorem firstChar?_withReturns (a : UInt8) (rest : List UInt8) :
    firstChar? (a :: withReturns rest) = firstChar? (a :: rest) := by
  rw [← firstChar?_takeWhile, takeWhile_withReturns, firstChar?_takeWhile]

theorem plainLineEnds_cons {c : Char} (hc : c ≠ '\r') (rest : List Char) :
    plainLineEnds (c :: rest) = c :: plainLineEnds rest :=
  plainLineEnds.eq_3 c rest (fun _ heq _ => hc heq) hc

/-- The characters are the same once line ends are plain, from wherever the bytes are read, as long
as those that are passed over go on with a character. -/
theorem plainLineEnds_decodeFrom_withReturns {bytes : List UInt8} (h : carriageReturn ∉ bytes) :
    ∀ skip ≤ (bytes.takeWhile isContinuation).length,
      plainLineEnds (decodeFrom skip (withReturns bytes)) =
        plainLineEnds (decodeFrom skip bytes) := by
  induction bytes with
  | nil => exact fun _ _ => rfl
  | cons b rest ih =>
    obtain ⟨hb, hrest⟩ := List.ne_and_not_mem_of_not_mem_cons h
    intro skip hskip
    cases skip with
    | succ skip =>
      have hgoes : isContinuation b = true := by
        cases hstops : isContinuation b with
        | true => rfl
        | false => simp [hstops] at hskip
      have hfeed : b ≠ feed := by
        rintro rfl
        revert hgoes
        decide
      rw [List.takeWhile_cons_of_pos hgoes, List.length_cons, Nat.add_le_add_iff_right] at hskip
      rw [withReturns_of_ne hfeed]
      exact ih hrest skip hskip
    | zero =>
      by_cases hfeed : b = feed
      · subst hfeed
        exact congrArg ('\n' :: ·) (ih hrest 0 (Nat.zero_le _))
      · rw [withReturns_of_ne hfeed]
        unfold decodeFrom
        rw [firstChar?_withReturns]
        cases hfirst : firstChar? (b :: rest) with
        | none => exact ih hrest 0 (Nat.zero_le _)
        | some found =>
          obtain ⟨c, length⟩ := found
          have hc : c ≠ '\r' := ne_return_of_firstChar? (Ne.symm hb) hfirst
          simp only [plainLineEnds_cons hc]
          rw [ih hrest _ (length_of_firstChar? hfirst)]

/-- **A return in front of every line feed changes no text**, whatever else the bytes hold. -/
theorem fileText_withReturns {bytes : List UInt8} (h : carriageReturn ∉ bytes) :
    fileText (withReturns bytes) = fileText bytes := by
  rw [fileText, fileText, decode, decode,
    plainLineEnds_decodeFrom_withReturns h 0 (Nat.zero_le _)]

/-- A broken character at the end of a line is passed over with returns as without. -/
example : fileText (withReturns [0x61, 0xE2, 0x82, 10, 0x62]) = "a\nb" := by decide +kernel

end Preflight.Text.Utf8
