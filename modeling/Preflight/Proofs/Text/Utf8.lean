import Preflight.Text.Utf8

/-!
# Texts that were written

The bytes that write a character start that character, whatever follows them
(`firstChar?_utf8EncodeChar`). So what was written is decoded again in front of all other bytes
(`decode_encode_append`). A text of plain characters is read as it was written (`fileText_encode`):
one byte stands for each character, and no line end is changed.
-/

set_option autoImplicit false

namespace Preflight.Text.Utf8

/-! ## Characters -/

section Forms

variable {a b c d : UInt8} {rest : List UInt8}

theorem firstChar?_of_two (ha : 0xC2 ≤ a.toNat ∧ a.toNat < 0xE0) (hb : isContinuation b = true) :
    firstChar? (a :: b :: rest) = some (Char.ofNat (a.toNat % 0x20 * 0x40 + payload b), 2) := by
  have hbeyond : ¬ a < 0x80 := by
    simp only [UInt8.lt_iff_toNat_lt, UInt8.reduceToNat]
    omega
  have hform : (0xC2 ≤ a && a < 0xE0) = true := by
    simpa [UInt8.le_iff_toNat_le, UInt8.lt_iff_toNat_lt] using ha
  simp only [firstChar?, if_neg hbeyond, hb, hform, Bool.not_true, Bool.false_eq_true, if_false,
    if_true]

theorem firstChar?_of_three (ha : 0xE0 ≤ a.toNat ∧ a.toNat < 0xF0) (hb : isContinuation b = true)
    (hc : isContinuation c = true) (hlow : a.toNat = 0xE0 → 0xA0 ≤ b.toNat)
    (hhigh : a.toNat = 0xED → b.toNat < 0xA0) : firstChar? (a :: b :: c :: rest) =
      some (Char.ofNat (a.toNat % 0x10 * 0x1000 + payload b * 0x40 + payload c), 3) := by
  have hbeyond : ¬ a < 0x80 := by
    simp only [UInt8.lt_iff_toNat_lt, UInt8.reduceToNat]
    omega
  have hnotTwo : ¬ (0xC2 ≤ a && a < 0xE0) = true := by
    simp only [Bool.and_eq_true, decide_eq_true_eq, UInt8.le_iff_toNat_le, UInt8.lt_iff_toNat_lt,
      UInt8.reduceToNat]
    omega
  have hform : (0xE0 ≤ a && a < 0xF0) = true := by
    simpa [UInt8.le_iff_toNat_le, UInt8.lt_iff_toNat_lt] using ha
  have hshortest : ¬ ((a == 0xE0 && b < 0xA0) || (a == 0xED && b ≥ 0xA0)) = true := by
    simp only [Bool.or_eq_true, Bool.and_eq_true, beq_iff_eq, decide_eq_true_eq, ge_iff_le,
      ← UInt8.toNat_inj, UInt8.le_iff_toNat_le, UInt8.lt_iff_toNat_lt, UInt8.reduceToNat]
    omega
  simp only [firstChar?, if_neg hbeyond, hb, hc, if_neg hnotTwo, hform, if_neg hshortest,
    Bool.not_true, Bool.false_eq_true, if_false, if_true]

theorem firstChar?_of_four (ha : 0xF0 ≤ a.toNat ∧ a.toNat < 0xF5) (hb : isContinuation b = true)
    (hc : isContinuation c = true) (hd : isContinuation d = true)
    (hlow : a.toNat = 0xF0 → 0x90 ≤ b.toNat) (hhigh : a.toNat = 0xF4 → b.toNat < 0x90) :
    firstChar? (a :: b :: c :: d :: rest) = some (Char.ofNat
      (a.toNat % 0x08 * 0x40000 + payload b * 0x1000 + payload c * 0x40 + payload d), 4) := by
  have hbeyond : ¬ a < 0x80 := by
    simp only [UInt8.lt_iff_toNat_lt, UInt8.reduceToNat]
    omega
  have hnotTwo : ¬ (0xC2 ≤ a && a < 0xE0) = true := by
    simp only [Bool.and_eq_true, decide_eq_true_eq, UInt8.le_iff_toNat_le, UInt8.lt_iff_toNat_lt,
      UInt8.reduceToNat]
    omega
  have hnotThree : ¬ (0xE0 ≤ a && a < 0xF0) = true := by
    simp only [Bool.and_eq_true, decide_eq_true_eq, UInt8.le_iff_toNat_le, UInt8.lt_iff_toNat_lt,
      UInt8.reduceToNat]
    omega
  have hform : (0xF0 ≤ a && a < 0xF5) = true := by
    simpa [UInt8.le_iff_toNat_le, UInt8.lt_iff_toNat_lt] using ha
  have hshortest : ¬ ((a == 0xF0 && b < 0x90) || (a == 0xF4 && b ≥ 0x90)) = true := by
    simp only [Bool.or_eq_true, Bool.and_eq_true, beq_iff_eq, decide_eq_true_eq, ge_iff_le,
      ← UInt8.toNat_inj, UInt8.le_iff_toNat_le, UInt8.lt_iff_toNat_lt, UInt8.reduceToNat]
    omega
  simp only [firstChar?, if_neg hbeyond, hb, hc, hd, if_neg hnotTwo, if_neg hnotThree, hform,
    if_neg hshortest, Bool.not_true, Bool.false_eq_true, if_false, if_true]

end Forms

/-- The byte that writes six bits behind the first byte of a character goes on with it. -/
theorem continuation_of_lt {n : Nat} (h : n < 64) :
    isContinuation (UInt8.ofNat (n + 128)) = true ∧ payload (UInt8.ofNat (n + 128)) = n := by
  have hn := UInt8.toNat_ofNat_of_lt' (show n + 128 < 256 by omega)
  simp only [isContinuation, payload, Bool.and_eq_true, decide_eq_true_eq, UInt8.le_iff_toNat_le,
    UInt8.lt_iff_toNat_lt, hn, UInt8.reduceToNat]
  omega

/-- **The bytes that write a character start that character**, whatever follows them. -/
theorem firstChar?_utf8EncodeChar (c : Char) (rest : List UInt8) :
    firstChar? (String.utf8EncodeChar c ++ rest) =
      some (c, (String.utf8EncodeChar c).length) := by
  have hvalid : c.val.toNat < 0xD800 ∨ 0xDFFF < c.val.toNat ∧ c.val.toNat < 0x110000 := c.valid
  have hchar : Char.ofNat c.val.toNat = c := Char.ofNat_toNat c
  unfold String.utf8EncodeChar
  generalize c.val.toNat = v at hvalid hchar
  have hbits : ∀ n : Nat, n % 64 < 64 := fun n => Nat.mod_lt n (by decide)
  dsimp only
  -- by the number of bytes: each form is the shortest for its range of codes
  split
  · have ha := UInt8.toNat_ofNat_of_lt' (show v < 256 by omega)
    have hascii : UInt8.ofNat v < 0x80 := by
      simp only [UInt8.lt_iff_toNat_lt, ha, UInt8.reduceToNat]
      omega
    rw [List.singleton_append]
    simp only [firstChar?, if_pos hascii, ha, hchar, List.length_singleton]
  obtain ⟨hlast, hlastBits⟩ := continuation_of_lt (hbits v)
  split
  · have ha := UInt8.toNat_ofNat_of_lt' (show v / 64 % 32 + 192 < 256 by omega)
    rw [List.cons_append, List.cons_append, firstChar?_of_two (by omega) hlast, ha, hlastBits,
      show (v / 64 % 32 + 192) % 0x20 * 0x40 + v % 64 = v by omega, hchar]
    rfl
  obtain ⟨hthird, hthirdBits⟩ := continuation_of_lt (hbits (v / 64))
  split
  · have ha := UInt8.toNat_ofNat_of_lt' (show v / 4096 % 16 + 224 < 256 by omega)
    have hb := UInt8.toNat_ofNat_of_lt' (show v / 64 % 64 + 128 < 256 by omega)
    rw [List.cons_append, List.cons_append, List.cons_append,
      firstChar?_of_three (by omega) hthird hlast (by omega) (by omega), ha, hthirdBits, hlastBits,
      show (v / 4096 % 16 + 224) % 0x10 * 0x1000 + v / 64 % 64 * 0x40 + v % 64 = v by omega, hchar]
    rfl
  · obtain ⟨hsecond, hsecondBits⟩ := continuation_of_lt (hbits (v / 4096))
    have ha := UInt8.toNat_ofNat_of_lt' (show v / 262144 % 8 + 240 < 256 by omega)
    have hb := UInt8.toNat_ofNat_of_lt' (show v / 4096 % 64 + 128 < 256 by omega)
    rw [List.cons_append, List.cons_append, List.cons_append, List.cons_append,
      firstChar?_of_four (by omega) hsecond hthird hlast (by omega) (by omega), ha, hsecondBits,
      hthirdBits, hlastBits, show (v / 262144 % 8 + 240) % 0x08 * 0x40000 +
        v / 4096 % 64 * 0x1000 + v / 64 % 64 * 0x40 + v % 64 = v by omega, hchar]
    rfl

/-- Bytes that belong to the character before are passed over. -/
theorem decodeFrom_length_append (before rest : List UInt8) :
    decodeFrom before.length (before ++ rest) = decode rest := by
  induction before with
  | nil => rfl
  | cons b before ih => exact ih

/-- **What was written is decoded again**, in front of all other bytes. -/
theorem decode_encode_append (text : String) (rest : List UInt8) :
    decode (encode text ++ rest) = text.toList ++ decode rest := by
  rw [encode]
  generalize text.toList = chars
  induction chars with
  | nil => rfl
  | cons c chars ih =>
    rw [List.flatMap_cons, List.append_assoc, decode]
    have hfirst := firstChar?_utf8EncodeChar c (chars.flatMap String.utf8EncodeChar ++ rest)
    generalize hbytes : String.utf8EncodeChar c = bytes at hfirst
    cases bytes with
    | nil => exact absurd hbytes String.utf8EncodeChar_ne_nil
    | cons a more =>
      rw [List.cons_append] at hfirst ⊢
      rw [decodeFrom, hfirst]
      dsimp only
      rw [List.length_cons, Nat.add_sub_cancel, decodeFrom_length_append, ih]
      rfl

theorem decode_encode (text : String) : decode (encode text) = text.toList := by
  have h := decode_encode_append text []
  rwa [List.append_nil, show decode [] = [] from rfl, List.append_nil] at h

/-! ## Plain texts -/

/-- A plain character is written with one byte and ends no line with a return. -/
def isPlain (c : Char) : Bool := c.toNat < 128 && c != '\r'

/-- One byte writes a plain character. -/
theorem utf8EncodeChar_of_isPlain {c : Char} (h : isPlain c = true) :
    String.utf8EncodeChar c = [c.toNat.toUInt8] := by
  simp only [isPlain, Bool.and_eq_true, decide_eq_true_eq] at h
  have hle : c.val.toNat ≤ 127 := Nat.le_of_lt_succ h.1
  rw [String.utf8EncodeChar.eq_1, if_pos hle]
  rfl

/-- Plain characters keep their line ends. -/
theorem plainLineEnds_of_isPlain {chars : List Char} (h : ∀ c ∈ chars, isPlain c = true) :
    plainLineEnds chars = chars := by
  induction chars with
  | nil => rfl
  | cons c rest ih =>
    obtain ⟨hc, hrest⟩ := List.forall_mem_cons.mp h
    have hreturn : c ≠ '\r' := by
      simp only [isPlain, Bool.and_eq_true, bne_iff_ne] at hc
      exact hc.2
    rw [plainLineEnds.eq_3 c rest (fun _ hc _ => hreturn hc) hreturn, ih hrest]

/-- A plain text is written in ASCII. -/
theorem byte_lt_of_mem_encode {text : String} (h : ∀ c ∈ text.toList, isPlain c = true) :
    ∀ byte ∈ encode text, byte < 128 := by
  intro byte hbyte
  obtain ⟨c, hc, hmem⟩ := List.mem_flatMap.mp hbyte
  have hplain := h c hc
  rw [utf8EncodeChar_of_isPlain hplain, List.mem_singleton] at hmem
  simp only [isPlain, Bool.and_eq_true, decide_eq_true_eq] at hplain
  rw [hmem, UInt8.lt_iff_toNat_lt, Nat.toUInt8, UInt8.toNat_ofNat']
  exact Nat.lt_of_le_of_lt (Nat.mod_le _ _) hplain.1

/-- **A plain text is read as it was written.** -/
theorem fileText_encode {text : String} (h : ∀ c ∈ text.toList, isPlain c = true) :
    fileText (encode text) = text := by
  rw [fileText, decode_encode, plainLineEnds_of_isPlain h, String.ofList_toList]

end Preflight.Text.Utf8
