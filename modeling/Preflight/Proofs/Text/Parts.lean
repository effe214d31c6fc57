import Mathlib.Data.List.Infix
import Preflight.Proofs.Text.LineEnds
import Preflight.Proofs.Text.Utf8

/-!
# Files that are written into

What is written in front of the bytes of a file or behind them leaves the text of the file standing
(`fileText_infix`), whatever the bytes are. No character goes over the place where the writing starts
or ends: what is written neither goes on with a broken character (`decode_append_encode`) nor leaves
one that the file could go on with (`decode_encode_append`). A line end may go over it, a return in
front of a line feed, and is one line feed as either of the two was.
-/

set_option autoImplicit false

namespace Preflight.Text.Utf8

/-! ## Bytes -/

/-- The first of the bytes, if there is one, goes on with no character. -/
def StartsAfresh (bytes : List UInt8) : Prop := ∀ b ∈ bytes.head?, isContinuation b = false

/-- A byte that goes on with a character starts none. -/
theorem firstChar?_of_isContinuation {b : UInt8} (h : isContinuation b = true)
    (rest : List UInt8) : firstChar? (b :: rest) = none := by
  simp only [isContinuation, Bool.and_eq_true, decide_eq_true_eq, UInt8.le_iff_toNat_le,
    UInt8.lt_iff_toNat_lt, UInt8.reduceToNat] at h
  have hforms : ¬ b < 0x80 ∧ (0xC2 ≤ b && b < 0xE0) = false ∧ (0xE0 ≤ b && b < 0xF0) = false ∧
      (0xF0 ≤ b && b < 0xF5) = false := by
    simp only [Bool.and_eq_false_iff, decide_eq_false_iff_not, UInt8.le_iff_toNat_le,
      UInt8.lt_iff_toNat_lt, UInt8.reduceToNat]
    omega
  obtain ⟨hone, htwo, hthree, hfour⟩ := hforms
  simp only [firstChar?, if_neg hone, htwo, hthree, hfour, Bool.false_eq_true, if_false]
  split
  · rfl
  split
  · rfl
  split
  · rfl
  split
  · rfl
  split
  · rfl
  split <;> rfl

/-- What is written starts afresh. -/
theorem startsAfresh_encode (text : String) : StartsAfresh (encode text) := by
  intro b hb
  rw [encode] at hb
  cases hchars : text.toList with
  | nil =>
    rw [hchars] at hb
    cases hb
  | cons c chars =>
    have hfirst := firstChar?_utf8EncodeChar c []
    rw [hchars, List.flatMap_cons] at hb
    generalize hbytes : String.utf8EncodeChar c = bytes at hfirst hb
    cases bytes with
    | nil => exact absurd hbytes String.utf8EncodeChar_ne_nil
    | cons a more =>
      obtain rfl : a = b := Option.some.inj hb
      by_contra hgoes
      rw [List.cons_append, firstChar?_of_isContinuation (by simpa using hgoes)] at hfirst
      cases hfirst

/-- A first character is the same before bytes that start afresh. -/
theorem firstChar?_append {more : List UInt8} (hmore : StartsAfresh more) (a : UInt8)
    (rest : List UInt8) : firstChar? (a :: (rest ++ more)) = firstChar? (a :: rest) := by
  have hnone : more.takeWhile isContinuation = [] := by
    cases more with
    | nil => rfl
    | cons b more => rw [List.takeWhile_cons, hmore b rfl]; rfl
  have hsame : (rest ++ more).takeWhile isContinuation = rest.takeWhile isContinuation := by
    rw [List.takeWhile_append]
    split
    · rename_i hall
      rw [hnone, List.append_nil, (List.takeWhile_prefix _).eq_of_length hall]
    · rfl
  rw [← firstChar?_takeWhile, hsame, firstChar?_takeWhile]

/-- Bytes that start afresh are decoded on their own, from wherever those before them are read. -/
theorem decodeFrom_append {more : List UInt8} (hmore : StartsAfresh more) {bytes : List UInt8} :
    ∀ skip ≤ bytes.length, decodeFrom skip (bytes ++ more) = decodeFrom skip bytes ++ decode more := by
  induction bytes with
  | nil =>
    intro skip hskip
    obtain rfl := Nat.le_zero.mp hskip
    rfl
  | cons b rest ih =>
    intro skip hskip
    rw [List.cons_append]
    cases skip with
    | succ skip => exact ih skip (Nat.le_of_succ_le_succ hskip)
    | zero =>
      rw [decodeFrom, decodeFrom, firstChar?_append hmore]
      cases hfirst : firstChar? (b :: rest) with
      | none => exact ih 0 (Nat.zero_le _)
      | some found =>
        obtain ⟨c, length⟩ := found
        have hlength := (length_of_firstChar? hfirst).trans (List.takeWhile_prefix _).length_le
        exact congrArg (c :: ·) (ih _ hlength)

/-- **What is written behind bytes is decoded on its own.** -/
theorem decode_append_encode (bytes : List UInt8) (text : String) :
    decode (bytes ++ encode text) = decode bytes ++ text.toList := by
  rw [decode, decodeFrom_append (startsAfresh_encode text) 0 (Nat.zero_le _), decode_encode, decode]

/-! ## Line ends -/

/-- Characters in front leave the plain line ends standing: a return before a line feed and the line
feed are one line end, as the line feed was. -/
theorem plainLineEnds_suffix (front chars : List Char) :
    plainLineEnds chars <:+ plainLineEnds (front ++ chars) := by
  fun_induction plainLineEnds front with
  | case1 rest ih => exact ih.trans (List.suffix_cons _ _)
  | case2 rest hfeed ih =>
    cases rest with
    | nil =>
      cases chars with
      | nil => exact List.nil_suffix
      | cons c chars =>
        by_cases hc : c = '\n'
        · subst hc
          exact List.suffix_rfl
        · rw [List.singleton_append, plainLineEnds.eq_2 _ (by simpa using hc)]
          exact List.suffix_cons _ _
    | cons c rest =>
      have hc : c ≠ '\n' := fun heq => hfeed rest (heq ▸ rfl)
      rw [List.cons_append, List.cons_append, plainLineEnds.eq_2 _ (by simpa using hc)]
      exact ih.trans (List.suffix_cons _ _)
  | case3 c rest _ hc ih =>
    rw [List.cons_append, plainLineEnds_cons (by simpa using hc)]
    exact ih.trans (List.suffix_cons _ _)
  | case4 => exact List.suffix_rfl

/-- Characters behind leave the plain line ends standing: a return and the line feed behind it are
one line end, as the return was. -/
theorem plainLineEnds_prefix (chars back : List Char) :
    plainLineEnds chars <+: plainLineEnds (chars ++ back) := by
  fun_induction plainLineEnds chars with
  | case1 rest ih => exact (List.prefix_cons_inj _).mpr ih
  | case2 rest hfeed ih =>
    cases rest with
    | nil =>
      cases back with
      | nil => exact List.prefix_rfl
      | cons c back =>
        by_cases hc : c = '\n'
        · subst hc
          exact ⟨_, rfl⟩
        · rw [List.singleton_append, plainLineEnds.eq_2 _ (by simpa using hc)]
          exact ⟨_, rfl⟩
    | cons c rest =>
      have hc : c ≠ '\n' := fun heq => hfeed rest (heq ▸ rfl)
      rw [List.cons_append, List.cons_append, plainLineEnds.eq_2 _ (by simpa using hc)]
      exact (List.prefix_cons_inj _).mpr ih
  | case3 c rest _ hc ih =>
    rw [List.cons_append, plainLineEnds_cons (by simpa using hc)]
    exact (List.prefix_cons_inj _).mpr ih
  | case4 => exact List.nil_prefix

/-! ## Texts -/

/-- **The text of a file stands in the text of the file that is written into**, in front and
behind. -/
theorem fileText_infix (front : String) (content : List UInt8) (back : String) :
    (fileText content).toList <:+: (fileText (encode front ++ content ++ encode back)).toList := by
  rw [fileText, fileText, String.toList_ofList, String.toList_ofList, decode_append_encode,
    decode_encode_append]
  have hfront := plainLineEnds_suffix front.toList (decode content)
  have hback := plainLineEnds_prefix (front.toList ++ decode content) back.toList
  exact hfront.isInfix.trans hback.isInfix

/-- Nothing is made of the broken character at the end of a file and what is written behind it. -/
example : fileText (encode "a\r" ++ [10, 0x62, 0xE2, 0x82] ++ encode "¬") = "a\nb¬" := by
  decide +kernel

end Preflight.Text.Utf8
