import Mathlib.Data.List.Nodup
import Preflight.Proofs.Json.Number
import Preflight.Proofs.Json.Text
import Preflight.Proofs.Pairs

/-!
# Values that are read back

A value of texts, integers, truth values and nulls (`Value.Simple`) is read back from what is
written for it in any layout that adds blanks only (`readValue_write`), so it is the value of its
own text (`parse_write`), where its integers are within the limit of digits. The text is plain:
the file that holds it is ASCII.

Numbers with a fraction, lone halves of surrogate pairs and keys that are given twice are left out:
what is written for them is read as something else, or may be.
-/

set_option autoImplicit false

namespace Preflight.Json

/-! ## Simple values -/

/-- A value of at most so many levels, in which each object has each key once and integers are
within a limit of digits. -/
inductive Value.Simple (limit : Nat) : (depth : Nat) → Value → Prop
  | null {depth : Nat} : Simple limit depth .null
  | bool {depth : Nat} (b : Bool) : Simple limit depth (.bool b)
  | int {depth : Nat} {n : Int} (h : IsShort limit n) : Simple limit depth (.int n)
  | string {depth : Nat} (s : String) : Simple limit depth (.string s)
  | list {depth : Nat} {items : List Value} (h : ∀ item ∈ items, Simple limit depth item) :
      Simple limit (depth + 1) (.list items)
  | record {depth : Nat} {fields : List (String × Value)} (hkeys : (fields.map (·.1)).Nodup)
      (h : ∀ field ∈ fields, Simple limit depth field.2) : Simple limit (depth + 1) (.record fields)

/-- A layout adds nothing but blanks, and a comma between items. -/
structure Layout.AddsBlanks (layout : Layout) : Prop where
  lineBreak : ∀ level, ∀ c ∈ layout.lineBreak level, isBlank c = true
  comma : ∃ blanks, layout.comma = ',' :: blanks ∧ ∀ c ∈ blanks, isBlank c = true

theorem Layout.indented_addsBlanks : Layout.indented.AddsBlanks where
  lineBreak level := by
    refine List.forall_mem_cons.mpr ⟨by decide, fun c hc => ?_⟩
    rw [List.eq_of_mem_replicate hc]
    decide
  comma := ⟨[], rfl, List.forall_mem_nil _⟩

/-! ## Blanks -/

theorem skipBlanks_append {blanks : List Char} (h : ∀ c ∈ blanks, isBlank c = true)
    (rest : List Char) : skipBlanks (blanks ++ rest) = skipBlanks rest :=
  List.dropWhile_append_of_pos h

theorem skipBlanks_cons {c : Char} (h : isBlank c = false) (rest : List Char) :
    skipBlanks (c :: rest) = c :: rest :=
  List.dropWhile_cons_of_neg (by simp [h])

theorem Breaks.append {blanks rest : List Char} (h : ∀ c ∈ blanks, isBlank c = true)
    (hrest : Breaks rest) : Breaks (blanks ++ rest) := by
  cases blanks with
  | nil => exact hrest
  | cons c blanks => exact .cons (.inl (h c List.mem_cons_self))

/-! ## What values start with -/

/-- Something starts a value: neither a blank nor the end of a list. -/
def Starts (chars : List Char) : Prop :=
  ∃ c rest, chars = c :: rest ∧ isBlank c = false ∧ c ≠ ']'

variable {layout : Layout} {limit : Nat}

theorem Value.Simple.starts {depth : Nat} {v : Value} (h : v.Simple limit depth) (level : Nat) :
    Starts (write layout level v) := by
  cases h with
  | null => exact ⟨_, _, rfl, by decide, by decide⟩
  | bool b => cases b <;> exact ⟨_, _, rfl, by decide, by decide⟩
  | @int _ n _ =>
    obtain ⟨c, more, htext, hc | rfl⟩ := toString_starts n
    · refine ⟨c, more, htext, ?_, (ne_of_isAsciiDigit hc (by decide)).symm⟩
      simp only [Json.isBlank, Bool.or_eq_false_iff, beq_eq_false_iff_ne]
      refine ⟨⟨⟨?_, ?_⟩, ?_⟩, ?_⟩ <;> exact (ne_of_isAsciiDigit hc (by decide)).symm
    · exact ⟨'-', _, htext, by decide, by decide⟩
  | string s => exact ⟨_, _, rfl, by decide, by decide⟩
  | @list _ items h =>
    cases items with
    | nil => exact ⟨_, _, rfl, by decide, by decide⟩
    | cons item items => exact ⟨_, _, rfl, by decide, by decide⟩
  | @record _ fields hkeys h =>
    cases fields with
    | nil => exact ⟨_, _, rfl, by decide, by decide⟩
    | cons field fields => exact ⟨_, _, rfl, by decide, by decide⟩

/-! ## Items -/

section Items

variable {reader : List Char → Except Stop (Value × List Char)} {chars after rest : List Char}
  {v : Value} {bound : Nat}

theorem readItems_last {found : List Value} (hread : reader chars = .ok (v, after))
    (hafter : skipBlanks after = ']' :: rest) :
    readItems reader (bound + 1) found chars = .ok ((v :: found).reverse, rest) := by
  simp only [readItems, hread, bind, Except.bind, hafter]

theorem readItems_more {found : List Value} (hread : reader chars = .ok (v, ',' :: rest)) :
    readItems reader (bound + 1) found chars =
      readItems reader bound (v :: found) (skipBlanks rest) := by
  have hcomma : skipBlanks (',' :: rest) = ',' :: rest := skipBlanks_cons (by decide) rest
  simp only [readItems, hread, bind, Except.bind, hcomma]

/-- What is written for the value is read as it. -/
def Reads (layout : Layout) (level : Nat) (reader : List Char → Except Stop (Value × List Char))
    (v : Value) : Prop :=
  Starts (write layout level v) ∧
    ∀ rest, Breaks rest → reader (write layout level v ++ rest) = .ok (v, rest)

variable (hlayout : layout.AddsBlanks)
include hlayout

/-- What starts a value is found behind the blanks of a line break. -/
theorem skipBlanks_lineBreak (hstarts : Starts chars) (level : Nat) (rest : List Char) :
    skipBlanks (layout.lineBreak level ++ (chars ++ rest)) = chars ++ rest := by
  obtain ⟨c, more, rfl, hc, -⟩ := hstarts
  rw [skipBlanks_append (hlayout.lineBreak level), List.cons_append, skipBlanks_cons hc]

/-- **The items of a list are read back**, one after the other. -/
theorem readItems_write {level : Nat} (outer : Nat) (rest : List Char) {items : List Value} :
    ∀ {item : Value} (found : List Value) {bound : Nat},
      (∀ v ∈ item :: items, Reads layout level reader v) → items.length < bound →
      readItems reader bound found (write layout level item ++ (writeItems layout level items ++
        (layout.lineBreak outer ++ ']' :: rest))) = .ok (found.reverse ++ item :: items, rest) := by
  obtain ⟨blanks, hcomma, hblanks⟩ := hlayout.comma
  induction items with
  | nil =>
    intro item found bound hreads hbound
    obtain ⟨bound, rfl⟩ := Nat.exists_eq_succ_of_ne_zero (Nat.ne_of_gt hbound)
    have hend : Breaks (layout.lineBreak outer ++ ']' :: rest) :=
      .append (hlayout.lineBreak outer) (.cons (.inr (.inr (.inl rfl))))
    have hclose : skipBlanks (layout.lineBreak outer ++ ']' :: rest) = ']' :: rest := by
      rw [skipBlanks_append (hlayout.lineBreak outer), skipBlanks_cons (by decide)]
    rw [writeItems, List.nil_append,
      readItems_last ((hreads item List.mem_cons_self).2 _ hend) hclose, List.reverse_cons]
  | cons next items ih =>
    intro item found bound hreads hbound
    obtain ⟨bound, rfl⟩ := Nat.exists_eq_succ_of_ne_zero (Nat.ne_of_gt (Nat.zero_lt_of_lt hbound))
    obtain ⟨hitem, hrest⟩ := List.forall_mem_cons.mp hreads
    have hnext := (hrest next List.mem_cons_self).1
    have htail := ih (item :: found) hrest (Nat.lt_of_succ_lt_succ hbound)
    simp only [writeItems, hcomma, List.append_assoc, List.cons_append]
    rw [readItems_more (hitem.2 _ (.cons (.inr (.inl rfl)))), skipBlanks_append hblanks,
      skipBlanks_lineBreak hlayout hnext, htail, List.reverse_cons, List.append_assoc,
      List.singleton_append]

end Items

/-! ## Fields -/

section Fields

variable {reader : List Char → Except Stop (Value × List Char)} {after rest : List Char}
  {found : List (Text × Value)} {v : Value} {key : String} {bound : Nat}

theorem Text.written_ofString_append (key : String) (rest : List Char) :
    (Text.ofString key).written ++ rest =
      '\x22' :: ((Text.ofString key).flatMap Symbol.written ++ '\x22' :: rest) := by
  simp [Text.written]

theorem readFields_last (hread : reader (skipBlanks rest) = .ok (v, after)) {more : List Char}
    (hafter : skipBlanks after = '\x7d' :: more) :
    readFields reader (bound + 1) found ((Text.ofString key).written ++ ':' :: rest) =
      .ok (Pairs.put (Text.ofString key) v found, more) := by
  have hcolon : skipBlanks (':' :: rest) = ':' :: rest := skipBlanks_cons (by decide) rest
  rw [Text.written_ofString_append]
  simp only [readFields, readText_written, bind, Except.bind, hcolon, hread, hafter]

theorem readFields_more {more : List Char}
    (hread : reader (skipBlanks rest) = .ok (v, ',' :: more)) :
    readFields reader (bound + 1) found ((Text.ofString key).written ++ ':' :: rest) =
      readFields reader bound (Pairs.put (Text.ofString key) v found) (skipBlanks more) := by
  have hcolon : skipBlanks (':' :: rest) = ':' :: rest := skipBlanks_cons (by decide) rest
  have hcomma : skipBlanks (',' :: more) = ',' :: more := skipBlanks_cons (by decide) more
  rw [Text.written_ofString_append]
  simp only [readFields, readText_written, bind, Except.bind, hcolon, hread, hcomma]

/-- The fields with their keys as texts. -/
def named (fields : List (String × Value)) : List (Text × Value) :=
  fields.map fun (key, value) => (Text.ofString key, value)

variable (hlayout : layout.AddsBlanks)
include hlayout

/-- **The fields of an object are read back**, one after the other, if each key is given once. -/
theorem readFields_write {level : Nat} (outer : Nat) (rest : List Char)
    {fields : List (String × Value)} :
    ∀ {key : String} {v : Value} (found : List (Text × Value)) {bound : Nat},
      (∀ field ∈ (key, v) :: fields, Reads layout level reader field.2) → fields.length < bound →
      (found.map (·.1) ++ (named ((key, v) :: fields)).map (·.1)).Nodup →
      readFields reader bound found ((Text.ofString key).written ++ ':' :: ' ' ::
        (write layout level v ++ (writeFields layout level (named fields) ++
          (layout.lineBreak outer ++ '\x7d' :: rest)))) =
        .ok (found ++ named ((key, v) :: fields), rest) := by
  obtain ⟨blanks, hcomma, hblanks⟩ := hlayout.comma
  have hspace : ∀ {chars more : List Char}, Starts chars →
      skipBlanks (' ' :: (chars ++ more)) = chars ++ more := by
    rintro _ more ⟨c, chars, rfl, hc, -⟩
    exact skipBlanks_cons hc _
  have hfresh : ∀ {key : Text} {found : List (Text × Value)} {keys : List Text},
      (found.map (·.1) ++ key :: keys).Nodup → key ∉ found.map (·.1) := fun h hmem =>
    (List.nodup_append.mp h).2.2 _ hmem _ List.mem_cons_self rfl
  induction fields with
  | nil =>
    intro key v found bound hreads hbound hkeys
    obtain ⟨bound, rfl⟩ := Nat.exists_eq_succ_of_ne_zero (Nat.ne_of_gt hbound)
    obtain ⟨hstarts, hread⟩ := hreads (key, v) List.mem_cons_self
    have hend : Breaks (layout.lineBreak outer ++ '\x7d' :: rest) :=
      .append (hlayout.lineBreak outer) (.cons (.inr (.inr (.inr rfl))))
    have hclose : skipBlanks (layout.lineBreak outer ++ '\x7d' :: rest) = '\x7d' :: rest := by
      rw [skipBlanks_append (hlayout.lineBreak outer), skipBlanks_cons (by decide)]
    have hvalue := hread _ hend
    rw [← hspace hstarts] at hvalue
    exact (readFields_last hvalue hclose).trans (by rw [Pairs.put_of_notMem (hfresh hkeys)]; rfl)
  | cons next fields ih =>
    intro key v found bound hreads hbound hkeys
    obtain ⟨nextKey, w⟩ := next
    obtain ⟨bound, rfl⟩ := Nat.exists_eq_succ_of_ne_zero (Nat.ne_of_gt (Nat.zero_lt_of_lt hbound))
    obtain ⟨⟨hstarts, hread⟩, hrest⟩ := List.forall_mem_cons.mp hreads
    have hkey : Starts (Text.ofString nextKey).written := ⟨_, _, rfl, by decide, by decide⟩
    have htail := ih (found ++ [(Text.ofString key, v)]) hrest
      (Nat.lt_of_succ_lt_succ hbound) (by simpa [named] using hkeys)
    have hnamed : named ((nextKey, w) :: fields) = (Text.ofString nextKey, w) :: named fields := rfl
    have hvalue := hread (',' :: (blanks ++ (layout.lineBreak level ++
      ((Text.ofString nextKey).written ++ ':' :: ' ' :: (write layout level w ++
        (writeFields layout level (named fields) ++ (layout.lineBreak outer ++ '\x7d' :: rest)))))))
      (.cons (.inr (.inl rfl)))
    rw [← hspace hstarts] at hvalue
    simp only [hnamed, writeFields, hcomma, List.append_assoc, List.cons_append, List.nil_append]
    rw [readFields_more hvalue, skipBlanks_append hblanks, skipBlanks_lineBreak hlayout hkey,
      Pairs.put_of_notMem (hfresh hkeys), htail]
    simp [named]

end Fields

/-! ## Values -/

theorem Text.ofString_injective : Function.Injective Text.ofString := by
  intro s t h
  rw [← Text.toString_ofString s, h, Text.toString_ofString]

theorem nodup_named {fields : List (String × Value)} (h : (fields.map (·.1)).Nodup) :
    ((named fields).map (·.1)).Nodup := by
  have hmap : (named fields).map (·.1) = (fields.map (·.1)).map Text.ofString := by
    rw [named, List.map_map, List.map_map]
    rfl
  rw [hmap]
  exact List.Nodup.map Text.ofString_injective h

theorem readValue_scalar {bound depth : Nat} {c : Char} (hmark : c ≠ '\x22') (hlist : c ≠ '[')
    (hobject : c ≠ '\x7b') (rest : List Char) :
    readValue limit bound depth (c :: rest) = readScalar limit (c :: rest) := by
  rw [readValue]
  · rintro _ ⟨⟩
    exact hmark rfl
  · rintro _ _ ⟨⟩
    exact hlist rfl
  · rintro _ _ ⟨⟩
    exact hobject rfl
  · rintro _ _ _ ⟨⟩
    exact hlist rfl
  · rintro _ _ _ ⟨⟩
    exact hobject rfl

theorem readValue_list {bound depth : Nat} {items : List Value} {c : Char}
    {chars more rest : List Char} (hskip : skipBlanks chars = c :: more) (hc : c ≠ ']')
    (hitems : readItems (readValue limit bound depth) bound [] (c :: more) = .ok (items, rest)) :
    readValue limit bound (depth + 1) ('[' :: chars) = .ok (.list items, rest) := by
  rw [readValue, hskip]
  split
  · rename_i heq
    exact absurd (List.cons.inj heq).1 hc
  · rw [hitems]
    rfl

theorem readValue_object {bound depth : Nat} {fields : List (Text × Value)} {c : Char}
    {chars more rest : List Char} (hskip : skipBlanks chars = c :: more) (hc : c ≠ '\x7d')
    (hfields : readFields (readValue limit bound depth) bound [] (c :: more) = .ok (fields, rest)) :
    readValue limit bound (depth + 1) ('\x7b' :: chars) = .ok (.object fields, rest) := by
  rw [readValue, hskip]
  split
  · rename_i heq
    exact absurd (List.cons.inj heq).1 hc
  · rw [hfields]
    rfl

/-! ### Lengths -/

/-- Every item of a list has a character of its own. -/
theorem length_le_writeItems (layout : Layout) (level : Nat) (items : List Value)
    (h : ∀ v ∈ items, Starts (write layout level v)) :
    items.length ≤ (writeItems layout level items).length ∧
      ∀ v ∈ items, (write layout level v).length ≤ (writeItems layout level items).length := by
  induction items with
  | nil => exact ⟨Nat.zero_le _, List.forall_mem_nil _⟩
  | cons item items ih =>
    obtain ⟨⟨c, more, hitem, -⟩, hrest⟩ := List.forall_mem_cons.mp h
    obtain ⟨hle, hlengths⟩ := ih hrest
    have hlength : (writeItems layout level (item :: items)).length =
        layout.comma.length + (layout.lineBreak level).length + (write layout level item).length +
          (writeItems layout level items).length := by
      simp only [writeItems, List.length_append]
    have hpos : 0 < (write layout level item).length := by simp [hitem]
    refine ⟨?_, List.forall_mem_cons.mpr ⟨by omega, fun v hv => ?_⟩⟩
    · rw [List.length_cons]
      omega
    · have hv := hlengths v hv
      omega

theorem length_le_writeFields (layout : Layout) (level : Nat) (fields : List (Text × Value)) :
    fields.length ≤ (writeFields layout level fields).length ∧ ∀ field ∈ fields,
      (write layout level field.2).length ≤ (writeFields layout level fields).length := by
  induction fields with
  | nil => exact ⟨Nat.zero_le _, List.forall_mem_nil _⟩
  | cons field fields ih =>
    obtain ⟨hle, hlengths⟩ := ih
    have hlength : (writeFields layout level (field :: fields)).length =
        layout.comma.length + (layout.lineBreak level).length + field.1.written.length + 2 +
          (write layout level field.2).length + (writeFields layout level fields).length := by
      simp only [writeFields, List.length_append, List.length_cons, List.length_nil]
    refine ⟨?_, List.forall_mem_cons.mpr ⟨by omega, fun other hother => ?_⟩⟩
    · rw [List.length_cons]
      omega
    · have hother := hlengths other hother
      omega

/-! ### The round trip -/

/-- What is written for the value is read back, wherever it stands. -/
def ReadsBack (layout : Layout) (limit depth : Nat) (v : Value) : Prop :=
  ∀ {bound level : Nat} {rest : List Char}, (write layout level v).length ≤ bound → Breaks rest →
    readValue limit bound depth (write layout level v ++ rest) = .ok (v, rest)

section RoundTrip

variable {depth : Nat}

theorem ReadsBack.int {n : Int} (h : IsShort limit n) : ReadsBack layout limit depth (.int n) := by
  intro bound level rest _ hrest
  have hread := readScalar_int h hrest
  obtain ⟨c, more, htext, hc⟩ := toString_starts n
  have hmarks : c ≠ '\x22' ∧ c ≠ '[' ∧ c ≠ '\x7b' := by
    rcases hc with hc | rfl
    · refine ⟨?_, ?_, ?_⟩ <;> exact (ne_of_isAsciiDigit hc (by decide)).symm
    · decide
  rw [write]
  rw [htext, List.cons_append] at hread ⊢
  rw [readValue_scalar hmarks.1 hmarks.2.1 hmarks.2.2, hread]

theorem ReadsBack.string (s : String) : ReadsBack layout limit depth (.string s) := by
  intro bound level rest _ _
  rw [Value.string, write, Text.written_ofString_append]
  simp only [readValue, readText_written, bind, Except.bind]

variable (hlayout : layout.AddsBlanks)
include hlayout

theorem ReadsBack.list {items : List Value} (hsimple : ∀ v ∈ items, v.Simple limit depth)
    (h : ∀ v ∈ items, ReadsBack layout limit depth v) :
    ReadsBack layout limit (depth + 1) (.list items) := by
  intro bound level rest hbound _
  cases items with
  | nil => rfl
  | cons item items =>
    have hstarts : ∀ v ∈ item :: items, Starts (write layout (level + 1) v) :=
      fun v hv => (hsimple v hv).starts _
    obtain ⟨hcount, hlengths⟩ := length_le_writeItems layout (level + 1) items
      fun v hv => hstarts v (List.mem_cons_of_mem _ hv)
    have hlength : (write layout level (.list (item :: items))).length =
        2 + (layout.lineBreak (level + 1)).length + (write layout (level + 1) item).length +
          (writeItems layout (level + 1) items).length + (layout.lineBreak level).length := by
      simp only [write, List.length_append, List.length_cons, List.length_nil]
      omega
    have hreads : ∀ v ∈ item :: items,
        Reads layout (level + 1) (readValue limit bound depth) v := by
      intro v hv
      refine ⟨hstarts v hv, fun rest hrest => h v hv ?_ hrest⟩
      rcases List.mem_cons.mp hv with rfl | hv
      · omega
      · have hle := hlengths v hv
        omega
    have hitems := readItems_write hlayout level rest [] hreads (show items.length < bound by omega)
    have hskip := skipBlanks_lineBreak hlayout (hstarts item List.mem_cons_self) (level + 1)
      (writeItems layout (level + 1) items ++ (layout.lineBreak level ++ ']' :: rest))
    obtain ⟨c, more, hitem, -, hc⟩ := hstarts item List.mem_cons_self
    rw [hitem, List.cons_append] at hitems hskip
    have hread := readValue_list hskip hc hitems
    simpa [write, hitem] using hread

theorem ReadsBack.record {fields : List (String × Value)} (hkeys : (fields.map (·.1)).Nodup)
    (hsimple : ∀ field ∈ fields, field.2.Simple limit depth)
    (h : ∀ field ∈ fields, ReadsBack layout limit depth field.2) :
    ReadsBack layout limit (depth + 1) (.record fields) := by
  intro bound level rest hbound _
  cases fields with
  | nil => rfl
  | cons field fields =>
    obtain ⟨key, v⟩ := field
    obtain ⟨hcount, hlengths⟩ := length_le_writeFields layout (level + 1) (named fields)
    have hlength : (write layout level (.record ((key, v) :: fields))).length =
        4 + (layout.lineBreak (level + 1)).length + (Text.ofString key).written.length +
          (write layout (level + 1) v).length +
          (writeFields layout (level + 1) (named fields)).length +
          (layout.lineBreak level).length := by
      simp only [Value.record, named, List.map_cons, write, List.length_append, List.length_cons,
        List.length_nil]
      omega
    have hreads : ∀ field ∈ (key, v) :: fields,
        Reads layout (level + 1) (readValue limit bound depth) field.2 := by
      intro field hfield
      refine ⟨(hsimple field hfield).starts _, fun rest hrest => h field hfield ?_ hrest⟩
      rcases List.mem_cons.mp hfield with rfl | hfield
      · dsimp only
        omega
      · have hle := hlengths _ (List.mem_map_of_mem hfield)
        dsimp only at hle
        omega
    have hroom : fields.length < bound := by
      have hnamed : (named fields).length = fields.length := List.length_map _
      omega
    have hfields := readFields_write hlayout level rest [] hreads hroom (nodup_named hkeys)
    have hkey : Starts (Text.ofString key).written := ⟨_, _, rfl, by decide, by decide⟩
    have hskip := skipBlanks_lineBreak hlayout hkey (level + 1) (':' :: ' ' ::
      (write layout (level + 1) v ++ (writeFields layout (level + 1) (named fields) ++
        (layout.lineBreak level ++ '\x7d' :: rest))))
    rw [Text.written_ofString_append] at hfields hskip
    have hread := readValue_object hskip (by decide) hfields
    simpa [write, Value.record, named, Text.written_ofString_append] using hread

/-- **What is written for a simple value is read back.** -/
theorem readValue_write {v : Value} (hv : v.Simple limit depth) :
    ReadsBack layout limit depth v := by
  -- The induction is on the value: what a list or an object holds is read a level below.
  induction hv with
  | null => exact fun _ _ => readValue_scalar (by decide) (by decide) (by decide) _
  | bool b => cases b <;> exact fun _ _ => readValue_scalar (by decide) (by decide) (by decide) _
  | int h => exact ReadsBack.int h
  | string s => exact ReadsBack.string s
  | list h ih => exact ReadsBack.list hlayout h ih
  | record hkeys h ih => exact ReadsBack.record hlayout hkeys h ih

end RoundTrip

/-! ## Whole texts -/

open Text.Utf8 (isPlain)

theorem isPlain_lineBreak (level : Nat) :
    ∀ c ∈ Layout.indented.lineBreak level, isPlain c = true := by
  refine List.forall_mem_cons.mpr ⟨by decide, fun c hc => ?_⟩
  rw [List.eq_of_mem_replicate hc]
  decide

theorem isPlain_comma : ∀ c ∈ Layout.indented.comma, isPlain c = true :=
  List.all_eq_true.mp (by decide)

theorem isPlain_colon : ∀ c ∈ [':', ' '], isPlain c = true := List.all_eq_true.mp (by decide)

theorem isPlain_int (n : Int) : ∀ c ∈ (toString n).toList, isPlain c = true := by
  have hdigits : ∀ c ∈ digitsOf n.natAbs, isPlain c = true := by
    intro c hc
    have hdigit := isAsciiDigit_of_mem hc
    have hreturn : '\r' ≠ c := ne_of_isAsciiDigit hdigit (by decide)
    rw [Text.isAsciiDigit, Bool.and_eq_true, decide_eq_true_eq, decide_eq_true_eq] at hdigit
    have hsmall : c.toNat ≤ 0x39 := hdigit.2
    rw [isPlain, Bool.and_eq_true, decide_eq_true_eq, bne_iff_ne]
    exact ⟨by omega, hreturn.symm⟩
  obtain ⟨-, htext⟩ | ⟨-, htext⟩ := toString_cases n
  · rwa [htext]
  · rw [htext]
    exact List.forall_mem_cons.mpr ⟨by decide, hdigits⟩

theorem isPlain_writeItems {items : List Value}
    (h : ∀ v ∈ items, ∀ level, ∀ c ∈ write .indented level v, isPlain c = true) (level : Nat) :
    ∀ c ∈ writeItems .indented level items, isPlain c = true := by
  induction items with
  | nil => exact List.forall_mem_nil _
  | cons item items ih =>
    obtain ⟨hitem, hrest⟩ := List.forall_mem_cons.mp h
    simp only [writeItems, List.forall_mem_append]
    exact ⟨⟨⟨isPlain_comma, isPlain_lineBreak level⟩, hitem level⟩, ih hrest⟩

theorem isPlain_writeFields {fields : List (Text × Value)}
    (h : ∀ field ∈ fields, ∀ level, ∀ c ∈ write .indented level field.2, isPlain c = true)
    (level : Nat) : ∀ c ∈ writeFields .indented level fields, isPlain c = true := by
  induction fields with
  | nil => exact List.forall_mem_nil _
  | cons field fields ih =>
    obtain ⟨hfield, hrest⟩ := List.forall_mem_cons.mp h
    simp only [writeFields, List.forall_mem_append]
    exact ⟨⟨⟨⟨⟨isPlain_comma, isPlain_lineBreak level⟩, Text.isPlain_written field.1⟩,
      isPlain_colon⟩, hfield level⟩, ih hrest⟩

/-- **What is written for a simple value is plain.** -/
theorem isPlain_write {depth : Nat} {v : Value} (hv : v.Simple limit depth) :
    ∀ level, ∀ c ∈ write .indented level v, isPlain c = true := by
  induction hv with
  | null => exact fun _ => List.all_eq_true.mp (show "null".toList.all isPlain = true by decide)
  | bool b =>
    cases b with
    | false => exact fun _ => List.all_eq_true.mp (show "false".toList.all isPlain = true by decide)
    | true => exact fun _ => List.all_eq_true.mp (show "true".toList.all isPlain = true by decide)
  | @int _ n _ => exact fun _ => isPlain_int n
  | string s => exact fun _ => Text.isPlain_written _
  | @list _ items _ ih =>
    intro level
    cases items with
    | nil => exact List.all_eq_true.mp (show ['[', ']'].all isPlain = true by decide)
    | cons item items =>
      obtain ⟨hitem, hrest⟩ := List.forall_mem_cons.mp ih
      simp only [write, List.forall_mem_append, List.forall_mem_cons]
      exact ⟨⟨⟨⟨⟨by decide, isPlain_lineBreak _⟩, hitem _⟩, isPlain_writeItems hrest _⟩,
        isPlain_lineBreak _⟩, by decide, List.forall_mem_nil _⟩
  | @record _ fields _ _ ih =>
    intro level
    cases fields with
    | nil => exact List.all_eq_true.mp (show ['\x7b', '\x7d'].all isPlain = true by decide)
    | cons field fields =>
      obtain ⟨hfield, hrest⟩ := List.forall_mem_cons.mp ih
      have hfields : ∀ level, ∀ c ∈ writeFields .indented level (named fields), isPlain c = true :=
        isPlain_writeFields (List.forall_mem_map.mpr hrest)
      simp only [Value.record, List.map_cons, write, List.forall_mem_append, List.forall_mem_cons]
      exact ⟨⟨⟨⟨⟨⟨⟨by decide, isPlain_lineBreak _⟩, Text.isPlain_written _⟩, by decide, by decide,
        List.forall_mem_nil _⟩, hfield _⟩, hfields _⟩, isPlain_lineBreak _⟩, by decide,
        List.forall_mem_nil _⟩

/-- **A simple value is the value of its own text.** -/
theorem parse_write {depth : Nat} {v : Value} (hv : v.Simple limit depth) :
    parse (String.ofList (write .indented 0 v)) ⟨limit, depth⟩ = .ok v := by
  obtain ⟨c, more, hwrite, hblank, -⟩ : Starts (write .indented 0 v) := hv.starts 0
  have hread := readValue_write Layout.indented_addsBlanks hv
    (Nat.le_refl (write .indented 0 v).length) Breaks.nil
  rw [List.append_nil] at hread
  have hskip : skipBlanks (write .indented 0 v) = write .indented 0 v := by
    rw [hwrite, skipBlanks_cons hblank]
  have hmark : ((write .indented 0 v).head? == some '\ufeff') = false := by
    have hplain := isPlain_write hv 0 c (by simp [hwrite])
    rw [hwrite, List.head?_cons, beq_eq_false_iff_ne]
    rintro ⟨⟩
    exact absurd hplain (by decide)
  have hall : readAll (write .indented 0 v) ⟨limit, depth⟩ = .ok v := by
    simp only [readAll, hmark, hskip, hread]
    rfl
  rw [parse, String.toList_ofList, hall]

end Preflight.Json
