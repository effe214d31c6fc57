import Preflight.Proofs.Text.Split
import Preflight.Store

/-!
# Paths and their texts

`Path.ofString` reads what `Path.text` writes (`ofString_text`), for paths whose names are names:
not empty, no single points and without slashes. Paths that were read have such names, so the text
by which a report names a file leads back to the file (`root_div_relativeTo`).
-/

set_option autoImplicit false

namespace Preflight.Path

/-- The characters of a name: some, no single point, and no slash. -/
def IsName (chars : List Char) : Prop := chars ≠ [] ∧ chars ≠ ['.'] ∧ '/' ∉ chars

/-- Every name of the path is a name. -/
def HasNames (p : Path) : Prop := ∀ name ∈ p.names, IsName name.toList

/-- What is read between slashes are names. -/
theorem isName_of_mem_namesOf {chars : List Char} {name : String} (h : name ∈ namesOf chars) :
    IsName name.toList := by
  obtain ⟨part, hpart, rfl⟩ := List.mem_map.mp h
  obtain ⟨hsplit, hkept⟩ := List.mem_filter.mp hpart
  simp only [Bool.and_eq_true, bne_iff_ne, ne_eq] at hkept
  rw [String.toList_ofList]
  exact ⟨hkept.1, hkept.2, Text.notMem_of_mem_splitOn hsplit⟩

/-- A path that was read has names. -/
theorem hasNames_ofString (s : String) : (ofString s).HasNames :=
  fun _ h => isName_of_mem_namesOf h

/-- Names between slashes are read again. -/
theorem namesOf_intercalate {names : List String} (h : ∀ name ∈ names, IsName name.toList) :
    namesOf (['/'].intercalate (names.map String.toList)) = names := by
  by_cases hnil : names = []
  · subst hnil
    rfl
  · have hslash : ∀ part ∈ names.map String.toList, '/' ∉ part := by
      intro part hpart
      obtain ⟨name, hname, rfl⟩ := List.mem_map.mp hpart
      exact (h name hname).2.2
    have hkept : ∀ part ∈ names.map String.toList, (part != [] && part != ['.']) = true := by
      intro part hpart
      obtain ⟨name, hname, rfl⟩ := List.mem_map.mp hpart
      simp [(h name hname).1, (h name hname).2.1]
    rw [namesOf, List.splitOn_intercalate '/' hslash (by simpa using hnil),
      List.filter_eq_self.mpr hkept, List.map_map]
    simp [Function.comp_def]

/-- Slashes in front add no name. -/
theorem namesOf_slash (chars : List Char) : namesOf ('/' :: chars) = namesOf chars := by
  rw [namesOf, namesOf, List.splitOn_cons_eq_if_modifyHead, if_pos (by simp),
    List.filter_cons_of_neg (by simp)]

/-- The names of a path between slashes, as characters. -/
theorem toList_intercalate_names (names : List String) :
    (String.intercalate "/" names).toList = ['/'].intercalate (names.map String.toList) := by
  rw [String.toList_intercalate]
  rfl

/-- Names that are written alike between slashes are the same. -/
theorem intercalate_names_inj {names names' : List String}
    (h : ∀ name ∈ names, IsName name.toList) (h' : ∀ name ∈ names', IsName name.toList)
    (heq : String.intercalate "/" names = String.intercalate "/" names') : names = names' := by
  have hchars := congrArg String.toList heq
  rw [toList_intercalate_names, toList_intercalate_names] at hchars
  rw [← namesOf_intercalate h, hchars, namesOf_intercalate h']

/-- What stands between slashes does not start with one. -/
theorem takeWhile_slash_intercalate {names : List String}
    (h : ∀ name ∈ names, IsName name.toList) :
    (['/'].intercalate (names.map String.toList)).takeWhile (· == '/') = [] := by
  cases names with
  | nil => rfl
  | cons name rest =>
    obtain ⟨hsome, -, hslash⟩ := h name (by simp)
    obtain ⟨c, chars, hname⟩ := List.exists_cons_of_ne_nil hsome
    have hc : (c == '/') = false := by
      rw [hname] at hslash
      simp only [List.mem_cons, not_or] at hslash
      simpa using Ne.symm hslash.1
    cases rest with
    | nil => simp [List.intercalate, hname, hc]
    | cons next rest => simp [List.intercalate, hname, hc]

/-- **A path of names is read as it was written.** -/
theorem ofString_text {p : Path} (h : p.HasNames) : ofString p.text = p := by
  obtain ⟨start, names⟩ := p
  have hnames := namesOf_intercalate h
  have hhead := takeWhile_slash_intercalate h
  cases start with
  | here =>
    by_cases hnil : names = []
    · subst hnil
      rfl
    · have htext : text ⟨.here, names⟩ = String.intercalate "/" names := by
        simp [text, Start.text, hnil]
      rw [htext, ofString, toList_intercalate_names, hhead, hnames]
      rfl
  | top =>
    have htext : (text ⟨.top, names⟩).toList =
        '/' :: ['/'].intercalate (names.map String.toList) := by
      simp [text, Start.text]
    rw [ofString, htext, List.takeWhile_cons_of_pos (by rfl), hhead, namesOf_slash, hnames]
    rfl
  | doubleTop =>
    have htext : (text ⟨.doubleTop, names⟩).toList =
        '/' :: '/' :: ['/'].intercalate (names.map String.toList) := by
      simp [text, Start.text]
    rw [ofString, htext, List.takeWhile_cons_of_pos (by rfl),
      List.takeWhile_cons_of_pos (by rfl), hhead, namesOf_slash, namesOf_slash, hnames]
    rfl

/-- Names with slashes lead on from a path. -/
theorem root_div_intercalate (root : Path) {names : List String} (hsome : names ≠ [])
    (h : ∀ name ∈ names, IsName name.toList) :
    root / String.intercalate "/" names = ⟨root.start, root.names ++ names⟩ := by
  have htext : text ⟨.here, names⟩ = String.intercalate "/" names := by
    simp [text, Start.text, hsome]
  have hread : ofString (String.intercalate "/" names) = ⟨.here, names⟩ := by
    rw [← htext]
    exact ofString_text h
  show root.join (ofString (String.intercalate "/" names)) = _
  rw [hread]
  rfl

/-- So does one name. -/
theorem root_div_name (root : Path) {name : String} (h : IsName name.toList) :
    root / name = ⟨root.start, root.names ++ [name]⟩ := by
  have hname : String.intercalate "/" [name] = name := rfl
  have hdiv := root_div_intercalate root (List.cons_ne_nil name []) (by simpa using h)
  rwa [hname] at hdiv

/-- A name is read as the path of that name. -/
theorem ofString_name {name : String} (h : IsName name.toList) :
    ofString name = ⟨.here, [name]⟩ := by
  have hnames : HasNames ⟨.here, [name]⟩ := fun other hother => by
    rwa [List.mem_singleton.mp hother]
  have htext : text ⟨.here, [name]⟩ = name := by simp [text, Start.text]
  have hread := ofString_text hnames
  rwa [htext] at hread

/-- A text with a name after it has the bytes of both at least. -/
theorem le_utf8ByteSize_joinText (text name : String) :
    text.utf8ByteSize + name.utf8ByteSize ≤ (joinText text name).utf8ByteSize := by
  unfold joinText
  split
  · exact Nat.le_of_eq String.utf8ByteSize_append.symm
  · rw [String.utf8ByteSize_append, String.utf8ByteSize_append]
    omega

/-- Below a root, names between slashes are what a report calls their path. -/
theorem relativeTo_div_intercalate (root : Path) {names : List String} (hsome : names ≠ [])
    (h : ∀ name ∈ names, IsName name.toList) :
    Store.relativeTo root (root / String.intercalate "/" names) = String.intercalate "/" names := by
  have hbelow : root.relativeTo? (root / String.intercalate "/" names) = some ⟨.here, names⟩ := by
    rw [root_div_intercalate root hsome h]
    simp [relativeTo?]
  rw [Store.relativeTo, hbelow]
  simp [text, Start.text, hsome]

/-- **The text by which a report names a file leads back to the file.** -/
theorem root_div_relativeTo (root : Path) (name : String) :
    root / Store.relativeTo root (root / name) = root / name := by
  have hnames := hasNames_ofString name
  show root.join (ofString (Store.relativeTo root (root.join (ofString name)))) =
    root.join (ofString name)
  generalize ofString name = q at hnames
  unfold Store.relativeTo
  split
  · rename_i rest hrest
    unfold relativeTo? at hrest
    split at hrest
    · rename_i hbelow
      cases hrest
      simp only [Bool.and_eq_true, decide_eq_true_eq, List.isPrefixOf_iff_prefix] at hbelow
      obtain ⟨hstart, below, hbelow⟩ := hbelow
      have hdrop : (root.join q).names.drop root.names.length = below := by
        rw [← hbelow, List.drop_left]
      rw [hdrop, ofString_text]
      · show (⟨root.start, root.names ++ below⟩ : Path) = root.join q
        rw [hbelow, ← hstart]
      · intro part hpart
        unfold join at hbelow
        split at hbelow
        · rw [List.append_cancel_left hbelow] at hpart
          exact hnames part hpart
        · exact hnames part (hbelow ▸ List.mem_append_right _ hpart)
    · cases hrest
  · rename_i hnone
    unfold join at hnone ⊢
    split at hnone
    · simp [relativeTo?] at hnone
    · rename_i hstart
      rw [if_neg hstart, ofString_text hnames, if_neg hstart]

/-- No two files have one such text. -/
theorem eq_of_relativeTo_eq {root : Path} {name name' : String}
    (h : Store.relativeTo root (root / name) = Store.relativeTo root (root / name')) :
    root / name = root / name' := by
  rw [← root_div_relativeTo root name, h, root_div_relativeTo]

end Preflight.Path
