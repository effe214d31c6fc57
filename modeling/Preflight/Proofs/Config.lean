import Preflight.Proofs.Report.Consistency
import Preflight.Proofs.Text.Strip
import Preflight.Record.Config

/-!
# What a configuration chooses

A skip list may be written as a list of names or as one text with commas between them, and the names
may be written with blanks around them and in any case. What is kept of them is `Skip.normal`.

**The law** (`chosen_checks_run`) has two halves. A list of names without commas and the text of the same
names with commas give the same configuration, and a skip list that was kept gives itself again. And
the results of a validation are those of the checks that no entry of the skip list names and that are
wanted, in the order of a report: the names of the results are the names of all checks filtered, so
neither the order nor the repetitions of an entry can matter, nor an entry that names no check.

What the entries of a skip list are does not depend on what is kept of them (`Skip.entries`), so the
second half is told by the value as it was given.
-/

set_option autoImplicit false

namespace Preflight

open Json

namespace Skip

/-! ## What is kept of names -/

/-- The kept names are those of the entries that are not blank. -/
theorem mem_normal_iff {names : List String} {name : String} :
    name ∈ normal names ↔
      ∃ entry ∈ names, (Text.strip entry).isEmpty = false ∧ Text.lower (Text.strip entry) = name := by
  simp [normal, and_assoc]

/-- A name that is not empty is kept exactly if an entry writes it. -/
theorem mem_normal_of_ne {names : List String} {name : String} (h : name ≠ "") :
    name ∈ normal names ↔ ∃ entry ∈ names, Text.lower (Text.strip entry) = name := by
  rw [mem_normal_iff]
  refine exists_congr fun entry => and_congr_right fun _ => and_iff_right_of_imp fun hname => ?_
  rw [String.isEmpty_eq_false_iff]
  intro hempty
  rw [hempty] at hname
  exact h (hname.symm.trans (by decide +kernel))

/-- What is kept of ASCII names is kept of what was kept. -/
theorem normal_normal {names : List String} (h : ∀ name ∈ names, Text.IsAscii name.toList) :
    normal (normal names) = normal names := by
  -- a kept name has no blanks around it, is not empty and is in lower case
  have hkept : ∀ name ∈ normal names,
      (!(Text.strip name).isEmpty) = true ∧ Text.lower (Text.strip name) = name := by
    intro name hname
    obtain ⟨entry, hentry, hempty, rfl⟩ := mem_normal_iff.mp hname
    have hascii := h entry hentry
    rw [Text.strip_lower_strip hascii, Text.lower_lower hascii.strip, Bool.not_eq_true']
    refine ⟨?_, rfl⟩
    rw [String.isEmpty_eq_false_iff, ← String.toList_eq_nil_iff.ne] at hempty ⊢
    rwa [Text.toList_lower hascii.strip, ne_eq, List.map_eq_nil_iff]
  conv_lhs => rw [normal, List.filter_eq_self.mpr fun name hname => (hkept name hname).1]
  exact (List.map_congr_left fun name hname => (hkept name hname).2).trans (List.map_id' _)

/-! ## The entries of a skip list -/

/-- The text that a value is. -/
def textOf? : Value → Option String
  | .text t => some t.toString
  | _ => none

/-- The entries of a skip list as they are written: the parts between commas, the texts of a list, or
the keys of an object. -/
def entries : Value → List String
  | .text t => parts t.toString
  | .list items => items.filterMap textOf?
  | .object fields => fields.map fun (key, _) => key.toString
  | _ => []

/-- An entry that gives a name is a text, and one that gives none is no text. -/
theorem eq_textOf?_of_nameOf? {value : Value} {name : Option String} (h : nameOf? value = .ok name) :
    name = textOf? value := by
  cases value with
  | text t =>
    cases h
    rfl
  | null | bool | int | real | list | object =>
    simp only [nameOf?] at h
    split at h
    · cases h
      rfl
    · cases h

/-- What a skip list keeps is kept of its entries. -/
theorem eq_normal_of_ofValue {value : Value} {skip : List String} (h : ofValue value = .ok skip) :
    skip = normal (entries value) := by
  cases value with
  | text t =>
    cases h
    rfl
  | list items =>
    obtain ⟨names, hnames, h⟩ := bind_eq_ok.mp h
    have htexts : List.Forall₂ Eq (items.map textOf?) names :=
      List.forall₂_map_left_iff.mpr
        ((forall₂_of_mapM hnames).imp fun _ _ hname => (eq_textOf?_of_nameOf? hname).symm)
    rw [List.forall₂_eq_eq_eq] at htexts
    cases h
    rw [← htexts, entries, List.filterMap_map]
    rfl
  | object fields =>
    cases h
    rfl
  | null | bool | int | real => cases h

/-- A list of texts keeps what is kept of them. -/
theorem ofValue_texts (names : List Json.Text) :
    ofValue (.list (names.map .text)) = .ok (normal (names.map Json.Text.toString)) := by
  have hnames : (names.map Value.text).mapM nameOf? = .ok (names.map (some ·.toString)) := by
    induction names with
    | nil => rfl
    | cons name rest ih =>
      rw [List.map_cons, List.mapM_cons, ih]
      rfl
  rw [ofValue, hnames]
  simp

/-- A list of strings keeps what is kept of them. -/
theorem ofValue_strings (names : List String) :
    ofValue (.strings names) = .ok (normal names) := by
  have hnames : (names.map Json.Text.ofString).map Json.Text.toString = names := by
    simp [Function.comp_def, Json.Text.toString_ofString]
  have htexts := ofValue_texts (names.map Json.Text.ofString)
  rw [hnames, List.map_map] at htexts
  exact htexts

/-- Names that are joined are joined character by character. -/
theorem toList_joined (names : List Json.Text) :
    (Json.Text.toString ([.char ','].intercalate names)).toList =
      [','].intercalate (names.map fun name => name.toString.toList) := by
  simp only [Json.Text.toString, String.toList_ofList]
  induction names with
  | nil => rfl
  | cons name rest ih =>
    cases rest with
    | nil => simp
    | cons next rest =>
      rw [List.intercalate_cons_cons, List.map_append, List.map_append, ih, List.map_cons]
      exact List.intercalate_cons_cons.symm

/-- The parts of names that are joined with commas are the names, if none holds a comma. -/
theorem parts_joined {names : List Json.Text} (hne : names ≠ [])
    (h : ∀ name ∈ names, Symbol.char ',' ∉ name) :
    parts (Json.Text.toString ([.char ','].intercalate names)) = names.map Json.Text.toString := by
  have hcomma : ∀ chars ∈ names.map fun name => name.toString.toList, ',' ∉ chars := by
    intro chars hchars hmem
    obtain ⟨name, hname, rfl⟩ := List.mem_map.mp hchars
    rw [Json.Text.toString, String.toList_ofList] at hmem
    obtain ⟨symbol, hsymbol, hchar⟩ := List.mem_map.mp hmem
    cases symbol with
    | char c =>
      cases hchar
      exact h name hname hsymbol
    | half => exact absurd (show '\ufffd' = ',' from hchar) (by decide)
  rw [parts, toList_joined, List.splitOn_intercalate ',' hcomma (by simpa using hne), List.map_map]
  simp [Function.comp_def]

/-- Names without commas keep the same in a list as in a text with commas. -/
theorem ofValue_joined {names : List Json.Text} (h : ∀ name ∈ names, Symbol.char ',' ∉ name) :
    ofValue (.text ([.char ','].intercalate names)) = .ok (normal (names.map Json.Text.toString)) := by
  obtain rfl | hne := eq_or_ne names []
  · decide +kernel
  · rw [ofValue, ofText, parts_joined hne h]

/-! ## Configurations with a skip list -/

end Skip

namespace Record

/-- The fields of a configuration with a skip list in front. -/
def withSkip (value : Value) (fields : Fields) : Fields :=
  (Json.Text.ofString "skip", value) :: fields

/-- A field of another name is found behind the skip list. -/
theorem fieldOr_withSkip {α : Type} {name : String} (h : name ≠ "skip") (usual : α)
    (read : Value → Reading α) (value : Value) (fields : Fields) :
    fieldOr name usual read (withSkip value fields) = fieldOr name usual read fields := by
  have hkey : (Json.Text.ofString name == Json.Text.ofString "skip") = false := by
    refine beq_eq_false_iff_ne.mpr fun heq => h ?_
    rw [← Json.Text.toString_ofString name, heq, Json.Text.toString_ofString]
  rw [fieldOr, fieldOr, Json.field?, withSkip, List.lookup_cons, hkey]
  rfl

/-- What a configuration with a skip list in front is read from. -/
theorem configOf_withSkip (value : Value) (fields : Fields) :
    configOf (withSkip value fields) = Skip.ofValue value >>= fun skip =>
      (Config.mk <$> fieldOr "project_path" (Path.ofString ".") path fields
        <*> .accepted skip <*> fieldOr "limits" {} limits fields).toExcept := by
  have hskip : skipOf (withSkip value fields) = Skip.ofValue value := by
    simp [skipOf, Json.field?, withSkip]
  rw [configOf, hskip]
  simp only [fieldOr_withSkip (show "project_path" ≠ "skip" by decide),
    fieldOr_withSkip (show "limits" ≠ "skip" by decide)]

/-- The skip list of a configuration is the one that was read. -/
theorem skipOf_of_configOf {fields : Fields} {config : Config} (h : configOf fields = .ok config) :
    skipOf fields = .ok config.skip := by
  obtain ⟨skip, hskip, h⟩ := bind_eq_ok.mp h
  rw [hskip]
  dsimp only at h
  generalize fieldOr "project_path" (Path.ofString ".") path fields = place at h
  generalize fieldOr "limits" {} limits fields = bounds at h
  obtain place | errors := place
  · obtain bounds | errors := bounds
    · cases h
      rfl
    · cases h
  · cases bounds <;> cases h

/-- The entries of the skip list among the fields of a configuration. -/
def skipEntries (fields : Fields) : List String :=
  ((Json.field? "skip" fields).map Skip.entries).getD []

/-- The skip list of a configuration is what is kept of its entries. -/
theorem skip_eq_normal {fields : Fields} {config : Config} (h : configOf fields = .ok config) :
    config.skip = Skip.normal (skipEntries fields) := by
  have hskip := skipOf_of_configOf h
  unfold skipOf at hskip
  unfold skipEntries
  split at hskip
  · rename_i value hvalue
    rw [hvalue]
    exact Skip.eq_normal_of_ofValue hskip
  · rename_i hnone
    rw [hnone, ← Except.ok.inj hskip]
    rfl

end Record

/-! ## The checks that run -/

open Record

/-- A check is chosen by its name. -/
theorem Config.map_name_selected (config : Config) (only : Option (List String)) :
    (config.selected only).map Check.Module.name =
      (Check.Module.all.map Check.Module.name).filter fun name =>
        name ∉ config.skip ∧ ∀ wanted ∈ only, name ∈ wanted := by
  rw [List.filter_map, Config.selected, Config.modules, List.filter_filter]
  congr 1
  refine List.filter_congr fun m _ => ?_
  cases only <;> simp [Bool.and_comm]

/-- No check has an empty name. -/
theorem Check.Module.name_ne_empty (m : Check.Module) : m.name ≠ "" := by
  cases m <;> decide

/-- The chosen names are those that no entry of the skip list writes and that are wanted. -/
theorem map_name_selected_of_configOf {fields : Fields} {config : Config}
    (h : configOf fields = .ok config) (only : Option (List String)) :
    (config.selected only).map Check.Module.name =
      ["env", "auth", "api", "project", "security", "dependencies", "database"].filter fun name =>
        (∀ entry ∈ skipEntries fields, Text.lower (Text.strip entry) ≠ name) ∧
          ∀ wanted ∈ only, name ∈ wanted := by
  rw [Config.map_name_selected]
  show List.filter _ (Check.Module.all.map Check.Module.name) = _
  refine List.filter_congr fun name hname => ?_
  obtain ⟨m, -, rfl⟩ := List.mem_map.mp hname
  refine decide_eq_decide.mpr (and_congr_left fun _ => ?_)
  rw [skip_eq_normal h, Skip.mem_normal_of_ne m.name_ne_empty]
  simp only [not_exists, not_and, ne_eq]

/-- **The chosen checks run.** Names without commas, in a list or in one text with commas, give the same
configuration, and what it keeps of ASCII names gives it again. A validation has results exactly if the
root of the project is found; their names are those of the checks, in the order of a report, that no
entry of the skip list writes, blanks around it and its case apart, and that are wanted. -/
theorem chosen_checks_run :
    (∀ names : List Json.Text, (∀ name ∈ names, Symbol.char ',' ∉ name) →
      ∃ skip, Skip.ofValue (.list (names.map .text)) = .ok skip ∧
        Skip.ofValue (.text ([.char ','].intercalate names)) = .ok skip ∧
        (∀ fields, configOf (withSkip (.text ([.char ','].intercalate names)) fields) =
          configOf (withSkip (.list (names.map .text)) fields)) ∧
        ((∀ name ∈ names, Text.IsAscii name.toString.toList) →
          Skip.ofValue (.strings skip) = .ok skip ∧
          ∀ fields, configOf (withSkip (.strings skip) fields) =
            configOf (withSkip (.list (names.map .text)) fields))) ∧
    (∀ (fields : Fields) (config : Config), configOf fields = .ok config →
      ∀ (host : Host) (only : Option (List String)),
        (validate host config only).map (fun report => report.results.map (·.1)) =
          (config.root host).map fun _ =>
            ["env", "auth", "api", "project", "security", "dependencies", "database"].filter
              fun name => (∀ entry ∈ skipEntries fields, Text.lower (Text.strip entry) ≠ name) ∧
                ∀ wanted ∈ only, name ∈ wanted) := by
  constructor
  · intro names hcomma
    have hlist := Skip.ofValue_texts names
    have htext := Skip.ofValue_joined hcomma
    refine ⟨_, hlist, htext, fun fields => ?_, fun hascii => ?_⟩
    · rw [configOf_withSkip, configOf_withSkip, hlist, htext]
    · have hkept : ∀ name ∈ names.map Json.Text.toString, Text.IsAscii name.toList := by
        simpa using hascii
      have hagain : Skip.ofValue (.strings (Skip.normal (names.map Json.Text.toString))) =
          .ok (Skip.normal (names.map Json.Text.toString)) := by
        rw [Skip.ofValue_strings, Skip.normal_normal hkept]
      refine ⟨hagain, fun fields => ?_⟩
      rw [configOf_withSkip, configOf_withSkip, hlist, hagain]
  · intro fields config hconfig host only
    have hresults : (validate host config only).map (fun report => report.results.map (·.1)) =
        ((validate host config only).map Report.results).map (List.map Prod.fst) := by
      cases validate host config only <;> rfl
    rw [hresults, validate_results]
    cases config.root host with
    | error failure => rfl
    | ok root =>
      refine congrArg Except.ok ?_
      rw [List.map_map, ← map_name_selected_of_configOf hconfig only]
      rfl

/-- Of the checks that are wanted twice and in any order, the one that is not skipped runs. -/
theorem api_is_all_that_runs :
    let names := [" AUTH", "", "env "].map Json.Text.ofString
    let fields : Fields := [(Json.Text.ofString "project_path", .string "missing")]
    let wanted := ["env", "api", "auth", "api", "none"]
    (∀ name ∈ names, Symbol.char ',' ∉ name) ∧
      (∀ name ∈ names, Text.IsAscii name.toString.toList) ∧
      Skip.ofValue (.string " AUTH,,env ") = .ok ["auth", "env"] ∧
      Skip.ofValue (.strings ["auth", "env"]) = .ok ["auth", "env"] ∧
      ∃ config, configOf (withSkip (.string " AUTH,,env ") fields) = .ok config ∧
        (validate emptyHost config (some wanted)).map (fun report => report.results.map (·.1)) =
          .ok ["api"] := by
  intro names fields wanted
  have hcomma : ∀ name ∈ names, Symbol.char ',' ∉ name := by decide +kernel
  have hascii : ∀ name ∈ names, Text.IsAscii name.toString.toList := by decide +kernel
  obtain ⟨skip, hlist, htext, -, hagain⟩ := chosen_checks_run.1 names hcomma
  have hskip : skip = ["auth", "env"] := by
    rw [Skip.ofValue_texts] at hlist
    rw [← Except.ok.inj hlist]
    decide +kernel
  subst hskip
  let config : Config := { path := ⟨.here, ["missing"]⟩, skip := ["auth", "env"] }
  have hconfig : configOf (withSkip (.string " AUTH,,env ") fields) = .ok config := by
    rw [configOf_withSkip]
    have hvalue : Skip.ofValue (.string " AUTH,,env ") = .ok ["auth", "env"] := htext
    rw [hvalue]
    rfl
  have hroot : config.root emptyHost = .ok ⟨.top, ["missing"]⟩ := by decide +kernel
  refine ⟨hcomma, hascii, htext, (hagain hascii).1, config, hconfig, ?_⟩
  rw [chosen_checks_run.2 _ config hconfig emptyHost (some wanted), hroot]
  decide +kernel

end Preflight
