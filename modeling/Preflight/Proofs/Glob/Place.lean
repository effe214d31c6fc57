import Mathlib.Data.List.Nodup
import Preflight.Proofs.Firsts
import Preflight.Proofs.Glob.Ending
import Preflight.Scan

/-!
# Places of files

A place is where files of some kind are: below a directory of a given name, however deep, if their
names have one of some endings; or anywhere, if they have one of some names (`Place.Holds`). A place
has a pattern (`Place.glob`), and the pattern matches a path of names exactly if the place holds the
file (`Place.isMatch_glob_iff`): a path is directories and a name in one way only
(`directoryPath_append_inj`), so the parts that the tokens stand for are names of it.

A path below a root is called by its file (`relativeTo_div`). So paths repeat only where files do,
and what patterns find are the files that they match, each once (`find_eq_map`).
-/

set_option autoImplicit false

namespace Preflight.Glob

/-! ## Directories and names -/

/-- Directories and a name are what stands between slashes. -/
theorem directoryPath_append (way : List (List Char)) (name : List Char) :
    directoryPath way ++ name = ['/'].intercalate (way ++ [name]) := by
  induction way with
  | nil => simp [directoryPath, List.intercalate]
  | cons first way ih =>
    rw [List.cons_append, List.intercalate_cons_of_ne_nil (List.append_ne_nil_of_right_ne_nil way
      (List.cons_ne_nil name [])), ← ih]
    simp [directoryPath]

/-- Between the slashes stand the directories and the name. -/
theorem splitOn_directoryPath {way : List (List Char)} {name : List Char}
    (hway : ∀ directory ∈ way, '/' ∉ directory) (hname : '/' ∉ name) :
    (directoryPath way ++ name).splitOn '/' = way ++ [name] := by
  have hparts : ∀ part ∈ way ++ [name], '/' ∉ part :=
    List.forall_mem_append.mpr ⟨hway, by simpa using hname⟩
  rw [directoryPath_append, List.splitOn_intercalate '/' hparts (by simp)]

/-- **A path is directories and a name in one way only.** -/
theorem directoryPath_append_inj {way way' : List (List Char)} {name name' : List Char}
    (hway : ∀ directory ∈ way, '/' ∉ directory) (hway' : ∀ directory ∈ way', '/' ∉ directory)
    (hname : '/' ∉ name) (hname' : '/' ∉ name')
    (h : directoryPath way ++ name = directoryPath way' ++ name') : way = way' ∧ name = name' := by
  have hsplit := splitOn_directoryPath hway hname
  rw [h, splitOn_directoryPath hway' hname'] at hsplit
  obtain ⟨rfl, hlast⟩ := List.append_inj' hsplit rfl
  exact ⟨rfl, (List.singleton_inj.mp hlast).symm⟩

variable {way : List (List Char)} {name : List Char}

/-- Any number of directories and a name match the files of that name. -/
theorem matchesTokens_name_iff (hway : ∀ directory ∈ way, IsSegment directory)
    (hname : '/' ∉ name) {chars : List Char} (hchars : '/' ∉ chars) :
    matchesTokens (.directories :: chars.map .char) (directoryPath way ++ name) = true ↔
      name = chars := by
  rw [matchesTokens_cons_iff]
  constructor
  · rintro ⟨_, rest, ⟨names, hnames, rfl⟩, heq, hmatch⟩
    obtain rfl := matchesTokens_chars_iff.mp hmatch
    exact (directoryPath_append_inj (fun d hd => (hway d hd).2) (fun d hd => (hnames d hd).2) hname
      hchars heq).2
  · rintro rfl
    exact ⟨directoryPath way, name, ⟨way, hway, rfl⟩, rfl, matchesTokens_chars_iff.mpr rfl⟩

/-- The tokens of the files with an ending below a directory. -/
def withinTokens (directory ending : List Char) : List Token :=
  .directories :: (directory.map .char ++
    .char '/' :: .directories :: .anyName :: ending.map .char)

/-- They match the files with that ending that have the directory on their way. -/
theorem matchesTokens_within_iff (hway : ∀ directory ∈ way, IsSegment directory)
    (hname : '/' ∉ name) {directory ending : List Char} (hdirectory : '/' ∉ directory)
    (hending : '/' ∉ ending) :
    matchesTokens (withinTokens directory ending) (directoryPath way ++ name) = true ↔
      directory ∈ way ∧ ending <:+ name := by
  rw [withinTokens, matchesTokens_cons_iff]
  constructor
  · rintro ⟨_, _, ⟨above, habove, rfl⟩, heq, hfrom⟩
    obtain ⟨_, rfl, hbehind⟩ := (matchesTokens_chars_append_iff directory).mp hfrom
    obtain ⟨_, _, rfl, rfl, hways⟩ := matchesTokens_cons_iff.mp hbehind
    obtain ⟨_, _, ⟨below, hbelow, rfl⟩, rfl, hnames⟩ := matchesTokens_cons_iff.mp hways
    obtain ⟨run, _, hrun, rfl, hend⟩ := matchesTokens_cons_iff.mp hnames
    obtain rfl := (matchesTokens_chars_iff.mp hend).symm
    have hparts : directoryPath way ++ name =
        directoryPath (above ++ directory :: below) ++ (run ++ ending) := by
      rw [heq]
      simp [directoryPath]
    have hrun : '/' ∉ run ++ ending := List.not_mem_append hrun hending
    obtain ⟨rfl, rfl⟩ := directoryPath_append_inj (fun d hd => (hway d hd).2) (fun d hd => by
      obtain hd | hd := List.mem_append.mp hd
      · exact (habove d hd).2
      · obtain rfl | hd := List.mem_cons.mp hd
        · exact hdirectory
        · exact (hbelow d hd).2) hname hrun hparts
    exact ⟨List.mem_append_right _ List.mem_cons_self, List.suffix_append _ _⟩
  · rintro ⟨hmem, run, rfl⟩
    obtain ⟨above, below, rfl⟩ := List.append_of_mem hmem
    obtain ⟨habove, hfrom⟩ := List.forall_mem_append.mp hway
    obtain ⟨-, hbelow⟩ := List.forall_mem_cons.mp hfrom
    have hrun : '/' ∉ run := fun h => hname (List.mem_append_left _ h)
    refine ⟨directoryPath above, _, ⟨above, habove, rfl⟩, ?_,
      (matchesTokens_chars_append_iff directory).mpr ⟨_, rfl,
        matchesTokens_cons_iff.mpr ⟨['/'], _, rfl, rfl,
          matchesTokens_cons_iff.mpr ⟨directoryPath below, _, ⟨below, hbelow, rfl⟩, rfl,
            matchesTokens_cons_iff.mpr ⟨run, ending, hrun, rfl,
              matchesTokens_chars_iff.mpr rfl⟩⟩⟩⟩⟩
    simp [directoryPath]

/-! ## Entries that patterns match -/

/-- The entries of a listing that patterns match: those of the first pattern, those of the second,
and so on, with one that two patterns match coming twice. -/
def matched (patterns files : List String) : List String :=
  patterns.flatMap fun pattern => select pattern files

/-- What is matched is in the listing. -/
theorem mem_of_mem_matched {patterns files : List String} {file : String}
    (h : file ∈ matched patterns files) : file ∈ files := by
  obtain ⟨pattern, -, hselected⟩ := List.mem_flatMap.mp h
  exact (List.mem_filter.mp hselected).1

/-! ## Places -/

/-- Where files of some kind are. -/
inductive Place
  /-- Below a directory, with a name that has one of the endings. -/
  | within (directory : String) (endings : List String)
  /-- Anywhere, with one of the names. -/
  | named (names : List String)

namespace Place

/-- The names of the directories on the way to a file. -/
def wayTo (file : String) : List String := (Path.ofString file).names.dropLast

/-- The name of a file. -/
def nameOf (file : String) : String := (Path.ofString file).names.getLastD ""

/-- The place holds the file. -/
def Holds : Place → String → Prop
  | .within directory endings, file =>
    directory ∈ wayTo file ∧ ∃ ending ∈ endings, ending.toList <:+ (nameOf file).toList
  | .named names, file => nameOf file ∈ names

instance (place : Place) : DecidablePred place.Holds :=
  match place with
  | .within directory endings => fun file => inferInstanceAs (Decidable (directory ∈ wayTo file ∧
      ∃ ending ∈ endings, ending.toList <:+ (nameOf file).toList))
  | .named names => fun file => inferInstanceAs (Decidable (nameOf file ∈ names))

/-- The pattern of the place. -/
def glob : Place → Glob
  | .within directory endings =>
    ⟨endings.map fun ending => withinTokens directory.toList ending.toList⟩
  | .named names => ⟨names.map fun name => .directories :: name.toList.map .char⟩

/-- There are no slashes in the names and endings of the place. -/
def IsPlain : Place → Prop
  | .within directory endings =>
    '/' ∉ directory.toList ∧ ∀ ending ∈ endings, '/' ∉ ending.toList
  | .named names => ∀ name ∈ names, '/' ∉ name.toList

instance : DecidablePred IsPlain
  | .within directory endings => inferInstanceAs
      (Decidable ('/' ∉ directory.toList ∧ ∀ ending ∈ endings, '/' ∉ ending.toList))
  | .named names => inferInstanceAs (Decidable (∀ name ∈ names, '/' ∉ name.toList))

/-- A text that writes a file: names between slashes. -/
def IsFile (file : String) : Prop :=
  ∃ way name, (∀ part ∈ way ++ [name], Path.IsName part.toList) ∧
    file = String.intercalate "/" (way ++ [name])

/-- The names of a path of names. -/
theorem names_intercalate {names : List String} (h : ∀ name ∈ names, Path.IsName name.toList) :
    (Path.ofString (String.intercalate "/" names)).names = names := by
  show Path.namesOf (String.intercalate "/" names).toList = names
  rw [Path.toList_intercalate_names, Path.namesOf_intercalate h]

/-- **The pattern of a place matches the files that the place holds.** -/
theorem isMatch_glob_iff {place : Place} (hplain : place.IsPlain) {file : String}
    (hfile : IsFile file) : place.glob.isMatch file = true ↔ place.Holds file := by
  obtain ⟨way, name, hnames, rfl⟩ := hfile
  have htext : (String.intercalate "/" (way ++ [name])).toList =
      directoryPath (way.map String.toList) ++ name.toList := by
    rw [Path.toList_intercalate_names, directoryPath_append, List.map_append, List.map_singleton]
  have hway : wayTo (String.intercalate "/" (way ++ [name])) = way := by
    rw [wayTo, names_intercalate hnames, List.dropLast_concat]
  have hlast : nameOf (String.intercalate "/" (way ++ [name])) = name := by
    rw [nameOf, names_intercalate hnames, List.getLastD_concat]
  obtain ⟨hwayNames, hname⟩ := List.forall_mem_append.mp hnames
  have hsegments : ∀ directory ∈ way.map String.toList, IsSegment directory := by
    intro directory hdirectory
    obtain ⟨part, hpart, rfl⟩ := List.mem_map.mp hdirectory
    exact ⟨(hwayNames part hpart).1, (hwayNames part hpart).2.2⟩
  have hslash : '/' ∉ name.toList := (hname name (List.mem_singleton_self name)).2.2
  rw [isMatch, htext]
  cases place with
  | within directory endings =>
    rw [glob, Holds, hway, hlast, List.any_map, List.any_eq_true]
    have hending : ∀ ending ∈ endings, (matchesTokens (withinTokens directory.toList ending.toList)
        (directoryPath (way.map String.toList) ++ name.toList) = true ↔
          directory ∈ way ∧ ending.toList <:+ name.toList) := by
      intro ending hending
      rw [matchesTokens_within_iff hsegments hslash hplain.1 (hplain.2 ending hending),
        List.mem_map_of_injective fun a b => String.toList_inj.mp]
    constructor
    · rintro ⟨ending, hmem, hmatch⟩
      obtain ⟨hdirectory, hsuffix⟩ := (hending ending hmem).mp hmatch
      exact ⟨hdirectory, ending, hmem, hsuffix⟩
    · rintro ⟨hdirectory, ending, hmem, hsuffix⟩
      exact ⟨ending, hmem, (hending ending hmem).mpr ⟨hdirectory, hsuffix⟩⟩
  | named names =>
    rw [glob, Holds, hlast, List.any_map, List.any_eq_true]
    constructor
    · rintro ⟨other, hmem, hmatch⟩
      have heq := (matchesTokens_name_iff hsegments hslash (hplain other hmem)).mp hmatch
      rwa [String.toList_inj.mp heq]
    · intro hmem
      exact ⟨name, hmem, (matchesTokens_name_iff hsegments hslash hslash).mpr rfl⟩

/-! ## Several places -/

/-- The files that are in one of the places, in the order of the places. -/
def select (places : List Place) (files : List String) : List String :=
  (places.flatMap fun place => files.filter fun file => place.Holds file).eraseDups

/-- How many places come before the first that holds the file. -/
def rank (places : List Place) (file : String) : Nat :=
  places.findIdx fun place => place.Holds file

/-- One file comes before another: its first place does, or it is the smaller of the two in the same
place. -/
def Precedes (places : List Place) (a b : String) : Prop :=
  rank places a < rank places b ∨ rank places a = rank places b ∧ a < b

/-- What is selected is in one of the places. -/
theorem mem_select_iff {places : List Place} {files : List String} {file : String} :
    file ∈ select places files ↔ file ∈ files ∧ ∃ place ∈ places, place.Holds file := by
  simp only [select, List.mem_eraseDups, List.mem_flatMap, List.mem_filter, decide_eq_true_eq]
  constructor
  · rintro ⟨place, hplace, hfile, hholds⟩
    exact ⟨hfile, place, hplace, hholds⟩
  · rintro ⟨hfile, place, hplace, hholds⟩
    exact ⟨place, hplace, hfile, hholds⟩

/-- Nothing is left out where nothing is there twice. -/
theorem eraseDups_of_nodup {files : List String} (h : files.Nodup) : files.eraseDups = files := by
  induction files with
  | nil => rfl
  | cons file files ih =>
    obtain ⟨hfile, hfiles⟩ := List.nodup_cons.mp h
    have hothers : files.filter (fun other => !other == file) = files :=
      List.filter_eq_self.mpr fun other hother => by
        simpa using fun heq : other = file => hfile (heq ▸ hother)
    rw [List.eraseDups_cons, hothers, ih hfiles]

/-- The files in the first place come first, and then what is selected of the others. -/
theorem select_cons {files : List String} (hnodup : files.Nodup) (place : Place)
    (places : List Place) : select (place :: places) files =
      files.filter (fun file => place.Holds file) ++
        select places (files.filter fun file => ¬ place.Holds file) := by
  have hothers : (places.flatMap fun other => files.filter fun file => other.Holds file).removeAll
      (files.filter fun file => place.Holds file) =
        places.flatMap fun other => (files.filter fun file => ¬ place.Holds file).filter
          fun file => other.Holds file := by
    rw [List.removeAll, List.filter_flatMap]
    refine congrArg (places.flatMap ·) (funext fun other => ?_)
    rw [List.filter_filter, List.filter_filter]
    refine List.filter_congr fun file hfile => ?_
    simp [hfile, Bool.and_comm]
  rw [select, List.flatMap_cons, List.eraseDups_append, hothers,
    eraseDups_of_nodup (hnodup.filter _)]
  rfl

/-- What one place selects. -/
theorem select_singleton {files : List String} (hnodup : files.Nodup) (place : Place) :
    select [place] files = files.filter fun file => place.Holds file := by
  rw [select_cons hnodup]
  exact List.append_nil _

/-- **What is selected is in the order of the places**, and in one place in that of the files. -/
theorem pairwise_select (places : List Place) : ∀ {files : List String},
    files.Pairwise (· < ·) → (select places files).Pairwise (Precedes places) := by
  induction places with
  | nil => exact fun _ => .nil
  | cons place places ih =>
    intro files hfiles
    have hnodup : files.Nodup := List.Pairwise.imp String.ne_of_lt hfiles
    have hin : ∀ file ∈ files.filter (fun file => place.Holds file),
        rank (place :: places) file = 0 := by
      intro file hfile
      have hholds : place.Holds file := by simpa using (List.mem_filter.mp hfile).2
      simp [rank, List.findIdx_cons, hholds]
    have hout : ∀ file ∈ select places (files.filter fun file => ¬ place.Holds file),
        rank (place :: places) file = rank places file + 1 := by
      intro file hfile
      have hholds : ¬ place.Holds file := by
        simpa using (List.mem_filter.mp (mem_select_iff.mp hfile).1).2
      simp [rank, List.findIdx_cons, hholds]
    rw [select_cons hnodup, List.pairwise_append]
    refine ⟨?_, ?_, fun a ha b hb => .inl (by rw [hin a ha, hout b hb]; exact Nat.succ_pos _)⟩
    · refine List.Pairwise.imp_of_mem (fun ha hb hlt => .inr ⟨?_, hlt⟩) (hfiles.filter _)
      rw [hin _ ha, hin _ hb]
    · refine List.Pairwise.imp_of_mem (fun {a b} ha hb hlt => ?_) (ih (hfiles.filter _))
      rw [Precedes, hout a ha, hout b hb, Nat.add_lt_add_iff_right, Nat.add_right_cancel_iff]
      exact hlt

/-- In that order nothing comes twice. -/
theorem nodup_select {places : List Place} {files : List String} (h : files.Pairwise (· < ·)) :
    (select places files).Nodup := by
  refine (pairwise_select places h).imp fun {a b} hprecedes => ?_
  obtain hlt | ⟨-, hlt⟩ := hprecedes
  · exact fun heq => Nat.ne_of_lt hlt (congrArg (rank places) heq)
  · exact String.ne_of_lt hlt

/-! ## Paths of files -/

/-- A path that is joined from a root and a file is called by the file. -/
theorem relativeTo_div {file : String} (h : IsFile file) (root : Path) :
    Store.relativeTo root (root / file) = file := by
  obtain ⟨way, name, hnames, rfl⟩ := h
  exact Path.relativeTo_div_intercalate root (by simp) hnames

/-- Different files are different paths. -/
theorem div_inj {root : Path} {file file' : String} (hfile : IsFile file) (hfile' : IsFile file')
    (h : root / file = root / file') : file = file' := by
  rw [← relativeTo_div hfile root, h, relativeTo_div hfile' root]

/-- **The paths found are those of the files that the patterns match**, each file once and in the
order of the first places: paths are the same only where files are. -/
theorem find_eq_map {files : List String} (hfiles : ∀ file ∈ files, IsFile file) (root : Path)
    (patterns : List String) :
    find root files patterns = (matched patterns files).eraseDups.map (root / ·) := by
  have hmatched : ∀ file ∈ matched patterns files, IsFile file :=
    fun file hfile => hfiles file (mem_of_mem_matched hfile)
  rw [find, ← List.map_flatMap]
  exact Firsts.eraseDups_map fun file hfile file' hfile' =>
    div_inj (hmatched file hfile) (hmatched file' hfile')

/-- **Patterns of places find what is in the places.** -/
theorem find_eq {patterns : List String} {places : List Place}
    (hpatterns : patterns.map ofString = places.map glob)
    (hplain : ∀ place ∈ places, place.IsPlain) {files : List String}
    (hfiles : ∀ file ∈ files, IsFile file) (root : Path) :
    find root files patterns = (select places files).map (root / ·) := by
  have hselect : (patterns.map ofString).flatMap (fun g => files.filter g.isMatch) =
      places.flatMap fun place => files.filter fun file => place.Holds file := by
    rw [hpatterns, List.flatMap_map]
    refine List.flatMap_congr fun place hplace => List.filter_congr fun file hfile => ?_
    rw [Bool.eq_iff_iff, isMatch_glob_iff (hplain place hplace) (hfiles file hfile),
      decide_eq_true_iff]
  rw [find_eq_map hfiles, matched, select, ← hselect, List.flatMap_map]
  rfl

/-- The paths that the patterns of the places match, in the order of the places, each path once. -/
def pathsIn (root : Path) (files : List String) (places : List Place) : List Path :=
  (places.flatMap fun place => (files.filter place.glob.isMatch).map (root / ·)).eraseDups

/-- Patterns of places find these paths, whatever the listing. -/
theorem find_eq_pathsIn {patterns : List String} {places : List Place}
    (hpatterns : patterns.map ofString = places.map glob) (root : Path) (files : List String) :
    find root files patterns = pathsIn root files places := by
  have hfind : find root files patterns = ((patterns.map ofString).flatMap fun g =>
      (files.filter g.isMatch).map (root / ·)).eraseDups := by
    rw [List.flatMap_map]
    rfl
  rw [hfind, hpatterns, List.flatMap_map, pathsIn]

/-- Files that are different one by one are different paths. -/
theorem nodup_div {root : Path} {files : List String} (hfiles : ∀ file ∈ files, IsFile file)
    (hnodup : files.Nodup) : (files.map (root / ·)).Nodup :=
  List.Nodup.map_on
    (fun file hfile file' hfile' => div_inj (hfiles file hfile) (hfiles file' hfile')) hnodup

end Place

end Preflight.Glob
