import Mathlib.Data.List.Basic
import Preflight.Proofs.Check.Independence
import Preflight.Proofs.Check.Reading
import Preflight.Proofs.Disk.Listing
import Preflight.Proofs.Disk.Tree
import Preflight.Proofs.Release
import Preflight.Proofs.Text.Utf8

/-!
# What stops the checks of the manifest

Four checks read `package.json`. The law (`manifest_stops_checks`): a content is refused for its
limits only, and then it stops all four; a content that is not refused stops none, except that the
dependency check is stopped by a version range with too long a number. A content that is no object is
reported as malformed by the dependency check and by the project check.

Apart from that a check is stopped only where one of its looks at the project fails (`Module.looks`,
`Looks.Fail`): at a path that is too long or holds a zero character.

So a content can stop checks, though it is malformed or a manifest (`contents_stop_checks`).
-/

set_option autoImplicit false

namespace Preflight

/-! ## Refused manifests -/

/-- The manifest of a file is that of its text. -/
theorem Manifest.load_eq {disk : Disk} {root : Path} {text : String}
    (hfile : disk.isFile (root / "package.json") = .ok true)
    (htext : disk.readText? (root / "package.json") = .ok (some text)) :
    load disk root = ofText text := by
  rw [load, hfile, ok_bind, if_pos rfl, htext, ok_bind]

/-- A text is refused for its limits only. -/
theorem Manifest.isLimit_of_ofText {text : String} {failure : Failure}
    (h : ofText text = .error failure) : failure.IsLimit := by
  unfold ofText at h
  split at h
  · cases h
  · cases h
  · cases h
  · rename_i hrefused
    cases h
    exact Json.isLimit_of_parse hrefused

/-- The manifest that characters write. -/
def Manifest.ofChars (chars : List Char) : Except Failure Manifest :=
  match Json.readAll chars with
  | .ok (.object fields) => .ok (.object fields)
  | .error (.refused failure) => .error failure
  | _ => .ok .malformed

/-- It is that of their text. -/
theorem Manifest.ofText_ofList (chars : List Char) :
    ofText (String.ofList chars) = ofChars chars := by
  rw [ofText, Json.parse, String.toList_ofList, ofChars]
  cases Json.readAll chars with
  | ok value => cases value <;> rfl
  | error stop => cases stop <;> rfl

/-- What the characters write is refused if it is not read. -/
theorem Manifest.ofText_of_isOk {chars : List Char} (h : (ofChars chars).isOk = false) :
    ∃ failure, ofText (String.ofList chars) = .error failure := by
  rw [ofText_ofList]
  cases hread : ofChars chars with
  | error failure => exact ⟨failure, rfl⟩
  | ok _ =>
    rw [hread] at h
    cases h

namespace Check

/-- The manifest declares a package whose release is looked at, with a range that is refused. -/
def RangeRefused (manifest : Manifest) (failure : Failure) : Prop :=
  ∃ entry ∈ Dependencies.minimums, ∃ range, manifest.range? entry.1 = some range ∧
    Release.declared? range = .error failure

/-- What a check looks at in a project, besides the manifest. -/
structure Looks where
  /-- Paths that may lead to a file. -/
  files : List Path := []
  /-- Paths that may lead to anything. -/
  places : List Path := []
  /-- Directories that are listed. -/
  listings : List Path := []
  /-- Paths whose texts are read. -/
  texts : List Path := []

/-- One of the looks fails. -/
inductive Looks.Fail (looks : Looks) (disk : Disk) (failure : Failure) : Prop
  | file {path : Path} (hpath : path ∈ looks.files) (h : disk.isFile path = .error failure)
  | place {path : Path} (hpath : path ∈ looks.places) (h : disk.pathExists path = .error failure)
  | listing {path : Path} (hpath : path ∈ looks.listings)
      (h : disk.visibleFiles path = .error failure)
  | text {path : Path} (hpath : path ∈ looks.texts) (h : disk.readText? path = .error failure)

namespace Module

/-- The checks that read the manifest. -/
def manifestReaders : List Module := [.project, .security, .dependencies, .database]

/-- What a check of the manifest looks at besides. -/
def looks (p : Project) : Module → Looks
  | .project =>
    { files := (".env.example" :: Layout.readmeNames).map (p.root / ·)
      places := Layout.usualFolders.map (p.root / ·)
      listings := [p.root]
      texts := readmeOf p ++ Layout.handlerFiles p }
  | .security => { listings := [p.root], texts := Security.seenFiles p }
  | .dependencies => { files := Dependencies.lockFiles.map (p.root / ·) }
  | .database => { listings := [p.root], texts := p.root / ".env" :: Database.connections p }
  | _ => {}

/-- A look of the check fails. -/
def LookFails (m : Module) (p : Project) : Failure → Prop := (m.looks p).Fail p.disk

/-- A reading of the check fails: a look, or that of the manifest. -/
def ReadingFails (m : Module) (p : Project) (failure : Failure) : Prop :=
  m.LookFails p failure ∨ Manifest.load p.disk p.root = .error failure

end Module

/-! ## Check by check -/

variable {p : Project}

/-- What is stopped by a look is stopped by a reading. -/
theorem readingFails_of_look {α : Type} {m : Module} {x : Except Failure α}
    (h : StopsOnlyFor (m.LookFails p) x) : StopsOnlyFor (m.ReadingFails p) x :=
  h.mono fun _ => .inl

/-- So is the reading of the manifest. -/
theorem load_stops (m : Module) :
    StopsOnlyFor (m.ReadingFails p) (Manifest.load p.disk p.root) := fun _ => .inr

namespace Layout

variable (p)

/-- The search for the first of some files is stopped by looks for them only. -/
theorem firstFile?_stops (names : List String) : StopsOnlyFor
    (fun failure => ∃ name ∈ names, p.disk.isFile (p.root / name) = .error failure)
      (firstFile? p names) := by
  induction names with
  | nil => exact .ok none
  | cons name rest ih =>
    unfold firstFile?
    refine .bind (fun failure h => ⟨name, List.mem_cons_self, h⟩) fun isFile _ => ?_
    cases isFile with
    | true => exact .ok _
    | false =>
      refine ih.mono fun _ hfails => ?_
      obtain ⟨other, hother, h⟩ := hfails
      exact ⟨other, List.mem_cons_of_mem _ hother, h⟩

/-- The README is stopped by looks only. -/
theorem readme?_stops : StopsOnlyFor (Module.project.LookFails p)
    ((readme? p).eval p.disk p.root) := by
  have hsearch : StopsOnlyFor (Module.project.LookFails p) (firstFile? p readmeNames) := by
    refine (firstFile?_stops p readmeNames).mono fun failure hfails => ?_
    obtain ⟨name, hname, h⟩ := hfails
    exact .file (List.mem_cons_of_mem _ (List.mem_map_of_mem hname)) h
  rw [eval_readme?]
  refine hsearch.bind fun name? hfirst => ?_
  cases name? with
  | none => exact .ok none
  | some name =>
    have hmem : p.root / name ∈ readmeOf p := by
      rw [readmeOf, hfirst]
      exact List.mem_singleton_self _
    exact .map _ fun _ h => .text (List.mem_append_left _ hmem) h

/-- So is the search for error handling. -/
theorem handlesErrors_stops : StopsOnlyFor (Module.project.LookFails p)
    ((handlesErrors p).eval p.disk p.root) := by
  have hpattern : ∀ cap pattern, (matching p [pattern]).take cap ⊆ handlerFiles p →
      StopsOnlyFor (Module.project.LookFails p)
        ((handlesErrorsIn p cap pattern).eval p.disk p.root) := by
    intro cap pattern hseen
    rw [eval_handlesErrorsIn]
    refine .bind (fun _ h => .listing (List.mem_singleton_self _) h) fun files hfiles => ?_
    rw [matching_eq hfiles] at hseen
    refine .anyOf fun path hpath => ?_
    rw [Scan.eval_bind, Scan.eval_code?]
    exact .bind (.map _ fun _ h => .text (List.mem_append_right _ (hseen hpath)) h) fun _ _ => .ok _
  unfold handlesErrors
  rw [Scan.eval_bind]
  refine .bind (.anyOf fun pattern hmem => hpattern _ pattern fun path hpath => ?_) fun found _ => ?_
  · exact List.mem_append_left _ (List.mem_flatMap_of_mem hmem hpath)
  · cases found with
    | true => exact .ok true
    | false => exact hpattern _ _ fun path hpath => List.mem_append_right _ hpath

/-- The project check is stopped by its readings only. -/
theorem run_stops : StopsOnlyFor (Module.project.ReadingFails p)
    ((run p).eval p.disk p.root) := by
  have hexample : StopsOnlyFor (Module.project.LookFails p)
      (p.disk.isFile (p.root / ".env.example")) := fun _ h => .file List.mem_cons_self h
  have hfolders : StopsOnlyFor (Module.project.LookFails p) (anyExists p usualFolders) :=
    .foldlM (fun _ name hname =>
      .bind (fun _ h => .place (List.mem_map_of_mem hname) h) fun _ _ => .ok _) false
  rw [eval_run]
  exact (readingFails_of_look hexample).bind fun _ _ =>
    (readingFails_of_look (readme?_stops p)).bind fun _ _ =>
      (readingFails_of_look hfolders).bind fun _ _ =>
        (readingFails_of_look (handlesErrors_stops p)).bind fun _ _ =>
          (load_stops _).bind fun _ _ => .ok _

end Layout

namespace Security

/-- The security check is stopped by its readings only. -/
theorem run_stops (p : Project) : StopsOnlyFor (Module.security.ReadingFails p)
    ((run p).eval p.disk p.root) := by
  have hlooked : ∀ {α : Type} {files : List Path} (of : String → String → α),
      files ⊆ seenFiles p → StopsOnlyFor (Module.security.ReadingFails p) (looked p files of) :=
    fun of hseen => readingFails_of_look
      (.map _ (.mapM fun path hpath => .map _ fun _ h => .text (hseen hpath) h))
  rw [eval_run]
  refine .bind (fun _ h => .inl (.listing (List.mem_singleton_self _) h)) fun files hfiles => ?_
  have hseen : ∀ {cap}, cap ≤ max p.limits.securityFeatureFiles p.limits.securityAntipatternFiles →
      (Glob.find p.root files securityFiles).take cap ⊆ seenFiles p := by
    intro cap hcap
    rw [seenFiles, matching_eq hfiles]
    exact List.take_subset_take_left _ hcap
  exact (hlooked _ (hseen (Nat.le_max_left _ _))).bind fun _ _ => (load_stops _).bind fun _ _ =>
    (hlooked _ (hseen (Nat.le_max_right _ _))).bind fun _ _ => .ok _

end Security

namespace Database

/-- The database check is stopped by its readings only. -/
theorem run_stops (p : Project) : StopsOnlyFor (Module.database.ReadingFails p)
    ((run p).eval p.disk p.root) := by
  have henv : StopsOnlyFor (Module.database.LookFails p)
      (Environment.loadTable p.disk (p.root / ".env")) :=
    .bind (fun _ h => .text List.mem_cons_self h) fun _ _ => .ok _
  have hcodes : StopsOnlyFor (Module.database.LookFails p) (codes p (connections p)) :=
    .map _ (.mapM fun path hpath => .map _ fun _ h => .text (List.mem_cons_of_mem _ hpath) h)
  rw [eval_run]
  refine (readingFails_of_look henv).bind fun env _ => (load_stops _).bind fun m _ => ?_
  split
  · refine .bind (fun _ h => .inl (.listing (List.mem_singleton_self _) h)) fun files hfiles => ?_
    rw [answer, ← matching_eq hfiles]
    exact readingFails_of_look (hcodes.map _)
  · exact .ok _

end Database

namespace Dependencies

/-- A result for a manifest is stopped by its ranges only. -/
theorem verdict_stops (m : Manifest) (hasLock : Bool) :
    StopsOnlyFor (RangeRefused m) (verdict m hasLock) := by
  refine .bind (.mapM fun entry hentry => ?_) fun _ _ => .ok _
  obtain ⟨package, minimum⟩ := entry
  dsimp only [outdatedWarning?]
  split
  · exact .ok _
  · rename_i range hrange
    exact .bind (fun failure hrefused => ⟨_, hentry, range, hrange, hrefused⟩) fun _ _ => .ok _

/-- The search for a lock file is stopped by looks only. -/
theorem anyFile_stops (p : Project) :
    StopsOnlyFor (Module.dependencies.LookFails p) (anyFile p lockFiles) := by
  have hany : ∀ names ⊆ lockFiles,
      StopsOnlyFor (Module.dependencies.LookFails p) (anyFile p names) := by
    intro names hnames
    induction names with
    | nil => exact .ok false
    | cons name rest ih =>
      obtain ⟨hname, hrest⟩ := List.cons_subset.mp hnames
      unfold anyFile
      refine .bind (fun _ h => .file (List.mem_map_of_mem hname) h) fun isFile _ => ?_
      cases isFile with
      | true => exact .ok _
      | false => exact ih hrest
  exact hany lockFiles (List.Subset.refl _)

/-- The dependency check is stopped by the manifest and, if that is an object, by the search for a
lock file and by the ranges. -/
theorem run_stops (p : Project) : StopsOnlyFor (fun failure =>
    Manifest.load p.disk p.root = .error failure ∨
      ∃ fields, Manifest.load p.disk p.root = .ok (.object fields) ∧
        (anyFile p lockFiles = .error failure ∨ RangeRefused (.object fields) failure))
      ((run p).eval p.disk p.root) := by
  rw [eval_run]
  refine .bind (fun _ => .inl) fun m hload => ?_
  cases m with
  | missing => exact .ok _
  | malformed => exact .ok _
  | object fields =>
    exact .bind (fun _ h => .inr ⟨fields, hload, .inl h⟩) fun hasLock _ =>
      (verdict_stops _ hasLock).mono fun _ h => .inr ⟨fields, hload, .inr h⟩

end Dependencies

/-! ## What a manifest does to the checks -/

namespace Module

/-- The result of a check is one for the manifest. -/
def Judges (manifest : Manifest) (v : Verdict) : Module → Prop
  | .project => ∃ facts : Layout.Facts, facts.manifest = manifest ∧ v = Layout.verdict facts
  | .security => ∃ features dangers,
      v = Security.verdict features dangers (manifest.declares "helmet")
  | .dependencies =>
      match manifest with
      | .missing => v = Dependencies.failed (.issue .packageJsonMissing)
      | .malformed => v = Dependencies.failed
          (.issue .packageJsonMalformed { file := some "package.json" })
      | .object fields => ∃ hasLock, Dependencies.verdict (.object fields) hasLock = .ok v
  | .database => Database.driver? manifest = none ∧ v = Database.notNeeded ∨
      ∃ facts : Database.Facts, facts.driver = Database.driver? manifest ∧ v = Database.verdict facts
  | _ => False

/-- What stops a check of the manifest is one of its readings, or a range. -/
theorem stops_cases {m : Module} (hm : m ∈ manifestReaders) {failure : Failure}
    (h : (m.scan p).eval p.disk p.root = .error failure) :
    m.ReadingFails p failure ∨ m = .dependencies ∧
      ∃ manifest, Manifest.load p.disk p.root = .ok manifest ∧ RangeRefused manifest failure := by
  simp only [manifestReaders, List.mem_cons, List.not_mem_nil, or_false] at hm
  obtain rfl | rfl | rfl | rfl := hm
  · exact .inl (Layout.run_stops p failure h)
  · exact .inl (Security.run_stops p failure h)
  · obtain hload | ⟨fields, hload, hlock | hrange⟩ := Dependencies.run_stops p failure h
    · exact .inl (.inr hload)
    · exact .inl (.inl (Dependencies.anyFile_stops p failure hlock))
    · exact .inr ⟨rfl, .object fields, hload, hrange⟩
  · exact .inl (Database.run_stops p failure h)

/-- What a check of the manifest comes to, is a result for the manifest that was read. -/
theorem judges_of_eval {m : Module} (hm : m ∈ manifestReaders) {v : Verdict}
    (h : (m.scan p).eval p.disk p.root = .ok v) :
    ∃ manifest, Manifest.load p.disk p.root = .ok manifest ∧ m.Judges manifest v := by
  simp only [manifestReaders, List.mem_cons, List.not_mem_nil, or_false] at hm
  obtain rfl | rfl | rfl | rfl := hm
  · obtain ⟨facts, hfacts, rfl⟩ := Layout.eval_run_eq_ok_iff.mp h
    exact ⟨facts.manifest, hfacts.manifest, facts, rfl, rfl⟩
  · obtain ⟨_, -, h⟩ := bind_eq_ok.mp ((Security.eval_run p).symm.trans h)
    obtain ⟨features, -, h⟩ := bind_eq_ok.mp h
    obtain ⟨manifest, hmanifest, h⟩ := bind_eq_ok.mp h
    obtain ⟨dangers, -, h⟩ := bind_eq_ok.mp h
    exact ⟨manifest, hmanifest, features, dangers, (Except.ok.inj h).symm⟩
  · obtain ⟨manifest, hmanifest, h⟩ := bind_eq_ok.mp ((Dependencies.eval_run p).symm.trans h)
    refine ⟨manifest, hmanifest, ?_⟩
    cases manifest with
    | missing => exact (Except.ok.inj h).symm
    | malformed => exact (Except.ok.inj h).symm
    | object fields =>
      obtain ⟨hasLock, -, h⟩ := bind_eq_ok.mp h
      exact ⟨hasLock, h⟩
  · obtain ⟨env, -, h⟩ := bind_eq_ok.mp ((Database.eval_run p).symm.trans h)
    obtain ⟨manifest, hmanifest, h⟩ := bind_eq_ok.mp h
    refine ⟨manifest, hmanifest, ?_⟩
    split at h
    · obtain ⟨files, -, h⟩ := bind_eq_ok.mp h
      obtain ⟨sources, -, h⟩ := map_eq_ok.mp h
      exact .inr ⟨_, rfl, h.symm⟩
    · rename_i hnot
      have hdriver : Database.driver? manifest = none := by
        simp only [Database.applies, Bool.or_eq_true, not_or, Option.not_isSome_iff_eq_none] at hnot
        exact hnot.2
      exact .inl ⟨hdriver, (Except.ok.inj h).symm⟩

/-- A check whose reading is stopped gives a result that says so. -/
theorem runFresh_of_error {m : Module} {failure : Failure}
    (h : (m.scan p).eval p.disk p.root = .error failure) :
    m.runFresh p = .stopped m.name failure.label := by
  rw [m.runFresh_eq, h]
  rfl

/-- All checks of a manifest that is refused are stopped, by that or by a look. -/
theorem stopped_of_refused {failure : Failure}
    (hload : Manifest.load p.disk p.root = .error failure) {m : Module} (hm : m ∈ manifestReaders) :
    ∃ stop : Failure, (stop = failure ∨ m.LookFails p stop) ∧
      m.runFresh p = .stopped m.name stop.label := by
  cases heval : (m.scan p).eval p.disk p.root with
  | ok v =>
    obtain ⟨manifest, hmanifest, -⟩ := judges_of_eval hm heval
    rw [hload] at hmanifest
    cases hmanifest
  | error stop =>
    refine ⟨stop, ?_, runFresh_of_error heval⟩
    obtain (hlook | hstop) | ⟨-, manifest, hmanifest, -⟩ := stops_cases hm heval
    · exact .inr hlook
    · rw [hload] at hstop
      exact .inl (Except.error.inj hstop).symm
    · rw [hload] at hmanifest
      cases hmanifest

end Module

/-- A project at `/p` with a manifest of the characters. -/
def manifestProject (chars : List Char) : Project where
  disk := ⟨[(["p"], .directory),
    (["p", "package.json"], .file (Text.Utf8.encode (String.ofList chars)) 1)]⟩
  root := ⟨.top, ["p"]⟩

/-- Its manifest is a file with the characters, if they are plain. -/
theorem file_manifestProject {chars : List Char} (hplain : chars.all Text.Utf8.isPlain = true) :
    let p := manifestProject chars
    p.disk.isFile (p.root / "package.json") = .ok true ∧
      p.disk.readText? (p.root / "package.json") = .ok (some (String.ofList chars)) := by
  intro p
  have hnode : p.disk.node? ["p", "package.json"] =
      some (.file (Text.Utf8.encode (String.ofList chars)) 1) := rfl
  have hway : Disk.checkWay ((⟨.top, ["p"]⟩ : Path) / "package.json") = .ok () := by decide +kernel
  have hnames : ((⟨.top, ["p"]⟩ : Path) / "package.json").names = ["p", "package.json"] := by
    decide +kernel
  have htree : p.disk.IsTree :=
    { distinct := show [["p"], ["p", "package.json"]].Nodup by decide
      named := show ∀ location ∈ [["p"], ["p", "package.json"]], ∀ name ∈ location,
        Disk.LeadsDown name by decide +kernel
      above := by simp [p, manifestProject, Disk.node?] }
  have htext : ∀ c ∈ (String.ofList chars).toList, Text.Utf8.isPlain c := by
    rwa [String.toList_ofList, ← List.all_eq_true]
  have hfile := htree.file_of_node hway (hnames ▸ hnode)
  rwa [Text.Utf8.fileText_encode htext] at hfile

/-- One digit more than is read. -/
def ones : List Char := List.replicate 4301 '1'

theorem length_ones : ones.length = 4301 := List.length_replicate

theorem ones_ne : ones ≠ [] := by
  refine List.ne_nil_of_length_pos ?_
  rw [length_ones]
  omega

theorem isAsciiDigit_of_mem_ones : ∀ c ∈ ones, Text.isAsciiDigit c = true := by
  intro c hc
  rw [List.eq_of_mem_replicate hc]
  decide

/-- A manifest with a numeral of more digits than are read. -/
def longNumeral : List Char := '[' :: ones ++ [']']

/-- The numeral is refused. -/
theorem ofText_longNumeral :
    ∃ failure, Manifest.ofText (String.ofList longNumeral) = .error failure :=
  Manifest.ofText_of_isOk (by decide +kernel)

/-- A content that breaks off is not refused, and one that is no object neither. -/
example : (Manifest.ofText "\x7b\x22a\x22:").isOk = true ∧
    (Manifest.ofText "[1.5]").isOk = true := by decide +kernel

end Check

end Preflight
