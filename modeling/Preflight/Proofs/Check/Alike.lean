import Preflight.Proofs.Check.Independence
import Preflight.Proofs.Check.Reading
import Preflight.Proofs.Check.Routes

/-!
# Disks that look alike to the checks

All that the checks look at: the files that some patterns find in the listing, and their texts, some
files in the root, and whether the usual directories are there (`LooksAlike`). Disks that look alike
give the same results (`LooksAlike.runFresh_eq`), check by check.

Which changes of a disk the checks do not see is the matter of `Preflight.Proofs.Check.Irrelevance`.
-/

set_option autoImplicit false

namespace Preflight.Check

/-! ## What is looked at -/

/-- The patterns of the files that are read, or whose presence matters. -/
def sourcePatterns : List String :=
  patterns true ++ [mainFiles] ++ Layout.errorHandlerFiles ++ Security.securityFiles ++
    Database.connectionFiles ++ Database.modelFiles ++ Database.migrationFiles

/-- The files that are looked for in the root of a project. -/
def rootFiles : List String :=
  [".env", ".env.example", "README.md", "README.txt", "readme.md", "package.json",
    "package-lock.json", "yarn.lock", "pnpm-lock.yaml"]

/-- Two listings with the texts of their files look alike to the patterns. -/
structure SourcesAlike (disk disk' : Disk) (root : Path) (files files' : List String) : Prop where
  select : ∀ pattern ∈ sourcePatterns, Glob.select pattern files' = Glob.select pattern files
  texts : ∀ pattern ∈ sourcePatterns, ∀ file ∈ Glob.select pattern files,
    disk'.readText? (root / file) = disk.readText? (root / file)

/-- Two disks look alike to the checks of a project. -/
structure LooksAlike (disk disk' : Disk) (root : Path) : Prop where
  listing : (∃ failure, disk.visibleFiles root = .error failure ∧
      disk'.visibleFiles root = .error failure) ∨
    ∃ files files', disk.visibleFiles root = .ok files ∧ disk'.visibleFiles root = .ok files' ∧
      SourcesAlike disk disk' root files files'
  isFile : ∀ name ∈ rootFiles, disk'.isFile (root / name) = disk.isFile (root / name)
  readText? : ∀ name ∈ rootFiles, disk'.readText? (root / name) = disk.readText? (root / name)
  pathExists : ∀ name ∈ Layout.usualFolders,
    disk'.pathExists (root / name) = disk.pathExists (root / name)

namespace SourcesAlike

variable {disk disk' : Disk} {root : Path} {files files' : List String}

/-- The patterns find the same files. -/
theorem find_eq (h : SourcesAlike disk disk' root files files') {wanted : List String}
    (hwanted : wanted ⊆ sourcePatterns) :
    Glob.find root files' wanted = Glob.find root files wanted :=
  Glob.find_congr fun pattern hpattern => h.select pattern (hwanted hpattern)

/-- These have the same texts. -/
theorem readText?_eq (h : SourcesAlike disk disk' root files files') {wanted : List String}
    (hwanted : wanted ⊆ sourcePatterns) {path : Path} (hpath : path ∈ Glob.find root files wanted) :
    disk'.readText? path = disk.readText? path := by
  obtain ⟨file, hfile, ⟨pattern, hpattern, hmatch⟩, rfl⟩ := Glob.mem_find.mp hpath
  exact h.texts pattern (hwanted hpattern) file (List.mem_filter.mpr ⟨hfile, hmatch⟩)

/-- The patterns of route files are among the patterns. -/
theorem patterns_subset (withControllers : Bool) : patterns withControllers ⊆ sourcePatterns := by
  cases withControllers <;> decide

/-- Routes are looked for in the same files. -/
theorem filesIn_eq (h : SourcesAlike disk disk' root files files') (withControllers : Bool) :
    filesIn root files' withControllers = filesIn root files withControllers := by
  rw [filesIn, filesIn, h.find_eq (patterns_subset withControllers), h.find_eq (by decide)]

/-- These have the same texts. -/
theorem readText?_eq_of_filesIn (h : SourcesAlike disk disk' root files files')
    {withControllers : Bool} {path : Path} (hpath : path ∈ filesIn root files withControllers) :
    disk'.readText? path = disk.readText? path := by
  unfold filesIn at hpath
  split at hpath
  · exact h.readText?_eq (by decide) hpath
  · exact h.readText?_eq (patterns_subset withControllers) hpath

end SourcesAlike

namespace LooksAlike

variable {p : Project} {disk' : Disk}

/-- A question about the listing is answered alike if it asks for source files. -/
theorem bind_visibleFiles {α : Type} {disk : Disk} {root : Path} (h : LooksAlike disk disk' root)
    {next next' : List String → Except Failure α}
    (hnext : ∀ files files', SourcesAlike disk disk' root files files' →
      next' files' = next files) :
    (disk'.visibleFiles root >>= next') = (disk.visibleFiles root >>= next) := by
  obtain ⟨failure, hbefore, hafter⟩ | ⟨files, files', hbefore, hafter, halike⟩ := h.listing
  · rw [hbefore, hafter]
    rfl
  · rw [hbefore, hafter, ok_bind, ok_bind]
    exact hnext files files' halike

/-! ## Routes -/

/-- The API check gives the same result. -/
theorem api_eq (h : LooksAlike p.disk disk' p.root) :
    (Api.run { p with disk := disk' }).eval disk' p.root = (Api.run p).eval p.disk p.root := by
  refine (Api.eval_run { p with disk := disk' }).trans (.trans ?_ (Api.eval_run p).symm)
  refine h.bind_visibleFiles fun files files' halike => ?_
  rw [halike.filesIn_eq, Api.answer, Api.answer]
  congr 2
  exact mapM_congr fun path hpath => by rw [halike.readText?_eq_of_filesIn hpath]

/-- The authentication check gives the same result. -/
theorem auth_eq (h : LooksAlike p.disk disk' p.root) :
    (Auth.run { p with disk := disk' }).eval disk' p.root = (Auth.run p).eval p.disk p.root := by
  refine (Auth.eval_run { p with disk := disk' }).trans (.trans ?_ (Auth.eval_run p).symm)
  refine h.bind_visibleFiles fun files files' halike => ?_
  rw [halike.filesIn_eq, Auth.answer, Auth.answer]
  congr 2
  exact mapM_congr fun path hpath => by
    rw [halike.readText?_eq_of_filesIn hpath]
    rfl

/-! ## Files in the root -/

/-- An environment file has the same table. -/
theorem loadTable_eq {disk : Disk} {root : Path} (h : LooksAlike disk disk' root) {name : String}
    (hname : name ∈ rootFiles) :
    Environment.loadTable disk' (root / name) = Environment.loadTable disk (root / name) := by
  rw [Environment.loadTable, Environment.loadTable, h.readText? name hname]

/-- So it has if it may be missing. -/
theorem table?_eq {disk : Disk} {root : Path} (h : LooksAlike disk disk' root) {name : String}
    (hname : name ∈ rootFiles) :
    Environment.table? disk' (root / name) = Environment.table? disk (root / name) := by
  rw [Environment.table?, Environment.table?, h.isFile name hname, h.loadTable_eq hname]

/-- The manifest is the same. -/
theorem manifest_eq {disk : Disk} {root : Path} (h : LooksAlike disk disk' root) :
    Manifest.load disk' root = Manifest.load disk root :=
  load_congr (h.isFile "package.json" (by decide)) (h.readText? "package.json" (by decide))

/-- The environment check gives the same result. -/
theorem environment_eq (h : LooksAlike p.disk disk' p.root) :
    (Environment.run { p with disk := disk' }).eval disk' p.root =
      (Environment.run p).eval p.disk p.root := by
  refine (Environment.eval_run { p with disk := disk' }).trans
    (.trans ?_ (Environment.eval_run p).symm)
  simp only [h.table?_eq (show ".env" ∈ rootFiles by decide),
    h.table?_eq (show ".env.example" ∈ rootFiles by decide)]

/-- There is a lock file if there was one. -/
theorem anyFile_eq (h : LooksAlike p.disk disk' p.root) {names : List String}
    (hnames : names ⊆ rootFiles) :
    Dependencies.anyFile { p with disk := disk' } names = Dependencies.anyFile p names := by
  induction names with
  | nil => rfl
  | cons name rest ih =>
    obtain ⟨hname, hrest⟩ := List.cons_subset.mp hnames
    rw [Dependencies.anyFile, Dependencies.anyFile, ih hrest]
    simp only [h.isFile name hname]

/-- The dependency check gives the same result. -/
theorem dependencies_eq (h : LooksAlike p.disk disk' p.root) :
    (Dependencies.run { p with disk := disk' }).eval disk' p.root =
      (Dependencies.run p).eval p.disk p.root := by
  refine (Dependencies.eval_run { p with disk := disk' }).trans
    (.trans ?_ (Dependencies.eval_run p).symm)
  rw [h.manifest_eq]
  congr 1
  funext m
  cases m with
  | missing => rfl
  | malformed => rfl
  | object fields => rw [Dependencies.answer, Dependencies.answer, h.anyFile_eq (by decide)]

/-! ## Project -/

/-- The README is the same. -/
theorem readme?_eq (h : LooksAlike p.disk disk' p.root) :
    (Layout.readme? { p with disk := disk' }).eval disk' p.root =
      (Layout.readme? p).eval p.disk p.root := by
  have hnames : Layout.readmeNames ⊆ rootFiles := by decide
  exact Layout.readme?_congr (fun name hname => h.isFile name (hnames hname)) fun name hfirst =>
    h.readText? name (hnames (Layout.mem_of_firstFile? hfirst))

/-- Error handling is found in the files of a pattern if it was. -/
theorem handlesErrorsIn_eq (h : LooksAlike p.disk disk' p.root) (cap : Nat) {pattern : String}
    (hpattern : pattern ∈ sourcePatterns) :
    (Layout.handlesErrorsIn { p with disk := disk' } cap pattern).eval disk' p.root =
      (Layout.handlesErrorsIn p cap pattern).eval p.disk p.root := by
  have hwanted : [pattern] ⊆ sourcePatterns := by simpa using hpattern
  refine (Layout.eval_handlesErrorsIn { p with disk := disk' } cap pattern).trans
    (.trans ?_ (Layout.eval_handlesErrorsIn p cap pattern).symm)
  refine h.bind_visibleFiles fun files files' halike => ?_
  rw [halike.find_eq hwanted]
  exact Layout.handledIn_congr fun path hpath =>
    halike.readText?_eq hwanted (List.mem_of_mem_take hpath)

/-- Error handling is found in the project if it was. -/
theorem handlesErrors_eq (h : LooksAlike p.disk disk' p.root) :
    (Layout.handlesErrors { p with disk := disk' }).eval disk' p.root =
      (Layout.handlesErrors p).eval p.disk p.root := by
  have hfiles : Layout.errorHandlerFiles ⊆ sourcePatterns := by decide
  exact Layout.handlesErrors_congr
    (fun pattern hpattern => h.handlesErrorsIn_eq _ (hfiles hpattern))
    (h.handlesErrorsIn_eq _ (by decide))

/-- The project check gives the same result. -/
theorem layout_eq (h : LooksAlike p.disk disk' p.root) :
    (Layout.run { p with disk := disk' }).eval disk' p.root =
      (Layout.run p).eval p.disk p.root := by
  refine (Layout.eval_run { p with disk := disk' }).trans (.trans ?_ (Layout.eval_run p).symm)
  simp only [h.isFile ".env.example" (by decide), h.readme?_eq,
    Layout.anyExists_congr h.pathExists, h.handlesErrors_eq, h.manifest_eq]

/-! ## Security and database -/

/-- The security check gives the same result. -/
theorem security_eq (h : LooksAlike p.disk disk' p.root) :
    (Security.run { p with disk := disk' }).eval disk' p.root =
      (Security.run p).eval p.disk p.root := by
  have hwanted : Security.securityFiles ⊆ sourcePatterns := by decide
  refine (Security.eval_run { p with disk := disk' }).trans (.trans ?_ (Security.eval_run p).symm)
  refine h.bind_visibleFiles fun files files' halike => ?_
  rw [halike.find_eq hwanted]
  exact Security.answer_congr rfl rfl h.manifest_eq fun path hpath =>
    halike.readText?_eq hwanted (List.mem_of_mem_take hpath)

/-- The database check gives the same result. -/
theorem database_eq (h : LooksAlike p.disk disk' p.root) :
    (Database.run { p with disk := disk' }).eval disk' p.root =
      (Database.run p).eval p.disk p.root := by
  have hwanted : Database.connectionFiles ⊆ sourcePatterns := by decide
  have hanswer : ∀ env m, (disk'.visibleFiles p.root >>=
      Database.answer { p with disk := disk' } env m) =
        (p.disk.visibleFiles p.root >>= Database.answer p env m) := by
    intro env m
    refine h.bind_visibleFiles fun files files' halike => ?_
    refine Database.answer_congr env m rfl (by rw [halike.find_eq hwanted])
      (halike.find_eq (by decide)) (halike.find_eq (by decide)) fun path hpath => ?_
    exact halike.readText?_eq hwanted (List.mem_of_mem_take hpath)
  refine (Database.eval_run { p with disk := disk' }).trans (.trans ?_ (Database.eval_run p).symm)
  rw [h.loadTable_eq (by decide), h.manifest_eq]
  simp only [hanswer]

/-! ## All checks -/

/-- **A check cannot tell disks that look alike.** -/
theorem runFresh_eq (h : LooksAlike p.disk disk' p.root) (m : Module) :
    m.runFresh { p with disk := disk' } = m.runFresh p := by
  rw [m.runFresh_eq, m.runFresh_eq]
  refine congrArg m.settle ?_
  cases m with
  | env => exact h.environment_eq
  | auth => exact h.auth_eq
  | api => exact h.api_eq
  | project => exact h.layout_eq
  | security => exact h.security_eq
  | dependencies => exact h.dependencies_eq
  | database => exact h.database_eq

end LooksAlike

end Preflight.Check
