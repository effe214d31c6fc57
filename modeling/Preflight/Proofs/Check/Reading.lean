import Preflight.Proofs.Check.Manifest
import Preflight.Proofs.Check.Passing

/-!
# What three checks read

The project, security and database checks look for evidence in a limited number of files
(`Layout.handlerFiles`, `Security.seenFiles`, `Database.connections`). What each of them answers is
told by the files within its limits and by the texts of these: another disk and other limits under
which both are the same give the same answer (`Security.answer_congr`, `Database.answer_congr`,
`Layout.eval_run_congr`).
-/

set_option autoImplicit false

namespace Preflight.Check

/-! ## Files that are found -/

/-- The files that the patterns match; none if there is no listing. -/
def matching (p : Project) (patterns : List String) : List Path :=
  match p.disk.visibleFiles p.root with
  | .ok files => Glob.find p.root files patterns
  | .error _ => []

/-- They are found in the listing. -/
theorem matching_eq {p : Project} {files : List String} (h : p.disk.visibleFiles p.root = .ok files)
    (patterns : List String) : matching p patterns = Glob.find p.root files patterns := by
  unfold matching
  rw [h]

/-- The security files that are looked at. -/
def Security.seenFiles (p : Project) : List Path :=
  (matching p securityFiles).take
    (max p.limits.securityFeatureFiles p.limits.securityAntipatternFiles)

/-- The connection files within the limit. -/
def Database.connections (p : Project) : List Path :=
  (matching p connectionFiles).take p.limits.databaseConnectionFiles

/-- The README that is read, if there is one. -/
def readmeOf (p : Project) : List Path :=
  ((Layout.firstFile? p Layout.readmeNames).toOption.join.map (p.root / ·)).toList

/-- The files in which error handling is looked for. -/
def Layout.handlerFiles (p : Project) : List Path :=
  (errorHandlerFiles.flatMap fun pattern =>
      (matching p [pattern]).take p.limits.errorHandlerFilesPerGlob) ++
    (matching p [mainFiles]).take p.limits.errorHandlerMainFiles

/-! ## Equal answers -/

variable {p : Project} {disk' : Disk} {limits' : Limits}

/-- The disks have the same texts at the paths. -/
def SameTexts (disk disk' : Disk) (paths : List Path) : Prop :=
  ∀ path ∈ paths, disk'.readText? path = disk.readText? path

/-- They have the same texts at fewer paths. -/
theorem SameTexts.mono {disk : Disk} {paths fewer : List Path} (h : SameTexts disk disk' paths)
    (hfewer : fewer ⊆ paths) : SameTexts disk disk' fewer :=
  fun path hpath => h path (hfewer hpath)

/-- The manifest is read from one file. -/
theorem load_congr {disk : Disk} {root : Path}
    (hfile : disk'.isFile (root / "package.json") = disk.isFile (root / "package.json"))
    (htext : disk'.readText? (root / "package.json") = disk.readText? (root / "package.json")) :
    Manifest.load disk' root = Manifest.load disk root := by
  rw [Manifest.load, Manifest.load, hfile, htext]

/-! ## Security -/

namespace Security

/-- Files with the same texts give the same. -/
theorem looked_congr {α : Type} {files : List Path} {of : String → String → α}
    (htexts : SameTexts p.disk disk' files) :
    looked { p with disk := disk', limits := limits' } files of = looked p files of := by
  rw [looked, looked]
  congr 1
  exact mapM_congr fun path hpath => by
    rw [htexts path hpath]
    rfl

/-- The security check answers for the files within its limits. -/
theorem answer_congr {files : List Path}
    (hfeatures : files.take limits'.securityFeatureFiles =
      files.take p.limits.securityFeatureFiles)
    (hdangers : files.take limits'.securityAntipatternFiles =
      files.take p.limits.securityAntipatternFiles)
    (hmanifest : Manifest.load disk' p.root = Manifest.load p.disk p.root)
    (htexts : SameTexts p.disk disk' (files.take
      (max p.limits.securityFeatureFiles p.limits.securityAntipatternFiles))) :
    answer { p with disk := disk', limits := limits' } files = answer p files := by
  have hfewer : ∀ cap ≤ max p.limits.securityFeatureFiles p.limits.securityAntipatternFiles,
      SameTexts p.disk disk' (files.take cap) :=
    fun cap hcap => htexts.mono (List.take_subset_take_left files hcap)
  rw [answer, answer, hfeatures, hdangers, hmanifest,
    looked_congr (hfewer _ (Nat.le_max_left _ _)), looked_congr (hfewer _ (Nat.le_max_right _ _))]

end Security

/-! ## Database -/

namespace Database

/-- The database check answers for the connection files within its limit, and for whether there are
files of models and migrations. -/
theorem answer_congr {files files' : List String} {connections : List Path} (env : Env.Table)
    (m : Manifest)
    (hbefore : (Glob.find p.root files connectionFiles).take p.limits.databaseConnectionFiles =
      connections)
    (hafter : (Glob.find p.root files' connectionFiles).take limits'.databaseConnectionFiles =
      connections)
    (hmigrations : Glob.find p.root files' migrationFiles = Glob.find p.root files migrationFiles)
    (hmodels : Glob.find p.root files' modelFiles = Glob.find p.root files modelFiles)
    (htexts : SameTexts p.disk disk' connections) :
    answer { p with disk := disk', limits := limits' } env m files' = answer p env m files := by
  rw [answer, answer, hbefore, hafter, hmigrations, hmodels]
  congr 1
  rw [codes, codes]
  congr 1
  exact mapM_congr fun path hpath => by rw [htexts path hpath]

end Database

/-! ## Project -/

namespace Layout

/-- One of the files handles errors. -/
def handledIn (p : Project) (files : List Path) : Except Failure Bool :=
  (Scan.anyOf files fun path => do
    return (← Scan.code? path).any Source.handlesErrors).eval p.disk p.root

/-- The files of a pattern within the limit are looked through. -/
theorem eval_handlesErrorsIn (p : Project) (cap : Nat) (pattern : String) :
    (handlesErrorsIn p cap pattern).eval p.disk p.root =
      p.disk.visibleFiles p.root >>= fun files =>
        handledIn p ((Glob.find p.root files [pattern]).take cap) := by
  simp only [handlesErrorsIn, Scan.eval_bind, Scan.eval_find _ _ p (List.cons_ne_nil pattern []),
    map_eq_bind, bind_assoc, ok_bind]
  rfl

/-- Files with the same texts handle errors alike. -/
theorem handledIn_congr {files : List Path} (htexts : SameTexts p.disk disk' files) :
    handledIn { p with disk := disk', limits := limits' } files = handledIn p files := by
  refine Scan.eval_anyOf_congr fun path hpath => ?_
  simp only [Scan.eval_bind, Scan.eval_code?, Scan.eval_pure, htexts path hpath]

/-- Error handling is found if it is found in the files of each pattern. -/
theorem handlesErrors_congr
    (hfiles : ∀ pattern ∈ errorHandlerFiles,
      (handlesErrorsIn { p with disk := disk', limits := limits' }
        limits'.errorHandlerFilesPerGlob pattern).eval disk' p.root =
      (handlesErrorsIn p p.limits.errorHandlerFilesPerGlob pattern).eval p.disk p.root)
    (hmain : (handlesErrorsIn { p with disk := disk', limits := limits' }
        limits'.errorHandlerMainFiles mainFiles).eval disk' p.root =
      (handlesErrorsIn p p.limits.errorHandlerMainFiles mainFiles).eval p.disk p.root) :
    (handlesErrors { p with disk := disk', limits := limits' }).eval disk' p.root =
      (handlesErrors p).eval p.disk p.root := by
  simp only [handlesErrors, Scan.eval_bind]
  rw [Scan.eval_anyOf_congr hfiles]
  congr 1
  funext found
  cases found with
  | true => rfl
  | false => exact hmain

/-- The first of some files is the same if the same are files. -/
theorem firstFile?_congr {names : List String}
    (hfile : ∀ name ∈ names, disk'.isFile (p.root / name) = p.disk.isFile (p.root / name)) :
    firstFile? { p with disk := disk', limits := limits' } names = firstFile? p names := by
  induction names with
  | nil => rfl
  | cons name rest ih =>
    obtain ⟨hname, hrest⟩ := List.forall_mem_cons.mp hfile
    rw [firstFile?, firstFile?, ih hrest]
    simp only [hname]

/-- The README is the same if the first one has the same text. -/
theorem readme?_congr
    (hfile : ∀ name ∈ readmeNames, disk'.isFile (p.root / name) = p.disk.isFile (p.root / name))
    (htext : ∀ name, firstFile? p readmeNames = .ok (some name) →
      disk'.readText? (p.root / name) = p.disk.readText? (p.root / name)) :
    (readme? { p with disk := disk', limits := limits' }).eval disk' p.root =
      (readme? p).eval p.disk p.root := by
  refine (eval_readme? { p with disk := disk', limits := limits' }).trans
    (.trans ?_ (eval_readme? p).symm)
  rw [firstFile?_congr hfile]
  cases hfirst : firstFile? p readmeNames with
  | error failure => rw [error_bind, error_bind]
  | ok name? =>
    cases name? with
    | none => rw [ok_bind, ok_bind]
    | some name => simp only [ok_bind, htext name hfirst]

/-- The usual directories are there if they were. -/
theorem anyExists_congr {names : List String} (hexists : ∀ name ∈ names,
    disk'.pathExists (p.root / name) = p.disk.pathExists (p.root / name)) :
    anyExists { p with disk := disk', limits := limits' } names = anyExists p names := by
  unfold anyExists
  generalize false = found
  induction names generalizing found with
  | nil => rw [List.foldlM_nil, List.foldlM_nil]
  | cons name rest ih =>
    obtain ⟨hname, hrest⟩ := List.forall_mem_cons.mp hexists
    simp only [List.foldlM_cons, hname, ih hrest]

end Layout

end Preflight.Check
