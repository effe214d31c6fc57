import Preflight.Proofs.Check.Independence
import Preflight.Proofs.Check.Reading
import Preflight.Proofs.Disk.Listing
import Preflight.Proofs.Disk.Shape

/-!
# What limits keep out of a result

Of disks that differ in the contents of files only (`DifferInContents`) the security, database and
project checks see no difference beyond their limits: their results are the same if the texts are the
same that the limits let through (`securityTexts`, `databaseTexts`, `layoutTexts`). Of the example
environment file not even the text matters.

Where a limit lets all files through already, a larger one changes nothing (`LetsThrough`).
-/

set_option autoImplicit false

namespace Preflight.Check

/-! ## Texts that are seen -/

/-- The texts that the security check may see. -/
def securityTexts (p : Project) : List Path :=
  p.root / "package.json" :: Security.seenFiles p

/-- The texts that the database check may see. -/
def databaseTexts (p : Project) : List Path :=
  p.root / ".env" :: p.root / "package.json" :: Database.connections p

/-- The texts that the project check may see. -/
def layoutTexts (p : Project) : List Path :=
  readmeOf p ++ p.root / "package.json" :: Layout.handlerFiles p

/-! ## Contents -/

/-- The disks have one listing and one shape, and differ in the contents of files only. -/
structure DifferInContents (disk disk' : Disk) (root : Path) : Prop where
  listing : disk'.visibleFiles root = disk.visibleFiles root
  shape : disk.Shaped (fun _ _ => True) disk'

variable {p : Project} {disk' : Disk} {limits' : Limits}

namespace DifferInContents

/-- A disk does not differ from itself. -/
theorem refl (disk : Disk) (root : Path) : DifferInContents disk disk root := by
  refine ⟨rfl, fun location => ?_⟩
  cases disk.node? location with
  | none => exact .none
  | some node => exact .some (.refl (fun _ => trivial) node)

/-- A question about the listing is answered alike if what follows is. -/
theorem bind_visibleFiles {α : Type} {disk : Disk} {root : Path}
    (h : DifferInContents disk disk' root) {next next' : List String → Except Failure α}
    (hnext : ∀ files, disk.visibleFiles root = .ok files → next' files = next files) :
    (disk'.visibleFiles root >>= next') = (disk.visibleFiles root >>= next) := by
  rw [h.listing]
  cases hfiles : disk.visibleFiles root with
  | error failure => rw [error_bind, error_bind]
  | ok files => rw [ok_bind, ok_bind, hnext files hfiles]

/-- The manifest is the same if its text is. -/
theorem load_eq {disk : Disk} {root : Path} (h : DifferInContents disk disk' root)
    (htext : disk'.readText? (root / "package.json") = disk.readText? (root / "package.json")) :
    Manifest.load disk' root = Manifest.load disk root :=
  load_congr (h.shape.isFile_eq _) htext

/-- **The security check sees no more than its limits let through.** -/
theorem security_eq (h : DifferInContents p.disk disk' p.root)
    (hfeatures : (matching p Security.securityFiles).take limits'.securityFeatureFiles =
      (matching p Security.securityFiles).take p.limits.securityFeatureFiles)
    (hdangers : (matching p Security.securityFiles).take limits'.securityAntipatternFiles =
      (matching p Security.securityFiles).take p.limits.securityAntipatternFiles)
    (htexts : SameTexts p.disk disk' (securityTexts p)) :
    Module.security.runFresh { p with disk := disk', limits := limits' } =
      Module.security.runFresh p := by
  obtain ⟨hmanifest, htexts⟩ := List.forall_mem_cons.mp htexts
  rw [Module.runFresh_eq, Module.runFresh_eq]
  refine congrArg Module.security.settle ?_
  refine (Security.eval_run { p with disk := disk', limits := limits' }).trans
    (.trans ?_ (Security.eval_run p).symm)
  refine h.bind_visibleFiles fun files hfiles => ?_
  rw [Security.seenFiles, matching_eq hfiles] at htexts
  rw [matching_eq hfiles] at hfeatures hdangers
  exact Security.answer_congr hfeatures hdangers (h.load_eq hmanifest) htexts

/-- **The database check sees no more than its limit lets through.** -/
theorem database_eq (h : DifferInContents p.disk disk' p.root)
    (hconnections : (matching p Database.connectionFiles).take limits'.databaseConnectionFiles =
      (matching p Database.connectionFiles).take p.limits.databaseConnectionFiles)
    (htexts : SameTexts p.disk disk' (databaseTexts p)) :
    Module.database.runFresh { p with disk := disk', limits := limits' } =
      Module.database.runFresh p := by
  obtain ⟨henv, htexts⟩ := List.forall_mem_cons.mp htexts
  obtain ⟨hmanifest, htexts⟩ := List.forall_mem_cons.mp htexts
  rw [Module.runFresh_eq, Module.runFresh_eq]
  refine congrArg Module.database.settle ?_
  refine (Database.eval_run { p with disk := disk', limits := limits' }).trans
    (.trans ?_ (Database.eval_run p).symm)
  have hanswer : ∀ env m, (disk'.visibleFiles p.root >>=
      Database.answer { p with disk := disk', limits := limits' } env m) =
        (p.disk.visibleFiles p.root >>= Database.answer p env m) := by
    intro env m
    refine h.bind_visibleFiles fun files hfiles => ?_
    rw [Database.connections, matching_eq hfiles] at htexts
    rw [matching_eq hfiles] at hconnections
    exact Database.answer_congr env m rfl hconnections rfl rfl htexts
  have htable : Environment.loadTable disk' (p.root / ".env") =
      Environment.loadTable p.disk (p.root / ".env") := by
    rw [Environment.loadTable, Environment.loadTable, henv]
  rw [htable, h.load_eq hmanifest]
  simp only [hanswer]

/-- Error handling is looked for in the files of a pattern that the limit lets through. -/
theorem handlesErrorsIn_eq (h : DifferInContents p.disk disk' p.root) {cap cap' : Nat}
    {pattern : String} (hfiles : (matching p [pattern]).take cap' = (matching p [pattern]).take cap)
    (htexts : SameTexts p.disk disk' ((matching p [pattern]).take cap)) :
    (Layout.handlesErrorsIn { p with disk := disk', limits := limits' } cap' pattern).eval disk'
      p.root = (Layout.handlesErrorsIn p cap pattern).eval p.disk p.root := by
  refine (Layout.eval_handlesErrorsIn { p with disk := disk', limits := limits' } cap' pattern).trans
    (.trans ?_ (Layout.eval_handlesErrorsIn p cap pattern).symm)
  refine h.bind_visibleFiles fun files hlisting => ?_
  rw [matching_eq hlisting] at hfiles htexts
  rw [hfiles]
  exact Layout.handledIn_congr htexts

/-- **The project check sees no more than its limits let through.** -/
theorem project_eq (h : DifferInContents p.disk disk' p.root)
    (hfiles : ∀ pattern ∈ Layout.errorHandlerFiles,
      (matching p [pattern]).take limits'.errorHandlerFilesPerGlob =
        (matching p [pattern]).take p.limits.errorHandlerFilesPerGlob)
    (hmain : (matching p [mainFiles]).take limits'.errorHandlerMainFiles =
      (matching p [mainFiles]).take p.limits.errorHandlerMainFiles)
    (htexts : SameTexts p.disk disk' (layoutTexts p)) :
    Module.project.runFresh { p with disk := disk', limits := limits' } =
      Module.project.runFresh p := by
  obtain ⟨hreadme, htexts⟩ := List.forall_mem_append.mp htexts
  obtain ⟨hmanifest, htexts⟩ := List.forall_mem_cons.mp htexts
  obtain ⟨hpatterns, hmains⟩ := List.forall_mem_append.mp htexts
  have hisFile : ∀ name : String, disk'.isFile (p.root / name) = p.disk.isFile (p.root / name) :=
    fun name => h.shape.isFile_eq _
  have hread : (Layout.readme? { p with disk := disk', limits := limits' }).eval disk' p.root =
      (Layout.readme? p).eval p.disk p.root := by
    refine Layout.readme?_congr (fun name _ => hisFile name) fun name hfirst => hreadme _ ?_
    rw [readmeOf, hfirst]
    exact List.mem_singleton_self (p.root / name)
  have hhandles : (Layout.handlesErrors { p with disk := disk', limits := limits' }).eval disk'
      p.root = (Layout.handlesErrors p).eval p.disk p.root := by
    refine Layout.handlesErrors_congr (fun pattern hpattern => ?_)
      (h.handlesErrorsIn_eq hmain hmains)
    refine h.handlesErrorsIn_eq (hfiles pattern hpattern) fun path hpath => hpatterns path ?_
    exact List.mem_flatMap_of_mem hpattern hpath
  rw [Module.runFresh_eq, Module.runFresh_eq]
  refine congrArg Module.project.settle ?_
  refine (Layout.eval_run { p with disk := disk', limits := limits' }).trans
    (.trans ?_ (Layout.eval_run p).symm)
  have hfolders : Layout.anyExists { p with disk := disk', limits := limits' } Layout.usualFolders =
      Layout.anyExists p Layout.usualFolders :=
    Layout.anyExists_congr fun name _ => h.shape.pathExists_eq _
  simp only [hisFile, hread, hfolders, hhandles, h.load_eq hmanifest]

end DifferInContents

/-! ## Limits -/

/-- The limit is kept, or it lets all of the files through and is not lowered. -/
def LetsThrough (files : List Path) (limit limit' : Nat) : Prop :=
  limit' = limit ∨ files.length ≤ limit ∧ limit ≤ limit'

/-- Both limits let the same files through. -/
theorem LetsThrough.take_eq {files : List Path} {limit limit' : Nat}
    (h : LetsThrough files limit limit') : files.take limit' = files.take limit := by
  rcases h with rfl | ⟨hall, hlarger⟩
  · rfl
  · rw [List.take_of_length_le hall, List.take_of_length_le (Nat.le_trans hall hlarger)]

/-- Limits are raised only where they let all files through already. -/
structure Raises (p : Project) (limits' : Limits) : Prop where
  errorHandlerFilesPerGlob : ∀ pattern ∈ Layout.errorHandlerFiles,
    LetsThrough (matching p [pattern]) p.limits.errorHandlerFilesPerGlob
      limits'.errorHandlerFilesPerGlob
  errorHandlerMainFiles : LetsThrough (matching p [mainFiles]) p.limits.errorHandlerMainFiles
    limits'.errorHandlerMainFiles
  securityFeatureFiles : LetsThrough (matching p Security.securityFiles)
    p.limits.securityFeatureFiles limits'.securityFeatureFiles
  securityAntipatternFiles : LetsThrough (matching p Security.securityFiles)
    p.limits.securityAntipatternFiles limits'.securityAntipatternFiles
  databaseConnectionFiles : LetsThrough (matching p Database.connectionFiles)
    p.limits.databaseConnectionFiles limits'.databaseConnectionFiles

/-- **No result changes with limits that are raised so.** -/
theorem runFresh_of_raises (h : Raises p limits') (m : Module) :
    m.runFresh { p with limits := limits' } = m.runFresh p := by
  have hsame := DifferInContents.refl p.disk p.root
  cases m with
  | env => rfl
  | auth => rfl
  | api => rfl
  | dependencies => rfl
  | project =>
    exact hsame.project_eq (fun pattern hpattern => (h.errorHandlerFilesPerGlob pattern hpattern).take_eq)
      h.errorHandlerMainFiles.take_eq fun _ _ => rfl
  | security =>
    exact hsame.security_eq h.securityFeatureFiles.take_eq h.securityAntipatternFiles.take_eq
      fun _ _ => rfl
  | database => exact hsame.database_eq h.databaseConnectionFiles.take_eq fun _ _ => rfl

/-! ## The law -/

/-- **What limits keep out of a result.** Of two disks with one listing that differ in the contents of
files only, each of the three checks gives the same result if the texts are the same that its limits
let through; and limits that let all files through already may be raised without a change of any
result. -/
theorem limits_bound_influence (p : Project) :
    (∀ disk', DifferInContents p.disk disk' p.root →
      (SameTexts p.disk disk' (securityTexts p) →
        Module.security.runFresh { p with disk := disk' } = Module.security.runFresh p) ∧
      (SameTexts p.disk disk' (databaseTexts p) →
        Module.database.runFresh { p with disk := disk' } = Module.database.runFresh p) ∧
      (SameTexts p.disk disk' (layoutTexts p) →
        Module.project.runFresh { p with disk := disk' } = Module.project.runFresh p)) ∧
    ∀ limits', Raises p limits' → ∀ m : Module,
      m.runFresh { p with limits := limits' } = m.runFresh p :=
  ⟨fun _ hdiffer => ⟨hdiffer.security_eq rfl rfl, hdiffer.database_eq rfl,
    hdiffer.project_eq (fun _ _ => rfl) rfl⟩, fun _ => runFresh_of_raises⟩

/-! ## Two files and room for one -/

/-- A project at `/p` with two files of configuration, the second with the text, and limits that let
the first one through. -/
def cappedProject (code : String) : Project where
  disk := ⟨[(["p"], .directory), (["p", "src"], .directory), (["p", "src", "config"], .directory),
    (["p", "src", "config", "a.js"], .file (Text.Utf8.encode "catch") 1),
    (["p", "src", "config", "b.js"], .file (Text.Utf8.encode code) 1)]⟩
  root := ⟨.top, ["p"]⟩
  limits :=
    { errorHandlerFilesPerGlob := 1, errorHandlerMainFiles := 0, securityFeatureFiles := 1
      securityAntipatternFiles := 0, databaseConnectionFiles := 1 }

/-- The files of such a project. -/
def cappedFiles : List String := ["src/config/a.js", "src/config/b.js"]

/-- They are its listing. -/
theorem visibleFiles_capped {code : String} (hcode : code = "eval(x)" ∨ code = "helmet()") :
    (cappedProject code).disk.visibleFiles (cappedProject code).root = .ok cappedFiles := by
  rcases hcode with rfl | rfl
  all_goals
    refine Disk.visibleFiles_of_sorted ["p"] ?_ ?_ ?_
    all_goals decide +kernel

/-- What the second file holds does not matter, and a limit on main files may be raised, of which
there are none. -/
theorem second_file_is_not_seen :
    let p := cappedProject "eval(x)"
    let disk' := (cappedProject "helmet()").disk
    let limits' := { p.limits with errorHandlerMainFiles := 5 }
    DifferInContents p.disk disk' p.root ∧
      SameTexts p.disk disk' (securityTexts p) ∧ SameTexts p.disk disk' (databaseTexts p) ∧
      SameTexts p.disk disk' (layoutTexts p) ∧
      Module.security.runFresh { p with disk := disk' } = Module.security.runFresh p ∧
      Module.database.runFresh { p with disk := disk' } = Module.database.runFresh p ∧
      Module.project.runFresh { p with disk := disk' } = Module.project.runFresh p ∧
      Raises p limits' ∧ ∀ m : Module, m.runFresh { p with limits := limits' } = m.runFresh p := by
  intro p disk' limits'
  have hlisting : p.disk.visibleFiles p.root = .ok cappedFiles := visibleFiles_capped (.inl rfl)
  have hlisting' : disk'.visibleFiles p.root = .ok cappedFiles := visibleFiles_capped (.inr rfl)
  have hdiffer : DifferInContents p.disk disk' p.root := by
    refine ⟨hlisting'.trans hlisting.symm, Disk.shaped_of_nodes ?_⟩
    exact .cons ⟨rfl, .directory⟩ (.cons ⟨rfl, .directory⟩ (.cons ⟨rfl, .directory⟩
      (.cons ⟨rfl, .file 1 1 trivial⟩ (.cons ⟨rfl, .file 1 1 trivial⟩ .nil))))
  have hsecurity : SameTexts p.disk disk' (securityTexts p) := by
    rw [SameTexts, securityTexts, Security.seenFiles, matching_eq hlisting]
    decide +kernel
  have hdatabase : SameTexts p.disk disk' (databaseTexts p) := by
    rw [SameTexts, databaseTexts, Database.connections, matching_eq hlisting]
    decide +kernel
  have hlayout : SameTexts p.disk disk' (layoutTexts p) := by
    simp only [SameTexts, layoutTexts, Layout.handlerFiles, matching_eq hlisting]
    decide +kernel
  have hraises : Raises p limits' := by
    refine ⟨fun _ _ => .inl rfl, .inr ?_, .inl rfl, .inl rfl, .inl rfl⟩
    rw [matching_eq hlisting]
    decide +kernel
  obtain ⟨hcontents, hlimits⟩ := limits_bound_influence p
  obtain ⟨hsecurity', hdatabase', hlayout'⟩ := hcontents disk' hdiffer
  exact ⟨hdiffer, hsecurity, hdatabase, hlayout, hsecurity' hsecurity, hdatabase' hdatabase,
    hlayout' hlayout, hraises, hlimits limits' hraises⟩

end Preflight.Check
