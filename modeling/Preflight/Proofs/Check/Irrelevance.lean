import Preflight.Command.Perform
import Preflight.Proofs.Check.Alike
import Preflight.Proofs.Disk.Change
import Preflight.Proofs.Glob.Ending

/-!
# Files that do not influence a report

A file is irrelevant to the checks (`IsIrrelevant`) if it is none of those that are looked for in the
root of the project, and if it is hidden, lies in a package cache, or does not end as a source file.
The law (`irrelevant_files_do_not_influence`): adding, removing or changing such a file changes no
result of a validation, as long as the same usual directories are there. The file into which a report
is saved is such a file.

The law is about projects without links: through a link an irrelevant file could be a relevant one.
-/

set_option autoImplicit false

namespace Preflight.Check

/-- The patterns of the checks are patterns of source files. -/
theorem isOfSources_of_mem :
    ∀ pattern ∈ sourcePatterns, (Glob.ofString pattern).isOfSources = true := by
  decide +kernel

/-- The names that are looked for in the root of a project lead down. -/
theorem leadsDown_of_mem : ∀ name ∈ rootFiles ++ Layout.usualFolders, Disk.LeadsDown name := by
  decide +kernel

/-- The checks do not look at a file that the names lead to from the root of a project. -/
structure IsIrrelevant (names : List String) : Prop where
  notInRoot : ∀ name ∈ rootFiles, names ≠ [name]
  unseen : (∃ name ∈ names, Disk.isHidden name = true) ∨
    (∃ name ∈ names.dropLast, name ∈ Disk.packageCaches) ∨ ¬ Glob.EndsAsSource (names.getLastD "")

/-- No pattern finds an irrelevant file in a listing. -/
theorem IsIrrelevant.cases {names : List String} (h : IsIrrelevant names) :
    Disk.isHidden (names.getLastD "") = true ∨ names.dropLast.all Disk.isOpenDirectory = false ∨
      ¬ Glob.EndsAsSource (names.getLastD "") := by
  have hclosed : ∀ name ∈ names.dropLast, Disk.isOpenDirectory name = false →
      names.dropLast.all Disk.isOpenDirectory = false := fun name hname hclosed =>
    List.all_eq_false.mpr ⟨name, hname, by simp [hclosed]⟩
  obtain ⟨name, hname, hhidden⟩ | ⟨name, hname, hcache⟩ | hending := h.unseen
  · obtain rfl | ⟨front, last, rfl⟩ := List.eq_nil_or_concat names
    · cases hname
    · rw [List.concat_eq_append] at hname hclosed ⊢
      rw [List.dropLast_concat] at hclosed ⊢
      rcases List.mem_append.mp hname with hname | hname
      · exact .inr (.inl (hclosed name hname (by simp [Disk.isOpenDirectory, hhidden])))
      · rw [List.mem_singleton.mp hname] at hhidden
        exact .inl (by simpa using hhidden)
  · exact .inr (.inl (hclosed name hname (by simp [Disk.isOpenDirectory, hcache])))
  · exact .inr (.inr hending)

section Change

variable {disk disk' : Disk} {root : Path} {names : List String}

/-- **The listing and its texts look alike** when an irrelevant file changes. -/
theorem sourcesAlike (h : Disk.FileChange disk disk' root.names names)
    (hbefore : disk.IsLinkless root.names) (hafter : disk'.IsLinkless root.names)
    (hnames : IsIrrelevant names) :
    SourcesAlike disk disk' root (disk.visibleBelow root root.names)
      (disk'.visibleBelow root root.names) := by
  have hunmatched : ∀ pattern ∈ sourcePatterns, ¬ Glob.EndsAsSource (names.getLastD "") →
      (Glob.ofString pattern).isMatch (String.intercalate "/" names) = false := by
    intro pattern hpattern hending
    by_contra hmatch
    exact hending (Glob.endsAsSource_of_isMatch (isOfSources_of_mem pattern hpattern)
      (by simpa using hmatch))
  constructor
  · intro pattern hpattern
    exact h.filter_visibleBelow_eq root hbefore hafter
      (hnames.cases.imp_right (Or.imp_right (hunmatched pattern hpattern)))
  · intro pattern hpattern file hfile
    obtain ⟨hvisible, hmatch⟩ := List.mem_filter.mp hfile
    have hlisted := (disk.visibleBelow_perm root root.names).mem_iff.mp hvisible
    rw [Disk.listedBelow_eq_map, List.mem_map] at hlisted
    obtain ⟨other, hother, rfl⟩ := hlisted
    obtain ⟨hshown, hopen, -, hsome, content, time, hnode⟩ :=
      (hbefore.tree.mem_listedNames hbefore.noLinks).mp hother
    -- a file that is listed and matched is not the irrelevant one, so it has not changed
    have hne : other ≠ names := by
      rintro rfl
      obtain hhidden | hclosed | hending := hnames.cases
      · rw [hhidden] at hshown
        cases hshown
      · rw [hclosed] at hopen
        cases hopen
      · rw [hunmatched pattern hpattern hending] at hmatch
        cases hmatch
    have hpath := Path.root_div_intercalate root hsome fun name hname =>
      (hbefore.tree.leadsDown hnode name (List.mem_append_right _ hname)).1
    rw [hpath]
    exact h.readText?_eq hbefore hafter rfl hne hnode

/-- **The disks look alike to the checks** when an irrelevant file changes. -/
theorem looksAlike (h : Disk.FileChange disk disk' root.names names)
    (hbefore : disk.IsLinkless root.names) (hafter : disk'.IsLinkless root.names)
    (hnames : IsIrrelevant names)
    (hfolders : ∀ name ∈ Layout.usualFolders,
      (disk'.node? (root.names ++ [name])).isSome = (disk.node? (root.names ++ [name])).isSome) :
    LooksAlike disk disk' root := by
  have hchild : ∀ {name}, name ∈ rootFiles ++ Layout.usualFolders →
      (root / name).names = root.names ++ [name] ∧ Disk.LeadsDown name := fun hname =>
    ⟨by rw [Path.root_div_name root (leadsDown_of_mem _ hname).1], leadsDown_of_mem _ hname⟩
  have hroot : ∀ name ∈ rootFiles, disk'.isFile (root / name) = disk.isFile (root / name) ∧
      disk'.readText? (root / name) = disk.readText? (root / name) := by
    intro name hname
    obtain ⟨hpath, hdown⟩ := hchild (List.mem_append_left _ hname)
    exact h.child_eq hbefore hafter hpath hdown (hnames.notInRoot name hname)
  refine ⟨?_, fun name hname => (hroot name hname).1, fun name hname => (hroot name hname).2, ?_⟩
  · have hstraight := hbefore.tree.isStraight hbefore.directory (by simp)
    have hstraight' := hafter.tree.isStraight hafter.directory (by simp)
    rw [Disk.visibleFiles_straight hstraight hbefore.directory,
      Disk.visibleFiles_straight hstraight' hafter.directory]
    cases hway : Disk.checkWay root with
    | error failure =>
      obtain rfl | rfl := Disk.checkWay_error hway
      · exact .inl ⟨_, rfl, rfl⟩
      · exact .inr ⟨[], [], rfl, rfl, ⟨fun _ _ => rfl, fun _ _ _ hfile => by cases hfile⟩⟩
    | ok _ => exact .inr ⟨_, _, rfl, rfl, sourcesAlike h hbefore hafter hnames⟩
  · intro name hname
    obtain ⟨hpath, hdown⟩ := hchild (List.mem_append_right _ hname)
    exact Disk.FileChange.pathExists_eq hbefore hafter hpath hdown (hfolders name hname)

end Change

/-! ## Validations -/

/-- A validation of a project on which an irrelevant file changed has the same results. -/
theorem results_eq {host : Host} {config : Config} {root : Path} {disk' : Disk}
    {names : List String} (hroot : config.root host = .ok root)
    (hproject : host.disk.IsLinkless root.names) (hafter : disk'.IsTree)
    (h : Disk.FileChange host.disk disk' root.names names) (hnames : IsIrrelevant names)
    (hfolders : ∀ name ∈ Layout.usualFolders, (disk'.node? (root.names ++ [name])).isSome =
      (host.disk.node? (root.names ++ [name])).isSome)
    (now : Moment) (only : Option (List String)) :
    (validate { host with disk := disk', now } config only).map Report.results =
      (validate host config only).map Report.results := by
  have hlinkless := h.isLinkless hproject hafter
  have hroot' : config.root { host with disk := disk', now } = .ok root := by
    obtain ⟨path, hpath, hreal⟩ := bind_eq_ok.mp hroot
    refine bind_eq_ok.mpr ⟨path, hpath, h.realPath_eq hlinkless hreal⟩
  rw [validate_results, validate_results, hroot, hroot']
  refine congrArg Except.ok (List.map_congr_left fun m _ => ?_)
  have hsame := (looksAlike h hproject hlinkless hnames hfolders).runFresh_eq
    (p := ⟨host.disk, root, config.limits⟩) m
  rw [← hsame]

/-! ## Saved reports -/

/-- The report on a project names its root. -/
theorem path_of_validate {host : Host} {config : Config} {root : Path} {only : Option (List String)}
    {report : Report} (hroot : config.root host = .ok root)
    (h : validate host config only = .ok report) : report.path = root.text := by
  obtain ⟨root', hroot', h⟩ := bind_eq_ok.mp h
  obtain rfl := Except.ok.inj (hroot.symm.trans hroot')
  cases h
  rfl

/-- A report that is saved is written into the project, or the disk stays as it is. -/
theorem runReport_disk {host : Host} {config : Config} {root : Path}
    (hroot : config.root host = .ok root) (verbose : Bool) :
    (Command.runReport host config true verbose).disk = host.disk ∨ ∃ text,
      host.disk.writeText (Path.ofString root.text / Command.reportFile) text =
        .ok (Command.runReport host config true verbose).disk := by
  unfold Command.runReport
  dsimp only
  split
  · exact .inl rfl
  · rename_i report shown hanswer
    obtain ⟨report', hreport, hanswer⟩ := bind_eq_ok.mp hanswer
    obtain ⟨shown', -, hanswer⟩ := bind_eq_ok.mp hanswer
    cases hanswer
    rw [if_pos rfl]
    split
    · exact .inl rfl
    · rename_i disk message hsaved
      obtain ⟨text, -, hsaved⟩ := bind_eq_ok.mp hsaved
      obtain ⟨disk', hwritten, hsaved⟩ := bind_eq_ok.mp hsaved
      obtain ⟨message', -, hsaved⟩ := bind_eq_ok.mp hsaved
      cases hsaved
      rw [path_of_validate hroot hreport] at hwritten
      exact .inr ⟨_, hwritten⟩

/-- The name of the file of a report leads down, and it is irrelevant. -/
theorem reportFile_isIrrelevant : Disk.LeadsDown Command.reportFile ∧
    IsIrrelevant [Command.reportFile] ∧ Command.reportFile ∉ Layout.usualFolders := by
  refine ⟨by decide +kernel, ⟨by decide, .inr (.inr ?_)⟩, by decide⟩
  decide +kernel

/-- A text that is written into a project without links is set in its root. -/
theorem eq_set_of_writeText {disk disk' : Disk} {root : Path} {name text : String}
    (hproject : disk.IsLinkless root.names) (hname : Disk.LeadsDown name)
    (h : disk.writeText (root / name) text = .ok disk') :
    Disk.IsFileIfAny (disk.node? (root.names ++ [name])) ∧
      disk' = disk.set (root.names ++ [name]) (.file (Text.Utf8.encode text) 0) := by
  have hpath := Path.root_div_name root hname.1
  have hstraight : disk.IsStraight (root / name).names := by
    rw [hpath]
    exact hproject.isStraight_child hname
  have hlocate := Disk.locate_straight hstraight true
  unfold Disk.writeText Disk.write at h
  rw [hlocate, hpath] at h
  cases hway : Disk.checkWay ⟨root.start, root.names ++ [name]⟩ with
  | error failure =>
    rw [hway] at h
    cases h
  | ok _ =>
    rw [hway] at h
    cases hnode : disk.node? (root.names ++ [name]) with
    | none =>
      simp only [Except.map, hnode] at h
      cases h
      exact ⟨.inl rfl, rfl⟩
    | some node =>
      cases node with
      | file content time =>
        simp only [Except.map, hnode] at h
        cases h
        exact ⟨.inr ⟨content, time, rfl⟩, rfl⟩
      | directory =>
        simp only [Except.map, hnode] at h
        cases h
      | link target => exact absurd hnode (hproject.noLinks [name] target)

/-- **Irrelevant files do not influence a report.** -/
theorem irrelevant_files_do_not_influence {host : Host} {config : Config} {root : Path}
    (hroot : config.root host = .ok root) (hproject : host.disk.IsLinkless root.names) :
    (∀ (disk' : Disk) (names : List String) (now : Moment) (only : Option (List String)),
      disk'.IsTree → Disk.FileChange host.disk disk' root.names names → IsIrrelevant names →
        (∀ name ∈ Layout.usualFolders, (disk'.node? (root.names ++ [name])).isSome =
          (host.disk.node? (root.names ++ [name])).isSome) →
        (validate { host with disk := disk', now } config only).map Report.results =
          (validate host config only).map Report.results) ∧
      ∀ (verbose : Bool) (later : Config) (now : Moment) (only : Option (List String)),
        later.path = config.path →
        (validate { host with disk := (Command.runReport host config true verbose).disk, now }
            later only).map Report.results =
          (validate host later only).map Report.results := by
  refine ⟨fun disk' names now only hafter h hnames hfolders =>
    results_eq hroot hproject hafter h hnames hfolders now only, ?_⟩
  intro verbose later now only hpath
  have hlater : later.root host = .ok root := by rwa [Config.root, hpath]
  obtain ⟨hdown, hirrelevant, hnone⟩ := reportFile_isIrrelevant
  obtain hsame | ⟨text, hwritten⟩ := runReport_disk hroot verbose
  · rw [hsame, validate_results, validate_results]
    rfl
  · have hread : Path.ofString root.text = root := Path.ofString_text fun name hname =>
      (hproject.tree.leadsDown hproject.directory name hname).1
    rw [hread] at hwritten
    obtain ⟨hplace, hset⟩ := eq_set_of_writeText hproject hdown hwritten
    rw [hset]
    refine results_eq hlater hproject (hproject.tree.set hproject.directory hdown
      hplace.ne_directory) (Disk.fileChange_set hplace _ _) hirrelevant (fun name hname => ?_)
        now only
    rw [Disk.node?_set (by simp), if_neg]
    rintro heq
    have hsame : name = Command.reportFile := by simpa using heq
    exact hnone (hsame ▸ hname)

/-- A host with a project at `/p` that has a manifest. -/
def manifestHost : Host where
  disk := ⟨[(["p"], .directory), (["p", "package.json"], .file (Text.Utf8.encode "[]") 1)]⟩
  here := ⟨.top, ["p"]⟩
  now := { year := 2024, month := 1, day := 1 }

/-- Neither notes that are added to the project nor a saved report influence its next report. -/
theorem notes_do_not_influence :
    let config : Config := { path := ⟨.here, []⟩ }
    let disk' := manifestHost.disk.set ["p", "notes.txt"] (.file [] 2)
    config.root manifestHost = .ok ⟨.top, ["p"]⟩ ∧ manifestHost.disk.IsLinkless ["p"] ∧
      disk'.IsTree ∧ Disk.FileChange manifestHost.disk disk' ["p"] ["notes.txt"] ∧
      IsIrrelevant ["notes.txt"] ∧
      (validate { manifestHost with disk := disk' } config).map Report.results =
        (validate manifestHost config).map Report.results ∧
      (validate { manifestHost with
            disk := (Command.runReport manifestHost config true true).disk } config).map
          Report.results = (validate manifestHost config).map Report.results := by
  intro config disk'
  have hroot : config.root manifestHost = .ok ⟨.top, ["p"]⟩ := by decide +kernel
  have hproject : manifestHost.disk.IsLinkless ["p"] :=
    Disk.isLinkless_of_nodes ⟨by decide +kernel, by decide +kernel, by decide +kernel⟩
      (by decide +kernel) (by decide +kernel)
  have hplace : Disk.IsFileIfAny (manifestHost.disk.node? (["p"] ++ ["notes.txt"])) :=
    .inl (by decide +kernel)
  have htree : disk'.IsTree := hproject.tree.set hproject.directory (by decide +kernel)
    hplace.ne_directory
  have hchange : Disk.FileChange manifestHost.disk disk' ["p"] ["notes.txt"] :=
    Disk.fileChange_set hplace [] 2
  have hnames : IsIrrelevant ["notes.txt"] := ⟨by decide, .inr (.inr (by decide +kernel))⟩
  obtain ⟨hnotes, hsaved⟩ := irrelevant_files_do_not_influence hroot hproject
  exact ⟨hroot, hproject, htree, hchange, hnames,
    hnotes disk' ["notes.txt"] manifestHost.now none htree hchange hnames (by decide +kernel),
    hsaved true config manifestHost.now none rfl⟩

end Preflight.Check
