import Preflight.Proofs.Check.Independence
import Preflight.Proofs.Fix.Creation

/-!
# What a creation keeps

One step of applying fixes: the file of a template is created in a project. The checks of routes
give the results that they gave (`Template.Created.api_eq`, `Template.Created.auth_eq`), and the
project and security checks pass where they passed. The environment check compares with the new
file: it passes still if there was an example before, or if its own file has the keys of the
template (`Template.Created.environment_keeps`).

For the first four the place of the file must be no link that leads nowhere: through such a link the
file would be created elsewhere, and could be a source file there.
-/

set_option autoImplicit false

namespace Preflight

open Check

/-- Listings that are alike but for the file of a template have the same route files. -/
theorem Template.AlikeBut.filesIn_eq {t : Template} {files files' : List String}
    (h : AlikeBut t.file files files') (root : Path) (withControllers : Bool) :
    filesIn root files' withControllers = filesIn root files withControllers := by
  have hmain : Glob.find root files' [mainFiles] = Glob.find root files [mainFiles] := by
    refine h.find_eq fun pattern hpattern => t.isMatch_file pattern ?_
    simp only [List.mem_singleton] at hpattern
    simp [hpattern]
  have hpatterns : Glob.find root files' (patterns withControllers) =
      Glob.find root files (patterns withControllers) := by
    refine h.find_eq fun pattern hpattern => t.isMatch_file pattern ?_
    have hmem : pattern ∈ patterns true := by
      cases withControllers with
      | true => exact hpattern
      | false =>
        simp only [patterns, Bool.false_eq_true, if_false, if_true, List.append_nil,
          List.mem_append] at hpattern ⊢
        obtain hroute | hsource := hpattern
        · exact .inl (.inl hroute)
        · exact .inr hsource
    simp [hmem]
  rw [filesIn, filesIn, hmain, hpatterns]

/-- A file is read as the table of its text. -/
theorem Check.Environment.table?_of_stat {disk : Disk} {path : Path} {bytes : List UInt8}
    {stamp : Int} (h : disk.stat path = .ok (.file bytes stamp)) :
    table? disk path = .ok (some (.ofText (Text.Utf8.fileText bytes))) := by
  rw [table?, Disk.isFile, Disk.leadsTo, h, loadTable, Disk.readText?, h]
  rfl

/-- The file of a template is read as its table. -/
theorem Template.table?_of_stat (t : Template) {disk : Disk} {path : Path} {stamp : Int}
    (h : disk.stat path = .ok (.file (Text.Utf8.encode t.content) stamp)) :
    Environment.table? disk path = .ok (some t.table) := by
  rw [Environment.table?_of_stat h, t.isInert_content.fileText_eq, table]

/-- The environment file has the keys of the template of the example. -/
def SetsTemplate (disk : Disk) (root : Path) : Prop :=
  ∃ values, Environment.table? disk (root / ".env") = .ok (some values) ∧
    ∀ key ∈ (Template.table .envExample).keys, key ∈ values.keys

namespace Template.Created

variable {t : Template} {p : Project} {disk' : Disk} {location : Location}

/-- A question about the listing is answered alike if it does not depend on the new file. -/
theorem bind_visibleFiles {α : Type} {root : Path} {disk : Disk}
    (h : t.Created disk disk' root location) (hplain : ¬ disk.IsDangling (root / t.file))
    {next next' : List String → Except Failure α}
    (hnext : ∀ files files', AlikeBut t.file files files' → next' files' = next files) :
    (disk'.visibleFiles root >>= next') = (disk.visibleFiles root >>= next) := by
  obtain ⟨failure, hbefore, hafter⟩ | ⟨files, files', hbefore, hafter, halike⟩ :=
    h.visibleFiles_cases hplain
  · rw [hbefore, hafter]
    rfl
  · rw [hbefore, hafter, ok_bind, ok_bind]
    exact hnext files files' halike

/-! ## Routes -/

/-- The API check gives the result that it gave for the same files, wherever the new file is. -/
theorem api_answer_eq (h : t.Created p.disk disk' p.root location) (files : List Path) :
    Api.answer { p with disk := disk' } files = Api.answer p files := by
  have htext : ∀ path, (disk'.readText? path).map (Store.routesOf p.root path) =
      (p.disk.readText? path).map (Store.routesOf p.root path) := by
    intro path
    obtain heq | ⟨hnone, hnew⟩ := h.readText?_cases path
    · rw [heq]
    · rw [hnone, hnew]
      exact congrArg Except.ok (t.routesOf_content p.root path)
  simp only [Api.answer, htext]

/-- **The API check gives the result that it gave.** -/
theorem api_eq (h : t.Created p.disk disk' p.root location)
    (hplain : ¬ p.disk.IsDangling (p.root / t.file)) :
    Module.api.runFresh { p with disk := disk' } = Module.api.runFresh p := by
  have heval : (Api.run { p with disk := disk' }).eval disk' p.root =
      (Api.run p).eval p.disk p.root := by
    refine (Api.eval_run { p with disk := disk' }).trans (.trans ?_ (Api.eval_run p).symm)
    refine h.bind_visibleFiles hplain fun files files' halike => ?_
    rw [halike.filesIn_eq, h.api_answer_eq]
  rw [Module.runFresh_eq, Module.runFresh_eq]
  exact congrArg Module.api.settle heval

/-- **The authentication check gives the result that it gave.** -/
theorem auth_eq (h : t.Created p.disk disk' p.root location)
    (hplain : ¬ p.disk.IsDangling (p.root / t.file)) :
    Module.auth.runFresh { p with disk := disk' } = Module.auth.runFresh p := by
  have htext : ∀ path, (disk'.readText? path >>= Auth.reportOf { p with disk := disk' } path) =
      (p.disk.readText? path >>= Auth.reportOf p path) := by
    intro path
    obtain heq | ⟨hnone, hnew⟩ := h.readText?_cases path
    · rw [heq]
      rfl
    · rw [hnone, hnew]
      exact t.reportOf_content p path
  have heval : (Auth.run { p with disk := disk' }).eval disk' p.root =
      (Auth.run p).eval p.disk p.root := by
    refine (Auth.eval_run { p with disk := disk' }).trans (.trans ?_ (Auth.eval_run p).symm)
    refine h.bind_visibleFiles hplain fun files files' halike => ?_
    simp only [Auth.answer, halike.filesIn_eq, htext]
  rw [Module.runFresh_eq, Module.runFresh_eq]
  exact congrArg Module.auth.settle heval

/-! ## Manifests -/

/-- A manifest is the same, or one is there now and is malformed. -/
theorem manifest_cases {disk : Disk} {root : Path} (h : t.Created disk disk' root location) :
    Manifest.load disk' root = Manifest.load disk root ∨
      Manifest.load disk root = .ok .missing ∧ Manifest.load disk' root = .ok .malformed := by
  have hmalformed : Manifest.ofText (Text.Utf8.fileText (Text.Utf8.encode t.content)) =
      .ok .malformed := by
    rw [t.isInert_content.fileText_eq, t.isInert_content.manifest_eq]
  have hcases := h.gains.stat_cases (root / "package.json")
  generalize Text.Utf8.encode t.content = content at hmalformed hcases
  unfold Manifest.load Disk.isFile Disk.leadsTo Disk.readText?
  obtain heq | ⟨hnone, hblocked | hnew⟩ := hcases
  · rw [heq]
    exact .inl rfl
  · rw [hnone, hblocked]
    exact .inl rfl
  · rw [hnone, hnew]
    exact .inr ⟨rfl, hmalformed⟩

/-! ## Project -/

/-- Error handling is found where it was found. -/
theorem handlesErrors_eq (h : t.Created p.disk disk' p.root location)
    (hplain : ¬ p.disk.IsDangling (p.root / t.file)) :
    (Layout.handlesErrors { p with disk := disk' }).eval disk' p.root =
      (Layout.handlesErrors p).eval p.disk p.root := by
  have hfile : ∀ path : Path, (do
      return (← Scan.code? path).any Source.handlesErrors : Scan Bool).eval disk' p.root =
        (do return (← Scan.code? path).any Source.handlesErrors : Scan Bool).eval p.disk p.root := by
    intro path
    simp only [Scan.eval_bind, Scan.eval_code?, Scan.eval_pure]
    obtain heq | ⟨hnone, hnew⟩ := h.readText?_cases path
    · rw [heq]
    · rw [hnone, hnew]
      have hcode : ((some t.content).filter (!·.isEmpty)).any Source.handlesErrors = false := by
        rw [Option.filter_some]
        split
        · exact t.isInert_content.handlesErrors_eq
        · rfl
      exact congrArg Except.ok hcode
  have hpattern : ∀ cap pattern, (Glob.ofString pattern).isMatch t.file = false →
      (Layout.handlesErrorsIn { p with disk := disk' } cap pattern).eval disk' p.root =
        (Layout.handlesErrorsIn p cap pattern).eval p.disk p.root := by
    intro cap pattern hpattern
    unfold Layout.handlesErrorsIn
    simp only [Scan.eval_bind, Scan.eval_find _ _ _ (List.cons_ne_nil pattern []), map_eq_bind,
      bind_assoc, ok_bind]
    refine h.bind_visibleFiles hplain fun files files' halike => ?_
    have hfind : Glob.find p.root files' [pattern] = Glob.find p.root files [pattern] :=
      halike.find_eq fun other hother => by rwa [List.mem_singleton.mp hother]
    rw [hfind]
    exact Scan.eval_anyOf_congr fun path _ => hfile path
  unfold Layout.handlesErrors
  simp only [Scan.eval_bind]
  have hmain := hpattern p.limits.errorHandlerMainFiles mainFiles (t.isMatch_file _ (by simp))
  have hany := Scan.eval_anyOf_congr fun pattern (hmem : pattern ∈ Layout.errorHandlerFiles) =>
    hpattern p.limits.errorHandlerFilesPerGlob pattern (t.isMatch_file _ (by simp [hmem]))
  rw [hany]
  congr 1
  funext found
  cases found with
  | true => rfl
  | false => exact hmain

/-- Where one of some names was a file, one of them is. -/
theorem firstFile?_keeps (h : t.Created p.disk disk' p.root location) {names : List String}
    {name : String} (hfirst : Layout.firstFile? p names = .ok (some name)) :
    ∃ other, Layout.firstFile? { p with disk := disk' } names = .ok (some other) ∧
      disk'.isFile (p.root / other) = .ok true := by
  induction names with
  | nil => cases hfirst
  | cons candidate rest ih =>
    have hfound : disk'.isFile (p.root / candidate) = .ok true →
        ∃ other, Layout.firstFile? { p with disk := disk' } (candidate :: rest) = .ok (some other) ∧
          disk'.isFile (p.root / other) = .ok true := by
      intro hfile
      refine ⟨candidate, ?_, hfile⟩
      unfold Layout.firstFile?
      rw [hfile]
      rfl
    unfold Layout.firstFile? at hfirst
    obtain ⟨isFile, hisFile, hfirst⟩ := bind_eq_ok.mp hfirst
    cases isFile with
    | true => exact hfound (h.gains.leadsTo_of_true hisFile)
    | false =>
      obtain ⟨isFile', hisFile'⟩ := h.gains.leadsTo_isOk ⟨false, hisFile⟩
      cases isFile' with
      | true => exact hfound hisFile'
      | false =>
        obtain ⟨other, hother, hfile⟩ := ih hfirst
        refine ⟨other, ?_, hfile⟩
        unfold Layout.firstFile?
        rw [show disk'.isFile (p.root / candidate) = .ok false from hisFile']
        exact hother

/-- Where names could be looked for, they can be. -/
theorem anyExists_isOk (h : t.Created p.disk disk' p.root location) {names : List String}
    (hok : ∃ found, Layout.anyExists p names = .ok found) :
    ∃ found, Layout.anyExists { p with disk := disk' } names = .ok found := by
  unfold Layout.anyExists at hok ⊢
  revert hok
  generalize false = found
  suffices hfold : ∀ found found' : Bool,
      (∃ last, names.foldlM (fun found name =>
          return (← p.disk.pathExists (p.root / name)) || found) found = Except.ok last) →
        ∃ last, names.foldlM (fun found name =>
          return (← disk'.pathExists (p.root / name)) || found) found' = Except.ok last from
    hfold found found
  induction names with
  | nil => exact fun _ found' _ => ⟨found', rfl⟩
  | cons name rest ih =>
    rintro found found' ⟨last, hlast⟩
    rw [List.foldlM_cons] at hlast
    obtain ⟨next, hnext, hrest⟩ := bind_eq_ok.mp hlast
    obtain ⟨there, hthere, -⟩ := bind_eq_ok.mp hnext
    obtain ⟨there', hthere'⟩ := h.gains.leadsTo_isOk ⟨there, hthere⟩
    rw [List.foldlM_cons, Disk.pathExists, hthere']
    exact ih next (there' || found') ⟨last, hrest⟩

/-- **The project check passes where it passed.** The README may be another one now. -/
theorem project_keeps (h : t.Created p.disk disk' p.root location)
    (hplain : ¬ p.disk.IsDangling (p.root / t.file))
    (hpassed : (Module.project.runFresh p).passed = true) :
    (Module.project.runFresh { p with disk := disk' }).passed = true := by
  rw [Module.passed_iff] at hpassed ⊢
  obtain ⟨hexample, ⟨readme, hreadme⟩, hfolders, hhandles, manifest, hmanifest, hthere⟩ :=
    (Layout.passes_iff p).mp hpassed
  refine (Layout.passes_iff { p with disk := disk' }).mpr ⟨h.gains.leadsTo_of_true hexample, ?_,
    h.anyExists_isOk hfolders, (h.handlesErrors_eq hplain).trans hhandles, manifest, ?_, hthere⟩
  · rw [Layout.eval_readme?] at hreadme
    obtain ⟨name?, hname, hreadme⟩ := bind_eq_ok.mp hreadme
    cases name? with
    | none => cases hreadme
    | some name =>
      obtain ⟨other, hother, hfile⟩ := h.firstFile?_keeps hname
      obtain ⟨text, htext⟩ := Disk.readText?_of_isFile hfile
      refine ⟨(other, text), (Layout.eval_readme? { p with disk := disk' }).trans ?_⟩
      rw [hother, ok_bind]
      show (disk'.readText? (p.root / other)).map _ = _
      rw [htext]
      rfl
  · obtain heq | ⟨hmissing, -⟩ := h.manifest_cases
    · exact heq.trans hmanifest
    · rw [hmanifest] at hmissing
      exact absurd (Except.ok.inj hmissing) hthere

/-! ## Security -/

/-- **The security check passes where it passed.** A file that comes to hold the template protects
nothing and endangers nothing. -/
theorem security_keeps (h : t.Created p.disk disk' p.root location)
    (hplain : ¬ p.disk.IsDangling (p.root / t.file))
    (hpassed : (Module.security.runFresh p).passed = true) :
    (Module.security.runFresh { p with disk := disk' }).passed = true := by
  rw [Module.passed_iff] at hpassed ⊢
  obtain ⟨v, heval, hv⟩ := hpassed
  obtain ⟨files, hfiles, hanswer⟩ := bind_eq_ok.mp ((Security.eval_run p).symm.trans heval)
  obtain ⟨hwildcard, ⟨path, hpath, code, hcode, hheaders⟩, hevaluates, manifest, hmanifest⟩ :=
    (Security.answer_passes_iff p _).mp ⟨v, hanswer, hv⟩
  have htext : ∀ {path}, (∃ text, p.disk.readText? path = .ok text) →
      ∃ text, disk'.readText? path = .ok text := by
    intro path hok
    obtain heq | ⟨-, hnew⟩ := h.readText?_cases path
    · rwa [heq]
    · exact ⟨_, hnew⟩
  have hold : ∀ {path code}, Security.HasCode p path code →
      Security.HasCode { p with disk := disk' } path code := by
    rintro path code ⟨hread, hne⟩
    obtain heq | ⟨hnone, -⟩ := h.readText?_cases path
    · exact ⟨heq.trans hread, hne⟩
    · rw [hnone] at hread
      cases hread
  have hnew : ∀ {path code}, Security.HasCode { p with disk := disk' } path code →
      Security.HasCode p path code ∨ code = t.content := by
    rintro path code ⟨hread, hne⟩
    obtain heq | ⟨-, hcontent⟩ := h.readText?_cases path
    · exact .inl ⟨heq.symm.trans hread, hne⟩
    · exact .inr (Option.some.inj (Except.ok.inj (hread.symm.trans hcontent)))
  have hpasses : ∃ v, Security.answer { p with disk := disk' }
      (Glob.find p.root files Security.securityFiles) = .ok v ∧ v.passed = true := by
    refine (Security.answer_passes_iff { p with disk := disk' } _).mpr ⟨fun path hpath => ?_,
      ⟨path, hpath, code, hold hcode, hheaders⟩, fun path hpath => ?_, ?_⟩
    · refine ⟨htext (hwildcard path hpath).1, fun code hcode => ?_⟩
      obtain hcode | rfl := hnew hcode
      · exact (hwildcard path hpath).2 code hcode
      · exact t.isInert_content.wildcard_eq _
    · refine ⟨htext (hevaluates path hpath).1, fun code hcode => ?_⟩
      obtain hcode | rfl := hnew hcode
      · exact (hevaluates path hpath).2 code hcode
      · exact t.isInert_content.evaluates_eq _
    · obtain heq | ⟨-, hmalformed⟩ := h.manifest_cases
      · exact ⟨manifest, heq.trans hmanifest⟩
      · exact ⟨_, hmalformed⟩
  obtain ⟨v', hanswer', hv'⟩ := hpasses
  refine ⟨v', (Security.eval_run { p with disk := disk' }).trans ?_, hv'⟩
  rw [← hanswer']
  have hlisting : (disk'.visibleFiles p.root >>= fun files =>
      Security.answer { p with disk := disk' } (Glob.find p.root files Security.securityFiles)) =
        (p.disk.visibleFiles p.root >>= fun files =>
          Security.answer { p with disk := disk' }
            (Glob.find p.root files Security.securityFiles)) := by
    refine h.bind_visibleFiles hplain fun files files' halike => ?_
    rw [halike.find_eq fun pattern hpattern => t.isMatch_file pattern (by simp [hpattern])]
  exact hlisting.trans (by rw [hfiles, ok_bind])

/-! ## Environment -/

/-- A table is the same, or it is that of the template where none was. -/
theorem table?_cases {disk : Disk} {root : Path} (h : t.Created disk disk' root location)
    (path : Path) :
    Environment.table? disk' path = Environment.table? disk path ∨
      disk.pathExists path = .ok false ∧ Environment.table? disk path = .ok none ∧
        Environment.table? disk' path = .ok (some t.table) := by
  obtain heq | ⟨hnone, hnow⟩ := h.gains.stat_cases path
  · left
    unfold Environment.table? Environment.loadTable Disk.isFile Disk.leadsTo Disk.readText?
    rw [heq]
  obtain hblocked | hnew := hnow
  · left
    unfold Environment.table? Disk.isFile Disk.leadsTo
    rw [hnone, hblocked]
    rfl
  · right
    refine ⟨?_, ?_, t.table?_of_stat hnew⟩
    · rw [Disk.pathExists, Disk.leadsTo, hnone]
    · rw [Environment.table?, Disk.isFile, Disk.leadsTo, hnone]
      rfl

/-- The new file is read as the table of the template. -/
theorem table?_self {disk : Disk} {root : Path} (h : t.Created disk disk' root location) :
    Environment.table? disk' (root / t.file) = .ok (some t.table) :=
  t.table?_of_stat h.stat_eq

/-- A table that is there stays the same. -/
theorem table?_of_some {disk : Disk} {root : Path} (h : t.Created disk disk' root location)
    {path : Path} {values : Env.Table} (hvalues : Environment.table? disk path = .ok (some values)) :
    Environment.table? disk' path = .ok (some values) := by
  obtain heq | ⟨-, hnone, -⟩ := h.table?_cases path
  · rw [heq, hvalues]
  · rw [hvalues] at hnone
    cases hnone

/-- The keys of the template stay set. -/
theorem setsTemplate {disk : Disk} {root : Path} (h : t.Created disk disk' root location)
    (hsets : SetsTemplate disk root) : SetsTemplate disk' root := by
  obtain ⟨values, hvalues, hkeys⟩ := hsets
  exact ⟨values, h.table?_of_some hvalues, hkeys⟩

/-- **The environment check passes where it passed**, if something was at the place of the example
or the environment file has the keys of the template. -/
theorem environment_keeps (h : t.Created p.disk disk' p.root location)
    (hpassed : (Module.env.runFresh p).passed = true)
    (hready : p.disk.pathExists (p.root / ".env.example") = .ok true ∨
      SetsTemplate p.disk p.root) :
    (Module.env.runFresh { p with disk := disk' }).passed = true := by
  rw [Module.passed_iff] at hpassed ⊢
  obtain ⟨values, expected, hactual, hexpected, hkeys, hsecrets⟩ :=
    (Environment.passes_iff p).mp hpassed
  refine (Environment.passes_iff { p with disk := disk' }).mpr ?_
  obtain heq | ⟨hmissing, -, hnew⟩ := h.table?_cases (p.root / ".env.example")
  · exact ⟨values, expected, h.table?_of_some hactual, heq.trans hexpected, hkeys, hsecrets⟩
  · refine ⟨values, some t.table, h.table?_of_some hactual, hnew, fun key hkey => ?_, hsecrets⟩
    obtain hthere | ⟨others, hothers, hset⟩ := hready
    · rw [hmissing] at hthere
      cases hthere
    · obtain rfl : values = others :=
        Option.some.inj (Except.ok.inj (hactual.symm.trans hothers))
      rw [Option.getD_some] at hkey
      cases t with
      | envExample => exact hset key hkey
      | readme =>
        rw [keys_readme] at hkey
        cases hkey

end Template.Created

end Preflight
