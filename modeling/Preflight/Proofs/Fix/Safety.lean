import Preflight.Command.Perform
import Preflight.Proofs.Check.RouteFiles
import Preflight.Proofs.Disk.RealPath
import Preflight.Proofs.Fix.Actions
import Preflight.Proofs.Fix.Frame
import Preflight.Proofs.Fix.Keeping

/-!
# Fixes keep checks passing

All fixes for what the fixable checks find are applied, and the checks are run again. The law
(`passes_after_fixes_iff`): a check that passed passes again, unless it is the environment check,
which is measured by the example that was created for it. It passes again exactly if there was
something at the place of the example, or if the environment file has the keys of the template.

The law is about projects in which neither `.env.example` nor `README.md` is a link that leads
nowhere; what is created through such a link may be any file.
-/

set_option autoImplicit false

namespace Preflight

open Check

namespace Command

/-- The check passes in a validation by the fixable checks. -/
def Passes (host : Host) (config : Config) (m : Module) : Prop :=
  ∃ report, validate host config (some (fixable.map Module.name)) = .ok report ∧
    ∃ v, (m.name, v) ∈ report.results ∧ v.passed = true

/-- All fixes for what the fixable checks find are applied, and the disk is left. -/
def Fixed (host : Host) (config : Config) (disk' : Disk) : Prop :=
  ∃ root actions response, fixActions host config = .ok (root, actions) ∧
    Action.applyAll host.disk root actions = (.ok response, disk')

/-- The project that a configuration names on a disk. -/
def projectAt (host : Host) (config : Config) (root : Path) : Project :=
  ⟨host.disk, root, config.limits⟩

@[simp] theorem projectAt_disk (host : Host) (config : Config) (root : Path) :
    (projectAt host config root).disk = host.disk := rfl

@[simp] theorem projectAt_root (host : Host) (config : Config) (root : Path) :
    (projectAt host config root).root = root := rfl

/-- The checks of a fix. -/
def chosen (config : Config) : List Module := config.selected (some (fixable.map Module.name))

/-- A chosen check is fixable. -/
theorem mem_fixable {config : Config} {m : Module} (h : m ∈ chosen config) : m ∈ fixable := by
  have hname := (List.mem_filter.mp h).2
  cases m <;> revert hname <;> decide

/-- The results of a validation by the fixable checks. -/
theorem results_eq {host : Host} {config : Config} {report : Report}
    (h : validate host config (some (fixable.map Module.name)) = .ok report) :
    ∃ root, config.root host = .ok root ∧ report.results =
      (chosen config).map fun m => (m.name, m.runFresh (projectAt host config root)) := by
  have hresults := validate_results host config (some (fixable.map Module.name))
  rw [h] at hresults
  obtain ⟨root, hroot, heq⟩ := map_eq_ok.mp hresults.symm
  exact ⟨root, hroot, heq.symm⟩

/-- A check passes in a validation if it is chosen and passes on its own. -/
theorem passes_iff {host : Host} {config : Config} {m : Module} :
    Passes host config m ↔ ∃ root, config.root host = .ok root ∧ m ∈ chosen config ∧
      (m.runFresh (projectAt host config root)).passed = true := by
  constructor
  · rintro ⟨report, hreport, v, hmem, hv⟩
    obtain ⟨root, hroot, hresults⟩ := results_eq hreport
    rw [hresults] at hmem
    obtain ⟨other, hother, heq⟩ := List.mem_map.mp hmem
    obtain ⟨hname, rfl⟩ := Prod.mk.inj heq
    obtain rfl : other = m := by
      have hsame := other.ofName?_name
      rw [hname, m.ofName?_name] at hsame
      exact (Option.some.inj hsame).symm
    exact ⟨root, hroot, hother, hv⟩
  · rintro ⟨root, hroot, hchosen, hpassed⟩
    have hok : ∃ report, validate host config (some (fixable.map Module.name)) = .ok report := by
      rw [validate, hroot]
      exact ⟨_, rfl⟩
    obtain ⟨report, hreport⟩ := hok
    obtain ⟨other, hother, hresults⟩ := results_eq hreport
    obtain rfl : root = other := Except.ok.inj (hroot.symm.trans hother)
    refine ⟨report, hreport, m.runFresh (projectAt host config root), ?_, hpassed⟩
    rw [hresults]
    exact List.mem_map.mpr ⟨m, hchosen, rfl⟩

/-- The actions are those for the findings of the chosen checks. -/
theorem fixActions_eq (host : Host) (config : Config) :
    fixActions host config = (config.root host).map fun root => (root, Action.ofFindings
      ((chosen config).flatMap fun m => (m.runFresh (projectAt host config root)).findings)) := by
  unfold fixActions
  cases hreport : validate host config (some (fixable.map Module.name)) with
  | error failure =>
    cases hroot : config.root host with
    | error other =>
      rw [validate, hroot] at hreport
      exact hreport ▸ rfl
    | ok root =>
      rw [validate, hroot] at hreport
      cases hreport
  | ok report =>
    obtain ⟨root, hroot, hresults⟩ := results_eq hreport
    rw [hroot, ok_bind, Report.findings, Report.verdicts, hresults, List.map_map,
      List.flatMap_map]
    rfl

/-! ## What a run of fixes keeps -/

/-- The root of a project is found again after a creation. -/
theorem root_keeps {host : Host} {config : Config} {root : Path} {t : Template}
    {disk disk' : Disk} {location : Location} (h : t.Created disk disk' root location)
    (hroot : config.root { host with disk } = .ok root) :
    config.root { host with disk := disk' } = .ok root := by
  rw [← hroot]
  simp only [Config.root, h.gains.realPath_eq]

/-- What a creation keeps for a check other than that of the environment. -/
theorem passed_keeps {m : Module} (hm : m ∈ fixable) (henv : m ≠ .env) {t : Template} {p : Project}
    {disk' : Disk} {location : Location} (h : t.Created p.disk disk' p.root location)
    (hplain : ¬ p.disk.IsDangling (p.root / t.file)) (hpassed : (m.runFresh p).passed = true) :
    (m.runFresh { p with disk := disk' }).passed = true := by
  cases m with
  | env => exact absurd rfl henv
  | auth => rwa [h.auth_eq hplain]
  | api => rwa [h.api_eq hplain]
  | project => exact h.project_keeps hplain hpassed
  | security => exact h.security_keeps hplain hpassed
  | dependencies => exact absurd hm (by decide)
  | database => exact absurd hm (by decide)

/-- What the fixes for the chosen checks come to: they are all applied. -/
theorem Fixed.applyEach_eq {host : Host} {config : Config} {root : Path} {disk' : Disk}
    (h : Fixed host config disk') (hroot : config.root host = .ok root) :
    ∃ outcomes, Action.applyEach host.disk root (Action.ofFindings
      ((chosen config).flatMap fun m => (m.runFresh (projectAt host config root)).findings)) =
        (.ok outcomes, disk') := by
  obtain ⟨other, actions, response, hactions, happly⟩ := h
  rw [fixActions_eq, hroot] at hactions
  obtain ⟨rfl, rfl⟩ := Prod.mk.inj (Except.ok.inj hactions)
  rw [Action.applyAll] at happly
  obtain ⟨hresponse, hdisk⟩ := Prod.mk.inj happly
  obtain ⟨outcomes, houtcomes, -⟩ := map_eq_ok.mp hresponse
  exact ⟨outcomes, Prod.ext houtcomes hdisk⟩

/-- The disk that fixes leave has every property that creations keep. -/
theorem Fixed.keeps {host : Host} {config : Config} {root : Path} {disk' : Disk}
    (h : Fixed host config disk') (hroot : config.root host = .ok root) {P : Disk → Prop}
    (hstep : ∀ {t : Template} {disk disk' : Disk} {location : Location},
      t.Created disk disk' root location → P disk → P disk') (hstart : P host.disk) : P disk' := by
  obtain ⟨outcomes, happlied⟩ := h.applyEach_eq hroot
  rw [← show (Action.applyEach host.disk root _).2 = disk' from congrArg Prod.snd happlied]
  exact Action.applyEach_keeps root hstep _ hstart

/-- A check passes after fixes if it passes on the disk that they leave: the root is the same. -/
theorem passes_after_iff {host : Host} {config : Config} {root : Path} {disk' : Disk} {m : Module}
    (hfixed : Fixed host config disk') (hroot : config.root host = .ok root)
    (hchosen : m ∈ chosen config) :
    Passes { host with disk := disk' } config m ↔
      (m.runFresh ⟨disk', root, config.limits⟩).passed = true := by
  have hroot' : config.root { host with disk := disk' } = .ok root :=
    hfixed.keeps hroot (P := fun disk => config.root { host with disk } = .ok root)
      (fun h hbefore => root_keeps h hbefore) hroot
  rw [passes_iff]
  constructor
  · rintro ⟨again, hagain, -, hpassed⟩
    obtain rfl : root = again := Except.ok.inj (hroot'.symm.trans hagain)
    exact hpassed
  · exact fun hpassed => ⟨root, hroot', hchosen, hpassed⟩

/-! ## The example that is created -/

/-- Where there is a table, there is something. -/
theorem pathExists_of_table? {disk : Disk} {path : Path} {values : Env.Table}
    (h : Environment.table? disk path = .ok (some values)) : disk.pathExists path = .ok true := by
  unfold Environment.table? Disk.isFile at h
  rw [Disk.pathExists]
  unfold Disk.leadsTo at h ⊢
  cases hstat : disk.stat path with
  | ok node => rfl
  | error failure =>
    rw [hstat] at h
    cases failure <;> cases h

/-- An environment check that passes without an example warns that there is none. -/
theorem example_is_missed {p : Project} (hpassed : (Module.env.runFresh p).passed = true)
    (hmissing : p.disk.pathExists (p.root / ".env.example") ≠ .ok true) :
    ∃ finding ∈ (Module.env.runFresh p).findings, finding.remedy? = some (.create .envExample) := by
  obtain heval | ⟨failure, -, hstopped⟩ := Module.env.runFresh_cases p
  · replace heval := (Environment.eval_run p).symm.trans heval
    obtain ⟨actual, hactual, heval⟩ := bind_eq_ok.mp heval
    obtain ⟨expected, hexpected, heval⟩ := bind_eq_ok.mp heval
    cases expected with
    | some values => exact absurd (pathExists_of_table? hexpected) hmissing
    | none =>
      rw [← Except.ok.inj heval]
      refine ⟨.warning .envExampleMissing { detail := some "recommended" }, ?_, rfl⟩
      simp [Environment.verdict, Verdict.ofFindings, Verdict.findings]
  · rw [hstopped] at hpassed
    cases hpassed

/-- What stands at the place of the example, if anything does, is read as its template. -/
structure OnlyTemplate (disk : Disk) (root : Path) : Prop where
  plain : Template.NoneDangling disk root
  isTemplate : disk.pathExists (root / ".env.example") = .ok true →
    Environment.table? disk (root / ".env.example") = .ok (some (Template.table .envExample))

/-- What stands at the place of the example was created there from its template: nothing else leads
to a file that fixes create. -/
theorem OnlyTemplate.keeps {t : Template} {disk disk' : Disk} {root : Path} {location : Location}
    (hbefore : OnlyTemplate disk root) (h : t.Created disk disk' root location) :
    OnlyTemplate disk' root := by
  refine ⟨h.noneDangling hbefore.plain, fun hthere => ?_⟩
  obtain heq | ⟨hfalse, hnew⟩ := h.gains.leadsTo_cases (root / ".env.example") fun _ => true
  · exact h.table?_of_some (hbefore.isTemplate (heq.symm.trans hthere))
  · cases t with
    | envExample => exact h.table?_self
    | readme =>
      -- The README stands under its own name, where the path of the example does not lead.
      have hstart : disk.stat (root / ".env.example") ≠
          .ok (.file (Text.Utf8.encode (Template.content .readme)) 0) := by
        intro hstat
        rw [Disk.leadsTo, hstat] at hfalse
        cases hfalse
      have hlocated := h.gains.locate_of_new hstart hnew
      obtain ⟨base, -, hplace⟩ := Template.exists_base disk root
      have hreadme := hplace .readme location (hbefore.plain .readme) h.missing h.located
      have hexample := hplace .envExample location (hbefore.plain .envExample) hfalse hlocated
      rw [hreadme] at hexample
      exact absurd (List.append_cancel_left hexample) (by decide)

/-- **The example that is created is what the environment check compares with.** Where fixes create
it, a check that passed before and passes after them has its keys. -/
theorem setsTemplate_of_passes {host : Host} {config : Config} {root : Path} {disk' : Disk}
    (hfixed : Fixed host config disk') (hroot : config.root host = .ok root)
    (hplain : Template.NoneDangling host.disk root) (hchosen : Module.env ∈ chosen config)
    (hpassed : (Module.env.runFresh (projectAt host config root)).passed = true)
    (hmissing : host.disk.pathExists (root / ".env.example") ≠ .ok true)
    (hafter : (Module.env.runFresh ⟨disk', root, config.limits⟩).passed = true) :
    SetsTemplate host.disk root := by
  have hthere : disk'.pathExists (root / ".env.example") = .ok true := by
    obtain ⟨outcomes, happlied⟩ := hfixed.applyEach_eq hroot
    obtain ⟨finding, hfinding, hremedy⟩ := example_is_missed hpassed hmissing
    have hcreates : ∃ action ∈ Action.ofFindings ((chosen config).flatMap fun m =>
        (m.runFresh (projectAt host config root)).findings),
          action.remedy = .create .envExample :=
      Action.exists_of_remedy (List.mem_flatMap.mpr ⟨Module.env, hchosen, hfinding⟩) hremedy
    exact Action.pathExists_of_applyEach _ happlied (t := .envExample) hcreates
  have htemplate : OnlyTemplate disk' root :=
    hfixed.keeps hroot (P := fun disk => OnlyTemplate disk root)
      (fun h hbefore => hbefore.keeps h) ⟨hplain, fun h => absurd h hmissing⟩
  obtain ⟨values, -, hactual, -, -⟩ :=
    (Environment.passes_iff _).mp ((Module.passed_iff _ _).mp hpassed)
  obtain ⟨values', expected', hactual', hexpected', hkeys, -⟩ :=
    (Environment.passes_iff _).mp ((Module.passed_iff _ _).mp hafter)
  have hkept := hfixed.keeps hroot
    (P := fun disk => Environment.table? disk (root / ".env") = .ok (some values))
    (fun h => h.table?_of_some) hactual
  obtain rfl : values = values' := Option.some.inj (Except.ok.inj (hkept.symm.trans hactual'))
  obtain rfl : some (Template.table .envExample) = expected' :=
    Except.ok.inj ((htemplate.isTemplate hthere).symm.trans hexpected')
  rw [Option.getD_some] at hkeys
  exact ⟨values, hactual, hkeys⟩

/-! ## Fixes of one project -/

/-- Fixes come to something where the paths of all templates lead to places. -/
theorem exists_fixed {host : Host} {config : Config} {root : Path}
    (hroot : config.root host = .ok root)
    (hplaces : ∀ t : Template, ∃ found, host.disk.locate (root / t.file) = .ok found) :
    ∃ disk', Fixed host config disk' := by
  obtain ⟨response, disk', happlied⟩ := Action.applyAll_isOk (Action.ofFindings
    ((chosen config).flatMap fun m => (m.runFresh (projectAt host config root)).findings)) hplaces
  exact ⟨disk', root, _, response, by rw [fixActions_eq, hroot]; rfl, happlied⟩

/-! ## The law -/

/-- The environment check is ready for fixes: it passes, and the example that they may create asks
for nothing that is not set. -/
structure Ready (disk : Disk) (root : Path) (limits : Limits) : Prop where
  passed : (Module.env.runFresh ⟨disk, root, limits⟩).passed = true
  ready : disk.pathExists (root / ".env.example") = .ok true ∨ SetsTemplate disk root

/-- Readiness is kept by every creation. -/
theorem Ready.keeps {disk disk' : Disk} {root : Path} {limits : Limits} {t : Template}
    {location : Location} (hbefore : Ready disk root limits)
    (h : t.Created disk disk' root location) : Ready disk' root limits := by
  refine ⟨h.environment_keeps (p := ⟨disk, root, limits⟩) hbefore.passed hbefore.ready, ?_⟩
  obtain hthere | hsets := hbefore.ready
  · exact .inl (h.gains.leadsTo_of_true hthere)
  · exact .inr (h.setsTemplate hsets)

/-- **Fixes keep checks passing**, if no place of a template is a link that leads nowhere: after the
fixes for what the fixable checks found, a check that passed passes again. The environment check
does so exactly if there was something at the place of the example before, or if the environment
file has the keys of the template. -/
theorem passes_after_fixes_iff {host : Host} {config : Config} {root : Path} {disk' : Disk}
    {m : Module} (hpasses : Passes host config m) (hfixed : Fixed host config disk')
    (hroot : config.root host = .ok root) (hplain : Template.NoneDangling host.disk root) :
    Passes { host with disk := disk' } config m ↔
      (m = .env → host.disk.pathExists (root / ".env.example") = .ok true ∨
        SetsTemplate host.disk root) := by
  obtain ⟨other, hother, hchosen, hpassed⟩ := passes_iff.mp hpasses
  obtain rfl : root = other := Except.ok.inj (hroot.symm.trans hother)
  rw [passes_after_iff hfixed hroot hchosen]
  by_cases henv : m = .env
  · subst henv
    constructor
    · intro hpassed' _
      by_cases hmissing : host.disk.pathExists (root / ".env.example") = .ok true
      · exact .inl hmissing
      · exact .inr (setsTemplate_of_passes hfixed hroot hplain hchosen hpassed hmissing hpassed')
    · intro hready
      have hready' : Ready disk' root config.limits :=
        hfixed.keeps hroot (P := fun disk => Ready disk root config.limits)
          (fun h hbefore => hbefore.keeps h) ⟨hpassed, hready rfl⟩
      exact hready'.passed
  · refine ⟨fun _ h => absurd h henv, fun _ => ?_⟩
    have hkept : (m.runFresh ⟨disk', root, config.limits⟩).passed = true ∧
        Template.NoneDangling disk' root :=
      hfixed.keeps hroot
        (P := fun disk => (m.runFresh ⟨disk, root, config.limits⟩).passed = true ∧
          Template.NoneDangling disk root)
        (fun {t disk disk' location} h hbefore =>
          ⟨passed_keeps (p := ⟨disk, root, config.limits⟩) (mem_fixable hchosen) henv h
            (hbefore.2 t) hbefore.1, h.noneDangling hbefore.2⟩)
        ⟨hpassed, hplain⟩
    exact hkept.1

/-! ## Projects that are fixed -/

/-- A host with a project at `/p`. -/
def hostWith (nodes : List (Location × Node)) : Host where
  disk := ⟨(["p"], .directory) :: nodes⟩
  here := ⟨.top, []⟩
  now := { year := 2024, month := 1, day := 1 }

/-- A file of the project. -/
def projectFile (names : Location) (text : String) : Location × Node :=
  ("p" :: names, .file (Text.Utf8.encode text) 1)

/-- The project. -/
def projectRoot : Path := ⟨.top, ["p"]⟩

/-- Its configuration. -/
def projectConfig : Config := { path := projectRoot }

/-- A project with an environment file that has all keys of the template, and no example. -/
def completeHost : Host := hostWith [projectFile [".env"]
  "PORT=1\nNODE_ENV=a\nDATABASE_URL=a\nJWT_EXPIRY=1\nALLOWED_ORIGINS=a\nJWT_SECRET=0123456789abcdef0123456789abcdef\n"]

/-- What it sets. -/
def completeValues : Env.Table :=
  [("PORT", "1"), ("NODE_ENV", "a"), ("DATABASE_URL", "a"), ("JWT_EXPIRY", "1"),
   ("ALLOWED_ORIGINS", "a"), ("JWT_SECRET", "0123456789abcdef0123456789abcdef")]

/-- A project with an environment file that has another key, and no example. -/
def otherKeyHost : Host := hostWith [projectFile [".env"] "A=b\n"]

/-- A project whose README is a link into a directory of sources, where nothing is. -/
def danglingHost : Host := hostWith
  [projectFile [".env"] "A=b\n", projectFile [".env.example"] "A=b\n",
   (["p", "README.md"], .link "src/x.js"), (["p", "src"], .directory),
   projectFile ["app.js"] "app.get('/health', h)\n"]

theorem listing_other : otherKeyHost.disk.visibleFiles projectRoot = .ok [] :=
  Disk.visibleFiles_of_sorted ["p"] (by decide +kernel) (by decide +kernel) (by decide +kernel)

theorem listing_dangling :
    danglingHost.disk.visibleFiles projectRoot = .ok ["README.md", "app.js"] :=
  Disk.visibleFiles_of_sorted ["p"] (by decide +kernel) (by decide +kernel) (by decide +kernel)

/-- The actions for its findings. -/
def danglingActions : List Action :=
  [⟨.readmeMissing, .create .readme⟩, ⟨.securityHeadersMissing, .suggest headerAdvice⟩,
   ⟨.corsMissing, .suggest originAdvice⟩, ⟨.rateLimitMissing, .suggest rateAdvice⟩]

/-- Its one source file is its route file. -/
theorem filesIn_dangling (withControllers : Bool) :
    filesIn projectRoot ["README.md", "app.js"] withControllers = [projectRoot / "app.js"] := by
  rw [filesIn_eq_pathsIn]
  cases withControllers <;> decide +kernel

/-- So the API check answers for that file. -/
theorem runFresh_api_dangling :
    Module.api.runFresh (projectAt danglingHost projectConfig projectRoot) =
      Module.api.settle (Api.answer (projectAt danglingHost projectConfig projectRoot)
        [projectRoot / "app.js"]) := by
  rw [Module.runFresh_eq, Module.scan, Api.eval_run, projectAt_disk, projectAt_root,
    listing_dangling, ok_bind, filesIn_dangling]

/-- What its checks find. -/
def danglingFindings : Module → List Finding
  | .project => [.issue .readmeMissing, .issue .noErrorHandler, .issue .packageJsonMissing]
  | .security => [.issue .securityHeadersMissing,
      .warning .securityPackageMissing { subject := some "helmet" }, .warning .corsMissing,
      .warning .rateLimitMissing]
  | _ => []

/-- The checks of a fix find this. -/
theorem findings_dangling : ∀ m ∈ fixable,
    (m.runFresh (projectAt danglingHost projectConfig projectRoot)).findings =
      danglingFindings m := by
  have hlisted (m : Module) : m.runFresh (projectAt danglingHost projectConfig projectRoot) =
      m.runWith (projectAt danglingHost projectConfig projectRoot) (.ok ["README.md", "app.js"]) :=
    m.runFresh_eq_runWith listing_dangling
  have hauth : Module.auth.runFresh (projectAt danglingHost projectConfig projectRoot) =
      Module.auth.settle (Auth.answer (projectAt danglingHost projectConfig projectRoot)
        [projectRoot / "app.js"]) := by
    rw [Module.runFresh_eq, Module.scan, Auth.eval_run, projectAt_disk, projectAt_root,
      listing_dangling, ok_bind, filesIn_dangling]
  intro m hm
  cases m with
  | env =>
    rw [hlisted]
    decide +kernel
  | auth =>
    rw [hauth]
    decide +kernel
  | api =>
    rw [runFresh_api_dangling]
    decide +kernel
  | project =>
    rw [hlisted]
    decide +kernel
  | security =>
    rw [hlisted]
    decide +kernel
  | dependencies => exact absurd hm (by decide)
  | database => exact absurd hm (by decide)

/-- The actions are those for these findings. -/
theorem ofFindings_dangling : Action.ofFindings ((chosen projectConfig).flatMap fun m =>
    (m.runFresh (projectAt danglingHost projectConfig projectRoot)).findings) =
      danglingActions := by
  rw [List.flatMap_congr fun m hm => findings_dangling m (mem_fixable hm)]
  decide +kernel

/-- The files that templates make in a project where nothing is at their places are no links. -/
theorem noneDangling_of_absent {disk : Disk} {root : Path}
    (h : ∀ t : Template, ∃ location, disk.locate (root / t.file) false = .ok ⟨location, none⟩) :
    Template.NoneDangling disk root := by
  rintro t ⟨-, place, target, hlink⟩
  obtain ⟨location, hlocated⟩ := h t
  rw [hlocated] at hlink
  cases hlink

/-- A complete environment file passes again, with the example that was created for it. -/
theorem complete_passes_after_fixes :
    Passes completeHost projectConfig .env ∧
      ∃ disk', Fixed completeHost projectConfig disk' ∧
        Passes { completeHost with disk := disk' } projectConfig .env := by
  have hroot : projectConfig.root completeHost = .ok projectRoot := by decide +kernel
  have htable : Environment.table? completeHost.disk (projectRoot / ".env") =
      .ok (some completeValues) := by
    rw [Environment.table?_of_stat rfl, Text.Utf8.fileText_encode, Env.Table.ofText, Env.statements,
      String.toList_ofList]
    · decide +kernel
    · rw [← List.all_eq_true, String.toList_ofList]
      decide +kernel
  have hexample : Environment.table? completeHost.disk (projectRoot / ".env.example") = .ok none := by
    decide +kernel
  have hpasses : Passes completeHost projectConfig .env := by
    refine passes_iff.mpr ⟨projectRoot, hroot, by decide +kernel, (Module.passed_iff _ _).mpr
      ⟨Environment.verdict (some completeValues) none, ?_, by decide +kernel⟩⟩
    refine (Environment.eval_run (projectAt completeHost projectConfig projectRoot)).trans ?_
    show (Environment.table? completeHost.disk (projectRoot / ".env") >>= _) = _
    rw [htable, ok_bind]
    show (Environment.table? completeHost.disk (projectRoot / ".env.example") >>= _) = _
    rw [hexample, ok_bind]
    rfl
  have hplaces (t : Template) :
      completeHost.disk.locate (projectRoot / t.file) = .ok ⟨["p", t.file], none⟩ := by
    cases t <;> decide +kernel
  obtain ⟨disk', hfixed⟩ := exists_fixed hroot fun t => ⟨_, hplaces t⟩
  have hplain : Template.NoneDangling completeHost.disk projectRoot :=
    noneDangling_of_absent fun t => ⟨["p", t.file], by cases t <;> decide +kernel⟩
  refine ⟨hpasses, disk', hfixed, (passes_after_fixes_iff hpasses hfixed hroot hplain).mpr fun _ => ?_⟩
  refine .inr ⟨completeValues, htable, ?_⟩
  rw [Template.keys_envExample]
  decide

/-- **Fixes break checks**: the environment check by the example that they create, and the API check
by a source file that they create through a link. -/
theorem fixes_break_checks :
    (∃ disk', Passes otherKeyHost projectConfig .env ∧ Fixed otherKeyHost projectConfig disk' ∧
      ¬ Passes { otherKeyHost with disk := disk' } projectConfig .env) ∧
    ∃ disk', Passes danglingHost projectConfig .api ∧ Fixed danglingHost projectConfig disk' ∧
      ¬ Passes { danglingHost with disk := disk' } projectConfig .api := by
  constructor
  · have hroot : projectConfig.root otherKeyHost = .ok projectRoot := by decide +kernel
    have hpassed : (Module.env.runFresh (projectAt otherKeyHost projectConfig projectRoot)).passed =
        true := by
      rw [Module.runFresh_eq_runWith _ listing_other]
      decide +kernel
    have hchosen : Module.env ∈ chosen projectConfig := by decide +kernel
    have hplaces (t : Template) :
        otherKeyHost.disk.locate (projectRoot / t.file) = .ok ⟨["p", t.file], none⟩ := by
      cases t <;> decide +kernel
    obtain ⟨disk', hfixed⟩ := exists_fixed hroot fun t => ⟨_, hplaces t⟩
    have hplain : Template.NoneDangling otherKeyHost.disk projectRoot :=
      noneDangling_of_absent fun t => ⟨["p", t.file], by cases t <;> decide +kernel⟩
    refine ⟨disk', passes_iff.mpr ⟨projectRoot, hroot, hchosen, hpassed⟩, hfixed, fun hpasses => ?_⟩
    have hafter := (passes_after_iff hfixed hroot hchosen).mp hpasses
    obtain ⟨values, hvalues, hkeys⟩ := setsTemplate_of_passes hfixed hroot hplain hchosen hpassed
      (by decide +kernel) hafter
    have htable : Environment.table? otherKeyHost.disk (projectRoot / ".env") =
        .ok (some [("A", "b")]) := by decide +kernel
    obtain rfl : values = [("A", "b")] :=
      Option.some.inj (Except.ok.inj (hvalues.symm.trans htable))
    rw [Template.keys_envExample] at hkeys
    exact absurd (hkeys "PORT" (by simp)) (by decide)
  · have hroot : projectConfig.root danglingHost = .ok projectRoot := by decide +kernel
    have hpassed : (Module.api.runFresh (projectAt danglingHost projectConfig projectRoot)).passed =
        true := by
      rw [runFresh_api_dangling]
      decide +kernel
    have hchosen : Module.api ∈ chosen projectConfig := by decide +kernel
    have hreadme : danglingHost.disk.locate (projectRoot / Template.file .readme) =
        .ok ⟨["p", "src", "x.js"], none⟩ := by decide +kernel
    obtain ⟨disk', hfixed⟩ := exists_fixed hroot fun t => by
      cases t with
      | readme => exact ⟨_, hreadme⟩
      | envExample => exact ⟨_, rfl⟩
    have hlisting : disk'.visibleFiles projectRoot = .ok ["README.md", "app.js", "src/x.js"] := by
      obtain ⟨outcomes, happlied⟩ := hfixed.applyEach_eq hroot
      rw [ofFindings_dangling] at happlied
      rw [← show (Action.applyEach danglingHost.disk projectRoot danglingActions).2 = disk' from
        congrArg Prod.snd happlied]
      exact Disk.visibleFiles_of_sorted ["p"] (by decide +kernel) (by decide +kernel)
        (by decide +kernel)
    refine ⟨disk', passes_iff.mpr ⟨projectRoot, hroot, hchosen, hpassed⟩, hfixed, fun hpasses => ?_⟩
    -- The new file is the only route file, and it holds no more routes than the missing one.
    have hanswer := hfixed.keeps hroot
      (P := fun disk => ∀ files, Api.answer ⟨disk, projectRoot, projectConfig.limits⟩ files =
        Api.answer (projectAt danglingHost projectConfig projectRoot) files)
      (fun h hbefore files => (h.api_answer_eq (p := ⟨_, projectRoot, projectConfig.limits⟩)
        files).trans (hbefore files)) (fun _ => rfl)
    have hafter := (passes_after_iff hfixed hroot hchosen).mp hpasses
    obtain ⟨v, heval, hv⟩ := (Module.passed_iff _ _).mp hafter
    replace heval := (Api.eval_run ⟨disk', projectRoot, projectConfig.limits⟩).symm.trans heval
    rw [hlisting, ok_bind, hanswer] at heval
    have hfails : (Api.answer (projectAt danglingHost projectConfig projectRoot)
        (filesIn projectRoot ["README.md", "app.js", "src/x.js"] false)).map Verdict.passed =
          .ok false := by decide +kernel
    rw [heval] at hfails
    exact absurd (hv.symm.trans (Except.ok.inj hfails)) (by decide)

/-- In the one project nothing is at the place of the example, and in the other something is. -/
example : otherKeyHost.disk.pathExists (projectRoot / ".env.example") = .ok false ∧
    danglingHost.disk.pathExists (projectRoot / ".env.example") = .ok true := by decide +kernel

end Command

end Preflight
