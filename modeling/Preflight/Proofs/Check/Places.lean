import Preflight.Proofs.Check.Auth
import Preflight.Proofs.Check.Manifest
import Preflight.Proofs.Check.Passing
import Preflight.Proofs.Check.RouteFiles
import Preflight.Proofs.Source.Line
import Preflight.Proofs.Source.Registration

/-!
# Findings are complete and have a place

The sentence of a finding has places for parts of its payload, and the table of sentences knows nothing
of the checks that make findings. A finding is told (`Finding.IsTold`) if it has every part that its
sentence asks for, if the file that it names is a visible file of the project or one of the usual files
in its root, and if the line is a line of the text of that file. A route has its place
(`Route.IsPlaced`) in the text of a visible file.

**The law** (`Check.Module.findings_are_told`): in a project tree all findings of every check are told,
also that of a check which was stopped, and all routes that it gives have their places.

Each check is gone through once, with what its findings are made of at hand (`isTold_verdict`): a finding
without a file (`isTold_of_general`) needs nothing, one about a file (`isTold_of_file`) needs that the
file is named. That the files and lines are those of the project is a matter of the listing: the name by
which a report calls a listed file is the name in the listing (`lists_relative_div`).
-/

set_option autoImplicit false

namespace Preflight

/-! ## Being told -/

/-- The payload of the finding has every part that the sentence of its kind has a place for. -/
def Finding.IsComplete (f : Finding) : Prop :=
  ∀ piece ∈ f.kind.sentence, (f.payload.part? piece).isSome = true

namespace Project

/-- The usual files in the root that a finding may name. -/
def rootNames : List String := ["package.json", "README.md", "README.txt", "readme.md"]

/-- The file is in the listing of the project. -/
def Lists (p : Project) (file : String) : Prop :=
  ∃ files, p.disk.visibleFiles p.root = .ok files ∧ file ∈ files

/-- The line is a line of the text of the file. -/
def HasLine (p : Project) (file : String) (line : Int) : Prop :=
  ∃ text, p.disk.readText? (p.root / file) = .ok (some text) ∧
    1 ≤ line ∧ line ≤ (Source.lines text.toList).length

end Project

/-- The finding is complete, and its place is in the project. -/
structure Finding.IsTold (p : Project) (f : Finding) : Prop where
  complete : f.IsComplete
  file : ∀ file ∈ f.payload.file, p.Lists file ∨ file ∈ Project.rootNames
  line : ∀ line ∈ f.payload.line, ∃ file ∈ f.payload.file, p.HasLine file line

/-- The place of the route is in the project. -/
structure Route.IsPlaced (p : Project) (r : Route) : Prop where
  file : p.Lists r.file
  line : p.HasLine r.file r.line

namespace Finding

variable {p : Project} {f : Finding}

/-- All parts that the sentence of the finding asks for are there. -/
def hasParts (f : Finding) : Bool :=
  f.kind.sentence.all fun piece => (f.payload.part? piece).isSome

theorem isComplete_of_hasParts (h : f.hasParts = true) : f.IsComplete :=
  List.all_eq_true.mp h

/-- A finding about the project as a whole has no place. -/
theorem isTold_of_general (hparts : f.hasParts = true) (hfile : f.payload.file = none)
    (hline : f.payload.line = none) : f.IsTold p where
  complete := isComplete_of_hasParts hparts
  file := by simp [hfile]
  line := by simp [hline]

/-- A finding about a file has none in it. -/
theorem isTold_of_file {file : String} (hnamed : p.Lists file ∨ file ∈ Project.rootNames)
    (hparts : f.hasParts = true) (hfile : f.payload.file = some file)
    (hline : f.payload.line = none) : f.IsTold p where
  complete := isComplete_of_hasParts hparts
  file := by
    rw [hfile]
    rintro _ ⟨⟩
    exact hnamed
  line := by simp [hline]

end Finding

/-- What holds of one finding holds of all, if there are no others and it is left out. -/
theorem forall_mem_unless {P : Finding → Prop} {f : Finding} (h : P f) {c : Prop} [Decidable c] :
    ∀ a ∈ if c then [] else [f], P a := by
  split
  · exact List.forall_mem_nil _
  · exact List.forall_mem_singleton.mpr h

/-- Or if it is put in. -/
theorem forall_mem_when {P : Finding → Prop} {f : Finding} (h : P f) {c : Prop} [Decidable c] :
    ∀ a ∈ if c then [f] else [], P a := by
  split
  · exact List.forall_mem_singleton.mpr h
  · exact List.forall_mem_nil _

open Finding (isTold_of_general isTold_of_file)

namespace Check

variable {p : Project}

/-! ## Check by check -/

namespace Environment

/-- The finding about a secret is about its key. -/
theorem isTold_secretFinding? {key value : String} {f : Finding}
    (h : secretFinding? key value = some f) : f.IsTold p := by
  unfold secretFinding? at h
  split at h
  · cases h
  split at h
  · cases h
    exact isTold_of_general rfl rfl rfl
  split at h
  · cases h
    exact isTold_of_general rfl rfl rfl
  split at h
  · cases h
    exact isTold_of_general rfl rfl rfl
  · cases h

/-- So are the warnings about a broken promise. -/
theorem isTold_brokenPromises (key value : String) : ∀ f ∈ brokenPromises key value, f.IsTold p := by
  unfold brokenPromises
  split
  · exact List.forall_mem_nil _
  refine List.forall_mem_filterMap.mpr fun promise hpromise f hf => ?_
  obtain ⟨-, hf⟩ := Option.ite_none_right_eq_some.mp hf
  obtain rfl := Option.some.inj hf
  simp only [promises, List.mem_cons, List.not_mem_nil, or_false] at hpromise
  obtain rfl | rfl | rfl := hpromise <;> exact isTold_of_general rfl rfl rfl

theorem isTold_verdict (actual expected : Option Env.Table) :
    ∀ f ∈ (verdict actual expected).findings, f.IsTold p := by
  have hunused : ∀ f ∈ unusedWarning (expected.getD []) (actual.getD []), f.IsTold p := by
    unfold unusedWarning
    split
    · exact List.forall_mem_nil _
    · exact List.forall_mem_singleton.mpr (isTold_of_general rfl rfl rfl)
  simp only [verdict, Verdict.ofFindings, Verdict.findings, List.forall_mem_append]
  refine ⟨⟨⟨?_, ?_⟩, ?_⟩, ⟨⟨⟨?_, ?_⟩, ?_⟩, ?_⟩⟩
  · exact forall_mem_unless (isTold_of_general rfl rfl rfl)
  · exact List.forall_mem_map.mpr fun _ _ => isTold_of_general rfl rfl rfl
  · exact List.forall_mem_filter.mpr fun f hf _ =>
      List.forall_mem_filterMap.mpr (fun _ _ _ hf => isTold_secretFinding? hf) f hf
  · exact forall_mem_unless (isTold_of_general rfl rfl rfl)
  · exact List.forall_mem_filter.mpr fun f hf _ =>
      List.forall_mem_filterMap.mpr (fun _ _ _ hf => isTold_secretFinding? hf) f hf
  · split
    · exact hunused
    · exact List.forall_mem_nil _
  · exact List.forall_mem_flatMap.mpr fun _ _ => isTold_brokenPromises _ _

end Environment

namespace Auth

/-- The issue about a route has the place of the route. -/
theorem isTold_unguardedIssue {r : Route} (h : r.IsPlaced p) : (unguardedIssue r).IsTold p where
  complete := Finding.isComplete_of_hasParts rfl
  file := by
    rintro _ ⟨⟩
    exact .inl h.file
  line := by
    rintro _ ⟨⟩
    exact ⟨r.file, rfl, h.line⟩

/-- The finding about an expiry is about the file in which it is set. -/
theorem isTold_expiryFinding? {file : String} (hfile : p.Lists file) {expiry : Nat} {f : Finding}
    (h : expiryFinding? file expiry = some f) : f.IsTold p := by
  dsimp only [expiryFinding?] at h
  split at h
  · cases h
    exact isTold_of_file (.inl hfile) rfl rfl rfl
  split at h
  · cases h
    exact isTold_of_file (.inl hfile) rfl rfl rfl
  · cases h

/-- What a report gives is in the project. -/
structure FileReport.IsTold (p : Project) (report : FileReport) : Prop where
  unguarded : ∀ r ∈ report.unguarded, r.IsPlaced p
  expiry : ∀ f ∈ report.expiry, f.IsTold p

theorem isTold_verdict {reports : List FileReport} (h : ∀ report ∈ reports, report.IsTold p) :
    ∀ f ∈ (verdict reports).findings, f.IsTold p := by
  have hexpiry : ∀ report ∈ reports, ∀ severity,
      ∀ f ∈ report.expiry.toList.filter (·.severity == severity), f.IsTold p :=
    fun report hreport severity => List.forall_mem_filter.mpr fun f hf _ =>
      (h report hreport).expiry f (Option.mem_toList.mp hf)
  simp only [verdict, Verdict.ofFindings, Verdict.findings, List.forall_mem_append,
    List.forall_mem_flatMap]
  refine ⟨fun report hreport => ⟨?_, hexpiry report hreport .issue⟩,
    fun report hreport => hexpiry report hreport .warning⟩
  exact List.forall_mem_map.mpr fun r hr => isTold_unguardedIssue ((h report hreport).unguarded r hr)

end Auth

namespace Api

theorem isTold_verdict (routes : List Route) : ∀ f ∈ (verdict routes).findings, f.IsTold p := by
  simp only [verdict, Verdict.ofFindings, Verdict.findings, List.forall_mem_append,
    List.forall_mem_flatMap]
  refine ⟨forall_mem_unless (isTold_of_general rfl rfl rfl),
    fun path _ => ⟨fun f hf => ?_, fun f hf => ?_⟩⟩
  · have hf := Option.mem_toList.mp hf
    dsimp only [creationWarning?] at hf
    obtain ⟨-, hf⟩ := Option.ite_none_right_eq_some.mp hf
    cases hf
    exact isTold_of_general rfl rfl rfl
  · have hf := Option.mem_toList.mp hf
    unfold updateWarning? at hf
    obtain ⟨-, hf⟩ := Option.ite_none_left_eq_some.mp hf
    obtain ⟨method, -, rfl⟩ := Option.map_eq_some_iff.mp hf
    exact isTold_of_general rfl rfl rfl

end Api

namespace Layout

/-- The warning about a README is about that file. -/
theorem isTold_readmeWarning? {name content : String} (hname : name ∈ Project.rootNames) {f : Finding}
    (h : readmeWarning? name content = some f) : f.IsTold p := by
  unfold readmeWarning? at h
  split at h
  · cases h
    exact isTold_of_file (.inr hname) rfl rfl rfl
  split at h
  · cases h
    exact isTold_of_file (.inr hname) rfl rfl rfl
  · cases h

/-- The warnings about a manifest are about the manifest. -/
theorem isTold_manifestWarnings (m : Manifest) : ∀ f ∈ manifestWarnings m, f.IsTold p := by
  have hname : "package.json" ∈ Project.rootNames := by decide
  cases m with
  | missing => exact List.forall_mem_nil _
  | malformed => exact List.forall_mem_singleton.mpr (isTold_of_file (.inr hname) rfl rfl rfl)
  | object fields =>
    refine List.forall_mem_append.mpr ⟨?_, ?_⟩
    · exact forall_mem_unless (isTold_of_file (.inr hname) rfl rfl rfl)
    · exact forall_mem_when (isTold_of_file (.inr hname) rfl rfl rfl)

theorem isTold_verdict {facts : Facts}
    (h : ∀ readme ∈ facts.readme, readme.1 ∈ Project.rootNames) :
    ∀ f ∈ (verdict facts).findings, f.IsTold p := by
  have hmanifest : ∀ f ∈ (manifestIssue? facts.manifest).toList, f.IsTold p := by
    cases facts.manifest with
    | missing => exact List.forall_mem_singleton.mpr (isTold_of_general rfl rfl rfl)
    | malformed => exact List.forall_mem_nil _
    | object fields => exact List.forall_mem_nil _
  simp only [verdict, Verdict.ofFindings, Verdict.findings, List.forall_mem_append]
  refine ⟨⟨⟨⟨?_, ?_⟩, ?_⟩, hmanifest⟩, ⟨⟨fun f hf => ?_, ?_⟩, isTold_manifestWarnings _⟩⟩
  · exact forall_mem_unless (isTold_of_general rfl rfl rfl)
  · exact forall_mem_unless (isTold_of_general rfl rfl rfl)
  · exact forall_mem_unless (isTold_of_general rfl rfl rfl)
  · obtain ⟨readme, hreadme, hf⟩ := Option.bind_eq_some_iff.mp (Option.mem_toList.mp hf)
    exact isTold_readmeWarning? (h readme hreadme) hf
  · exact forall_mem_unless (isTold_of_general rfl rfl rfl)

end Layout

namespace Security

theorem isTold_verdict {features : List Features} {dangers : List Dangers} {declaresHelmet : Bool}
    (hfeatures : ∀ f ∈ features, p.Lists f.file) (hdangers : ∀ d ∈ dangers, p.Lists d.file) :
    ∀ f ∈ (verdict features dangers declaresHelmet).findings, f.IsTold p := by
  simp only [verdict, Verdict.ofFindings, Verdict.findings, List.forall_mem_append,
    List.forall_mem_map, List.forall_mem_filter]
  refine ⟨⟨⟨fun f hf _ => ?_, ?_⟩, fun d hd _ => ?_⟩, ⟨⟨⟨?_, ?_⟩, ?_⟩, fun d hd _ => ?_⟩⟩
  · exact isTold_of_file (.inl (hfeatures f hf)) rfl rfl rfl
  · exact forall_mem_unless (isTold_of_general rfl rfl rfl)
  · exact isTold_of_file (.inl (hdangers d hd)) rfl rfl rfl
  · exact forall_mem_unless (isTold_of_general rfl rfl rfl)
  · exact forall_mem_unless (isTold_of_general rfl rfl rfl)
  · exact forall_mem_unless (isTold_of_general rfl rfl rfl)
  · exact isTold_of_file (.inl (hdangers d hd)) rfl rfl rfl

end Security

namespace Dependencies

/-- The warning about an outdated package is about the manifest. -/
theorem isTold_outdatedWarning? {m : Manifest} {package : String} {minimum : Release} {f : Finding}
    (h : outdatedWarning? m package minimum = .ok (some f)) : f.IsTold p := by
  unfold outdatedWarning? at h
  cases hrange : m.range? package with
  | none =>
    rw [hrange] at h
    cases h
  | some range =>
    rw [hrange] at h
    obtain ⟨declared, -, h⟩ := bind_eq_ok.mp h
    obtain ⟨release, -, hf⟩ := Option.bind_eq_some_iff.mp (Except.ok.inj h)
    obtain ⟨-, hf⟩ := Option.ite_none_right_eq_some.mp hf
    cases hf
    exact isTold_of_file (.inr (by decide)) rfl rfl rfl

theorem isTold_verdict {m : Manifest} {hasLock : Bool} {v : Verdict}
    (h : verdict m hasLock = .ok v) : ∀ f ∈ v.findings, f.IsTold p := by
  obtain ⟨outdated, houtdated, h⟩ := bind_eq_ok.mp h
  cases h
  simp only [Verdict.ofFindings, Verdict.findings, List.nil_append, List.forall_mem_append]
  refine ⟨⟨⟨⟨⟨?_, ?_⟩, ?_⟩, fun f hf => ?_⟩, ?_⟩, ?_⟩
  · exact forall_mem_unless (isTold_of_general rfl rfl rfl)
  · exact forall_mem_unless (isTold_of_general rfl rfl rfl)
  · exact forall_mem_unless (isTold_of_general rfl rfl rfl)
  · obtain ⟨found, hfound, rfl⟩ := List.mem_filterMap.mp hf
    obtain ⟨⟨package, minimum⟩, -, hwarning⟩ := (mem_of_mapM houtdated _).mp hfound
    exact isTold_outdatedWarning? hwarning
  · exact forall_mem_when (isTold_of_general rfl rfl rfl)
  · exact forall_mem_when (isTold_of_file (.inr (by decide)) rfl rfl rfl)

end Dependencies

namespace Database

theorem isTold_verdict (facts : Facts) : ∀ f ∈ (verdict facts).findings, f.IsTold p := by
  simp only [verdict, Verdict.ofFindings, Verdict.findings, List.forall_mem_append]
  refine ⟨?_, ⟨?_, ?_⟩, ?_⟩
  · exact forall_mem_when (isTold_of_general rfl rfl rfl)
  · exact forall_mem_when (isTold_of_general rfl rfl rfl)
  · exact forall_mem_when (isTold_of_general rfl rfl rfl)
  · exact forall_mem_when (isTold_of_general rfl rfl rfl)

end Database

/-! ## Places in the listing -/

section

variable {files : List String} (htree : p.disk.IsTree)

include htree

/-- A report calls a listed file by its name in the listing. -/
theorem lists_relative_div (hfiles : p.disk.visibleFiles p.root = .ok files) {file : String}
    (hfile : file ∈ files) : p.Lists (p.relative (p.root / file)) := by
  obtain ⟨way, name, hnames, rfl⟩ := (isFile_of_mem_visibleFiles htree hfiles).1 file hfile
  rw [Project.relative, Path.relativeTo_div_intercalate p.root (by simp) hnames]
  exact ⟨files, hfiles, hfile⟩

/-- So it does with the files that patterns find. -/
theorem lists_of_mem_find (hfiles : p.disk.visibleFiles p.root = .ok files) {patterns : List String}
    {path : Path} (h : path ∈ Glob.find p.root files patterns) : p.Lists (p.relative path) := by
  obtain ⟨file, hfile, -, rfl⟩ := Glob.mem_find.mp h
  exact lists_relative_div htree hfiles hfile

omit htree in
/-- A route of a text stands on one of its lines. -/
theorem line_of_mem_extract {code file : String} {r : Route} (h : r ∈ Route.extract code file) :
    1 ≤ r.line ∧ r.line ≤ (Source.lines code.toList).length :=
  Route.forall_mem_extract
    (P := fun r => 1 ≤ r.line ∧ r.line ≤ (Source.lines code.toList).length)
    (fun _ s => ⟨Nat.le_add_left 1 _, Source.lineOf_le code.toList s.offset⟩) r h

/-- The routes of a route file have their places in it. -/
theorem isPlaced_of_mem_routesOf (hfiles : p.disk.visibleFiles p.root = .ok files)
    {withControllers : Bool} {path : Path} (hpath : path ∈ filesIn p.root files withControllers)
    {text : Option String} (htext : p.disk.readText? path = .ok text) {r : Route}
    (h : r ∈ Store.routesOf p.root path text) : r.IsPlaced p := by
  have hname : r.file = p.relative path := Store.file_of_mem_routesOf h
  obtain ⟨file, hfile, rfl⟩ := mem_files_of_mem_filesIn hpath
  refine ⟨?_, ?_⟩
  · rw [hname]
    exact lists_relative_div htree hfiles hfile
  · cases text with
    | none => cases h
    | some code =>
      have hline : 1 ≤ r.line ∧ r.line ≤ (Source.lines code.toList).length := by
        unfold Store.routesOf at h
        dsimp only at h
        split at h
        · cases h
        · exact line_of_mem_extract h
      refine ⟨code, ?_, by exact_mod_cast hline.1, by exact_mod_cast hline.2⟩
      rw [hname]
      exact (congrArg p.disk.readText? (Path.root_div_relativeTo p.root file)).trans htext

end

end Check

/-- The findings of a result are told, and its routes have their places. -/
structure Verdict.IsTold (p : Project) (v : Verdict) : Prop where
  findings : ∀ f ∈ v.findings, f.IsTold p
  routes : ∀ routes ∈ v.routes, ∀ r ∈ routes, r.IsPlaced p
  vulnerable : ∀ routes ∈ v.vulnerable, ∀ r ∈ routes, r.IsPlaced p

/-- A result without routes is told with its findings. -/
theorem Verdict.IsTold.of_findings {p : Project} {v : Verdict} (hfindings : ∀ f ∈ v.findings, f.IsTold p)
    (hroutes : v.routes = none) (hvulnerable : v.vulnerable = none) : v.IsTold p where
  findings := hfindings
  routes := by simp [hroutes]
  vulnerable := by simp [hvulnerable]

namespace Check

variable {p : Project} {v : Verdict}

theorem Environment.isTold_run (h : (run p).eval p.disk p.root = .ok v) : v.IsTold p := by
  rw [eval_run] at h
  obtain ⟨actual, -, h⟩ := bind_eq_ok.mp h
  obtain ⟨expected, -, h⟩ := bind_eq_ok.mp h
  cases h
  exact .of_findings (isTold_verdict actual expected) rfl rfl

theorem Layout.isTold_run (h : (run p).eval p.disk p.root = .ok v) : v.IsTold p := by
  obtain ⟨facts, hfacts, rfl⟩ := eval_run_eq_ok_iff.mp h
  refine .of_findings (isTold_verdict fun found hfound => ?_) rfl rfl
  have hreadme : (readme? p).eval p.disk p.root = .ok (some found) :=
    hfacts.readme.trans (congrArg _ hfound)
  rw [eval_readme?] at hreadme
  obtain ⟨name?, hfirst, hreadme⟩ := bind_eq_ok.mp hreadme
  cases name? with
  | none => cases hreadme
  | some name =>
    obtain ⟨text, -, hfound⟩ := map_eq_ok.mp hreadme
    cases hfound
    have hname : name ∈ readmeNames := mem_of_firstFile? hfirst
    exact List.mem_cons_of_mem "package.json" hname

theorem Security.isTold_run (htree : p.disk.IsTree) (h : (run p).eval p.disk p.root = .ok v) :
    v.IsTold p := by
  rw [eval_run] at h
  obtain ⟨files, hfiles, h⟩ := bind_eq_ok.mp h
  obtain ⟨features, hfeatures, h⟩ := bind_eq_ok.mp h
  obtain ⟨manifest, -, h⟩ := bind_eq_ok.mp h
  obtain ⟨dangers, hdangers, h⟩ := bind_eq_ok.mp h
  cases h
  refine .of_findings (isTold_verdict (fun f hf => ?_) fun d hd => ?_) rfl rfl
  · obtain ⟨path, hpath, code, -, -, rfl⟩ := (mem_looked hfeatures f).mp hf
    exact lists_of_mem_find htree hfiles (List.mem_of_mem_take hpath)
  · obtain ⟨path, hpath, code, -, -, rfl⟩ := (mem_looked hdangers d).mp hd
    exact lists_of_mem_find htree hfiles (List.mem_of_mem_take hpath)

theorem Dependencies.isTold_run (h : (run p).eval p.disk p.root = .ok v) : v.IsTold p := by
  rw [eval_run] at h
  obtain ⟨m, -, h⟩ := bind_eq_ok.mp h
  cases m with
  | missing =>
    cases h
    exact .of_findings (List.forall_mem_singleton.mpr (isTold_of_general rfl rfl rfl)) rfl rfl
  | malformed =>
    cases h
    exact .of_findings
      (List.forall_mem_singleton.mpr (isTold_of_file (.inr (by decide)) rfl rfl rfl)) rfl rfl
  | object fields =>
    obtain ⟨hasLock, -, h⟩ := bind_eq_ok.mp h
    refine .of_findings (isTold_verdict h) ?_ ?_
    all_goals
      obtain ⟨outdated, -, h⟩ := bind_eq_ok.mp h
      cases h
      rfl

theorem Database.isTold_run (h : (run p).eval p.disk p.root = .ok v) : v.IsTold p := by
  rw [eval_run] at h
  obtain ⟨env, -, h⟩ := bind_eq_ok.mp h
  obtain ⟨m, -, h⟩ := bind_eq_ok.mp h
  split at h
  · obtain ⟨files, -, h⟩ := bind_eq_ok.mp h
    obtain ⟨sources, -, rfl⟩ := map_eq_ok.mp h
    exact .of_findings (isTold_verdict _) rfl rfl
  · cases h
    exact .of_findings (List.forall_mem_nil _) rfl rfl

/-- A project without route files has no routes. -/
theorem isTold_noRoutes : Api.noRoutes.IsTold p ∧ Auth.noRoutes.IsTold p := by
  have hfinding : ∀ f ∈ [Finding.issue .noRouteFiles], f.IsTold p :=
    List.forall_mem_singleton.mpr (isTold_of_general rfl rfl rfl)
  refine ⟨⟨hfinding, ?_, nofun⟩, ⟨hfinding, nofun, ?_⟩⟩
  · rintro _ ⟨⟩
    exact List.forall_mem_nil _
  · rintro _ ⟨⟩
    exact List.forall_mem_nil _

theorem Api.isTold_run (htree : p.disk.IsTree) (h : (run p).eval p.disk p.root = .ok v) :
    v.IsTold p := by
  rw [eval_run] at h
  obtain ⟨files, hfiles, h⟩ := bind_eq_ok.mp h
  have hroutes : ∀ routes ∈ v.routes, ∀ r ∈ routes, r.IsPlaced p := by
    intro routes hroutes r hr
    obtain ⟨path, hpath, text, htext, hr⟩ := (mem_routes h hroutes).mp hr
    exact isPlaced_of_mem_routesOf htree hfiles hpath htext hr
  unfold answer at h
  split at h
  · cases h
    exact isTold_noRoutes.1
  · obtain ⟨found, -, h⟩ := bind_eq_ok.mp h
    cases h
    exact ⟨isTold_verdict _, hroutes, nofun⟩

/-- The report of a route file is in the project. -/
theorem Auth.isTold_reportOf (htree : p.disk.IsTree) {files : List String}
    (hfiles : p.disk.visibleFiles p.root = .ok files) {path : Path}
    (hpath : path ∈ filesIn p.root files true) {text : Option String}
    (htext : p.disk.readText? path = .ok text) {report : FileReport}
    (h : reportOf p path text = .ok report) : report.IsTold p where
  unguarded r hr := by
    obtain ⟨code, -, hr, -⟩ := (mem_unguarded h).mp hr
    exact isPlaced_of_mem_routesOf htree hfiles hpath htext hr
  expiry f hf := by
    unfold reportOf at h
    split at h
    · cases h
      cases hf
    · obtain ⟨expiry, -, rfl⟩ := map_eq_ok.mp h
      obtain ⟨n, -, hf⟩ := Option.bind_eq_some_iff.mp hf
      obtain ⟨file, hfile, rfl⟩ := mem_files_of_mem_filesIn hpath
      exact isTold_expiryFinding? (lists_relative_div htree hfiles hfile) hf

theorem Auth.isTold_run (htree : p.disk.IsTree) (h : (run p).eval p.disk p.root = .ok v) :
    v.IsTold p := by
  rw [eval_run] at h
  obtain ⟨files, hfiles, h⟩ := bind_eq_ok.mp h
  have hroutes : ∀ routes ∈ v.vulnerable, ∀ r ∈ routes, r.IsPlaced p := by
    intro routes hroutes r hr
    obtain ⟨path, hpath, code, htext, hr, -⟩ := (mem_vulnerable h hroutes).mp hr
    exact isPlaced_of_mem_routesOf htree hfiles hpath htext hr
  unfold answer at h
  split at h
  · cases h
    exact isTold_noRoutes.2
  · obtain ⟨reports, hreports, h⟩ := bind_eq_ok.mp h
    cases h
    refine ⟨isTold_verdict fun report hreport => ?_, nofun, hroutes⟩
    obtain ⟨path, hpath, hanswer⟩ := (mem_of_mapM hreports report).mp hreport
    obtain ⟨text, htext, hanswer⟩ := bind_eq_ok.mp hanswer
    exact isTold_reportOf htree hfiles hpath htext hanswer

/-! ## All checks -/

/-- What a check comes to is told. -/
theorem Module.isTold_scan (htree : p.disk.IsTree) (m : Module)
    (h : (m.scan p).eval p.disk p.root = .ok v) : v.IsTold p := by
  cases m with
  | env => exact Environment.isTold_run h
  | auth => exact Auth.isTold_run htree h
  | api => exact Api.isTold_run htree h
  | project => exact Layout.isTold_run h
  | security => exact Security.isTold_run htree h
  | dependencies => exact Dependencies.isTold_run h
  | database => exact Database.isTold_run h

/-- **Findings are complete and have a place.** In a project tree every finding of every check, also of
one that was stopped, has the parts that its sentence asks for; a file that it names is in the listing
of the project or one of the usual files in its root, and its line is a line of the text of that file.
Every route has its place in the text of a listed file. -/
theorem Module.findings_are_told (htree : p.disk.IsTree) (m : Module) : (m.runFresh p).IsTold p := by
  obtain heval | ⟨failure, -, hstopped⟩ := m.runFresh_cases p
  · exact m.isTold_scan htree heval
  · rw [hstopped]
    exact .of_findings (List.forall_mem_singleton.mpr (isTold_of_general rfl rfl rfl)) rfl rfl

/-- An administration route that nothing guards is on the sixth line of its file. -/
theorem admin_route_has_place :
    let r : Route := ⟨"GET", "/admin", 6, "routes/a.js"⟩
    Auth.tokenProject.disk.IsTree ∧
      (∃ routes ∈ (Module.auth.runFresh Auth.tokenProject).vulnerable, r ∈ routes) ∧
      (Module.auth.runFresh Auth.tokenProject).IsTold Auth.tokenProject ∧
      r.IsPlaced Auth.tokenProject := by
  intro r
  have htree : Auth.tokenProject.disk.IsTree :=
    ⟨by decide +kernel, by decide +kernel, by decide +kernel⟩
  have htold := Module.findings_are_told htree .auth
  obtain ⟨v, hv, hvulnerable, -⟩ := Auth.exists_result_token
  have hrun : Module.auth.runFresh Auth.tokenProject = v := congrArg Module.auth.settle hv
  rw [hrun] at htold ⊢
  have hmem : r ∈ [r, ⟨"GET", "/users", 1, "routes/b.js"⟩] := List.mem_cons_self
  exact ⟨htree, ⟨_, hvulnerable, hmem⟩, htold, htold.vulnerable _ hvulnerable r hmem⟩

end Check

end Preflight
