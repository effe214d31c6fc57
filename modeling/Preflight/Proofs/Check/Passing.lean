import Preflight.Check.Environment
import Preflight.Check.Layout
import Preflight.Check.Security
import Preflight.Proofs.Scan.Answers

/-!
# When checks pass

The environment, project and security checks as programs over readings of the disk (`eval_run`), and
for each of them what it passes on (`verdict_passed`, `passes_iff`): a check passes if it finds no
issue, and what it only warns of does not count. A check that is stopped by a failure does not pass.

The checks of routes are the matter of `Preflight.Proofs.Check.Routes`.
-/

set_option autoImplicit false

namespace Preflight.Check

/-! ## Environment -/

namespace Environment

/-- The tables of the two files are compared. -/
theorem eval_run (p : Project) :
    (run p).eval p.disk p.root = (do
      let actual ← table? p.disk (p.root / ".env")
      let expected ← table? p.disk (p.root / ".env.example")
      return verdict actual expected) := by
  simp only [run, Scan.eval_bind, Scan.eval_lift, Scan.eval_pure]
  rfl

/-- The secrets of a table are neither empty nor weak. -/
def SecretsHold (values : Env.Table) : Prop :=
  ∀ entry ∈ values, ∀ finding, secretFinding? entry.1 entry.2 = some finding →
    finding.severity ≠ .issue

/-- **When the environment check passes**: there is a table, it has every key of the example, and
its secrets hold. -/
theorem verdict_passed (actual expected : Option Env.Table) :
    (verdict actual expected).passed = true ↔ ∃ values, actual = some values ∧
      (∀ key ∈ (expected.getD []).keys, key ∈ values.keys) ∧ SecretsHold values := by
  cases actual with
  | none => simp [verdict, Verdict.ofFindings]
  | some values =>
    simp only [verdict, Verdict.ofFindings, SecretsHold, List.isEmpty_iff, List.append_eq_nil_iff,
      List.map_eq_nil_iff, List.filter_eq_nil_iff, List.mem_filterMap, Option.getD_some,
      Option.isSome_some, if_true, true_and, Option.some.injEq, exists_eq_left']
    constructor
    · rintro ⟨hkeys, hsecrets⟩
      refine ⟨fun key hkey => by simpa using hkeys key hkey, fun entry hentry finding hfinding => ?_⟩
      simpa using hsecrets finding ⟨entry, hentry, hfinding⟩
    · rintro ⟨hkeys, hsecrets⟩
      refine ⟨fun key hkey => by simpa using hkeys key hkey, ?_⟩
      rintro finding ⟨entry, hentry, hfinding⟩
      simpa using hsecrets entry hentry finding hfinding

/-- The environment check of a project passes if both files can be read, and it passes on them. -/
theorem passes_iff (p : Project) :
    (∃ v, (run p).eval p.disk p.root = .ok v ∧ v.passed = true) ↔
      ∃ values expected, table? p.disk (p.root / ".env") = .ok (some values) ∧
        table? p.disk (p.root / ".env.example") = .ok expected ∧
          (∀ key ∈ (expected.getD []).keys, key ∈ values.keys) ∧ SecretsHold values := by
  rw [eval_run]
  constructor
  · rintro ⟨v, heval, hv⟩
    obtain ⟨actual, hactual, heval⟩ := bind_eq_ok.mp heval
    obtain ⟨expected, hexpected, heval⟩ := bind_eq_ok.mp heval
    cases heval
    obtain ⟨values, rfl, hpassed⟩ := (verdict_passed actual expected).mp hv
    exact ⟨values, expected, hactual, hexpected, hpassed⟩
  · rintro ⟨values, expected, hactual, hexpected, hpassed⟩
    refine ⟨verdict (some values) expected, ?_, (verdict_passed _ _).mpr ⟨values, rfl, hpassed⟩⟩
    rw [hactual, hexpected]
    rfl

end Environment

/-! ## Project -/

namespace Layout

/-- A first file is one of the files. -/
theorem mem_of_firstFile? {p : Project} {names : List String} {name : String}
    (h : firstFile? p names = .ok (some name)) : name ∈ names := by
  induction names with
  | nil => cases h
  | cons candidate rest ih =>
    unfold firstFile? at h
    obtain ⟨isFile, -, h⟩ := bind_eq_ok.mp h
    cases isFile with
    | true =>
      cases h
      exact List.mem_cons_self
    | false => exact List.mem_cons_of_mem _ (ih h)

/-- The README and its text are read from the first README that is there. -/
theorem eval_readme? (p : Project) :
    (readme? p).eval p.disk p.root =
      firstFile? p readmeNames >>= fun
        | none => .ok none
        | some name => (p.disk.readText? (p.root / name)).map fun text =>
          some (name, text.getD "") := by
  rw [readme?, Scan.eval_bind, Scan.eval_lift]
  congr 1
  funext name?
  cases name? with
  | none => rfl
  | some name =>
    simp only [Scan.eval_bind, Scan.eval_text]
    cases p.disk.readText? (p.root / name) <;> rfl

/-- The facts are found out one after the other. -/
theorem eval_run (p : Project) :
    (run p).eval p.disk p.root = (do
      let hasExample ← p.disk.isFile (p.root / ".env.example")
      let readme ← (readme? p).eval p.disk p.root
      let hasFolders ← anyExists p usualFolders
      let handlesErrors ← (handlesErrors p).eval p.disk p.root
      let manifest ← Manifest.load p.disk p.root
      return verdict { hasExample, readme, hasFolders, handlesErrors, manifest }) := by
  simp only [run, Scan.eval_bind, Scan.eval_lift, Scan.eval_pure]
  rfl

/-- The facts are found out about the project. -/
structure Facts.AreOf (f : Facts) (p : Project) : Prop where
  hasExample : p.disk.isFile (p.root / ".env.example") = .ok f.hasExample
  readme : (readme? p).eval p.disk p.root = .ok f.readme
  hasFolders : anyExists p usualFolders = .ok f.hasFolders
  handlesErrors : (Layout.handlesErrors p).eval p.disk p.root = .ok f.handlesErrors
  manifest : Manifest.load p.disk p.root = .ok f.manifest

/-- **What the project check comes to** is the result for the facts that are found out. -/
theorem eval_run_eq_ok_iff {p : Project} {v : Verdict} :
    (run p).eval p.disk p.root = .ok v ↔ ∃ f : Facts, f.AreOf p ∧ verdict f = v := by
  rw [eval_run]
  constructor
  · intro heval
    obtain ⟨hasExample, hexample, heval⟩ := bind_eq_ok.mp heval
    obtain ⟨readme, hreadme, heval⟩ := bind_eq_ok.mp heval
    obtain ⟨hasFolders, hfolders, heval⟩ := bind_eq_ok.mp heval
    obtain ⟨handles, hhandles, heval⟩ := bind_eq_ok.mp heval
    obtain ⟨manifest, hmanifest, heval⟩ := bind_eq_ok.mp heval
    exact ⟨⟨hasExample, readme, hasFolders, handles, manifest⟩,
      ⟨hexample, hreadme, hfolders, hhandles, hmanifest⟩, Except.ok.inj heval⟩
  · rintro ⟨f, hf, rfl⟩
    rw [hf.hasExample, hf.readme, hf.hasFolders, hf.handlesErrors, hf.manifest]
    rfl

/-- **When the project check passes**: there are an example environment file, a README, error
handling and a manifest. -/
theorem verdict_passed (f : Facts) :
    (verdict f).passed = true ↔ f.hasExample = true ∧ f.readme.isSome = true ∧
      f.handlesErrors = true ∧ f.manifest ≠ .missing := by
  have hmanifest : (manifestIssue? f.manifest).toList = [] ↔ f.manifest ≠ .missing := by
    cases f.manifest <;> simp [manifestIssue?]
  simp only [verdict, Verdict.ofFindings, List.isEmpty_iff, List.append_eq_nil_iff, hmanifest]
  cases f.hasExample <;> cases f.readme <;> cases f.handlesErrors <;> simp

/-- The project check of a project passes if everything can be found out, and it passes on that. -/
theorem passes_iff (p : Project) :
    (∃ v, (run p).eval p.disk p.root = .ok v ∧ v.passed = true) ↔
      p.disk.isFile (p.root / ".env.example") = .ok true ∧
      (∃ file, (readme? p).eval p.disk p.root = .ok (some file)) ∧
      (∃ found, anyExists p usualFolders = .ok found) ∧
      (handlesErrors p).eval p.disk p.root = .ok true ∧
      ∃ manifest, Manifest.load p.disk p.root = .ok manifest ∧ manifest ≠ .missing := by
  simp only [eval_run_eq_ok_iff]
  constructor
  · rintro ⟨_, ⟨f, hf, rfl⟩, hv⟩
    obtain ⟨hexample, hsome, hhandles, hthere⟩ := (verdict_passed f).mp hv
    obtain ⟨file, hfile⟩ := Option.isSome_iff_exists.mp hsome
    exact ⟨hexample ▸ hf.hasExample, ⟨file, hfile ▸ hf.readme⟩, ⟨_, hf.hasFolders⟩,
      hhandles ▸ hf.handlesErrors, _, hf.manifest, hthere⟩
  · rintro ⟨hexample, ⟨file, hreadme⟩, ⟨hasFolders, hfolders⟩, hhandles, manifest, hmanifest, hthere⟩
    exact ⟨_, ⟨⟨true, some file, hasFolders, true, manifest⟩,
      ⟨hexample, hreadme, hfolders, hhandles, hmanifest⟩, rfl⟩,
      (verdict_passed _).mpr ⟨rfl, rfl, rfl, hthere⟩⟩

end Layout

/-! ## Security -/

namespace Security

/-- What the texts of files give; a missing or empty one gives nothing. -/
def looked {α : Type} (p : Project) (files : List Path) (of : String → String → α) :
    Except Failure (List α) :=
  (files.mapM fun path => (p.disk.readText? path).map fun text =>
    (text.filter (!·.isEmpty)).map (of (p.relative path))).map (List.filterMap id)

/-- Looking at files is looking at their texts. -/
@[simp] theorem eval_look {α : Type} (p : Project) (files : List Path)
    (of : String → String → α) : (look p files of).eval p.disk p.root = looked p files of := by
  have hquestion : ∀ path : Path, (do
      return (← Scan.code? path).map (of (p.relative path)) : Scan (Option α)).eval p.disk p.root =
        (p.disk.readText? path).map fun text =>
          (text.filter (!·.isEmpty)).map (of (p.relative path)) := by
    intro path
    simp only [Scan.eval_bind, Scan.eval_code?]
    cases p.disk.readText? path <;> rfl
  simp only [look, Scan.eval_bind, Scan.eval_forEach, hquestion, looked]
  exact (map_eq_bind _ _).symm

/-- What files give is what their texts give. -/
theorem mem_looked {α : Type} {p : Project} {files : List Path} {of : String → String → α}
    {found : List α} (h : looked p files of = .ok found) (a : α) :
    a ∈ found ↔ ∃ path ∈ files, ∃ code, p.disk.readText? path = .ok (some code) ∧
      code.isEmpty = false ∧ of (p.relative path) code = a := by
  obtain ⟨answers, hanswers, rfl⟩ := map_eq_ok.mp h
  simp only [List.mem_filterMap, id_eq, exists_eq_right]
  rw [mem_of_mapM hanswers]
  refine exists_congr fun path => and_congr_right fun _ => ?_
  rw [map_eq_ok]
  constructor
  · rintro ⟨text, htext, hsome⟩
    obtain ⟨code, hcode, heq⟩ := Option.map_eq_some_iff.mp hsome
    obtain ⟨rfl, hne⟩ := Option.filter_eq_some_iff.mp hcode
    exact ⟨code, htext, by simpa using hne, heq⟩
  · rintro ⟨code, htext, hne, rfl⟩
    have hcode : (some code).filter (!·.isEmpty) = some code :=
      Option.filter_eq_some_iff.mpr ⟨rfl, by simpa using hne⟩
    exact ⟨some code, htext, congrArg _ hcode⟩

/-- Files can be looked at if they can be read. -/
theorem looked_isOk {α : Type} {p : Project} {files : List Path} {of : String → String → α} :
    (∃ found, looked p files of = .ok found) ↔
      ∀ path ∈ files, ∃ text, p.disk.readText? path = .ok text := by
  have hread : ∀ path : Path, (∃ answer, ((p.disk.readText? path).map fun text =>
      (text.filter (!·.isEmpty)).map (of (p.relative path))) = .ok answer) ↔
        ∃ text, p.disk.readText? path = .ok text := by
    intro path
    cases p.disk.readText? path <;> simp [Except.map]
  simp only [← hread]
  rw [← mapM_isOk]
  constructor
  · rintro ⟨found, h⟩
    obtain ⟨answers, hanswers, -⟩ := map_eq_ok.mp h
    exact ⟨answers, hanswers⟩
  · rintro ⟨answers, hanswers⟩
    exact ⟨_, map_eq_ok.mpr ⟨answers, hanswers, rfl⟩⟩

/-- The result for files. -/
def answer (p : Project) (files : List Path) : Except Failure Verdict := do
  let features ← looked p (files.take p.limits.securityFeatureFiles) Features.of
  let manifest ← Manifest.load p.disk p.root
  let dangers ← looked p (files.take p.limits.securityAntipatternFiles) Dangers.of
  return verdict features dangers (manifest.declares "helmet")

/-- The check gives the result for the security files of the listing. -/
theorem eval_run (p : Project) :
    (run p).eval p.disk p.root =
      p.disk.visibleFiles p.root >>= fun files =>
        answer p (Glob.find p.root files securityFiles) := by
  have hsome : securityFiles ≠ [] := by decide
  simp only [run, Scan.eval_bind, Scan.eval_find _ _ p hsome, eval_look, Scan.eval_lift,
    Scan.eval_pure]
  cases p.disk.visibleFiles p.root <;> rfl

/-- **When the security check passes**: some file protects headers, none allows every origin, and
none evaluates code. -/
theorem verdict_passed (features : List Features) (dangers : List Dangers) (declares : Bool) :
    (verdict features dangers declares).passed = true ↔
      (∀ f ∈ features, f.wildcard = false) ∧ (∃ f ∈ features, f.headers = true) ∧
        ∀ d ∈ dangers, d.evaluates = false := by
  simp only [verdict, Verdict.ofFindings, List.isEmpty_iff, List.append_eq_nil_iff,
    List.map_eq_nil_iff, List.filter_eq_nil_iff, Bool.not_eq_true, and_assoc]
  refine and_congr_right fun _ => and_congr_left fun _ => ?_
  rw [← List.any_eq_true]
  cases features.any (·.headers) <;> simp

/-- The text of a path is there, and something is in it. -/
def HasCode (p : Project) (path : Path) (code : String) : Prop :=
  p.disk.readText? path = .ok (some code) ∧ code.isEmpty = false

/-- The security check passes on files that can be read. -/
theorem answer_passes_iff (p : Project) (files : List Path) :
    (∃ v, answer p files = .ok v ∧ v.passed = true) ↔
      (∀ path ∈ files.take p.limits.securityFeatureFiles,
        (∃ text, p.disk.readText? path = .ok text) ∧
        ∀ code, HasCode p path code → (Features.of (p.relative path) code).wildcard = false) ∧
      (∃ path ∈ files.take p.limits.securityFeatureFiles, ∃ code, HasCode p path code ∧
        (Features.of (p.relative path) code).headers = true) ∧
      (∀ path ∈ files.take p.limits.securityAntipatternFiles,
        (∃ text, p.disk.readText? path = .ok text) ∧
        ∀ code, HasCode p path code → (Dangers.of (p.relative path) code).evaluates = false) ∧
      ∃ manifest, Manifest.load p.disk p.root = .ok manifest := by
  constructor
  · rintro ⟨v, heval, hv⟩
    obtain ⟨features, hfeatures, heval⟩ := bind_eq_ok.mp heval
    obtain ⟨manifest, hmanifest, heval⟩ := bind_eq_ok.mp heval
    obtain ⟨dangers, hdangers, heval⟩ := bind_eq_ok.mp heval
    cases heval
    obtain ⟨hwildcard, ⟨f, hf, hheaders⟩, hevaluates⟩ := (verdict_passed _ _ _).mp hv
    refine ⟨fun path hpath => ⟨looked_isOk.mp ⟨_, hfeatures⟩ path hpath, fun code hcode => ?_⟩, ?_,
      fun path hpath => ⟨looked_isOk.mp ⟨_, hdangers⟩ path hpath, fun code hcode => ?_⟩,
      manifest, hmanifest⟩
    · exact hwildcard _ ((mem_looked hfeatures _).mpr ⟨path, hpath, code, hcode.1, hcode.2, rfl⟩)
    · obtain ⟨path, hpath, code, htext, hne, rfl⟩ := (mem_looked hfeatures f).mp hf
      exact ⟨path, hpath, code, ⟨htext, hne⟩, hheaders⟩
    · exact hevaluates _ ((mem_looked hdangers _).mpr ⟨path, hpath, code, hcode.1, hcode.2, rfl⟩)
  · rintro ⟨hwildcard, ⟨path, hpath, code, hcode, hheaders⟩, hevaluates, manifest, hmanifest⟩
    obtain ⟨features, hfeatures⟩ := looked_isOk.mpr fun path hpath => (hwildcard path hpath).1
    obtain ⟨dangers, hdangers⟩ := looked_isOk.mpr fun path hpath => (hevaluates path hpath).1
    refine ⟨verdict features dangers (manifest.declares "helmet"), ?_,
      (verdict_passed _ _ _).mpr ⟨fun f hf => ?_, ?_, fun d hd => ?_⟩⟩
    · rw [answer, hfeatures, hmanifest, hdangers]
      rfl
    · obtain ⟨path, hpath, code, htext, hne, rfl⟩ := (mem_looked hfeatures f).mp hf
      exact (hwildcard path hpath).2 code ⟨htext, hne⟩
    · exact ⟨_, (mem_looked hfeatures _).mpr ⟨path, hpath, code, hcode.1, hcode.2, rfl⟩, hheaders⟩
    · obtain ⟨path, hpath, code, htext, hne, rfl⟩ := (mem_looked hdangers d).mp hd
      exact (hevaluates path hpath).2 code ⟨htext, hne⟩

end Security

end Preflight.Check
