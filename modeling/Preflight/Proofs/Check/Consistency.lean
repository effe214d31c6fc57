import Preflight.Check.Module
import Preflight.Proofs.Check.Independence
import Preflight.Proofs.Scan.Every

/-!
# Consistent results

A result is consistent (`Verdict.IsConsistent`) if it passes exactly without issues, if its issues
and warnings weigh what their lists say, and if nothing was found where the check did not apply. Each
check sets these parts by itself, some of them on several ways out; the law (`Module.runFresh_names`)
is that every result of every check is consistent and has the name of its check, also the result of
a check that was stopped.
-/

set_option autoImplicit false

namespace Preflight

/-- The findings all have a weight. -/
def Severity.OfAll (s : Severity) (findings : List Finding) : Prop :=
  ∀ f ∈ findings, f.severity = s

namespace Severity.OfAll

variable {s : Severity} {findings others : List Finding}

@[simp] theorem nil : s.OfAll [] := List.forall_mem_nil _

@[simp] theorem append : s.OfAll (findings ++ others) ↔ s.OfAll findings ∧ s.OfAll others :=
  List.forall_mem_append

@[simp] theorem issue (kind : Kind) (payload : Payload) :
    Severity.issue.OfAll [.issue kind payload] := by
  simp [OfAll, Finding.issue]

@[simp] theorem warning (kind : Kind) (payload : Payload) :
    Severity.warning.OfAll [.warning kind payload] := by
  simp [OfAll, Finding.warning]

theorem filter : s.OfAll (findings.filter (·.severity == s)) := by
  intro f hf
  simpa using (List.mem_filter.mp hf).2

theorem map {α : Type} {items : List α} {f : α → Finding} (h : ∀ a ∈ items, (f a).severity = s) :
    s.OfAll (items.map f) :=
  List.forall_mem_map.mpr h

theorem flatMap {α : Type} {items : List α} {f : α → List Finding}
    (h : ∀ a ∈ items, s.OfAll (f a)) : s.OfAll (items.flatMap f) := by
  intro finding hfinding
  obtain ⟨a, ha, hmem⟩ := List.mem_flatMap.mp hfinding
  exact h a ha finding hmem

theorem toList {finding? : Option Finding} (h : ∀ f, finding? = some f → f.severity = s) :
    s.OfAll finding?.toList := by
  intro f hf
  exact h f (Option.mem_toList.mp hf)

theorem ite {p : Prop} [Decidable p] (h : s.OfAll findings) (h' : s.OfAll others) :
    s.OfAll (if p then findings else others) := by
  split
  · exact h
  · exact h'

end Severity.OfAll

open Severity (OfAll)

/-- The parts of a result agree with each other. -/
structure Verdict.IsConsistent (v : Verdict) : Prop where
  passed_iff : v.passed = true ↔ v.issues = []
  issues : Severity.issue.OfAll v.issues
  warnings : Severity.warning.OfAll v.warnings
  skipped : v.skipped = true → v.passed = true ∧ v.findings = []

namespace Verdict.IsConsistent

/-- A result of a check that applies is consistent if it passes where its issues are empty. -/
theorem of_isEmpty {v : Verdict} (hpassed : v.passed = v.issues.isEmpty)
    (happlies : v.skipped = false) (hissues : Severity.issue.OfAll v.issues)
    (hwarnings : Severity.warning.OfAll v.warnings) : v.IsConsistent where
  passed_iff := by rw [hpassed, List.isEmpty_iff]
  issues := hissues
  warnings := hwarnings
  skipped h := by simp [happlies] at h

theorem stopped (name failure : String) : (Verdict.stopped name failure).IsConsistent :=
  .of_isEmpty rfl rfl (.issue _ _) .nil

/-- A result counts as passed exactly if it has no issues. -/
theorem countsAsPassed_iff {v : Verdict} (h : v.IsConsistent) :
    v.countsAsPassed = true ↔ v.issues = [] := by
  rw [← h.passed_iff, countsAsPassed, Bool.or_eq_true, or_iff_left_iff_imp]
  intro hskipped
  exact (h.skipped hskipped).1

end Verdict.IsConsistent

namespace Check

/-! ## Check by check -/

open Verdict (IsConsistent)

theorem Environment.verdict_isConsistent (actual expected : Option Env.Table) :
    (verdict actual expected).IsConsistent := by
  have hunused : ∀ wanted values, Severity.warning.OfAll (unusedWarning wanted values) := by
    intro wanted values
    unfold unusedWarning
    split
    · exact .nil
    · exact .warning _ _
  have hbroken : ∀ key value, Severity.warning.OfAll (brokenPromises key value) := by
    intro key value
    unfold brokenPromises
    refine .ite .nil fun f hf => ?_
    obtain ⟨promise, -, hpromise⟩ := List.mem_filterMap.mp hf
    dsimp only at hpromise
    split at hpromise
    · cases hpromise
      rfl
    · cases hpromise
  apply IsConsistent.of_isEmpty rfl rfl
  · simp only [verdict, Verdict.ofFindings, OfAll.append]
    exact ⟨⟨.ite .nil (.issue _ _), .map (s := .issue) fun _ _ => rfl⟩, .filter⟩
  · simp only [verdict, Verdict.ofFindings, OfAll.append]
    exact ⟨⟨⟨.ite .nil (.warning _ _), .filter⟩, .ite (hunused _ _) .nil⟩,
      .flatMap fun _ _ => hbroken _ _⟩

theorem Auth.verdict_isConsistent (reports : List FileReport) :
    (verdict reports).IsConsistent := by
  apply IsConsistent.of_isEmpty rfl rfl
  · refine .flatMap fun r _ => OfAll.append.mpr ⟨?_, .filter⟩
    exact .map (s := .issue) fun _ _ => rfl
  · exact .flatMap fun _ _ => .filter

theorem Api.verdict_isConsistent (routes : List Route) : (verdict routes).IsConsistent := by
  apply IsConsistent.of_isEmpty rfl rfl
  · exact .ite .nil (.issue _ _)
  · refine .flatMap fun path _ => OfAll.append.mpr ⟨.toList fun f hf => ?_, .toList fun f hf => ?_⟩
    · unfold creationWarning? at hf
      dsimp only at hf
      split at hf
      · cases hf
        rfl
      · cases hf
    · unfold updateWarning? at hf
      split at hf
      · cases hf
      · obtain ⟨method, -, rfl⟩ := Option.map_eq_some_iff.mp hf
        rfl

theorem Layout.verdict_isConsistent (f : Facts) : (verdict f).IsConsistent := by
  have hissue : Severity.issue.OfAll (manifestIssue? f.manifest).toList := by
    cases f.manifest with
    | missing => exact .issue _ _
    | malformed => exact .nil
    | object fields => exact .nil
  have hmanifest : Severity.warning.OfAll (manifestWarnings f.manifest) := by
    cases f.manifest with
    | missing => exact .nil
    | malformed => exact .warning _ _
    | object fields =>
      exact OfAll.append.mpr ⟨.ite .nil (.warning _ _), .ite (.warning _ _) .nil⟩
  apply IsConsistent.of_isEmpty rfl rfl
  · simp only [verdict, Verdict.ofFindings, OfAll.append]
    exact ⟨⟨⟨.ite .nil (.issue _ _), .ite .nil (.issue _ _)⟩, .ite .nil (.issue _ _)⟩, hissue⟩
  · simp only [verdict, Verdict.ofFindings, OfAll.append]
    refine ⟨⟨.toList fun finding hfinding => ?_, .ite .nil (.warning _ _)⟩, hmanifest⟩
    obtain ⟨readme, -, hreadme⟩ := Option.bind_eq_some_iff.mp hfinding
    dsimp only [readmeWarning?] at hreadme
    split at hreadme
    · cases hreadme
      rfl
    split at hreadme
    · cases hreadme
      rfl
    · cases hreadme

theorem Security.verdict_isConsistent (features : List Features) (dangers : List Dangers)
    (declaresHelmet : Bool) : (verdict features dangers declaresHelmet).IsConsistent := by
  apply IsConsistent.of_isEmpty rfl rfl
  · simp only [verdict, Verdict.ofFindings, OfAll.append]
    exact ⟨⟨.map (s := .issue) fun _ _ => rfl, .ite .nil (.issue _ _)⟩,
      .map (s := .issue) fun _ _ => rfl⟩
  · simp only [verdict, Verdict.ofFindings, OfAll.append]
    exact ⟨⟨⟨.ite .nil (.warning _ _), .ite .nil (.warning _ _)⟩, .ite .nil (.warning _ _)⟩,
      .map (s := .warning) fun _ _ => rfl⟩

theorem Dependencies.verdict_isConsistent {m : Manifest} {hasLock : Bool} {v : Verdict}
    (h : verdict m hasLock = .ok v) : v.IsConsistent := by
  obtain ⟨outdated, houtdated, h⟩ := bind_eq_ok.mp h
  cases h
  apply IsConsistent.of_isEmpty rfl rfl .nil
  simp only [Verdict.ofFindings, OfAll.append]
  refine ⟨⟨⟨⟨⟨.ite .nil (.warning _ _), .ite .nil (.warning _ _)⟩, .ite .nil (.warning _ _)⟩, ?_⟩,
    .ite (.warning _ _) .nil⟩, .ite (.warning _ _) .nil⟩
  intro f hf
  obtain ⟨finding?, hfinding, rfl⟩ := List.mem_filterMap.mp hf
  obtain ⟨⟨package, minimum⟩, -, hwarning⟩ := (mem_of_mapM houtdated _).mp hfinding
  change outdatedWarning? m package minimum = .ok (some f) at hwarning
  unfold outdatedWarning? at hwarning
  cases hrange : m.range? package with
  | none =>
    rw [hrange] at hwarning
    cases hwarning
  | some range =>
    rw [hrange] at hwarning
    obtain ⟨declared, -, hwarning⟩ := bind_eq_ok.mp hwarning
    obtain ⟨release, -, hrelease⟩ := Option.bind_eq_some_iff.mp (Except.ok.inj hwarning)
    split at hrelease
    · cases hrelease
      rfl
    · cases hrelease

theorem Database.verdict_isConsistent (f : Facts) : (verdict f).IsConsistent := by
  apply IsConsistent.of_isEmpty rfl rfl
  · exact .ite (.issue _ _) .nil
  · simp only [verdict, Verdict.ofFindings, OfAll.append]
    exact ⟨⟨.ite (.warning _ _) .nil, .ite (.warning _ _) .nil⟩, .ite (.warning _ _) .nil⟩

/-! ## All checks -/

namespace Module

/-- The result has the name of the check and is consistent. -/
def Names (m : Module) (v : Verdict) : Prop := v.name = m.name ∧ v.IsConsistent

/-- **Whatever a check is told about a project, its result is consistent.** -/
theorem scan_names (m : Module) (p : Project) : (m.scan p).Every m.Names := by
  -- Check by check; inside a check the cases are its ways out, each with a result of its own.
  cases m with
  | env =>
    refine Scan.every_bind_of_forall fun actual => Scan.every_bind_of_forall fun expected => ?_
    exact ⟨rfl, Environment.verdict_isConsistent actual expected⟩
  | auth =>
    refine Scan.every_bind_of_forall fun files => ?_
    cases files with
    | nil => exact ⟨rfl, .of_isEmpty rfl rfl (.issue _ _) .nil⟩
    | cons file rest =>
      refine Scan.every_bind_of_forall fun reports => ?_
      exact ⟨rfl, Auth.verdict_isConsistent reports⟩
  | api =>
    refine Scan.every_bind_of_forall fun files => ?_
    cases files with
    | nil => exact ⟨rfl, .of_isEmpty rfl rfl (.issue _ _) .nil⟩
    | cons file rest =>
      refine Scan.every_bind_of_forall fun found => ?_
      exact ⟨rfl, Api.verdict_isConsistent found.flatten⟩
  | project =>
    refine Scan.every_bind_of_forall fun hasExample => Scan.every_bind_of_forall fun readme =>
      Scan.every_bind_of_forall fun hasFolders => Scan.every_bind_of_forall fun handlesErrors =>
        Scan.every_bind_of_forall fun manifest => ?_
    exact ⟨rfl, Layout.verdict_isConsistent _⟩
  | security =>
    refine Scan.every_bind_of_forall fun files => Scan.every_bind_of_forall fun features =>
      Scan.every_bind_of_forall fun manifest => Scan.every_bind_of_forall fun dangers => ?_
    exact ⟨rfl, Security.verdict_isConsistent features dangers _⟩
  | dependencies =>
    refine Scan.every_bind_of_forall fun manifest => ?_
    cases manifest with
    | missing => exact ⟨rfl, .of_isEmpty rfl rfl (.issue _ _) .nil⟩
    | malformed => exact ⟨rfl, .of_isEmpty rfl rfl (.issue _ _) .nil⟩
    | object fields =>
      refine Scan.every_bind_of_forall fun hasLock => Scan.every_ofExcept.mpr fun v hv => ?_
      refine ⟨?_, Dependencies.verdict_isConsistent hv⟩
      obtain ⟨outdated, -, hv⟩ := bind_eq_ok.mp hv
      cases hv
      rfl
  | database =>
    refine Scan.every_bind_of_forall fun env => Scan.every_bind_of_forall fun manifest => ?_
    dsimp only
    split
    · exact ⟨rfl, by simp [Database.notNeeded], .nil, .nil, fun _ => ⟨rfl, rfl⟩⟩
    · refine Scan.every_bind_of_forall fun files => Scan.every_bind_of_forall fun sources =>
        Scan.every_bind_of_forall fun all => ?_
      exact ⟨rfl, Database.verdict_isConsistent _⟩

/-- **The result of a check is consistent and has its name**, also where the check was stopped. -/
theorem runFresh_names (m : Module) (p : Project) : m.Names (m.runFresh p) := by
  obtain heval | ⟨failure, -, hstopped⟩ := m.runFresh_cases p
  · exact (m.scan_names p).of_eval heval
  · rw [hstopped]
    exact ⟨rfl, .stopped m.name failure.label⟩

end Module

end Check

end Preflight
