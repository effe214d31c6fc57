import Mathlib.Control.Monad.Basic
import Preflight.Proofs.Check.Consistency
import Preflight.Record.Report

/-!
# Consistent reports

The results of a validation are consistent, so what is counted and what is concluded agree
(`results_are_consistent`): a project is ready exactly without issues, the report that is written
says so exactly if it counts none, and everything found is counted once.

A validation comes to a report wherever its root is found; that nothing stands there does not matter.
-/

set_option autoImplicit false

namespace Preflight

/-- The value under a key, if the value is an object that has it. -/
def Json.Value.at? (key : String) : Value → Option Value
  | .object fields => field? key fields
  | _ => none

namespace Report

/-! ## Counts -/

@[simp] theorem total_nil : total [] = 0 := rfl

@[simp] theorem total_cons (n : Nat) (counts : List Nat) :
    total (n :: counts) = n + total counts := rfl

theorem total_eq_zero_iff {counts : List Nat} : total counts = 0 ↔ ∀ n ∈ counts, n = 0 := by
  induction counts with
  | nil => simp
  | cons n rest ih => simp [ih]

/-- There are no issues exactly if no result has any. -/
theorem issueCount_eq_zero_iff {r : Report} : r.issueCount = 0 ↔ ∀ v ∈ r.verdicts, v.issues = [] := by
  simp [issueCount, total_eq_zero_iff]

/-- Everything found is an issue or a warning, and counted once. -/
theorem length_findings (r : Report) : r.findings.length = r.issueCount + r.warningCount := by
  unfold findings issueCount warningCount
  induction r.verdicts with
  | nil => rfl
  | cons v rest ih =>
    simp only [List.flatMap_cons, List.length_append, ih, Verdict.findings, List.map_cons, total_cons]
    omega

/-! ## Conclusions -/

/-- Each result is consistent and stands under its name. -/
def IsConsistent (r : Report) : Prop :=
  ∀ entry ∈ r.results, entry.2.name = entry.1 ∧ entry.2.IsConsistent

theorem word_eq_ready_iff (r : Report) : r.word = "READY" ↔ r.isReady = true := by
  rw [word]
  cases r.isReady <;> decide

namespace IsConsistent

variable {r : Report}

theorem isReady_iff (h : r.IsConsistent) : r.isReady = true ↔ r.issueCount = 0 := by
  rw [issueCount_eq_zero_iff, isReady, List.all_eq_true]
  refine forall₂_congr fun v hv => ?_
  obtain ⟨entry, hentry, rfl⟩ := List.mem_map.mp hv
  exact (h entry hentry).2.countsAsPassed_iff

/-- The word for a project speaks for it exactly without issues. -/
theorem word_eq_iff (h : r.IsConsistent) : r.word = "READY" ↔ r.issueCount = 0 := by
  rw [← h.isReady_iff, r.word_eq_ready_iff]

end IsConsistent

/-! ## Written reports -/

/-- A report is written with a summary of each result under its name. -/
theorem at?_summary (r : Report) : (Record.ofReport r).at? "summary" = some (.object
    (r.results.map fun entry => (Json.Text.ofString entry.1, Record.summary entry.2))) := by
  change some (Json.Value.object ((r.results.map _).map _)) = _
  rw [List.map_map]
  rfl

theorem at?_verdict (r : Report) : (Record.ofReport r).at? "verdict" = some (.string r.word) := rfl

theorem at?_issues (v : Verdict) :
    (Record.summary v).at? "issues" = some (.nat v.issues.length) := rfl

/-- A report that is written speaks for the project exactly if its word does. -/
theorem at?_verdict_eq_iff (r : Report) :
    (Record.ofReport r).at? "verdict" = some (.string "READY") ↔ r.word = "READY" := by
  rw [at?_verdict]
  constructor
  · intro heq
    have htext := congrArg Json.Text.toString (Json.Value.text.inj (Option.some.inj heq))
    simpa only [Json.Text.toString_ofString] using htext
  · intro heq
    rw [heq]

/-- A report that is written speaks for the project exactly if its summary counts no issues. -/
theorem IsConsistent.at?_verdict_iff {r : Report} (h : r.IsConsistent) :
    (Record.ofReport r).at? "verdict" = some (.string "READY") ↔
      ∀ entry ∈ r.results, (Record.summary entry.2).at? "issues" = some (.nat 0) := by
  have hcount : ∀ v : Verdict,
      (Record.summary v).at? "issues" = some (.nat 0) ↔ v.issues = [] := by
    intro v
    rw [at?_issues, Option.some.injEq, Json.Value.nat, Json.Value.nat, Json.Value.int.injEq,
      Int.natCast_inj, List.length_eq_zero_iff]
  rw [r.at?_verdict_eq_iff, h.word_eq_iff, issueCount_eq_zero_iff]
  simp only [hcount, verdicts, List.forall_mem_map]

end Report

/-! ## Validations -/

/-- Each result is that of a check and stands under its name. -/
def Report.IsNamed (r : Report) : Prop :=
  ∀ entry ∈ r.results, ∃ m : Check.Module, entry.1 = m.name ∧ m.Names entry.2

theorem Report.isNamed_of_validate {host : Host} {config : Config} {only : Option (List String)}
    {report : Report} (h : validate host config only = .ok report) : report.IsNamed := by
  have hresults := validate_results host config only
  rw [h] at hresults
  obtain ⟨root, -, heq⟩ := map_eq_ok.mp hresults.symm
  intro entry hentry
  rw [← heq] at hentry
  obtain ⟨m, -, rfl⟩ := List.mem_map.mp hentry
  exact ⟨m, rfl, m.runFresh_names _⟩

theorem Report.isConsistent_of_validate {host : Host} {config : Config}
    {only : Option (List String)} {report : Report} (h : validate host config only = .ok report) :
    report.IsConsistent := by
  intro entry hentry
  obtain ⟨m, hname, hnames⟩ := isNamed_of_validate h entry hentry
  rw [hname]
  exact hnames

/-- A validation comes to a report if its root is found. -/
theorem validate_isOk {host : Host} {config : Config} {root : Path}
    (hroot : config.root host = .ok root) (only : Option (List String)) :
    ∃ report, validate host config only = .ok report := by
  rw [validate, hroot]
  exact ⟨_, rfl⟩

/-- **The results of a validation are consistent.** Whatever stands at the root and whichever checks
are chosen: each result has the name under which it stands, passes exactly without issues, holds
issues and warnings in their lists, and is empty if its check did not apply. So the project is ready
exactly without issues, the written report says so exactly if the counts in its summary say so, and
everything found is counted once. -/
theorem results_are_consistent {host : Host} {config : Config} {root : Path}
    (hroot : config.root host = .ok root) (only : Option (List String)) :
    ∃ report, validate host config only = .ok report ∧
      (∀ entry ∈ report.results, entry.2.name = entry.1 ∧ entry.2.IsConsistent) ∧
      (report.isReady = true ↔ report.issueCount = 0) ∧
      (∃ summaries, (Record.ofReport report).at? "summary" = some (.object summaries) ∧
        summaries.map (·.1) = report.results.map (fun entry => Json.Text.ofString entry.1) ∧
        ((Record.ofReport report).at? "verdict" = some (.string "READY") ↔
          ∀ entry ∈ summaries, entry.2.at? "issues" = some (.nat 0))) ∧
      report.findings.length = report.issueCount + report.warningCount := by
  obtain ⟨report, hreport⟩ := validate_isOk hroot only
  have hconsistent := Report.isConsistent_of_validate hreport
  refine ⟨report, hreport, hconsistent, hconsistent.isReady_iff,
    ⟨_, report.at?_summary, ?_, ?_⟩, report.length_findings⟩
  · rw [List.map_map]
    rfl
  · rw [hconsistent.at?_verdict_iff]
    simp only [List.forall_mem_map]

/-- A host on which nothing stands. -/
def emptyHost : Host where
  disk := .empty
  here := ⟨.top, []⟩
  now := { year := 2024, month := 1, day := 1 }

/-- The results for a project whose root is missing are consistent. -/
theorem missing_root_is_reported :
    let config : Config := { path := ⟨.here, ["missing"]⟩, skip := ["auth"] }
    config.root emptyHost = .ok ⟨.top, ["missing"]⟩ ∧
      emptyHost.disk.pathExists ⟨.top, ["missing"]⟩ = .ok false ∧
      ∃ report, validate emptyHost config none = .ok report ∧ report.IsConsistent ∧
        (report.isReady = true ↔ report.issueCount = 0) := by
  intro config
  have hroot : config.root emptyHost = .ok ⟨.top, ["missing"]⟩ := by decide +kernel
  obtain ⟨report, hreport, hconsistent, hready, -⟩ := results_are_consistent hroot none
  exact ⟨hroot, by decide +kernel, report, hreport, hconsistent, hready⟩

end Preflight
