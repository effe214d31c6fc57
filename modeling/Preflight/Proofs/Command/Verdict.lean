import Preflight.Proofs.Command.Exit

/-!
# Printed verdicts and exit codes

What a check or a report shows agrees with what it found and with how it ends
(`printed_verdicts_agree`): sections, rows, totals, the final verdict, the word of the written
report and the exit code all say the same of every project and every configuration. A run without a
root shows nothing of the kind.

One run says READY TO SHIP and does not end with zero: a report that is to be saved where no file
can be written (`ready_report_is_not_saved`).
-/

set_option autoImplicit false

namespace Preflight.Command

open Console

variable (host : Host) (config : Config)

/-- A check is shown: it ends with zero exactly if its section speaks for the project. -/
def ShowsCheck (m : Check.Module) (run : Outcome) : Prop :=
  ∃ report entries code, validate host config (some [m.name]) = .ok report ∧
    List.Forall₂ (fun e result => Entry.Shows e result.1 result.2) entries report.results ∧
    run.output = String.join (entries.map Entry.body) ∧ run.exit = .ok code ∧
    (code = 0 ↔ ∀ e ∈ entries, ¬ e.EndsNotReady) ∧
    (code = 0 ↔ (Record.ofReport report).at? "verdict" = some (.string "READY"))

/-- A report is shown: it ends with zero exactly if its final verdict speaks for the project, unless
it is to be saved and cannot be. -/
def ShowsReport (save : Bool) (run : Outcome) : Prop :=
  ∃ (report : Report) (sheet : Sheet) (more : String),
    validate host config = .ok report ∧ sheet.Shows report ∧
    run.output = reportHeading ++ sheet.text ++ more ∧
    ((∃ code, run.exit = .ok code ∧ (code = 0 ↔ sheet.SaysReady)) ∨
      save = true ∧ ¬ Saves host.disk report ∧ ∃ failure, run.exit = .error failure)

variable {host config}

theorem exitCode_eq_zero_iff (isReady : Bool) : exitCode isReady = 0 ↔ isReady = true := by
  cases isReady <;> decide

theorem runCheck_shows (m : Check.Module) {report : Report}
    (h : validate host config (some [m.name]) = .ok report) :
    ShowsCheck host config m (runCheck host config m) := by
  obtain ⟨entries, hentries⟩ := exists_entries (Report.isNamed_of_validate h)
  have hsections : report.verdicts.mapM printSection = .ok (entries.map Entry.body) := by
    rw [Report.verdicts, List.mapM_map]
    exact mapM_of_entries hentries fun e result he => he.body_eq
  have hrun : runCheck host config m =
      .saying host.disk (exitCode report.isReady) (String.join (entries.map Entry.body)) := by
    rw [runCheck, h, ok_bind, hsections]
    rfl
  rw [hrun]
  refine ⟨report, entries, exitCode report.isReady, h, hentries, rfl, rfl, ?_, ?_⟩
  · rw [exitCode_eq_zero_iff]
    exact all_countsAsPassed_iff hentries
  · rw [exitCode_eq_zero_iff, report.at?_verdict_eq_iff, report.word_eq_ready_iff]

theorem runReport_shows (save verbose : Bool) {report : Report}
    (h : validate host config = .ok report) :
    ShowsReport host config save (runReport host config save verbose) := by
  obtain ⟨sheet, hsheet, hshows⟩ := printReport_shows (Report.isNamed_of_validate h) verbose
  have hcode : exitCode report.isReady = 0 ↔ sheet.SaysReady := by
    rw [exitCode_eq_zero_iff, hshows.word_iff, report.at?_verdict_eq_iff, report.word_eq_ready_iff]
  have hshown : ∃ more, (runReport host config save verbose).output =
      reportHeading ++ sheet.text ++ more := by
    simp only [runReport, h, ok_bind, hsheet, pure, Except.pure]
    split
    · split
      · exact ⟨"", String.append_empty.symm⟩
      · exact ⟨_, rfl⟩
    · exact ⟨"", String.append_empty.symm⟩
  obtain ⟨more, hmore⟩ := hshown
  refine ⟨report, sheet, more, h, hshows, hmore, ?_⟩
  rw [runReport_exit, h, ok_bind]
  cases save with
  | false => exact .inl ⟨_, rfl, hcode⟩
  | true =>
    rw [if_pos rfl]
    cases hsaved : saveReport host.disk report with
    | ok saved => exact .inl ⟨_, rfl, hcode⟩
    | error failure =>
      have hrefused : ¬ Saves host.disk report := by
        rw [← saveReport_isOk_iff, hsaved]
        rintro ⟨_, ⟨⟩⟩
      exact .inr ⟨rfl, hrefused, failure, rfl⟩

/-- **Printed verdicts agree with what was found and with the exit code.** Whatever stands at the
root, whichever checks are left out and whatever the limits: unless there is no root, a check is
shown as its section and a report as its sheet. In them a section ends with words for the project
exactly if its result counts as passed and with words against it otherwise; its row says FAIL
exactly in the second case; the totals are the sums of the columns; and the final verdict, the word
of the written report and the exit code speak for the project exactly if no section speaks against
it. Only a report that is to be saved and cannot be ends without an exit code after it was shown. -/
theorem printed_verdicts_agree (host : Host) (config : Config) :
    (∃ failure, config.root host = .error failure ∧
      (∀ m, (runCheck host config m).exit = .error failure) ∧
      ∀ save verbose, (runReport host config save verbose).exit = .error failure) ∨
    (∀ m, ShowsCheck host config m (runCheck host config m)) ∧
      ∀ save verbose, ShowsReport host config save (runReport host config save verbose) := by
  cases hroot : config.root host with
  | error failure =>
    refine .inl ⟨failure, rfl, fun m => ?_, fun save verbose => ?_⟩
    · rw [runCheck_exit, validate_of_root_error hroot]
      rfl
    · rw [runReport_exit, validate_of_root_error hroot, error_bind]
  | ok root =>
    refine .inr ⟨fun m => ?_, fun save verbose => ?_⟩
    · obtain ⟨report, hreport⟩ := validate_isOk hroot (some [m.name])
      exact runCheck_shows m hreport
    · obtain ⟨report, hreport⟩ := validate_isOk hroot none
      exact runReport_shows save verbose hreport

/-- A host with a project in which a directory has the name of the report file. -/
def blockedHost : Host where
  disk := ⟨[(["p"], .directory), (["p", ".env"], .file (Text.Utf8.encode "A=b") 1),
    (["p", ".env.example"], .file (Text.Utf8.encode "A=b") 1), (["p", reportFile], .directory)]⟩
  here := ⟨.top, ["p"]⟩
  now := { year := 2024, month := 1, day := 1 }

/-- The environment of the project is checked, and nothing else. -/
def blockedConfig : Config where
  path := ⟨.here, []⟩
  skip := ["auth", "api", "project", "security", "dependencies", "database"]

/-- A report that is ready is stopped when it is to be saved where a directory stands: it was shown,
with a final verdict for the project, and there is no exit code. -/
theorem ready_report_is_not_saved :
    (∃ (sheet : Sheet) (more : String), sheet.SaysReady ∧
      (runReport blockedHost blockedConfig true false).output =
        reportHeading ++ sheet.text ++ more) ∧
      (runReport blockedHost blockedConfig true false).exit = .error .isDirectory ∧
      (runReport blockedHost blockedConfig false false).exit = .ok 0 := by
  have hroot : blockedConfig.root blockedHost = .ok ⟨.top, ["p"]⟩ := by decide +kernel
  obtain ⟨report, hreport⟩ := validate_isOk hroot none
  have hready : report.isReady = true :=
    holds_of_map_validate Report.isReady hreport (by decide +kernel)
  have hshort : report.IsShort :=
    of_decide_eq_true (holds_of_map_validate (decide ·.IsShort) hreport (by decide +kernel))
  have hplace : blockedHost.disk.locate (Path.ofString (Path.text ⟨.top, ["p"]⟩) / reportFile) =
      .ok ⟨["p", reportFile], some .directory⟩ := by decide +kernel
  refine ⟨?_, ?_, ?_⟩
  · obtain ⟨_, sheet, more, hreport', hshows, hmore, -⟩ := runReport_shows true false hreport
    cases hreport.symm.trans hreport'
    have hsays : sheet.SaysReady := by
      rw [hshows.word_iff, report.at?_verdict_eq_iff, report.word_eq_ready_iff, hready]
    exact ⟨sheet, more, hsays, hmore⟩
  · rw [runReport_exit, hreport, ok_bind, if_pos rfl, saveReport, Record.reportText_eq_ok hshort,
      ok_bind, Check.path_of_validate hroot hreport, Disk.writeText, Disk.write, hplace]
    rfl
  · rw [runReport_exit, hreport, ok_bind, hready]
    rfl

end Preflight.Command
