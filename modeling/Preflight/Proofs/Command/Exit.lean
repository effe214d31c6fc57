import Preflight.Command.Run
import Preflight.Proofs.Check.Irrelevance
import Preflight.Proofs.Console.Verdict
import Preflight.Proofs.Fix.Frame
import Preflight.Proofs.Fix.Safety
import Preflight.Proofs.Record.Export

/-!
# Exit codes

A command that is well formed and whose path leads to no file ends with an exit code unless it is
stopped (`exits_unless_stopped`): a check and a report end with zero exactly if the run has no issues
and with one otherwise, and a fix ends with zero. `Stops` names all that stops a command: a path with
a zero character or one that has no real path, a report that is to be saved and cannot be (`Saves`),
and a file that is to be created where its path leads to no place. The checks themselves stop no
command, and neither does showing what they found.

The last two happen to every project whose root is missing (`missing_root_stops_saving`), although a
report that is not saved and a fix that is previewed end with their codes there.
-/

set_option autoImplicit false

namespace Preflight

/-- A text can be written to the path: it leads to a place at which no directory stands. -/
def Disk.TakesFile (disk : Disk) (path : Path) : Prop :=
  ∃ found, disk.locate path = .ok found ∧ found.node? ≠ some .directory

theorem Disk.writeText_isOk_iff {disk : Disk} {path : Path} {text : String} :
    (∃ disk', disk.writeText path text = .ok disk') ↔ disk.TakesFile path := by
  unfold writeText write TakesFile
  constructor
  · rintro ⟨disk', h⟩
    split at h
    · cases h
    · cases h
    · rename_i place node? hnode hlocated
      exact ⟨_, hlocated, fun heq => hnode heq⟩
  · rintro ⟨⟨place, node?⟩, hlocated, hnode⟩
    rw [hlocated]
    split
    · rename_i heq
      cases heq
    · rename_i heq
      cases heq
      exact absurd rfl hnode
    · exact ⟨_, rfl⟩

namespace Command

open Console

/-! ## What stops a command -/

/-- The configuration for a verb. -/
def Verb.config (path : String) (a : Arguments) : Verb → Config
  | .report => ⟨.ofString path, Skip.ofText (a.valueOr .skip ""), {}⟩
  | _ => ⟨.ofString path, [], {}⟩

/-- The names of the checks that a verb runs, where it does not run all of them. -/
def Verb.only : Verb → Option (List String)
  | .check m => some [m.name]
  | .report => none
  | .fix => some (fixable.map Check.Module.name)

/-- The exit code of a verb that comes to a report. -/
def Verb.code (r : Report) : Verb → Nat
  | .fix => 0
  | _ => if r.issueCount = 0 then 0 else 1

/-- The report can be saved: its numbers are not too long, and its file can be written. -/
def Saves (disk : Disk) (r : Report) : Prop :=
  r.IsShort ∧ disk.TakesFile (Path.ofString r.path / reportFile)

/-- What stops a verb at a path. -/
inductive Stops (host : Host) (path : String) (a : Arguments) : Verb → Prop
  /-- Nothing can be asked about the path. -/
  | unreadable {verb : Verb} {failure : Failure} (h : namesFile host path = .error failure) :
      Stops host path a verb
  /-- The path has no real path. -/
  | lost {verb : Verb} {failure : Failure}
      (h : (verb.config path a).root host = .error failure) : Stops host path a verb
  /-- The report is to be saved, and cannot be. -/
  | unsaved {report : Report} (hsave : a.has .json = true)
      (hreport : validate host (Verb.report.config path a) = .ok report)
      (h : ¬ Saves host.disk report) : Stops host path a .report
  /-- The fixes are to be applied, and the file of one of them has no place. -/
  | unapplied {root : Path} {actions : List Action} {action : Action} {t : Template}
      {failure : Failure} (happly : a.has .apply = true)
      (hactions : fixActions host (Verb.fix.config path a) = .ok (root, actions))
      (hmem : action ∈ actions) (hremedy : action.remedy = .create t)
      (h : host.disk.locate (root / t.file) = .error failure) : Stops host path a .fix

/-- How a run ends: with a failure if something stops it, and otherwise with the code of its
report. -/
def EndsAs (host : Host) (path : String) (a : Arguments) (verb : Verb)
    (exit : Except Failure Nat) : Prop :=
  (∃ failure, exit = .error failure) ∧ Stops host path a verb ∨
    ¬ Stops host path a verb ∧ ∃ report,
      validate host (verb.config path a) verb.only = .ok report ∧ exit = .ok (verb.code report)

/-! ## What is shown -/

theorem printOutcome_isOk (o : FixOutcome) : ∃ shown, printOutcome o = .ok shown := by
  unfold printOutcome
  cases o.status with
  | created => exact prints_success _
  | skipped => exact prints_warning _
  | wouldCreate => exact prints_info _
  | suggestion => exact ⟨_, rfl⟩

theorem printResponse_isOk (r : FixResponse) : ∃ shown, printResponse r = .ok shown := by
  obtain ⟨outcomes, houtcomes⟩ := mapM_isOk.mpr fun o (_ : o ∈ r.outcomes) => printOutcome_isOk o
  obtain ⟨closing, hclosing⟩ : ∃ closing, printAll (info r.summary ::
      if r.isPreview then [info "Run with --apply to write files."] else []) = .ok closing := by
    refine printAll_isOk (List.forall_mem_cons.mpr ⟨prints_info _, ?_⟩)
    split
    · exact List.forall_mem_singleton.mpr (prints_info _)
    · exact List.forall_mem_nil _
  exact ⟨_, by rw [printResponse, houtcomes, ok_bind, hclosing]; rfl⟩

/-- A report is saved exactly if it can be. -/
theorem saveReport_isOk_iff {disk : Disk} {r : Report} :
    (∃ saved, saveReport disk r = .ok saved) ↔ Saves disk r := by
  by_cases hshort : r.IsShort
  · have htext := Record.reportText_eq_ok hshort
    generalize String.ofList _ = text at htext
    rw [Saves, and_iff_right hshort, ← @Disk.writeText_isOk_iff _ _ text, saveReport, htext,
      ok_bind]
    constructor
    · rintro ⟨saved, hsaved⟩
      obtain ⟨written, hwritten, -⟩ := bind_eq_ok.mp hsaved
      exact ⟨written, hwritten⟩
    · rintro ⟨written, hwritten⟩
      obtain ⟨message, hmessage⟩ := prints_success ("JSON report saved to: " ++
        (Path.ofString r.path / reportFile).text)
      exact ⟨(written, message), by rw [hwritten, ok_bind, hmessage]; rfl⟩
  · refine iff_of_false ?_ fun h => hshort h.1
    rintro ⟨saved, hsaved⟩
    rw [saveReport, Record.reportText_eq_error hshort] at hsaved
    cases hsaved

/-! ## Exit codes -/

variable {host : Host} {config : Config}

/-- A check ends with the code of its report. -/
theorem runCheck_exit (m : Check.Module) : (runCheck host config m).exit =
    (validate host config (some [m.name])).map fun report => exitCode report.isReady := by
  unfold runCheck
  cases hreport : validate host config (some [m.name]) with
  | error failure => rfl
  | ok report =>
    obtain ⟨sections, hsections⟩ := printSections_isOk (Report.isNamed_of_validate hreport)
    rw [ok_bind, hsections]
    rfl

/-- A report ends with its code, after it was saved if it is to be saved. -/
theorem runReport_exit (save verbose : Bool) : (runReport host config save verbose).exit =
    validate host config >>= fun report =>
      if save then (saveReport host.disk report).map fun _ => exitCode report.isReady
      else .ok (exitCode report.isReady) := by
  unfold runReport
  cases hreport : validate host config with
  | error failure => rfl
  | ok report =>
    obtain ⟨shown, hshown⟩ := printReport_isOk (Report.isNamed_of_validate hreport) verbose
    simp only [ok_bind, hshown, pure, Except.pure]
    cases save with
    | false => rfl
    | true =>
      rw [if_pos rfl, if_pos rfl]
      cases saveReport host.disk report <;> rfl

/-- A fix ends with zero, after the actions were applied if they are to be applied. -/
theorem runFix_exit (apply : Bool) : (runFix host config apply).exit =
    fixActions host config >>= fun (root, actions) =>
      if apply then (Action.applyAll host.disk root actions).1.map fun _ => 0 else .ok 0 := by
  unfold runFix
  cases fixActions host config with
  | error failure => rfl
  | ok found =>
    obtain ⟨root, actions⟩ := found
    rw [ok_bind]
    cases actions with
    | nil =>
      obtain ⟨shown, hshown⟩ := prints_success "No auto-fixable issues found!"
      dsimp only
      rw [hshown]
      cases apply <;> rfl
    | cons action rest =>
      dsimp only
      cases apply with
      | false =>
        obtain ⟨shown, hshown⟩ := printResponse_isOk (Action.previewAll root (action :: rest))
        rw [if_neg Bool.false_ne_true, ok_bind, hshown]
        rfl
      | true =>
        rw [if_pos rfl]
        cases Action.applyAll host.disk root (action :: rest) with
        | mk answer disk =>
        cases answer with
        | error failure => rfl
        | ok response =>
          obtain ⟨shown, hshown⟩ := printResponse_isOk response
          dsimp only
          rw [ok_bind, hshown]
          rfl

/-! ## Verb by verb -/

variable {path : String} {a : Arguments}

theorem validate_of_root_error {failure : Failure} (h : config.root host = .error failure)
    (only : Option (List String)) : validate host config only = .error failure := by
  rw [validate, h]
  rfl

/-- What can be asked of the report of a run holds if it is so of the run. -/
theorem holds_of_map_validate (ask : Report → Bool) {only : Option (List String)} {report : Report}
    (h : validate host config only = .ok report)
    (hmap : (validate host config only).map ask = .ok true) : ask report = true := by
  rw [h] at hmap
  exact Except.ok.inj hmap

/-- The code for a report says whether it has issues. -/
theorem exitCode_isReady {only : Option (List String)} {report : Report}
    (h : validate host config only = .ok report) :
    exitCode report.isReady = if report.issueCount = 0 then 0 else 1 := by
  have hready := (Report.isConsistent_of_validate h).isReady_iff
  by_cases hnone : report.issueCount = 0
  · rw [if_pos hnone, hready.mpr hnone]
    rfl
  · rw [if_neg hnone, Bool.not_eq_true _ |>.mp fun heq => hnone (hready.mp heq)]
    rfl

/-! ### What still stops a verb whose root is found -/

section Found

variable {root : Path} (hreadable : namesFile host path = .ok false)
include hreadable

theorem not_stops_check {m : Check.Module}
    (hroot : ((Verb.check m).config path a).root host = .ok root) :
    ¬ Stops host path a (.check m) := by
  rintro (⟨hunread⟩ | ⟨hlost⟩)
  · cases hreadable.symm.trans hunread
  · cases hroot.symm.trans hlost

theorem stops_report_iff {report : Report}
    (hroot : (Verb.report.config path a).root host = .ok root)
    (hreport : validate host (Verb.report.config path a) = .ok report) :
    Stops host path a .report ↔ a.has .json = true ∧ ¬ Saves host.disk report := by
  constructor
  · rintro (⟨hunread⟩ | ⟨hlost⟩ | ⟨hsave, hother, hrefused⟩)
    · cases hreadable.symm.trans hunread
    · cases hroot.symm.trans hlost
    · cases hreport.symm.trans hother
      exact ⟨hsave, hrefused⟩
  · rintro ⟨hsave, hrefused⟩
    exact .unsaved hsave hreport hrefused

theorem stops_fix_iff {actions : List Action}
    (hroot : (Verb.fix.config path a).root host = .ok root)
    (hactions : fixActions host (Verb.fix.config path a) = .ok (root, actions)) :
    Stops host path a .fix ↔ a.has .apply = true ∧
      ∃ failure, (Action.applyAll host.disk root actions).1 = .error failure := by
  constructor
  · rintro (⟨hunread⟩ | ⟨hlost⟩ | - | ⟨happly, hother, hmem, hremedy, hnowhere⟩)
    · cases hreadable.symm.trans hunread
    · cases hroot.symm.trans hlost
    · cases hactions.symm.trans hother
      exact ⟨happly, Action.applyAll_error_iff.mpr ⟨_, hmem, _, hremedy, _, hnowhere⟩⟩
  · rintro ⟨happly, hfailed⟩
    obtain ⟨action, hmem, t, hremedy, failure, hnowhere⟩ := Action.applyAll_error_iff.mp hfailed
    exact .unapplied happly hactions hmem hremedy hnowhere

theorem runCheck_endsAs {m : Check.Module}
    (hroot : ((Verb.check m).config path a).root host = .ok root) :
    EndsAs host path a (.check m) (runCheck host ((Verb.check m).config path a) m).exit := by
  obtain ⟨report, hreport⟩ := validate_isOk hroot (some [m.name])
  refine .inr ⟨not_stops_check hreadable hroot, report, hreport, ?_⟩
  rw [runCheck_exit, hreport]
  exact congrArg Except.ok (exitCode_isReady hreport)

theorem runReport_endsAs (hroot : (Verb.report.config path a).root host = .ok root) :
    EndsAs host path a .report
      (runReport host (Verb.report.config path a) (a.has .json) (a.has .verbose)).exit := by
  obtain ⟨report, hreport⟩ := validate_isOk hroot none
  -- The report is there and is shown; what can still fail is saving it.
  have hstops := stops_report_iff hreadable hroot hreport
  rw [runReport_exit, hreport, ok_bind, exitCode_isReady hreport]
  cases hsave : a.has .json with
  | false =>
    refine .inr ⟨fun h => ?_, report, hreport, rfl⟩
    cases hsave.symm.trans (hstops.mp h).1
  | true =>
    rw [hsave, ← saveReport_isOk_iff] at hstops
    cases hsaved : saveReport host.disk report with
    | error failure =>
      rw [hsaved] at hstops
      exact .inl ⟨⟨failure, rfl⟩, hstops.mpr ⟨rfl, fun ⟨_, hok⟩ => nomatch hok⟩⟩
    | ok saved =>
      rw [hsaved] at hstops
      exact .inr ⟨fun h => (hstops.mp h).2 ⟨saved, rfl⟩, report, hreport, rfl⟩

theorem runFix_endsAs (hroot : (Verb.fix.config path a).root host = .ok root) :
    EndsAs host path a .fix (runFix host (Verb.fix.config path a) (a.has .apply)).exit := by
  obtain ⟨report, hreport⟩ := validate_isOk hroot (some (fixable.map Check.Module.name))
  obtain ⟨actions, hactions⟩ : ∃ actions,
      fixActions host (Verb.fix.config path a) = .ok (root, actions) := by
    rw [fixActions_eq, hroot]
    exact ⟨_, rfl⟩
  have hstops := stops_fix_iff hreadable hroot hactions
  rw [runFix_exit, hactions, ok_bind]
  dsimp only
  cases happly : a.has .apply with
  | false =>
    refine .inr ⟨fun h => ?_, report, hreport, rfl⟩
    cases happly.symm.trans (hstops.mp h).1
  | true =>
    rw [happly] at hstops
    cases happlied : (Action.applyAll host.disk root actions).1 with
    | error failure =>
      rw [happlied] at hstops
      exact .inl ⟨⟨failure, rfl⟩, hstops.mpr ⟨rfl, failure, rfl⟩⟩
    | ok response =>
      rw [happlied] at hstops
      refine .inr ⟨fun h => ?_, report, hreport, rfl⟩
      obtain ⟨-, failure, hfailed⟩ := hstops.mp h
      cases hfailed

end Found

/-- Without a root, every verb ends with the failure to find it. -/
theorem perform_of_root_error {verb : Verb} {failure : Failure}
    (h : (verb.config path a).root host = .error failure) :
    (verb.perform host path a).exit = .error failure := by
  cases verb with
  | check m =>
    show (runCheck host ((Verb.check m).config path a) m).exit = _
    rw [runCheck_exit, validate_of_root_error h]
    rfl
  | report =>
    show (runReport host (Verb.report.config path a) (a.has .json) (a.has .verbose)).exit = _
    rw [runReport_exit, validate_of_root_error h]
    rfl
  | fix =>
    show (runFix host (Verb.fix.config path a) (a.has .apply)).exit = _
    rw [runFix_exit, fixActions_eq, h]
    rfl

theorem perform_endsAs (verb : Verb) (hreadable : namesFile host path = .ok false) :
    EndsAs host path a verb (verb.perform host path a).exit := by
  cases hroot : (verb.config path a).root host with
  | error failure => exact .inl ⟨⟨failure, perform_of_root_error hroot⟩, .lost hroot⟩
  | ok root =>
    cases verb with
    | check m => exact runCheck_endsAs hreadable hroot
    | report => exact runReport_endsAs hreadable hroot
    | fix => exact runFix_endsAs hreadable hroot

/-! ## Commands -/

variable {arguments : List String} {verb : Verb}

theorem run_eq (horder : Order.ofArguments arguments = .ok (.perform verb a)) :
    run host arguments = performChecked host verb a := by
  rw [run, horder]
  rfl

/-- A well-formed command performs its verb at its path. -/
theorem performChecked_eq (hwords : a.words = [])
    (hreadable : namesFile host (a.valueOr .path ".") = .ok false) :
    performChecked host verb a = verb.perform host (a.valueOr .path ".") a := by
  unfold performChecked
  dsimp only
  rw [hreadable, hwords]
  rfl

/-- **A command that is well formed ends with an exit code unless it is stopped.** Its arguments name
a verb and hold no more words, and its path leads to no file. Then it is stopped by a failure exactly
if one of `Stops` is met. Otherwise its checks come to a report: a check and a report end with zero if
the report has no issues and with one if it has, and a fix ends with zero. -/
theorem exits_unless_stopped
    (horder : Order.ofArguments arguments = .ok (.perform verb a)) (hwords : a.words = [])
    (hfile : namesFile host (a.valueOr .path ".") ≠ .ok true) :
    let path := a.valueOr .path "."
    (∃ failure, (run host arguments).exit = .error failure) ∧ Stops host path a verb ∨
      ¬ Stops host path a verb ∧ ∃ report,
        validate host (verb.config path a) verb.only = .ok report ∧
          (run host arguments).exit = .ok (verb.code report) := by
  rw [run_eq horder]
  cases hreadable : namesFile host (a.valueOr .path ".") with
  | error failure =>
    refine .inl ⟨⟨failure, ?_⟩, .unreadable hreadable⟩
    unfold performChecked
    dsimp only
    rw [hreadable]
    rfl
  | ok isFile =>
    cases isFile with
    | true => exact absurd hreadable hfile
    | false =>
      rw [performChecked_eq hwords hreadable]
      exact perform_endsAs verb hreadable

/-- Where the root is missing, a report that is not saved is not stopped. -/
theorem missing_root_is_shown :
    let a : Arguments := ⟨[⟨.path, "missing"⟩], []⟩
    Order.ofArguments ["report", "-p", "missing"] = .ok (.perform .report a) ∧
      namesFile emptyHost "missing" = .ok false ∧ ∃ report,
        validate emptyHost (Verb.report.config "missing" a) = .ok report ∧
          (run emptyHost ["report", "-p", "missing"]).exit = .ok (Verb.report.code report) := by
  intro a
  have horder : Order.ofArguments ["report", "-p", "missing"] = .ok (.perform .report a) := by
    decide +kernel
  have hreadable : namesFile emptyHost "missing" = .ok false := by decide +kernel
  have hroot : (Verb.report.config "missing" a).root emptyHost = .ok ⟨.top, ["missing"]⟩ := by
    decide +kernel
  refine ⟨horder, hreadable, ?_⟩
  have hfile : namesFile emptyHost (a.valueOr .path ".") ≠ .ok true := by decide +kernel
  obtain ⟨report, hreport⟩ := validate_isOk hroot none
  obtain ⟨-, hstops⟩ | ⟨-, hcode⟩ := exits_unless_stopped horder rfl hfile
  · cases ((stops_report_iff hreadable hroot hreport).mp hstops).1
  · exact hcode

/-- **A missing root stops a report that is to be saved**: it is validated and shown as a project with
issues, and then its file cannot be written. -/
theorem missing_root_stops_saving :
    namesFile emptyHost "missing" = .ok false ∧
      (run emptyHost ["report", "--json", "-p", "missing"]).exit = .error .notFound := by
  let a : Arguments := ⟨[⟨.json, ""⟩, ⟨.path, "missing"⟩], []⟩
  have horder : Order.ofArguments ["report", "--json", "-p", "missing"] =
      .ok (.perform .report a) := by decide +kernel
  have hreadable : namesFile emptyHost (a.valueOr .path ".") = .ok false := by decide +kernel
  have hroot : (Verb.report.config "missing" a).root emptyHost = .ok ⟨.top, ["missing"]⟩ := by
    decide +kernel
  obtain ⟨report, hreport⟩ := validate_isOk hroot none
  refine ⟨by decide +kernel, ?_⟩
  have hplace : emptyHost.disk.locate (Path.ofString (Path.text ⟨.top, ["missing"]⟩) / reportFile) =
      .error .notFound := by decide +kernel
  have hshort : report.IsShort :=
    of_decide_eq_true (holds_of_map_validate (decide ·.IsShort) hreport (by decide +kernel))
  rw [run_eq horder, performChecked_eq rfl hreadable]
  show (runReport emptyHost (Verb.report.config "missing" a) true false).exit = _
  rw [runReport_exit, hreport, ok_bind, if_pos rfl, saveReport, Record.reportText_eq_ok hshort,
    ok_bind, Check.path_of_validate hroot hreport, Disk.writeText, Disk.write, hplace]
  rfl

end Command

end Preflight
