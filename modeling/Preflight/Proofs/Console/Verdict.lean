import Mathlib.Data.List.Forall2
import Preflight.Proofs.Console.Line
import Preflight.Proofs.Console.Report

/-!
# What is concluded in print

A report is shown as a `Sheet`: for each result an `Entry`, which is its section and its row of the
summary, then the totals, and the final verdict. `Sheet.Shows` says how they agree with the report
and with each other, and `printReport_shows` that what is printed for a report is the text of such a
sheet. What was concluded is read off the last line of a section.
-/

set_option autoImplicit false

namespace Preflight.Console

/-! ## Entries -/

/-- What is shown of a result: its section, and the cells of its row. -/
structure Entry where
  name : String
  /-- The section, as it was shown. -/
  body : String
  status : String
  issues : Nat
  warnings : Nat

namespace Entry

/-- The cells of the row. -/
def cells (e : Entry) : List (List Char) :=
  [e.name.toList, e.status.toList, (toString e.issues).toList, (toString e.warnings).toList]

/-- The section ends with words that speak for the project. -/
def EndsReady (e : Entry) : Prop :=
  lastLine e.body ∈ [e.name ++ ": READY", e.name ++ ": READY (with warnings)",
    e.name ++ ": SKIPPED (No database detected)"]

/-- The section ends with words that speak against the project. -/
def EndsNotReady (e : Entry) : Prop :=
  lastLine e.body ∈ [e.name ++ ": NOT READY", e.name ++ ": NOT READY (No routes found)"]

/-- The entry is that of the result, and its parts agree. -/
structure Shows (e : Entry) (name : String) (v : Verdict) : Prop where
  body_eq : printSection v = .ok e.body
  cells_eq : summaryRow name v = .ok e.cells
  issues_eq : e.issues = v.issues.length
  warnings_eq : e.warnings = v.warnings.length
  ready_iff : e.EndsReady ↔ v.countsAsPassed = true
  notReady_iff : e.EndsNotReady ↔ v.countsAsPassed = false
  fail_iff : e.status = "FAIL" ↔ e.EndsNotReady

end Entry

/-! ### Endings -/

/-- The section of a consistent result ends ready exactly if the result counts as passed. -/
theorem Ending.isReady_of {v : Verdict} (h : v.IsConsistent) :
    (Ending.of v).isReady = v.countsAsPassed := by
  unfold Ending.of
  split
  · rename_i hskipped
    rw [Verdict.countsAsPassed, hskipped, Bool.or_true]
    rfl
  split
  · -- An issue about the routes is an issue, so the result did not pass.
    rename_i hskipped hroutes
    obtain ⟨f, hf, -⟩ := List.any_eq_true.mp hroutes
    have hfailed : v.countsAsPassed ≠ true := fun hpassed =>
      List.not_mem_nil (h.countsAsPassed_iff.mp hpassed ▸ hf)
    rw [Bool.not_eq_true _ |>.mp hfailed]
    rfl
  split
  · rename_i hpassed
    rw [Verdict.countsAsPassed, hpassed, Bool.true_or]
    split <;> rfl
  · rename_i hskipped _ hpassed
    rw [Verdict.countsAsPassed, Bool.not_eq_true _ |>.mp hpassed, Bool.not_eq_true _ |>.mp hskipped]
    rfl

/-- The words for a name and an ending tell whether the ending speaks for the project. -/
theorem Ending.mem_ready_iff (name : String) (ending : Ending) :
    name ++ ": " ++ ending.text ∈ [name ++ ": READY", name ++ ": READY (with warnings)",
      name ++ ": SKIPPED (No database detected)"] ↔ ending.isReady = true := by
  cases ending <;> simp [Ending.text, Ending.isReady, String.append_assoc]

theorem Ending.mem_notReady_iff (name : String) (ending : Ending) :
    name ++ ": " ++ ending.text ∈ [name ++ ": NOT READY", name ++ ": NOT READY (No routes found)"] ↔
      ending.isReady = false := by
  cases ending <;> simp [Ending.text, Ending.isReady, String.append_assoc]

/-- The word in the summary is that of a failure exactly if the result does not count as passed. -/
theorem statusWord_eq_iff (v : Verdict) : statusWord v = "FAIL" ↔ v.countsAsPassed = false := by
  unfold statusWord Verdict.countsAsPassed
  cases v.skipped <;> cases v.passed <;> decide

/-! ### Sections -/

theorem printAll_append {texts more : List String} {shown rest : String}
    (h : printAll texts = .ok shown) (hmore : printAll more = .ok rest) :
    printAll (texts ++ more) = .ok (shown ++ rest) := by
  obtain ⟨lines, hlines, hshown⟩ := bind_eq_ok.mp h
  obtain ⟨others, hothers, hrest⟩ := bind_eq_ok.mp hmore
  cases hshown
  cases hrest
  rw [printAll, List.mapM_append, hlines, hothers, ← String.join_append]
  rfl

theorem printAll_singleton {text shown : String} (h : print text = .ok shown) :
    printAll [text] = .ok shown := by
  rw [printAll, List.mapM_cons, h]
  exact congrArg Except.ok String.empty_append

/-- The line of a verdict is shown as it stands. -/
theorem print_verdictLine {message : String} (hplain : IsPlain message) (hline : IsLine message)
    (hroom : message.length ≤ width) (isReady : Bool) :
    print (verdictLine isReady message) = .ok ("\n" ++ message ++ "\n") := by
  rw [verdictLine, hplain.literal_eq]
  have hstyle : IsStyle (if isReady then "success" else "error").toList :=
    isStyle_of_mem (by cases isReady <;> simp)
  have hnewline : IsPlain "\n" := by decide
  have hempty : IsPlain "" := by decide
  have hprint := hstyle.print_styled hnewline hplain hempty
    (by rw [String.append_empty]; exact hline.fits hroom)
  rwa [String.append_empty, String.append_empty] at hprint

/-- Where all of some texts can be shown, the first of them can. -/
theorem printAll_of_append {texts more : List String} {shown : String}
    (h : printAll (texts ++ more) = .ok shown) : ∃ first, printAll texts = .ok first := by
  obtain ⟨lines, hlines, -⟩ := bind_eq_ok.mp h
  have hall := mapM_isOk.mp ⟨lines, hlines⟩
  exact printAll_isOk fun text htext => hall text (List.mem_append_left more htext)

theorem isLine_name (m : Check.Module) :
    IsLine (Text.upper m.name) ∧ (Text.upper m.name).length ≤ 12 := by
  cases m <;> decide +kernel

theorem isLine_ending (ending : Ending) : IsLine ending.text ∧ ending.text.length ≤ 30 := by
  cases ending <;> decide +kernel

variable {m : Check.Module} {v : Verdict}

/-- **A section ends with the words of its ending.** -/
theorem printSection_ends (hname : v.name = m.name) : ∃ body, printSection v = .ok body ∧
    lastLine body = Text.upper m.name ++ ": " ++ (Ending.of v).text := by
  obtain ⟨body, hbody⟩ := printSection_isOk hname
  obtain ⟨front, hfront⟩ := printAll_of_append hbody
  have hplain : IsPlain (Text.upper m.name ++ ": " ++ (Ending.of v).text) :=
    IsPlain.append.mpr ⟨IsPlain.append.mpr ⟨isPlain_name m, by decide⟩, isPlain_ending _⟩
  obtain ⟨hupper, hupperRoom⟩ := isLine_name m
  obtain ⟨hending, hendingRoom⟩ := isLine_ending (Ending.of v)
  have hline : IsLine (Text.upper m.name ++ ": " ++ (Ending.of v).text) :=
    IsLine.append.mpr ⟨IsLine.append.mpr ⟨hupper, by decide⟩, hending⟩
  have hroom : (Text.upper m.name ++ ": " ++ (Ending.of v).text).length ≤ width := by
    rw [String.length_append, String.length_append, show ": ".length = 2 from rfl, width]
    omega
  have hprint := print_verdictLine hplain hline hroom (Ending.of v).isReady
  have hlast := lastLine_append hline.noNewline front
  rw [← hname] at hprint hlast ⊢
  refine ⟨_, printAll_append hfront (printAll_singleton hprint), ?_⟩
  simpa only [String.append_assoc] using hlast

/-! ### Rows -/

/-- **Each result of a check is shown**, and what is shown of it agrees with it. -/
theorem exists_entry (h : m.Names v) : ∃ e : Entry, e.Shows m.name v := by
  obtain ⟨hname, hconsistent⟩ := h
  obtain ⟨body, hbody, hlast⟩ := printSection_ends hname
  refine ⟨⟨Text.upper m.name, body, statusWord v, v.issues.length, v.warnings.length⟩, ?_⟩
  have hnot : Entry.EndsNotReady ⟨Text.upper m.name, body, statusWord v, v.issues.length,
      v.warnings.length⟩ ↔ v.countsAsPassed = false := by
    rw [Entry.EndsNotReady, hlast, Ending.mem_notReady_iff, Ending.isReady_of hconsistent]
  exact {
    body_eq := hbody
    cells_eq := by rw [summaryRow, (isPlain_name m).plain_eq]; rfl
    issues_eq := rfl
    warnings_eq := rfl
    ready_iff := by
      rw [Entry.EndsReady, hlast, Ending.mem_ready_iff, Ending.isReady_of hconsistent]
    notReady_iff := hnot
    fail_iff := (statusWord_eq_iff v).trans hnot.symm }

/-! ## Sheets -/

/-- A shown report. -/
structure Sheet where
  entries : List Entry
  issueTotal : Nat
  warningTotal : Nat
  /-- The findings, where they are asked for. -/
  details : String
  verdict : String
  /-- What to do now. -/
  advice : String

namespace Sheet

/-- The summary as the console shows it. Totals with too many digits for a line are broken. -/
def summary (s : Sheet) : String :=
  rule "SUMMARY" ++ table summaryColumns (s.entries.map Entry.cells) ++
    (printPlain ("Total Issues: " ++ toString s.issueTotal).toList ++
      printPlain ("Total Warnings: " ++ toString s.warningTotal).toList ++ s.details ++
      ("\n" ++ s.verdict ++ "\n" ++ s.advice))

/-- The sheet as the console shows it. -/
def text (s : Sheet) : String := String.join (s.entries.map Entry.body) ++ s.summary

/-- The final verdict speaks for the project. -/
def SaysReady (s : Sheet) : Prop := s.verdict = "FINAL VERDICT: READY TO SHIP"

/-- The sheet is that of the report, and its parts agree. -/
structure Shows (s : Sheet) (r : Report) : Prop where
  entries : List.Forall₂ (fun e result => e.Shows result.1 result.2) s.entries r.results
  verdict_mem : s.verdict ∈ ["FINAL VERDICT: READY TO SHIP", "FINAL VERDICT: NOT READY"]
  ready_iff : s.SaysReady ↔ ∀ e ∈ s.entries, ¬ e.EndsNotReady
  word_iff : s.SaysReady ↔ (Record.ofReport r).at? "verdict" = some (.string "READY")
  issueTotal_eq : s.issueTotal = Report.total (s.entries.map (·.issues))
  warningTotal_eq : s.warningTotal = Report.total (s.entries.map (·.warnings))

end Sheet

/-! ### Entry by entry -/

section Entries

variable {results : List (String × Verdict)} {entries : List Entry}

/-- Results of checks are all shown. -/
theorem exists_entries
    (h : ∀ result ∈ results, ∃ m : Check.Module, result.1 = m.name ∧ m.Names result.2) :
    ∃ entries : List Entry,
      List.Forall₂ (fun e result => e.Shows result.1 result.2) entries results := by
  induction results with
  | nil => exact ⟨[], .nil⟩
  | cons result rest ih =>
    obtain ⟨⟨m, hname, hnames⟩, hrest⟩ := List.forall_mem_cons.mp h
    obtain ⟨e, he⟩ := exists_entry hnames
    obtain ⟨entries, hentries⟩ := ih hrest
    exact ⟨e :: entries, .cons (hname ▸ he) hentries⟩

variable (h : List.Forall₂ (fun e result => e.Shows result.1 result.2) entries results)
include h

theorem mapM_of_entries {α : Type} {f : String × Verdict → Except Failure α} {g : Entry → α}
    (hf : ∀ e result, e.Shows result.1 result.2 → f result = .ok (g e)) :
    results.mapM f = .ok (entries.map g) := by
  induction h with
  | nil => rfl
  | cons he _ ih =>
    rw [List.mapM_cons, hf _ _ he, ih]
    rfl

theorem map_entries {α : Type} {f : String × Verdict → α} {g : Entry → α}
    (hf : ∀ e result, e.Shows result.1 result.2 → g e = f result) :
    entries.map g = results.map f := by
  induction h with
  | nil => rfl
  | cons he _ ih => rw [List.map_cons, List.map_cons, hf _ _ he, ih]

/-- All results count as passed exactly if no section speaks against the project. -/
theorem all_countsAsPassed_iff :
    (results.map (·.2)).all Verdict.countsAsPassed = true ↔ ∀ e ∈ entries, ¬ e.EndsNotReady := by
  induction h with
  | nil => simp
  | cons he _ ih =>
    rw [List.map_cons, List.all_cons, Bool.and_eq_true, ih, List.forall_mem_cons, he.notReady_iff,
      Bool.not_eq_false]

end Entries

/-! ### Closing lines -/

theorem printAll_closingLines (isReady : Bool) : ∃ verdict advice,
    printAll (closingLines isReady) = .ok ("\n" ++ verdict ++ "\n" ++ advice) ∧
      verdict ∈ ["FINAL VERDICT: READY TO SHIP", "FINAL VERDICT: NOT READY"] ∧
      (verdict = "FINAL VERDICT: READY TO SHIP" ↔ isReady = true) := by
  cases isReady with
  | true =>
    obtain ⟨advice, hadvice⟩ := prints_success "Your backend project looks ready for deployment!"
    have hverdict : print (verdictLine true "FINAL VERDICT: READY TO SHIP") = _ :=
      print_verdictLine (by decide) (by decide) (by decide) true
    have hshown := printAll_append (printAll_singleton hverdict) (printAll_singleton hadvice)
    exact ⟨_, advice, hshown, by simp, by simp⟩
  | false =>
    obtain ⟨advice, hadvice⟩ := prints_error "Please fix the issues above before deploying."
    have hverdict : print (verdictLine false "FINAL VERDICT: NOT READY") = _ :=
      print_verdictLine (by decide) (by decide) (by decide) false
    have hshown := printAll_append (printAll_singleton hverdict) (printAll_singleton hadvice)
    exact ⟨_, advice, hshown, by simp, by simp⟩

/-- **A report is shown as a sheet that agrees with it.** -/
theorem printReport_shows {r : Report} (h : r.IsNamed) (verbose : Bool) :
    ∃ s : Sheet, printReport r verbose = .ok s.text ∧ s.Shows r := by
  obtain ⟨entries, hentries⟩ := exists_entries h
  obtain ⟨details, hdetails⟩ : ∃ details,
      printAll (if verbose then detailLines r else []) = .ok details := by
    apply printAll_isOk
    split
    · exact prints_detailLines h
    · exact List.forall_mem_nil _
  obtain ⟨verdict, advice, hclosing, hmem, hverdict⟩ := printAll_closingLines r.isReady
  let s : Sheet := ⟨entries, r.issueCount, r.warningCount, details, verdict, advice⟩
  have hsections : r.verdicts.mapM printSection = .ok (entries.map Entry.body) := by
    rw [Report.verdicts, List.mapM_map]
    exact mapM_of_entries hentries fun e result he => he.body_eq
  have hrows : r.results.mapM (fun entry => summaryRow entry.1 entry.2) =
      .ok (entries.map Entry.cells) :=
    mapM_of_entries hentries fun e result he => he.cells_eq
  have hsummary : printSummary r verbose = .ok s.summary := by
    have htotal : ∀ label n, IsPlain label →
        printAll [label ++ toString n] = .ok (printPlain (label ++ toString n).toList) :=
      fun label (n : Nat) hlabel =>
        printAll_singleton (IsPlain.append.mpr ⟨hlabel, .ofNat n⟩).print_eq
    have hissues := htotal "Total Issues: " r.issueCount (by decide)
    have hwarnings := htotal "Total Warnings: " r.warningCount (by decide)
    have htotals := printAll_append hissues hwarnings
    have hrest := printAll_append (printAll_append htotals hdetails) hclosing
    show (r.results.mapM (fun entry => summaryRow entry.1 entry.2) >>= _) = _
    rw [hrows, ok_bind]
    exact congrArg (· >>= _) hrest
  refine ⟨s, ?_, ?_⟩
  · rw [printReport, hsections, ok_bind, hsummary]
    rfl
  · exact {
      entries := hentries
      verdict_mem := hmem
      ready_iff := hverdict.trans (all_countsAsPassed_iff hentries)
      word_iff := by
        rw [Sheet.SaysReady, hverdict, r.at?_verdict_eq_iff, r.word_eq_ready_iff]
      issueTotal_eq := by
        show r.issueCount = _
        rw [map_entries hentries fun e result he => he.issues_eq, Report.issueCount,
          Report.verdicts, List.map_map]
        rfl
      warningTotal_eq := by
        show r.warningCount = _
        rw [map_entries hentries fun e result he => he.warnings_eq, Report.warningCount,
          Report.verdicts, List.map_map]
        rfl }

/-- **A report can be shown**, whatever its messages say. -/
theorem printReport_isOk {r : Report} (h : r.IsNamed) (verbose : Bool) :
    ∃ shown, printReport r verbose = .ok shown := by
  obtain ⟨sheet, hshown, -⟩ := printReport_shows h verbose
  exact ⟨sheet.text, hshown⟩

end Preflight.Console
