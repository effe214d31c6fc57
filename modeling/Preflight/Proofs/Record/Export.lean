import Mathlib.Data.List.Forall2
import Preflight.Command.Perform
import Preflight.Proofs.Disk.Growth
import Preflight.Proofs.Record.Nulls

/-!
# Exported reports

A report that is saved is read back from its file (`saved_report_is_faithful`): the file is ASCII,
and its text is that of the exported value and of no other. In the value the results are summed up
and told in full under the same names, in their order; what a summary counts is told; and what is
told, result by result, is what was found, each finding with its message.

No two results of a report have one name: they are a table. A number of too many digits is not
written, so a report with such a number is not saved (`Report.IsShort`). No report is nested more
than five deep, so every reader that goes so far reads it.
-/

set_option autoImplicit false

namespace Preflight

open Json

/-! ## Numbers of reports -/

/-- The numbers that are written for a result. -/
def Verdict.numbers (v : Verdict) : List Int :=
  v.issues.length :: v.warnings.length :: (v.findings.flatMap (·.payload.line.toList) ++
    (v.routes.getD [] ++ v.vulnerable.getD []).map (fun r => (r.line : Int)) ++
    v.dependencies.toList)

theorem Verdict.forall_mem_numbers {v : Verdict} {p : Int → Prop} : (∀ n ∈ v.numbers, p n) ↔
    p v.issues.length ∧ p v.warnings.length ∧ (∀ f ∈ v.findings, ∀ n ∈ f.payload.line, p n) ∧
      (∀ r ∈ v.routes.getD [], p r.line) ∧ (∀ r ∈ v.vulnerable.getD [], p r.line) ∧
      ∀ n ∈ v.dependencies, p n := by
  simp only [numbers, List.forall_mem_cons, List.forall_mem_append, List.forall_mem_flatMap,
    List.forall_mem_map, Option.mem_toList, Option.mem_def, and_assoc]

/-- The numbers that are written for a report. -/
def Report.numbers (r : Report) : List Int := r.verdicts.flatMap Verdict.numbers

/-- The numbers of the report have no more digits than are written. -/
def Report.IsShort (r : Report) : Prop := ∀ n ∈ r.numbers, Json.IsShort digitLimit n

instance (r : Report) : Decidable r.IsShort := inferInstanceAs (Decidable (∀ _ ∈ r.numbers, _))

namespace Record

variable {limit depth : Nat}

/-! ## Values of reports -/

theorem simple_string? (s? : Option String) : (Value.string? s?).Simple limit depth := by
  cases s? with
  | none => exact .null
  | some s => exact .string s

theorem simple_ofInt? {n? : Option Int} (h : ∀ n ∈ n?, IsShort limit n) :
    (ofInt? n?).Simple limit depth := by
  cases n? with
  | none => exact .null
  | some n => exact .int (h n rfl)

theorem simple_ofRoute {r : Route} (h : IsShort limit r.line) :
    (ofRoute r).Simple limit (depth + 1) := by
  refine .record (show ["method", "path", "line", "file"].Nodup by decide) ?_
  simp only [List.forall_mem_cons]
  exact ⟨.string _, .string _, .int h, .string _, List.forall_mem_nil _⟩

theorem simple_ofRoutes? {routes? : Option (List Route)}
    (h : ∀ r ∈ routes?.getD [], IsShort limit r.line) :
    (ofRoutes? routes?).Simple limit (depth + 2) := by
  cases routes? with
  | none => exact .null
  | some routes => exact .list (List.forall_mem_map.mpr fun r hr => simple_ofRoute (h r hr))

theorem nodup_finding : ["kind", "severity", "subject", "method", "path", "file", "line", "detail",
    "message"].Nodup := by decide

theorem simple_ofFinding {f : Finding} (h : ∀ n ∈ f.payload.line, IsShort limit n) :
    (ofFinding f).Simple limit (depth + 1) := by
  refine .record nodup_finding ?_
  simp only [List.forall_mem_cons]
  exact ⟨.string _, .string _, simple_string? _, simple_string? _, simple_string? _,
    simple_string? _, simple_ofInt? h, simple_string? _, .string _, List.forall_mem_nil _⟩

theorem nodup_verdict : ["module", "passed", "skipped", "issues", "warnings", "notes", "routes",
    "vulnerable_routes", "db_type", "total_dependencies"].Nodup := by decide

theorem simple_ofVerdict {v : Verdict} (h : ∀ n ∈ v.numbers, IsShort limit n) :
    (ofVerdict v).Simple limit (depth + 3) := by
  obtain ⟨-, -, hlines, hroutes, hvulnerable, hdependencies⟩ := Verdict.forall_mem_numbers.mp h
  have hfindings : ∀ findings : List Finding, (∀ f ∈ findings, f ∈ v.findings) →
      (Value.list (findings.map ofFinding)).Simple limit (depth + 2) := fun findings hmem =>
    .list (List.forall_mem_map.mpr fun f hf => simple_ofFinding (hlines f (hmem f hf)))
  refine .record nodup_verdict ?_
  simp only [List.forall_mem_cons]
  exact ⟨.string _, .bool _, .bool _, hfindings _ fun f hf => List.mem_append_left _ hf,
    hfindings _ fun f hf => List.mem_append_right _ hf,
    .list (List.forall_mem_map.mpr fun note _ => .string note), simple_ofRoutes? hroutes,
    simple_ofRoutes? hvulnerable, simple_string? _, simple_ofInt? hdependencies,
    List.forall_mem_nil _⟩

theorem simple_summary {v : Verdict} (h : ∀ n ∈ v.numbers, IsShort limit n) :
    (summary v).Simple limit (depth + 1) := by
  obtain ⟨hissues, hwarnings, -⟩ := Verdict.forall_mem_numbers.mp h
  refine .record (show ["passed", "issues", "warnings"].Nodup by decide) ?_
  simp only [List.forall_mem_cons]
  exact ⟨.bool _, .int hissues, .int hwarnings, List.forall_mem_nil _⟩

/-- **An exported report is simple.** -/
theorem simple_ofReport {r : Report} (hnames : (r.results.map (·.1)).Nodup) (h : r.IsShort) :
    (ofReport r).Simple digitLimit (depth + 5) := by
  have hkeys : ∀ {α : Type} (f : String × Verdict → α),
      ((r.results.map fun result => (result.1, f result)).map (·.1)).Nodup := by
    intro α f
    rw [List.map_map]
    exact hnames
  have hshort : ∀ result ∈ r.results, ∀ n ∈ result.2.numbers, IsShort digitLimit n :=
    fun result hresult n hn =>
      h n (List.mem_flatMap_of_mem (List.mem_map_of_mem hresult) hn)
  refine .record (show ["timestamp", "projectPath", "verdict", "summary", "details"].Nodup by
    decide) ?_
  simp only [List.forall_mem_cons]
  refine ⟨.string _, .string _, .string _, ?_, ?_, List.forall_mem_nil _⟩
  · exact .record (hkeys _) (List.forall_mem_map.mpr fun result hresult =>
      simple_summary (hshort result hresult))
  · exact .record (hkeys _) (List.forall_mem_map.mpr fun result hresult =>
      simple_withoutNulls (simple_ofVerdict (hshort result hresult)))

/-! ## Numbers that are written -/

theorem numbers_string? (s? : Option String) : (Value.string? s?).numbers = [] := by
  cases s? <;> rfl

theorem numbers_ofInt? (n? : Option Int) : (ofInt? n?).numbers = n?.toList := by
  cases n? <;> rfl

theorem numbers_ofFinding (f : Finding) : (ofFinding f).numbers = f.payload.line.toList := by
  simp [ofFinding, Value.numbers_record, numbers_string?, numbers_ofInt?, Value.string,
    Value.numbers]

theorem numbers_ofRoutes? (routes? : Option (List Route)) :
    (ofRoutes? routes?).numbers = (routes?.getD []).map fun r => (r.line : Int) := by
  have hroute : ∀ r : Route, (ofRoute r).numbers = [(r.line : Int)] := by
    intro r
    simp [ofRoute, Value.numbers_record, Value.string, Value.nat, Value.numbers]
  cases routes? with
  | none => rfl
  | some routes =>
    rw [ofRoutes?, Value.numbers_list, List.flatMap_map, funext hroute, Option.getD_some,
      List.map_eq_flatMap]

/-- The numbers of a result stand in its summary and in what is told of it in full. -/
theorem numbers_verdict (v : Verdict) :
    (summary v).numbers ++ (withoutNulls (ofVerdict v)).numbers = v.numbers := by
  have hfindings : ∀ findings : List Finding, numbersOfItems (findings.map ofFinding) =
      findings.flatMap fun f => f.payload.line.toList := by
    intro findings
    rw [numbersOfItems_eq, List.flatMap_map, funext numbers_ofFinding]
  have hnotes : (Value.strings v.notes).numbers = [] := by
    rw [Value.strings, Value.numbers_list, List.flatMap_map, List.flatMap_eq_nil_iff]
    exact fun _ _ => rfl
  have hsummary : (summary v).numbers = [↑v.issues.length, ↑v.warnings.length] := rfl
  have hfull : (ofVerdict v).numbers = v.issues.flatMap (fun f => f.payload.line.toList) ++
      (v.warnings.flatMap (fun f => f.payload.line.toList) ++
      ((v.routes.getD []).map (fun r => (r.line : Int)) ++
      ((v.vulnerable.getD []).map (fun r => (r.line : Int)) ++ v.dependencies.toList))) := by
    simp [ofVerdict, Value.numbers_record, hfindings, hnotes, numbers_ofRoutes?, numbers_string?,
      numbers_ofInt?, Value.string, Value.numbers]
  rw [numbers_withoutNulls, hsummary, hfull, Verdict.numbers, Verdict.findings,
    List.flatMap_append, List.map_append]
  simp only [List.cons_append, List.nil_append, List.append_assoc]

/-- The numbers of a report are those of its exported value. -/
theorem forall_mem_numbers_ofReport {r : Report} {p : Int → Prop} :
    (∀ n ∈ (ofReport r).numbers, p n) ↔ ∀ n ∈ r.numbers, p n := by
  have hexported : (ofReport r).numbers = r.results.flatMap (fun result =>
      (summary result.2).numbers) ++ r.results.flatMap fun result =>
        (withoutNulls (ofVerdict result.2)).numbers := by
    simp [ofReport, Value.numbers_record, Value.string, Value.numbers, List.flatMap_map]
  rw [hexported, Report.numbers, Report.verdicts, List.flatMap_map, List.forall_mem_append,
    List.forall_mem_flatMap, List.forall_mem_flatMap, List.forall_mem_flatMap, ← forall₂_and]
  refine forall₂_congr fun result _ => ?_
  rw [← numbers_verdict, List.forall_mem_append]

/-- A report is written if its numbers are short; otherwise it is not. -/
theorem reportText_eq_ok {r : Report} (h : r.IsShort) :
    reportText r = .ok (String.ofList (write .indented 0 (ofReport r))) :=
  Value.indented_eq_ok (forall_mem_numbers_ofReport.mpr h)

theorem reportText_eq_error {r : Report} (h : ¬r.IsShort) :
    reportText r = .error .numberTooLong :=
  Value.indented_eq_error fun hshort => h (forall_mem_numbers_ofReport.mp hshort)

/-! ## Findings that are read back -/

theorem whole_ofString (s : String) : whole (Text.ofString s) = .accepted s.toList := by
  have hall : (Text.ofString s).all (·.isChar) = true := by
    simp [Text.ofString, Symbol.isChar]
  rw [whole, if_pos hall, Text.toString_ofString]

theorem choice_string {α : Type} {ofTag? : String → Option α} {tag : String} {a : α}
    (h : ofTag? tag = some a) : choice ofTag? (.string tag) = .accepted a := by
  rw [Value.string, choice, whole_ofString]
  simp only [Reading.andThen, String.ofList_toList, h]

section Fields

variable {fields : Fields} {name : String} {α : Type}

theorem field_eq_accepted {read : Value → Reading α} {value : Value} {a : α}
    (h : Json.field? name fields = some value) (hread : read value = .accepted a) :
    field name read fields = .accepted a := by
  rw [field, h]
  simp only [hread, Reading.behind]

/-- A part that was left out where it was missing is missing again. -/
theorem field?_text {s? : Option String}
    (h : Json.field? name fields = (some (Value.string? s?)).bind present?) :
    Record.field? name text fields = .accepted s? := by
  rw [Record.field?, fieldOr, h]
  cases s? with
  | none => rfl
  | some s =>
    show Reading.accepted (some (Text.toString (Text.ofString s))) = _
    rw [Text.toString_ofString]

theorem field?_integer {n? : Option Int}
    (h : Json.field? name fields = (some (ofInt? n?)).bind present?) :
    Record.field? name integer fields = .accepted n? := by
  rw [Record.field?, fieldOr, h]
  cases n? <;> rfl

end Fields

/-- **A finding is read back from what is exported.** -/
theorem finding_withoutNulls (f : Finding) :
    finding (withoutNulls (ofFinding f)) = .accepted f ∧
      (withoutNulls (ofFinding f)).at? "message" = some (.string f.message) := by
  obtain ⟨fields, hfields⟩ : ∃ fields, withoutNulls (ofFinding f) = .object fields := ⟨_, rfl⟩
  have hfield : ∀ name, Json.field? name fields = ((ofFinding f).at? name).bind present? := by
    intro name
    rw [← show (Value.object fields).at? name = Json.field? name fields from rfl, ← hfields]
    exact at?_withoutNulls (by exact nodup_finding) name
  have hkind : field "kind" (choice Kind.ofTag?) fields = .accepted f.kind :=
    field_eq_accepted (hfield "kind") (choice_string f.kind.ofTag?_tag)
  have hseverity : field "severity" (choice Severity.ofTag?) fields = .accepted f.severity :=
    field_eq_accepted (hfield "severity") (choice_string (by cases f.severity <;> decide))
  have hpayload : payloadOf fields = .accepted f.payload := by
    rw [payloadOf, field?_text (hfield "subject"), field?_text (hfield "method"),
      field?_text (hfield "path"), field?_text (hfield "file"), field?_integer (hfield "line"),
      field?_text (hfield "detail")]
    rfl
  rw [hfields]
  refine ⟨?_, hfield "message"⟩
  show findingOf fields = _
  rw [findingOf, hkind, hseverity, hpayload]
  rfl

/-! ## What is told -/

/-- The items of the list under a key. -/
def listAt (key : String) (v : Value) : List Value :=
  match v.at? key with
  | some (.list items) => items
  | _ => []

/-- The issues and the warnings that the details tell, one result after the other. -/
def told (details : Fields) : List Value :=
  details.flatMap fun detail => listAt "issues" detail.2 ++ listAt "warnings" detail.2

/-- The results of the report, told in full. -/
def detailsOf (r : Report) : Fields :=
  r.results.map fun result => (Text.ofString result.1, withoutNulls (ofVerdict result.2))

theorem at?_details (r : Report) : (ofReport r).at? "details" = some (.object (detailsOf r)) := by
  change some (Value.object ((r.results.map _).map _)) = _
  rw [List.map_map]
  rfl

/-- The findings of a result are told in full. -/
theorem at?_findings (v : Verdict) :
    (withoutNulls (ofVerdict v)).at? "issues" =
        some (.list (v.issues.map fun f => withoutNulls (ofFinding f))) ∧
      (withoutNulls (ofVerdict v)).at? "warnings" =
        some (.list (v.warnings.map fun f => withoutNulls (ofFinding f))) := by
  have hlist : ∀ findings : List Finding, present? (.list (findings.map ofFinding)) =
      some (.list (findings.map fun f => withoutNulls (ofFinding f))) := by
    intro findings
    rw [present?, withoutNulls, itemsWithoutNulls_eq, List.map_map]
    · rfl
    · intro heq
      cases heq
  have hat : ∀ key, (withoutNulls (ofVerdict v)).at? key = ((ofVerdict v).at? key).bind present? :=
    fun key => at?_withoutNulls (by exact nodup_verdict) key
  exact ⟨(hat "issues").trans (hlist v.issues), (hat "warnings").trans (hlist v.warnings)⟩

/-- A summary counts what is told in full under the same name. -/
def Counts (summary detail : Json.Text × Value) : Prop :=
  summary.1 = detail.1 ∧ ∀ key ∈ ["issues", "warnings"],
    detail.2.at? key = some (.list (listAt key detail.2)) ∧
      summary.2.at? key = some (.nat (listAt key detail.2).length)

/-- A value tells a finding with its message. -/
def Tells (value : Value) (f : Finding) : Prop :=
  finding value = .accepted f ∧ value.at? "message" = some (.string f.message)

theorem counts_withoutNulls (name : String) (v : Verdict) :
    Counts (Text.ofString name, summary v) (Text.ofString name, withoutNulls (ofVerdict v)) := by
  obtain ⟨hissues, hwarnings⟩ := at?_findings v
  refine ⟨rfl, ?_⟩
  simp only [List.forall_mem_cons, listAt, hissues, hwarnings, List.length_map, true_and]
  exact ⟨rfl, rfl, List.forall_mem_nil _⟩

/-- What is told, result by result, is what was found. -/
theorem tells_findings (r : Report) : List.Forall₂ Tells (told (detailsOf r)) r.findings := by
  have htold : ∀ v : Verdict, listAt "issues" (withoutNulls (ofVerdict v)) ++
      listAt "warnings" (withoutNulls (ofVerdict v)) =
        v.findings.map fun f => withoutNulls (ofFinding f) := by
    intro v
    obtain ⟨hissues, hwarnings⟩ := at?_findings v
    rw [listAt, listAt, hissues, hwarnings, Verdict.findings, List.map_append]
  have hmap : r.findings.map (fun f => withoutNulls (ofFinding f)) = told (detailsOf r) := by
    rw [Report.findings, Report.verdicts, List.map_flatMap, List.flatMap_map, told, detailsOf,
      List.flatMap_map]
    exact congrArg (r.results.flatMap ·) (funext fun result => (htold result.2).symm)
  rw [← hmap, List.forall₂_map_left_iff, List.forall₂_same]
  exact fun f _ => finding_withoutNulls f

/-! ## Saved reports -/

/-- **A saved report is faithful.** A report with short numbers has a text. It is saved as one file,
which is ASCII, and is read as the exported value. A report with another number has no text and is
not saved. In the value the summary and the details have the names of the results, in order; each
count of the summary is the length of the list in the details; and the issues and warnings in the
details, one result after the other, are the findings of the report in order, each with its
message. -/
theorem saved_report_is_faithful {r : Report} (hnames : (r.results.map (·.1)).Nodup) :
    (r.IsShort → ∃ text, reportText r = .ok text ∧
      (∀ disk disk' message, Command.saveReport disk r = .ok (disk', message) → ∃ found,
        disk.locate (Path.ofString r.path / Command.reportFile) = .ok found ∧
          disk' = disk.set found.location (.file (Text.Utf8.encode text) 0)) ∧
      (∀ byte ∈ Text.Utf8.encode text, byte < 128) ∧
      ∀ depth, 5 ≤ depth →
        parse (Text.Utf8.fileText (Text.Utf8.encode text)) ⟨digitLimit, depth⟩ =
          .ok (ofReport r)) ∧
    (¬r.IsShort → ∀ disk, Command.saveReport disk r = .error .numberTooLong) ∧
    ∃ summaries details, (ofReport r).at? "summary" = some (.object summaries) ∧
      (ofReport r).at? "details" = some (.object details) ∧
      summaries.map (·.1) = r.results.map (fun result => Text.ofString result.1) ∧
      List.Forall₂ Counts summaries details ∧
      List.Forall₂ Tells (told details) r.findings := by
  refine ⟨fun hshort => ?_, fun hlong disk => ?_, _, _, r.at?_summary, at?_details r, ?_, ?_,
    tells_findings r⟩
  · have hsimple : ∀ depth, (ofReport r).Simple digitLimit (depth + 5) := fun depth =>
      simple_ofReport hnames hshort
    have hplain : ∀ c ∈ (String.ofList (write .indented 0 (ofReport r))).toList,
        Text.Utf8.isPlain c = true := by
      rw [String.toList_ofList]
      exact isPlain_write (hsimple 0) 0
    have htext := reportText_eq_ok hshort
    refine ⟨_, htext, fun disk disk' message hsaved => ?_, Text.Utf8.byte_lt_of_mem_encode hplain,
      fun depth hdepth => ?_⟩
    · obtain ⟨text, hfound, hrest⟩ := bind_eq_ok.mp hsaved
      obtain ⟨written, hwritten, hrest⟩ := bind_eq_ok.mp hrest
      obtain ⟨_, -, hrest⟩ := bind_eq_ok.mp hrest
      cases hrest
      obtain rfl := Except.ok.inj (htext.symm.trans hfound)
      exact Disk.set_of_writeText hwritten
    · obtain ⟨more, rfl⟩ := Nat.exists_eq_add_of_le' hdepth
      rw [Text.Utf8.fileText_encode hplain]
      exact parse_write (hsimple more)
  · rw [Command.saveReport, reportText_eq_error hlong]
    rfl
  · rw [List.map_map]
    rfl
  · rw [detailsOf, List.forall₂_map_left_iff, List.forall₂_map_right_iff, List.forall₂_same]
    exact fun result _ => counts_withoutNulls result.1 result.2

/-- A report on a route whose path holds a mark, a line end and a character beyond the first
plane. -/
def quotedReport : Report where
  made := { year := 2024, month := 1, day := 1, zone := some 0 }
  path := "/p"
  results := [("auth", {
    name := "auth"
    passed := false
    issues := [.issue .unprotectedRoute
      { method := some "GET", path := some "/\x22\n𝄞", file := some "a.js", line := some 3 }]
    vulnerable := some [⟨"GET", "/\x22\n𝄞", 3, "a.js"⟩] })]

/-- It has a text, which is read back where no other limits are set. -/
theorem quoted_report_is_read_back :
    (quotedReport.results.map (·.1)).Nodup ∧ quotedReport.IsShort ∧
      ∃ text, reportText quotedReport = .ok text ∧
        parse (Text.Utf8.fileText (Text.Utf8.encode text)) = .ok (ofReport quotedReport) := by
  have hnames : (quotedReport.results.map (·.1)).Nodup := List.nodup_singleton _
  have hshort : quotedReport.IsShort := by decide +kernel
  obtain ⟨text, htext, -, -, hread⟩ := (saved_report_is_faithful hnames).1 hshort
  exact ⟨hnames, hshort, text, htext, hread 990 (by decide)⟩

end Record

end Preflight
