import Preflight.Proofs.Check.Independence
import Preflight.Proofs.Check.RouteFiles
import Preflight.Proofs.Disk.Listing
import Preflight.Proofs.Source.Guard

/-!
# What the authentication check reports

The check is told by the texts of the route files that are not empty (`RouteText`), in the order of
the files: what each gives, routes and expiry, is said here of the text alone.

The law (`reports_routeTexts`): a result that is no failure tells of every such text what it gives,
and of nothing else (`Reports`). The reports that the check makes of files are held to their texts
one by one (`report_cases`), and whatever is collected from the ones is collected from the others
(`flatMap_reports`).
-/

set_option autoImplicit false

namespace Preflight

namespace Check

/-- A fresh store finds the route files of the listing. -/
theorem findRouteFiles_fresh (p : Project) (withControllers : Bool) :
    ((findRouteFiles p withControllers).run p.disk (.fresh p.root)).1 =
      (p.disk.visibleFiles p.root).map fun files => filesIn p.root files withControllers := by
  rw [(Scan.run_faithful _ (.fresh p.disk p.root)).1, eval_findRouteFiles]

/-- The files that a fresh store finds are those of the listing. -/
theorem exists_listing {p : Project} {withControllers : Bool} {found : List Path}
    (h : ((findRouteFiles p withControllers).run p.disk (.fresh p.root)).1 = .ok found) :
    ∃ files, p.disk.visibleFiles p.root = .ok files ∧
      filesIn p.root files withControllers = found := by
  rw [findRouteFiles_fresh] at h
  exact map_eq_ok.mp h

namespace Auth

/-- The check answers for the files that the search finds. -/
theorem run_eq_answer {p : Project} {found : List Path}
    (h : ((findRouteFiles p true).run p.disk (.fresh p.root)).1 = .ok found) :
    ((Module.auth.scan p).run p.disk (.fresh p.root)).1 = answer p found := by
  obtain ⟨files, hfiles, rfl⟩ := exists_listing h
  rw [(Scan.run_faithful _ (.fresh p.disk p.root)).1, Module.scan, eval_run, hfiles, ok_bind]

/-! ## Texts -/

/-- A route file and its text. -/
structure RouteText where
  /-- The file as a report names it. -/
  file : String
  code : String

/-- The text of a route file, unless it is missing or empty. -/
def RouteText.at? (p : Project) (path : Path) : Option RouteText :=
  match p.disk.readText? path with
  | .ok (some code) => if code.isEmpty then none else some ⟨p.relative path, code⟩
  | _ => none

/-- The texts of route files that are not empty, in the order of the files. -/
def routeTexts (p : Project) (found : List Path) : List RouteText :=
  found.filterMap (RouteText.at? p)

namespace RouteText

/-- The routes of a text that are sensitive and that no word on the lines around guards. -/
def unguarded (t : RouteText) : List Route :=
  (Route.extract t.code t.file).filter fun r =>
    RoutePath.isSensitive r.path ∧ ¬ Source.NamesGuard t.code r.line

/-- The expiry that a text sets, in seconds. -/
def expiry? (t : RouteText) : Option Nat :=
  match Source.expiry? t.code with
  | .ok expiry => expiry
  | .error _ => none

/-- There is an issue about an expiry of more than a year. -/
def expiryIssue? (t : RouteText) : Option Finding :=
  t.expiry?.bind fun n => if 365 * Duration.day < n then
    some (.issue .jwtExpiryTooLong { detail := some (Duration.format n), file := some t.file })
  else none

/-- There is a warning about one of more than a week, but not of more than a year. -/
def expiryWarning? (t : RouteText) : Option Finding :=
  t.expiry?.bind fun n => if 7 * Duration.day < n ∧ n ≤ 365 * Duration.day then
    some (.warning .jwtExpiryLong { detail := some (Duration.format n), file := some t.file })
  else none

/-- The report of a file tells what its text gives. -/
structure IsTold (t : RouteText) (report : FileReport) : Prop where
  /-- The expiry could be read. -/
  read : Source.expiry? t.code = .ok t.expiry?
  unguarded : report.unguarded = t.unguarded
  expiry : report.expiry = t.expiry?.bind (expiryFinding? t.file)

/-- What is told about an expiry is the issue or the warning that is due. -/
theorem IsTold.findings {t : RouteText} {report : FileReport} (h : t.IsTold report) :
    report.expiry.toList.filter (·.severity == .issue) = t.expiryIssue?.toList ∧
      report.expiry.toList.filter (·.severity == .warning) = t.expiryWarning?.toList := by
  rw [h.expiry, expiryIssue?, expiryWarning?]
  cases t.expiry? with
  | none => exact ⟨rfl, rfl⟩
  | some n =>
    have hallowed : allowedExpiry = 365 * Duration.day := rfl
    have hrecommended : recommendedExpiry = 7 * Duration.day := rfl
    simp only [Option.bind_some, expiryFinding?, hallowed, hrecommended, gt_iff_lt]
    by_cases hyear : 365 * Duration.day < n
    · simp [hyear, Nat.not_le.mpr hyear, Finding.issue]
    · by_cases hweek : 7 * Duration.day < n
      · simp [hyear, hweek, Nat.not_lt.mp hyear, Finding.warning]
      · simp [hyear, hweek]

/-- There is no issue exactly if no expiry of more than a year is set. -/
theorem expiryIssue?_eq_none_iff {t : RouteText} :
    t.expiryIssue? = none ↔ ∀ n, t.expiry? = some n → n ≤ 365 * Duration.day := by
  rw [expiryIssue?, Option.bind_eq_none_iff]
  simp

/-- Of the issues of a text those about routes come first. -/
theorem filter_unprotectedRoute (t : RouteText) :
    (t.unguarded.map unguardedIssue ++ t.expiryIssue?.toList).filter
      (·.kind = .unprotectedRoute) = t.unguarded.map unguardedIssue := by
  have hroutes : (t.unguarded.map unguardedIssue).filter (·.kind = .unprotectedRoute) =
      t.unguarded.map unguardedIssue := by
    refine List.filter_eq_self.mpr fun f hf => ?_
    obtain ⟨r, -, rfl⟩ := List.mem_map.mp hf
    rfl
  have hexpiry : t.expiryIssue?.toList.filter (·.kind = .unprotectedRoute) = [] := by
    refine List.filter_eq_nil_iff.mpr fun f hf => ?_
    obtain ⟨n, -, hn⟩ := Option.bind_eq_some_iff.mp (Option.mem_toList.mp hf)
    obtain ⟨-, hf⟩ := Option.ite_none_right_eq_some.mp hn
    obtain rfl := Option.some.inj hf
    rintro ⟨⟩
  rw [List.filter_append, hroutes, hexpiry, List.append_nil]

/-- There are no issues exactly if no route is unguarded and no expiry is of more than a year. -/
theorem issues_eq_nil_iff {t : RouteText} :
    t.unguarded.map unguardedIssue ++ t.expiryIssue?.toList = [] ↔
      t.unguarded = [] ∧ ∀ n, t.expiry? = some n → n ≤ 365 * Duration.day := by
  rw [List.append_eq_nil_iff, List.map_eq_nil_iff, Option.toList_eq_nil_iff,
    expiryIssue?_eq_none_iff]

/-- There are not both an issue and a warning. -/
theorem expiry_once (t : RouteText) : t.expiryIssue? = none ∨ t.expiryWarning? = none := by
  rw [expiryIssue?, expiryWarning?]
  cases t.expiry? with
  | none => exact .inl rfl
  | some n =>
    by_cases hyear : 365 * Duration.day < n
    · exact .inr (if_neg fun hweek => absurd hyear (Nat.not_lt.mpr hweek.2))
    · exact .inl (if_neg hyear)

end RouteText

/-- A file that was read has no text, or its report tells what the text gives. -/
theorem report_cases {p : Project} {path : Path} {report : FileReport}
    (h : (p.disk.readText? path >>= reportOf p path) = .ok report) :
    (RouteText.at? p path = none ∧ report = {}) ∨
      ∃ t, RouteText.at? p path = some t ∧ t.IsTold report := by
  obtain ⟨text, htext, hreport⟩ := bind_eq_ok.mp h
  unfold RouteText.at?
  rw [htext]
  unfold reportOf at hreport
  split at hreport
  · rename_i hnone
    cases hreport
    refine .inl ⟨?_, rfl⟩
    cases text with
    | none => rfl
    | some code =>
      have hempty : code.isEmpty = true := by simpa using hnone
      exact if_pos hempty
  · rename_i code hsome
    obtain ⟨rfl, hcode⟩ := Option.filter_eq_some_iff.mp hsome
    obtain ⟨expiry, hexpiry, rfl⟩ := map_eq_ok.mp hreport
    have hne : ¬ code.isEmpty = true := by simpa using hcode
    refine .inr ⟨⟨p.relative path, code⟩, if_neg hne, ?_, ?_, ?_⟩
    · rw [RouteText.expiry?, hexpiry]
    · rw [RouteText.unguarded, unguarded, Store.routesOf, if_neg hne]
      refine List.filter_congr fun r _ => ?_
      rw [Bool.eq_iff_iff, decide_eq_true_iff, ← Source.isGuarded_iff]
      simp
    · rw [RouteText.expiry?, hexpiry]

/-! ## The result -/

/-- The finding is about the route: an issue, with the verb, the path, the file and the line. -/
structure IsAbout (f : Finding) (r : Route) : Prop where
  kind : f.kind = .unprotectedRoute
  severity : f.severity = .issue
  method : f.payload.method = some r.method
  path : f.payload.path = some r.path
  file : f.payload.file = some r.file
  line : f.payload.line = some r.line

/-- What a result tells of texts, in their order. -/
structure Reports (texts : List RouteText) (v : Verdict) : Prop where
  /-- The vulnerable routes are the unguarded routes of the texts. -/
  vulnerable : v.vulnerable = some (texts.flatMap (·.unguarded))
  /-- The issues about routes are about these, one by one. -/
  about : List.Forall₂ IsAbout (v.issues.filter (·.kind = .unprotectedRoute))
    (texts.flatMap (·.unguarded))
  /-- Each text has the issues about its routes and then the one about its expiry. -/
  issues : v.issues =
    texts.flatMap fun t => t.unguarded.map unguardedIssue ++ t.expiryIssue?.toList
  warnings : v.warnings = texts.flatMap (·.expiryWarning?.toList)
  /-- No text has an issue and a warning about its expiry. -/
  once : ∀ t ∈ texts, t.expiryIssue? = none ∨ t.expiryWarning? = none
  passed : v.passed = true ↔ v.vulnerable = some [] ∧
    ∀ t ∈ texts, ∀ n, t.expiry? = some n → n ≤ 365 * Duration.day

section

variable {p : Project} {found : List Path} {reports : List FileReport}

/-- What is collected from the reports is collected from the texts. -/
theorem flatMap_reports {α : Type} {g : FileReport → List α} {g' : RouteText → List α}
    (hnone : g {} = []) (htold : ∀ t report, t.IsTold report → g report = g' t)
    (h : List.Forall₂ (fun path report => (p.disk.readText? path >>= reportOf p path) = .ok report)
      found reports) : reports.flatMap g = (routeTexts p found).flatMap g' := by
  induction h with
  | nil => rfl
  | cons hreport _ ih =>
    rcases report_cases hreport with ⟨hat, rfl⟩ | ⟨t, hat, ht⟩
    · rw [List.flatMap_cons, hnone, ih, List.nil_append, routeTexts, routeTexts,
        List.filterMap_cons_none hat]
    · rw [List.flatMap_cons, htold _ _ ht, ih, routeTexts, routeTexts,
        List.filterMap_cons_some hat, List.flatMap_cons]

/-- The result from the reports of files tells what their texts give. -/
theorem reports_verdict
    (h : List.Forall₂ (fun path report => (p.disk.readText? path >>= reportOf p path) = .ok report)
      found reports) : Reports (routeTexts p found) (verdict reports) := by
  have hvulnerable : reports.flatMap (·.unguarded) =
      (routeTexts p found).flatMap (·.unguarded) :=
    flatMap_reports rfl (fun t report ht => ht.unguarded) h
  have hissues : (verdict reports).issues = (routeTexts p found).flatMap fun t =>
      t.unguarded.map unguardedIssue ++ t.expiryIssue?.toList := by
    refine flatMap_reports rfl (fun t report ht => ?_) h
    rw [ht.unguarded, ht.findings.1]
  refine ⟨congrArg some hvulnerable, ?_, hissues, ?_, fun t _ => t.expiry_once, ?_⟩
  · have hkind : (verdict reports).issues.filter (·.kind = .unprotectedRoute) =
        ((routeTexts p found).flatMap (·.unguarded)).map unguardedIssue := by
      rw [hissues, List.filter_flatMap, List.map_flatMap]
      exact List.flatMap_congr fun t _ => t.filter_unprotectedRoute
    rw [hkind, List.forall₂_map_left_iff, List.forall₂_same]
    exact fun r _ => ⟨rfl, rfl, rfl, rfl, rfl, rfl⟩
  · exact flatMap_reports rfl (fun t report ht => ht.findings.2) h
  · have hpassed : (verdict reports).passed = true ↔ (verdict reports).issues = [] :=
      List.isEmpty_iff
    have hnone : (verdict reports).vulnerable = some [] ↔
        ∀ t ∈ routeTexts p found, t.unguarded = [] := by
      rw [← List.flatMap_eq_nil_iff, ← hvulnerable]
      exact Option.some_inj
    simp only [hpassed, hissues, hnone, List.flatMap_eq_nil_iff, RouteText.issues_eq_nil_iff]
    exact ⟨fun h => ⟨fun t ht => (h t ht).1, fun t ht => (h t ht).2⟩,
      fun ⟨hroutes, hexpiry⟩ t ht => ⟨hroutes t ht, hexpiry t ht⟩⟩

end

/-- **What the authentication check reports.** If there are route files and the check comes to a
result, it has read each of them and the expiry of each text. The result tells of the texts, in
their order: of the sensitive routes that no word guards, each with an issue of its own, and then of
the expiry, in an issue if it is of more than a year and in a warning if it is of more than a week.
It passes exactly if there is neither such a route nor such an issue. -/
theorem reports_routeTexts (p : Project) {found : List Path}
    (hfound : ((findRouteFiles p true).run p.disk (.fresh p.root)).1 = .ok found)
    (hsome : found ≠ []) {v : Verdict}
    (hrun : ((Module.auth.scan p).run p.disk (.fresh p.root)).1 = .ok v) :
    (∀ path ∈ found, ∃ text, p.disk.readText? path = .ok text) ∧
      (∀ t ∈ routeTexts p found, Source.expiry? t.code = .ok t.expiry?) ∧
        Reports (routeTexts p found) v := by
  rw [run_eq_answer hfound, answer, if_neg (by simpa using hsome)] at hrun
  obtain ⟨reports, hreports, hverdict⟩ := bind_eq_ok.mp hrun
  obtain rfl := Except.ok.inj hverdict
  refine ⟨fun path hpath => ?_, fun t ht => ?_, reports_verdict (forall₂_of_mapM hreports)⟩
  · obtain ⟨report, -, hreport⟩ := answer_of_mapM hreports hpath
    obtain ⟨text, htext, -⟩ := bind_eq_ok.mp hreport
    exact ⟨text, htext⟩
  · obtain ⟨path, hpath, hat⟩ := List.mem_filterMap.mp ht
    obtain ⟨report, -, hreport⟩ := answer_of_mapM hreports hpath
    rcases report_cases hreport with ⟨hnone, -⟩ | ⟨t', hat', htold⟩
    · rw [hat] at hnone
      cases hnone
    · rw [hat] at hat'
      obtain rfl := Option.some.inj hat'
      exact htold.read

/-! ## A project with two route files -/

/-- A text with a call on three lines that names authentication, an administration route and an
expiry of more than a year. -/
def longCode : String :=
  "app.post(\n\n'/auth/change', h)\n\n\napp.get('/admin', h)\nexpiresIn: '400d'\n"

/-- A text with a route on one line and an expiry of a month. -/
def shortCode : String := "router.get('/users', h)\nexpiresIn: '30d'\n"

/-- A project at `/p` with these texts as route files. -/
def tokenProject : Project where
  disk := ⟨[(["p"], .directory), (["p", "routes"], .directory),
    (["p", "routes", "a.js"], .file (Text.Utf8.encode longCode) 1),
    (["p", "routes", "b.js"], .file (Text.Utf8.encode shortCode) 1)]⟩
  root := ⟨.top, ["p"]⟩

/-- The route files of that project. -/
def tokenFiles : List Path :=
  ["routes/a.js", "routes/b.js"].map (tokenProject.root / ·)

/-- A fresh store finds them. -/
theorem findRouteFiles_token : ((findRouteFiles tokenProject true).run tokenProject.disk
    (.fresh tokenProject.root)).1 = .ok tokenFiles := by
  have hfiles : tokenProject.disk.visibleFiles tokenProject.root =
      .ok ["routes/a.js", "routes/b.js"] :=
    Disk.visibleFiles_of_sorted ["p"] (by decide +kernel) (by decide +kernel) (by decide +kernel)
  rw [findRouteFiles_fresh, hfiles, Except.map, filesIn_eq_pathsIn]
  decide +kernel

/-- And the check comes to a result. -/
theorem exists_result_token : ∃ v, ((Module.auth.scan tokenProject).run tokenProject.disk
      (.fresh tokenProject.root)).1 = .ok v ∧
    v.vulnerable = some [⟨"GET", "/admin", 6, "routes/a.js"⟩, ⟨"GET", "/users", 1, "routes/b.js"⟩] ∧
    v.issues.map (·.kind) = [.unprotectedRoute, .jwtExpiryTooLong, .unprotectedRoute] ∧
    v.warnings.map (·.kind) = [.jwtExpiryLong] := by
  rw [run_eq_answer findRouteFiles_token]
  have hanswer : (answer tokenProject tokenFiles).toOption.map (fun v =>
      (v.vulnerable, v.issues.map (·.kind), v.warnings.map (·.kind))) =
        some (some [⟨"GET", "/admin", 6, "routes/a.js"⟩, ⟨"GET", "/users", 1, "routes/b.js"⟩],
          [.unprotectedRoute, .jwtExpiryTooLong, .unprotectedRoute], [.jwtExpiryLong]) := by
    decide +kernel
  generalize answer tokenProject tokenFiles = result at hanswer ⊢
  cases result with
  | error failure => cases hanswer
  | ok v =>
    obtain ⟨hvulnerable, hfindings⟩ := Prod.mk.inj (Option.some.inj hanswer)
    obtain ⟨hissues, hwarnings⟩ := Prod.mk.inj hfindings
    exact ⟨v, rfl, hvulnerable, hissues, hwarnings⟩

/-- The unguarded routes of both texts are told, each with an issue, the expiry of the one as an
issue and that of the other as a warning. -/
theorem reports_token : ∃ v, ((Module.auth.scan tokenProject).run tokenProject.disk
      (.fresh tokenProject.root)).1 = .ok v ∧
    v.vulnerable = some [⟨"GET", "/admin", 6, "routes/a.js"⟩, ⟨"GET", "/users", 1, "routes/b.js"⟩] ∧
    v.issues.map (·.kind) = [.unprotectedRoute, .jwtExpiryTooLong, .unprotectedRoute] ∧
    v.warnings.map (·.kind) = [.jwtExpiryLong] ∧
    Reports (routeTexts tokenProject tokenFiles) v := by
  obtain ⟨v, hrun, hvulnerable, hissues, hwarnings⟩ := exists_result_token
  exact ⟨v, hrun, hvulnerable, hissues, hwarnings,
    (reports_routeTexts tokenProject findRouteFiles_token (by decide) hrun).2.2⟩

end Auth

end Check

end Preflight
