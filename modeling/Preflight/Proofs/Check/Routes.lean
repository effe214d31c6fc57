import Preflight.Check.Api
import Preflight.Check.Auth
import Preflight.Proofs.Disk.Path
import Preflight.Proofs.Scan.Answers

/-!
# What the checks of routes look at

The API check and the authentication check as functions of the listing and of the texts: `filesIn`
are the files of a listing in which routes are looked for, `Api.answer` and `Auth.answer` are the
results for a list of files. A check is its answer for the files of the listing (`Api.eval_run`,
`Auth.eval_run`), and what is reported are exactly the routes of those files (`Api.mem_routes`,
`Auth.mem_vulnerable`).
-/

set_option autoImplicit false

namespace Preflight

/-- A path that patterns match is a visible file that one of the patterns matches. -/
theorem Glob.mem_find {root : Path} {files patterns : List String} {path : Path} :
    path ∈ find root files patterns ↔
      ∃ file ∈ files, (∃ pattern ∈ patterns, (ofString pattern).isMatch file = true) ∧
        root / file = path := by
  simp only [find, List.mem_map, List.mem_eraseDups, List.mem_flatMap, select, List.mem_filter]
  constructor
  · rintro ⟨pattern, hpattern, file, ⟨hfile, hmatch⟩, heq⟩
    exact ⟨file, hfile, ⟨pattern, hpattern, hmatch⟩, heq⟩
  · rintro ⟨file, hfile, ⟨pattern, hpattern, hmatch⟩, heq⟩
    exact ⟨pattern, hpattern, file, ⟨hfile, hmatch⟩, heq⟩

/-- Listings in which every pattern matches the same files have the same paths. -/
theorem Glob.find_congr {root : Path} {files files' patterns : List String}
    (h : ∀ pattern ∈ patterns, select pattern files' = select pattern files) :
    find root files' patterns = find root files patterns :=
  congrArg List.eraseDups <| List.flatMap_congr fun pattern hpattern =>
    congrArg (List.map (root / ·)) (h pattern hpattern)

/-- What several lists of patterns match is matched by one of them. -/
theorem Glob.mem_find_append {root : Path} {files first second : List String} {path : Path} :
    path ∈ find root files (first ++ second) ↔
      path ∈ find root files first ∨ path ∈ find root files second := by
  simp only [mem_find, List.mem_append]
  constructor
  · rintro ⟨file, hfile, ⟨pattern, hpattern | hpattern, hmatch⟩, heq⟩
    · exact .inl ⟨file, hfile, ⟨pattern, hpattern, hmatch⟩, heq⟩
    · exact .inr ⟨file, hfile, ⟨pattern, hpattern, hmatch⟩, heq⟩
  · rintro (⟨file, hfile, ⟨pattern, hpattern, hmatch⟩, heq⟩ |
      ⟨file, hfile, ⟨pattern, hpattern, hmatch⟩, heq⟩)
    · exact ⟨file, hfile, ⟨pattern, .inl hpattern, hmatch⟩, heq⟩
    · exact ⟨file, hfile, ⟨pattern, .inr hpattern, hmatch⟩, heq⟩

/-- A route names the file it was found in. -/
theorem Route.file_of_mem_extract {code file : String} {r : Route} (h : r ∈ extract code file) :
    r.file = file := by
  obtain ⟨kind, -, hkind⟩ := List.mem_flatMap.mp h
  obtain ⟨found, -, rfl⟩ := List.mem_map.mp hkind
  unfold ofOccurrence
  split <;> rfl

/-- The routes of a text name the file they were found in. -/
theorem Store.file_of_mem_routesOf {root path : Path} {text : Option String} {r : Route}
    (h : r ∈ routesOf root path text) : r.file = relativeTo root path := by
  unfold routesOf at h
  split at h
  · cases h
  · split at h
    · cases h
    · exact Route.file_of_mem_extract h

namespace Check

/-! ## The files -/

/-- The patterns that are tried before the main files. -/
def patterns (withControllers : Bool) : List String :=
  routeFiles ++ (if withControllers then controllerFiles else []) ++ sourceFiles

/-- There are such patterns. -/
theorem patterns_ne_nil (withControllers : Bool) : patterns withControllers ≠ [] := by
  cases withControllers <;> decide

/-- The files of a listing in which routes are looked for. -/
def filesIn (root : Path) (files : List String) (withControllers : Bool) : List Path :=
  if (Glob.find root files (patterns withControllers)).isEmpty then
    Glob.find root files [mainFiles]
  else Glob.find root files (patterns withControllers)

/-- Route files are found in the listing. -/
@[simp] theorem eval_findRouteFiles (p : Project) (withControllers : Bool) :
    (findRouteFiles p withControllers).eval p.disk p.root =
      (p.disk.visibleFiles p.root).map fun files => filesIn p.root files withControllers := by
  have hfind : findRouteFiles p withControllers = p.find (patterns withControllers) >>= fun found =>
      if found.isEmpty then p.find [mainFiles] else pure found := rfl
  rw [hfind, Scan.eval_bind, Scan.eval_find _ _ p (patterns_ne_nil withControllers)]
  cases hlisting : p.disk.visibleFiles p.root with
  | error failure => rfl
  | ok files =>
    simp only [Except.map, filesIn, ok_bind]
    split
    · rw [Scan.eval_find _ _ p (List.cons_ne_nil mainFiles []), hlisting]
      rfl
    · rfl

/-- A file in which routes are looked for is a visible file. -/
theorem mem_files_of_mem_filesIn {root : Path} {files : List String} {withControllers : Bool}
    {path : Path} (h : path ∈ filesIn root files withControllers) :
    ∃ file ∈ files, root / file = path := by
  unfold filesIn at h
  split at h
  all_goals
    obtain ⟨file, hfile, -, heq⟩ := Glob.mem_find.mp h
    exact ⟨file, hfile, heq⟩

/-! ## The API -/

namespace Api

/-- The result for files. -/
def answer (p : Project) (files : List Path) : Except Failure Verdict :=
  if files.isEmpty then .ok noRoutes
  else do
    let found ← files.mapM fun path =>
      (p.disk.readText? path).map (Store.routesOf p.root path)
    return verdict found.flatten

/-- The check gives the result for the route files of the listing. -/
theorem eval_run (p : Project) :
    (run p).eval p.disk p.root =
      p.disk.visibleFiles p.root >>= fun files => answer p (filesIn p.root files false) := by
  rw [run, Scan.eval_bind, eval_findRouteFiles]
  cases p.disk.visibleFiles p.root with
  | error failure => rfl
  | ok files =>
    simp only [Except.map, ok_bind]
    cases filesIn p.root files false with
    | nil => rfl
    | cons first rest =>
      simp only [Scan.eval_bind, Scan.eval_forEach, Scan.eval_routesIn]
      rfl

/-- **The routes of a result are those of its files.** -/
theorem mem_routes {p : Project} {files : List Path} {v : Verdict} {routes : List Route}
    (h : answer p files = .ok v) (hroutes : v.routes = some routes) {r : Route} :
    r ∈ routes ↔ ∃ path ∈ files, ∃ text, p.disk.readText? path = .ok text ∧
      r ∈ Store.routesOf p.root path text := by
  unfold answer at h
  split at h
  · rename_i hnil
    cases h
    cases hroutes
    rw [List.isEmpty_iff] at hnil
    simp [hnil]
  · obtain ⟨found, hfound, h⟩ := bind_eq_ok.mp h
    cases h
    cases hroutes
    rw [List.mem_flatten]
    constructor
    · rintro ⟨list, hlist, hr⟩
      obtain ⟨path, hpath, hanswer⟩ := (mem_of_mapM hfound list).mp hlist
      obtain ⟨text, htext, rfl⟩ := map_eq_ok.mp hanswer
      exact ⟨path, hpath, text, htext, hr⟩
    · rintro ⟨path, hpath, text, htext, hr⟩
      refine ⟨Store.routesOf p.root path text, (mem_of_mapM hfound _).mpr ⟨path, hpath, ?_⟩, hr⟩
      rw [htext]
      rfl

end Api

/-! ## Authentication -/

namespace Auth

/-- What the text of a file gives. -/
def reportOf (p : Project) (path : Path) (text : Option String) : Except Failure FileReport :=
  match text.filter (!·.isEmpty) with
  | none => .ok {}
  | some code => (Source.expiry? code).map fun expiry =>
    ⟨unguarded code (Store.routesOf p.root path text),
      expiry.bind (expiryFinding? (p.relative path))⟩

/-- A file is looked at through its text. -/
@[simp] theorem eval_checkFile (p : Project) (path : Path) :
    (checkFile p path).eval p.disk p.root = p.disk.readText? path >>= reportOf p path := by
  rw [checkFile, Scan.eval_bind, Scan.eval_code?]
  cases htext : p.disk.readText? path with
  | error failure => rfl
  | ok text =>
    simp only [Except.map, ok_bind, reportOf]
    cases text.filter (!·.isEmpty) with
    | none => rfl
    | some code =>
      simp only [Scan.eval_bind, Scan.eval_routesIn, Scan.eval_lift, htext]
      rfl

/-- The result for files. -/
def answer (p : Project) (files : List Path) : Except Failure Verdict :=
  if files.isEmpty then .ok noRoutes
  else do
    let reports ← files.mapM fun path => p.disk.readText? path >>= reportOf p path
    return verdict reports

/-- The check gives the result for the route and controller files of the listing. -/
theorem eval_run (p : Project) :
    (run p).eval p.disk p.root =
      p.disk.visibleFiles p.root >>= fun files => answer p (filesIn p.root files true) := by
  rw [run, Scan.eval_bind, eval_findRouteFiles]
  cases p.disk.visibleFiles p.root with
  | error failure => rfl
  | ok files =>
    simp only [Except.map, ok_bind]
    cases filesIn p.root files true with
    | nil => rfl
    | cons first rest =>
      simp only [Scan.eval_bind, Scan.eval_forEach, eval_checkFile]
      rfl

/-- The unguarded routes of a file are the sensitive routes of its text that nothing guards. -/
theorem mem_unguarded {p : Project} {path : Path} {text : Option String} {report : FileReport}
    (h : reportOf p path text = .ok report) {r : Route} :
    r ∈ report.unguarded ↔ ∃ code, text = some code ∧ r ∈ Store.routesOf p.root path text ∧
      RoutePath.isSensitive r.path = true ∧ Source.isGuarded code r.line = false := by
  unfold reportOf at h
  split at h
  · rename_i hnone
    cases h
    cases text with
    | none => simp
    | some code =>
      have hempty : code.isEmpty = true := by simpa using hnone
      simp [Store.routesOf, hempty]
  · rename_i code hsome
    obtain ⟨expiry, -, rfl⟩ := map_eq_ok.mp h
    obtain ⟨rfl, -⟩ := Option.filter_eq_some_iff.mp hsome
    simp [unguarded]

/-- **The unguarded routes of a result are those of its files.** -/
theorem mem_vulnerable {p : Project} {files : List Path} {v : Verdict} {vulnerable : List Route}
    (h : answer p files = .ok v) (hv : v.vulnerable = some vulnerable) {r : Route} :
    r ∈ vulnerable ↔ ∃ path ∈ files, ∃ code, p.disk.readText? path = .ok (some code) ∧
      r ∈ Store.routesOf p.root path (some code) ∧
      RoutePath.isSensitive r.path = true ∧ Source.isGuarded code r.line = false := by
  unfold answer at h
  split at h
  · rename_i hnil
    cases h
    cases hv
    rw [List.isEmpty_iff] at hnil
    simp [hnil]
  · obtain ⟨reports, hreports, h⟩ := bind_eq_ok.mp h
    cases h
    cases hv
    rw [List.mem_flatMap]
    constructor
    · rintro ⟨report, hmem, hr⟩
      obtain ⟨path, hpath, hanswer⟩ := (mem_of_mapM hreports report).mp hmem
      obtain ⟨text, htext, hreport⟩ := bind_eq_ok.mp hanswer
      obtain ⟨code, rfl, hcode⟩ := (mem_unguarded hreport).mp hr
      exact ⟨path, hpath, code, htext, hcode⟩
    · rintro ⟨path, hpath, code, htext, hcode⟩
      obtain ⟨report, hmem, hanswer⟩ := answer_of_mapM hreports hpath
      rw [htext] at hanswer
      exact ⟨report, hmem, (mem_unguarded hanswer).mpr ⟨code, rfl, hcode⟩⟩

end Auth

end Check

end Preflight
