import Preflight.Proofs.Check.Api
import Preflight.Proofs.Check.Environment
import Preflight.Proofs.Check.Stopping
import Preflight.Proofs.Duration
import Preflight.Proofs.Record.Export

/-!
# What stops the checks of source texts

The environment check, the API check and the authentication check say so where they are stopped
(`SaysStopped`). No text stops the first two, and one thing in a text stops the third: a setting
that decides about the expiry, with more digits than are read. Beside that they are stopped by too
long a path only, that of an environment file or that of the project.

The law (`source_checks_stopped_iff`) says so for every project, and that what is made of a text on
the way, a route, a finding or a duration, is accepted where it is recorded or written. A link to a
name that is too long makes a path that stops the environment check (`long_link_says_stopped`).
-/

set_option autoImplicit false

namespace Preflight

/-! ## Records of routes -/

/-- A route on a line is read back. -/
theorem Record.route_ofRoute {r : Route} (h : 1 ≤ r.line) :
    route (ofRoute r) = .accepted r := by
  have htext : ∀ s : String, text (.string s) = .accepted s := fun s =>
    congrArg Reading.accepted (Json.Text.toString_ofString s)
  have hline : atLeast 1 (.nat r.line) = .accepted r.line := by
    have hinteger : integer (.nat r.line) = .accepted (r.line : Int) := rfl
    rw [atLeast, hinteger]
    exact if_neg (by omega)
  obtain ⟨fields, hfields⟩ : ∃ fields, ofRoute r = .object fields := ⟨_, rfl⟩
  have hfield : ∀ name, Json.field? name fields = (ofRoute r).at? name := by
    intro name
    rw [hfields]
    rfl
  have hfile : fieldOr "file" "" text fields = .accepted r.file := by
    rw [fieldOr, hfield]
    show (text (.string r.file)).behind (.field "file") = _
    rw [htext]
    rfl
  rw [hfields]
  show routeOf fields = _
  rw [routeOf, field_eq_accepted (hfield "method") (htext r.method),
    field_eq_accepted (hfield "path") (htext r.path), field_eq_accepted (hfield "line") hline,
    hfile]
  rfl

/-- Lines are counted from one. -/
theorem Route.one_le_line {code file : String} {r : Route} (h : r ∈ extract code file) :
    1 ≤ r.line := by
  obtain ⟨kind, -, hkind⟩ := List.mem_flatMap.mp h
  obtain ⟨found, -, rfl⟩ := List.mem_map.mp hkind
  unfold ofOccurrence
  split <;> exact Nat.succ_pos _

/-- A call behind two line breaks stands on the third line. -/
example : (Route.extract "\n\napp.get('/a', h)" "a.js").map (·.line) = [3] := by decide +kernel

/-! ## Failures -/

/-- Of two steps one fails if the first does, or if the second does after it. -/
theorem exists_error_bind_iff {α β : Type} {x : Except Failure α} {g : α → Except Failure β} :
    (∃ failure, x >>= g = .error failure) ↔
      (∃ failure, x = .error failure) ∨ ∃ a, x = .ok a ∧ ∃ failure, g a = .error failure := by
  cases x with
  | error failure => simp [bind, Except.bind]
  | ok a => simp [bind, Except.bind]

/-- What is made of an answer fails with the answer. -/
theorem exists_error_map_iff {α β : Type} {x : Except Failure α} {g : α → β} :
    (∃ failure, x.map g = .error failure) ↔ ∃ failure, x = .error failure := by
  cases x <;> simp [Except.map]

/-- Of several questions one fails if they fail together. -/
theorem exists_error_mapM_iff {α β : Type} {f : α → Except Failure β} {items : List α} :
    (∃ failure, items.mapM f = .error failure) ↔
      ∃ item ∈ items, ∃ failure, f item = .error failure := by
  simp only [exists_error_iff, mapM_isOk]
  push Not
  rfl

/-- A listing fails for too long a path to the directory. -/
theorem Disk.exists_error_visibleFiles_iff {disk : Disk} {root : Path} :
    (∃ failure, disk.visibleFiles root = .error failure) ↔
      disk.isDirectory root = .error .nameTooLong := by
  have hdirectory : ∀ failure, disk.isDirectory root = .error failure → failure = .nameTooLong := by
    intro failure h
    unfold isDirectory leadsTo at h
    split at h <;> cases h
    rfl
  unfold visibleFiles
  cases h : disk.isDirectory root with
  | error failure => simp [hdirectory failure h]
  | ok isDirectory =>
    cases isDirectory with
    | false => simp
    | true => cases disk.locate root <;> simp

/-- A text sets an expiry of more digits than are read. -/
def Source.SetsTooLong (code : String) : Prop :=
  ∃ (s : Setting) (place : Nat), s.Decides code.toList place ∧ 4300 < s.digits.length

/-- The expiry of a text fails to be read if it has too many digits. -/
theorem Source.exists_error_expiry?_iff {code : String} :
    (∃ failure, expiry? code = .error failure) ↔ SetsTooLong code := by
  have hfailure : ∀ failure, expiry? code = .error failure ↔ _ := fun failure =>
    expiry?_eq_iff (by simp)
  simp only [hfailure, Setting.reading_eq_error_iff]
  constructor
  · rintro ⟨_, s, place, hdecides, hlong, -⟩
    exact ⟨s, place, hdecides, hlong⟩
  · rintro ⟨s, place, hdecides, hlong⟩
    exact ⟨_, s, place, hdecides, hlong, rfl⟩

namespace Check

/-! ## Results -/

/-- A result says that its check was stopped. -/
def SaysStopped (v : Verdict) : Prop := ∃ f ∈ v.issues, f.kind = .moduleError

theorem saysStopped_stopped (name failure : String) : SaysStopped (.stopped name failure) :=
  ⟨_, List.mem_singleton_self _, rfl⟩

/-- If no result that a check comes to says so, it is said where the check fails. -/
theorem saysStopped_iff {m : Module} {p : Project}
    (h : ∀ v, (m.scan p).eval p.disk p.root = .ok v → ¬ SaysStopped v) :
    SaysStopped (m.runFresh p) ↔ ∃ failure, (m.scan p).eval p.disk p.root = .error failure := by
  rcases m.runFresh_cases p with hresult | ⟨failure, hfailure, hresult⟩
  · simp [h _ hresult, hresult]
  · exact ⟨fun _ => ⟨failure, hfailure⟩, fun _ => hresult ▸ saysStopped_stopped _ _⟩

/-- Findings of other kinds do not say so. -/
theorem not_saysStopped_of_areOf (kinds : List Kind) {v : Verdict}
    (h : Environment.AreOf kinds v.issues) (hkinds : Kind.moduleError ∉ kinds) :
    ¬ SaysStopped v :=
  fun ⟨f, hf, hkind⟩ => hkinds (hkind ▸ h f hf)

namespace Environment

/-- No result for two tables says that the check was stopped. -/
theorem not_saysStopped (actual expected : Option Env.Table) :
    ¬ SaysStopped (verdict actual expected) := by
  refine not_saysStopped_of_areOf
    (([.envFileMissing] : List Kind) ++ [.missingEnvVar] ++ secretKinds) ?_ (by decide)
  rw [issues_verdict]
  exact ((areOf_fileIssues actual).append (areOf_missingIssues actual expected)).append
    (areOf_secretFindings.filter _)

/-- The table of a file fails to be read for too long a path. -/
theorem exists_error_table?_iff {disk : Disk} {path : Path} :
    (∃ failure, table? disk path = .error failure) ↔ disk.isFile path = .error .nameTooLong := by
  rcases table?_cases disk path with ⟨hfile, htable⟩ | ⟨table, hfile, htable, -⟩
  all_goals simp [hfile, htable]

/-- **What stops the environment check**: too long a path to one of the two files. -/
theorem saysStopped_env_iff (p : Project) : SaysStopped (Module.env.runFresh p) ↔
    p.disk.isFile (p.root / ".env") = .error .nameTooLong ∨
      p.disk.isFile (p.root / ".env.example") = .error .nameTooLong := by
  have heval : (Module.env.scan p).eval p.disk p.root = _ := eval_run p
  have hnone : ∀ v, (Module.env.scan p).eval p.disk p.root = .ok v → ¬ SaysStopped v := by
    intro v hv
    obtain ⟨actual, -, hv⟩ := bind_eq_ok.mp (heval.symm.trans hv)
    obtain ⟨expected, -, hv⟩ := bind_eq_ok.mp hv
    cases hv
    exact not_saysStopped actual expected
  constructor
  · intro hstopped
    rw [saysStopped_iff hnone, heval, exists_error_bind_iff, exists_error_table?_iff] at hstopped
    refine hstopped.imp_right fun ⟨actual, _, hrest⟩ => ?_
    obtain hexample | ⟨_, -, _, hanswer⟩ := exists_error_bind_iff.mp hrest
    · exact exists_error_table?_iff.mp hexample
    · cases hanswer
  · intro hlong
    rw [stopped_of_nameTooLong hlong]
    exact saysStopped_stopped "env" "OSError"

end Environment

namespace Api

/-- No result for files says that the check was stopped. -/
theorem not_saysStopped {p : Project} {files : List Path} {v : Verdict}
    (h : answer p files = .ok v) : ¬ SaysStopped v := by
  unfold answer at h
  split at h
  · cases h
    exact not_saysStopped_of_areOf [.noRouteFiles] (.single _) (by decide)
  · obtain ⟨found, -, h⟩ := bind_eq_ok.mp h
    cases h
    refine not_saysStopped_of_areOf [.missingHealthEndpoint] ?_ (by decide)
    rw [issues_verdict]
    exact .ite .nil (.single _)

/-- There is a result for files that can be read. -/
theorem answer_isOk {p : Project} {files : List Path}
    (h : ∀ path ∈ files, ∃ text, p.disk.readText? path = .ok text) :
    ¬ ∃ failure, answer p files = .error failure := by
  unfold answer
  split
  · rintro ⟨_, ⟨⟩⟩
  · rw [exists_error_bind_iff, exists_error_mapM_iff]
    rintro (⟨path, hpath, hfailure⟩ | ⟨_, -, _, ⟨⟩⟩)
    exact exists_error_iff.mp (exists_error_map_iff.mp hfailure) (h path hpath)

/-- **What stops the API check**: too long a path to the project. -/
theorem saysStopped_api_iff {p : Project} (hdisk : p.disk.IsZeroFree) :
    SaysStopped (Module.api.runFresh p) ↔ p.disk.isDirectory p.root = .error .nameTooLong := by
  have heval : (Module.api.scan p).eval p.disk p.root = _ := eval_run p
  have hnone : ∀ v, (Module.api.scan p).eval p.disk p.root = .ok v → ¬ SaysStopped v := by
    intro v hv
    obtain ⟨files, -, hanswer⟩ := bind_eq_ok.mp (heval.symm.trans hv)
    exact not_saysStopped hanswer
  rw [saysStopped_iff hnone, heval, exists_error_bind_iff, Disk.exists_error_visibleFiles_iff]
  refine or_iff_left ?_
  rintro ⟨files, hfiles, hfailure⟩
  exact answer_isOk (fun path => readText?_isOk_of_filesIn hdisk hfiles) hfailure

end Api

namespace Auth

/-- The issues about a text are of two kinds. -/
theorem areOf_issues (t : RouteText) :
    Environment.AreOf [.unprotectedRoute, .jwtExpiryTooLong]
      (t.unguarded.map unguardedIssue ++ t.expiryIssue?.toList) := by
  have hroutes : Environment.AreOf [.unprotectedRoute] (t.unguarded.map unguardedIssue) := by
    intro f hf
    obtain ⟨r, -, rfl⟩ := List.mem_map.mp hf
    exact List.mem_singleton_self _
  have hexpiry : Environment.AreOf [.jwtExpiryTooLong] t.expiryIssue?.toList := by
    intro f hf
    obtain ⟨n, -, hn⟩ := Option.bind_eq_some_iff.mp (Option.mem_toList.mp hf)
    obtain ⟨-, hf⟩ := Option.ite_none_right_eq_some.mp hn
    obtain rfl := Option.some.inj hf
    exact List.mem_singleton_self _
  exact hroutes.append hexpiry

/-- No result for files says that the check was stopped. -/
theorem not_saysStopped {p : Project} {files : List Path} {v : Verdict}
    (h : answer p files = .ok v) : ¬ SaysStopped v := by
  unfold answer at h
  split at h
  · cases h
    exact not_saysStopped_of_areOf [.noRouteFiles] (.single _) (by decide)
  · obtain ⟨reports, hreports, h⟩ := bind_eq_ok.mp h
    cases h
    have hissues := (reports_verdict (forall₂_of_mapM hreports)).issues
    refine not_saysStopped_of_areOf [.unprotectedRoute, .jwtExpiryTooLong] (fun f hf => ?_)
      (by decide)
    rw [hissues] at hf
    obtain ⟨t, -, hf⟩ := List.mem_flatMap.mp hf
    exact areOf_issues t f hf

/-- A file that can be read fails to be looked at for the expiry that its text sets. -/
theorem exists_error_report_iff {p : Project} {path : Path}
    (h : ∃ text, p.disk.readText? path = .ok text) :
    (∃ failure, (p.disk.readText? path >>= reportOf p path) = .error failure) ↔
      ∃ t, RouteText.at? p path = some t ∧ Source.SetsTooLong t.code := by
  obtain ⟨text, htext⟩ := h
  unfold RouteText.at?
  rw [htext, ok_bind]
  cases text with
  | none => simp [reportOf]
  | some code =>
    by_cases hempty : code.isEmpty = true
    · have hnothing : reportOf p path (some code) = .ok {} := by
        rw [reportOf, Option.filter_some, hempty]
        rfl
      simp [hempty, hnothing]
    · have hfilter : (some code).filter (!·.isEmpty) = some code := by
        rw [Option.filter_some, if_pos (by simpa using hempty)]
      rw [reportOf, hfilter, exists_error_map_iff, Source.exists_error_expiry?_iff]
      simp [hempty]

/-- The check fails on files that can be read if one of them sets an expiry of too many digits. -/
theorem exists_error_answer_iff {p : Project} {files : List Path}
    (h : ∀ path ∈ files, ∃ text, p.disk.readText? path = .ok text) :
    (∃ failure, answer p files = .error failure) ↔
      ∃ t ∈ routeTexts p files, Source.SetsTooLong t.code := by
  unfold answer
  split
  · rename_i hnone
    obtain rfl := List.isEmpty_iff.mp hnone
    simp [routeTexts]
  · rw [exists_error_bind_iff, exists_error_mapM_iff]
    constructor
    · rintro (⟨path, hpath, hfailure⟩ | ⟨_, -, _, ⟨⟩⟩)
      obtain ⟨t, hat, hlong⟩ := (exists_error_report_iff (h path hpath)).mp hfailure
      exact ⟨t, List.mem_filterMap.mpr ⟨path, hpath, hat⟩, hlong⟩
    · rintro ⟨t, ht, hlong⟩
      obtain ⟨path, hpath, hat⟩ := List.mem_filterMap.mp ht
      exact .inl ⟨path, hpath, (exists_error_report_iff (h path hpath)).mpr ⟨t, hat, hlong⟩⟩

/-- **What stops the authentication check**: too long a path to the project, or a route file that
sets an expiry of too many digits. -/
theorem saysStopped_auth_iff {p : Project} (hdisk : p.disk.IsZeroFree) :
    SaysStopped (Module.auth.runFresh p) ↔ p.disk.isDirectory p.root = .error .nameTooLong ∨
      ∃ found, ((findRouteFiles p true).run p.disk (.fresh p.root)).1 = .ok found ∧
        ∃ t ∈ routeTexts p found, Source.SetsTooLong t.code := by
  have heval : (Module.auth.scan p).eval p.disk p.root = _ := eval_run p
  have hnone : ∀ v, (Module.auth.scan p).eval p.disk p.root = .ok v → ¬ SaysStopped v := by
    intro v hv
    obtain ⟨files, -, hanswer⟩ := bind_eq_ok.mp (heval.symm.trans hv)
    exact not_saysStopped hanswer
  have hanswer : ∀ files, p.disk.visibleFiles p.root = .ok files →
      ((∃ failure, answer p (filesIn p.root files true) = .error failure) ↔
        ∃ t ∈ routeTexts p (filesIn p.root files true), Source.SetsTooLong t.code) :=
    fun files hfiles =>
      exists_error_answer_iff fun path => readText?_isOk_of_filesIn hdisk hfiles
  rw [saysStopped_iff hnone, heval, exists_error_bind_iff, Disk.exists_error_visibleFiles_iff,
    findRouteFiles_fresh]
  refine or_congr_right ⟨?_, ?_⟩
  · rintro ⟨files, hfiles, hfailure⟩
    exact ⟨_, map_eq_ok.mpr ⟨files, hfiles, rfl⟩, (hanswer files hfiles).mp hfailure⟩
  · rintro ⟨found, hfound, hlong⟩
    obtain ⟨files, hfiles, rfl⟩ := map_eq_ok.mp hfound
    exact ⟨files, hfiles, (hanswer files hfiles).mpr hlong⟩

end Auth

/-- **What stops the checks of source texts.** The environment check is stopped by too long a path
to one of its files, and the API check by too long a path to the project. So is the authentication
check, and by one thing besides: a route file in which the setting that decides about the expiry has
more than 4300 digits. No route that is found in a text is refused as a record, no finding is, and
every expiry that a text sets can be written. -/
theorem source_checks_stopped_iff (p : Project) (hdisk : p.disk.IsZeroFree) :
    (SaysStopped (Module.env.runFresh p) ↔
      p.disk.isFile (p.root / ".env") = .error .nameTooLong ∨
        p.disk.isFile (p.root / ".env.example") = .error .nameTooLong) ∧
    (SaysStopped (Module.api.runFresh p) ↔ p.disk.isDirectory p.root = .error .nameTooLong) ∧
    (SaysStopped (Module.auth.runFresh p) ↔ p.disk.isDirectory p.root = .error .nameTooLong ∨
      ∃ found, ((findRouteFiles p true).run p.disk (.fresh p.root)).1 = .ok found ∧
        ∃ t ∈ Auth.routeTexts p found, ∃ (s : Source.Setting) (place : Nat),
          s.Decides t.code.toList place ∧ 4300 < s.digits.length) ∧
    (∀ code file, ∀ r ∈ Route.extract code file,
      Record.route (Record.ofRoute r) = .accepted r) ∧
    (∀ f : Finding, Record.finding (Record.withoutNulls (Record.ofFinding f)) = .accepted f) ∧
    ∀ code n, Source.expiry? code = .ok (some n) → Duration.write n = .ok (Duration.format n) :=
  ⟨Environment.saysStopped_env_iff p, Api.saysStopped_api_iff hdisk,
    Auth.saysStopped_auth_iff hdisk,
    fun _ _ _ hr => Record.route_ofRoute (Route.one_le_line hr),
    fun f => (Record.finding_withoutNulls f).1,
    fun _ _ hread => Duration.write_eq (Duration.length_count_of_expiry? hread)⟩

/-! ## Two projects -/

theorem isDigit_of_mem_ones : ∀ c ∈ ones, Text.isDigit c = true := fun c hc =>
  Release.isDigit_of_isAsciiDigit (isAsciiDigit_of_mem_ones c hc)

theorem isBlank_of_mem_nil : ∀ c ∈ ([] : List Char), Text.isBlank c = true := List.forall_mem_nil _

theorem isQuote_double : Pattern.isQuote '\x22' = true := by decide

/-- A setting of one digit more than is read. -/
def longSetting : Source.Setting :=
  { Duration.setting 0 isBlank_of_mem_nil isQuote_double with
    digits := ones
    digits_ne := ones_ne
    digits_digit := isDigit_of_mem_ones }

/-- It decides in a text that is the setting alone. -/
theorem longSetting_decides : longSetting.Decides longSetting.text 0 where
  whole := ⟨[], [], by simp, rfl, by rintro _ ⟨⟩⟩
  first := fun _ place _ _ => Nat.zero_le place
  preferred := ⟨[], _, rfl, List.forall_mem_nil _⟩

/-- A text that is that setting alone. -/
def longCode : String := String.ofList longSetting.text

/-- A project with the text as its only file. -/
def longProject : Project where
  disk := ⟨[(["p"], .directory), (["p", "app.js"], .file (Text.Utf8.encode longCode) 1)]⟩
  root := ⟨.top, ["p"]⟩

/-- The file can be read. -/
theorem readText?_longProject :
    longProject.disk.readText? (longProject.root / "app.js") = .ok (some longCode) := by
  have hway : Disk.checkWay (longProject.root / "app.js") = .ok () := by decide +kernel
  have hnode : longProject.disk.node? (longProject.root / "app.js").names =
      some (.file (Text.Utf8.encode longCode) 1) := by
    have hnames : (longProject.root / "app.js").names = ["p", "app.js"] := by decide +kernel
    rw [hnames]
    rfl
  have htree : longProject.disk.IsTree :=
    { distinct := show [["p"], ["p", "app.js"]].Nodup by decide
      named := show ∀ location ∈ [["p"], ["p", "app.js"]], ∀ name ∈ location,
        Disk.LeadsDown name by decide +kernel
      above := by simp [longProject, Disk.node?] }
  have hplain : longSetting.text.all Text.Utf8.isPlain = true := by decide +kernel
  have htext : Text.Utf8.fileText (Text.Utf8.encode longCode) = longCode := by
    refine Text.Utf8.fileText_encode ?_
    rwa [longCode, String.toList_ofList, ← List.all_eq_true]
  exact (htree.file_of_node hway hnode).2.trans (by rw [htext])

/-- It is the route file of the project. -/
theorem findRouteFiles_longProject :
    ((findRouteFiles longProject true).run longProject.disk (.fresh longProject.root)).1 =
      .ok [longProject.root / "app.js"] := by
  have hfiles : longProject.disk.visibleFiles longProject.root = .ok ["app.js"] :=
    Disk.visibleFiles_of_sorted ["p"] (by decide +kernel) (by decide +kernel) (by decide +kernel)
  rw [findRouteFiles_fresh, hfiles]
  have hfound : filesIn ⟨.top, ["p"]⟩ ["app.js"] true = [(⟨.top, ["p"]⟩ : Path) / "app.js"] := by
    decide +kernel
  exact congrArg Except.ok hfound

/-- Only the authentication check is stopped by it. -/
theorem long_expiry_says_stopped :
    let p := longProject
    p.disk.IsZeroFree ∧ SaysStopped (Module.auth.runFresh p) ∧
      ¬ SaysStopped (Module.env.runFresh p) ∧ ¬ SaysStopped (Module.api.runFresh p) := by
  intro p
  have hdisk : p.disk.IsZeroFree := by decide +kernel
  have hdirectory : p.disk.isDirectory p.root = .ok true := by decide +kernel
  have henv : p.disk.isFile (p.root / ".env") = .ok false := by decide +kernel
  have hexample : p.disk.isFile (p.root / ".env.example") = .ok false := by decide +kernel
  have htext : ⟨p.relative (p.root / "app.js"), longCode⟩ ∈
      Auth.routeTexts p [p.root / "app.js"] := by
    have hsome : ¬ longCode.isEmpty = true := by
      rw [String.isEmpty_iff, ← String.toList_eq_nil_iff, longCode, String.toList_ofList]
      exact List.cons_ne_nil _ _
    refine List.mem_filterMap.mpr ⟨_, List.mem_singleton_self _, ?_⟩
    rw [Auth.RouteText.at?, readText?_longProject]
    exact if_neg hsome
  obtain ⟨hstopsEnv, hstopsApi, hstopsAuth, -⟩ := source_checks_stopped_iff p hdisk
  refine ⟨hdisk, hstopsAuth.mpr (.inr ⟨_, findRouteFiles_longProject, _, htext, longSetting, 0, ?_,
    ?_⟩), ?_, ?_⟩
  · rw [longCode, String.toList_ofList]
    exact longSetting_decides
  · rw [longSetting, length_ones]
    decide
  · rw [hstopsEnv, henv, hexample]
    simp
  · rw [hstopsApi, hdirectory]
    simp

/-- The environment check is stopped by a link, though no text is at fault. -/
theorem long_link_says_stopped :
    SaysStopped (Module.env.runFresh (Environment.linkProject Disk.longName)) := by
  have hlong := (Environment.of_stat_nameTooLong
    (Environment.stat_linkProject Disk.isName_longName (by decide +kernel))).1
  rw [Environment.stopped_of_nameTooLong (.inr hlong)]
  exact saysStopped_stopped "env" "OSError"

end Check

end Preflight
