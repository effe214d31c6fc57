import Preflight.Proofs.Check.Auth
import Preflight.Proofs.Source.Registration

/-!
# Routes that guard themselves

A path that names authentication stands in its call, and so on one of the lines around the one on
which the call starts, if the call is not spread over too many lines (`Route.isGuarded_of_path`).

The law (`naming_route_is_not_vulnerable`): such a route is never reported. The two rules of a
sensitive path which name authentication (`RoutePath.isSensitive_iff`) have a say for calls on many
lines only.
-/

set_option autoImplicit false

namespace Preflight

open Pattern

/-! ## Rules that name authentication -/

namespace RoutePath

/-- The start of a path of a version of an API. -/
def versionStart : Pattern :=
  wordAnyCase "/api/v" ++ runOne Text.isDigit ++ char '/' ++ gap inLine

/-- The rules of a sensitive path that name authentication. -/
def authParts : List Pattern := [wordAnyCase "/auth/change", versionStart ++ wordAnyCase "auth"]

/-- The other words of a sensitive path. -/
def otherWords : List String :=
  ["/users", "/profile", "/settings", "/account", "/dashboard", "/delete", "/update", "/create",
    "/edit", "/password"]

/-- The other rules for parts of a sensitive path. -/
def otherParts : List Pattern :=
  otherWords.map wordAnyCase ++ [versionStart ++ anyWord ["user", "admin", "profile", "settings"]]

/-- The path is sensitive by a rule that does not name authentication. -/
def isSensitiveOtherwise (path : String) : Bool :=
  sensitiveStarts.any (·.startsAt path.toList) || otherParts.any (·.occursIn path.toList)

/-- The rule for a version of an API looks for authentication and for other words. -/
theorem occursIn_version_iff {text : List Char} :
    (versionStart ++ anyWord ["user", "admin", "auth", "profile", "settings"]).occursIn text ↔
      (versionStart ++ anyWord ["user", "admin", "profile", "settings"]).occursIn text ∨
        (versionStart ++ wordAnyCase "auth").occursIn text := by
  have hwords (P : String → Prop) : (∃ word ∈ ["user", "admin", "auth", "profile", "settings"],
      P word) ↔ (∃ word ∈ ["user", "admin", "profile", "settings"], P word) ∨ P "auth" := by
    simp only [List.mem_cons, List.not_mem_nil, or_false, exists_eq_or_imp, exists_eq_left]
    tauto
  rw [occursIn_append_anyWord_iff, occursIn_append_anyWord_iff]
  exact hwords _

/-- **A path is sensitive by a rule that names authentication or by another one.** -/
theorem isSensitive_iff {path : String} : isSensitive path = true ↔
    isSensitiveOtherwise path = true ∨ ∃ rule ∈ authParts, rule.occursIn path.toList = true := by
  have hparts : sensitiveParts = otherWords.map wordAnyCase ++ [wordAnyCase "/auth/change",
      versionStart ++ anyWord ["user", "admin", "auth", "profile", "settings"]] := rfl
  have hrules : (∃ rule ∈ authParts, rule.occursIn path.toList = true) ↔
      (wordAnyCase "/auth/change").occursIn path.toList = true ∨
        (versionStart ++ wordAnyCase "auth").occursIn path.toList = true := by
    simp [authParts]
  rw [isSensitive, isSensitiveOtherwise, hparts, otherParts, hrules]
  simp only [List.any_append, List.any_cons, List.any_nil, Bool.or_false, Bool.or_eq_true,
    occursIn_version_iff, or_assoc, or_comm, or_left_comm]

/-- A path that is sensitive by a rule that names authentication mentions it. -/
theorem mentions_of_authParts {path : String} {rule : Pattern} (hrule : rule ∈ authParts)
    (h : rule.occursIn path.toList = true) : Mentions "auth" path.toList := by
  rw [authParts, List.mem_pair] at hrule
  rcases hrule with rfl | rfl
  · exact (occursIn_wordAnyCase_iff.mp h).inner (by decide)
  · exact mentions_of_occursIn_append h

end RoutePath

/-! ## Calls whose path names authentication -/

/-- The path of a route stands in its call, and the call starts on the line of the route. -/
theorem Route.exists_part_of_mem_findAll {code : List Char} {file : String} {kind : Pattern}
    (hkind : kind ∈ registrations) {o : Occurrence} (ho : o ∈ kind.findAll code) :
    ∃ before rest, code = before ++ (o.text ++ rest) ∧
      (ofOccurrence code file o).line = before.count '\n' + 1 ∧
      (ofOccurrence code file o).path.toList <:+: o.text := by
  have hcalls : ∃ receivers, kind = Route.kind receivers := by
    rw [registrations_eq, List.mem_pair] at hkind
    rcases hkind with rfl | rfl
    · exact ⟨onApp, rfl⟩
    · exact ⟨onRoute, rfl⟩
  obtain ⟨receivers, rfl⟩ := hcalls
  have hread := (isScan_findAll (isWide_kind receivers) code).stands o ho
  obtain ⟨s, rfl⟩ := Registration.exists_occurrence hread
  obtain ⟨before, rest, hcode, hbefore⟩ := Registration.isReadAt_occurrence_iff.mp hread
  refine ⟨before, rest, hcode, ?_, ?_⟩
  · rw [Registration.ofOccurrence_occurrence, Registration.route, ← hbefore, hcode, List.take_left]
  · rw [Registration.ofOccurrence_occurrence, Registration.route, String.toList_ofList]
    refine ⟨s.call.receiver.name.toList ++ '.' :: (s.call.verb.toList ++ (s.call.before ++
      '(' :: (s.call.behind ++ [s.call.opening]))), [s.call.closing], ?_⟩
    simp [Registration.occurrence, Call.text]

/-- A call on a few lines whose path mentions one of the words that matter is guarded by it. -/
theorem Route.isGuarded_of_path {code file : String} {kind : Pattern}
    (hkind : kind ∈ registrations) {o : Occurrence} (ho : o ∈ kind.findAll code.toList)
    (hlines : o.text.count '\n' ≤ Source.guardRadius)
    (h : Source.MentionsGuard (ofOccurrence code.toList file o).path.toList) :
    Source.isGuarded code (ofOccurrence code.toList file o).line = true := by
  obtain ⟨before, rest, hcode, hline, hpath⟩ := exists_part_of_mem_findAll hkind ho
  rw [hline]
  exact Source.isGuarded_of_part hcode hlines (h.mono hpath)

namespace Check

/-- The name of a file of the search leads back to it, so that no two files have one name. -/
theorem relativeTo_inj {root : Path} {files : List String} {withControllers : Bool}
    {path other : Path} (hpath : path ∈ filesIn root files withControllers)
    (hother : other ∈ filesIn root files withControllers)
    (h : Store.relativeTo root path = Store.relativeTo root other) : path = other := by
  obtain ⟨name, -, rfl⟩ := mem_files_of_mem_filesIn hpath
  obtain ⟨name', -, rfl⟩ := mem_files_of_mem_filesIn hother
  exact Path.eq_of_relativeTo_eq h

namespace Auth

/-- The vulnerable routes that the check tells of are those of the files found. -/
theorem mem_vulnerable_iff {p : Project} {found : List Path}
    (hfound : ((findRouteFiles p true).run p.disk (.fresh p.root)).1 = .ok found)
    {vulnerable : List Route} (hv : (Module.auth.runFresh p).vulnerable = some vulnerable)
    {r : Route} : r ∈ vulnerable ↔ ∃ path ∈ found, ∃ code,
      p.disk.readText? path = .ok (some code) ∧ r ∈ Store.routesOf p.root path (some code) ∧
        RoutePath.isSensitive r.path = true ∧ Source.isGuarded code r.line = false := by
  have hrun : Module.auth.runFresh p = Module.auth.settle (answer p found) :=
    congrArg Module.auth.settle (run_eq_answer hfound)
  rw [hrun] at hv
  cases hanswer : answer p found with
  | error failure =>
    rw [hanswer] at hv
    cases hv
  | ok v =>
    rw [hanswer] at hv
    exact mem_vulnerable hanswer hv

/-- A route of a file is not vulnerable if it is guarded in the text of that file. -/
theorem not_mem_vulnerable {p : Project} {found : List Path}
    (hfound : ((findRouteFiles p true).run p.disk (.fresh p.root)).1 = .ok found)
    {vulnerable : List Route} (hv : (Module.auth.runFresh p).vulnerable = some vulnerable)
    {path : Path} (hpath : path ∈ found) {code : String}
    (hcode : p.disk.readText? path = .ok (some code)) {r : Route} (hfile : r.file = p.relative path)
    (hguarded : Source.isGuarded code r.line = true) : r ∉ vulnerable := by
  intro hr
  obtain ⟨other, hother, code', hcode', hin, -, hunguarded⟩ :=
    (mem_vulnerable_iff hfound hv).mp hr
  obtain ⟨files, -, rfl⟩ := exists_listing hfound
  have hname : Store.relativeTo p.root path = Store.relativeTo p.root other :=
    hfile.symm.trans (Store.file_of_mem_routesOf hin)
  obtain rfl := relativeTo_inj hpath hother hname
  rw [hcode] at hcode'
  obtain rfl := Option.some.inj (Except.ok.inj hcode')
  rw [hguarded] at hunguarded
  cases hunguarded

/-- **A path that names authentication guards itself.** A route that a scan of the text of a route
file finds, by a call that goes over two line feeds at most, is not reported if its path mentions
`auth` or `jwt`, whatever else the text says. So it is never reported for one of the two rules of a
sensitive path which name authentication alone. -/
theorem naming_route_is_not_vulnerable (p : Project) {found : List Path}
    (hfound : ((findRouteFiles p true).run p.disk (.fresh p.root)).1 = .ok found) {path : Path}
    (hpath : path ∈ found) {code : String} (hcode : p.disk.readText? path = .ok (some code))
    {kind : Pattern} (hkind : kind ∈ Route.registrations) {o : Occurrence}
    (ho : o ∈ kind.findAll code.toList) (hlines : o.text.count '\n' ≤ 2) {r : Route}
    (hr : r = Route.ofOccurrence code.toList (p.relative path) o) {vulnerable : List Route}
    (hv : (Module.auth.runFresh p).vulnerable = some vulnerable) :
    (Mentions "auth" r.path.toList ∨ Mentions "jwt" r.path.toList → r ∉ vulnerable) ∧
      (RoutePath.isSensitiveOtherwise r.path = false → r ∉ vulnerable) := by
  have hnaming : Mentions "auth" r.path.toList ∨ Mentions "jwt" r.path.toList →
      r ∉ vulnerable := by
    intro hnames
    have hguard : Source.MentionsGuard r.path.toList := by
      rcases hnames with hauth | hjwt
      · exact ⟨"auth", by decide, hauth⟩
      · exact ⟨"jwt", by decide, hjwt⟩
    have hextracted : r ∈ Route.extract code (p.relative path) :=
      List.mem_flatMap.mpr ⟨kind, hkind, List.mem_map.mpr ⟨o, ho, hr.symm⟩⟩
    refine not_mem_vulnerable hfound hv hpath hcode (Route.file_of_mem_extract hextracted) ?_
    rw [hr] at hguard ⊢
    exact Route.isGuarded_of_path hkind ho hlines hguard
  refine ⟨hnaming, fun hotherwise hmem => ?_⟩
  obtain ⟨_, _, _, _, _, hsensitive, _⟩ := (mem_vulnerable_iff hfound hv).mp hmem
  rcases RoutePath.isSensitive_iff.mp hsensitive with hsensitive | ⟨rule, hrule, hoccurs⟩
  · rw [hotherwise] at hsensitive
    cases hsensitive
  · exact hnaming (.inl (RoutePath.mentions_of_authParts hrule hoccurs)) hmem

/-- The call on three lines, as the first pattern finds it. -/
def namingCall : Occurrence :=
  ⟨0, "app.post(\n\n'/auth/change'".toList, ["post".toList, "/auth/change".toList]⟩

/-- In the same project the route whose path names authentication is not reported, though its path
stands two lines behind the start of its call. -/
theorem naming_route_token :
    ∃ vulnerable, (Module.auth.runFresh tokenProject).vulnerable = some vulnerable ∧
      ⟨"GET", "/admin", 6, "routes/a.js"⟩ ∈ vulnerable ∧
      ⟨"POST", "/auth/change", 1, "routes/a.js"⟩ ∈ Route.extract longCode "routes/a.js" ∧
      RoutePath.isSensitive "/auth/change" = true ∧
      ⟨"POST", "/auth/change", 1, "routes/a.js"⟩ ∉ vulnerable := by
  obtain ⟨v, hrun, hvulnerable, -, -⟩ := exists_result_token
  have hfresh : Module.auth.runFresh tokenProject = v := congrArg Module.auth.settle hrun
  rw [hfresh, hvulnerable]
  refine ⟨_, rfl, List.mem_cons_self, by decide +kernel, by decide +kernel, ?_⟩
  have hpath : tokenProject.root / "routes/a.js" ∈ tokenFiles := List.mem_cons_self
  have hcode : tokenProject.disk.readText? (tokenProject.root / "routes/a.js") =
      .ok (some longCode) := by decide +kernel
  have hfirst : Route.kind Route.onApp ∈ Route.registrations := List.mem_cons_self
  have hcall : namingCall ∈ (Route.kind Route.onApp).findAll longCode.toList :=
    List.mem_of_mem_head? rfl
  have hroute := naming_route_is_not_vulnerable tokenProject findRouteFiles_token hpath hcode hfirst
    hcall (by decide) rfl (hfresh ▸ hvulnerable)
  exact hroute.2 (by decide +kernel)

end Auth

end Check

end Preflight
