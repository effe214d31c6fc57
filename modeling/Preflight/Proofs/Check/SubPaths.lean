import Preflight.Proofs.Check.SelfGuarding

/-!
# Paths below sensitive paths

No rule of a sensitive path looks at what follows (`isBlind_of_mem_rules`): what is below a
sensitive path is sensitive (`isSensitive_append`). The rules but two do not ask where in a path
something stands either, so that a path which is sensitive by one of them is so below every other
path (`isSensitive_mounted`). The two others ask for the start of the path.

The law (`sub_paths_stay_sensitive`): a route whose path goes on from a sensitive one is reported
like a route of that path, unless the lines around it guard it. That its own path may do so is the
matter of `Preflight.Proofs.Check.SelfGuarding`.
-/

set_option autoImplicit false

namespace Preflight

open Pattern

namespace RoutePath

/-! ## Rules -/

/-- No rule of a sensitive path looks at what follows. -/
theorem isBlind_of_mem_rules : ∀ rule ∈ sensitiveStarts ++ sensitiveParts, rule.IsBlind := by
  have hparts : sensitiveParts = (otherWords ++ ["/auth/change"]).map wordAnyCase ++
      [versionStart ++ anyWord ["user", "admin", "auth", "profile", "settings"]] := rfl
  simp only [hparts, sensitiveStarts, List.forall_mem_append, List.forall_mem_map,
    List.forall_mem_cons, List.not_mem_nil, false_implies, implies_true, and_true]
  exact ⟨⟨isBlind_wordAnyCase _, isBlind_wordAnyCase _⟩,
    ⟨fun word _ => isBlind_wordAnyCase word, isBlind_wordAnyCase _⟩,
    isBlind_append_anyWord versionStart (by decide)⟩

/-- A part that makes a path sensitive makes every path sensitive in which it stands. -/
theorem any_sensitiveParts_mono {part text : List Char} (hpart : part <:+: text)
    (h : sensitiveParts.any (·.occursIn part) = true) :
    sensitiveParts.any (·.occursIn text) = true := by
  obtain ⟨rule, hrule, hoccurs⟩ := List.any_eq_true.mp h
  have hblind := isBlind_of_mem_rules rule (List.mem_append_right _ hrule)
  exact List.any_eq_true.mpr ⟨rule, hrule, hblind.occursIn_mono hpart hoccurs⟩

/-- **What is below a sensitive path is sensitive.** -/
theorem isSensitive_append {path : String} (h : isSensitive path = true) (below : String) :
    isSensitive (path ++ below) = true := by
  rw [isSensitive, Bool.or_eq_true] at h ⊢
  rw [String.toList_append]
  rcases h with hstart | hpart
  · obtain ⟨rule, hrule, hstarts⟩ := List.any_eq_true.mp hstart
    have hblind := isBlind_of_mem_rules rule (List.mem_append_left _ hrule)
    exact .inl (List.any_eq_true.mpr ⟨rule, hrule, hblind.startsAt_append hstarts _⟩)
  · exact .inr (any_sensitiveParts_mono (List.prefix_append _ _).isInfix hpart)

/-- A path that is sensitive by one of its parts is sensitive below every other path. -/
theorem isSensitive_mounted {path : String}
    (h : sensitiveParts.any (·.occursIn path.toList) = true) (mount : String) :
    isSensitive (mount ++ path) = true := by
  rw [isSensitive, Bool.or_eq_true, String.toList_append]
  exact .inr (any_sensitiveParts_mono (List.suffix_append _ _).isInfix h)

end RoutePath

namespace Check.Auth

open RoutePath

/-! ## Routes -/

/-- A sensitive route of a route file is reported exactly if nothing around it guards it. -/
theorem mem_vulnerable_iff_of_isSensitive {p : Project} {found : List Path}
    (hfound : ((findRouteFiles p true).run p.disk (.fresh p.root)).1 = .ok found)
    {vulnerable : List Route} (hv : (Module.auth.runFresh p).vulnerable = some vulnerable)
    {path : Path} (hpath : path ∈ found) {code : String}
    (hcode : p.disk.readText? path = .ok (some code)) {r : Route}
    (hr : r ∈ Store.routesOf p.root path (some code)) (hsensitive : isSensitive r.path = true) :
    r ∈ vulnerable ↔ Source.isGuarded code r.line = false := by
  constructor
  · intro hmem
    by_contra hguarded
    exact not_mem_vulnerable hfound hv hpath hcode (Store.file_of_mem_routesOf hr)
      (by simpa using hguarded) hmem
  · intro hunguarded
    exact (mem_vulnerable_iff hfound hv).mpr ⟨path, hpath, code, hcode, hr, hsensitive, hunguarded⟩

/-- **Sensitivity is inherited downwards.** A path that goes on from a sensitive one is sensitive; a
path that is sensitive by a part of it, and not by its start, is so behind every other path. So the
authentication check passes over no route whose path goes on from a sensitive one: of the route
files that it reads, it reports each such route exactly if nothing on the lines around guards it. -/
theorem sub_paths_stay_sensitive :
    (∀ path below : String, isSensitive path = true → isSensitive (path ++ below) = true) ∧
    (∀ mount path : String, sensitiveParts.any (·.occursIn path.toList) = true →
      isSensitive (mount ++ path) = true) ∧
    ∀ (p : Project) (found : List Path) (vulnerable : List Route),
      ((findRouteFiles p true).run p.disk (.fresh p.root)).1 = .ok found →
      (Module.auth.runFresh p).vulnerable = some vulnerable →
      ∀ path ∈ found, ∀ code, p.disk.readText? path = .ok (some code) →
      ∀ r ∈ Store.routesOf p.root path (some code),
      ∀ above below : String, r.path = above ++ below → isSensitive above = true →
        (r ∈ vulnerable ↔ Source.isGuarded code r.line = false) := by
  refine ⟨fun path below h => isSensitive_append h below,
    fun mount path h => isSensitive_mounted h mount, ?_⟩
  intro p found vulnerable hfound hv path hpath code hcode r hr above below heq habove
  have hsensitive : isSensitive r.path = true := heq ▸ isSensitive_append habove below
  exact mem_vulnerable_iff_of_isSensitive hfound hv hpath hcode hr hsensitive

/-- A text with a route below the users. -/
def postsCode : String := "router.get('/users/:id/posts', h)\n"

/-- A project at `/p` with this text as its route file. -/
def postsProject : Project where
  disk := ⟨[(["p"], .directory), (["p", "routes"], .directory),
    (["p", "routes", "a.js"], .file (Text.Utf8.encode postsCode) 1)]⟩
  root := ⟨.top, ["p"]⟩

/-- A fresh store finds the route file. -/
theorem findRouteFiles_posts : ((findRouteFiles postsProject true).run postsProject.disk
    (.fresh postsProject.root)).1 = .ok [postsProject.root / "routes/a.js"] := by
  have hfiles : postsProject.disk.visibleFiles postsProject.root = .ok ["routes/a.js"] :=
    Disk.visibleFiles_of_sorted ["p"] (by decide +kernel) (by decide +kernel) (by decide +kernel)
  rw [findRouteFiles_fresh, hfiles, Except.map, filesIn_eq_pathsIn]
  decide +kernel

/-- And the check comes to a result. -/
theorem exists_vulnerable_posts :
    ∃ vulnerable, (Module.auth.runFresh postsProject).vulnerable = some vulnerable := by
  have hrun : Module.auth.runFresh postsProject =
      Module.auth.settle (answer postsProject [postsProject.root / "routes/a.js"]) :=
    congrArg Module.auth.settle (run_eq_answer findRouteFiles_posts)
  rw [hrun, ← Option.isSome_iff_exists]
  decide +kernel

/-- The route below the users is reported, as they themselves would be in any case and behind any
path. -/
theorem posts_are_reported :
    isSensitive "/users" = true ∧ isSensitive ("/users" ++ "/:id/posts") = true ∧
      sensitiveParts.any (·.occursIn "/USERS".toList) = true ∧
      isSensitive ("/shop" ++ "/USERS") = true ∧
      ∃ vulnerable, (Module.auth.runFresh postsProject).vulnerable = some vulnerable ∧
        ⟨"GET", "/users/:id/posts", 1, "routes/a.js"⟩ ∈ vulnerable := by
  obtain ⟨hbelow, hmounted, hreported⟩ := sub_paths_stay_sensitive
  have husers : isSensitive "/users" = true := by decide +kernel
  have hpart : sensitiveParts.any (·.occursIn "/USERS".toList) = true := by decide +kernel
  obtain ⟨vulnerable, hv⟩ := exists_vulnerable_posts
  have hcode : postsProject.disk.readText? (postsProject.root / "routes/a.js") =
      .ok (some postsCode) := by decide +kernel
  have hreport := hreported postsProject _ vulnerable findRouteFiles_posts hv _
    (List.mem_singleton_self _) postsCode hcode ⟨"GET", "/users/:id/posts", 1, "routes/a.js"⟩
    (by decide +kernel) "/users" "/:id/posts" (by decide) husers
  exact ⟨husers, hbelow _ _ husers, hpart, hmounted _ _ hpart, vulnerable, hv,
    hreport.mpr (by decide +kernel)⟩

/-- The first two rules ask for the start of a path, and none for the end of a segment. -/
example : isSensitive "/administration" = true ∧ isSensitive "/shop/admin" = false ∧
    isSensitive "/api/v2/\nuser" = false ∧ isSensitive "/shop/api/v2/x/superuser" = true := by
  decide +kernel

end Check.Auth

end Preflight
