import Mathlib.Control.Monad.Basic
import Preflight.Check.Module
import Preflight.Proofs.Check.Independence
import Preflight.Proofs.Check.RouteFiles
import Preflight.Proofs.Disk.Listing

/-!
# What the authentication check covers

The API check and the authentication check look at different files. Both fall back on the main files
when no other file matches, but the authentication check also looks at controllers: where a project
has controllers and no route files, it looks at the controllers alone, while the API check has come
to the main files.

The law (`unguarded_route_is_vulnerable_iff`): that is the only gap. A sensitive, unguarded route
that the API check sees is reported as vulnerable exactly if the file it stands in is not passed
over that way. `unguarded_route_is_missed` is a project in which an administration route is.
-/

set_option autoImplicit false

namespace Preflight.Check

/-- The authentication check passes over a file for the controllers: there are no route files, there
are controllers, and the file is none. -/
structure PassedOver (root : Path) (files : List String) (path : Path) : Prop where
  noRouteFiles : Glob.find root files (routeFiles ++ sourceFiles) = []
  controllers : Glob.find root files controllerFiles ≠ []
  notController : path ∉ Glob.find root files controllerFiles

/-- **A file of the API check is a file of the authentication check unless it is passed over.** -/
theorem mem_filesIn_iff {root : Path} {files : List String} {path : Path}
    (h : path ∈ filesIn root files false) :
    path ∈ filesIn root files true ↔ ¬ PassedOver root files path := by
  have hsome : ∀ q, q ∈ Glob.find root files (patterns true) ↔
      q ∈ Glob.find root files (routeFiles ++ sourceFiles) ∨
        q ∈ Glob.find root files controllerFiles := by
    intro q
    simp only [patterns, if_true, Glob.mem_find_append]
    exact or_right_comm
  have hwithout : patterns false = routeFiles ++ sourceFiles := by simp [patterns]
  rw [filesIn, hwithout] at h
  by_cases hroutes : Glob.find root files (routeFiles ++ sourceFiles) = []
  · rw [hroutes, if_pos (by rfl)] at h
    rw [hroutes] at hsome
    by_cases hcontrollers : Glob.find root files controllerFiles = []
    · have hnone : Glob.find root files (patterns true) = [] := by
        refine List.eq_nil_iff_forall_not_mem.mpr fun q hq => ?_
        simpa [hcontrollers] using (hsome q).mp hq
      rw [filesIn, hnone, if_pos (by rfl)]
      exact ⟨fun _ hover => hover.controllers hcontrollers, fun _ => h⟩
    · obtain ⟨q, hq⟩ := List.exists_mem_of_ne_nil _ hcontrollers
      have hne : ¬ (Glob.find root files (patterns true)).isEmpty = true := by
        rw [List.isEmpty_iff]
        exact List.ne_nil_of_mem ((hsome q).mpr (.inr hq))
      rw [filesIn, if_neg hne, hsome]
      constructor
      · rintro (hmem | hmem) hover
        · cases hmem
        · exact hover.notController hmem
      · intro hover
        by_contra hmem
        exact hover ⟨hroutes, hcontrollers, fun hc => hmem (.inr hc)⟩
  · rw [if_neg (by rwa [List.isEmpty_iff])] at h
    have hne : ¬ (Glob.find root files (patterns true)).isEmpty = true := by
      rw [List.isEmpty_iff]
      exact List.ne_nil_of_mem ((hsome path).mpr (.inl h))
    rw [filesIn, if_neg hne, hsome]
    exact ⟨fun _ hover => hroutes hover.noRouteFiles, fun _ => .inl h⟩

/-- **What the authentication check covers.** A route of the API check stands in a text of the
project, under the name that the route gives. If the route is sensitive and nothing guards it there,
the authentication check reports it unless it passes over the file for the controllers. -/
theorem unguarded_route_is_vulnerable_iff (p : Project) {routes vulnerable : List Route}
    (hroutes : (Module.api.runFresh p).routes = some routes)
    (hvulnerable : (Module.auth.runFresh p).vulnerable = some vulnerable) :
    ∃ files, p.disk.visibleFiles p.root = .ok files ∧ ∀ r ∈ routes,
      ∃ code, p.disk.readText? (p.root / r.file) = .ok (some code) ∧
        (RoutePath.isSensitive r.path = true → Source.isGuarded code r.line = false →
          (r ∈ vulnerable ↔ ¬ PassedOver p.root files (p.root / r.file))) := by
  obtain hapi | ⟨failure, -, hstopped⟩ := Module.api.runFresh_cases p
  case inr =>
    rw [hstopped] at hroutes
    cases hroutes
  obtain hauth | ⟨failure, -, hstopped⟩ := Module.auth.runFresh_cases p
  case inr =>
    rw [hstopped] at hvulnerable
    cases hvulnerable
  obtain ⟨files, hfiles, hapi⟩ := bind_eq_ok.mp ((Api.eval_run p).symm.trans hapi)
  obtain ⟨files', hfiles', hauth⟩ := bind_eq_ok.mp ((Auth.eval_run p).symm.trans hauth)
  obtain rfl : files = files' := Except.ok.inj (hfiles.symm.trans hfiles')
  refine ⟨files, hfiles, fun r hr => ?_⟩
  obtain ⟨path, hpath, text, htext, hextracted⟩ := (Api.mem_routes hapi hroutes).mp hr
  -- The name of the file leads back to it, so no other file can hold the route.
  have hnamed : ∀ other ∈ filesIn p.root files true,
      r.file = Store.relativeTo p.root other → p.root / r.file = other := by
    intro other hother hfile
    obtain ⟨name, -, rfl⟩ := mem_files_of_mem_filesIn hother
    rw [hfile, Path.root_div_relativeTo]
  have hfile : p.root / r.file = path := by
    obtain ⟨name, -, rfl⟩ := mem_files_of_mem_filesIn hpath
    rw [Store.file_of_mem_routesOf hextracted, Path.root_div_relativeTo]
  rw [hfile]
  cases text with
  | none => cases hextracted
  | some code =>
    refine ⟨code, htext, fun hsensitive hguarded => ?_⟩
    rw [Auth.mem_vulnerable hauth hvulnerable, ← mem_filesIn_iff hpath]
    constructor
    · rintro ⟨other, hother, _, -, hin, -⟩
      rw [← hfile, hnamed other hother (Store.file_of_mem_routesOf hin)]
      exact hother
    · intro hmem
      exact ⟨path, hmem, code, htext, hextracted, hsensitive, hguarded⟩

/-! ## A project with route files, and one with controllers only -/

/-- A registration of an administration route that nothing guards. -/
def adminCode : String := "app.get('/admin', h)\n"

/-- A project at `/p` with a main file that registers the route, and one more file in a directory. -/
def adminProject (folder code : String) : Project where
  disk := ⟨[(["p"], .directory), (["p", "app.js"], .file (Text.Utf8.encode adminCode) 1),
    (["p", folder], .directory), (["p", folder, "a.js"], .file (Text.Utf8.encode code) 1)]⟩
  root := ⟨.top, ["p"]⟩

/-- The route as the main file and as a route file register it. -/
def adminRoute (file : String) : Route := ⟨"GET", "/admin", 1, file⟩

/-- The files of a project with a route file. -/
theorem visibleFiles_routes :
    (adminProject "routes" adminCode).disk.visibleFiles (adminProject "routes" adminCode).root =
      .ok ["app.js", "routes/a.js"] :=
  Disk.visibleFiles_of_sorted ["p"] (by decide +kernel) (by decide +kernel)
    (by decide +kernel)

/-- The files of a project with a controller. -/
theorem visibleFiles_controllers :
    (adminProject "controllers" "x").disk.visibleFiles (adminProject "controllers" "x").root =
      .ok ["app.js", "controllers/a.js"] :=
  Disk.visibleFiles_of_sorted ["p"] (by decide +kernel) (by decide +kernel)
    (by decide +kernel)

/-- In a project with a route file its route is covered. -/
theorem route_file_is_covered :
    let p := adminProject "routes" adminCode
    (Module.api.runFresh p).routes = some [adminRoute "routes/a.js"] ∧
      (Module.auth.runFresh p).vulnerable = some [adminRoute "routes/a.js"] ∧
      ∃ files, p.disk.visibleFiles p.root = .ok files ∧
        ¬ PassedOver p.root files (p.root / "routes/a.js") := by
  intro p
  have hroutes : (Module.api.runFresh p).routes = some [adminRoute "routes/a.js"] := by
    show (Module.api.runFresh (adminProject "routes" adminCode)).routes = _
    rw [Module.runFresh_eq, Module.scan, Api.eval_run, visibleFiles_routes, ok_bind,
      filesIn_eq_pathsIn]
    decide +kernel
  have hvulnerable : (Module.auth.runFresh p).vulnerable = some [adminRoute "routes/a.js"] := by
    show (Module.auth.runFresh (adminProject "routes" adminCode)).vulnerable = _
    rw [Module.runFresh_eq, Module.scan, Auth.eval_run, visibleFiles_routes, ok_bind,
      filesIn_eq_pathsIn]
    decide +kernel
  obtain ⟨files, hfiles, hcovered⟩ := unguarded_route_is_vulnerable_iff p hroutes hvulnerable
  obtain ⟨code, hcode, hiff⟩ := hcovered (adminRoute "routes/a.js") (by simp)
  have htext : p.disk.readText? (p.root / "routes/a.js") = .ok (some adminCode) := by
    decide +kernel
  obtain rfl : adminCode = code := by
    rw [adminRoute, htext] at hcode
    exact Option.some.inj (Except.ok.inj hcode)
  refine ⟨hroutes, hvulnerable, files, hfiles, ?_⟩
  exact (hiff (by decide +kernel) (by decide +kernel)).mp (by simp)

/-- **An administration route that is missed.** In a project with a controller and no route file the
API check sees the route of the main file and the authentication check does not. -/
theorem unguarded_route_is_missed :
    ¬ ∀ (p : Project) (routes vulnerable : List Route),
      (Module.api.runFresh p).routes = some routes →
        (Module.auth.runFresh p).vulnerable = some vulnerable →
          ∀ r ∈ routes, ∀ code, p.disk.readText? (p.root / r.file) = .ok (some code) →
            RoutePath.isSensitive r.path = true → Source.isGuarded code r.line = false →
              r ∈ vulnerable := by
  intro h
  have hroutes : (Module.api.runFresh (adminProject "controllers" "x")).routes =
      some [adminRoute "app.js"] := by
    rw [Module.runFresh_eq, Module.scan, Api.eval_run, visibleFiles_controllers, ok_bind,
      filesIn_eq_pathsIn]
    decide +kernel
  have hvulnerable : (Module.auth.runFresh (adminProject "controllers" "x")).vulnerable =
      some [] := by
    rw [Module.runFresh_eq, Module.scan, Auth.eval_run, visibleFiles_controllers, ok_bind,
      filesIn_eq_pathsIn]
    decide +kernel
  have hmissed := h _ _ _ hroutes hvulnerable (adminRoute "app.js") (by simp) adminCode
    (by decide +kernel) (by decide +kernel) (by decide +kernel)
  cases hmissed

end Preflight.Check
