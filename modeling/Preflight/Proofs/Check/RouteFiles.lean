import Preflight.Proofs.Check.Routes
import Preflight.Proofs.Disk.Visible
import Preflight.Proofs.Glob.Place

/-!
# Which files are route files

Route files are script files in some places (`places`); the patterns of the search are the patterns
of these places (`patterns_eq`). The files found are those in one of the places, in the order of the
places and within one in that of their texts; only where there is none, the main files of the
application are found instead (`findRouteFiles_finds`).

What a store has remembered of the project has no say in it but for the listing: the search asks for
nothing else, and for the same listing again (`run_findRouteFiles`).
-/

set_option autoImplicit false

namespace Preflight

/-- A store that has given a listing gives it again. -/
theorem Store.listing_again {disk : Disk} {store next : Store} {files : List String}
    (h : store.listing disk = (.ok files, next)) : next.listing disk = (.ok files, next) := by
  unfold listing at h
  split at h
  · rename_i known hknown
    obtain ⟨hfiles, rfl⟩ := Prod.mk.inj h
    obtain rfl := Except.ok.inj hfiles
    simp only [listing, hknown]
  · split at h
    · cases (Prod.mk.inj h).1
    · obtain ⟨hfiles, rfl⟩ := Prod.mk.inj h
      obtain rfl := Except.ok.inj hfiles
      rfl

namespace Check

open Glob

/-! ## Places -/

/-- The endings of the names of script files. -/
def scriptEndings : List String := [".js", ".ts", ".jsx", ".tsx"]

/-- The names of the files that hold nothing but routes. -/
def routesNames : List String := scriptEndings.map ("routes" ++ ·)

/-- The names of the main files of an application. -/
def mainNames : List String :=
  ["app", "server", "index", "main"].flatMap fun stem => [".js", ".ts"].map (stem ++ ·)

/-- Where route files are, in the order in which they are looked for. -/
def places (withControllers : Bool) : List Place :=
  [Place.within "routes" scriptEndings, Place.named routesNames,
      Place.within "api" scriptEndings] ++
    (if withControllers then [Place.within "controllers" scriptEndings] else []) ++
      [Place.within "src" scriptEndings]

/-- The directories of route files. -/
def IsRouteDirectory (withControllers : Bool) (directory : String) : Prop :=
  directory ∈ ["routes", "api", "src"] ∨ withControllers = true ∧ directory = "controllers"

/-- A route file: a script file below such a directory, or with a name of its own. -/
def IsRouteFile (withControllers : Bool) (file : String) : Prop :=
  (∃ ending ∈ scriptEndings, ending.toList <:+ (Place.nameOf file).toList) ∧
    ((∃ directory ∈ Place.wayTo file, IsRouteDirectory withControllers directory) ∨
      Place.nameOf file ∈ routesNames)

/-- A main file, by its name. -/
def IsMainFile (file : String) : Prop := Place.nameOf file ∈ mainNames

/-- The places are the directories of route files and the names of such files. -/
theorem mem_places_iff {withControllers : Bool} {place : Place} :
    place ∈ places withControllers ↔
      (∃ directory, IsRouteDirectory withControllers directory ∧
        place = .within directory scriptEndings) ∨ place = .named routesNames := by
  cases withControllers <;> simp [places, IsRouteDirectory, or_and_right, exists_or] <;> tauto

/-- **Route files are the files in one of the places.** -/
theorem isRouteFile_iff {withControllers : Bool} {file : String} :
    IsRouteFile withControllers file ↔ ∃ place ∈ places withControllers, place.Holds file := by
  simp only [mem_places_iff]
  constructor
  · rintro ⟨hending, ⟨directory, hway, hdirectory⟩ | hname⟩
    · exact ⟨.within directory scriptEndings, .inl ⟨directory, hdirectory, rfl⟩, hway, hending⟩
    · exact ⟨.named routesNames, .inr rfl, hname⟩
  · rintro ⟨_, ⟨directory, hdirectory, rfl⟩ | rfl, hholds⟩
    · exact ⟨hholds.2, .inl ⟨directory, hholds.1, hdirectory⟩⟩
    · have hendings : ∀ name ∈ routesNames,
          ∃ ending ∈ scriptEndings, ending.toList <:+ name.toList := by decide
      exact ⟨hendings _ hholds, .inr hholds⟩

/-- The patterns are those of the places. -/
theorem patterns_eq (withControllers : Bool) :
    (patterns withControllers).map ofString = (places withControllers).map Place.glob := by
  have hroutes : routeFiles.map ofString = [Place.within "routes" scriptEndings,
      Place.named routesNames, Place.within "api" scriptEndings].map Place.glob := by decide +kernel
  have hcontrollers : controllerFiles.map ofString =
      [Place.within "controllers" scriptEndings].map Place.glob := by decide +kernel
  have hsources : sourceFiles.map ofString =
      [Place.within "src" scriptEndings].map Place.glob := by decide +kernel
  rw [patterns, places, List.map_append, List.map_append, List.map_append, List.map_append, hroutes,
    hsources]
  cases withControllers
  · rfl
  · rw [if_pos rfl, if_pos rfl, hcontrollers]

/-- And the pattern of the main files is that of their names. -/
theorem mainFiles_eq : [mainFiles].map ofString = [Place.named mainNames].map Place.glob := by
  decide +kernel

/-- There is no slash in a place. -/
theorem isPlain_places (withControllers : Bool) :
    ∀ place ∈ places withControllers, place.IsPlain := by
  cases withControllers <;> decide +kernel

/-- Nor is there one in the names of main files. -/
theorem isPlain_mainNames : ∀ place ∈ [Place.named mainNames], place.IsPlain := by
  decide +kernel

/-! ## What is found -/

/-- **The search by the places**: what is found in a fixed listing is worked out without the texts
of the patterns. -/
theorem filesIn_eq_pathsIn (root : Path) (files : List String) (withControllers : Bool) :
    filesIn root files withControllers =
      if (Place.pathsIn root files (places withControllers)).isEmpty then
        Place.pathsIn root files [.named mainNames]
      else Place.pathsIn root files (places withControllers) := by
  rw [filesIn, Place.find_eq_pathsIn (patterns_eq withControllers),
    Place.find_eq_pathsIn mainFiles_eq]

/-- The files found in a listing are its route files in the order of the places, or else its main
files. -/
structure AreRouteFiles (withControllers : Bool) (files found : List String) : Prop where
  /-- Where there are route files, these are found. -/
  placed : (∃ file ∈ files, IsRouteFile withControllers file) →
    (∀ file, file ∈ found ↔ file ∈ files ∧ IsRouteFile withControllers file) ∧
      found.Pairwise (Place.Precedes (places withControllers))
  /-- Where there are none, the main files are. -/
  fallback : (¬ ∃ file ∈ files, IsRouteFile withControllers file) →
    (∀ file, file ∈ found ↔ file ∈ files ∧ IsMainFile file) ∧ found.Pairwise (· < ·)

/-- **The files found in an increasing listing.** -/
theorem exists_filesIn {files : List String} (hfiles : ∀ file ∈ files, Place.IsFile file)
    (hincreasing : files.Pairwise (· < ·)) (root : Path) (withControllers : Bool) :
    ∃ found, filesIn root files withControllers = found.map (root / ·) ∧
      (found.map (root / ·)).Nodup ∧ AreRouteFiles withControllers files found := by
  have hnodup : files.Nodup := List.Pairwise.imp String.ne_of_lt hincreasing
  have hexists : (∃ file ∈ files, IsRouteFile withControllers file) ↔
      Place.select (places withControllers) files ≠ [] := by
    simp only [ne_eq, List.eq_nil_iff_forall_not_mem, not_forall, not_not, Place.mem_select_iff,
      isRouteFile_iff]
  rw [filesIn, Place.find_eq (patterns_eq withControllers) (isPlain_places withControllers) hfiles,
    Place.find_eq mainFiles_eq isPlain_mainNames hfiles, Place.select_singleton hnodup]
  split
  · rename_i hempty
    have hnone : ¬ ∃ file ∈ files, IsRouteFile withControllers file := by
      rw [hexists, not_not]
      simpa using hempty
    refine ⟨_, rfl, Place.nodup_div (fun file hfile => ?_) (hnodup.filter _),
      fun h => absurd h hnone, fun _ => ⟨fun file => ?_, hincreasing.filter _⟩⟩
    · exact hfiles file (List.mem_filter.mp hfile).1
    · rw [List.mem_filter, decide_eq_true_iff]
      rfl
  · rename_i hsome
    have hroute : ∃ file ∈ files, IsRouteFile withControllers file := by
      rw [hexists]
      simpa using hsome
    refine ⟨_, rfl, Place.nodup_div (fun file hfile => ?_) (Place.nodup_select hincreasing),
      fun _ => ⟨fun file => ?_, Place.pairwise_select _ hincreasing⟩, fun h => absurd hroute h⟩
    · exact hfiles file (Place.mem_select_iff.mp hfile).1
    · rw [Place.mem_select_iff, isRouteFile_iff]

/-! ## The search -/

/-- **The search depends on the listing only**, which a store gives again if it is asked twice. -/
theorem run_findRouteFiles {p : Project} {store : Store} {files : List String}
    (h : (store.listing p.disk).1 = .ok files) (withControllers : Bool) :
    ((findRouteFiles p withControllers).run p.disk store).1 =
      .ok (filesIn p.root files withControllers) := by
  have hfind : findRouteFiles p withControllers = p.find (patterns withControllers) >>= fun found =>
      if found.isEmpty then p.find [mainFiles] else pure found := rfl
  have hrun (next : List Path → Scan (List Path)) (store : Store) :
      (p.find (patterns withControllers) >>= next).run p.disk store = Scan.afterAnswer
        (fun files => (next (Glob.find p.root files (patterns withControllers))).run p.disk)
        (store.listing p.disk) := rfl
  cases hlisting : store.listing p.disk with
  | mk answer next =>
    rw [hlisting] at h
    obtain rfl : answer = .ok files := h
    rw [hfind, hrun, hlisting, filesIn]
    dsimp only [Scan.afterAnswer]
    split
    · have hlast : (p.find [mainFiles]).run p.disk next = Scan.afterAnswer
          (fun files store => (.ok (Glob.find p.root files [mainFiles]), store))
          (next.listing p.disk) := rfl
      rw [hlast, Store.listing_again hlisting]
      rfl
    · rfl

/-- The files of a listing are written by names, and increase. -/
theorem isFile_of_mem_visibleFiles {disk : Disk} (htree : disk.IsTree) {root : Path}
    {files : List String} (h : disk.visibleFiles root = .ok files) :
    (∀ file ∈ files, Place.IsFile file) ∧ files.Pairwise (· < ·) := by
  have hbelow (base : Location) : (∀ file ∈ disk.visibleBelow root base, Place.IsFile file) ∧
      (disk.visibleBelow root base).Pairwise (· < ·) := by
    refine ⟨fun file hfile => ?_, htree.pairwise_lt_visibleBelow⟩
    obtain ⟨way, name, hvisible, rfl⟩ := htree.mem_visibleBelow_iff.mp hfile
    obtain ⟨node, hnode⟩ := hvisible.counts.exists_node
    exact ⟨way, name, fun part hpart =>
      (htree.leadsDown hnode part (List.mem_append_right base hpart)).1, rfl⟩
  unfold Disk.visibleFiles at h
  split at h
  · cases h
  · obtain rfl := Except.ok.inj h
    exact ⟨nofun, .nil⟩
  · split at h
    · obtain rfl := Except.ok.inj h
      exact hbelow _
    · obtain rfl := Except.ok.inj h
      exact ⟨nofun, .nil⟩

/-- **Which files are found.** In a project tree with a listing the search gives, each path once,
the route files of the listing in the order of the places in which they are looked for, and within
one place in that of their texts. Only where no file of the listing is one it gives the main files,
in the order of their texts. -/
theorem findRouteFiles_finds {p : Project} (htree : p.disk.IsTree) {files : List String}
    (hfiles : p.disk.visibleFiles p.root = .ok files) {store : Store}
    (hstore : (store.listing p.disk).1 = .ok files) (withControllers : Bool) :
    ∃ found, ((findRouteFiles p withControllers).run p.disk store).1 =
        .ok (found.map (p.root / ·)) ∧ (found.map (p.root / ·)).Nodup ∧
      AreRouteFiles withControllers files found := by
  obtain ⟨hnamed, hincreasing⟩ := isFile_of_mem_visibleFiles htree hfiles
  obtain ⟨found, hfound, hnodup, hroute⟩ :=
    exists_filesIn hnamed hincreasing p.root withControllers
  exact ⟨found, by rw [run_findRouteFiles hstore, hfound], hnodup, hroute⟩

/-- A project at `/p` with controllers below a source directory and a `routes` file below an API. -/
def nestedProject : Project where
  disk := ⟨[(["p"], .directory), (["p", "api"], .directory),
    (["p", "api", "routes.ts"], .file [] 0), (["p", "app.js"], .file [] 0),
    (["p", "lib"], .directory), (["p", "lib", "src"], .directory),
    (["p", "lib", "src", "a.jsx"], .file [] 0), (["p", "lib", "src", "controllers"], .directory),
    (["p", "lib", "src", "controllers", "b.js"], .file [] 0)]⟩
  root := ⟨.top, ["p"]⟩

/-- The files of that project. -/
def nestedFiles : List String :=
  ["api/routes.ts", "app.js", "lib/src/a.jsx", "lib/src/controllers/b.js"]

/-- What a fresh store finds in it. -/
theorem findRouteFiles_nested :
    nestedProject.disk.IsTree ∧ nestedProject.disk.visibleFiles nestedProject.root =
        .ok nestedFiles ∧
      ((Store.fresh nestedProject.root).listing nestedProject.disk).1 = .ok nestedFiles ∧
      ∃ found, ((findRouteFiles nestedProject true).run nestedProject.disk
          (Store.fresh nestedProject.root)).1 = .ok (found.map (nestedProject.root / ·)) ∧
        (found.map (nestedProject.root / ·)).Nodup ∧ AreRouteFiles true nestedFiles found := by
  have htree : nestedProject.disk.IsTree :=
    ⟨by decide +kernel, by decide +kernel, by decide +kernel⟩
  have hfiles : nestedProject.disk.visibleFiles nestedProject.root = .ok nestedFiles :=
    Disk.visibleFiles_of_sorted ["p"] (by decide +kernel) (by decide +kernel) (by decide +kernel)
  have hstore : ((Store.fresh nestedProject.root).listing nestedProject.disk).1 =
      .ok nestedFiles := by
    simp only [Store.fresh, Store.listing, hfiles]
  exact ⟨htree, hfiles, hstore, findRouteFiles_finds htree hfiles hstore true⟩

/-- The `routes` file comes first, and controllers come before what else is below `src`. -/
example : filesIn nestedProject.root nestedFiles true = ["api/routes.ts",
    "lib/src/controllers/b.js", "lib/src/a.jsx"].map (nestedProject.root / ·) := by
  rw [filesIn_eq_pathsIn]
  decide +kernel

end Check

end Preflight
