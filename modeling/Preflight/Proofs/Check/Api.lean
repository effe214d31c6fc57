import Mathlib.Data.List.Flatten
import Preflight.Proofs.Check.Auth
import Preflight.Proofs.Disk.Zero
import Preflight.Proofs.Firsts

/-!
# What the API check reports

The check is told by the routes of the route files, in the order of the files. Each path among them
has its warnings at the place of its first route (`AreFirsts`): one if it is posted to and neither it
nor its parent is read (`IsCreatedUnread`), and then one if it is changed and not read
(`IsChangedUnread`). The parent of a path is what it goes on from by one segment (`IsBelow`), so a
path that ends in a slash has none.

The law (`api_reports`) says this for every project with route files, and that one GET route more
only takes warnings away, wherever it stands: it may bring its path to the front, but that path has
no warnings then.
-/

set_option autoImplicit false

namespace Preflight.Check

/-- A file in which routes are looked for can be read. -/
theorem readText?_isOk_of_filesIn {p : Project} {files : List String} {withControllers : Bool}
    {path : Path} (hdisk : p.disk.IsZeroFree) (hfiles : p.disk.visibleFiles p.root = .ok files)
    (hpath : path ∈ filesIn p.root files withControllers) :
    ∃ text, p.disk.readText? path = .ok text := by
  obtain ⟨file, hfile, rfl⟩ := mem_files_of_mem_filesIn hpath
  exact Disk.readText?_isOk_of_listed hdisk hfiles hfile

namespace Api

/-! ## Paths -/

/-- The path is a health path or lies below one. -/
def IsHealth (path : String) : Prop :=
  ∃ start ∈ RoutePath.healthPaths, path = start ∨ ∃ rest, path = start ++ "/" ++ rest

/-- The path goes on from the parent by one segment. -/
def IsBelow (parent path : String) : Prop :=
  ∃ segment : String, segment ≠ "" ∧ '/' ∉ segment.toList ∧ path = parent ++ "/" ++ segment

/-- The search for health paths finds them. -/
theorem isHealth_iff {path : String} : RoutePath.isHealth path = true ↔ IsHealth path := by
  rw [RoutePath.isHealth, List.any_eq_true]
  refine exists_congr fun start => and_congr_right fun _ => ?_
  rw [Bool.or_eq_true, beq_iff_eq, Text.beginsWith, List.isPrefixOf_iff_prefix]
  refine or_congr_right ⟨?_, ?_⟩
  · intro hstart
    obtain ⟨rest, hrest⟩ := hstart
    refine ⟨String.ofList rest, ?_⟩
    rw [← String.toList_inj, String.toList_append, String.toList_ofList, hrest]
  · intro hrest
    obtain ⟨rest, rfl⟩ := hrest
    exact ⟨rest.toList, (String.toList_append ..).symm⟩

/-- A parent is another path. -/
theorem IsBelow.ne {parent path : String} (h : IsBelow parent path) : parent ≠ path := by
  obtain ⟨segment, -, -, rfl⟩ := h
  intro heq
  have hlength := congrArg String.length heq
  rw [String.length_append, String.length_append] at hlength
  have hslash : "/".length = 1 := rfl
  omega

/-- A path that goes on from a parent belongs to that parent. -/
theorem collection_of_isBelow {parent path : String} (h : IsBelow parent path) :
    RoutePath.collection path = parent := by
  obtain ⟨segment, hne, hslash, rfl⟩ := h
  have hchars : (parent ++ "/" ++ segment).toList.reverse =
      segment.toList.reverse ++ '/' :: parent.toList.reverse := by
    simp [String.toList_append]
  have hsegment : ∀ c ∈ segment.toList.reverse, (c != '/') = true := by
    intro c hc
    refine bne_iff_ne.mpr fun heq => hslash ?_
    rwa [← heq, ← List.mem_reverse]
  have hsome : segment.toList.reverse ≠ [] := by
    rwa [ne_eq, List.reverse_eq_nil_iff, String.toList_eq_nil_iff]
  obtain ⟨first, others, hfirst⟩ := List.exists_cons_of_ne_nil hsome
  unfold RoutePath.collection
  dsimp only
  rw [hchars, List.takeWhile_append_of_pos hsegment, List.dropWhile_append_of_pos hsegment,
    List.takeWhile_cons_of_neg (by simp), List.dropWhile_cons_of_neg (by simp), List.append_nil,
    hfirst]
  dsimp only
  rw [List.reverse_reverse, String.ofList_toList]

/-- A path that belongs to another goes on from there. -/
theorem isBelow_collection {path : String} (h : RoutePath.collection path ≠ path) :
    IsBelow (RoutePath.collection path) path := by
  unfold RoutePath.collection at h ⊢
  dsimp only at h ⊢
  split at h
  · rename_i last segment slash before hsegment hrest
    have hslash : slash = '/' := by
      have hhead := List.head?_dropWhile_not (· != '/') path.toList.reverse
      rw [hrest] at hhead
      simpa using hhead
    have hpath : path.toList = before.reverse ++ '/' :: (last :: segment).reverse := by
      have hparts := List.takeWhile_append_dropWhile (p := (· != '/')) (l := path.toList.reverse)
      rw [hsegment, hrest, hslash] at hparts
      rw [← List.reverse_reverse path.toList, ← hparts, List.reverse_append, List.reverse_cons,
        List.append_assoc]
      rfl
    refine ⟨String.ofList (last :: segment).reverse, by simp, ?_, ?_⟩
    · intro hmem
      rw [String.toList_ofList, List.mem_reverse, ← hsegment] at hmem
      simpa using List.mem_takeWhile_imp hmem
    · rw [← String.toList_inj, hpath]
      simp [String.toList_append]
  · exact absurd rfl h

/-! ## Routes of a path -/

/-- There is a route with the verb at the path. -/
def Has (routes : List Route) (method path : String) : Prop :=
  ∃ r ∈ routes, r.method = method ∧ r.path = path

/-- The path is posted to while neither it nor its parent is read. -/
def IsCreatedUnread (routes : List Route) (path : String) : Prop :=
  Has routes "POST" path ∧ ¬ Has routes "GET" path ∧
    ∃ parent, IsBelow parent path ∧ ¬ Has routes "GET" parent

/-- A verb of change. -/
def IsChange (method : String) : Prop := method = "PUT" ∨ method = "PATCH"

/-- The path is changed, first with the verb, and not read. -/
def IsChangedUnread (routes : List Route) (path method : String) : Prop :=
  ¬ Has routes "GET" path ∧ IsChange method ∧
    ∃ before r after, routes = before ++ r :: after ∧ r.path = path ∧ r.method = method ∧
      ∀ other ∈ before, other.path = path → ¬ IsChange other.method

/-- The warning about a path that is posted to. -/
def createdWarning (path : String) : Finding :=
  .warning .postWithoutCollectionGet { path := some path }

/-- The warning about a path that is changed. -/
def changedWarning (path method : String) : Finding :=
  .warning .updateWithoutGet { method := some method, path := some path }

variable {routes : List Route} {path : String}

/-- The verbs of a path are those of its routes. -/
theorem contains_methods_iff {method : String} :
    (methods routes path).contains method = true ↔ Has routes method path := by
  rw [List.contains_iff_mem, methods, List.mem_map]
  simp only [List.mem_filter, beq_iff_eq, Has, and_assoc]
  exact exists_congr fun r => and_congr_right fun _ => and_comm

/-- The path is readable if there is a route to read it. -/
theorem isReadable_iff : isReadable routes path = true ↔ Has routes "GET" path :=
  contains_methods_iff

/-- A path belongs to an unread collection if it goes on from an unread parent. -/
theorem unread_collection_iff :
    RoutePath.collection path ≠ path ∧ ¬ Has routes "GET" (RoutePath.collection path) ↔
      ∃ parent, IsBelow parent path ∧ ¬ Has routes "GET" parent := by
  constructor
  · intro h
    exact ⟨_, isBelow_collection h.1, h.2⟩
  · intro h
    obtain ⟨parent, hbelow, hread⟩ := h
    rw [collection_of_isBelow hbelow]
    exact ⟨hbelow.ne, hread⟩

/-- **When there is a warning about creation.** -/
theorem creationWarning?_eq_some_iff {f : Finding} :
    creationWarning? routes path = some f ↔
      f = createdWarning path ∧ IsCreatedUnread routes path := by
  rw [creationWarning?, Option.ite_none_right_eq_some, Option.some.injEq, and_comm, IsCreatedUnread,
    ← unread_collection_iff]
  refine and_congr eq_comm ?_
  simp only [Bool.and_eq_true, Bool.not_eq_true', bne_iff_ne, ← Bool.not_eq_true, isReadable_iff,
    contains_methods_iff, and_assoc]

/-- **When there is a warning about a change.** -/
theorem updateWarning?_eq_some_iff {f : Finding} :
    updateWarning? routes path = some f ↔
      ∃ method, f = changedWarning path method ∧ IsChangedUnread routes path method := by
  have hchange : ∀ r : Route, ((r.path == path) = true ∧
      (r.method == "PUT" || r.method == "PATCH") = true) ↔ r.path = path ∧ IsChange r.method := by
    intro r
    simp only [Bool.or_eq_true, beq_iff_eq, IsChange]
  rw [updateWarning?, Option.ite_none_left_eq_some, isReadable_iff, methods, List.find?_map,
    List.find?_filter, Option.map_map, Option.map_eq_some_iff]
  simp only [List.find?_eq_some_iff_append, Function.comp_apply, hchange, decide_eq_true_eq,
    Bool.not_eq_true', decide_eq_false_iff_not, not_and]
  constructor
  · intro h
    obtain ⟨hread, r, ⟨⟨hpath, hverb⟩, before, after, hroutes, hbefore⟩, rfl⟩ := h
    exact ⟨r.method, rfl, hread, hverb, before, r, after, hroutes, hpath, rfl, hbefore⟩
  · intro h
    obtain ⟨_, rfl, hread, hverb, before, r, after, hroutes, hpath, rfl, hbefore⟩ := h
    exact ⟨hread, r, ⟨⟨hpath, hverb⟩, before, after, hroutes, hbefore⟩, rfl⟩

/-! ## The result for routes -/

/-- The warnings about a path: one about its creation, if it is due, and one about a change. -/
def Warns (routes : List Route) (path : String) (found : List Finding) : Prop :=
  ∃ created changed : Option Finding, found = created.toList ++ changed.toList ∧
    (∀ f, created = some f ↔ f = createdWarning path ∧ IsCreatedUnread routes path) ∧
    ∀ f, changed = some f ↔
      ∃ method, f = changedWarning path method ∧ IsChangedUnread routes path method

/-- The paths of the routes, each once, in the order of their first routes. -/
structure AreFirsts (routes : List Route) (paths : List String) : Prop where
  mem : ∀ path, path ∈ paths ↔ ∃ r ∈ routes, r.path = path
  ordered : paths.Pairwise fun a b =>
    (routes.map (·.path)).idxOf a < (routes.map (·.path)).idxOf b

/-- What a result says of routes. -/
structure Reports (routes : List Route) (v : Verdict) : Prop where
  listed : v.routes = some routes
  /-- There is an issue about health, and no other, exactly if no path is one of health. -/
  issues : (v.issues = [.issue .missingHealthEndpoint] ∧ ∀ r ∈ routes, ¬ IsHealth r.path) ∨
    (v.issues = [] ∧ ∃ r ∈ routes, IsHealth r.path)
  passed : v.passed = true ↔ ∃ r ∈ routes, IsHealth r.path
  /-- The warnings are those about the paths, in their order. -/
  warnings : ∃ paths groups, AreFirsts routes paths ∧ List.Forall₂ (Warns routes) paths groups ∧
    v.warnings = groups.flatten

/-- The warnings that the check gives about a path. -/
def pathWarnings (routes : List Route) (path : String) : List Finding :=
  (creationWarning? routes path).toList ++ (updateWarning? routes path).toList

/-- They are the ones that are due. -/
theorem warns_pathWarnings (routes : List Route) (path : String) :
    Warns routes path (pathWarnings routes path) :=
  ⟨_, _, rfl, fun _ => creationWarning?_eq_some_iff, fun _ => updateWarning?_eq_some_iff⟩

/-- The paths that the check goes through are those of the routes, in order. -/
theorem areFirsts_paths (routes : List Route) : AreFirsts routes (paths routes) := by
  refine ⟨fun path => ?_, Firsts.pairwise_eraseDups _⟩
  rw [paths, List.mem_eraseDups, List.mem_map]

/-- The result collects the warnings path by path. -/
theorem warnings_verdict (routes : List Route) :
    (verdict routes).warnings = (paths routes).flatMap (pathWarnings routes) := rfl

/-- There is an issue unless some path is one of health. -/
theorem issues_verdict (routes : List Route) : (verdict routes).issues =
    if routes.any (fun r => RoutePath.isHealth r.path) then [] else
      [.issue .missingHealthEndpoint] := rfl

/-- The result for routes reports them. -/
theorem reports_verdict (routes : List Route) : Reports routes (verdict routes) := by
  have hhealth : (routes.any fun r => RoutePath.isHealth r.path) = true ↔
      ∃ r ∈ routes, IsHealth r.path := by
    simp only [List.any_eq_true, isHealth_iff]
  have hpassed : (verdict routes).passed = (verdict routes).issues.isEmpty := rfl
  refine ⟨rfl, ?_, ?_, ?_⟩
  · rw [issues_verdict]
    by_cases h : ∃ r ∈ routes, IsHealth r.path
    · exact .inr ⟨if_pos (hhealth.mpr h), h⟩
    · refine .inl ⟨if_neg (mt hhealth.mp h), ?_⟩
      push Not at h
      exact h
  · rw [hpassed, issues_verdict, ← hhealth]
    split
    · rename_i h
      exact iff_of_true rfl h
    · rename_i h
      exact iff_of_false nofun h
  · refine ⟨paths routes, (paths routes).map (pathWarnings routes), areFirsts_paths routes, ?_,
      List.flatMap_def ..⟩
    rw [List.forall₂_map_right_iff, List.forall₂_same]
    exact fun path _ => warns_pathWarnings routes path

/-! ## One route more -/

section

variable {before after : List Route} {r : Route}

/-- What is there stays there. -/
theorem Has.insert {method : String} (h : Has (before ++ after) method path) :
    Has (before ++ r :: after) method path := by
  obtain ⟨other, hother, hverb⟩ := h
  refine ⟨other, ?_, hverb⟩
  rw [List.mem_append] at hother ⊢
  exact hother.imp_right (List.mem_cons_of_mem r)

/-- A path with a route to read it has no warnings. -/
theorem pathWarnings_of_read (h : Has routes "GET" path) : pathWarnings routes path = [] := by
  have hcreated : creationWarning? routes path = none :=
    Option.eq_none_iff_forall_ne_some.mpr fun f hf =>
      (creationWarning?_eq_some_iff.mp hf).2.2.1 h
  have hchanged : updateWarning? routes path = none :=
    Option.eq_none_iff_forall_ne_some.mpr fun f hf => by
      obtain ⟨_, -, hread, -⟩ := updateWarning?_eq_some_iff.mp hf
      exact hread h
  rw [pathWarnings, hcreated, hchanged]
  rfl

/-- A route at one path changes nothing about the verbs of another. -/
theorem methods_insert (h : r.path ≠ path) :
    methods (before ++ r :: after) path = methods (before ++ after) path := by
  rw [methods, methods, List.filter_append, List.filter_cons_of_neg (by simpa using h),
    List.filter_append]

/-- A further route takes warnings away from another path, and adds none. -/
theorem pathWarnings_insert (h : r.path ≠ path) :
    (pathWarnings (before ++ r :: after) path).Sublist (pathWarnings (before ++ after) path) := by
  have hchanged : updateWarning? (before ++ r :: after) path =
      updateWarning? (before ++ after) path := by
    rw [updateWarning?, updateWarning?, isReadable, isReadable, methods_insert h]
  have hcreated : (creationWarning? (before ++ r :: after) path).toList.Sublist
      (creationWarning? (before ++ after) path).toList := by
    cases hnew : creationWarning? (before ++ r :: after) path with
    | none => exact List.nil_sublist _
    | some f =>
      obtain ⟨rfl, hpost, hread, parent, hbelow, hparent⟩ := creationWarning?_eq_some_iff.mp hnew
      rw [← contains_methods_iff, methods_insert h, contains_methods_iff] at hpost
      have hold : IsCreatedUnread (before ++ after) path :=
        ⟨hpost, fun hget => hread hget.insert, parent, hbelow, fun hget => hparent hget.insert⟩
      rw [creationWarning?_eq_some_iff.mpr ⟨rfl, hold⟩]
  rw [pathWarnings, pathWarnings, hchanged]
  exact hcreated.append_right _

/-- Other paths keep their order. -/
theorem filter_paths_insert :
    (paths (before ++ r :: after)).filter (· != r.path) =
      (paths (before ++ after)).filter (· != r.path) := by
  rw [paths, paths, ← Firsts.eraseDups_filter, ← Firsts.eraseDups_filter, List.map_append,
    List.map_cons, List.filter_append, List.filter_cons_of_neg (by simp), ← List.filter_append,
    ← List.map_append]

/-- Paths without warnings may be passed over. -/
theorem flatMap_filter_of_nil {α β : Type} {keep : α → Bool} {f : α → List β} {l : List α}
    (h : ∀ a ∈ l, keep a = false → f a = []) : (l.filter keep).flatMap f = l.flatMap f := by
  induction l with
  | nil => rfl
  | cons a l ih =>
    obtain ⟨ha, hl⟩ := List.forall_mem_cons.mp h
    cases hkeep : keep a with
    | true => rw [List.filter_cons_of_pos hkeep, List.flatMap_cons, ih hl, List.flatMap_cons]
    | false =>
      rw [List.filter_cons_of_neg (by simp [hkeep]), ih hl, List.flatMap_cons, ha hkeep,
        List.nil_append]

/-- **A route to read a path takes warnings away and adds none.** -/
theorem warnings_insert_get (h : r.method = "GET") :
    (verdict (before ++ r :: after)).warnings.Sublist (verdict (before ++ after)).warnings := by
  have hnone : ∀ path ∈ paths (before ++ r :: after), (path != r.path) = false →
      pathWarnings (before ++ r :: after) path = [] := by
    intro path _ hpath
    obtain rfl : path = r.path := by simpa using hpath
    exact pathWarnings_of_read ⟨r, by simp, h, rfl⟩
  have hothers : ∀ path ∈ (paths (before ++ after)).filter (· != r.path),
      (pathWarnings (before ++ r :: after) path).Sublist
        (pathWarnings (before ++ after) path) := by
    intro path hpath
    have hne : path ≠ r.path := by simpa using (List.mem_filter.mp hpath).2
    exact pathWarnings_insert hne.symm
  rw [warnings_verdict, warnings_verdict, ← flatMap_filter_of_nil hnone, filter_paths_insert]
  exact (List.Sublist.flatMap_right _ hothers).trans (List.filter_sublist.flatMap _)

/-- A route takes the issue about health away or leaves it. -/
theorem issues_insert :
    (verdict (before ++ r :: after)).issues.Sublist (verdict (before ++ after)).issues := by
  rw [issues_verdict, issues_verdict]
  split
  · exact List.nil_sublist _
  · rename_i hnew
    rw [if_neg fun hold => hnew ?_]
    rw [List.any_append, Bool.or_eq_true] at hold ⊢
    rw [List.any_cons, Bool.or_eq_true]
    exact hold.imp_right .inr

end

/-! ## The result for a project -/

open Auth (RouteText routeTexts)

/-- The routes of the files, in the order of the files. -/
def extracted (p : Project) (found : List Path) : List Route :=
  (routeTexts p found).flatMap fun t => Route.extract t.code t.file

/-- The project has the route files, and no name on its disk holds a zero character. -/
structure HasRouteFiles (p : Project) (found : List Path) : Prop where
  search : ((findRouteFiles p false).run p.disk (.fresh p.root)).1 = .ok found
  nonempty : found ≠ []
  zeroFree : p.disk.IsZeroFree

/-- The routes of a file that can be read are those of its text. -/
theorem routesOf_eq {p : Project} {path : Path} {text : Option String}
    (h : p.disk.readText? path = .ok text) :
    Store.routesOf p.root path text =
      (RouteText.at? p path).toList.flatMap fun t => Route.extract t.code t.file := by
  rw [RouteText.at?, h]
  cases text with
  | none => rfl
  | some code =>
    rw [Store.routesOf]
    dsimp only
    split
    · rfl
    · exact (List.flatMap_singleton _ _).symm

/-- The check comes to the result for the routes of the files. -/
theorem runFresh_eq_verdict {p : Project} {found : List Path} (h : HasRouteFiles p found) :
    Module.api.runFresh p = verdict (extracted p found) := by
  obtain ⟨files, hfiles, rfl⟩ := exists_listing h.search
  have hroutes : ∀ path ∈ filesIn p.root files false,
      (p.disk.readText? path).map (Store.routesOf p.root path) =
        pure ((RouteText.at? p path).toList.flatMap fun t => Route.extract t.code t.file) := by
    intro path hpath
    obtain ⟨text, htext⟩ := readText?_isOk_of_filesIn h.zeroFree hfiles hpath
    rw [htext, ← routesOf_eq htext]
    rfl
  rw [Module.runFresh_eq, Module.scan, eval_run, hfiles, ok_bind, answer,
    if_neg (by simpa using h.nonempty), mapM_congr hroutes, List.mapM_pure, extracted, routeTexts,
    List.filterMap_eq_flatMap_toList, List.flatMap_assoc, List.flatMap_def]
  rfl

/-- **What the API check reports.** For every project with route files the result says of their
routes what is due: all of them, whether there is a path of health, and the warnings path by path.
With one route more there is no further issue about health, and if it is one to read its path, no
further warning. -/
theorem api_reports (p : Project) {found : List Path} (h : HasRouteFiles p found) :
    Reports (extracted p found) (Module.api.runFresh p) ∧
      ∀ (p' : Project) (found' : List Path), HasRouteFiles p' found' → ∀ before r after,
        extracted p found = before ++ after → extracted p' found' = before ++ r :: after →
          (Module.api.runFresh p').issues.Sublist (Module.api.runFresh p).issues ∧
            (r.method = "GET" →
              (Module.api.runFresh p').warnings.Sublist (Module.api.runFresh p).warnings) := by
  rw [runFresh_eq_verdict h]
  refine ⟨reports_verdict _, fun p' found' h' before r after hold hnew => ?_⟩
  rw [runFresh_eq_verdict h', hold, hnew]
  exact ⟨issues_insert, warnings_insert_get⟩

/-! ## A collection that becomes readable -/

/-- A text in which a member of a collection is posted to. -/
def postCode : String := "app.post('/orders/:id', h)\n"

/-- The same text with a route to read the collection. -/
def readCode : String := "app.post('/orders/:id', h)\napp.get('/orders', h)\n"

/-- A project at `/p` with the text as its route file. -/
def ordersProject (code : String) : Project where
  disk := ⟨[(["p"], .directory), (["p", "routes"], .directory),
    (["p", "routes", "a.js"], .file (Text.Utf8.encode code) 1)]⟩
  root := ⟨.top, ["p"]⟩

/-- The route file of such a project. -/
def ordersFile : Path := ⟨.top, ["p", "routes", "a.js"]⟩

/-- A fresh store finds it. -/
theorem hasRouteFiles_orders {code : String} (hcode : code = postCode ∨ code = readCode) :
    HasRouteFiles (ordersProject code) [ordersFile] := by
  have hfiles : (ordersProject code).disk.visibleFiles (ordersProject code).root =
      .ok ["routes/a.js"] := by
    rcases hcode with rfl | rfl
    all_goals
      refine Disk.visibleFiles_of_sorted ["p"] ?_ ?_ ?_
      all_goals decide +kernel
  have hfound : filesIn ⟨.top, ["p"]⟩ ["routes/a.js"] false = [ordersFile] := by
    rw [filesIn_eq_pathsIn]
    decide +kernel
  refine ⟨?_, List.cons_ne_nil _ _, ?_⟩
  · rw [findRouteFiles_fresh, hfiles]
    exact congrArg Except.ok hfound
  · rcases hcode with rfl | rfl
    all_goals decide +kernel

/-- The unread collection is reported, and with a route to read it nothing is. -/
theorem orders_reported :
    let p := ordersProject postCode
    let p' := ordersProject readCode
    HasRouteFiles p [ordersFile] ∧ HasRouteFiles p' [ordersFile] ∧
      Reports (extracted p [ordersFile]) (Module.api.runFresh p) ∧
      (Module.api.runFresh p').warnings.Sublist (Module.api.runFresh p).warnings ∧
      (Module.api.runFresh p).warnings = [createdWarning "/orders/:id"] ∧
      (Module.api.runFresh p').warnings = [] := by
  intro p p'
  have hp : HasRouteFiles p [ordersFile] := hasRouteFiles_orders (.inl rfl)
  have hp' : HasRouteFiles p' [ordersFile] := hasRouteFiles_orders (.inr rfl)
  have hold : extracted p [ordersFile] = [⟨"POST", "/orders/:id", 1, "routes/a.js"⟩] ++ [] := by
    decide +kernel
  have hnew : extracted p' [ordersFile] = [⟨"POST", "/orders/:id", 1, "routes/a.js"⟩] ++
      ⟨"GET", "/orders", 2, "routes/a.js"⟩ :: [] := by
    decide +kernel
  obtain ⟨hreports, hmore⟩ := api_reports p hp
  refine ⟨hp, hp', hreports, (hmore p' [ordersFile] hp' _ _ _ hold hnew).2 rfl, ?_, ?_⟩
  · rw [runFresh_eq_verdict hp, hold]
    decide +kernel
  · rw [runFresh_eq_verdict hp', hnew]
    decide +kernel

end Api

end Preflight.Check
