import Preflight.Proofs.Check.RouteFiles
import Preflight.Proofs.Store.Session

/-!
# Looking files up

A store is asked for the files of patterns and answers with paths. It drops repeats among the paths,
not among the entries of the listing, so two things could go wrong: different entries could become
one path, and a path need not be called by the entry it comes from.

The law (`session_finds_in_order`): over project trees neither happens, at any moment of a session.
The paths are the matched entries, pattern by pattern, each at its first place and with the root in
front. The carrier is that such a store knows files only (`Store.KnowsFiles`): the listing that it
remembers was one of a tree, also where the disk has another one by now. Without a pattern the
listing is not asked for; for any pattern its failure is the answer.
-/

set_option autoImplicit false

namespace Preflight

open Glob

/-! ## Stores over project trees -/

namespace Store

/-- **A store knows files only**: it is about the root, and a listing that it remembers has files in
it, written by names. -/
structure KnowsFiles (root : Path) (store : Store) : Prop where
  root_eq : store.root = root
  listing : ∀ files, store.listing? = some files → ∀ file ∈ files, Place.IsFile file

namespace KnowsFiles

variable {disk : Disk} {root : Path} {store : Store}

/-- A store that remembers nothing has no listing. -/
theorem fresh (root : Path) : KnowsFiles root (Store.fresh root) where
  root_eq := rfl
  listing := by
    intro files h
    cases h

/-- What is asked apart from the listing keeps the root and the listing. -/
theorem of_eq (h : KnowsFiles root store) {after : Store} (hroot : after.root = store.root)
    (hlisting : after.listing? = store.listing?) : KnowsFiles root after :=
  ⟨hroot.trans h.root_eq, fun files hfiles => h.listing files (hlisting ▸ hfiles)⟩

/-- The listing of a project tree, remembered or made, has files in it. -/
theorem isFile_of_listing (htree : disk.IsTree) (h : KnowsFiles root store) {files : List String}
    (hfiles : (store.listing disk).1 = .ok files) : ∀ file ∈ files, Place.IsFile file := by
  unfold Store.listing at hfiles
  split at hfiles
  · rename_i known hknown
    obtain rfl := Except.ok.inj hfiles
    exact h.listing known hknown
  · split at hfiles
    · cases hfiles
    · rename_i found hfound
      obtain rfl := Except.ok.inj hfiles
      exact (Check.isFile_of_mem_visibleFiles htree hfound).1

/-- Asking for the listing leaves such a store. -/
theorem afterListing (htree : disk.IsTree) (h : KnowsFiles root store) :
    KnowsFiles root (store.listing disk).2 := by
  unfold Store.listing
  split
  · exact h
  · split
    · exact h
    · rename_i found hfound
      refine ⟨h.root_eq, fun files hfiles => ?_⟩
      obtain rfl := Option.some.inj hfiles
      exact (Check.isFile_of_mem_visibleFiles htree hfound).1

/-- **A question about a project tree leaves a store that knows files only.** -/
theorem afterQuery (htree : disk.IsTree) (h : KnowsFiles root store) (query : Query) :
    KnowsFiles root (query.leave disk store) := by
  obtain ⟨α, scan, hscan⟩ := Query.leave_eq_run disk store query
  rw [hscan]
  refine Scan.run_keeps ?_ ?_ (fun _ hstore => hstore.afterListing htree) scan store h
  · intro path before hbefore
    obtain ⟨texts, hkeeps⟩ := Store.read_keeps disk path before
    rw [hkeeps]
    exact hbefore.of_eq rfl rfl
  · intro path before hbefore
    obtain ⟨hroot, hlisting⟩ := Store.routes_keeps disk path before
    exact hbefore.of_eq hroot hlisting

end KnowsFiles

end Store

/-! ## Paths and entries -/

namespace Glob

/-- **Found paths lead back to the entries that were matched.** -/
theorem map_relativeTo_find {files : List String} (hfiles : ∀ file ∈ files, Place.IsFile file)
    (root : Path) (patterns : List String) :
    (find root files patterns).map (Store.relativeTo root) =
      (matched patterns files).eraseDups := by
  have hcalled : ∀ file ∈ (matched patterns files).eraseDups,
      Store.relativeTo root (root / file) = file := fun file hfile =>
    Place.relativeTo_div (hfiles file (mem_of_mem_matched (List.mem_eraseDups.mp hfile))) root
  rw [Place.find_eq_map hfiles, List.map_map, Function.comp_def,
    List.map_congr_left (g := id) hcalled, List.map_id]

/-- More patterns add paths at the end. -/
theorem find_isPrefix (root : Path) (files patterns more : List String) :
    find root files patterns <+: find root files (patterns ++ more) := by
  rw [find, find, List.flatMap_append]
  exact Firsts.eraseDups_isPrefix _ _

end Glob

/-! ## The answers of a store -/

namespace Store

variable {disk : Disk} {store : Store}

/-- What a store answers for patterns. -/
def found (disk : Disk) (store : Store) (patterns : List String) : Except Failure (List Path) :=
  ((Project.find ⟨disk, store.root, {}⟩ patterns).run disk store).1

/-- For a pattern the listing is asked for, and its failure is the answer. -/
theorem found_cons (pattern : String) (more : List String) :
    store.found disk (pattern :: more) =
      (store.listing disk).1.map fun files => find store.root files (pattern :: more) := by
  show (Scan.afterAnswer _ (store.listing disk)).1 = _
  rcases store.listing disk with ⟨_ | files, after⟩ <;> rfl

/-- A store that lists answers with what is found in the listing. -/
theorem found_of_listing {files : List String} (h : (store.listing disk).1 = .ok files)
    (patterns : List String) :
    store.found disk patterns = .ok (find store.root files patterns) := by
  cases patterns with
  | nil => rfl
  | cons pattern more =>
    rw [found_cons, h]
    rfl

/-- A store that fails to list fails for any pattern. -/
theorem found_of_failure {failure : Failure} (h : (store.listing disk).1 = .error failure)
    {patterns : List String} (hsome : patterns ≠ []) :
    store.found disk patterns = .error failure := by
  obtain ⟨pattern, more, rfl⟩ := List.exists_cons_of_ne_nil hsome
  rw [found_cons, h]
  rfl

end Store

namespace Session

/-- After any events over project trees the store knows files only, and the last disk is one. -/
theorem afterAll_knowsFiles {disk : Disk} {root : Path} {events : List Event}
    (htree : ∀ d ∈ (start disk root).disks events, d.IsTree) :
    let s := (start disk root).afterAll events
    s.store.KnowsFiles root ∧ s.disk.IsTree := by
  obtain ⟨hknows, hlast⟩ := afterAll_keeps (P := Store.KnowsFiles root)
    (fun d hd _ query h => h.afterQuery (htree d hd) query) events (List.Subset.refl _)
    (.fresh root)
  exact ⟨hknows, htree _ hlast⟩

/-- **Looking up keeps the order, drops only repeats and inverts.** At any moment of a session over
project trees, the paths found for patterns are the entries of the listing that the patterns match,
pattern by pattern, each at its first place and with the root in front; a report calls each path by
its entry; and more patterns add paths at the end. Where the listing fails, so does looking up. -/
theorem session_finds_in_order (disk : Disk) (root : Path) (events : List Event)
    (htree : ∀ d ∈ (start disk root).disks events, d.IsTree) (patterns : List String) :
    let s := (start disk root).afterAll events
    let find := s.store.found s.disk
    find [] = .ok [] ∧
      (∀ failure, (s.store.listing s.disk).1 = .error failure → patterns ≠ [] →
        find patterns = .error failure) ∧
      ∀ files, (s.store.listing s.disk).1 = .ok files →
        let entries := (matched patterns files).eraseDups
        ∃ found, find patterns = .ok found ∧ found.Nodup ∧ found = entries.map (root / ·) ∧
          found.map (Store.relativeTo root) = entries ∧
          ∀ more, ∃ others, find (patterns ++ more) = .ok (found ++ others) := by
  intro s find
  obtain ⟨hknows, hlast⟩ := afterAll_knowsFiles htree
  refine ⟨rfl, fun failure hfailure hsome => Store.found_of_failure hfailure hsome,
    fun files hfiles => ?_⟩
  have hnamed := hknows.isFile_of_listing hlast hfiles
  have hfind (patterns : List String) : find patterns = .ok (Glob.find root files patterns) := by
    rw [← hknows.root_eq]
    exact Store.found_of_listing hfiles patterns
  refine ⟨_, hfind patterns, Firsts.nodup_eraseDups _, Place.find_eq_map hnamed root patterns,
    map_relativeTo_find hnamed root patterns, fun more => ?_⟩
  obtain ⟨others, hothers⟩ := find_isPrefix root files patterns more
  exact ⟨others, by rw [hfind, hothers]⟩

/-! ## Patterns that overlap -/

/-- A project with routes below its sources. -/
def nestedDisk : Disk :=
  ⟨[(["p"], .directory), (["p", "src"], .directory), (["p", "src", "app.js"], .file [] 1),
    (["p", "src", "routes"], .directory), (["p", "src", "routes", "users.js"], .file [] 1)]⟩

/-- The store is asked for its routes. -/
def nestedAsked : Session := (start nestedDisk sampleRoot).after (.ask (.find ["**/routes/*.js"]))

/-- Then there is one more file of them. -/
def nestedWrite : Event := .write ⟨.top, ["p", "src", "routes", "later.js"]⟩ [] 2

/-- What the store remembers is the listing of the first disk. -/
theorem listing_nested :
    (nestedAsked.after nestedWrite).store.listing? =
      some ["src/app.js", "src/routes/users.js"] := by
  have hfirst : nestedDisk.visibleFiles sampleRoot = .ok ["src/app.js", "src/routes/users.js"] :=
    Disk.visibleFiles_of_sorted ["p"] (by decide +kernel) (by decide +kernel) (by decide +kernel)
  obtain ⟨_, hask, -⟩ | hkept := after_store nestedAsked nestedWrite
  · cases hask
  · rw [hkept]
    simp only [nestedAsked, after, start, Query.leave, Project.find, Scan.run, Store.listing,
      Store.fresh, hfirst, Scan.afterAnswer]

/-- The file that both patterns match is found once, and the later file is not. -/
theorem nested_finds_in_order :
    let events := [.ask (.find ["**/routes/*.js"]), nestedWrite]
    let s := (start nestedDisk sampleRoot).afterAll events
    (∀ d ∈ (start nestedDisk sampleRoot).disks events, d.IsTree) ∧
      (s.store.listing s.disk).1 = .ok ["src/app.js", "src/routes/users.js"] ∧
      s.store.found s.disk ["**/routes/**/*.js", "**/src/**/*.js"] =
        .ok [sampleRoot / "src/routes/users.js", sampleRoot / "src/app.js"] := by
  intro events s
  have htree : ∀ d ∈ (start nestedDisk sampleRoot).disks events, d.IsTree := by decide +kernel
  have hlisting : (s.store.listing s.disk).1 = .ok ["src/app.js", "src/routes/users.js"] := by
    show ((nestedAsked.after nestedWrite).store.listing (nestedAsked.after nestedWrite).disk).1 = _
    simp only [Store.listing, listing_nested]
  obtain ⟨-, -, hfound⟩ := session_finds_in_order nestedDisk sampleRoot events htree
    ["**/routes/**/*.js", "**/src/**/*.js"]
  obtain ⟨found, hfind, -, hentries, -⟩ := hfound _ hlisting
  refine ⟨htree, hlisting, hfind.trans ?_⟩
  rw [hentries]
  decide +kernel

end Session

end Preflight
