import Preflight.Proofs.Check.Environment
import Preflight.Proofs.Check.Stopping
import Preflight.Proofs.Manifest

/-!
# The database check

The check applies where a key of the environment mentions a database or where a driver is declared
(`Speaks`), and it gives a result without findings anywhere else. Where it applies it fails exactly
for connection files none of which handles an error. The database is the one that the URL names, or
else that of the first driver that is declared; this may be said without a word about whether the
check applies, since a project with either speaks of a database.

The law (`database_reports`): a result that says nothing of a failure is that, for every project.
What stops the check is one of its own readings, among them that of the manifest: a manifest of too
many digits stops it in a project that speaks of no database (`numeral_stops_database`).
-/

set_option autoImplicit false

namespace Preflight

open Pattern (Mentions)

/-! ## Declared packages -/

namespace Manifest

/-- The package is a key of one of the two sections of dependencies. -/
def IsDeclared (m : Manifest) (package : String) : Prop :=
  Json.Text.ofString package ∈ (m.section? "dependencies").map (·.1) ∨
    Json.Text.ofString package ∈ (m.section? "devDependencies").map (·.1)

/-- The keys of the merged sections are the keys of both. -/
theorem declares_iff {m : Manifest} {package : String} :
    m.declares package = true ↔ m.IsDeclared package := by
  rw [declares, Json.isSome_field?_iff, mem_keys_dependencies, packages, List.map_append,
    List.mem_append]
  exact Iff.rfl

end Manifest

namespace Check.Database

open Environment (tableAt)
open Security (HasCode)

/-! ## Facts of a project -/

/-- Words in a key that speak of a database. -/
def databaseWords : List String := ["DATABASE", "DB", "MONGO", "POSTGRES", "MYSQL", "REDIS"]

/-- The project speaks of a database. -/
def Speaks (p : Project) (m : Manifest) : Prop :=
  (∃ key ∈ (tableAt p.disk (p.root / ".env")).keys, ∃ word ∈ databaseWords,
    Mentions word key.toList) ∨
  ∃ driver ∈ DatabaseKind.drivers, m.IsDeclared driver.1

/-- The connection URL, empty if there is none. -/
def urlOf (p : Project) : String :=
  (Env.Table.get? (tableAt p.disk (p.root / ".env")) "DATABASE_URL").getD ""

/-- The first of the drivers that is declared is one for the database. -/
def FirstDriver (m : Manifest) (kind : String) : Prop :=
  ∃ before package after, DatabaseKind.drivers = before ++ (package, kind) :: after ∧
    m.IsDeclared package ∧ ∀ driver ∈ before, ¬ m.IsDeclared driver.1

/-- A text handles errors in some way. -/
def HandlesErrors (code : String) : Prop :=
  Mentions "catch" code.toList ∨ Mentions "error" code.toList

variable {p : Project} {m : Manifest}

/-- A driver is found if it is the first that is declared. -/
theorem driver?_eq_some_iff {kind : String} : driver? m = some kind ↔ FirstDriver m kind := by
  rw [driver?, Option.map_eq_some_iff]
  simp only [List.find?_eq_some_iff_append, Bool.not_eq_eq_eq_not, Bool.not_true,
    ← Bool.not_eq_true, Manifest.declares_iff]
  constructor
  · intro h
    obtain ⟨⟨package, _⟩, ⟨hdeclared, before, after, hdrivers, hbefore⟩, rfl⟩ := h
    exact ⟨before, package, after, hdrivers, hdeclared, hbefore⟩
  · intro h
    obtain ⟨before, package, after, hdrivers, hdeclared, hbefore⟩ := h
    exact ⟨(package, kind), ⟨hdeclared, before, after, hdrivers, hbefore⟩, rfl⟩

/-- Some driver is found if one is declared. -/
theorem isSome_driver?_iff :
    (driver? m).isSome = true ↔ ∃ driver ∈ DatabaseKind.drivers, m.IsDeclared driver.1 := by
  simp only [driver?, Option.isSome_map, List.find?_isSome, Manifest.declares_iff]

/-- The check applies to projects that speak of a database. -/
theorem applies_iff : applies (tableAt p.disk (p.root / ".env")) m = true ↔ Speaks p m := by
  have hkey : ∀ key : String, databaseKey.occursIn key.toList = true ↔
      ∃ word ∈ databaseWords, Mentions word key.toList := fun _ => Pattern.occursIn_anyWord_iff
  rw [applies, Bool.or_eq_true, isSome_driver?_iff, List.any_eq_true]
  simp only [hkey]
  exact Iff.rfl

/-- Errors are handled where one of the two words is mentioned: the third way mentions the second
word. -/
theorem occursIn_connectionHandling_iff {code : String} :
    connectionHandling.occursIn code.toList = true ↔ HandlesErrors code := by
  rw [connectionHandling, Pattern.choice, Pattern.choice, Pattern.choice,
    Pattern.occursIn_either_iff, Pattern.occursIn_either_iff, Pattern.occursIn_wordAnyCase_iff,
    Pattern.occursIn_wordAnyCase_iff, HandlesErrors]
  · refine or_congr_right (or_iff_left_of_imp fun hcall => ?_)
    exact Pattern.mentions_of_occursIn_append
      (Pattern.occursIn_of_append (Pattern.occursIn_of_append hcall).1).1
  · exact List.cons_ne_nil _ _
  · exact List.cons_ne_nil _ _

/-- The texts of files are what they give when they are looked at. -/
theorem codes_eq_looked (files : List Path) :
    codes p files = Security.looked p files fun _ code => code := by
  simp only [codes, Security.looked, Option.map_id']

/-- The texts are those of the files that can be read and are not empty. -/
theorem mem_codes {files : List Path} {sources : List String} (h : codes p files = .ok sources)
    {code : String} : code ∈ sources ↔ ∃ path ∈ files, HasCode p path code := by
  rw [codes_eq_looked] at h
  rw [Security.mem_looked h]
  refine exists_congr fun path => and_congr_right fun _ => ?_
  constructor
  · intro hcode
    obtain ⟨code, htext, hne, rfl⟩ := hcode
    exact ⟨htext, hne⟩
  · intro hcode
    exact ⟨code, hcode.1, hcode.2, rfl⟩

/-- A project that speaks of no database has no connection URL. -/
theorem urlOf_eq_empty (h : ¬ Speaks p m) : urlOf p = "" := by
  rw [urlOf, Env.Table.get?]
  cases hurl : (tableAt p.disk (p.root / ".env")).lookup "DATABASE_URL" with
  | none => rfl
  | some url =>
    have hkey : "DATABASE_URL" ∈ (tableAt p.disk (p.root / ".env")).keys := by
      obtain ⟨before, after, htable, -⟩ := List.lookup_eq_some_iff.mp hurl
      rw [htable, Env.Table.keys, List.map_append, List.map_cons]
      exact List.mem_append_right _ List.mem_cons_self
    refine absurd (.inl ⟨_, hkey, "DATABASE", by decide, ?_⟩) h
    exact (Pattern.spells_self "DATABASE_URL").mentions (by decide)

/-! ## The result -/

/-- The result of the check for a project whose manifest is at hand. -/
structure Reports (p : Project) (m : Manifest) (v : Verdict) : Prop where
  skipped : v.skipped = true ↔ ¬ Speaks p m
  silent : v.skipped = true →
    v.passed = true ∧ v.issues = [] ∧ v.warnings = [] ∧ v.notes = [] ∧ v.database = none
  fails : v.skipped = false → (v.passed = false ↔ connections p ≠ [] ∧
    ∀ path ∈ connections p, ∀ code, HasCode p path code → ¬ HandlesErrors code)
  ofUrl : ∀ kind, DatabaseKind.ofUrl? (urlOf p) = some kind → v.database = some kind
  ofDriver : DatabaseKind.ofUrl? (urlOf p) = none →
    ∀ kind, v.database = some kind ↔ FirstDriver m kind

/-- The result for a project without a database is the one for a project that speaks of none. -/
theorem reports_notNeeded (h : ¬ Speaks p m) : Reports p m notNeeded := by
  have hurl : DatabaseKind.ofUrl? (urlOf p) = none := by
    rw [urlOf_eq_empty h]
    decide +kernel
  refine ⟨iff_of_true rfl h, fun _ => ⟨rfl, rfl, rfl, rfl, rfl⟩, nofun, ?_, fun _ kind => ?_⟩
  · intro kind hkind
    rw [hurl] at hkind
    cases hkind
  · refine iff_of_false nofun fun hdriver => h (.inr ?_)
    obtain ⟨before, package, after, hdrivers, hdeclared, -⟩ := hdriver
    exact ⟨(package, kind), by rw [hdrivers]; simp, hdeclared⟩

/-- The facts pass if there is no connection file or errors are handled. -/
theorem verdict_passed (f : Facts) :
    (verdict f).passed = false ↔ f.hasConnection = true ∧ f.handled = false := by
  simp only [verdict, Verdict.ofFindings]
  cases f.hasConnection <;> cases f.handled <;> simp

/-- The result from facts is one for the files they were found in. -/
theorem reports_verdict {f : Facts} {sources : List String} (hspeaks : Speaks p m)
    (hsources : codes p (connections p) = .ok sources) (hurl : f.url = urlOf p)
    (hdriver : f.driver = driver? m) (hconnection : f.hasConnection = !(connections p).isEmpty)
    (hhandled : f.handled = sources.any (connectionHandling.occursIn ·.toList)) :
    Reports p m (verdict f) := by
  have hdatabase : (verdict f).database = (DatabaseKind.ofUrl? (urlOf p)).or (driver? m) := by
    rw [← hurl, ← hdriver]
    simp only [verdict, Facts.database?]
  refine ⟨iff_of_false nofun (not_not_intro hspeaks), nofun, fun _ => ?_, fun kind hkind => ?_,
    fun hkind kind => ?_⟩
  · have hfiles : (!(connections p).isEmpty) = true ↔ connections p ≠ [] := by
      rw [Bool.not_eq_true', List.isEmpty_eq_false_iff]
    rw [verdict_passed, hconnection, hhandled, List.any_eq_false, hfiles]
    refine and_congr_right fun _ => ?_
    simp only [mem_codes hsources, occursIn_connectionHandling_iff]
    constructor
    · intro h path hpath code hcode
      exact h code ⟨path, hpath, hcode⟩
    · intro h code hcode
      obtain ⟨path, hpath, hcode⟩ := hcode
      exact h path hpath code hcode
  · rw [hdatabase, hkind, Option.some_or]
  · rw [hdatabase, hkind, Option.none_or, driver?_eq_some_iff]

/-- The table of the environment that is loaded is that of the file. -/
theorem eq_tableAt_of_loadTable {disk : Disk} {path : Path} {table : Env.Table}
    (h : Environment.loadTable disk path = .ok table) : table = tableAt disk path := by
  rw [Environment.loadTable] at h
  obtain ⟨text, htext, h⟩ := bind_eq_ok.mp h
  cases h
  unfold tableAt
  rw [htext]
  cases text <;> rfl

/-- What the check comes to reports the project. -/
theorem reports_of_eval {v : Verdict} (h : (run p).eval p.disk p.root = .ok v) :
    ∃ m, Manifest.load p.disk p.root = .ok m ∧ Reports p m v := by
  rw [eval_run] at h
  obtain ⟨env, henv, h⟩ := bind_eq_ok.mp h
  obtain ⟨m, hload, h⟩ := bind_eq_ok.mp h
  obtain rfl := eq_tableAt_of_loadTable henv
  refine ⟨m, hload, ?_⟩
  split at h
  · rename_i happlies
    obtain ⟨files, hfiles, h⟩ := bind_eq_ok.mp h
    rw [answer, ← matching_eq hfiles] at h
    obtain ⟨sources, hsources, rfl⟩ := map_eq_ok.mp h
    exact reports_verdict (applies_iff.mp happlies) hsources rfl rfl rfl rfl
  · rename_i happlies
    obtain rfl := Except.ok.inj h
    exact reports_notNeeded (mt applies_iff.mpr happlies)

/-- A reading of the check fails. -/
def Fails (p : Project) (failure : Failure) : Prop :=
  p.disk.readText? (p.root / ".env") = .error failure ∨
    Manifest.load p.disk p.root = .error failure ∨
      p.disk.visibleFiles p.root = .error failure ∨
        ∃ path ∈ connections p, p.disk.readText? path = .error failure

/-- The check is stopped by its own readings only. -/
theorem run_fails (p : Project) : StopsOnlyFor (Fails p) ((run p).eval p.disk p.root) := by
  refine (run_stops p).mono fun failure h => ?_
  rcases h with (⟨hpath, -⟩ | ⟨hpath, -⟩ | ⟨hpath, h⟩ | ⟨hpath, h⟩) | h
  · cases hpath
  · cases hpath
  · cases List.mem_singleton.mp hpath
    exact .inr (.inr (.inl h))
  · obtain rfl | hpath := List.mem_cons.mp hpath
    · exact .inl h
    · exact .inr (.inr (.inr ⟨_, hpath, h⟩))
  · exact .inr (.inl h)

/-- **The result of the database check.** Unless one of its readings stops it, it is skipped exactly
if the project speaks of no database, and then nothing is reported; it fails exactly if there are
connection files and none of them handles errors; and the database is that of the URL, or else that
of the first declared driver. -/
theorem database_reports (p : Project) :
    (∃ failure, Fails p failure ∧
      Module.database.runFresh p = .stopped "database" failure.label) ∨
    ∃ m, Manifest.load p.disk p.root = .ok m ∧ Reports p m (Module.database.runFresh p) := by
  obtain heval | ⟨failure, heval, hstopped⟩ := Module.database.runFresh_cases p
  · exact .inr (reports_of_eval heval)
  · exact .inl ⟨failure, run_fails p failure heval, hstopped⟩

/-- Neither the environment nor the manifest speaks of a database, for the one is missing and the
other holds no object, and yet the check is not skipped: a numeral of the manifest stops it. -/
theorem numeral_stops_database :
    let p := manifestProject longNumeral
    tableAt p.disk (p.root / ".env") = [] ∧
      p.disk.readText? (p.root / "package.json") = .ok (some (String.ofList longNumeral)) ∧
        '\x7b' ∉ longNumeral ∧ (Module.database.runFresh p).skipped = false ∧
          (Module.database.runFresh p).passed = false := by
  intro p
  have hplain : longNumeral.all Text.Utf8.isPlain = true := by decide +kernel
  obtain ⟨hfile, htext⟩ := file_manifestProject hplain
  obtain ⟨failure, hrefused⟩ := ofText_longNumeral
  obtain ⟨stop, -, hstopped⟩ := Module.stopped_of_refused
    ((Manifest.load_eq hfile htext).trans hrefused)
    (show Module.database ∈ Module.manifestReaders by decide)
  refine ⟨by decide +kernel, htext, by decide +kernel, ?_, ?_⟩
  · rw [hstopped]
    rfl
  · rw [hstopped]
    rfl

end Check.Database

end Preflight
