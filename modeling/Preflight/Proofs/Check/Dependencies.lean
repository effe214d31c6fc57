import Preflight.Proofs.Check.Stopping
import Preflight.Proofs.Manifest
import Preflight.Proofs.Release.Range

/-!
# The dependency check

A package is outdated if it is declared with a text whose first release number is older than the
safe one (`IsOutdated`). The law (`outdated_packages_reported`): a result that says nothing of a
failure warns of the packages that are outdated and of no other, and counts the names of both
sections. What stops the check is the manifest, a number in one of the two texts, or the path to a
lock file; the manifest may be refused for a numeral that no version has to do with
(`numeral_hides_outdated`).

For a range of versions the release number is a lower bound only if the first comparator is no upper
bound (`declared_bounds_range`): the others may admit old releases without a warning
(`upper_bound_hides_outdated`).
-/

set_option autoImplicit false

namespace Preflight.Check.Dependencies

open Release (AreAscii IsFirstRun IsOlder Version)

/-! ## Outdated packages -/

/-- Packages with the oldest release that is safe. -/
def safeReleases : List (String × Version) := [("express", ⟨4, 17, 0⟩), ("lodash", ⟨4, 17, 21⟩)]

/-- The package is declared with a text whose first release number is older than the safe one. -/
def IsOutdated (m : Manifest) (package : String) (safe : Version) : Prop :=
  ∃ spec runs, m.DeclaredAs package spec ∧ IsFirstRun spec.toList runs ∧ AreAscii runs ∧
    IsOlder (runs.map Text.numeral) safe.parts

/-- The result warns of an outdated package. -/
def Warns (v : Verdict) (package : String) : Prop :=
  ∃ f ∈ v.warnings, f.kind = .outdatedPackage ∧ f.payload.subject = some package

instance (v : Verdict) (package : String) : Decidable (Warns v package) := by
  unfold Warns
  infer_instance

/-- The result for a manifest with packages. -/
structure Reports (m : Manifest) (v : Verdict) : Prop where
  outdated : ∀ entry ∈ safeReleases, Warns v entry.1 ↔ IsOutdated m entry.1 entry.2
  total : v.dependencies = some ↑m.packages.toFinset.card

/-- The check looks at the safe releases. -/
theorem mem_minimums_iff {package : String} {minimum : Release} : (package, minimum) ∈ minimums ↔
    ∃ entry ∈ safeReleases, package = entry.1 ∧ minimum = ⟨entry.2.parts⟩ := by
  simp [minimums, safeReleases, Version.parts]

variable {m : Manifest} {v : Verdict} {hasLock : Bool}

/-- The warning about an outdated package. -/
def warningFor (package : String) : Finding :=
  .warning .outdatedPackage
    { subject := some package, detail := some outdatedReason, file := some "package.json" }

/-- A package gets its warning if it is outdated, and no other one. -/
theorem outdatedWarning?_eq_some_iff (hm : (Json.Value.object m.entries).WellFormed)
    {package : String} {safe : Version} {warning? : Option Finding}
    (h : outdatedWarning? m package ⟨safe.parts⟩ = .ok warning?) {f : Finding} :
    warning? = some f ↔ f = warningFor package ∧ IsOutdated m package safe := by
  unfold outdatedWarning? at h
  split at h
  · rename_i hrange
    cases h
    refine iff_of_false nofun fun hf => ?_
    obtain ⟨-, spec, runs, hspec, -⟩ := hf
    rw [(Manifest.range?_eq_some_iff hm).mpr hspec] at hrange
    cases hrange
  · rename_i range hrange
    obtain ⟨declared, hdeclared, h⟩ := bind_eq_ok.mp h
    obtain rfl := Except.ok.inj h
    have hspec : ∀ spec, m.DeclaredAs package spec ↔ spec = range := by
      intro spec
      rw [← Manifest.range?_eq_some_iff hm, hrange, Option.some_inj]
      exact eq_comm
    have hbefore := Release.isBefore_declared?_iff hdeclared ⟨safe.parts⟩
    rw [Option.bind_eq_some_iff]
    constructor
    · intro hf
      obtain ⟨r, rfl, hf⟩ := hf
      split at hf
      · rename_i hr
        obtain ⟨runs, hruns, hascii, holder⟩ := hbefore.mp ⟨r, rfl, hr⟩
        exact ⟨(Option.some.inj hf).symm, range, runs, (hspec range).mpr rfl, hruns, hascii, holder⟩
      · cases hf
    · rintro ⟨rfl, spec, runs, hdeclaredAs, hruns, hascii, holder⟩
      obtain rfl := (hspec spec).mp hdeclaredAs
      obtain ⟨r, hr, hold⟩ := hbefore.mpr ⟨runs, hruns, hascii, holder⟩
      exact ⟨r, hr, if_pos hold⟩

/-- The warnings about outdated packages are those of the packages that are looked at. -/
theorem mem_warnings_iff (h : verdict m hasLock = .ok v) {f : Finding}
    (hf : f.kind = .outdatedPackage) :
    f ∈ v.warnings ↔ ∃ entry ∈ minimums, outdatedWarning? m entry.1 entry.2 = .ok (some f) := by
  obtain ⟨outdated, houtdated, h⟩ := bind_eq_ok.mp h
  obtain rfl := Except.ok.inj h
  have hother : ∀ {kind payload}, kind ≠ .outdatedPackage → f ≠ .warning kind payload := by
    rintro kind payload hkind rfl
    exact hkind hf
  rw [← mem_of_mapM houtdated]
  simp [Verdict.ofFindings, hother]

/-- The result counts the names of both sections. -/
theorem dependencies_of_verdict (h : verdict m hasLock = .ok v) :
    v.dependencies = some ↑m.packages.toFinset.card := by
  obtain ⟨outdated, -, h⟩ := bind_eq_ok.mp h
  obtain rfl := Except.ok.inj h
  exact congrArg (fun count : Nat => some (count : Int)) m.length_dependencies

/-- A result for a manifest with packages reports them. -/
theorem reports_verdict (hm : (Json.Value.object m.entries).WellFormed)
    (h : verdict m hasLock = .ok v) : Reports m v := by
  have hnames : ∀ entry ∈ safeReleases, ∀ other ∈ safeReleases, entry.1 = other.1 →
      entry = other := by decide
  refine ⟨fun entry hentry => ?_, dependencies_of_verdict h⟩
  constructor
  · intro hwarns
    obtain ⟨f, hmem, hkind, hsubject⟩ := hwarns
    obtain ⟨⟨package, minimum⟩, hminimum, hwarning⟩ := (mem_warnings_iff h hkind).mp hmem
    obtain ⟨other, hother, rfl, rfl⟩ := mem_minimums_iff.mp hminimum
    obtain ⟨rfl, hold⟩ := (outdatedWarning?_eq_some_iff hm hwarning).mp rfl
    rwa [hnames other hother entry hentry (Option.some.inj hsubject)] at hold
  · intro hold
    have hminimum := mem_minimums_iff.mpr ⟨entry, hentry, rfl, rfl⟩
    obtain ⟨outdated, houtdated, -⟩ := bind_eq_ok.mp h
    obtain ⟨warning?, -, hwarning⟩ := answer_of_mapM houtdated hminimum
    have hsome := (outdatedWarning?_eq_some_iff hm hwarning).mpr ⟨rfl, hold⟩
    rw [hsome] at hwarning
    exact ⟨warningFor entry.1, (mem_warnings_iff h rfl).mpr ⟨_, hminimum, hwarning⟩, rfl, rfl⟩

/-! ## What stops the check -/

/-- A number in the first release number of a package is too long. -/
def NumberRefused (m : Manifest) (failure : Failure) : Prop :=
  ∃ entry ∈ safeReleases, ∃ spec runs, m.DeclaredAs entry.1 spec ∧ IsFirstRun spec.toList runs ∧
    AreAscii runs ∧ ∃ digits ∈ runs, 4300 < digits.length ∧ failure = .tooManyDigits digits.length

/-- A range is refused for such a number. -/
theorem numberRefused_of_rangeRefused (hm : (Json.Value.object m.entries).WellFormed)
    {failure : Failure} (h : RangeRefused m failure) : NumberRefused m failure := by
  obtain ⟨⟨package, minimum⟩, hminimum, spec, hrange, hrefused⟩ := h
  obtain ⟨entry, hentry, rfl, -⟩ := mem_minimums_iff.mp hminimum
  obtain ⟨runs, hruns, hascii, hlong⟩ := Release.exists_long_of_declared? hrefused
  have hspec := (Manifest.range?_eq_some_iff hm).mp hrange
  exact ⟨entry, hentry, spec, runs, hspec, hruns, hascii, hlong⟩

/-- A reading of the check fails: that of the manifest, the look for lock files, or that of the
first release number of a package. -/
def Fails (p : Project) (failure : Failure) : Prop :=
  Manifest.load p.disk p.root = .error failure ∨
    ∃ fields, Manifest.load p.disk p.root = .ok (.object fields) ∧
      (anyFile p lockFiles = .error failure ∨ NumberRefused (.object fields) failure)

variable {p : Project}

/-- The check is stopped by its own readings only. -/
theorem run_fails (p : Project) : StopsOnlyFor (Fails p) ((run p).eval p.disk p.root) := by
  refine (run_stops p).mono fun failure h => h.imp_right fun h => ?_
  obtain ⟨fields, hload, hlock | hrange⟩ := h
  · exact ⟨fields, hload, .inl hlock⟩
  · exact ⟨fields, hload, .inr
      (numberRefused_of_rangeRefused (Manifest.wellFormed_of_load hload) hrange)⟩

/-- What the check comes to reports the packages, if there is an object with packages. -/
theorem reports_of_eval {v : Verdict} (h : (run p).eval p.disk p.root = .ok v) :
    ∃ m, Manifest.load p.disk p.root = .ok m ∧ ∀ fields, m = .object fields → Reports m v := by
  rw [eval_run] at h
  obtain ⟨m, hload, h⟩ := bind_eq_ok.mp h
  refine ⟨m, hload, ?_⟩
  rintro fields rfl
  obtain ⟨hasLock, -, h⟩ := bind_eq_ok.mp h
  exact reports_verdict (Manifest.wellFormed_of_load hload) h

/-- **Outdated packages are those with an older release number.** Unless one of its readings stops
the check, it warns of each of the two packages exactly if it is declared with a text whose first
release number is older than the safe one; and it counts the names of both sections. -/
theorem outdated_packages_reported (p : Project) :
    (∃ failure, Fails p failure ∧
      Module.dependencies.runFresh p = .stopped "dependencies" failure.label) ∨
    ∃ m, Manifest.load p.disk p.root = .ok m ∧
      ∀ fields, m = .object fields → Reports m (Module.dependencies.runFresh p) := by
  obtain heval | ⟨failure, heval, hstopped⟩ := Module.dependencies.runFresh_cases p
  · exact .inr (reports_of_eval heval)
  · exact .inl ⟨failure, run_fails p failure heval, hstopped⟩

/-- An object with an outdated package, and besides a numeral of more digits than are read. -/
def longSibling : List Char :=
  "\x7b\x22dependencies\x22:\x7b\x22express\x22:\x224.16.0\x22\x7d,\x22x\x22:".toList ++
    ones ++ ['\x7d']

/-- Release 4.16.0 is older than release 4.17.0. -/
theorem isOutdated_of_declaredAs {m : Manifest} {package : String}
    (h : m.DeclaredAs package "4.16.0") : IsOutdated m package ⟨4, 17, 0⟩ := by
  have hascii : AreAscii [['4'], ['1', '6'], ['0']] := by decide
  have hsome : ∀ digits ∈ [['4'], ['1', '6'], ['0']], digits ≠ [] := by decide
  have hruns : IsFirstRun "4.16.0".toList [['4'], ['1', '6'], ['0']] :=
    ⟨⟨[], [], rfl, List.forall_mem_nil _, .nil⟩, List.cons_ne_nil _ _, fun digits hmem =>
      ⟨hsome digits hmem, fun c hc => Release.isDigit_of_isAsciiDigit (hascii digits hmem c hc)⟩⟩
  exact ⟨"4.16.0", _, h, hruns, hascii, Release.partsBefore_iff.mp (by decide)⟩

/-- The numeral has nothing to do with versions, and yet there is no warning of the outdated package
and no count: the check is stopped, although a reader with another limit sees an object. -/
theorem numeral_hides_outdated :
    let p := manifestProject longSibling
    p.disk.readText? (p.root / "package.json") = .ok (some (String.ofList longSibling)) ∧
      (∃ fields, Json.parse (String.ofList longSibling) { digits := 4301 } = .ok (.object fields) ∧
        (Manifest.object fields).packages = [Json.Text.ofString "express"] ∧
          IsOutdated (.object fields) "express" ⟨4, 17, 0⟩) ∧
      ¬ Warns (Module.dependencies.runFresh p) "express" ∧
        (Module.dependencies.runFresh p).dependencies = none := by
  intro p
  have hplain : longSibling.all Text.Utf8.isPlain = true := by decide +kernel
  obtain ⟨hfile, htext⟩ := file_manifestProject hplain
  refine ⟨htext, ?_, ?_⟩
  · have hread : (Json.readAll longSibling { digits := 4301 }).toOption.any (fun value =>
        decide ((Manifest.ofValue value).packages = [Json.Text.ofString "express"] ∧
          (Manifest.ofValue value).DeclaredAs "express" "4.16.0")) = true := by decide +kernel
    rw [Json.parse, String.toList_ofList]
    cases hvalue : Json.readAll longSibling { digits := 4301 } with
    | error stop =>
      rw [hvalue] at hread
      cases hread
    | ok value =>
      rw [hvalue] at hread
      obtain ⟨hpackages, hdeclared⟩ := of_decide_eq_true hread
      cases value with
      | object fields => exact ⟨fields, rfl, hpackages, isOutdated_of_declaredAs hdeclared⟩
      | _ => cases hpackages
  · have hlong : (Manifest.ofChars longSibling).isOk = false := by decide +kernel
    obtain ⟨failure, hrefused⟩ := Manifest.ofText_of_isOk hlong
    obtain ⟨stop, -, hstopped⟩ := Module.stopped_of_refused
      ((Manifest.load_eq hfile htext).trans hrefused)
      (show Module.dependencies ∈ Module.manifestReaders by decide)
    rw [hstopped]
    refine ⟨fun hwarns => ?_, rfl⟩
    obtain ⟨f, hf, -⟩ := hwarns
    cases hf

/-! ## Ranges -/

open Release (Range declared?)

variable {r : Range} {entry : String × Version}

/-- A package with a range is outdated if the version of the first comparator is before the safe
one. -/
theorem isOutdated_of_range (hdeclared : m.DeclaredAs entry.1 r.text)
    (hbefore : r.first.version.Before entry.2) : IsOutdated m entry.1 entry.2 :=
  ⟨r.text, r.first.runs, hdeclared, r.isFirstRun_text,
    fun digits hmem => (r.first.digits_runs digits hmem).2,
    Version.before_iff_isOlder.mp hbefore⟩

/-- Only an object declares packages. -/
theorem isObject_of_declaredAs {package spec : String} (h : m.DeclaredAs package spec) :
    ∃ fields, m = .object fields := by
  obtain ⟨value, hvalue, -⟩ := h
  cases m with
  | missing => cases hvalue
  | malformed => cases hvalue
  | object fields => exact ⟨fields, rfl⟩

/-- **What is read of a range bounds it.** It is the version of the first comparator, unless one of
its numbers is too long: a lower bound of all versions that the range admits if the comparator is no
upper bound, and an upper bound of them if it is. So a package with a range of the former kind that
admits a version before the safe one has its warning, unless the check is stopped. -/
theorem declared_bounds_range (r : Range) :
    ((∃ digits ∈ r.first.runs, 4300 < digits.length ∧
        declared? r.text = .error (.tooManyDigits digits.length)) ∨
      declared? r.text = .ok (some ⟨r.first.version.parts⟩)) ∧
    (∀ v, r.Admits v → (¬ r.first.operator.IsUpper → ¬ v.Before r.first.version) ∧
      (r.first.operator.IsUpper → ¬ r.first.version.Before v)) ∧
    ∀ (p : Project) (m : Manifest), Manifest.load p.disk p.root = .ok m →
      ∀ entry ∈ safeReleases, m.DeclaredAs entry.1 r.text → ¬ r.first.operator.IsUpper →
        ∀ v, r.Admits v → v.Before entry.2 →
          Warns (Module.dependencies.runFresh p) entry.1 ∨ ∃ failure, Fails p failure ∧
            Module.dependencies.runFresh p = .stopped "dependencies" failure.label := by
  refine ⟨r.declared?_text_cases, fun v hv => ⟨fun hop => ?_, fun hop => ?_⟩, ?_⟩
  · exact Release.Operator.not_before_of_admits hop hv.first
  · exact Release.Operator.not_above_of_admits hop hv.first
  · intro p m hload entry hentry hdeclared hop v hv hbefore
    obtain heval | ⟨failure, heval, hstopped⟩ := Module.dependencies.runFresh_cases p
    · obtain ⟨m', hload', hreports⟩ := reports_of_eval heval
      obtain rfl := Except.ok.inj (hload.symm.trans hload')
      obtain ⟨fields, hobject⟩ := isObject_of_declaredAs hdeclared
      have hfirst := Release.Operator.not_before_of_admits hop hv.first
      refine .inl (((hreports fields hobject).outdated entry hentry).mpr ?_)
      exact isOutdated_of_range hdeclared (hbefore.of_not_before hfirst)
    · exact .inr ⟨failure, run_fails p failure heval, hstopped⟩

/-- A manifest that declares one package with a range. -/
def expressManifest (range : List Char) : List Char :=
  "\x7b\x22dependencies\x22:\x7b\x22express\x22:\x22".toList ++ range ++ "\x22\x7d\x7d".toList

/-- A project with such a manifest is read. -/
theorem load_expressManifest (range : List Char)
    (hplain : (expressManifest range).all Text.Utf8.isPlain = true)
    (h : (Manifest.ofChars (expressManifest range)).toOption.any
      (fun m => decide (m.DeclaredAs "express" (String.ofList range))) = true) :
    let p := manifestProject (expressManifest range)
    ∃ m, Manifest.load p.disk p.root = .ok m ∧ m.DeclaredAs "express" (String.ofList range) := by
  intro p
  obtain ⟨hfile, htext⟩ := file_manifestProject hplain
  cases hread : Manifest.ofChars (expressManifest range) with
  | error failure =>
    rw [hread] at h
    cases h
  | ok m =>
    rw [hread] at h
    refine ⟨m, ?_, of_decide_eq_true h⟩
    rw [Manifest.load_eq hfile htext, Manifest.ofText_ofList, hread]

/-- A caret range that admits an old release has its warning. -/
theorem old_caret_range_reported :
    let r : Range := ⟨⟨.caret, .ofDigits '4' [] rfl, .ofDigits '1' [] rfl, .ofDigits '0' [] rfl⟩, []⟩
    let p := manifestProject (expressManifest "^4.1.0".toList)
    r.text = "^4.1.0" ∧ r.Admits ⟨4, 16, 0⟩ ∧ Warns (Module.dependencies.runFresh p) "express" := by
  intro r p
  have htext : r.text = "^4.1.0" := by decide +kernel
  have hadmits : r.Admits ⟨4, 16, 0⟩ := by
    intro c hc
    obtain rfl := List.mem_singleton.mp hc
    show ¬ Version.Before ⟨4, 16, 0⟩ ⟨4, 1, 0⟩ ∧ Version.Before ⟨4, 16, 0⟩ ⟨5, 0, 0⟩
    decide
  obtain ⟨m, hload, hdeclared⟩ :=
    load_expressManifest "^4.1.0".toList (by decide +kernel) (by decide +kernel)
  rw [String.ofList_toList, ← htext] at hdeclared
  obtain hwarns | ⟨failure, -, hstopped⟩ := (declared_bounds_range r).2.2 p m hload
    ("express", ⟨4, 17, 0⟩) (by decide) hdeclared (by rintro (h | h) <;> cases h) ⟨4, 16, 0⟩ hadmits
    (by decide)
  · exact ⟨htext, hadmits, hwarns⟩
  · have hpassed : (Module.dependencies.runFresh p).passed = true := by decide +kernel
    rw [hstopped] at hpassed
    cases hpassed

/-- An upper bound is read as if nothing below it were admitted: there is no warning. -/
theorem upper_bound_hides_outdated :
    let r : Range :=
      ⟨⟨.below, .ofDigits '4' [] rfl, .ofDigits '1' ['7'] rfl, .ofDigits '0' [] rfl⟩, []⟩
    let p := manifestProject (expressManifest "<4.17.0".toList)
    r.text = "<4.17.0" ∧ r.Admits ⟨4, 16, 0⟩ ∧ declared? r.text = .ok (some ⟨[4, 17, 0]⟩) ∧
      (⟨4, 16, 0⟩ : Version).Before ⟨4, 17, 0⟩ ∧
        (∃ m, Manifest.load p.disk p.root = .ok m ∧ m.DeclaredAs "express" r.text) ∧
          ¬ Warns (Module.dependencies.runFresh p) "express" := by
  intro r p
  have htext : r.text = "<4.17.0" := by decide +kernel
  refine ⟨htext, fun c hc => ?_, by decide +kernel, by decide, ?_, by decide +kernel⟩
  · obtain rfl := List.mem_singleton.mp hc
    show Version.Before ⟨4, 16, 0⟩ ⟨4, 17, 0⟩
    decide
  · obtain ⟨m, hload, hdeclared⟩ :=
      load_expressManifest "<4.17.0".toList (by decide +kernel) (by decide +kernel)
    rw [String.ofList_toList] at hdeclared
    exact ⟨m, hload, by rwa [htext]⟩

end Preflight.Check.Dependencies
