import Preflight.Proofs.Store.Query
import Preflight.Report.Validation

/-!
# Checks are independent

The checks of a validation share one store. The law (`checks_are_independent`): none of them can
tell. The result that a validation records for a check is the result of that check on its own; a
check gives the same result whatever was asked of the store before it, also when an earlier check
was stopped half way; and leaving checks out takes their results away and changes no other.

The project does not change while it is checked. What a change does to the store is the matter of
`Preflight.Proofs.Store.Session`.
-/

set_option autoImplicit false

namespace Preflight

namespace Check.Module

/-- A check that shares a faithful store gives what the disk gives, and leaves a faithful store. -/
theorem run_faithful (m : Module) (p : Project) {store : Store}
    (h : store.Faithful p.disk p.root) :
    (m.run p store).1 = m.settle ((m.scan p).eval p.disk p.root) ∧
      (m.run p store).2.Faithful p.disk p.root := by
  obtain ⟨hanswer, hafter⟩ := Scan.run_faithful (m.scan p) h
  exact ⟨congrArg m.settle hanswer, hafter⟩

/-- A check on its own gives what the disk gives. -/
theorem runFresh_eq (m : Module) (p : Project) :
    m.runFresh p = m.settle ((m.scan p).eval p.disk p.root) :=
  (m.run_faithful p (.fresh p.disk p.root)).1

/-- The result of a check with the listing of the project at hand. -/
def runWith (m : Module) (p : Project) (listing : Except Failure (List String)) : Verdict :=
  m.settle ((m.scan p).evalWith p.disk p.root listing)

/-- A listing at hand may stand for the walk over the project. -/
theorem runFresh_eq_runWith (m : Module) {p : Project} {listing : Except Failure (List String)}
    (h : p.disk.visibleFiles p.root = listing) : m.runFresh p = m.runWith p listing := by
  rw [m.runFresh_eq, runWith, Scan.eval_eq_evalWith p.disk p.root h]

/-- A check on its own comes to what the disk gives, or it was stopped by a failure. -/
theorem runFresh_cases (m : Module) (p : Project) :
    (m.scan p).eval p.disk p.root = .ok (m.runFresh p) ∨
      ∃ failure, (m.scan p).eval p.disk p.root = .error failure ∧
        m.runFresh p = .stopped m.name failure.label := by
  rw [m.runFresh_eq]
  cases (m.scan p).eval p.disk p.root with
  | error failure => exact .inr ⟨failure, rfl, rfl⟩
  | ok v => exact .inl rfl

/-- A check passes on its own if the disk gives a result that passes. -/
theorem passed_iff (m : Module) (p : Project) :
    (m.runFresh p).passed = true ↔
      ∃ v, (m.scan p).eval p.disk p.root = .ok v ∧ v.passed = true := by
  rw [m.runFresh_eq]
  cases (m.scan p).eval p.disk p.root with
  | error failure => simp [settle, Verdict.stopped]
  | ok v => simp [settle]

end Check.Module

/-- Checks that share a faithful store give the results that they give on their own. -/
theorem Project.runAll_eq (p : Project) (modules : List Check.Module) : ∀ {store : Store},
    store.Faithful p.disk p.root →
      (p.runAll modules store).1 = modules.map fun m => (m.name, m.runFresh p) := by
  induction modules with
  | nil => exact fun _ => rfl
  | cons m rest ih =>
    intro store h
    obtain ⟨hverdict, hafter⟩ := m.run_faithful p h
    have hhead : (m.run p store).1 = m.runFresh p := hverdict.trans (m.runFresh_eq p).symm
    show (m.name, (m.run p store).1) :: (p.runAll rest (m.run p store).2).1 = _
    rw [hhead, ih hafter, List.map_cons]

/-- The results of a validation are those of the chosen checks, each on its own. -/
theorem validate_results (host : Host) (config : Config) (only : Option (List String)) :
    (validate host config only).map Report.results =
      (config.root host).map fun root => (config.selected only).map fun m =>
        (m.name, m.runFresh ⟨host.disk, root, config.limits⟩) := by
  unfold validate
  cases config.root host with
  | error failure => rfl
  | ok root =>
    exact congrArg Except.ok
      (Project.runAll_eq ⟨host.disk, root, config.limits⟩ _ (.fresh host.disk root))

/-- The chosen checks are those chosen without a skip list, less the skipped ones. -/
theorem Config.selected_eq (config : Config) (only : Option (List String)) :
    config.selected only =
      (({ config with skip := [] } : Config).selected only).filter
        fun m => !config.skip.contains m.name := by
  simp only [Config.selected, Config.modules, List.filter_filter]
  congr 1
  funext m
  simp [Bool.and_comm]

/-- **Checks are independent.** A validation records for each chosen check the result of that check
on its own; whatever texts, routes, listings, patterns and checks a store was asked for, a check
that goes on with it gives the result that it gives on its own; and a skip list takes the results of
the skipped checks out of those of a validation without it. -/
theorem checks_are_independent (host : Host) (config : Config) (only : Option (List String)) :
    (validate host config only).map Report.results =
        ((config.root host).map fun root => (config.selected only).map fun m =>
          (m.name, m.runFresh ⟨host.disk, root, config.limits⟩)) ∧
      (∀ (p : Project) (queries : List Query) (m : Check.Module),
        (m.run p (Query.leaveAll p.disk (.fresh p.root) queries)).1 = m.runFresh p) ∧
      (validate host config only).map Report.results =
        (validate host { config with skip := [] } only).map fun full =>
          full.results.filter fun (name, _) => !config.skip.contains name := by
  refine ⟨validate_results host config only, ?_, ?_⟩
  · intro p queries m
    have hstore := Query.leaveAll_faithful queries (.fresh p.disk p.root)
    exact (m.run_faithful p hstore).1.trans (m.runFresh_eq p).symm
  · have hfull := validate_results host { config with skip := [] } only
    have hroot : ({ config with skip := [] } : Config).root host = config.root host := rfl
    have hfilter : (validate host { config with skip := [] } only).map
        (fun full => full.results.filter fun (name, _) => !config.skip.contains name) =
          ((validate host { config with skip := [] } only).map Report.results).map
            (List.filter fun (name, _) => !config.skip.contains name) := by
      cases validate host { config with skip := [] } only <;> rfl
    rw [hfilter, hfull, hroot, validate_results, config.selected_eq only]
    cases config.root host with
    | error failure => rfl
    | ok root =>
      show Except.ok _ = Except.ok _
      rw [List.filter_map]
      rfl

end Preflight
