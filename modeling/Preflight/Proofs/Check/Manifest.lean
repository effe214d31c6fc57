import Preflight.Check.Database
import Preflight.Check.Dependencies
import Preflight.Proofs.Scan.Answers

/-!
# Checks of the manifest

What the dependency check and the database check come to, by the manifest that is read
(`Dependencies.eval_run`, `Database.eval_run`).
-/

set_option autoImplicit false

namespace Preflight.Check

/-! ## Dependencies -/

namespace Dependencies

/-- The result for a manifest. -/
def answer (p : Project) : Manifest → Except Failure Verdict
  | .missing => .ok (failed (.issue .packageJsonMissing))
  | .malformed => .ok (failed (.issue .packageJsonMalformed { file := some "package.json" }))
  | .object fields => anyFile p lockFiles >>= verdict (.object fields)

/-- The check gives the result for the manifest of the project. -/
theorem eval_run (p : Project) :
    (run p).eval p.disk p.root = Manifest.load p.disk p.root >>= answer p := by
  rw [run, Scan.eval_bind, Scan.eval_lift]
  congr 1
  funext m
  cases m with
  | missing => rfl
  | malformed => rfl
  | object fields => simp only [Scan.eval_bind, Scan.eval_lift, Scan.eval_ofExcept, answer]

end Dependencies

/-! ## Database -/

namespace Database

/-- The check applies: the environment or the manifest speaks of a database. -/
def applies (env : Env.Table) (m : Manifest) : Bool :=
  env.keys.any (databaseKey.occursIn ·.toList) || (driver? m).isSome

/-- The texts of the files; a missing or empty one is passed over. -/
def codes (p : Project) (files : List Path) : Except Failure (List String) :=
  (files.mapM fun path => (p.disk.readText? path).map fun text =>
    text.filter (!·.isEmpty)).map (List.filterMap id)

/-- The result for the listing of a project to which the check applies. -/
def answer (p : Project) (env : Env.Table) (m : Manifest) (files : List String) :
    Except Failure Verdict :=
  let connections := (Glob.find p.root files connectionFiles).take p.limits.databaseConnectionFiles
  (codes p connections).map fun sources => verdict
    { url := (Env.Table.get? env "DATABASE_URL").getD ""
      driver := driver? m
      hasConnection := !connections.isEmpty
      handled := sources.any (connectionHandling.occursIn ·.toList)
      pooled := sources.any (pooling.occursIn ·.toList)
      hasMigrations := !(Glob.find p.root files migrationFiles).isEmpty
      hasModels := !(Glob.find p.root files modelFiles).isEmpty }

/-- The check gives the result for the environment, the manifest and, if it applies, the listing. -/
theorem eval_run (p : Project) :
    (run p).eval p.disk p.root = (do
      let env ← Environment.loadTable p.disk (p.root / ".env")
      let m ← Manifest.load p.disk p.root
      if applies env m then p.disk.visibleFiles p.root >>= answer p env m
      else return notNeeded) := by
  rw [run]
  simp only [Scan.eval_bind, Scan.eval_lift]
  congr 1
  funext env
  congr 1
  funext m
  have happlies : (!(env.keys.any fun key => databaseKey.occursIn key.toList) &&
      (driver? m).isNone) = !applies env m := by
    rw [applies, Bool.not_or, Option.not_isSome]
  rw [happlies]
  cases applies env m with
  | false => rfl
  | true =>
    have hsome : connectionFiles ≠ [] := by decide
    simp only [Bool.not_true, Bool.false_eq_true, if_false, if_true, Scan.eval_bind,
      Scan.eval_find _ _ p hsome, Scan.eval_forEach, Scan.eval_code?, Scan.eval_files, Scan.eval_pure,
      map_eq_bind]
    cases p.disk.visibleFiles p.root with
    | error failure => rfl
    | ok files => simp only [ok_bind, answer, codes, map_eq_bind, bind_assoc]

end Database

end Preflight.Check
