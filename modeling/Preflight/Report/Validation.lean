import Preflight.Host
import Preflight.Report.Basic

/-!
# Validations

A validation runs the chosen checks on a project, in the order of a report and with one store for
all of them. Since a store gives the answers that the disk gives, each check gives the result that
it gives on its own.
-/

set_option autoImplicit false

namespace Preflight

/-- The results of the checks one after the other. -/
def Project.runAll (p : Project) :
    List Check.Module → Store → List (String × Verdict) × Store
  | [], store => ([], store)
  | m :: rest, store =>
    let (verdict, store) := m.run p store
    let (results, store) := p.runAll rest store
    ((m.name, verdict) :: results, store)

/-- The report on the project that a configuration names; of the checks that it does not leave out
only those in `only` are run, if it is given. -/
def validate (host : Host) (config : Config) (only : Option (List String) := none) :
    Except Failure Report := do
  let root ← config.root host
  let project : Project := ⟨host.disk, root, config.limits⟩
  return {
    made := host.now
    path := root.text
    results := (project.runAll (config.selected only) (.fresh root)).1 }

end Preflight
