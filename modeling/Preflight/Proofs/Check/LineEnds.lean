import Mathlib.Control.Monad.Basic
import Preflight.Proofs.Check.Alike
import Preflight.Proofs.Disk.Texts
import Preflight.Proofs.Text.LineEnds
import Preflight.Report.Validation

/-!
# Line ends of projects

Checks look at texts, not at bytes: disks that are read alike look alike to them, and a validation
comes to the same report (`validate_eq`). So it does not matter how the lines of a project end
(`line_ends_do_not_matter`): with a return in front of every line feed, in all files or in some of
them, every check has the result that it had.

The files that are changed hold no return before. A return that stands alone ends a line too, and
one in front of it would end another.
-/

set_option autoImplicit false

namespace Preflight

open Text.Utf8 (carriageReturn withReturns fileText_withReturns)

/-! ## Disks that are read alike -/

/-- Disks that are read alike look alike to the checks of every project. -/
theorem Disk.ReadsAlike.looksAlike {disk disk' : Disk} (h : disk.ReadsAlike disk') (root : Path) :
    Check.LooksAlike disk disk' root where
  listing := by
    cases hfiles : disk.visibleFiles root with
    | error failure => exact .inl ⟨failure, rfl, h.visibleFiles_eq root ▸ hfiles⟩
    | ok files =>
      exact .inr ⟨files, files, rfl, h.visibleFiles_eq root ▸ hfiles,
        fun _ _ => rfl, fun _ _ file _ => h.readText?_eq (root / file)⟩
  isFile := fun name _ => h.isFile_eq (root / name)
  readText? := fun name _ => h.readText?_eq (root / name)
  pathExists := fun name _ => h.pathExists_eq (root / name)

/-- **A validation comes to the same report** on a disk that is read alike, whatever it is asked. -/
theorem validate_eq {host : Host} {disk' : Disk} (h : host.disk.ReadsAlike disk') (config : Config)
    (only : Option (List String)) :
    validate { host with disk := disk' } config only = validate host config only := by
  have hroot : config.root { host with disk := disk' } = config.root host := by
    unfold Config.root
    simp only [h.realPath_eq]
  unfold validate
  rw [hroot]
  cases config.root host with
  | error failure => rw [error_bind, error_bind]
  | ok root =>
    have hresults : (Project.runAll ⟨disk', root, config.limits⟩ (config.selected only)
          (.fresh root)).1 =
        (Project.runAll ⟨host.disk, root, config.limits⟩ (config.selected only)
          (.fresh root)).1 := by
      rw [Project.runAll_eq _ _ (.fresh disk' root), Project.runAll_eq _ _ (.fresh host.disk root)]
      refine List.map_congr_left fun m _ => ?_
      rw [← (h.looksAlike root).runFresh_eq (p := ⟨host.disk, root, config.limits⟩) m]
    simp only [ok_bind, hresults]

/-! ## Returns in front of line feeds -/

/-- A node other than a file with a return. -/
def Node.HasNoReturn : Node → Prop
  | .file content _ => carriageReturn ∉ content
  | _ => True

instance : DecidablePred Node.HasNoReturn
  | .file content _ => inferInstanceAs (Decidable (carriageReturn ∉ content))
  | .directory | .link _ => .isTrue trivial

/-- A file with a return in front of every line feed, rewritten at a time. -/
def Node.withReturns (time : Int) : Node → Node
  | .file content _ => .file (Text.Utf8.withReturns content) time
  | node => node

theorem Node.readsAlike_withReturns {node : Node} (h : node.HasNoReturn) (time : Int) :
    node.ReadsAlike (node.withReturns time) := by
  cases node with
  | file content old => exact .file old time (fileText_withReturns h)
  | directory => exact .directory
  | link target => exact .link target

/-- The disk with a return in front of every line feed of the files at the chosen locations, each
rewritten at its time. -/
def Disk.withReturns (disk : Disk) (chosen : Location → Bool) (times : Location → Int) : Disk :=
  ⟨disk.nodes.map fun (location, node) =>
    (location, if chosen location then node.withReturns (times location) else node)⟩

theorem Disk.readsAlike_withReturns {disk : Disk} {chosen : Location → Bool}
    (h : ∀ entry ∈ disk.nodes, chosen entry.1 = true → entry.2.HasNoReturn)
    (times : Location → Int) : disk.ReadsAlike (disk.withReturns chosen times) := by
  refine List.forall₂_map_right_iff.mpr (List.forall₂_same.mpr ?_)
  rintro ⟨location, node⟩ hentry
  refine ⟨rfl, ?_⟩
  dsimp only
  split
  · rename_i hchosen
    exact Node.readsAlike_withReturns (h _ hentry hchosen) _
  · exact .refl node

namespace Check

/-- **Line ends do not matter.** Whichever files of a disk get a return in front of every line feed,
as long as they hold none before: every check of every project has the same result whatever its
limits, and every validation comes to the same report. The bytes of the files need not be well
formed, and the times at which they are rewritten are of no account. -/
theorem line_ends_do_not_matter (disk : Disk) (chosen : Location → Bool) (times : Location → Int)
    (h : ∀ entry ∈ disk.nodes, chosen entry.1 = true → entry.2.HasNoReturn) :
    (∀ (m : Module) (root : Path) (limits : Limits),
        m.runFresh ⟨disk.withReturns chosen times, root, limits⟩ =
          m.runFresh ⟨disk, root, limits⟩) ∧
      ∀ (host : Host) (config : Config) (only : Option (List String)), host.disk = disk →
        validate { host with disk := disk.withReturns chosen times } config only =
          validate host config only := by
  have halike := Disk.readsAlike_withReturns h times
  refine ⟨fun m root limits => ?_, ?_⟩
  · exact (halike.looksAlike root).runFresh_eq (p := ⟨disk, root, limits⟩) m
  · rintro host config only rfl
    exact validate_eq halike config only

/-- A project with a route on its second line, behind a line that is a broken character. -/
def feedDisk : Disk :=
  ⟨[(["p"], .directory), (["p", "routes"], .directory),
    (["p", "routes", "a.js"],
      .file (0xE2 :: 0x82 :: 10 :: Text.Utf8.encode "app.get('/users', h)\n") 1)]⟩

/-- With returns as without, the route is found on its line. -/
theorem broken_line_is_counted :
    (∀ entry ∈ feedDisk.nodes, entry.2.HasNoReturn) ∧
      feedDisk.withReturns (fun _ => true) (fun _ => 2) ≠ feedDisk ∧
      Module.runFresh .api ⟨feedDisk.withReturns (fun _ => true) (fun _ => 2), ⟨.top, ["p"]⟩, {}⟩ =
        Module.runFresh .api ⟨feedDisk, ⟨.top, ["p"]⟩, {}⟩ ∧
      (Module.runFresh .api ⟨feedDisk, ⟨.top, ["p"]⟩, {}⟩).routes =
        some [⟨"GET", "/users", 2, "routes/a.js"⟩] := by
  have hnone : ∀ entry ∈ feedDisk.nodes, entry.2.HasNoReturn := by decide +kernel
  obtain ⟨hresults, -⟩ := line_ends_do_not_matter feedDisk (fun _ => true) (fun _ => 2)
    fun entry hentry _ => hnone entry hentry
  exact ⟨hnone, by decide +kernel, hresults .api ⟨.top, ["p"]⟩ {}, by decide +kernel⟩

end Check

end Preflight
