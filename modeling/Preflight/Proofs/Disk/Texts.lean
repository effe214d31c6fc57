import Preflight.Proofs.Disk.RealPath
import Preflight.Proofs.Disk.Shape

/-!
# Disks that are read alike

Two disks are read alike when the same nodes stand at the same locations, except that a file may
have other bytes with the same text and another time (`ReadsAlike`). They have one shape, so every path
leads to the same place on both (`ReadsAlike.locate`), and all that is asked about a disk is answered
alike: what a path leads to, its text, its real path and the visible files below it. Only the stamps
may differ, by which a change is noticed.
-/

set_option autoImplicit false

namespace Preflight

/-- Two nodes are read alike: they are the same, up to the bytes that write a text. -/
inductive Node.ReadsAlike : Node → Node → Prop
  | file {content content' : List UInt8} (time time' : Int)
      (h : Text.Utf8.fileText content' = Text.Utf8.fileText content) :
      ReadsAlike (.file content time) (.file content' time')
  | directory : ReadsAlike .directory .directory
  | link (target : String) : ReadsAlike (.link target) (.link target)

theorem Node.ReadsAlike.refl (node : Node) : node.ReadsAlike node := by
  cases node with
  | file content time => exact .file time time rfl
  | directory => exact .directory
  | link target => exact .link target

/-- What two locations hold is read alike. -/
def Node.ReadAlike? : Option Node → Option Node → Prop := Option.Rel Node.ReadsAlike

namespace Disk

/-- The same locations in the same order, with nodes that are read alike. -/
def NodesAlike : List (Location × Node) → List (Location × Node) → Prop :=
  List.Forall₂ fun entry entry' => entry.1 = entry'.1 ∧ entry.2.ReadsAlike entry'.2

/-- Two disks are read alike, node by node. -/
def ReadsAlike (disk disk' : Disk) : Prop := NodesAlike disk.nodes disk'.nodes

/-- Two walks come to the same place, where the nodes are read alike, or fail alike. -/
inductive FoundAlike : Except Failure Found → Except Failure Found → Prop
  | failed (failure : Failure) : FoundAlike (.error failure) (.error failure)
  | found (location : Location) {node? node?' : Option Node} (h : Node.ReadAlike? node? node?') :
      FoundAlike (.ok ⟨location, node?⟩) (.ok ⟨location, node?'⟩)

namespace ReadsAlike

variable {disk disk' : Disk}

/-! ## Nodes -/

theorem node? (h : disk.ReadsAlike disk') (location : Location) :
    Node.ReadAlike? (disk.node? location) (disk'.node? location) := by
  unfold Disk.node?
  split
  · exact .some .directory
  · exact lookup_rel h location

theorem link_iff (h : disk.ReadsAlike disk') (location : Location) (target : String) :
    disk'.node? location = some (.link target) ↔ disk.node? location = some (.link target) := by
  have halike := h.node? location
  generalize disk.node? location = node? at halike
  generalize disk'.node? location = node?' at halike
  cases halike with
  | none => rfl
  | some halike => cases halike <;> simp

/-! ## Walks -/

/-- Bytes that write one text. -/
def SameText (content content' : List UInt8) : Prop :=
  Text.Utf8.fileText content' = Text.Utf8.fileText content

/-- Nodes that are read alike are of one kind, with the same text. -/
theorem shaped_iff {node node' : Node} : node.Shaped SameText node' ↔ node.ReadsAlike node' := by
  constructor
  · intro h
    cases h with
    | file time time' htext => exact .file time time' htext
    | directory => exact .directory
    | link target => exact .link target
  · intro h
    cases h with
    | file time time' htext => exact .file time time' htext
    | directory => exact .directory
    | link target => exact .link target

/-- Disks that are read alike have one shape. -/
theorem shaped (h : disk.ReadsAlike disk') : disk.Shaped SameText disk' := by
  intro location
  have halike := h.node? location
  generalize disk.node? location = node? at halike ⊢
  generalize disk'.node? location = node?' at halike ⊢
  cases halike with
  | none => exact .none
  | some halike => exact .some (shaped_iff.mpr halike)

/-- **Every path leads to the same place**, or fails alike. -/
theorem locate (h : disk.ReadsAlike disk') (path : Path) (followLast : Bool) :
    FoundAlike (disk.locate path followLast) (disk'.locate path followLast) := by
  have hfound := h.shaped.locate path followLast
  generalize disk.locate path followLast = result at hfound ⊢
  generalize disk'.locate path followLast = result' at hfound ⊢
  cases hfound with
  | failed failure => exact .failed failure
  | found location hnode =>
    cases hnode with
    | none => exact .found location .none
    | some hnode => exact .found location (.some (shaped_iff.mp hnode))

/-- What a path leads to is read alike. -/
theorem stat_cases (h : disk.ReadsAlike disk') (path : Path) :
    (∃ failure, disk.stat path = .error failure ∧ disk'.stat path = .error failure) ∨
      ∃ node node', disk.stat path = .ok node ∧ disk'.stat path = .ok node' ∧
        node.ReadsAlike node' := by
  simp only [← shaped_iff]
  exact h.shaped.stat_cases path

/-! ## What is asked about a path -/

theorem pathExists_eq (h : disk.ReadsAlike disk') (path : Path) :
    disk'.pathExists path = disk.pathExists path :=
  h.shaped.pathExists_eq path

theorem isFile_eq (h : disk.ReadsAlike disk') (path : Path) :
    disk'.isFile path = disk.isFile path :=
  h.shaped.isFile_eq path

/-- **Every path has the same text.** -/
theorem readText?_eq (h : disk.ReadsAlike disk') (path : Path) :
    disk'.readText? path = disk.readText? path := by
  obtain ⟨hsame, -⟩ | ⟨content, content', htext, hbefore, hafter⟩ := h.shaped.readText?_cases path
  · exact hsame
  · rw [hbefore, hafter, htext]

/-- **Every path has the same real path.** -/
theorem realPath_eq (h : disk.ReadsAlike disk') (cwd path : Path) :
    disk'.realPath cwd path = disk.realPath cwd path := by
  unfold realPath
  split
  · rfl
  · simp only [follow_nodes_congr h.link_iff]
    generalize (⟨.top, dropDoublePoints _⟩ : Path) = real
    obtain ⟨failure, hbefore, hafter⟩ | ⟨node, node', hbefore, hafter, -⟩ := h.stat_cases real
    · rw [hbefore, hafter]
    · rw [hbefore, hafter]

/-! ## Listings -/

/-- **Every directory has the same visible files.** -/
theorem visibleFiles_eq (h : disk.ReadsAlike disk') (root : Path) :
    disk'.visibleFiles root = disk.visibleFiles root := by
  have hnodes : NodesShaped SameText disk.nodes disk'.nodes :=
    List.Forall₂.imp (fun _ _ hentry => ⟨hentry.1, shaped_iff.mpr hentry.2⟩) h
  exact hnodes.visibleFiles_eq root

end ReadsAlike

end Disk

end Preflight
