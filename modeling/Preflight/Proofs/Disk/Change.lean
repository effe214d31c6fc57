import Preflight.Proofs.Disk.RealPath
import Preflight.Proofs.Disk.Tree

/-!
# Disks on which one file changes

One file below a directory is added, removed or changed, perhaps together with directories on the
way to it (`FileChange`). On a tree without links nothing else can tell: other files have the texts
that they had (`FileChange.readText?_eq`), listings hold the same other files
(`FileChange.filter_visibleBelow`), and real paths are the same (`FileChange.realPath_eq`).
-/

set_option autoImplicit false

namespace Preflight.Disk

/-- A directory of a tree, with no links in it. -/
structure IsLinkless (disk : Disk) (base : Location) : Prop where
  tree : disk.IsTree
  directory : disk.node? base = some .directory
  noLinks : ∀ names target, disk.node? (base ++ names) ≠ some (.link target)

/-- A disk without links has none below a location. -/
theorem isLinkless_of_nodes {disk : Disk} {base : Location} (htree : disk.IsTree)
    (hdirectory : disk.node? base = some .directory)
    (hnodes : disk.nodes.all (fun entry => !(entry.2 matches .link _)) = true) :
    disk.IsLinkless base where
  tree := htree
  directory := hdirectory
  noLinks names target hlink := by
    by_cases hne : base ++ names = []
    · rw [hne] at hlink
      cases hlink
    · have hentry := List.all_eq_true.mp hnodes _ ((htree.node?_eq_some_iff hne).mp hlink)
      cases hentry

/-- A name leads straight to what stands there in the directory, if something does. -/
theorem IsLinkless.isStraight_child {disk : Disk} {base : Location} (h : disk.IsLinkless base)
    {name : String} (hname : LeadsDown name) : disk.IsStraight (base ++ [name]) := by
  cases hnode : disk.node? (base ++ [name]) with
  | none => exact h.tree.isStraight_of_missing h.directory hname hnode
  | some node =>
    exact h.tree.isStraight hnode fun target heq => h.noLinks [name] target (heq ▸ hnode)

/-- A file stands there, or nothing. -/
def IsFileIfAny (node? : Option Node) : Prop :=
  node? = none ∨ ∃ content time, node? = some (.file content time)

/-- Then no directory stands there. -/
theorem IsFileIfAny.ne_directory {node? : Option Node} (h : IsFileIfAny node?) :
    node? ≠ some .directory := by
  obtain rfl | ⟨_, _, rfl⟩ := h <;> exact nofun

/-- A directory stands there, or nothing. -/
def IsDirectoryIfAny (node? : Option Node) : Prop := node? = none ∨ node? = some .directory

/-- The disks differ in one file below a directory, and in directories on the way to it at most. -/
structure FileChange (disk disk' : Disk) (base : Location) (names : List String) : Prop where
  fileBefore : IsFileIfAny (disk.node? (base ++ names))
  fileAfter : IsFileIfAny (disk'.node? (base ++ names))
  wayBefore : ∀ above below, names = above ++ below → above ≠ [] → below ≠ [] →
    IsDirectoryIfAny (disk.node? (base ++ above))
  wayAfter : ∀ above below, names = above ++ below → above ≠ [] → below ≠ [] →
    IsDirectoryIfAny (disk'.node? (base ++ above))
  same : ∀ location, (∀ above below, names = above ++ below → above ≠ [] →
    location ≠ base ++ above) → disk'.node? location = disk.node? location

/-- Nothing is on the way to one name. -/
theorem eq_nil_of_singleton_eq_append {name : String} {above below : List String}
    (h : [name] = above ++ below) (habove : above ≠ []) : below = [] := by
  obtain ⟨rfl, -⟩ | ⟨-, hbelow⟩ := List.append_eq_singleton_iff.mp h.symm
  · exact absurd rfl habove
  · exact hbelow

/-- A file that is set in a directory, where a file or nothing stood, is a change of a file. -/
theorem fileChange_set {disk : Disk} {base : Location} {name : String}
    (hplace : IsFileIfAny (disk.node? (base ++ [name]))) (content : List UInt8) (time : Int) :
    FileChange disk (disk.set (base ++ [name]) (.file content time)) base [name] where
  fileBefore := hplace
  fileAfter := by
    rw [node?_set (by simp), if_pos rfl]
    exact .inr ⟨content, time, rfl⟩
  wayBefore above below heq habove hbelow :=
    absurd (eq_nil_of_singleton_eq_append heq habove) hbelow
  wayAfter above below heq habove hbelow :=
    absurd (eq_nil_of_singleton_eq_append heq habove) hbelow
  same location hother := by
    rw [node?_set (by simp), if_neg (hother [name] [] rfl (by simp))]

namespace FileChange

variable {disk disk' : Disk} {base : Location} {names : List String}

/-! ## Nodes -/

/-- A location at which the disks may differ is that of the file or on the way to it. -/
theorem node?_cases (h : FileChange disk disk' base names) (location : Location) :
    disk'.node? location = disk.node? location ∨ location = base ++ names ∨
      IsDirectoryIfAny (disk.node? location) ∧ IsDirectoryIfAny (disk'.node? location) := by
  by_cases hway : ∀ above below, names = above ++ below → above ≠ [] → location ≠ base ++ above
  · exact .inl (h.same location hway)
  · push Not at hway
    obtain ⟨above, below, hnames, habove, rfl⟩ := hway
    by_cases hbelow : below = []
    · exact .inr (.inl (by rw [hnames, hbelow, List.append_nil]))
    · exact .inr (.inr ⟨h.wayBefore above below hnames habove hbelow,
        h.wayAfter above below hnames habove hbelow⟩)

/-- Links are where they were. -/
theorem link_iff (h : FileChange disk disk' base names) {location : Location} {target : String} :
    disk'.node? location = some (.link target) ↔ disk.node? location = some (.link target) := by
  obtain heq | rfl | ⟨hbefore, hafter⟩ := h.node?_cases location
  · rw [heq]
  · obtain hbefore | ⟨_, _, hbefore⟩ := h.fileBefore <;>
      obtain hafter | ⟨_, _, hafter⟩ := h.fileAfter <;> simp [hbefore, hafter]
  · obtain hbefore | hbefore := hbefore <;> obtain hafter | hafter := hafter <;>
      simp [hbefore, hafter]

/-- Other files are where they were. -/
theorem file_iff (h : FileChange disk disk' base names) {location : Location}
    (hne : location ≠ base ++ names) {content : List UInt8} {time : Int} :
    disk'.node? location = some (.file content time) ↔
      disk.node? location = some (.file content time) := by
  obtain heq | rfl | ⟨hbefore, hafter⟩ := h.node?_cases location
  · rw [heq]
  · exact absurd rfl hne
  · obtain hbefore | hbefore := hbefore <;> obtain hafter | hafter := hafter <;>
      simp [hbefore, hafter]

/-- The directory is where it was. -/
theorem node?_base (h : FileChange disk disk' base names) : disk'.node? base = disk.node? base :=
  h.same base fun above below _ habove heq => habove (by simpa using heq)

/-- No link comes into the directory. -/
theorem isLinkless (h : FileChange disk disk' base names) (hbefore : disk.IsLinkless base)
    (htree : disk'.IsTree) : disk'.IsLinkless base where
  tree := htree
  directory := h.node?_base.trans hbefore.directory
  noLinks other target hlink := hbefore.noLinks other target (h.link_iff.mp hlink)

/-! ## What is asked about paths -/

/-- The text of another file is the same. -/
theorem readText?_eq (h : FileChange disk disk' base names) (hbefore : disk.IsLinkless base)
    (hafter : disk'.IsLinkless base) {path : Path} {other : Location}
    (hpath : path.names = base ++ other) (hne : other ≠ names) {content : List UInt8} {time : Int}
    (hfile : disk.node? (base ++ other) = some (.file content time)) :
    disk'.readText? path = disk.readText? path := by
  have hfile' := (h.file_iff (by simpa using hne)).mpr hfile
  rw [readText?_straight (hpath ▸ hafter.tree.isStraight hfile' (by simp)),
    readText?_straight (hpath ▸ hbefore.tree.isStraight hfile (by simp)), hpath, hfile, hfile']

/-- In the directory there are files under the same names as before, but for the one that changes, and
they have the same texts. -/
theorem child_eq (h : FileChange disk disk' base names) (hbefore : disk.IsLinkless base)
    (hafter : disk'.IsLinkless base) {path : Path} {name : String}
    (hpath : path.names = base ++ [name]) (hname : LeadsDown name) (hne : names ≠ [name]) :
    disk'.isFile path = disk.isFile path ∧ disk'.readText? path = disk.readText? path := by
  have hstraight := hpath ▸ hbefore.isStraight_child hname
  have hstraight' := hpath ▸ hafter.isStraight_child hname
  rw [isFile, isFile, leadsTo_straight hstraight, leadsTo_straight hstraight',
    readText?_straight hstraight, readText?_straight hstraight', hpath]
  obtain heq | heq | ⟨hway, hway'⟩ := h.node?_cases (base ++ [name])
  · rw [heq]
    exact ⟨rfl, rfl⟩
  · exact absurd (List.append_cancel_left heq).symm hne
  · obtain hway | hway := hway <;> obtain hway' | hway' := hway' <;>
      rw [hway, hway'] <;> exact ⟨rfl, rfl⟩

/-- A name in the directory leads to something exactly if something stands there. -/
theorem pathExists_eq (hbefore : disk.IsLinkless base) (hafter : disk'.IsLinkless base) {path : Path}
    {name : String} (hpath : path.names = base ++ [name]) (hname : LeadsDown name)
    (hsame : (disk'.node? (base ++ [name])).isSome = (disk.node? (base ++ [name])).isSome) :
    disk'.pathExists path = disk.pathExists path := by
  have hany : ∀ node? : Option Node, (node?.any fun _ => true) = node?.isSome := fun node? => by
    cases node? <;> rfl
  rw [pathExists, pathExists, leadsTo_straight (hpath ▸ hafter.isStraight_child hname),
    leadsTo_straight (hpath ▸ hbefore.isStraight_child hname), hpath, hany, hany, hsame]

/-! ## Listings -/

/-- **A listing holds the same files of a kind**, if the changed file is hidden, lies in a directory
that is not looked into, or is not of that kind. -/
theorem filter_visibleBelow_eq (h : FileChange disk disk' base names) (root : Path)
    (hbefore : disk.IsLinkless base) (hafter : disk'.IsLinkless base) {kind : String → Bool}
    (hunseen : isHidden (names.getLastD "") = true ∨ names.dropLast.all isOpenDirectory = false ∨
      kind (String.intercalate "/" names) = false) :
    (disk'.visibleBelow root base).filter kind = (disk.visibleBelow root base).filter kind := by
  refine filter_visibleBelow ?_
  rw [listedBelow_eq_map, listedBelow_eq_map, List.filter_map, List.filter_map]
  refine List.Perm.map _ ((List.perm_ext_iff_of_nodup (hafter.tree.listedNames_nodup.filter _)
    (hbefore.tree.listedNames_nodup.filter _)).mpr fun other => ?_)
  rw [List.mem_filter, List.mem_filter, hafter.tree.mem_listedNames hafter.noLinks,
    hbefore.tree.mem_listedNames hbefore.noLinks]
  by_cases hother : other = names
  · subst hother
    obtain hhidden | hclosed | hkind := hunseen
    · simp only [hhidden, Bool.true_eq_false, false_and]
    · simp only [hclosed, Bool.false_eq_true, false_and, and_false]
    · simp only [Function.comp_apply, hkind, Bool.false_eq_true, and_false]
  · have hne : base ++ other ≠ base ++ names := by simpa using hother
    simp only [h.file_iff hne]

/-! ## Real paths -/

/-- **A real path to the directory is a real path to it still.** -/
theorem realPath_eq {cwd path root : Path} (h : FileChange disk disk' root.names names)
    (hafter : disk'.IsLinkless root.names) (hroot : disk.realPath cwd path = .ok root) :
    disk'.realPath cwd path = .ok root := by
  rw [realPath_eq_ok_iff] at hroot ⊢
  obtain ⟨hnul, hreal, -⟩ := hroot
  have hsame : disk'.realLocation (cwd.join path).names = disk.realLocation (cwd.join path).names := by
    simp only [realLocation, follow_nodes_congr fun _ _ => h.link_iff]
  refine ⟨hnul, hsame.symm ▸ hreal, ?_⟩
  rw [stat_straight (hafter.tree.isStraight hafter.directory (by simp)), hafter.directory]
  cases hway : checkWay root with
  | error failure => obtain rfl | rfl := checkWay_error hway <;> exact nofun
  | ok _ => exact nofun

end FileChange

end Preflight.Disk
