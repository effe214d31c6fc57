import Mathlib.Data.List.Perm.Subperm
import Preflight.Disk.RealPath
import Preflight.Proofs.Disk.Growth

/-!
# Real paths on disks with the same links

Only links are followed: two disks with the same links lead to the same real location
(`follow_nodes_congr`). The bound on links inside each other depends on the disk; it is no bound in
fact (`follow_depth`), since no link is entered twice. A new file is no link, so a real path is the
same on a disk that gained one (`Gains.realPath_eq`).
-/

set_option autoImplicit false

namespace Preflight.Disk

/-- Names are followed alike on two disks with the same links, if the links are entered alike. -/
theorem followNames_congr {disk disk' : Disk}
    {enter enter' : Location → Location → Path → Followed}
    (hlinks : ∀ location target,
      disk'.node? location = some (.link target) ↔ disk.node? location = some (.link target))
    (henter : ∀ link at_ target, disk.node? link = some (.link target) →
      enter' link at_ (Path.ofString target) = enter link at_ (Path.ofString target))
    (names : List String) :
    ∀ at_, disk'.followNames enter' at_ names = disk.followNames enter at_ names := by
  induction names with
  | nil => exact fun _ => rfl
  | cons name rest ih =>
    intro at_
    unfold followNames
    split
    · exact ih _
    split
    · rename_i target hlink
      have hlink : disk.node? (at_ ++ [name]) = some (.link target) := (hlinks _ _).mp hlink
      rw [hlink]
      simp only [henter _ at_ target hlink]
      split
      · exact ih _
      · rfl
    · rename_i hnone
      split
      · rename_i target hlink
        exact absurd ((hlinks _ _).mpr hlink) (hnone target)
      · exact ih _

/-- Distinct links are no more than there are nodes. -/
theorem length_le_of_links {disk : Disk} {entered : List Location} (hdistinct : entered.Nodup)
    (hlinks : ∀ link ∈ entered, ∃ target, disk.node? link = some (.link target)) :
    entered.length ≤ disk.nodes.length := by
  have hsubset : entered ⊆ disk.nodes.map (·.1) := by
    intro link hlink
    obtain ⟨target, hnode⟩ := hlinks link hlink
    unfold node? at hnode
    split at hnode
    · cases hnode
    · obtain ⟨before, after, hnodes, -⟩ := List.lookup_eq_some_iff.mp hnode
      simp [hnodes]
  have hle := (List.subperm_of_subset hdistinct hsubset).length_le
  rwa [List.length_map] at hle

/-- **The bound on links inside each other is none**: one more changes nothing, since the links on
the way are distinct nodes. -/
theorem follow_depth (disk : Disk) (depth : Nat) : ∀ {entered : List Location},
    entered.Nodup → (∀ link ∈ entered, ∃ target, disk.node? link = some (.link target)) →
      disk.nodes.length < depth + entered.length → ∀ at_ names,
        disk.follow (depth + 1) entered at_ names = disk.follow depth entered at_ names := by
  induction depth with
  | zero =>
    intro entered hdistinct hlinks hbound
    have hle := length_le_of_links hdistinct hlinks
    omega
  | succ depth ih =>
    intro entered hdistinct hlinks hbound at_ names
    unfold follow
    refine followNames_congr (fun _ _ => Iff.rfl) (fun link here target hlink => ?_) names at_
    by_cases hentered : entered.contains link = true
    · rw [if_pos hentered, if_pos hentered]
    · rw [if_neg hentered, if_neg hentered]
      have hnew : link ∉ entered := by simpa using hentered
      refine ih (List.nodup_cons.mpr ⟨hnew, hdistinct⟩) ?_ ?_ _ _
      · exact List.forall_mem_cons.mpr ⟨⟨target, hlink⟩, hlinks⟩
      · rw [List.length_cons]
        omega

/-- More depth than there are nodes changes nothing. -/
theorem follow_of_le (disk : Disk) {depth : Nat} (h : disk.nodes.length + 1 ≤ depth)
    (at_ : Location) (names : List String) :
    disk.follow depth [] at_ names = disk.follow (disk.nodes.length + 1) [] at_ names := by
  induction h with
  | refl => rfl
  | @step depth hle ih =>
    have hbound : disk.nodes.length < depth + ([] : List Location).length := hle
    rw [follow_depth disk depth List.nodup_nil (by simp) hbound at_ names, ih]

/-- Links are followed alike on two disks with the same links. -/
theorem follow_congr {disk disk' : Disk}
    (hlinks : ∀ location target,
      disk'.node? location = some (.link target) ↔ disk.node? location = some (.link target))
    (depth : Nat) : ∀ entered at_ names,
      disk'.follow depth entered at_ names = disk.follow depth entered at_ names := by
  induction depth with
  | zero => exact fun _ at_ names => followNames_congr hlinks (fun _ _ _ _ => rfl) names at_
  | succ depth ih =>
    intro entered at_ names
    unfold follow
    refine followNames_congr hlinks (fun link here target _ => ?_) names at_
    split
    · rfl
    · exact ih _ _ _

/-- **Two disks with the same links lead to the same real location**, however many nodes they have. -/
theorem follow_nodes_congr {disk disk' : Disk}
    (hlinks : ∀ location target,
      disk'.node? location = some (.link target) ↔ disk.node? location = some (.link target))
    (names : List String) : disk'.follow (disk'.nodes.length + 1) [] [] names =
      disk.follow (disk.nodes.length + 1) [] [] names := by
  have hle := Nat.le_max_left (disk.nodes.length + 1) (disk'.nodes.length + 1)
  have hle' := Nat.le_max_right (disk.nodes.length + 1) (disk'.nodes.length + 1)
  rw [← disk.follow_of_le hle, ← disk'.follow_of_le hle', follow_congr hlinks]

/-- The location that names lead to when links are followed and double points taken away. -/
def realLocation (disk : Disk) (names : List String) : Location :=
  let followed := disk.follow (disk.nodes.length + 1) [] [] names
  dropDoublePoints (followed.location ++ followed.left)

/-- A path without a zero character has the real path to that location, unless it goes round in a
circle. -/
theorem realPath_eq_ok_iff {disk : Disk} {cwd path root : Path} :
    disk.realPath cwd path = .ok root ↔ path.text.toList.contains '\x00' = false ∧
      root = ⟨.top, disk.realLocation (cwd.join path).names⟩ ∧
      disk.stat root ≠ .error .tooManyLinks := by
  unfold realPath
  by_cases hnul : path.text.toList.contains '\x00'
  · rw [if_pos hnul, hnul]
    simp
  · rw [if_neg hnul, Bool.not_eq_true _ |>.mp hnul]
    have hreal : (let followed := disk.follow (disk.nodes.length + 1) [] [] (cwd.join path).names
        (⟨.top, dropDoublePoints (followed.location ++ followed.left)⟩ : Path)) =
          ⟨.top, disk.realLocation (cwd.join path).names⟩ := rfl
    simp only [hreal]
    generalize (⟨.top, disk.realLocation (cwd.join path).names⟩ : Path) = real
    split
    · rename_i hcircle
      simp only [reduceCtorEq, true_and, false_iff]
      rintro ⟨rfl, hne⟩
      exact hne hcircle
    · rename_i hfree
      constructor
      · rintro ⟨⟩
        exact ⟨trivial, rfl, hfree⟩
      · rintro ⟨-, rfl, -⟩
        rfl

/-- **A real path is the same on a disk that gained a file.** -/
theorem Gains.realPath_eq {disk disk' : Disk} {location : Location} {content : List UInt8}
    {time : Int} (h : Gains disk disk' location content time) (cwd path : Path) :
    disk'.realPath cwd path = disk.realPath cwd path := by
  unfold realPath
  split
  · rfl
  · simp only [follow_nodes_congr fun _ _ => h.node?_eq_link_iff]
    generalize (⟨.top, dropDoublePoints _⟩ : Path) = real
    obtain heq | ⟨hnone, hblocked | hnew⟩ := h.stat_cases real
    · rw [heq]
    · rw [hnone, hblocked]
    · rw [hnone, hnew]

end Preflight.Disk
