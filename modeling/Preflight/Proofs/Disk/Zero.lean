import Mathlib.Data.List.Infix
import Preflight.Proofs.Disk.Tree
import Preflight.Proofs.Scan.Stopping
import Preflight.Proofs.Text.Split

/-!
# Paths without a zero character

A reading is refused for a zero character in the path and for nothing else (`readText?_isOk`): a walk
itself never complains of one. Where no name on the disk holds one, as on every real disk, whatever
a listing names can be read (`readText?_isOk_of_listed`); a root with a zero character has no listing.
-/

set_option autoImplicit false

namespace Preflight

/-! ## Zero characters in paths -/

namespace Path

/-- A character other than the slash stands in joined names if it stands in one of them. -/
theorem zero_mem_intercalate_iff {names : List String} :
    '\x00' ∈ (String.intercalate "/" names).toList ↔ ∃ name ∈ names, '\x00' ∈ name.toList := by
  rw [toList_intercalate_names, ← List.singleton_infix_iff,
    Text.infix_intercalate_iff (by decide) (List.cons_ne_nil _ _)]
  simp only [List.singleton_infix_iff, List.mem_map, exists_exists_and_eq_and]

/-- A path is written with a zero character if one of its names holds one. -/
theorem zero_mem_text_iff {p : Path} :
    '\x00' ∈ p.text.toList ↔ ∃ name ∈ p.names, '\x00' ∈ name.toList := by
  have hstart : '\x00' ∉ p.start.text.toList := by
    cases p.start <;> decide
  rw [text]
  split
  · rename_i hpoint
    simp only [Bool.and_eq_true, List.isEmpty_iff] at hpoint
    simp [hpoint.2]
  · rw [String.toList_append, List.mem_append, or_iff_right hstart, zero_mem_intercalate_iff]

/-- The names that are read hold what the text holds. -/
theorem zero_notMem_ofString {s : String} (h : '\x00' ∉ s.toList) :
    ∀ name ∈ (ofString s).names, '\x00' ∉ name.toList := by
  intro name hname hzero
  obtain ⟨part, hpart, rfl⟩ := List.mem_map.mp hname
  rw [String.toList_ofList] at hzero
  have hjoin : ['/'].intercalate (s.toList.splitOn '/') = s.toList := List.intercalate_splitOn '/'
  refine h ?_
  rw [← hjoin, ← List.singleton_infix_iff,
    Text.infix_intercalate_iff (by decide) (List.cons_ne_nil _ _)]
  exact ⟨part, (List.mem_filter.mp hpart).1, (List.singleton_infix_iff _ _).mpr hzero⟩

/-- A path that leads on has the zero characters of both. -/
theorem zero_notMem_div {root : Path} {s : String} (hroot : '\x00' ∉ root.text.toList)
    (h : '\x00' ∉ s.toList) : '\x00' ∉ (root / s).text.toList := by
  rw [zero_mem_text_iff] at hroot ⊢
  push Not at hroot ⊢
  show ∀ name ∈ (root.join (ofString s)).names, '\x00' ∉ name.toList
  unfold join
  split
  · exact List.forall_mem_append.mpr ⟨hroot, zero_notMem_ofString h⟩
  · exact zero_notMem_ofString h

end Path

namespace Disk

variable {disk : Disk}

/-! ## Walks -/

/-- A walk does not complain of a zero character if it does not after a link. -/
theorem walkNames_ne_zero {followLast : Bool}
    {jump : Location → Path → List String → Except Failure Found}
    (hjump : ∀ at_ target rest, StopsOnlyFor (· ≠ .nulInPath) (jump at_ target rest))
    (names : List String) : ∀ at_,
      StopsOnlyFor (· ≠ .nulInPath) (disk.walkNames followLast jump at_ names) := by
  have harrive : ∀ target found, StopsOnlyFor (· ≠ .nulInPath) (arrive target found) := by
    intro target found
    unfold arrive
    split
    · exact .ok found
    dsimp only
    split
    · apply StopsOnlyFor.error
      split <;> simp
    split
    · exact .error (by simp)
    · exact .ok found
  induction names with
  | nil => exact fun at_ => .ok _
  | cons name rest ih =>
    intro at_
    unfold walkNames
    split
    · exact .error (by simp)
    split
    · exact ih _
    split
    · split
      · exact .ok _
      · exact .error (by simp)
    · exact ih _
    · split
      · exact .ok _
      · exact .error (by simp)
    · split
      · split
        · exact (hjump _ _ _).bind fun found _ => harrive _ found
        · exact .ok _
      · exact hjump _ _ _

/-- So it never does. -/
theorem walk_ne_zero (followLast : Bool) (links : Nat) : ∀ at_ names,
    StopsOnlyFor (· ≠ .nulInPath) (disk.walk followLast links at_ names) := by
  induction links with
  | zero =>
    intro at_ names
    exact walkNames_ne_zero (fun _ _ _ => .error (by simp)) names at_
  | succ links ih =>
    exact fun at_ names => walkNames_ne_zero (fun _ _ _ => ih _ _) names at_

/-- A path that is found has no zero character. -/
theorem zero_notMem_of_locate {path : Path} {found : Found} (h : disk.locate path = .ok found) :
    '\x00' ∉ path.text.toList := by
  intro hzero
  rw [locate, checkPath, if_pos (List.contains_iff_mem.mpr hzero)] at h
  cases h

/-- **What has no zero character in its path can be read.** -/
theorem readText?_isOk {path : Path} (h : '\x00' ∉ path.text.toList) :
    ∃ text, disk.readText? path = .ok text := by
  have hlocate : disk.locate path ≠ .error .nulInPath := by
    unfold locate checkPath
    rw [if_neg (mt List.contains_iff_mem.mp h)]
    split
    · rename_i hcheck
      split at hcheck
      · cases hcheck
        nofun
      · cases hcheck
    · exact fun hwalk => walk_ne_zero true maxLinks [] path.names _ hwalk rfl
  have hstat : disk.stat path ≠ .error .nulInPath := by
    intro hstat
    unfold stat at hstat
    split at hstat
    · rename_i hfailure
      cases hstat
      exact hlocate hfailure
    · cases hstat
    · cases hstat
  unfold readText?
  split
  · exact ⟨_, rfl⟩
  · rename_i hzero
    exact absurd hzero hstat
  · exact ⟨_, rfl⟩

/-! ## Listings -/

/-- No name on the disk holds a zero character. -/
def IsZeroFree (disk : Disk) : Prop :=
  ∀ location ∈ disk.nodes.map (·.1), ∀ name ∈ location, '\x00' ∉ name.toList

instance : DecidablePred IsZeroFree := fun disk =>
  inferInstanceAs (Decidable (∀ location ∈ disk.nodes.map (·.1), ∀ name ∈ location,
    '\x00' ∉ name.toList))

/-- No file of a listing has a zero character. -/
theorem zero_notMem_of_listed (hdisk : disk.IsZeroFree) {root : Path} {base : Location}
    {file : String} (hfile : file ∈ disk.visibleBelow root base) : '\x00' ∉ file.toList := by
  rw [visibleBelow, List.mem_mergeSort, listedBelow_eq_map] at hfile
  obtain ⟨names, hnames, rfl⟩ := List.mem_map.mp hfile
  obtain ⟨⟨_, node⟩, hentry, rfl⟩ := List.mem_map.mp hnames
  obtain ⟨-, hnode⟩ := mem_below.mp (List.mem_filter.mp hentry).1
  rw [Path.zero_mem_intercalate_iff]
  push Not
  exact (List.forall_mem_append.mp (hdisk _ (List.mem_map_of_mem hnode))).2

/-- **What a listing names can be read.** -/
theorem readText?_isOk_of_listed (hdisk : disk.IsZeroFree) {root : Path} {files : List String}
    (hfiles : disk.visibleFiles root = .ok files) {file : String} (hfile : file ∈ files) :
    ∃ text, disk.readText? (root / file) = .ok text := by
  unfold visibleFiles at hfiles
  split at hfiles
  · cases hfiles
  · cases hfiles
    cases hfile
  split at hfiles
  · rename_i hlocate
    cases hfiles
    exact readText?_isOk
      (Path.zero_notMem_div (zero_notMem_of_locate hlocate) (zero_notMem_of_listed hdisk hfile))
  · cases hfiles
    cases hfile

end Disk

end Preflight
