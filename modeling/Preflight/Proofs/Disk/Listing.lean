import Preflight.Disk.Listing

/-!
# Listings

A listing is sorted (`pairwise_visibleBelow`), so it is settled by what is in it: two directories
with the same files of some kind list these files alike (`filter_visibleBelow`), whatever the order
on the disks.
-/

set_option autoImplicit false

namespace Preflight.Disk

/-- A listing holds what is listed. -/
theorem visibleBelow_perm (disk : Disk) (root : Path) (base : Location) :
    (disk.visibleBelow root base).Perm (disk.listedBelow root base) :=
  List.mergeSort_perm _ _

/-- A listing is sorted. -/
theorem pairwise_visibleBelow (disk : Disk) (root : Path) (base : Location) :
    (disk.visibleBelow root base).Pairwise (· ≤ ·) := by
  have h : (disk.visibleBelow root base).Pairwise fun a b => decide (a ≤ b) = true := by
    refine List.pairwise_mergeSort (fun a b c hab hbc => ?_) (fun a b => ?_) _
    · rw [decide_eq_true_eq] at hab hbc ⊢
      exact String.le_trans hab hbc
    · rw [Bool.or_eq_true, decide_eq_true_eq, decide_eq_true_eq]
      exact String.le_total a b
  exact h.imp fun hab => of_decide_eq_true hab

/-- The files of some kind are listed alike where they are the same. -/
theorem filter_visibleBelow {disk disk' : Disk} {root root' : Path} {base base' : Location}
    {kind : String → Bool}
    (h : ((disk.listedBelow root base).filter kind).Perm
      ((disk'.listedBelow root' base').filter kind)) :
    (disk.visibleBelow root base).filter kind = (disk'.visibleBelow root' base').filter kind := by
  have hperm := ((disk.visibleBelow_perm root base).filter kind).trans
    (h.trans ((disk'.visibleBelow_perm root' base').filter kind).symm)
  exact hperm.eq_of_pairwise (fun _ _ _ _ hab hba => String.le_antisymm hab hba)
    ((disk.pairwise_visibleBelow root base).filter kind)
    ((disk'.pairwise_visibleBelow root' base').filter kind)

/-- The visible files of a directory whose files are sorted on the disk. -/
theorem visibleFiles_of_sorted {disk : Disk} {root : Path} (base : Location) {files : List String}
    (hroot : disk.locate root = .ok ⟨base, some .directory⟩)
    (hfiles : disk.listedBelow root base = files)
    (hsorted : files.Pairwise (· ≤ ·)) : disk.visibleFiles root = .ok files := by
  have hdirectory : disk.isDirectory root = .ok true := by
    rw [isDirectory, leadsTo, stat, hroot]
  have hvisible : disk.visibleBelow root base = files := by
    rw [visibleBelow, hfiles]
    exact List.mergeSort_of_pairwise (hsorted.imp fun hab => decide_eq_true hab)
  unfold visibleFiles
  rw [hdirectory, hroot]
  exact congrArg Except.ok hvisible

end Preflight.Disk
