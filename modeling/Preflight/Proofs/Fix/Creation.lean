import Mathlib.Control.Monad.Basic
import Preflight.Fix.Apply
import Preflight.Proofs.Disk.Growth
import Preflight.Proofs.Fix.Template

/-!
# What applying actions does to a disk

Applying an action changes nothing or creates the file of a template where nothing is
(`Action.apply_cases`), so a property of disks that every creation keeps is kept by all actions
(`Action.applyEach_keeps`). A creation is a gain of one file: where the path of the file is no link
that leads nowhere, the file stands in the root under its own name (`Template.exists_base`), so that a listing
gains it at most (`Template.Created.visibleFiles_cases`).
-/

set_option autoImplicit false

namespace Preflight

/-- The path ends in a link, and the link leads nowhere. -/
def Disk.IsDangling (disk : Disk) (path : Path) : Prop :=
  disk.pathExists path = .ok false ∧
    ∃ location target, disk.locate path false = .ok ⟨location, some (.link target)⟩

/-- The place of no template under the root is a link that leads nowhere. -/
def Template.NoneDangling (disk : Disk) (root : Path) : Prop :=
  ∀ t : Template, ¬ disk.IsDangling (root / t.file)

namespace Template

/-! ## The files of templates -/

/-- The file of a template is a name under the root. -/
theorem root_div_file (root : Path) (t : Template) :
    root / t.file = ⟨root.start, root.names ++ [t.file]⟩ := by
  have hname : Path.ofString t.file = ⟨.here, [t.file]⟩ := by
    cases t <;> decide +kernel
  show root.join (Path.ofString t.file) = _
  rw [hname]
  rfl

/-- The file of a template does not lead up. -/
theorem file_ne_dots (t : Template) : t.file ≠ ".." := by
  cases t <;> decide

/-! ## Places -/

/-- **The places of templates**: where the path of a template leads nowhere and is no link that does,
it leads to its own name in the root. -/
theorem exists_base (disk : Disk) (root : Path) :
    ∃ base, (∀ found, disk.locate root = .ok found → found.location = base) ∧
      ∀ (t : Template) location, ¬ disk.IsDangling (root / t.file) →
        disk.pathExists (root / t.file) = .ok false →
          disk.locate (root / t.file) = .ok ⟨location, none⟩ → location = base ++ [t.file] := by
  have hlocate : ∀ {path followLast found}, disk.locate path followLast = .ok found →
      Disk.checkPath path = .ok () ∧
        disk.walk followLast Disk.maxLinks [] path.names = .ok found := by
    intro path followLast found h
    unfold Disk.locate at h
    split at h
    · cases h
    · exact ⟨by assumption, h⟩
  obtain ⟨base, left, hbase, hleft⟩ | hnone := disk.walk_append Disk.maxLinks [] root.names
  · refine ⟨base, fun found h => hbase found (hlocate h).2, ?_⟩
    intro t location hplain hmissing hlocated
    obtain ⟨hcheck, hwalk⟩ := hlocate hlocated
    rw [root_div_file] at hwalk
    have hlast := (hleft true [t.file] (by simp)).symm.trans hwalk
    obtain heq | ⟨target, hlink⟩ := Disk.walk_last t.file_ne_dots hlast
    · exact heq
    · refine absurd ⟨hmissing, base ++ [t.file], target, ?_⟩ hplain
      rw [Disk.locate, hcheck, root_div_file]
      exact (hleft false [t.file] (by simp)).trans hlink
  · refine ⟨(disk.locate root).toOption.elim [] Disk.Found.location, fun found h => by rw [h]; rfl, ?_⟩
    intro t location _ _ hlocated
    obtain ⟨failure, hfailure⟩ := hnone true [t.file] (by simp)
    have hwalk := (hlocate hlocated).2
    rw [root_div_file] at hwalk
    cases hfailure.symm.trans hwalk

/-! ## Creations -/

/-- The file of a template was created, where a path had led nowhere. -/
structure Created (t : Template) (disk disk' : Disk) (root : Path) (location : Location) :
    Prop where
  missing : disk.pathExists (root / t.file) = .ok false
  located : disk.locate (root / t.file) = .ok ⟨location, none⟩
  gains : disk.Gains disk' location (Text.Utf8.encode t.content) 0

namespace Created

variable {t : Template} {disk disk' : Disk} {root : Path} {location : Location}

/-- A text is the same, or it is that of the template where none was. -/
theorem readText?_cases (h : t.Created disk disk' root location) (path : Path) :
    disk'.readText? path = disk.readText? path ∨
      disk.readText? path = .ok none ∧ disk'.readText? path = .ok (some t.content) := by
  have hcases := h.gains.readText?_cases path
  rwa [t.isInert_content.fileText_eq] at hcases

/-- The path leads to the new file. -/
theorem stat_eq (h : t.Created disk disk' root location) :
    disk'.stat (root / t.file) = .ok (.file (Text.Utf8.encode t.content) 0) := by
  have hgrown := h.gains.locate_grown (root / t.file) true
  rw [h.located] at hgrown
  unfold Disk.stat
  generalize hafter : disk'.locate (root / t.file) = after at hgrown
  cases hgrown with
  | same =>
    -- The place holds the new file, so it is not found empty again.
    have hnode : none = disk'.node? location := Disk.locate_node? hafter
    rw [h.gains.node?_self] at hnode
    cases hnode
  | found => rfl

/-- There is something at the path now. -/
theorem pathExists_eq (h : t.Created disk disk' root location) :
    disk'.pathExists (root / t.file) = .ok true := by
  rw [Disk.pathExists, Disk.leadsTo, h.stat_eq]

/-- No place of a template becomes a link that leads nowhere. -/
theorem noneDangling (h : t.Created disk disk' root location) (hplain : NoneDangling disk root) :
    NoneDangling disk' root := by
  rintro other ⟨hmissing, place, target, hlink⟩
  refine hplain other ⟨?_, place, target, ?_⟩
  · obtain heq | ⟨hfalse, -⟩ := h.gains.leadsTo_cases (root / other.file) fun _ => true
    · rw [Disk.pathExists, ← heq]
      exact hmissing
    · exact hfalse
  · have hgrown := h.gains.locate_grown (root / other.file) false
    rw [hlink] at hgrown
    generalize disk.locate (root / other.file) false = before at hgrown
    cases hgrown
    rfl

end Created

/-! ## Listings after a creation -/

/-- Two listings hold the same files of every kind that the name is not of; of a hidden name they
hold all the same files. -/
def AlikeBut (name : String) (files files' : List String) : Prop :=
  ∀ kind : String → Bool, Disk.isHidden name = true ∨ kind name = false →
    files'.filter kind = files.filter kind

/-- Patterns that do not match a name match the same files in two listings that are alike but for
it. -/
theorem AlikeBut.find_eq {name : String} {files files' : List String}
    (h : AlikeBut name files files') {root : Path} {patterns : List String}
    (hpatterns : ∀ pattern ∈ patterns, (Glob.ofString pattern).isMatch name = false) :
    Glob.find root files' patterns = Glob.find root files patterns :=
  Glob.find_congr fun pattern hpattern => h _ (.inr (hpatterns pattern hpattern))

/-- **A creation lists the new file at most.** -/
theorem Created.visibleFiles_cases {t : Template} {disk disk' : Disk} {root : Path}
    {location : Location} (h : t.Created disk disk' root location)
    (hplain : ¬ disk.IsDangling (root / t.file)) :
    (∃ failure, disk.visibleFiles root = .error failure ∧
        disk'.visibleFiles root = .error failure) ∨
      ∃ files files', disk.visibleFiles root = .ok files ∧ disk'.visibleFiles root = .ok files' ∧
        AlikeBut t.file files files' := by
  unfold Disk.visibleFiles
  rw [h.gains.isDirectory_eq]
  cases hdirectory : disk.isDirectory root with
  | error failure => exact .inl ⟨failure, rfl, rfl⟩
  | ok isDirectory =>
    cases isDirectory with
    | false => exact .inr ⟨[], [], rfl, rfl, fun _ _ => rfl⟩
    | true =>
      obtain ⟨base, hroot⟩ := Disk.locate_of_isDirectory hdirectory
      have hroot' : disk'.locate root = .ok ⟨base, some .directory⟩ := by
        have hgrown := h.gains.locate_grown root true
        rw [hroot] at hgrown
        generalize disk'.locate root = after at hgrown
        cases hgrown
        rfl
      rw [hroot, hroot']
      refine .inr ⟨_, _, rfl, rfl, fun kind hkind => ?_⟩
      obtain ⟨place, hplace, hfile⟩ := exists_base disk root
      obtain rfl : base = place := hplace _ hroot
      have hgains := h.gains
      rw [hfile t location hplain h.missing h.located] at hgains
      exact hgains.filter_visibleBelow_eq hkind

end Template

/-! ## Actions -/

namespace Action

/-- Applying an action changes nothing or creates the file of its template. -/
theorem apply_cases {action : Action} {disk disk' : Disk} {root : Path} {outcome : FixOutcome}
    (h : action.apply disk root = .ok (outcome, disk')) :
    (disk' = disk ∧
        ∀ t, action.remedy = .create t → disk.pathExists (root / t.file) = .ok true) ∨
      ∃ t location, action.remedy = .create t ∧ t.Created disk disk' root location := by
  unfold apply at h
  split at h
  · rename_i text hremedy
    cases h
    refine .inl ⟨rfl, fun t ht => ?_⟩
    rw [hremedy] at ht
    cases ht
  · rename_i t hremedy
    obtain ⟨there, hthere, h⟩ := bind_eq_ok.mp h
    cases there with
    | true =>
      cases h
      refine .inl ⟨rfl, fun other hother => ?_⟩
      rw [hremedy] at hother
      cases hother
      exact hthere
    | false =>
      obtain ⟨written, hwritten, h⟩ := bind_eq_ok.mp h
      cases h
      obtain ⟨location, hlocated, hgains⟩ := Disk.gains_of_writeText hthere hwritten
      exact .inr ⟨t, location, hremedy, hthere, hlocated, hgains⟩

/-- **What every creation by the actions keeps, they all keep.** -/
theorem applyEach_keeps_of_mem (root : Path) {P : Disk → Prop} (actions : List Action)
    (hstep : ∀ {t : Template} {disk disk' : Disk} {location : Location},
      (∃ action ∈ actions, action.remedy = .create t) → t.Created disk disk' root location →
        P disk → P disk') : ∀ {disk : Disk}, P disk → P (applyEach disk root actions).2 := by
  induction actions with
  | nil => exact fun h => h
  | cons action rest ih =>
    intro disk h
    unfold applyEach
    split
    · exact h
    · rename_i outcome disk' happly
      have hnext : P disk' := by
        obtain ⟨rfl, -⟩ | ⟨t, location, hremedy, hcreated⟩ := apply_cases happly
        · exact h
        · exact hstep ⟨action, List.mem_cons_self, hremedy⟩ hcreated h
      refine ih (fun ⟨other, hmem, hother⟩ => ?_) hnext
      exact hstep ⟨other, List.mem_cons_of_mem _ hmem, hother⟩

/-- What every creation keeps, all actions keep. -/
theorem applyEach_keeps (root : Path) {P : Disk → Prop}
    (hstep : ∀ {t : Template} {disk disk' : Disk} {location : Location},
      t.Created disk disk' root location → P disk → P disk')
    (actions : List Action) : ∀ {disk : Disk}, P disk → P (applyEach disk root actions).2 :=
  applyEach_keeps_of_mem root actions fun _ => hstep

/-- **When all actions are applied, every file that they create is there.** -/
theorem pathExists_of_applyEach {root : Path} (actions : List Action) :
    ∀ {disk disk' : Disk} {outcomes : List FixOutcome},
      applyEach disk root actions = (.ok outcomes, disk') → ∀ {t : Template},
        (∃ action ∈ actions, action.remedy = .create t) →
          disk'.pathExists (root / t.file) = .ok true := by
  induction actions with
  | nil =>
    rintro disk disk' outcomes - t ⟨action, hmem, -⟩
    cases hmem
  | cons action rest ih =>
    rintro disk disk' outcomes h t ⟨wanted, hmem, hremedy⟩
    unfold applyEach at h
    split at h
    · cases h
    rename_i outcome next happly
    cases hrest : applyEach next root rest with
    | mk answer after =>
    rw [hrest] at h
    cases answer with
    | error failure => cases h
    | ok others =>
      cases h
      rcases List.mem_cons.mp hmem with rfl | hmem
      · have hthere : next.pathExists (root / t.file) = .ok true := by
          obtain ⟨rfl, hskipped⟩ | ⟨other, location, hother, hcreated⟩ := apply_cases happly
          · exact hskipped t hremedy
          · rw [hremedy] at hother
            cases hother
            exact hcreated.pathExists_eq
        have hkept := applyEach_keeps root (P := fun disk => disk.pathExists (root / t.file) = .ok true)
          (fun hcreated h => hcreated.gains.leadsTo_of_true h) rest hthere
        rwa [hrest] at hkept
      · exact ih hrest ⟨wanted, hmem, hremedy⟩

end Action

end Preflight
