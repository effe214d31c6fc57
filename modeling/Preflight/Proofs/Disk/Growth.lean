import Preflight.Proofs.Disk.Listing
import Preflight.Proofs.Disk.Walk

/-!
# Disks that gain a file

A disk gains a file where nothing stood (`Gains`). The law (`Gains.stat_cases`): every path leads
where it led before, except that a path that led nowhere may lead to the new file, or may be blocked
by it. So what could be read is read as before (`Gains.readText?_cases`), directories are the same
(`Gains.isDirectory_eq`), and a listing gains the file at most (`Gains.listedBelow_eq`).

Nothing is said here about a file that is overwritten.
-/

set_option autoImplicit false

namespace Preflight.Disk

/-- The disk has gained a file at a location where nothing stood. -/
structure Gains (disk disk' : Disk) (location : Location) (content : List UInt8) (time : Int) :
    Prop where
  absent : disk.node? location = none
  nodes : disk'.nodes = disk.nodes ++ [(location, .file content time)]

/-- Nothing stands at a location: it is not the top, and no node is there. -/
theorem lookup_of_absent {disk : Disk} {location : Location} (h : disk.node? location = none) :
    location ≠ [] ∧ disk.nodes.lookup location = none := by
  unfold node? at h
  split at h
  · cases h
  · rename_i hne
    exact ⟨by simpa using hne, h⟩

/-- A file that is set where nothing stood is gained. -/
theorem gains_set {disk : Disk} {location : Location} (content : List UInt8) (time : Int)
    (h : disk.node? location = none) :
    Gains disk (disk.set location (.file content time)) location content time := by
  refine ⟨h, ?_⟩
  rw [set, (lookup_of_absent h).2]
  rfl

/-- A text is written as a file where the path leads. -/
theorem set_of_writeText {disk disk' : Disk} {path : Path} {text : String}
    (h : disk.writeText path text = .ok disk') : ∃ found, disk.locate path = .ok found ∧
      disk' = disk.set found.location (.file (Text.Utf8.encode text) 0) := by
  unfold writeText write at h
  split at h
  · cases h
  · cases h
  · rename_i hlocated
    cases h
    exact ⟨_, hlocated, rfl⟩

/-- A text that is written where a path leads nowhere makes a file there. -/
theorem gains_of_writeText {disk disk' : Disk} {path : Path} {text : String}
    (hmissing : disk.pathExists path = .ok false) (h : disk.writeText path text = .ok disk') :
    ∃ location, disk.locate path = .ok ⟨location, none⟩ ∧
      Gains disk disk' location (Text.Utf8.encode text) 0 := by
  obtain ⟨⟨location, node?⟩, hlocated, rfl⟩ := set_of_writeText h
  cases node? with
  | some node =>
    rw [pathExists, leadsTo, stat, hlocated] at hmissing
    cases hmissing
  | none =>
    have habsent : none = disk.node? location := locate_node? hlocated
    exact ⟨location, hlocated, gains_set _ 0 habsent.symm⟩

namespace Gains

variable {disk disk' : Disk} {location : Location} {content : List UInt8} {time : Int}

/-! ## Nodes -/

/-- The new file stands where it was set. -/
theorem node?_self (h : Gains disk disk' location content time) :
    disk'.node? location = some (.file content time) := by
  obtain ⟨hne, hlookup⟩ := lookup_of_absent h.absent
  rw [node?, if_neg (by simpa using hne), h.nodes, List.lookup_append, hlookup]
  simp

/-- All other nodes are the same. -/
theorem node?_of_ne (h : Gains disk disk' location content time) {other : Location}
    (hother : other ≠ location) : disk'.node? other = disk.node? other := by
  have hnew : List.lookup other [(location, Node.file content time)] = none := by
    rw [List.lookup_cons, beq_false_of_ne hother]
    rfl
  unfold node?
  rw [h.nodes, List.lookup_append, hnew, Option.or_none]

/-- The links are the same. -/
theorem node?_eq_link_iff (h : Gains disk disk' location content time) {other : Location}
    {target : String} :
    disk'.node? other = some (.link target) ↔ disk.node? other = some (.link target) := by
  by_cases hother : other = location
  · subst hother
    simp [h.node?_self, h.absent]
  · rw [h.node?_of_ne hother]

end Gains

/-! ## Walks -/

/-- What a walk comes to on a disk and on the disk with a new file: the same, or the place of the
file and the file, or a missing place that the file blocks. -/
inductive Grown (location : Location) (file : Node) :
    Except Failure Found → Except Failure Found → Prop
  | same (result : Except Failure Found) : Grown location file result result
  | found : Grown location file (.ok ⟨location, none⟩) (.ok ⟨location, some file⟩)
  | blocked : Grown location file (.error .notFound) (.error .notDirectory)

/-- A link leads to the same, to the new file, or is blocked by it, if its target does. -/
theorem Grown.arrive {location : Location} {content : List UInt8} {time : Int}
    {before after : Except Failure Found} (h : Grown location (.file content time) before after)
    (target : String) : Grown location (.file content time) (before >>= Disk.arrive target)
      (after >>= Disk.arrive target) := by
  cases h with
  | same result => exact .same _
  | blocked => exact .blocked
  | found =>
    show Grown location _ (Disk.arrive target ⟨location, none⟩)
      (Disk.arrive target ⟨location, some (.file content time)⟩)
    simp only [Disk.arrive, reduceCtorEq, if_false, Option.some.injEq]
    split
    · exact .blocked
    · split
      · exact .same _
      · exact .found

namespace Gains

variable {disk disk' : Disk} {location : Location} {content : List UInt8} {time : Int}

/-- A walk over names comes to the same, to the new file, or is blocked by it, if every jump from a
link does. -/
theorem walkNames_grown (h : Gains disk disk' location content time) (followLast : Bool)
    {jump jump' : Location → Path → List String → Except Failure Found}
    (hjump : ∀ at_ target rest,
      Grown location (.file content time) (jump at_ target rest) (jump' at_ target rest))
    (names : List String) : ∀ at_, Grown location (.file content time)
      (disk.walkNames followLast jump at_ names) (disk'.walkNames followLast jump' at_ names) := by
  induction names with
  | nil =>
    intro at_
    show Grown _ _ (.ok ⟨at_, disk.node? at_⟩) (.ok ⟨at_, disk'.node? at_⟩)
    by_cases hat : at_ = location
    · subst hat
      rw [h.absent, h.node?_self]
      exact .found
    · rw [h.node?_of_ne hat]
      exact .same _
  | cons name rest ih =>
    intro at_
    unfold walkNames
    split
    · exact .same _
    split
    · exact ih _
    by_cases hat : at_ ++ [name] = location
    · rw [hat, h.absent, h.node?_self]
      cases rest with
      | nil => exact .found
      | cons next rest => exact .blocked
    · rw [h.node?_of_ne hat]
      split
      · exact .same _
      · exact ih _
      · exact .same _
      · split
        · split
          · exact (hjump _ _ _).arrive _
          · exact .same _
        · exact hjump _ _ _

/-- A walk comes to the same, to the new file, or is blocked by it. -/
theorem walk_grown (h : Gains disk disk' location content time) (followLast : Bool)
    (links : Nat) : ∀ at_ names, Grown location (.file content time)
      (disk.walk followLast links at_ names) (disk'.walk followLast links at_ names) := by
  induction links with
  | zero => exact fun at_ names => h.walkNames_grown followLast (fun _ _ _ => .same _) names at_
  | succ links ih =>
    exact fun at_ names => h.walkNames_grown followLast (fun _ _ _ => ih _ _) names at_

/-- A path leads to the same, to the new file, or is blocked by it. -/
theorem locate_grown (h : Gains disk disk' location content time) (path : Path)
    (followLast : Bool) : Grown location (.file content time)
      (disk.locate path followLast) (disk'.locate path followLast) := by
  unfold locate
  split
  · exact .same _
  · exact h.walk_grown followLast _ _ _

/-- **Every path leads where it led before**, except that one that led nowhere may be blocked by the
new file, or lead to it. -/
theorem stat_cases (h : Gains disk disk' location content time) (path : Path) :
    disk'.stat path = disk.stat path ∨
      disk.stat path = .error .notFound ∧
        (disk'.stat path = .error .notDirectory ∨
          disk'.stat path = .ok (.file content time)) := by
  unfold stat
  generalize hbefore : disk.locate path = before
  generalize hafter : disk'.locate path = after
  have hgrown : Grown location (.file content time) before after := by
    rw [← hbefore, ← hafter]
    exact h.locate_grown path true
  cases hgrown with
  | same => exact .inl rfl
  | found => exact .inr ⟨rfl, .inr rfl⟩
  | blocked => exact .inr ⟨rfl, .inl rfl⟩

/-- A path that leads to something only now leads to the new file, where it led to the empty place
before. -/
theorem locate_of_new (h : Gains disk disk' location content time) {path : Path} {node : Node}
    (hbefore : disk.stat path ≠ .ok node) (hafter : disk'.stat path = .ok node) :
    disk.locate path = .ok ⟨location, none⟩ := by
  have hgrown := h.locate_grown path true
  unfold stat at hbefore hafter
  generalize disk.locate path = before at hgrown hbefore
  generalize disk'.locate path = after at hgrown hafter
  cases hgrown with
  | same => exact absurd hafter hbefore
  | found => rfl
  | blocked => cases hafter

/-! ## What is asked about a path -/

/-- A property of what a path leads to stays as it is, or is that of the new file. -/
theorem leadsTo_cases (h : Gains disk disk' location content time) (path : Path)
    (property : Node → Bool) :
    disk'.leadsTo path property = disk.leadsTo path property ∨
      disk.leadsTo path property = .ok false ∧ disk'.stat path = .ok (.file content time) := by
  unfold leadsTo
  obtain heq | ⟨hnone, hblocked | hnew⟩ := h.stat_cases path
  · rw [heq]
    exact .inl rfl
  · rw [hnone, hblocked]
    exact .inl rfl
  · rw [hnone]
    exact .inr ⟨rfl, hnew⟩

/-- What a path led to before, it leads to still. -/
theorem leadsTo_of_true (h : Gains disk disk' location content time) {path : Path}
    {property : Node → Bool} (htrue : disk.leadsTo path property = .ok true) :
    disk'.leadsTo path property = .ok true := by
  obtain heq | ⟨hfalse, -⟩ := h.leadsTo_cases path property
  · rw [heq, htrue]
  · rw [htrue] at hfalse
    cases hfalse

/-- Where a question about a path had an answer, it has one. -/
theorem leadsTo_isOk (h : Gains disk disk' location content time) {path : Path}
    {property : Node → Bool} (hok : ∃ answer, disk.leadsTo path property = .ok answer) :
    ∃ answer, disk'.leadsTo path property = .ok answer := by
  obtain heq | ⟨-, hnew⟩ := h.leadsTo_cases path property
  · rwa [heq]
  · rw [leadsTo, hnew]
    exact ⟨_, rfl⟩

/-- The directories are the same. -/
theorem isDirectory_eq (h : Gains disk disk' location content time) (path : Path) :
    disk'.isDirectory path = disk.isDirectory path := by
  refine (h.leadsTo_cases path _).elim id ?_
  rintro ⟨hfalse, hnew⟩
  rw [isDirectory, leadsTo, hnew]
  exact hfalse.symm

/-- A text is the same, or it is that of the new file where none was. -/
theorem readText?_cases (h : Gains disk disk' location content time) (path : Path) :
    disk'.readText? path = disk.readText? path ∨
      disk.readText? path = .ok none ∧
        disk'.readText? path = .ok (some (Text.Utf8.fileText content)) := by
  unfold readText?
  obtain heq | ⟨hnone, hblocked | hnew⟩ := h.stat_cases path
  · rw [heq]
    exact .inl rfl
  · rw [hnone, hblocked]
    exact .inl rfl
  · rw [hnone, hnew]
    exact .inr ⟨rfl, rfl⟩

/-! ## Listings -/

/-- A link is taken for a directory where it was before. -/
theorem seesDirectory_eq (h : Gains disk disk' location content time) (root : Path)
    (names : Location) : disk'.seesDirectory root names = disk.seesDirectory root names := by
  unfold seesDirectory
  obtain heq | ⟨hnone, hblocked | hnew⟩ := h.stat_cases ⟨root.start, root.names ++ names⟩
  · rw [heq]
  · rw [hnone, hblocked]
  · rw [hnone, hnew]

/-- A node counts as a file where it counted before. -/
theorem isListed_eq (h : Gains disk disk' location content time) (root : Path) (names : Location)
    (node : Node) : disk'.isListed root names node = disk.isListed root names node := by
  cases node with
  | file content time => rfl
  | directory => rfl
  | link target => exact congrArg (!·) (h.seesDirectory_eq root names)

/-- One more file below a directory opens no way. -/
theorem isReached_append (nodes : List (Location × Node)) (names way : Location) :
    isReached (nodes ++ [(way, .file content time)]) names = isReached nodes names := by
  have hlookup : ∀ step,
      ((nodes ++ [(way, Node.file content time)]).lookup step == some .directory) =
        (nodes.lookup step == some .directory) := by
    intro step
    rw [List.lookup_append]
    cases nodes.lookup step with
    | some node => rfl
    | none =>
      rw [List.lookup_cons]
      cases step == way <;> rfl
  unfold isReached
  simp only [hlookup]

/-- **A listing gains the new file of its directory**, unless the file is hidden. -/
theorem listedBelow_eq {root : Path} {base : Location} {name : String}
    (h : Gains disk disk' (base ++ [name]) content time) :
    disk'.listedBelow root base =
      disk.listedBelow root base ++ if isHidden name then [] else [name] := by
  have hbelow : disk'.below base = disk.below base ++ [([name], Node.file content time)] := by
    unfold below
    rw [h.nodes, List.filterMap_append]
    simp
  have hself : isReached (disk.below base ++ [([name], Node.file content time)]) [name] = true ∧
      isOpened root [name] = true := by
    simp [isReached, isOpened, Location.ancestors]
  unfold listedBelow
  rw [hbelow]
  simp only [isReached_append, h.isListed_eq, List.filter_append, List.map_append]
  congr 1
  rw [isReached_append] at hself
  cases hhidden : isHidden name <;> simp [hhidden, hself.1, hself.2, isListed]

/-- A listing gains no file of a kind that the new file is not of. -/
theorem filter_visibleBelow_eq {root : Path} {base : Location} {name : String}
    (h : Gains disk disk' (base ++ [name]) content time) {kind : String → Bool}
    (hkind : isHidden name = true ∨ kind name = false) :
    (disk'.visibleBelow root base).filter kind = (disk.visibleBelow root base).filter kind := by
  refine filter_visibleBelow (List.Perm.of_eq ?_)
  rw [h.listedBelow_eq, List.filter_append]
  obtain hhidden | hother := hkind
  · simp [hhidden]
  · cases isHidden name <;> simp [hother]

end Gains

end Preflight.Disk
