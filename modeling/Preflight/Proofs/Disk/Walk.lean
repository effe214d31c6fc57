import Preflight.Disk.Basic

/-!
# What a walk comes to

A walk invents nothing: the node that it reports is the node at the location that it reports
(`walk_node?`), so a file that a path leads to stands on the disk (`stat_mem`). The bytes of a path
are those of the file there, and its text is their text (`readText?_eq`).
-/

set_option autoImplicit false

namespace Preflight.Disk

/-- The bytes of the file that a path leads to, nothing if it leads to none. -/
def bytes? (disk : Disk) (path : Path) : Option (List UInt8) :=
  match disk.stat path with
  | .ok (.file content _) => some content
  | _ => none

/-! ## Nodes -/

/-- What a link leads to is what its target leads to. -/
theorem eq_ok_of_arrive {result : Except Failure Found} {target : String} {found : Found}
    (h : result >>= arrive target = .ok found) : result = .ok found := by
  cases result with
  | error failure => cases h
  | ok other =>
    change arrive target other = .ok found at h
    unfold arrive at h
    split at h
    · cases h
      rfl
    dsimp only at h
    split at h
    · cases h
    split at h
    · cases h
    · cases h
      rfl

/-- The names of a path lead to the node at the location they lead to, if every link does. -/
theorem walkNames_node? {disk : Disk} {followLast : Bool}
    {jump : Location → Path → List String → Except Failure Found}
    (hjump : ∀ at_ target rest found, jump at_ target rest = .ok found →
      found.node? = disk.node? found.location)
    (names : List String) : ∀ {at_ : Location} {found : Found},
      disk.walkNames followLast jump at_ names = .ok found →
        found.node? = disk.node? found.location := by
  induction names with
  | nil =>
    intro at_ found h
    simp only [walkNames, Except.ok.injEq] at h
    rw [← h]
  | cons name rest ih =>
    intro at_ found h
    unfold walkNames at h
    split at h
    · cases h
    split at h
    · exact ih h
    split at h
    · rename_i hnode
      split at h
      · cases h
        exact hnode.symm
      · cases h
    · exact ih h
    · rename_i hnode
      split at h
      · cases h
        exact hnode.symm
      · cases h
    · rename_i hnode
      split at h
      · split at h
        · exact hjump _ _ _ _ (eq_ok_of_arrive h)
        · cases h
          exact hnode.symm
      · exact hjump _ _ _ _ h

/-- A walk reports the node at the location that it reports, however many links it may follow. -/
theorem walk_node? {disk : Disk} {followLast : Bool} (links : Nat) :
    ∀ {at_ : Location} {names : List String} {found : Found},
      disk.walk followLast links at_ names = .ok found →
        found.node? = disk.node? found.location := by
  induction links with
  | zero =>
    intro at_ names found h
    exact walkNames_node? (fun _ _ _ _ hj => by cases hj) names h
  | succ links ih =>
    intro at_ names found h
    exact walkNames_node? (fun _ _ _ _ hj => ih hj) names h

/-- A path leads to the node at the location it is found at. -/
theorem locate_node? {disk : Disk} {path : Path} {followLast : Bool} {found : Found}
    (h : disk.locate path followLast = .ok found) : found.node? = disk.node? found.location := by
  unfold locate at h
  split at h
  · cases h
  · exact walk_node? _ h

/-- A path that leads to a node is found where the node stands. -/
theorem locate_of_stat {disk : Disk} {path : Path} {node : Node} (h : disk.stat path = .ok node) :
    ∃ location, disk.locate path = .ok ⟨location, some node⟩ := by
  unfold stat at h
  split at h
  · cases h
  · rename_i location found hlocate
    cases h
    exact ⟨location, hlocate⟩
  · cases h

/-- It is too long. -/
theorem isDirectory_of_tooLong {disk : Disk} {path : Path}
    (h : disk.stat path = .error .nameTooLong) : disk.isDirectory path = .error .nameTooLong := by
  rw [isDirectory, leadsTo, h]

/-- It leads elsewhere, or nowhere. -/
theorem isDirectory_of_other {disk : Disk} {path : Path} (hother : disk.stat path ≠ .ok .directory)
    (hshort : disk.stat path ≠ .error .nameTooLong) : disk.isDirectory path = .ok false := by
  unfold isDirectory leadsTo
  split
  · rename_i node hstat
    cases node with
    | directory => exact absurd hstat hother
    | file content stamp => rfl
    | link target => rfl
  · rename_i hlong
    exact absurd hlong hshort
  · rfl

/-- A directory is found at a location. -/
theorem locate_of_isDirectory {disk : Disk} {path : Path} (h : disk.isDirectory path = .ok true) :
    ∃ location, disk.locate path = .ok ⟨location, some .directory⟩ := by
  unfold isDirectory leadsTo at h
  split at h
  · rename_i node hstat
    cases node with
    | directory => exact locate_of_stat hstat
    | file content stamp => cases h
    | link target => cases h
  · cases h
  · cases h

/-- A file at a location is among the nodes of the disk; only the top is not. -/
theorem mem_nodes_of_node? {disk : Disk} {location : Location} {content : List UInt8} {time : Int}
    (h : disk.node? location = some (.file content time)) :
    (location, Node.file content time) ∈ disk.nodes := by
  unfold node? at h
  split at h
  · cases h
  · obtain ⟨l₁, l₂, hnodes, -⟩ := List.lookup_eq_some_iff.mp h
    simp [hnodes]

/-- **A file that a path leads to stands on the disk.** -/
theorem stat_mem {disk : Disk} {path : Path} {content : List UInt8} {time : Int}
    (h : disk.stat path = .ok (.file content time)) :
    ∃ location, (location, Node.file content time) ∈ disk.nodes := by
  obtain ⟨location, hlocate⟩ := locate_of_stat h
  have hnode : some (Node.file content time) = disk.node? location := locate_node? hlocate
  exact ⟨location, mem_nodes_of_node? hnode.symm⟩

/-! ## Names after names -/

/-- A walk over names and more names: it goes on from a location, where the walk over the first
names ends if it ends, or there are no more names to walk. -/
def GoesOn (disk : Disk) (first : Except Failure Found)
    (both : Bool → List String → Except Failure Found) : Prop :=
  (∃ base left, (∀ found, first = .ok found → found.location = base) ∧
    ∀ followLast rest, rest ≠ [] → both followLast rest = disk.walk followLast left base rest) ∨
  ∀ followLast rest, rest ≠ [] → ∃ failure, both followLast rest = .error failure

/-- A walk over names goes on, if every jump from a link does. -/
theorem walkNames_append {disk : Disk} (links : Nat)
    (jump : Bool → Location → Path → List String → Except Failure Found)
    (hwalk : ∀ followLast, disk.walk followLast links = disk.walkNames followLast (jump followLast))
    (hjump : ∀ at_ target names, disk.GoesOn (jump true at_ target names)
      fun followLast rest => jump followLast at_ target (names ++ rest))
    (names : List String) : ∀ at_, disk.GoesOn (disk.walkNames true (jump true) at_ names)
      fun followLast rest => disk.walkNames followLast (jump followLast) at_ (names ++ rest) := by
  induction names with
  | nil =>
    intro at_
    refine .inl ⟨at_, links, fun found hfound => ?_, fun followLast rest _ => ?_⟩
    · cases hfound
      rfl
    · rw [hwalk]
      rfl
  | cons name names ih =>
    intro at_
    simp only [List.cons_append]
    unfold walkNames
    by_cases hsize : name.utf8ByteSize > maxNameBytes
    · simp only [if_pos hsize]
      exact .inr fun _ _ _ => ⟨_, rfl⟩
    by_cases hdots : name = ".."
    · simp only [if_neg hsize, if_pos hdots]
      exact ih _
    simp only [if_neg hsize, if_neg hdots]
    cases hnode : disk.node? (at_ ++ [name]) with
    | none =>
      exact .inr fun followLast rest hrest => ⟨.notFound, if_neg (by simp [hrest])⟩
    | some node =>
      cases node with
      | directory => exact ih _
      | file content stamp =>
        exact .inr fun followLast rest hrest => ⟨.notDirectory, if_neg (by simp [hrest])⟩
      | link target =>
        have hmore : ∀ {followLast rest}, rest ≠ [] →
            (if (names ++ rest).isEmpty then
                if followLast then jump followLast at_ (Path.ofString target) [] >>= arrive target
                else .ok ⟨at_ ++ [name], some (.link target)⟩
              else jump followLast at_ (Path.ofString target) (names ++ rest)) =
              jump followLast at_ (Path.ofString target) (names ++ rest) := by
          intro followLast rest hrest
          exact if_neg (by simp [hrest])
        obtain ⟨base, left, hbase, hleft⟩ | hnone := hjump at_ (Path.ofString target) names
        · refine .inl ⟨base, left, fun found hfound => hbase found ?_, fun followLast rest hrest =>
            (hmore hrest).trans (hleft followLast rest hrest)⟩
          dsimp only at hfound
          split at hfound
          · rename_i hempty
            rw [List.isEmpty_iff.mp hempty]
            exact eq_ok_of_arrive hfound
          · exact hfound
        · refine .inr fun followLast rest hrest => ?_
          obtain ⟨failure, hfailure⟩ := hnone followLast rest hrest
          exact ⟨failure, (hmore hrest).trans hfailure⟩

/-- **A walk goes on**: more names are walked from where the walk over the first ends, with the
links that are left. -/
theorem walk_append (disk : Disk) (links : Nat) : ∀ at_ names,
    disk.GoesOn (disk.walk true links at_ names)
      fun followLast rest => disk.walk followLast links at_ (names ++ rest) := by
  induction links with
  | zero =>
    exact fun at_ names => walkNames_append 0 (fun _ _ _ _ => .error .tooManyLinks) (fun _ => rfl)
      (fun _ _ _ => .inr fun _ _ _ => ⟨_, rfl⟩) names at_
  | succ links ih =>
    intro at_ names
    refine walkNames_append (links + 1) (fun followLast at_ target rest =>
      disk.walk followLast links (if target.start = .here then at_ else []) (target.names ++ rest))
      (fun _ => rfl) (fun here target rest => ?_) names at_
    simp only [← List.append_assoc]
    exact ih _ _

/-- A last name that leads nowhere is missing in its directory, or is a link there. -/
theorem walk_last {disk : Disk} {left : Nat} {base location : Location} {name : String}
    (hdots : name ≠ "..") (h : disk.walk true left base [name] = .ok ⟨location, none⟩) :
    location = base ++ [name] ∨
      ∃ target, disk.walk false left base [name] = .ok ⟨base ++ [name], some (.link target)⟩ := by
  have hstep : ∀ {jump jump' : Location → Path → List String → Except Failure Found},
      disk.walkNames true jump base [name] = .ok ⟨location, none⟩ →
        location = base ++ [name] ∨ ∃ target,
          disk.walkNames false jump' base [name] = .ok ⟨base ++ [name], some (.link target)⟩ := by
    intro jump jump' h
    unfold walkNames at h ⊢
    split at h
    · cases h
    rename_i hsize
    rw [if_neg hsize, if_neg hdots]
    split at h
    · cases h
      exact .inl rfl
    · rename_i hnode
      simp only [walkNames, hnode] at h
      cases h
    · cases h
    · exact .inr ⟨_, rfl⟩
  cases left with
  | zero => exact hstep h
  | succ left => exact hstep h

/-! ## Stamps and texts -/

/-- A path with a stamp can be read, and its text is the text of its bytes. -/
theorem readText?_eq {disk : Disk} {path : Path} {stamp : Option Stamp}
    (h : disk.stamp? path = .ok stamp) :
    disk.readText? path = .ok ((disk.bytes? path).map Text.Utf8.fileText) := by
  unfold stamp? at h
  unfold readText? bytes?
  split at h <;> simp_all

/-- A path is refused when it is read exactly where its stamp is refused. -/
theorem readText?_error {disk : Disk} {path : Path} {failure : Failure}
    (h : disk.stamp? path = .error failure) : disk.readText? path = .error failure := by
  unfold stamp? at h
  unfold readText?
  split at h
  · cases h
  · cases h
  · rename_i hstat
    cases h
    rw [hstat]
  · cases h

/-- A path without a stamp has no text. -/
theorem readText?_of_stamp_none {disk : Disk} {path : Path} (h : disk.stamp? path = .ok none) :
    disk.readText? path = .ok none := by
  unfold stamp? at h
  unfold readText?
  split at h <;> simp_all

/-- A path that leads to a file has a text. -/
theorem readText?_of_isFile {disk : Disk} {path : Path} (h : disk.isFile path = .ok true) :
    ∃ text, disk.readText? path = .ok (some text) := by
  unfold isFile leadsTo at h
  unfold readText?
  split at h
  · rename_i node hstat
    rw [hstat]
    cases node with
    | file content stamp => exact ⟨_, rfl⟩
    | directory => cases h
    | link target => cases h
  · cases h
  · cases h

/-- What has a text is a file. -/
theorem isFile_of_readText? {disk : Disk} {path : Path} {text : String}
    (h : disk.readText? path = .ok (some text)) : disk.isFile path = .ok true := by
  unfold readText? at h
  unfold isFile leadsTo
  split at h
  · rename_i hstat
    rw [hstat]
  · cases h
  · cases h

/-- A path with the time of a file leads to a file of that time. -/
theorem stat_of_stamp {disk : Disk} {path : Path} {time : Int}
    (h : disk.stamp? path = .ok (some (.file time))) :
    ∃ content, disk.stat path = .ok (.file content time) := by
  unfold stamp? at h
  split at h
  · rename_i content _ hstat
    cases h
    exact ⟨content, hstat⟩
  · cases h
  · cases h
  · cases h

/-- A path without the time of a file has no bytes. -/
theorem bytes?_eq_none {disk : Disk} {path : Path}
    (h : ∀ time, disk.stamp? path ≠ .ok (some (.file time))) : disk.bytes? path = none := by
  unfold bytes?
  split
  · rename_i content time hstat
    exact absurd (by rw [stamp?, hstat]) (h time)
  · rfl

end Preflight.Disk
