import Preflight.Proofs.Disk.Listing
import Preflight.Proofs.Disk.Path
import Preflight.Proofs.Disk.Walk
import Preflight.Proofs.Pairs

/-!
# Trees of files

A disk is a tree (`IsTree`): each location has one node, its names are names, and a directory stands
above it. On a tree a path without links and double points leads straight to its location
(`locate_straight`), and the files listed below a directory are those that open directories lead to
(`mem_listedNames`).
-/

set_option autoImplicit false

namespace Preflight.Disk

instance : DecidablePred Path.IsName := fun chars =>
  inferInstanceAs (Decidable (chars ≠ [] ∧ chars ≠ ['.'] ∧ '/' ∉ chars))

/-- A name that leads down: neither a single nor a double point. -/
def LeadsDown (name : String) : Prop := Path.IsName name.toList ∧ name ≠ ".."

instance : DecidablePred LeadsDown := fun _ => inferInstanceAs (Decidable (_ ∧ _))

/-- The disk is a tree of files. -/
structure IsTree (disk : Disk) : Prop where
  /-- Each location is there once. -/
  distinct : (disk.nodes.map (·.1)).Nodup
  /-- Its names lead down. -/
  named : ∀ location ∈ disk.nodes.map (·.1), ∀ name ∈ location, LeadsDown name
  /-- A directory stands above it. -/
  above : ∀ location ∈ disk.nodes.map (·.1), disk.node? location.dropLast = some .directory

instance : DecidablePred IsTree := fun disk =>
  decidable_of_iff ((disk.nodes.map (·.1)).Nodup ∧
      (∀ location ∈ disk.nodes.map (·.1), ∀ name ∈ location, LeadsDown name) ∧
      ∀ location ∈ disk.nodes.map (·.1), disk.node? location.dropLast = some .directory)
    ⟨fun ⟨distinct, named, above⟩ => ⟨distinct, named, above⟩,
      fun ⟨distinct, named, above⟩ => ⟨distinct, named, above⟩⟩

namespace IsTree

variable {disk : Disk}

/-- What stands at a location other than the top is among the nodes. -/
theorem node?_eq_some_iff (h : disk.IsTree) {location : Location} (hne : location ≠ [])
    {node : Node} : disk.node? location = some node ↔ (location, node) ∈ disk.nodes := by
  rw [node?, if_neg (by simpa using hne), Pairs.mem_iff_lookup h.distinct]

/-- A location with a node is among those of the nodes. -/
theorem mem_locations (h : disk.IsTree) {location : Location} (hne : location ≠ []) {node : Node}
    (hnode : disk.node? location = some node) : location ∈ disk.nodes.map (·.1) :=
  List.mem_map.mpr ⟨_, (h.node?_eq_some_iff hne).mp hnode, rfl⟩

/-- The names of a location with a node lead down. -/
theorem leadsDown (h : disk.IsTree) {location : Location} {node : Node}
    (hnode : disk.node? location = some node) : ∀ name ∈ location, LeadsDown name := by
  by_cases hne : location = []
  · simp [hne]
  · exact h.named location (h.mem_locations hne hnode)

/-- **Above a location with a node stand directories.** -/
theorem directory_above (h : disk.IsTree) {above : Location} (below : Location) {node : Node}
    (hnode : disk.node? (above ++ below) = some node) (hne : below ≠ []) :
    disk.node? above = some .directory := by
  induction below using List.reverseRecOn generalizing node with
  | nil => exact absurd rfl hne
  | append_singleton below name ih =>
    have hdirectory := h.above _ (h.mem_locations (by simp) hnode)
    rw [← List.append_assoc, List.dropLast_concat] at hdirectory
    by_cases hbelow : below = []
    · rwa [hbelow, List.append_nil] at hdirectory
    · exact ih hdirectory hbelow

end IsTree

/-! ## Straight ways -/

/-- The names lead straight to a location: directories stand above it, no name is a double point, and
no link stands there. -/
structure IsStraight (disk : Disk) (location : Location) : Prop where
  above : ∀ above below, location = above ++ below → below ≠ [] →
    disk.node? above = some .directory
  down : ∀ name ∈ location, LeadsDown name
  noLink : ∀ target, disk.node? location ≠ some (.link target)

/-- Names lead straight to what stands on a tree, unless it is a link. -/
theorem IsTree.isStraight {disk : Disk} (h : disk.IsTree) {location : Location} {node : Node}
    (hnode : disk.node? location = some node) (hlink : ∀ target, node ≠ .link target) :
    disk.IsStraight location where
  above := by
    rintro above below rfl hne
    exact h.directory_above below hnode hne
  down := h.leadsDown hnode
  noLink target heq := hlink target (Option.some.inj (hnode.symm.trans heq))

/-- They lead straight to a missing name in a directory. -/
theorem IsTree.isStraight_of_missing {disk : Disk} (h : disk.IsTree) {base : Location}
    {name : String} (hbase : disk.node? base = some .directory) (hname : LeadsDown name)
    (hnone : disk.node? (base ++ [name]) = none) : disk.IsStraight (base ++ [name]) where
  above above below heq hne := by
    obtain ⟨rest, last, rfl⟩ := (List.eq_nil_or_concat below).resolve_left hne
    rw [List.concat_eq_append, ← List.append_assoc] at heq
    obtain ⟨rfl, -⟩ := List.append_inj' heq rfl
    by_cases hrest : rest = []
    · rwa [hrest, List.append_nil] at hbase
    · exact h.directory_above rest hbase hrest
  down name' hmem := by
    rcases List.mem_append.mp hmem with hmem | hmem
    · exact h.leadsDown hbase name' hmem
    · rwa [List.mem_singleton.mp hmem]
  noLink target heq := by simp [hnone] at heq

/-- A path may be walked: it is not too long, and neither is one of its names. -/
def checkWay (path : Path) : Except Failure Unit := do
  checkPath path
  if path.names.any fun name => decide (name.utf8ByteSize > maxNameBytes) then
    .error .nameTooLong

/-- Nothing but length and zero characters stops a walk. -/
theorem checkWay_error {path : Path} {failure : Failure} (h : checkWay path = .error failure) :
    failure = .nameTooLong ∨ failure = .nulInPath := by
  unfold checkWay checkPath at h
  split at h
  · cases h
    exact .inr rfl
  split at h
  · cases h
    exact .inl rfl
  · dsimp only [bind, Except.bind] at h
    split at h
    · cases h
      exact .inl rfl
    · cases h

/-- Names that lead straight are walked one after the other. -/
theorem walkNames_straight (disk : Disk) (followLast : Bool)
    (jump : Location → Path → List String → Except Failure Found) (names : List String) :
    ∀ (at_ : Location), names ≠ [] →
      (∀ above below, names = above ++ below → above ≠ [] → below ≠ [] →
        disk.node? (at_ ++ above) = some .directory) →
      (∀ name ∈ names, LeadsDown name) →
      (∀ target, disk.node? (at_ ++ names) ≠ some (.link target)) →
      disk.walkNames followLast jump at_ names =
        if names.any fun name => decide (name.utf8ByteSize > maxNameBytes) then .error .nameTooLong
        else .ok ⟨at_ ++ names, disk.node? (at_ ++ names)⟩ := by
  -- on the names that are left; the place that is reached grows by the name that is walked
  induction names with
  | nil => exact fun _ hne => absurd rfl hne
  | cons name rest ih =>
    intro at_ _ habove hdown hlink
    unfold walkNames
    rw [List.any_cons]
    by_cases hsize : name.utf8ByteSize > maxNameBytes
    · simp [hsize]
    rw [if_neg hsize, if_neg (hdown name (by simp)).2, decide_eq_false hsize, Bool.false_or]
    by_cases hrest : rest = []
    · subst hrest
      cases hnode : disk.node? (at_ ++ [name]) with
      | none => simp
      | some node =>
        cases node with
        | directory => simp [walkNames, hnode]
        | file content stamp => simp
        | link target => exact absurd hnode (hlink target)
    · have hdirectory : disk.node? (at_ ++ [name]) = some .directory :=
        habove [name] rest rfl (by simp) hrest
      rw [hdirectory]
      have hassoc : ∀ more : List String, at_ ++ [name] ++ more = at_ ++ name :: more := by simp
      have hwalk := ih (at_ ++ [name]) hrest (fun above below heq _ hbelow => by
        rw [hassoc]
        exact habove (name :: above) below (by rw [heq, List.cons_append]) (by simp) hbelow)
        (fun other hother => hdown other (by simp [hother]))
        (fun target => by rw [hassoc]; exact hlink target)
      rw [hassoc] at hwalk
      exact hwalk

/-- **A straight path leads to its location**, if it may be walked. -/
theorem locate_straight {disk : Disk} {path : Path} (h : disk.IsStraight path.names)
    (followLast : Bool) : disk.locate path followLast =
      (checkWay path).map fun _ => ⟨path.names, disk.node? path.names⟩ := by
  have hwalk : ∀ links, disk.walk followLast links [] path.names =
      if path.names.any fun name => decide (name.utf8ByteSize > maxNameBytes) then
        .error .nameTooLong
      else .ok ⟨path.names, disk.node? path.names⟩ := by
    intro links
    by_cases hnil : path.names = []
    · rw [hnil]
      cases links <;> rfl
    · have hnames := fun jump => walkNames_straight disk followLast jump path.names [] hnil
        (fun above below heq _ hbelow => h.above above below heq hbelow) h.down h.noLink
      cases links <;> exact hnames _
  unfold locate checkWay
  cases checkPath path with
  | error failure => rfl
  | ok _ =>
    simp only [hwalk]
    split <;> rfl

/-- A straight path leads to what stands at its location. -/
theorem stat_straight {disk : Disk} {path : Path} (h : disk.IsStraight path.names) :
    disk.stat path = (checkWay path >>= fun _ =>
      match disk.node? path.names with
      | some node => .ok node
      | none => .error .notFound) := by
  rw [stat, locate_straight h]
  cases checkWay path with
  | error failure => rfl
  | ok _ =>
    cases disk.node? path.names <;> rfl

/-- What stands at its location has the property that is asked for, or has not. -/
theorem leadsTo_straight {disk : Disk} {path : Path} (h : disk.IsStraight path.names)
    (property : Node → Bool) : disk.leadsTo path property =
      match checkWay path with
      | .ok () => .ok ((disk.node? path.names).any property)
      | .error .nameTooLong => .error .nameTooLong
      | .error _ => .ok false := by
  rw [leadsTo, stat_straight h]
  cases checkWay path with
  | error failure => cases failure <;> rfl
  | ok _ => cases disk.node? path.names <;> rfl

/-- The text of a file; other nodes have none. -/
def nodeText? : Node → Option String
  | .file content _ => some (Text.Utf8.fileText content)
  | _ => none

/-- A straight path has the text of what stands at its location. -/
theorem readText?_straight {disk : Disk} {path : Path} (h : disk.IsStraight path.names) :
    disk.readText? path =
      match checkWay path with
      | .ok () => .ok ((disk.node? path.names).bind nodeText?)
      | .error .nulInPath => .error .nulInPath
      | .error _ => .ok none := by
  rw [readText?, stat_straight h]
  cases checkWay path with
  | error failure => cases failure <;> rfl
  | ok _ =>
    cases disk.node? path.names with
    | none => rfl
    | some node => cases node <;> rfl

/-- On a tree a path to a file may be read if it may be walked. -/
theorem IsTree.file_of_node {disk : Disk} (h : disk.IsTree) {path : Path} {content : List UInt8}
    {stamp : Int} (hway : checkWay path = .ok ())
    (hnode : disk.node? path.names = some (.file content stamp)) :
    disk.isFile path = .ok true ∧
      disk.readText? path = .ok (some (Text.Utf8.fileText content)) := by
  have hstraight := h.isStraight hnode (by simp)
  rw [isFile, leadsTo_straight hstraight, readText?_straight hstraight, hway, hnode]
  exact ⟨rfl, rfl⟩

/-- A straight path to a directory lists what is visible there. -/
theorem visibleFiles_straight {disk : Disk} {root : Path} (h : disk.IsStraight root.names)
    (hdirectory : disk.node? root.names = some .directory) :
    disk.visibleFiles root =
      match checkWay root with
      | .ok () => .ok (disk.visibleBelow root root.names)
      | .error .nameTooLong => .error .nameTooLong
      | .error _ => .ok [] := by
  rw [visibleFiles, isDirectory, leadsTo_straight h, locate_straight h, hdirectory]
  cases checkWay root with
  | error failure => cases failure <;> rfl
  | ok _ => rfl

/-! ## Setting files -/

/-- The nodes with a file set: it stands in its place, or behind the others. -/
theorem nodes_set (disk : Disk) (location : Location) (node : Node) :
    (disk.set location node).nodes =
      if location ∈ disk.nodes.map (·.1) then Pairs.replace location node disk.nodes
      else disk.nodes ++ [(location, node)] := by
  unfold set
  by_cases hmem : location ∈ disk.nodes.map (·.1)
  · rw [if_pos hmem, if_pos]
    · rfl
    · rw [Option.isSome_iff_ne_none, ne_eq, Pairs.lookup_eq_none_iff]
      exact not_not_intro hmem
  · rw [if_neg hmem, if_neg]
    rw [Pairs.lookup_eq_none_iff.mpr hmem]
    simp

/-- Every node is as it was but the one that is set. -/
theorem node?_set {disk : Disk} {location : Location} (hne : location ≠ []) (node : Node)
    (other : Location) : (disk.set location node).node? other =
      if other = location then some node else disk.node? other := by
  by_cases hother : other = []
  · subst hother
    rw [if_neg (Ne.symm hne)]
    rfl
  have hnode : ∀ d : Disk, d.node? other = d.nodes.lookup other := fun d =>
    if_neg (by simpa using hother)
  rw [hnode, hnode, nodes_set]
  split
  · rename_i hmem
    rw [Pairs.lookup_replace]
    split
    · cases hold : disk.nodes.lookup location with
      | none => exact absurd hmem (Pairs.lookup_eq_none_iff.mp hold)
      | some old => rfl
    · rfl
  · rename_i hmem
    rw [List.lookup_append]
    by_cases heq : other = location
    · subst heq
      rw [Pairs.lookup_eq_none_iff.mpr hmem]
      simp
    · simp [List.lookup_cons, beq_false_of_ne heq, heq]

/-- The locations with one that is set. -/
theorem locations_set (disk : Disk) (location : Location) (node : Node) :
    (disk.set location node).nodes.map (·.1) =
      if location ∈ disk.nodes.map (·.1) then disk.nodes.map (·.1)
      else disk.nodes.map (·.1) ++ [location] := by
  rw [nodes_set]
  split
  · exact Pairs.keys_replace location node disk.nodes
  · rw [List.map_append]
    rfl

/-- A location that is there now was there, or was set. -/
theorem mem_locations_set {disk : Disk} {location other : Location} {node : Node}
    (h : other ∈ (disk.set location node).nodes.map (·.1)) :
    other = location ∨ other ∈ disk.nodes.map (·.1) := by
  rw [locations_set] at h
  split at h
  · exact .inr h
  · exact (List.mem_append.mp h).elim .inr fun hlast => .inl (List.mem_singleton.mp hlast)

/-- **A tree stays a tree** when a file is set in a directory, where a file or nothing stood. -/
theorem IsTree.set {disk : Disk} (h : disk.IsTree) {base : Location} {name : String}
    (hbase : disk.node? base = some .directory) (hname : LeadsDown name)
    (hplace : disk.node? (base ++ [name]) ≠ some .directory) {node : Node} :
    (disk.set (base ++ [name]) node).IsTree where
  distinct := by
    rw [locations_set]
    split
    · exact h.distinct
    · rename_i hnew
      refine List.nodup_append.mpr ⟨h.distinct, by simp, fun a ha b hb => ?_⟩
      rw [List.mem_singleton.mp hb]
      exact fun heq => hnew (heq ▸ ha)
  named location hmem name' hname' := by
    obtain rfl | hold := mem_locations_set hmem
    · rcases List.mem_append.mp hname' with hname' | hname'
      · exact h.leadsDown hbase name' hname'
      · rwa [List.mem_singleton.mp hname']
    · exact h.named location hold name' hname'
  above location hmem := by
    have hdirectory : disk.node? location.dropLast = some .directory := by
      obtain rfl | hold := mem_locations_set hmem
      · rwa [List.dropLast_concat]
      · exact h.above location hold
    rw [node?_set (by simp), if_neg, hdirectory]
    rintro heq
    exact hplace (heq ▸ hdirectory)

/-! ## Listings -/

/-- The names of the visible files below a location, in the order of the disk. -/
def listedNames (disk : Disk) (root : Path) (base : Location) : List Location :=
  ((disk.below base).filter fun (names, node) =>
    !isHidden (names.getLastD "") && isReached (disk.below base) names && isOpened root names &&
      disk.isListed root names node).map (·.1)

/-- A listing writes them with slashes. -/
theorem listedBelow_eq_map (disk : Disk) (root : Path) (base : Location) :
    disk.listedBelow root base = (disk.listedNames root base).map (String.intercalate "/") := by
  rw [listedNames, List.map_map]
  rfl

/-- The node is below a location under the names that lead on to it. -/
theorem below_entry {base location : Location} {node : Node} {entry : Location × Node} :
    (if base.isPrefixOf location && location != base then
      some (location.drop base.length, node) else none) = some entry ↔
      location = base ++ entry.1 ∧ entry.1 ≠ [] ∧ node = entry.2 := by
  obtain ⟨names, found⟩ := entry
  simp only [Option.ite_none_right_eq_some, Bool.and_eq_true, List.isPrefixOf_iff_prefix,
    bne_iff_ne, Option.some.injEq, Prod.mk.injEq]
  constructor
  · rintro ⟨⟨⟨rest, rfl⟩, hne⟩, rfl, rfl⟩
    rw [List.drop_left]
    exact ⟨rfl, fun hnil => hne (by rw [hnil, List.append_nil]), rfl⟩
  · rintro ⟨rfl, hne, rfl⟩
    simp [hne]

/-- What is below a location stands on the disk there. -/
theorem mem_below {disk : Disk} {base names : Location} {node : Node} :
    (names, node) ∈ disk.below base ↔ names ≠ [] ∧ (base ++ names, node) ∈ disk.nodes := by
  rw [below, List.mem_filterMap]
  simp only [below_entry]
  constructor
  · rintro ⟨⟨_, _⟩, hmem, rfl, hne, rfl⟩
    exact ⟨hne, hmem⟩
  · rintro ⟨hne, hmem⟩
    exact ⟨_, hmem, rfl, hne, rfl⟩

/-- The ways to names go through some of them, but not all. -/
theorem mem_ways {names way : Location} (h : way ∈ names.ancestors.drop 1) :
    way ≠ [] ∧ ∃ rest, rest ≠ [] ∧ names = way ++ rest := by
  rw [Location.ancestors, ← List.map_drop, List.range_eq_range', List.drop_range',
    List.mem_map] at h
  obtain ⟨n, hn, rfl⟩ := h
  have hbounds : 0 < n ∧ n < names.length := by
    rw [List.mem_range'_1] at hn
    omega
  refine ⟨?_, names.drop n, ?_, (List.take_append_drop n names).symm⟩
  · exact List.ne_nil_of_length_pos (by rw [List.length_take]; omega)
  · exact List.ne_nil_of_length_pos (by rw [List.length_drop]; omega)

namespace IsTree

variable {disk : Disk} {root : Path} {base : Location}

/-- What is below a location is there once. -/
theorem below_distinct (h : disk.IsTree) : ((disk.below base).map (·.1)).Nodup := by
  have hnodes : disk.nodes.Pairwise fun a b => a.1 ≠ b.1 := List.pairwise_map.mp h.distinct
  refine List.pairwise_map.mpr (hnodes.filterMap _ ?_)
  rintro ⟨location, node⟩ ⟨location', node'⟩ hne entry hentry entry' hentry' heq
  obtain ⟨rfl, -⟩ := below_entry.mp hentry
  obtain ⟨rfl, -⟩ := below_entry.mp hentry'
  exact hne (congrArg (base ++ ·) heq)

/-- **What a listing holds on a tree**: what open directories lead to that the walk opens, is not
hidden and counts as a file. -/
theorem mem_listedNames_iff (h : disk.IsTree) {names : Location} :
    names ∈ disk.listedNames root base ↔ isHidden (names.getLastD "") = false ∧
      names.dropLast.all isOpenDirectory = true ∧ isOpened root names = true ∧ names ≠ [] ∧
      ∃ node, disk.node? (base ++ names) = some node ∧ disk.isListed root names node = true := by
  have hnode : names ≠ [] → ∀ node, disk.node? (base ++ names) = some node ↔
      (base ++ names, node) ∈ disk.nodes := fun hne node =>
    h.node?_eq_some_iff (by simp [hne])
  constructor
  · intro hmem
    obtain ⟨⟨_, node⟩, hfound, rfl⟩ := List.mem_map.mp hmem
    obtain ⟨hbelow, hlisted⟩ := List.mem_filter.mp hfound
    obtain ⟨hne, hstands⟩ := mem_below.mp hbelow
    simp only [Bool.and_eq_true, Bool.not_eq_true', isReached] at hlisted
    obtain ⟨⟨⟨hvisible, hopen, -⟩, hopened⟩, hkind⟩ := hlisted
    exact ⟨hvisible, hopen, hopened, hne, node, (hnode hne node).mpr hstands, hkind⟩
  · rintro ⟨hvisible, hopen, hopened, hne, node, hstands, hkind⟩
    refine List.mem_map.mpr ⟨(names, node), List.mem_filter.mpr ⟨?_, ?_⟩, rfl⟩
    · exact mem_below.mpr ⟨hne, (hnode hne _).mp hstands⟩
    · have hways : (names.ancestors.drop 1).all fun way =>
          (disk.below base).lookup way == some .directory := by
        refine List.all_eq_true.mpr fun way hway => ?_
        obtain ⟨hsome, rest, hrest, rfl⟩ := mem_ways hway
        rw [← List.append_assoc] at hstands
        have hdirectory := h.directory_above rest hstands hrest
        rw [h.node?_eq_some_iff (by simp [hsome])] at hdirectory
        rw [beq_iff_eq, ← Pairs.mem_iff_lookup h.below_distinct]
        exact mem_below.mpr ⟨hsome, hdirectory⟩
      simp only [isReached, hvisible, hopen, hways, hopened, hkind, Bool.not_false, Bool.and_self]

/-- Where there are no links, these are files. -/
theorem mem_listedNames (h : disk.IsTree) (hlinks : ∀ names target,
    disk.node? (base ++ names) ≠ some (.link target)) {names : Location} :
    names ∈ disk.listedNames root base ↔ isHidden (names.getLastD "") = false ∧
      names.dropLast.all isOpenDirectory = true ∧ isOpened root names = true ∧ names ≠ [] ∧
      ∃ content time, disk.node? (base ++ names) = some (.file content time) := by
  rw [h.mem_listedNames_iff]
  refine and_congr_right fun _ => and_congr_right fun _ => and_congr_right fun _ =>
    and_congr_right fun _ => ⟨?_, ?_⟩
  · rintro ⟨node, hnode, hlisted⟩
    cases node with
    | file content time => exact ⟨content, time, hnode⟩
    | directory => cases hlisted
    | link target => exact absurd hnode (hlinks _ target)
  · rintro ⟨content, time, hfile⟩
    exact ⟨_, hfile, rfl⟩

/-- No names are listed twice. -/
theorem listedNames_nodup (h : disk.IsTree) : (disk.listedNames root base).Nodup :=
  (List.filter_sublist.map _).nodup h.below_distinct

end IsTree

end Preflight.Disk
