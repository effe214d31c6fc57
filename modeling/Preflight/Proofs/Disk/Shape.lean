import Mathlib.Data.List.Forall2
import Preflight.Disk.Listing

/-!
# Disks of one shape

Two disks have one shape up to the contents of files if the same locations hold files, directories
and links with the same targets (`Shaped`); what is asked of the contents is a parameter. A walk looks
at names, kinds and targets only, so every path leads to the same place on both (`Shaped.locate`),
where the nodes are of one kind (`Shaped.stat_cases`).

A listing is told from the shape as well, where the nodes stand in the same order: every directory has
the same visible files (`NodesShaped.visibleFiles_eq`).
-/

set_option autoImplicit false

namespace Preflight

/-- Two nodes are of one kind, with related contents if they are files and with one target if they
are links. -/
inductive Node.Shaped (related : List UInt8 → List UInt8 → Prop) : Node → Node → Prop
  | file {content content' : List UInt8} (time time' : Int) (h : related content content') :
      Shaped related (.file content time) (.file content' time')
  | directory : Shaped related .directory .directory
  | link (target : String) : Shaped related (.link target) (.link target)

/-- A node is of the kind that it is of. -/
theorem Node.Shaped.refl {related : List UInt8 → List UInt8 → Prop}
    (h : ∀ content, related content content) (node : Node) : node.Shaped related node := by
  cases node with
  | file content time => exact .file time time (h content)
  | directory => exact .directory
  | link target => exact .link target

namespace Disk

variable {related : List UInt8 → List UInt8 → Prop} {disk disk' : Disk}

/-- The same locations hold nodes of one kind. -/
def Shaped (related : List UInt8 → List UInt8 → Prop) (disk disk' : Disk) : Prop :=
  ∀ location, Option.Rel (Node.Shaped related) (disk.node? location) (disk'.node? location)

/-- Nodes that are related place by place are found related. -/
theorem lookup_rel {R : Node → Node → Prop} {nodes nodes' : List (Location × Node)}
    (h : List.Forall₂ (fun entry entry' => entry.1 = entry'.1 ∧ R entry.2 entry'.2) nodes nodes')
    (location : Location) : Option.Rel R (nodes.lookup location) (nodes'.lookup location) := by
  induction h with
  | nil => exact .none
  | @cons entry entry' nodes nodes' hentry _ ih =>
    obtain ⟨place, node⟩ := entry
    obtain ⟨_, node'⟩ := entry'
    obtain ⟨rfl, hnode⟩ := hentry
    rw [List.lookup_cons, List.lookup_cons]
    cases location == place
    · exact ih
    · exact .some hnode

/-- The same locations in the same order, with nodes of one kind. -/
def NodesShaped (related : List UInt8 → List UInt8 → Prop) :
    List (Location × Node) → List (Location × Node) → Prop :=
  List.Forall₂ fun entry entry' => entry.1 = entry'.1 ∧ entry.2.Shaped related entry'.2

/-- Disks with the same locations and nodes of one kind have one shape. -/
theorem shaped_of_nodes (h : NodesShaped related disk.nodes disk'.nodes) :
    Shaped related disk disk' := by
  intro location
  unfold Disk.node?
  split
  · exact .some .directory
  · exact lookup_rel h location

/-- Two walks come to the same place, where the nodes are of one kind, or fail alike. -/
inductive ShapedAlike (related : List UInt8 → List UInt8 → Prop) :
    Except Failure Found → Except Failure Found → Prop
  | failed (failure : Failure) : ShapedAlike related (.error failure) (.error failure)
  | found (location : Location) {node? node?' : Option Node}
      (h : Option.Rel (Node.Shaped related) node? node?') :
      ShapedAlike related (.ok ⟨location, node?⟩) (.ok ⟨location, node?'⟩)

/-- A link leads alike if its target does. -/
theorem ShapedAlike.arrive {result result' : Except Failure Found}
    (h : ShapedAlike related result result') (target : String) :
    ShapedAlike related (result >>= Disk.arrive target) (result' >>= Disk.arrive target) := by
  cases h with
  | failed failure => exact .failed failure
  | found location h =>
    -- only whether there is a node, and whether it is a directory, is asked
    have hdirectory : ∀ {node? node?' : Option Node},
        Option.Rel (Node.Shaped related) node? node?' →
          (node?' = some .directory ↔ node? = some .directory) ∧ node?'.isNone = node?.isNone := by
      intro node? node?' h
      cases h with
      | none => exact ⟨Iff.rfl, rfl⟩
      | some h => cases h <;> simp
    obtain ⟨hsame, hnone⟩ := hdirectory h
    change ShapedAlike related (Disk.arrive target _) (Disk.arrive target _)
    unfold Disk.arrive
    dsimp only
    simp only [hsame, hnone]
    split
    · exact .found location h
    split
    · exact .failed _
    split
    · exact .failed _
    · exact .found location h

namespace Shaped

/-- Names are walked alike if every jump from a link is. -/
theorem walkNames (h : Shaped related disk disk') (followLast : Bool)
    {jump jump' : Location → Path → List String → Except Failure Found}
    (hjump : ∀ at_ target rest, ShapedAlike related (jump at_ target rest) (jump' at_ target rest))
    (names : List String) : ∀ at_, ShapedAlike related
      (disk.walkNames followLast jump at_ names) (disk'.walkNames followLast jump' at_ names) := by
  induction names with
  | nil => exact fun at_ => .found at_ (h at_)
  | cons name rest ih =>
    intro at_
    unfold Disk.walkNames
    split
    · exact .failed _
    split
    · exact ih _
    have hnode := h (at_ ++ [name])
    generalize disk.node? (at_ ++ [name]) = node? at hnode ⊢
    generalize disk'.node? (at_ ++ [name]) = node?' at hnode ⊢
    cases hnode with
    | none =>
      dsimp only
      split
      · exact .found _ .none
      · exact .failed _
    | some hnode =>
      cases hnode with
      | directory => exact ih _
      | file time time' hcontent =>
        dsimp only
        split
        · exact .found _ (.some (.file time time' hcontent))
        · exact .failed _
      | link target =>
        dsimp only
        split
        · split
          · exact (hjump _ _ _).arrive _
          · exact .found _ (.some (.link target))
        · exact hjump _ _ _

theorem walk (h : Shaped related disk disk') (followLast : Bool) (links : Nat) : ∀ at_ names,
    ShapedAlike related (disk.walk followLast links at_ names)
      (disk'.walk followLast links at_ names) := by
  induction links with
  | zero => exact fun at_ names => h.walkNames followLast (fun _ _ _ => .failed _) names at_
  | succ links ih => exact fun at_ names => h.walkNames followLast (fun _ _ _ => ih _ _) names at_

/-- **Every path leads to the same place**, or fails alike. -/
theorem locate (h : Shaped related disk disk') (path : Path) (followLast : Bool) :
    ShapedAlike related (disk.locate path followLast) (disk'.locate path followLast) := by
  unfold Disk.locate
  split
  · exact .failed _
  · exact h.walk followLast _ _ _

/-- What a path leads to is of one kind. -/
theorem stat_cases (h : Shaped related disk disk') (path : Path) :
    (∃ failure, disk.stat path = .error failure ∧ disk'.stat path = .error failure) ∨
      ∃ node node', disk.stat path = .ok node ∧ disk'.stat path = .ok node' ∧
        node.Shaped related node' := by
  have hfound := h.locate path true
  unfold stat
  generalize disk.locate path = result at hfound ⊢
  generalize disk'.locate path = result' at hfound ⊢
  cases hfound with
  | failed failure => exact .inl ⟨failure, rfl, rfl⟩
  | found location hnode =>
    cases hnode with
    | none => exact .inl ⟨.notFound, rfl, rfl⟩
    | some hnode => exact .inr ⟨_, _, rfl, rfl, hnode⟩

/-- What is asked of the kind of a node is answered alike. -/
theorem leadsTo_eq (h : Shaped related disk disk') (path : Path) {property : Node → Bool}
    (hproperty : ∀ {node node'}, node.Shaped related node' → property node' = property node) :
    disk'.leadsTo path property = disk.leadsTo path property := by
  unfold leadsTo
  obtain ⟨failure, hbefore, hafter⟩ | ⟨node, node', hbefore, hafter, hnode⟩ := h.stat_cases path
  · rw [hbefore, hafter]
  · rw [hbefore, hafter]
    exact congrArg Except.ok (hproperty hnode)

theorem pathExists_eq (h : Shaped related disk disk') (path : Path) :
    disk'.pathExists path = disk.pathExists path :=
  h.leadsTo_eq path fun _ => rfl

theorem isFile_eq (h : Shaped related disk disk') (path : Path) :
    disk'.isFile path = disk.isFile path :=
  h.leadsTo_eq path fun hnode => by cases hnode <;> rfl

theorem isDirectory_eq (h : Shaped related disk disk') (path : Path) :
    disk'.isDirectory path = disk.isDirectory path :=
  h.leadsTo_eq path fun hnode => by cases hnode <;> rfl

/-- What a path reads: the texts of related contents, or alike no text. -/
theorem readText?_cases (h : Shaped related disk disk') (path : Path) :
    (disk'.readText? path = disk.readText? path ∧ ∀ text, disk.readText? path ≠ .ok (some text)) ∨
      ∃ content content', related content content' ∧
        disk.readText? path = .ok (some (Text.Utf8.fileText content)) ∧
        disk'.readText? path = .ok (some (Text.Utf8.fileText content')) := by
  unfold readText?
  obtain ⟨failure, hbefore, hafter⟩ | ⟨node, node', hbefore, hafter, hnode⟩ := h.stat_cases path
  · rw [hbefore, hafter]
    refine .inl ⟨rfl, fun text => ?_⟩
    cases failure <;> nofun
  · rw [hbefore, hafter]
    cases hnode with
    | file time time' hcontent => exact .inr ⟨_, _, hcontent, rfl, rfl⟩
    | directory => exact .inl ⟨rfl, nofun⟩
    | link target => exact .inl ⟨rfl, nofun⟩

/-- A link is taken for a directory alike. -/
theorem seesDirectory_eq (h : Shaped related disk disk') (root : Path) (names : Location) :
    disk'.seesDirectory root names = disk.seesDirectory root names := by
  unfold seesDirectory
  obtain ⟨failure, hbefore, hafter⟩ | ⟨node, node', hbefore, hafter, hnode⟩ :=
    h.stat_cases ⟨root.start, root.names ++ names⟩
  · rw [hbefore, hafter]
  · rw [hbefore, hafter]
    cases hnode <;> rfl

/-- A node counts as a file of a listing alike. -/
theorem isListed_eq (h : Shaped related disk disk') (root : Path) (names : Location)
    {node node' : Node} (hnode : node.Shaped related node') :
    disk'.isListed root names node' = disk.isListed root names node := by
  cases hnode with
  | file => rfl
  | directory => rfl
  | link target => exact congrArg (!·) (h.seesDirectory_eq root names)

end Shaped

/-! ## Listings -/

namespace NodesShaped

theorem below (h : NodesShaped related disk.nodes disk'.nodes) (base : Location) :
    NodesShaped related (disk.below base) (disk'.below base) := by
  refine List.rel_filterMap ?_ h
  rintro ⟨location, node⟩ ⟨_, node'⟩ ⟨rfl, hnode⟩
  dsimp only
  split
  · exact .some ⟨rfl, hnode⟩
  · exact .none

theorem isReached_eq {nodes nodes' : List (Location × Node)} (h : NodesShaped related nodes nodes')
    (names : Location) : isReached nodes' names = isReached nodes names := by
  have hstep : ∀ way, (nodes'.lookup way == some .directory) =
      (nodes.lookup way == some .directory) := by
    intro way
    have halike := lookup_rel h way
    generalize nodes.lookup way = node? at halike ⊢
    generalize nodes'.lookup way = node?' at halike ⊢
    cases halike with
    | none => rfl
    | some halike => cases halike <;> rfl
  unfold isReached
  simp only [hstep]

theorem listedBelow_eq (h : NodesShaped related disk.nodes disk'.nodes) (root : Path)
    (base : Location) : disk'.listedBelow root base = disk.listedBelow root base := by
  have hbelow := h.below base
  unfold listedBelow
  simp only [isReached_eq hbelow]
  -- entry by entry: whether an entry is listed and how it is named are the same on both
  generalize isReached (disk.below base) = reached
  generalize disk.below base = nodes at hbelow ⊢
  generalize disk'.below base = nodes' at hbelow ⊢
  induction hbelow with
  | nil => rfl
  | @cons entry entry' nodes nodes' hentry _ ih =>
    obtain ⟨names, node⟩ := entry
    obtain ⟨_, node'⟩ := entry'
    obtain ⟨rfl, hnode⟩ := hentry
    simp only [List.filter_cons, (shaped_of_nodes h).isListed_eq root _ hnode]
    split
    · simp only [List.map_cons, ih]
    · exact ih

/-- **Every directory has the same visible files.** -/
theorem visibleFiles_eq (h : NodesShaped related disk.nodes disk'.nodes) (root : Path) :
    disk'.visibleFiles root = disk.visibleFiles root := by
  unfold visibleFiles
  rw [(shaped_of_nodes h).isDirectory_eq]
  have hfound := (shaped_of_nodes h).locate root true
  generalize disk.locate root = result at hfound ⊢
  generalize disk'.locate root = result' at hfound ⊢
  cases hfound with
  | failed failure => rfl
  | found location hnode => simp only [visibleBelow, h.listedBelow_eq]

end NodesShaped

end Disk

end Preflight
