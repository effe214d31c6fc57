import Mathlib.Data.List.Nodup
import Preflight.Proofs.Disk.Zero

/-!
# What is visible below a root

A file is visible below a location if open directories lead to it, step by step (`LeadsThrough`),
its name is not hidden, and it counts as a file (`CountsAsFile`): links do, also those that lead
nowhere or round in a circle, unless they lead to a directory. A listing holds the visible files,
each once, in the order of their characters (`visibleFiles_lists`).

Names above the root have no say in it but by their length. The walk names what it opens by its path
from the root, and passes over a directory whose path is too long (`listedBelow_wayRound`).

A root that leads to no directory has no visible files, with one exception: whether it does is not
answered where its path is too long, and then there is no listing (`stat_longName`).
-/

set_option autoImplicit false

namespace Preflight.Disk

/-- From the location of a root the names lead on through open directories: no link, neither hidden
nor a package cache, with a path from the root that is not too long. -/
inductive LeadsThrough (disk : Disk) (root : Path) (base : Location) : (way : Location) → Prop
  | here : LeadsThrough disk root base []
  | into {way : Location} {name : String} : LeadsThrough disk root base way →
      isOpenDirectory name = true → disk.node? (base ++ (way ++ [name])) = some .directory →
        canName root (way ++ [name]) = true → LeadsThrough disk root base (way ++ [name])

/-- What stands below the location of a root counts as a file: it is one, or a link that leads to no
directory, or whose path is too long to lead anywhere. -/
inductive CountsAsFile (disk : Disk) (root : Path) (base names : Location) : Prop
  | file {content : List UInt8} {time : Int} :
      disk.node? (base ++ names) = some (.file content time) → CountsAsFile disk root base names
  | link {target : String} : disk.node? (base ++ names) = some (.link target) →
      disk.stat ⟨root.start, root.names ++ names⟩ ≠ .ok .directory →
        CountsAsFile disk root base names
  | longLink {target : String} : disk.node? (base ++ names) = some (.link target) →
      canName root names = false → CountsAsFile disk root base names

/-- A file with a name is visible at the end of a way from the location of a root. -/
structure IsVisible (disk : Disk) (root : Path) (base way : Location) (name : String) : Prop where
  leads : disk.LeadsThrough root base way
  shown : isHidden name = false
  counts : disk.CountsAsFile root base (way ++ [name])

/-- The same stands below the locations of two roots, where the same directories have a path that is
not too long, and the same links lead to directories. -/
structure AlikeBelow (disk disk' : Disk) (root root' : Path) (base base' : Location) : Prop where
  nodes : ∀ names, names ≠ [] → disk.node? (base ++ names) = disk'.node? (base' ++ names)
  directories : ∀ names, names ≠ [] → disk.node? (base ++ names) = some .directory →
    canName root names = canName root' names
  links : ∀ names target, disk.node? (base ++ names) = some (.link target) →
    disk.seesDirectory root names = disk'.seesDirectory root' names

/-- A file stands where one counts. -/
theorem CountsAsFile.exists_node {disk : Disk} {root : Path} {base names : Location}
    (h : disk.CountsAsFile root base names) : ∃ node, disk.node? (base ++ names) = some node := by
  cases h with
  | file hnode => exact ⟨_, hnode⟩
  | link hnode => exact ⟨_, hnode⟩
  | longLink hnode => exact ⟨_, hnode⟩

/-- A link is taken for a directory if its path leads to one and is not too long. -/
theorem seesDirectory_iff {disk : Disk} {root : Path} {names : Location} :
    disk.seesDirectory root names = true ↔ canName root names = true ∧
      disk.stat ⟨root.start, root.names ++ names⟩ = .ok .directory := by
  rw [seesDirectory, Bool.and_eq_true]
  refine and_congr_right fun _ => ?_
  split
  · rename_i hdirectory
    exact iff_of_true rfl hdirectory
  · rename_i hother
    exact iff_of_false nofun hother

/-- A listing counts what counts as a file. -/
theorem isListed_iff {disk : Disk} {root : Path} {base names : Location} {node : Node}
    (hnode : disk.node? (base ++ names) = some node) :
    disk.isListed root names node = true ↔ disk.CountsAsFile root base names := by
  cases node with
  | file content time => exact iff_of_true rfl (.file hnode)
  | directory =>
    refine iff_of_false nofun fun h => ?_
    cases h with
    | file hfile => cases hnode.symm.trans hfile
    | link hlink => cases hnode.symm.trans hlink
    | longLink hlink => cases hnode.symm.trans hlink
  | link target =>
    rw [isListed, Bool.not_eq_true', ← Bool.not_eq_true, seesDirectory_iff, not_and_or,
      Bool.not_eq_true]
    constructor
    · rintro (hlong | hother)
      · exact .longLink hnode hlong
      · exact .link hnode hother
    · intro h
      cases h with
      | file hfile => cases hnode.symm.trans hfile
      | link _ hother => exact .inr hother
      | longLink _ hlong => exact .inl hlong

/-! ## Ways -/

/-- The way to a name goes to its directory, and from there to the name. -/
theorem ancestors_concat (way : Location) (name : String) :
    Location.ancestors (way ++ [name]) = way.ancestors ++ [way] := by
  have htake : ∀ n ∈ List.range way.length, (way ++ [name]).take n = way.take n := fun n hn =>
    List.take_append_of_le_length (Nat.le_of_lt (List.mem_range.mp hn))
  rw [Location.ancestors, Location.ancestors, List.length_append, List.length_singleton,
    List.range_succ, List.map_append, List.map_congr_left htake]
  simp

/-- A walk that opens the directory of a name has opened those on the way there. -/
theorem isOpened_concat (root : Path) (way : Location) (name : String) :
    isOpened root (way ++ [name]) = (isOpened root way && (way.isEmpty || canName root way)) := by
  unfold isOpened
  rw [ancestors_concat]
  cases way with
  | nil => rfl
  | cons first rest =>
    rw [List.drop_append_of_le_length (by simp [Location.ancestors])]
    simp

namespace IsTree

variable {disk : Disk} {root : Path} {base : Location}

/-- On a tree names lead through open directories if each of them is the name of one, and the walk
opens them: the directories stand above whatever the names lead to. -/
theorem leadsThrough_iff (h : disk.IsTree) {way rest : Location} {node : Node} (hrest : rest ≠ [])
    (hnode : disk.node? (base ++ (way ++ rest)) = some node) :
    disk.LeadsThrough root base way ↔ way.all isOpenDirectory = true ∧
      isOpened root way = true ∧ (way.isEmpty || canName root way) = true := by
  constructor
  · intro hway
    clear hnode
    induction hway with
    | here => exact ⟨rfl, rfl, rfl⟩
    | into _ hopen _ hnamed ih =>
      rw [List.all_append, isOpened_concat, ih.1, ih.2.1, ih.2.2, hnamed]
      simp [hopen]
  · induction way using List.reverseRecOn generalizing rest with
    | nil => exact fun _ => .here
    | append_singleton way name ih =>
      rw [List.all_append, isOpened_concat, Bool.and_eq_true, Bool.and_eq_true]
      rintro ⟨⟨hopen, hlast⟩, ⟨hopened, hnamed⟩, hname⟩
      have hdirectory : disk.node? (base ++ (way ++ [name])) = some .directory := by
        rw [← List.append_assoc] at hnode
        exact h.directory_above rest hnode hrest
      rw [List.append_assoc] at hnode
      refine .into (ih (by simp) hnode ⟨hopen, hopened, hnamed⟩) (by simpa using hlast) hdirectory ?_
      simpa using hname

/-- **A listing holds what is visible.** -/
theorem mem_visibleBelow_iff (h : disk.IsTree) {text : String} :
    text ∈ disk.visibleBelow root base ↔ ∃ way name, disk.IsVisible root base way name ∧
      text = String.intercalate "/" (way ++ [name]) := by
  rw [(disk.visibleBelow_perm root base).mem_iff, listedBelow_eq_map, List.mem_map]
  constructor
  · rintro ⟨names, hmem, rfl⟩
    obtain ⟨hshown, hopen, hopened, hne, node, hnode, hlisted⟩ := h.mem_listedNames_iff.mp hmem
    obtain ⟨way, name, rfl⟩ := (List.eq_nil_or_concat names).resolve_left hne
    simp only [List.concat_eq_append] at *
    rw [List.getLastD_concat] at hshown
    rw [List.dropLast_concat] at hopen
    rw [isOpened_concat, Bool.and_eq_true] at hopened
    exact ⟨way, name, ⟨(h.leadsThrough_iff (by simp) hnode).mpr ⟨hopen, hopened⟩, hshown,
      (isListed_iff hnode).mp hlisted⟩, rfl⟩
  · rintro ⟨way, name, hvisible, rfl⟩
    obtain ⟨node, hnode⟩ := hvisible.counts.exists_node
    obtain ⟨hopen, hopened⟩ := (h.leadsThrough_iff (by simp) hnode).mp hvisible.leads
    refine ⟨way ++ [name],
      h.mem_listedNames_iff.mpr ⟨?_, ?_, ?_, by simp, node, hnode, ?_⟩, rfl⟩
    · rw [List.getLastD_concat]
      exact hvisible.shown
    · rwa [List.dropLast_concat]
    · rwa [isOpened_concat, Bool.and_eq_true]
    · exact (isListed_iff hnode).mpr hvisible.counts

/-- No file is listed twice. -/
theorem nodup_visibleBelow (h : disk.IsTree) : (disk.visibleBelow root base).Nodup := by
  rw [(disk.visibleBelow_perm root base).nodup_iff, listedBelow_eq_map]
  have hnames : ∀ names ∈ disk.listedNames root base, ∀ name ∈ names,
      Path.IsName name.toList := by
    intro names hmem name hname
    obtain ⟨-, -, -, -, node, hnode, -⟩ := h.mem_listedNames_iff.mp hmem
    exact (h.leadsDown hnode name (List.mem_append_right _ hname)).1
  refine List.Nodup.map_on (fun names hmem names' hmem' heq => ?_) h.listedNames_nodup
  exact Path.intercalate_names_inj (hnames names hmem) (hnames names' hmem') heq

/-- **A listing increases strictly.** -/
theorem pairwise_lt_visibleBelow (h : disk.IsTree) :
    (disk.visibleBelow root base).Pairwise (· < ·) := by
  refine ((disk.pairwise_visibleBelow root base).and h.nodup_visibleBelow).imp fun ⟨hle, hne⟩ => ?_
  exact Decidable.byContradiction fun hlt => hne (String.le_antisymm hle (String.not_lt.mp hlt))

/-- Listings of trees are the same where what stands below is. -/
theorem visibleBelow_eq (h : disk.IsTree) {disk' : Disk} (h' : disk'.IsTree) {root' : Path}
    {base' : Location} (halike : disk.AlikeBelow disk' root root' base base') :
    disk.visibleBelow root base = disk'.visibleBelow root' base' := by
  have hlisted : ∀ names node, disk.node? (base ++ names) = some node →
      disk.isListed root names node = disk'.isListed root' names node := by
    intro names node hnode
    cases node with
    | file content time => rfl
    | directory => rfl
    | link target => exact congrArg (!·) (halike.links names target hnode)
  -- the ways to what stands there are directories, which are opened alike
  have hopened : ∀ names node, disk.node? (base ++ names) = some node →
      isOpened root names = isOpened root' names := by
    intro names node hnode
    refine Bool.eq_iff_iff.mpr ?_
    rw [isOpened, isOpened, List.all_eq_true, List.all_eq_true]
    refine forall₂_congr fun way hway => ?_
    obtain ⟨hne, rest, hrest, rfl⟩ := mem_ways hway
    rw [← List.append_assoc] at hnode
    rw [halike.directories way hne (h.directory_above rest hnode hrest)]
  have hnames : ∀ names,
      names ∈ disk.listedNames root base ↔ names ∈ disk'.listedNames root' base' := by
    intro names
    rw [h.mem_listedNames_iff, h'.mem_listedNames_iff]
    refine and_congr_right fun _ => and_congr_right fun _ => ?_
    by_cases hne : names = []
    · simp [hne]
    · rw [← halike.nodes names hne]
      cases hnode : disk.node? (base ++ names) with
      | none => simp
      | some node =>
        rw [hopened names node hnode]
        simp only [Option.some.injEq, exists_eq_left', hlisted names node hnode]
  have hperm : (disk.listedBelow root base).Perm (disk'.listedBelow root' base') := by
    rw [listedBelow_eq_map, listedBelow_eq_map]
    exact ((List.perm_ext_iff_of_nodup h.listedNames_nodup h'.listedNames_nodup).mpr hnames).map _
  have hkind := filter_visibleBelow (hperm.filter fun _ => true)
  rwa [List.filter_true, List.filter_true] at hkind

end IsTree

/-! ## The listing of a root -/

/-- A directory that is located is listed. -/
theorem visibleFiles_of_locate {disk : Disk} {root : Path} {base : Location}
    (h : disk.locate root = .ok ⟨base, some .directory⟩) :
    disk.visibleFiles root = .ok (disk.visibleBelow root base) := by
  rw [visibleFiles, isDirectory, leadsTo, stat, h]

/-- What is no directory has no files, but of a path that is too long it is not known what it is. -/
theorem visibleFiles_of_no_directory {disk : Disk} {root : Path}
    (h : disk.stat root ≠ .ok .directory) : disk.visibleFiles root =
      if disk.stat root = .error .nameTooLong then .error .nameTooLong else .ok [] := by
  split
  · rename_i hlong
    rw [visibleFiles, isDirectory_of_tooLong hlong]
  · rename_i hshort
    rw [visibleFiles, isDirectory_of_other h hshort]

/-- **The listing of a root** holds what is visible below its directory, each file once and in the
order of the characters. It is the same for every root with the same below it, whatever the root is
called. There are no files in a root that leads to no directory, unless its path is too long: then
there is no listing. -/
theorem visibleFiles_lists {disk : Disk} (h : disk.IsTree) (root : Path) :
    (∀ base, disk.locate root = .ok ⟨base, some .directory⟩ →
      ∃ files, disk.visibleFiles root = .ok files ∧ files.Pairwise (· < ·) ∧
        (∀ text, text ∈ files ↔ ∃ way name, disk.IsVisible root base way name ∧
          text = String.intercalate "/" (way ++ [name])) ∧
        ∀ disk' root' base', disk'.IsTree → disk'.locate root' = .ok ⟨base', some .directory⟩ →
          disk.AlikeBelow disk' root root' base base' → disk'.visibleFiles root' = .ok files) ∧
    (disk.stat root ≠ .ok .directory → disk.visibleFiles root =
      if disk.stat root = .error .nameTooLong then .error .nameTooLong else .ok []) := by
  refine ⟨fun base hroot => ⟨disk.visibleBelow root base, visibleFiles_of_locate hroot,
    h.pairwise_lt_visibleBelow, fun text => h.mem_visibleBelow_iff, ?_⟩,
    visibleFiles_of_no_directory⟩
  intro disk' root' base' h' hroot' halike
  rw [visibleFiles_of_locate hroot', h.visibleBelow_eq h' halike]

/-- A project with hidden and installed files, a way into a directory, and three links: to that
directory, to nothing, and to itself. -/
def linkedProject (root : String) : Disk where
  nodes := [([root], .directory), ([root, ".env"], .file [] 0), ([root, "b"], .directory),
    ([root, "b.js"], .file [] 0), ([root, "b", "z.js"], .file [] 0),
    ([root, "node_modules"], .directory), ([root, "node_modules", "c.js"], .file [] 0),
    ([root, "src"], .link "b"), ([root, "gone"], .link "nowhere"), ([root, "loop"], .link "loop")]

/-- Its root may be hidden: the same is visible there as in a root that is not. -/
theorem hidden_root_lists_alike :
    (linkedProject ".git").IsTree ∧ (linkedProject "app").IsTree ∧
    (linkedProject ".git").AlikeBelow (linkedProject "app") ⟨.top, [".git"]⟩ ⟨.top, ["app"]⟩
      [".git"] ["app"] ∧
    (linkedProject ".git").visibleFiles ⟨.top, [".git"]⟩ =
      .ok ["b.js", "b/z.js", "gone", "loop"] ∧
    (linkedProject "app").visibleFiles ⟨.top, ["app"]⟩ = .ok ["b.js", "b/z.js", "gone", "loop"] ∧
    (linkedProject ".git").IsVisible ⟨.top, [".git"]⟩ [".git"] ["b"] "z.js" ∧
    (linkedProject ".git").visibleFiles ⟨.top, [".git", "b.js"]⟩ = .ok [] := by
  have htree : (linkedProject ".git").IsTree :=
    ⟨by decide +kernel, by decide +kernel, by decide +kernel⟩
  have htree' : (linkedProject "app").IsTree :=
    ⟨by decide +kernel, by decide +kernel, by decide +kernel⟩
  have hseen : ∀ entry ∈ (linkedProject ".git").nodes,
      canName ⟨.top, [".git"]⟩ (entry.1.drop 1) = canName ⟨.top, ["app"]⟩ (entry.1.drop 1) ∧
        (linkedProject ".git").seesDirectory ⟨.top, [".git"]⟩ (entry.1.drop 1) =
          (linkedProject "app").seesDirectory ⟨.top, ["app"]⟩ (entry.1.drop 1) := by
    decide +kernel
  have hentry : ∀ names node, (linkedProject ".git").node? ([".git"] ++ names) = some node →
      ([".git"] ++ names, node) ∈ (linkedProject ".git").nodes := fun names node hnode =>
    (htree.node?_eq_some_iff (by simp)).mp hnode
  have halike : (linkedProject ".git").AlikeBelow (linkedProject "app") ⟨.top, [".git"]⟩
      ⟨.top, ["app"]⟩ [".git"] ["app"] :=
    { nodes := fun names hne => by simp [node?, linkedProject, List.lookup_cons]
      directories := fun names _ hdirectory => (hseen _ (hentry names _ hdirectory)).1
      links := fun names _ hlink => (hseen _ (hentry names _ hlink)).2 }
  have hlisting : (linkedProject ".git").visibleFiles ⟨.top, [".git"]⟩ =
      .ok ["b.js", "b/z.js", "gone", "loop"] :=
    visibleFiles_of_sorted [".git"] (by decide +kernel) (by decide +kernel) (by decide +kernel)
  have hway : (linkedProject ".git").node? [".git", "b"] = some .directory := by decide +kernel
  have hleads : (linkedProject ".git").LeadsThrough ⟨.top, [".git"]⟩ [".git"] ([] ++ ["b"]) :=
    .into .here (by decide +kernel) hway (by decide +kernel)
  have hfile : (linkedProject ".git").node? [".git", "b", "z.js"] = some (.file [] 0) := by
    decide +kernel
  obtain ⟨files, hfiles, -, -, hsame⟩ :=
    (visibleFiles_lists htree ⟨.top, [".git"]⟩).1 [".git"] (by decide +kernel)
  obtain rfl := Except.ok.inj (hlisting.symm.trans hfiles)
  refine ⟨htree, htree', halike, hlisting, hsame _ _ _ htree' (by decide +kernel) halike,
    ⟨hleads, by decide +kernel, .file hfile⟩, ?_⟩
  rw [(visibleFiles_lists htree ⟨.top, [".git", "b.js"]⟩).2 (by decide +kernel)]
  exact if_neg (by decide +kernel)

/-- A name with more bytes than a name may have. -/
def longName : String := String.ofList (List.replicate 256 'a')

/-- It is a name. -/
theorem isName_longName : Path.IsName longName.toList := by
  have hname : ∀ n, n ≠ 0 → Path.IsName (String.ofList (List.replicate n 'a')).toList := by
    intro n hn
    refine ⟨by simpa using hn, fun hpoint => ?_, by simp⟩
    have hmem : '.' ∈ List.replicate n 'a' := by
      rw [String.toList_ofList] at hpoint
      rw [hpoint]
      exact List.mem_singleton_self '.'
    cases List.eq_of_mem_replicate hmem
  exact hname 256 (by decide)

/-- A path to it is refused: the name, not the path, is too long. -/
theorem stat_longName : Disk.empty.stat ⟨.top, [longName]⟩ = .error .nameTooLong := by
  have hplain : ∀ n, (Path.text ⟨.top, [String.ofList (List.replicate n 'a')]⟩).toList.contains
      '\x00' = false := by
    simp [Path.text, Start.text]
  have hpath : checkPath ⟨.top, [longName]⟩ = .ok () :=
    (if_neg (ne_true_of_eq_false (hplain 256))).trans (if_neg (by decide +kernel))
  rw [stat, locate, hpath]
  decide +kernel

/-- A way round from the top to `p`: into it and out of it again, `k` times. -/
def wayRound : (k : Nat) → Location
  | 0 => ["p"]
  | k + 1 => "p" :: ".." :: wayRound k

/-- A disk with a file in a directory of a project. -/
def routesDisk : Disk where
  nodes := [(["p"], .directory), (["p", "routes"], .directory),
    (["p", "routes", "a.js"], .file [] 0)]

/-- The way round leads to it. -/
theorem walkNames_wayRound (jump : Location → Path → List String → Except Failure Found) (k : Nat) :
    routesDisk.walkNames true jump [] (wayRound k) = .ok ⟨["p"], some .directory⟩ := by
  have hp : routesDisk.node? ["p"] = some .directory := by decide +kernel
  have hsize : ¬ "p".utf8ByteSize > maxNameBytes ∧ ¬ "..".utf8ByteSize > maxNameBytes := by
    decide +kernel
  induction k with
  | zero => simp [wayRound, walkNames, hsize.1, hp]
  | succ k ih => simpa [wayRound, walkNames, hsize.1, hsize.2, hp] using ih

/-- The bytes of the way round. -/
theorem utf8ByteSize_wayRound (k : Nat) :
    (String.intercalate "/" (wayRound k)).utf8ByteSize = 5 * k + 1 := by
  have hsize : "p".utf8ByteSize = 1 ∧ "..".utf8ByteSize = 2 ∧ "/".utf8ByteSize = 1 := by
    decide +kernel
  have hcons : ∀ name k, (String.intercalate "/" (name :: wayRound k)).utf8ByteSize =
      name.utf8ByteSize + 1 + (String.intercalate "/" (wayRound k)).utf8ByteSize := by
    intro name k
    cases k <;>
      simp only [wayRound, String.intercalate_cons_cons, String.utf8ByteSize_append, hsize.2.2]
  induction k with
  | zero => exact hsize.1
  | succ k ih =>
    rw [wayRound, String.intercalate_cons_cons, String.utf8ByteSize_append,
      String.utf8ByteSize_append, hcons, ih, hsize.1, hsize.2.1, hsize.2.2]
    omega

/-- None of its names holds a zero character. -/
theorem zero_notMem_wayRound (k : Nat) : ∀ name ∈ wayRound k, '\x00' ∉ name.toList := by
  induction k with
  | zero => decide
  | succ k ih =>
    refine List.forall_mem_cons.mpr ⟨by decide, List.forall_mem_cons.mpr ⟨by decide, ih⟩⟩

/-- The bytes of the path. -/
theorem utf8ByteSize_text_wayRound (k : Nat) :
    (Path.text ⟨.top, wayRound k⟩).utf8ByteSize = 5 * k + 2 := by
  have hslash : "/".utf8ByteSize = 1 := by decide +kernel
  have htext : Path.text ⟨.top, wayRound k⟩ = "/" ++ String.intercalate "/" (wayRound k) := rfl
  rw [htext, String.utf8ByteSize_append, hslash, utf8ByteSize_wayRound]
  omega

/-- A way round that is short enough leads to the project. -/
theorem locate_wayRound {k : Nat} (hk : 5 * k + 2 ≤ maxPathBytes) :
    routesDisk.locate ⟨.top, wayRound k⟩ = .ok ⟨["p"], some .directory⟩ := by
  have hzero : '\x00' ∉ (Path.text ⟨.top, wayRound k⟩).toList := by
    rw [Path.zero_mem_text_iff]
    push Not
    exact zero_notMem_wayRound k
  have hcheck : checkPath ⟨.top, wayRound k⟩ = .ok () := by
    rw [checkPath, if_neg (by simpa using hzero), utf8ByteSize_text_wayRound, if_neg (by omega)]
  rw [locate, hcheck]
  exact walkNames_wayRound _ k

/-- A way round that leaves no room for the name of a directory hides its files. -/
theorem listedBelow_wayRound {k : Nat} (hk : maxPathBytes < 5 * k + 8) :
    routesDisk.listedBelow ⟨.top, wayRound k⟩ ["p"] = [] := by
  have hname : "routes".utf8ByteSize = 6 := by decide +kernel
  have hlong : canName ⟨.top, wayRound k⟩ ["routes"] = false := by
    have hjoin := Path.le_utf8ByteSize_joinText (Path.text ⟨.top, wayRound k⟩) "routes"
    rw [utf8ByteSize_text_wayRound, hname] at hjoin
    exact decide_eq_false (Nat.not_le.mpr (Nat.lt_of_lt_of_le hk hjoin))
  have hclosed : isOpened ⟨.top, wayRound k⟩ ["routes", "a.js"] = false :=
    (isOpened_concat _ ["routes"] "a.js").trans (by rw [hlong]; rfl)
  have hbelow : routesDisk.below ["p"] =
      [(["routes"], .directory), (["routes", "a.js"], .file [] 0)] := by decide +kernel
  rw [listedBelow, hbelow]
  simp [isListed, hclosed]

/-- A root with a long name leads nowhere, and yet its listing is not empty: there is none. A file
that real directories lead to is not listed where the path to its directory is too long, though the
same root lists it by another path. -/
theorem long_roots_list_otherwise :
    (Disk.empty.IsTree ∧ Disk.empty.node? [longName] = none ∧
      Disk.empty.visibleFiles ⟨.top, [longName]⟩ = .error .nameTooLong) ∧
    routesDisk.IsTree ∧ routesDisk.visibleFiles ⟨.top, ["p"]⟩ = .ok ["routes/a.js"] ∧
      routesDisk.locate ⟨.top, wayRound 818⟩ = .ok ⟨["p"], some .directory⟩ ∧
      routesDisk.visibleFiles ⟨.top, wayRound 818⟩ = .ok [] := by
  have hlocate : routesDisk.locate ⟨.top, wayRound 818⟩ = .ok ⟨["p"], some .directory⟩ :=
    locate_wayRound (by decide)
  refine ⟨⟨⟨by decide, by decide, by decide⟩, rfl, ?_⟩, ⟨by decide, by decide, by decide⟩, ?_,
    hlocate, ?_⟩
  · rw [visibleFiles_of_no_directory (by rw [stat_longName]; nofun), stat_longName, if_pos rfl]
  · exact visibleFiles_of_sorted ["p"] (by decide +kernel) (by decide +kernel) (by decide +kernel)
  · exact visibleFiles_of_sorted ["p"] hlocate (listedBelow_wayRound (by decide)) .nil

end Preflight.Disk
