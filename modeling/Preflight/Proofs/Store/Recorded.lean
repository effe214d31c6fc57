import Preflight.Proofs.Scan.Answers

/-!
# What a store remembers

A store is **recorded** on some disks when each text and each route list that it remembers is what
one of those disks gave under the stamp it is remembered with. Asking a store keeps it recorded
(`read_recorded`, `routes_recorded`, `run_recorded`), provided that stamps tell: on the disks that
were asked, no path has one stamp with two contents. A recorded store then answers as the disk
itself does (`read_eq`, `routes_eq`).

The listing is made once and never again, so it is no part of the invariant. On a disk that does
not change it is (`Faithful`), and every scan has the answer that the disk gives (`run_faithful`).
-/

set_option autoImplicit false

namespace Preflight

/-- Two nodes are told apart by their times: they are no files of one time with different bytes. -/
def Node.IsTold : Node → Node → Prop
  | .file content time, .file content' time' => time = time' → content = content'
  | _, _ => True

instance : DecidableRel Node.IsTold
  | .file content time, .file content' time' =>
    inferInstanceAs (Decidable (time = time' → content = content'))
  | .file _ _, .directory | .file _ _, .link _ | .directory, _ | .link _, _ => .isTrue trivial

/-- On these disks a stamp tells the content: no path has the same stamp with two different
contents. A path that leads nowhere has no stamp and no content. -/
def Disk.StampsTell (disks : List Disk) : Prop :=
  ∀ before ∈ disks, ∀ after ∈ disks, ∀ path,
    before.stamp? path = after.stamp? path → before.bytes? path = after.bytes? path

namespace Disk.StampsTell

/-- A single disk has one content for each path. -/
theorem single (disk : Disk) : StampsTell [disk] := by
  intro before hbefore after hafter path _
  rw [List.mem_singleton.mp hbefore, List.mem_singleton.mp hafter]

/-- **A clock that gives no time to two contents is enough**: if files with the same time have the
same bytes, wherever they stand on whichever of the disks, then stamps tell. -/
theorem of_times {disks : List Disk}
    (h : ∀ before ∈ disks, ∀ after ∈ disks, ∀ p ∈ before.nodes, ∀ q ∈ after.nodes,
      p.2.IsTold q.2) : StampsTell disks := by
  intro before hbefore after hafter path hstamp
  by_cases hfile : ∃ time, before.stamp? path = .ok (some (.file time))
  · obtain ⟨time, hb⟩ := hfile
    obtain ⟨content, hcontent⟩ := stat_of_stamp hb
    obtain ⟨content', hcontent'⟩ := stat_of_stamp (hstamp ▸ hb)
    obtain ⟨l, hl⟩ := stat_mem hcontent
    obtain ⟨l', hl'⟩ := stat_mem hcontent'
    have hsame : content = content' := h before hbefore after hafter _ hl _ hl' rfl
    rw [bytes?, bytes?, hcontent, hcontent', hsame]
  · have hnone : ∀ time, before.stamp? path ≠ .ok (some (.file time)) :=
      fun time ht => hfile ⟨time, ht⟩
    rw [bytes?_eq_none hnone, bytes?_eq_none (fun time => hstamp ▸ hnone time)]

/-- Two disks with the same stamp for a path have the same text for it. -/
theorem readText?_eq {disks : List Disk} (htell : StampsTell disks) {before after : Disk}
    (hbefore : before ∈ disks) (hafter : after ∈ disks) {path : Path} {stamp : Option Stamp}
    (hb : before.stamp? path = .ok stamp) (ha : after.stamp? path = .ok stamp) :
    before.readText? path = after.readText? path := by
  rw [Disk.readText?_eq hb, Disk.readText?_eq ha,
    htell before hbefore after hafter path (hb.trans ha.symm)]

end Disk.StampsTell

namespace Store

/-! ## Remembering -/

/-- What is remembered for a path is found under it. -/
theorem lookup_remember_self {α : Type} (path : Path) (value : α) (known : List (Path × α)) :
    (remember path value known).lookup path = some value := by
  simp [remember]

/-- What is remembered for one path changes nothing for another. -/
theorem lookup_remember_of_ne {α : Type} {path other : Path} (value : α) (known : List (Path × α))
    (hne : other ≠ path) : (remember path value known).lookup other = known.lookup other := by
  have hhead : (other == path) = false := by simpa using hne
  rw [remember, List.lookup_cons, hhead]
  induction known with
  | nil => rfl
  | cons entry rest ih =>
    obtain ⟨p, found⟩ := entry
    by_cases hp : p = path
    · subst hp
      rw [List.filter_cons_of_neg (by simp), List.lookup_cons, hhead]
      exact ih
    · rw [List.filter_cons_of_pos (by simpa using hp), List.lookup_cons]
      cases hother : other == p with
      | true => simp [List.lookup_cons, hother]
      | false => simpa [List.lookup_cons, hother] using ih

/-- **A store is recorded on some disks**: what it remembers is what one of them gave. -/
structure Recorded (disks : List Disk) (store : Store) : Prop where
  texts : ∀ path stamp text, store.texts.lookup path = some (stamp, text) →
    ∃ disk ∈ disks, disk.stamp? path = .ok stamp ∧ disk.readText? path = .ok text
  routeLists : ∀ path stamp found, store.routeLists.lookup path = some (stamp, found) →
    ∃ disk ∈ disks, disk.stamp? path = .ok stamp ∧
      (disk.readText? path).map (routesOf store.root path) = .ok found

/-- A store that remembers nothing is recorded on all disks. -/
theorem Recorded.fresh (disks : List Disk) (root : Path) : Recorded disks (fresh root) where
  texts := by
    intro path stamp text h
    cases h
  routeLists := by
    intro path stamp found h
    cases h

section Asking

variable {disks : List Disk} {disk : Disk} {store : Store}

/-! ## Texts -/

/-- **What reading does**: it fails as the disk does, it answers from the texts, or it reads the
disk and remembers the text under the stamp that the path has there. -/
theorem read_cases (disk : Disk) (path : Path) (store : Store) :
    (∃ failure, disk.readText? path = .error failure ∧
      store.read disk path = (.error failure, store)) ∨
    (∃ stamp text, disk.stamp? path = .ok stamp ∧
      store.texts.lookup path = some (stamp, text) ∧ store.read disk path = (.ok text, store)) ∨
    ∃ stamp text, disk.stamp? path = .ok stamp ∧ disk.readText? path = .ok text ∧
      store.read disk path =
        (.ok text, { store with texts := remember path (stamp, text) store.texts }) := by
  cases hstamp : disk.stamp? path with
  | error failure => exact .inl ⟨failure, Disk.readText?_error hstamp, by simp only [read, hstamp]⟩
  | ok stamp =>
    have hrefresh : ∃ text, disk.readText? path = .ok text ∧
        read.refresh disk path store stamp =
          (.ok text, { store with texts := remember path (stamp, text) store.texts }) := by
      refine ⟨_, Disk.readText?_eq hstamp, ?_⟩
      rw [read.refresh, readFresh_eq hstamp, Disk.readText?_eq hstamp]
    cases hfound : store.texts.lookup path with
    | none =>
      obtain ⟨text, htext, hread⟩ := hrefresh
      exact .inr (.inr ⟨stamp, text, rfl, htext, by simp only [read, hstamp, hfound, hread]⟩)
    | some entry =>
      obtain ⟨known, text⟩ := entry
      by_cases hknown : known = stamp
      · subst hknown
        exact .inr (.inl ⟨known, text, rfl, rfl, by simp only [read, hstamp, hfound, if_pos]⟩)
      · obtain ⟨text', htext, hread⟩ := hrefresh
        refine .inr (.inr ⟨stamp, text', rfl, htext, ?_⟩)
        simp only [read, hstamp, hfound, if_neg hknown, hread]

/-- **A recorded store reads what the disk has**, remembered or not. -/
theorem read_eq (htell : Disk.StampsTell disks) (hmem : disk ∈ disks) (h : Recorded disks store)
    (path : Path) : (store.read disk path).1 = disk.readText? path := by
  obtain ⟨failure, htext, hread⟩ | ⟨stamp, text, hstamp, hfound, hread⟩ |
    ⟨stamp, text, -, htext, hread⟩ := read_cases disk path store
  · rw [hread, htext]
  · obtain ⟨before, hbefore, hstamp', htext⟩ := h.texts path stamp text hfound
    rw [hread, ← htell.readText?_eq hbefore hmem hstamp' hstamp, htext]
  · rw [hread, htext]

/-- Reading changes nothing but the texts. -/
theorem read_keeps (disk : Disk) (path : Path) (store : Store) :
    ∃ texts, (store.read disk path).2 = { store with texts } := by
  obtain ⟨_, -, hread⟩ | ⟨_, _, -, -, hread⟩ | ⟨_, _, -, -, hread⟩ := read_cases disk path store
  all_goals rw [hread]
  · exact ⟨store.texts, rfl⟩
  · exact ⟨store.texts, rfl⟩
  · exact ⟨_, rfl⟩

/-- Reading keeps a store recorded. -/
theorem read_recorded (hmem : disk ∈ disks) (h : Recorded disks store) (path : Path) :
    Recorded disks (store.read disk path).2 := by
  obtain ⟨_, -, hread⟩ | ⟨_, _, -, -, hread⟩ | ⟨stamp, text, hstamp, htext, hread⟩ :=
    read_cases disk path store
  all_goals rw [hread]
  · exact h
  · exact h
  · refine ⟨fun other stamp' text' hfound => ?_, h.routeLists⟩
    by_cases hother : other = path
    · subst hother
      rw [lookup_remember_self] at hfound
      cases hfound
      exact ⟨disk, hmem, hstamp, htext⟩
    · rw [lookup_remember_of_ne _ _ hother] at hfound
      exact h.texts other stamp' text' hfound

/-! ## Routes -/

/-- Routes that are remembered under the stamp that the path has are the answer. -/
theorem routes_of_lookup {path : Path} {stamp : Option Stamp} {found : List Route}
    (hstamp : disk.stamp? path = .ok stamp)
    (hlookup : store.routeLists.lookup path = some (stamp, found)) :
    store.routes disk path = (.ok found, store) := by
  simp only [routes, hstamp, hlookup, if_pos]

/-- Otherwise the text is read, and its routes are remembered under that stamp. -/
theorem routes_of_unknown {path : Path} {stamp : Option Stamp}
    (hstamp : disk.stamp? path = .ok stamp)
    (hunknown : ∀ found, store.routeLists.lookup path ≠ some (stamp, found)) :
    (∃ failure, (store.read disk path).1 = .error failure ∧
      store.routes disk path = (.error failure, (store.read disk path).2)) ∨
    ∃ text, (store.read disk path).1 = .ok text ∧
      store.routes disk path = (.ok (routesOf store.root path text),
        { (store.read disk path).2 with
          routeLists := remember path (stamp, routesOf store.root path text) store.routeLists
          extractions := store.extractions + if needsExtraction text then 1 else 0 }) := by
  have hroutes : store.routes disk path = routes.refresh disk path store stamp := by
    cases hfound : store.routeLists.lookup path with
    | none => simp only [routes, hstamp, hfound]
    | some entry =>
      obtain ⟨known, found⟩ := entry
      have hknown : known ≠ stamp := by
        rintro rfl
        exact hunknown found hfound
      simp only [routes, hstamp, hfound, if_neg hknown]
  obtain ⟨texts, hkeeps⟩ := read_keeps disk path store
  rw [hroutes]
  unfold routes.refresh
  generalize store.read disk path = answer at hkeeps
  obtain ⟨_ | text, _⟩ := answer
  · exact .inl ⟨_, rfl, rfl⟩
  · cases hkeeps
    exact .inr ⟨text, rfl, rfl⟩

/-- **What asking for routes does**: it fails as reading does, it answers from the route lists, or
it reads the text and remembers its routes under the stamp that the path has. -/
theorem routes_cases (disk : Disk) (path : Path) (store : Store) :
    (∃ failure, (store.read disk path).1 = .error failure ∧
      store.routes disk path = (.error failure, (store.read disk path).2)) ∨
    (∃ stamp found, disk.stamp? path = .ok stamp ∧
      store.routeLists.lookup path = some (stamp, found) ∧
        store.routes disk path = (.ok found, store)) ∨
    ∃ stamp text, disk.stamp? path = .ok stamp ∧
      (∀ found, store.routeLists.lookup path ≠ some (stamp, found)) ∧
      (store.read disk path).1 = .ok text ∧
      store.routes disk path = (.ok (routesOf store.root path text),
        { (store.read disk path).2 with
          routeLists := remember path (stamp, routesOf store.root path text) store.routeLists
          extractions := store.extractions + if needsExtraction text then 1 else 0 }) := by
  cases hstamp : disk.stamp? path with
  | error failure =>
    exact .inl ⟨failure, by simp only [read, hstamp], by simp only [routes, read, hstamp]⟩
  | ok stamp =>
    by_cases hknown : ∃ found, store.routeLists.lookup path = some (stamp, found)
    · obtain ⟨found, hfound⟩ := hknown
      exact .inr (.inl ⟨stamp, found, rfl, hfound, routes_of_lookup hstamp hfound⟩)
    · have hunknown : ∀ found, store.routeLists.lookup path ≠ some (stamp, found) :=
        not_exists.mp hknown
      obtain hfails | ⟨text, hanswers⟩ := routes_of_unknown hstamp hunknown
      · exact .inl hfails
      · exact .inr (.inr ⟨stamp, text, rfl, hunknown, hanswers⟩)

/-- **A recorded store finds the routes of the text that the disk has**, remembered or not. -/
theorem routes_eq (htell : Disk.StampsTell disks) (hmem : disk ∈ disks) (h : Recorded disks store)
    (path : Path) :
    (store.routes disk path).1 = (disk.readText? path).map (routesOf store.root path) := by
  have hread := read_eq htell hmem h path
  obtain ⟨failure, htext, hroutes⟩ | ⟨stamp, found, hstamp, hfound, hroutes⟩ |
    ⟨stamp, text, -, -, htext, hroutes⟩ := routes_cases disk path store
  · rw [hroutes, ← hread, htext]
    rfl
  · obtain ⟨before, hbefore, hstamp', hknown⟩ := h.routeLists path stamp found hfound
    rw [hroutes, ← htell.readText?_eq hbefore hmem hstamp' hstamp, hknown]
  · rw [hroutes, ← hread, htext]
    rfl

/-- Asking for routes changes neither the root nor the listing. -/
theorem routes_keeps (disk : Disk) (path : Path) (store : Store) :
    (store.routes disk path).2.root = store.root ∧
      (store.routes disk path).2.listing? = store.listing? := by
  obtain ⟨texts, hkeeps⟩ := read_keeps disk path store
  obtain ⟨_, -, hroutes⟩ | ⟨_, _, -, -, hroutes⟩ | ⟨_, _, _, -, -, hroutes⟩ :=
    routes_cases disk path store
  all_goals rw [hroutes]
  · rw [hkeeps]
    exact ⟨rfl, rfl⟩
  · exact ⟨rfl, rfl⟩
  · rw [hkeeps]
    exact ⟨rfl, rfl⟩

/-- Asking for routes keeps a store recorded. -/
theorem routes_recorded (htell : Disk.StampsTell disks) (hmem : disk ∈ disks)
    (h : Recorded disks store) (path : Path) : Recorded disks (store.routes disk path).2 := by
  have hread := read_eq htell hmem h path
  have hrecorded := read_recorded hmem h path
  obtain ⟨texts, hkeeps⟩ := read_keeps disk path store
  obtain ⟨_, -, hroutes⟩ | ⟨_, _, -, -, hroutes⟩ | ⟨stamp, text, hstamp, -, htext, hroutes⟩ :=
    routes_cases disk path store
  all_goals rw [hroutes]
  · exact hrecorded
  · exact h
  · refine ⟨hrecorded.texts, fun other stamp' found hfound => ?_⟩
    rw [hkeeps]
    by_cases hother : other = path
    · subst hother
      rw [lookup_remember_self] at hfound
      cases hfound
      exact ⟨disk, hmem, hstamp, by rw [← hread, htext]; rfl⟩
    · rw [lookup_remember_of_ne _ _ hother] at hfound
      exact h.routeLists other stamp' found hfound

/-! ## The listing -/

/-- The listing that a store remembers, if it does, is that of the disk. -/
def Listed (disk : Disk) (store : Store) : Prop :=
  ∀ files, store.listing? = some files → disk.visibleFiles store.root = .ok files

/-- Asking for the listing changes nothing else. -/
theorem listing_keeps (disk : Disk) (store : Store) :
    ∃ files, (store.listing disk).2 = { store with listing? := files } := by
  unfold listing
  split
  · exact ⟨store.listing?, rfl⟩
  · split
    · exact ⟨store.listing?, rfl⟩
    · exact ⟨_, rfl⟩

/-- On an unchanged disk the listing that a store gives is that of the disk, and it stays so. -/
theorem listing_eq (h : Listed disk store) :
    (store.listing disk).1 = disk.visibleFiles store.root ∧
      Listed disk (store.listing disk).2 := by
  unfold listing
  cases hlisting : store.listing? with
  | some files => exact ⟨(h files hlisting).symm, h⟩
  | none =>
    cases hfiles : disk.visibleFiles store.root with
    | error failure => exact ⟨rfl, h⟩
    | ok files =>
      refine ⟨rfl, ?_⟩
      intro found hfound
      cases hfound
      exact hfiles

/-- Asking for the listing keeps a store recorded. -/
theorem listing_recorded (h : Recorded disks store) :
    Recorded disks (store.listing disk).2 := by
  obtain ⟨files, hkeeps⟩ := listing_keeps disk store
  rw [hkeeps]
  exact ⟨h.texts, h.routeLists⟩

end Asking

/-! ## Faithful stores -/

/-- **A store is faithful to a disk** that does not change: it is about the root, and what it
remembers, the listing included, is what the disk gives. -/
structure Faithful (disk : Disk) (root : Path) (store : Store) : Prop where
  root_eq : store.root = root
  recorded : store.Recorded [disk]
  listed : store.Listed disk

namespace Faithful

variable {disk : Disk} {root : Path} {store : Store}

/-- A store that remembers nothing is faithful. -/
theorem fresh (disk : Disk) (root : Path) : Faithful disk root (Store.fresh root) where
  root_eq := rfl
  recorded := .fresh [disk] root
  listed := by
    intro files h
    cases h

/-- A faithful store reads what the disk has, and stays faithful. -/
theorem read (h : Faithful disk root store) (path : Path) :
    (store.read disk path).1 = disk.readText? path ∧
      Faithful disk root (store.read disk path).2 := by
  have hmem : disk ∈ [disk] := List.mem_singleton.mpr rfl
  have hrecorded := read_recorded hmem h.recorded path
  obtain ⟨texts, hkeeps⟩ := read_keeps disk path store
  refine ⟨read_eq (.single disk) hmem h.recorded path, ?_, hrecorded, ?_⟩
  · rw [hkeeps]
    exact h.root_eq
  · rw [hkeeps]
    exact h.listed

/-- A faithful store finds the routes of the text that the disk has, and stays faithful. -/
theorem routes (h : Faithful disk root store) (path : Path) :
    (store.routes disk path).1 = (disk.readText? path).map (routesOf root path) ∧
      Faithful disk root (store.routes disk path).2 := by
  have hmem : disk ∈ [disk] := List.mem_singleton.mpr rfl
  have hroutes := routes_eq (.single disk) hmem h.recorded path
  obtain ⟨hroot, hlisting⟩ := routes_keeps disk path store
  refine ⟨h.root_eq ▸ hroutes, hroot.trans h.root_eq,
    routes_recorded (.single disk) hmem h.recorded path, fun files hfiles => ?_⟩
  rw [hroot]
  exact h.listed files (hlisting ▸ hfiles)

/-- A faithful store lists the files of the disk, and stays faithful. -/
theorem listing (h : Faithful disk root store) :
    (store.listing disk).1 = disk.visibleFiles root ∧
      Faithful disk root (store.listing disk).2 := by
  obtain ⟨hfiles, hlisted⟩ := listing_eq h.listed
  obtain ⟨files, hkeeps⟩ := listing_keeps disk store
  refine ⟨h.root_eq ▸ hfiles, ?_, listing_recorded h.recorded, hlisted⟩
  rw [hkeeps]
  exact h.root_eq

end Faithful

end Store

namespace Scan

variable {α β : Type} {disks : List Disk} {disk : Disk}

/-! ## Scans -/

/-- What an answer of the store keeps and what follows on it keeps, both keep. -/
theorem afterAnswer_keeps {P : Store → Prop} {next : β → Store → Except Failure α × Store}
    {answer : Except Failure β × Store} (hanswer : P answer.2)
    (hnext : ∀ b store, P store → P (next b store).2) : P (afterAnswer next answer).2 := by
  obtain ⟨_ | b, store⟩ := answer
  · exact hanswer
  · exact hnext b store hanswer

/-- What follows on a known answer is followed as a step follows on a step. -/
theorem afterAnswer_eq {P : Store → Prop} {next : β → Store → Except Failure α × Store}
    {answer : Except Failure β × Store} {known : Except Failure β} {f : β → Except Failure α}
    (hanswer : answer.1 = known ∧ P answer.2)
    (hnext : ∀ b store, P store → (next b store).1 = f b) :
    (afterAnswer next answer).1 = known >>= f := by
  obtain ⟨_ | b, store⟩ := answer
  all_goals obtain ⟨rfl, hstore⟩ := hanswer
  · rfl
  · exact hnext b store hstore

/-- **What every question keeps, a scan keeps**, also when a failure stops it. -/
theorem run_keeps {P : Store → Prop}
    (hread : ∀ path store, P store → P (store.read disk path).2)
    (hroutes : ∀ path store, P store → P (store.routes disk path).2)
    (hlisting : ∀ store, P store → P (store.listing disk).2) (scan : Scan α) :
    ∀ store, P store → P (scan.run disk store).2 := by
  induction scan with
  | done a => exact fun _ h => h
  | stop failure => exact fun _ h => h
  | read path next ih => exact fun store h => afterAnswer_keeps (hread path store h) ih
  | routes path next ih => exact fun store h => afterAnswer_keeps (hroutes path store h) ih
  | listing next ih => exact fun store h => afterAnswer_keeps (hlisting store h) ih

/-- A scan changes no root, whatever it asks. -/
theorem run_root (disk : Disk) (scan : Scan α) (store : Store) :
    (scan.run disk store).2.root = store.root := by
  refine run_keeps (P := fun after => after.root = store.root) ?_ ?_ ?_ scan store rfl
  · intro path after h
    obtain ⟨texts, hkeeps⟩ := Store.read_keeps disk path after
    rwa [hkeeps]
  · intro path after h
    exact (Store.routes_keeps disk path after).1.trans h
  · intro after h
    obtain ⟨files, hkeeps⟩ := Store.listing_keeps disk after
    rwa [hkeeps]

/-- A scan keeps a store recorded, whatever it asks. -/
theorem run_recorded (htell : Disk.StampsTell disks) (hmem : disk ∈ disks) (scan : Scan α)
    {store : Store} (h : store.Recorded disks) : (scan.run disk store).2.Recorded disks :=
  run_keeps (P := Store.Recorded disks) (fun path _ h => Store.read_recorded hmem h path)
    (fun path _ h => Store.routes_recorded htell hmem h path)
    (fun _ h => Store.listing_recorded h) scan store h

/-- **A faithful store answers a scan as the disk does, and stays faithful.** -/
theorem run_faithful {root : Path} (scan : Scan α) {store : Store}
    (h : store.Faithful disk root) :
    (scan.run disk store).1 = scan.eval disk root ∧ (scan.run disk store).2.Faithful disk root := by
  have hkeeps : (scan.run disk store).2.Faithful disk root :=
    run_keeps (fun path _ h => (h.read path).2) (fun path _ h => (h.routes path).2)
      (fun _ h => h.listing.2) scan store h
  refine ⟨?_, hkeeps⟩
  clear hkeeps
  induction scan generalizing store with
  | done a => rfl
  | stop failure => rfl
  | read path next ih =>
    rw [eval_read]
    exact afterAnswer_eq (h.read path) fun text _ hafter => ih text hafter
  | routes path next ih =>
    rw [eval_routes]
    have hnext := afterAnswer_eq (h.routes path) fun found _ hafter => ih found hafter
    refine hnext.trans ?_
    cases disk.readText? path <;> rfl
  | listing next ih =>
    rw [eval_listing]
    exact afterAnswer_eq h.listing fun files _ hafter => ih files hafter

end Scan

end Preflight
