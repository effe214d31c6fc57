import Mathlib.Control.Monad.Basic
import Preflight.Proofs.Store.Query

/-!
# Sessions

A session is a disk that is edited and a store that is asked about it, in any order. Files are
written with bytes and a time, files and links are removed, directories are made; between the edits
the store is asked for texts, routes, the listing, patterns and whole checks.

The law (`session_answers_uncached`): as long as no path has one stamp with two contents within the
session, every text and every route list is what the disk holds at that moment. What a store
remembers of earlier disks is never noticed. The listing is no part of the law: it is made once.
It rests on what events keep of a store because every question does (`afterAll_keeps`).
-/

set_option autoImplicit false

namespace Preflight

/-- A disk and a store that is asked about it. -/
structure Session where
  disk : Disk
  store : Store

namespace Session

/-- What happens in a session. -/
inductive Event
  /-- The bytes are written into the file, which gets the time. -/
  | write (path : Path) (content : List UInt8) (time : Int)
  /-- The file or link is removed. -/
  | remove (path : Path)
  /-- The directories down to the location are made. -/
  | makeDirectories (location : Location)
  | ask (query : Query)

/-- A session with a store that remembers nothing. -/
def start (disk : Disk) (root : Path) : Session := ⟨disk, .fresh root⟩

/-- The session after an event. An edit that fails changes nothing. -/
def after (s : Session) : Event → Session
  | .write path content time =>
    match s.disk.write path content time with
    | .ok disk => { s with disk }
    | .error _ => s
  | .remove path =>
    match s.disk.remove path with
    | .ok disk => { s with disk }
    | .error _ => s
  | .makeDirectories location => { s with disk := s.disk.makeDirectories location }
  | .ask query => { s with store := query.leave s.disk s.store }

/-- The session after events. -/
def afterAll (s : Session) (events : List Event) : Session := events.foldl after s

/-- The disks of a session, from its start on. -/
def disks (s : Session) : List Event → List Disk
  | [] => [s.disk]
  | event :: rest => s.disk :: (s.after event).disks rest

/-- The disk at the start is one of the disks. -/
theorem disk_mem_disks (s : Session) (events : List Event) : s.disk ∈ s.disks events := by
  cases events with
  | nil => exact List.mem_singleton.mpr rfl
  | cons event rest => exact List.mem_cons_self

/-- An edit changes the disk only. -/
theorem after_store (s : Session) (event : Event) :
    (∃ query, event = .ask query ∧ s.after event = { s with store := query.leave s.disk s.store }) ∨
      (s.after event).store = s.store := by
  cases event with
  | write path content time =>
    right
    cases h : s.disk.write path content time <;> simp only [after, h]
  | remove path =>
    right
    cases h : s.disk.remove path <;> simp only [after, h]
  | makeDirectories location => exact .inr rfl
  | ask query => exact .inl ⟨query, rfl, rfl⟩

/-- **The step**: what every question about the disks keeps of a store, an event keeps. -/
theorem after_keeps {P : Store → Prop} {disks : List Disk}
    (hleave : ∀ disk ∈ disks, ∀ store query, P store → P (Query.leave disk store query))
    {s : Session} (hmem : s.disk ∈ disks) (h : P s.store) (event : Event) :
    P (s.after event).store := by
  obtain ⟨query, rfl, hafter⟩ | hafter := after_store s event
  · rw [hafter]
    exact hleave s.disk hmem s.store query h
  · rw [hafter]
    exact h

/-- **The run**: so do all events of the session, and the last disk is one of its disks. -/
theorem afterAll_keeps {P : Store → Prop} {disks : List Disk}
    (hleave : ∀ disk ∈ disks, ∀ store query, P store → P (Query.leave disk store query))
    (events : List Event) : ∀ {s : Session}, s.disks events ⊆ disks → P s.store →
      P (s.afterAll events).store ∧ (s.afterAll events).disk ∈ disks := by
  induction events with
  | nil => exact fun hsub h => ⟨h, hsub (disk_mem_disks _ [])⟩
  | cons event rest ih =>
    intro s hsub h
    have hmem : s.disk ∈ disks := hsub (disk_mem_disks s (event :: rest))
    have hrest : (s.after event).disks rest ⊆ disks :=
      fun d hd => hsub (List.mem_cons_of_mem _ hd)
    exact ih hrest (after_keeps hleave hmem h event)

/-- After any events the store is recorded on the disks of the session. -/
theorem afterAll_recorded {disks : List Disk} (htell : Disk.StampsTell disks)
    (events : List Event) {s : Session} (hsub : s.disks events ⊆ disks)
    (h : s.store.Recorded disks) :
    (s.afterAll events).store.Recorded disks ∧ (s.afterAll events).disk ∈ disks ∧
      (s.afterAll events).store.root = s.store.root := by
  have hleave : ∀ disk ∈ disks, ∀ store query,
      store.Recorded disks ∧ store.root = s.store.root →
        (Query.leave disk store query).Recorded disks ∧
          (Query.leave disk store query).root = s.store.root :=
    fun disk hmem store query ⟨hrecorded, hroot⟩ =>
      ⟨Query.leave_recorded htell hmem hrecorded query,
        (Query.leave_root disk store query).trans hroot⟩
  obtain ⟨⟨hrecorded, hroot⟩, hlast⟩ := afterAll_keeps hleave events hsub ⟨h, rfl⟩
  exact ⟨hrecorded, hlast, hroot⟩

/-- **A store is never noticed**: as long as no path has one stamp with two contents on the disks of
the session, a question for a text is answered with the text that the disk has now, and a question
for routes with the routes of that text; a missing or empty text has none. -/
theorem session_answers_uncached (disk : Disk) (root : Path) (events : List Event)
    (htell : Disk.StampsTell ((start disk root).disks events)) (path : Path) :
    let s := (start disk root).afterAll events
    (s.store.read s.disk path).1 = s.disk.readText? path ∧
      (s.store.routes s.disk path).1 = (s.disk.readText? path).map fun
        | none => []
        | some code => if code.isEmpty then [] else Route.extract code (Store.relativeTo root path) := by
  intro s
  obtain ⟨hrecorded, hmem, hroot⟩ :=
    afterAll_recorded htell events (List.Subset.refl _) (Store.Recorded.fresh _ root)
  refine ⟨Store.read_eq htell hmem hrecorded path, ?_⟩
  rw [Store.routes_eq htell hmem hrecorded path, hroot]
  cases s.disk.readText? path with
  | error failure => rfl
  | ok text => cases text <;> rfl

/-! ## A file that is read, changed, removed and made again -/

/-- A project with one route file. -/
def sampleDisk : Disk :=
  ⟨[(["p"], .directory), (["p", "a.js"], .file (Text.Utf8.encode "app.get('/a', h)") 1)]⟩

/-- The root of the project. -/
def sampleRoot : Path := ⟨.top, ["p"]⟩

/-- The route file. -/
def sampleFile : Path := ⟨.top, ["p", "a.js"]⟩

/-- The file is looked at, changed, looked at, removed, looked at, and made again as it was first. -/
def sampleEvents : List Event :=
  [.ask (.routes sampleFile),
   .write sampleFile (Text.Utf8.encode "app.post('/b', h)") 2,
   .ask (.read sampleFile),
   .remove sampleFile,
   .ask (.routes sampleFile),
   .write sampleFile (Text.Utf8.encode "app.get('/a', h)") 1]

/-- In that session stamps tell, and the file is answered as it was made again. -/
theorem sample_answers_uncached :
    Disk.StampsTell ((start sampleDisk sampleRoot).disks sampleEvents) ∧
      let s := (start sampleDisk sampleRoot).afterAll sampleEvents
      (s.store.read s.disk sampleFile).1 = .ok (some "app.get('/a', h)") ∧
        (s.store.routes s.disk sampleFile).1 = .ok [⟨"GET", "/a", 1, "a.js"⟩] := by
  have htell : Disk.StampsTell ((start sampleDisk sampleRoot).disks sampleEvents) :=
    .of_times (by decide +kernel)
  have htext : ((start sampleDisk sampleRoot).afterAll sampleEvents).disk.readText? sampleFile =
      .ok (some "app.get('/a', h)") := by decide +kernel
  obtain ⟨hread, hroutes⟩ :=
    session_answers_uncached sampleDisk sampleRoot sampleEvents htell sampleFile
  refine ⟨htell, hread.trans htext, ?_⟩
  rw [hroutes, htext]
  decide +kernel

end Session

end Preflight
