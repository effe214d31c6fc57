import Mathlib.Data.List.Induction
import Preflight.Proofs.Store.Session

/-!
# Texts and routes of one file

A store keeps the texts and the routes of files apart, each under the stamp that the file had. A
reading refreshes the text alone, so the two may be of different ages. What holds in every session
(`routes_are_of_text_unless_stamp_came_back`): the routes of a file that was just read are those of
the text that was answered, unless the stamp of the file came back. Then they are those of a text
that the file had under the same stamp earlier, before it had another one.

The invariant (`Traced`) goes with the session: what is remembered for a path is traced back to the
moment at which the disk gave it, and a route list is of the text beside it until the path is seen
under another stamp. Nothing is assumed of the times at which files are written.

The exception is real: `restored_file_has_other_routes` restores a time with another text.
-/

set_option autoImplicit false

namespace Preflight

namespace Store

variable {disk : Disk} {path : Path} {store : Store}

/-- A text that is remembered under the stamp that the path has is the answer. -/
theorem read_of_lookup {stamp : Option Stamp} {text : Option String}
    (hstamp : disk.stamp? path = .ok stamp)
    (hlookup : store.texts.lookup path = some (stamp, text)) :
    store.read disk path = (.ok text, store) := by
  simp only [read, hstamp, hlookup, if_pos]

/-- A reading fails as the look at the stamp does. -/
theorem stamp?_of_read_error {failure : Failure} (h : (store.read disk path).1 = .error failure) :
    disk.stamp? path = .error failure := by
  cases hstamp : disk.stamp? path with
  | error stop =>
    simp only [read, hstamp, Except.error.injEq] at h
    rw [h]
  | ok stamp =>
    obtain ⟨_, htext, -⟩ | ⟨_, _, -, -, hread⟩ | ⟨_, _, -, -, hread⟩ := read_cases disk path store
    · rw [Disk.readText?_eq hstamp] at htext
      cases htext
    · rw [hread] at h
      cases h
    · rw [hread] at h
      cases h

/-- A text that was answered is remembered under the stamp that the path has. -/
theorem read_remembers {text : Option String} (h : (store.read disk path).1 = .ok text) :
    ∃ stamp, disk.stamp? path = .ok stamp ∧
      (store.read disk path).2.texts.lookup path = some (stamp, text) := by
  obtain ⟨failure, -, hread⟩ | ⟨stamp, known, hstamp, hlookup, hread⟩ |
    ⟨stamp, fresh, hstamp, -, hread⟩ := read_cases disk path store
  all_goals rw [hread] at h ⊢
  · cases h
  · cases h
    exact ⟨stamp, hstamp, hlookup⟩
  · cases h
    exact ⟨stamp, hstamp, lookup_remember_self _ _ _⟩

end Store

namespace Session

open Store (routesOf)

variable (first : Disk) (root path : Path)

/-- The disk after events of a session that starts with a store that remembers nothing. -/
def diskAfter (events : List Event) : Disk := ((start first root).afterAll events).disk

/-- After the events the path had the stamp and the text. -/
def Had (events : List Event) (stamp : Option Stamp) (text : Option String) : Prop :=
  (diskAfter first root events).stamp? path = .ok stamp ∧
    (diskAfter first root events).readText? path = .ok text

/-- At a moment of the events the path had the stamp and the text, and later it had another
stamp. -/
def HasLeft (events : List Event) (stamp : Option Stamp) (text : Option String) : Prop :=
  ∃ before later, before ++ later <+: events ∧ Had first root path before stamp text ∧
    (diskAfter first root (before ++ later)).stamp? path ≠ .ok stamp

/-- The routes are those of a text that the path had under the stamp that it has after the events,
before it had another one in between. -/
def CameBack (events : List Event) (found : List Route) : Prop :=
  ∃ stamp text, HasLeft first root path events stamp text ∧
    (diskAfter first root events).stamp? path = .ok stamp ∧ found = routesOf root path text

/-- **What a store remembers of a path is traced back**: its text to a moment at which the path had
it, its routes to the text beside them or to one that the path has left. -/
structure Traced (events : List Event) (store : Store) : Prop where
  root_eq : store.root = root
  text : ∀ stamp text, store.texts.lookup path = some (stamp, text) →
    ∃ before, before <+: events ∧ Had first root path before stamp text
  routes : ∀ stamp found, store.routeLists.lookup path = some (stamp, found) →
    ∃ text, found = routesOf root path text ∧
      (store.texts.lookup path = some (stamp, text) ∨ HasLeft first root path events stamp text)

variable {first root path}

namespace Traced

variable {events : List Event} {store : Store}

theorem start : Traced first root path [] (.fresh root) where
  root_eq := rfl
  text := nofun
  routes := nofun

/-- More events change nothing of what was. -/
theorem later (h : Traced first root path events store) (more : List Event) :
    Traced first root path (events ++ more) store where
  root_eq := h.root_eq
  text stamp text hlookup := by
    obtain ⟨before, hbefore, hhad⟩ := h.text stamp text hlookup
    exact ⟨before, hbefore.trans (List.prefix_append _ _), hhad⟩
  routes stamp found hlookup := by
    obtain ⟨text, hfound, hbeside | ⟨before, between, hwhen, hhad, hleft⟩⟩ :=
      h.routes stamp found hlookup
    · exact ⟨text, hfound, .inl hbeside⟩
    · exact ⟨text, hfound, .inr
        ⟨before, between, hwhen.trans (List.prefix_append _ _), hhad, hleft⟩⟩

/-! ## One question -/

/-- A text that is read anew stands beside the routes of the text before it, which the path has
left. -/
theorem refresh (h : Traced first root path events store) {stamp : Option Stamp}
    {text : Option String} (hhad : Had first root path events stamp text)
    (hnew : ∀ known, store.texts.lookup path ≠ some (stamp, known)) :
    Traced first root path events
      { store with texts := Store.remember path (stamp, text) store.texts } where
  root_eq := h.root_eq
  text stamp' text' hlookup := by
    rw [Store.lookup_remember_self] at hlookup
    cases hlookup
    exact ⟨events, List.prefix_refl _, hhad⟩
  routes stamp' found hlookup := by
    obtain ⟨text', hfound, hbeside | hleft⟩ := h.routes stamp' found hlookup
    · refine ⟨text', hfound, .inr ?_⟩
      obtain ⟨before, ⟨later, hlater⟩, hhad'⟩ := h.text stamp' text' hbeside
      refine ⟨before, later, hlater ▸ List.prefix_refl _, hhad', ?_⟩
      rw [hlater, hhad.1]
      rintro ⟨⟩
      exact hnew text' hbeside
    · exact ⟨text', hfound, .inr hleft⟩

/-- What is remembered of other paths is of no account. -/
theorem other (h : Traced first root path events store)
    {texts : List (Path × Option Stamp × Option String)}
    {routeLists : List (Path × Option Stamp × List Route)} {listing? : Option (List String)}
    {n : Nat}
    (htexts : texts.lookup path = store.texts.lookup path)
    (hroutes : routeLists.lookup path = store.routeLists.lookup path) :
    Traced first root path events ⟨store.root, listing?, texts, routeLists, n⟩ where
  root_eq := h.root_eq
  text stamp text hlookup := h.text stamp text (htexts ▸ hlookup)
  routes stamp found hlookup := by
    rw [htexts]
    exact h.routes stamp found (hroutes ▸ hlookup)

theorem read (h : Traced first root path events store) (asked : Path) :
    Traced first root path events (store.read (diskAfter first root events) asked).2 := by
  obtain ⟨_, -, hread⟩ | ⟨_, _, -, -, hread⟩ | ⟨stamp, text, hstamp, htext, hread⟩ :=
    Store.read_cases (diskAfter first root events) asked store
  · rw [hread]
    exact h
  · rw [hread]
    exact h
  · by_cases hasked : path = asked
    · subst hasked
      by_cases hknown : ∃ known, store.texts.lookup path = some (stamp, known)
      · obtain ⟨known, hknown⟩ := hknown
        rw [Store.read_of_lookup hstamp hknown]
        exact h
      · rw [hread]
        exact h.refresh ⟨hstamp, htext⟩ fun known heq => hknown ⟨known, heq⟩
    · rw [hread]
      exact h.other (Store.lookup_remember_of_ne _ _ hasked) rfl

theorem routesAsked (h : Traced first root path events store) (asked : Path) :
    Traced first root path events (store.routes (diskAfter first root events) asked).2 := by
  have hread := h.read asked
  obtain ⟨texts, hkeeps⟩ := Store.read_keeps (diskAfter first root events) asked store
  obtain ⟨_, -, hroutes⟩ | ⟨_, _, -, -, hroutes⟩ | ⟨stamp, text, hstamp, -, htext, hroutes⟩ :=
    Store.routes_cases (diskAfter first root events) asked store
  · rw [hroutes]
    exact hread
  · rw [hroutes]
    exact h
  · rw [hroutes]
    by_cases hasked : path = asked
    · subst hasked
      refine ⟨hread.root_eq, hread.text, fun stamp' found hlookup => ?_⟩
      rw [Store.lookup_remember_self] at hlookup
      cases hlookup
      obtain ⟨stamp', hstamp', hbeside⟩ := Store.read_remembers htext
      cases hstamp.symm.trans hstamp'
      exact ⟨text, by rw [h.root_eq], .inl hbeside⟩
    · refine hread.other rfl ?_
      rw [hkeeps]
      exact Store.lookup_remember_of_ne _ _ hasked

theorem listing (h : Traced first root path events store) :
    Traced first root path events (store.listing (diskAfter first root events)).2 := by
  obtain ⟨files, hkeeps⟩ := Store.listing_keeps (diskAfter first root events) store
  rw [hkeeps]
  exact h.other rfl rfl

/-- **The step**: a question is traced to the disk that is there when it is asked. -/
theorem ask (h : Traced first root path events store) (query : Query) :
    Traced first root path events (query.leave (diskAfter first root events) store) := by
  obtain ⟨α, scan, hscan⟩ := Query.leave_eq_run (diskAfter first root events) store query
  rw [hscan]
  exact Scan.run_keeps (fun asked _ h => h.read asked) (fun asked _ h => h.routesAsked asked)
    (fun _ h => h.listing) scan store h

end Traced

/-! ## Sessions -/

/-- **The run**: after any events, what the store remembers of a path is traced back to them. -/
theorem traced_afterAll (first : Disk) (root path : Path) (events : List Event) :
    Traced first root path events ((start first root).afterAll events).store := by
  induction events using List.reverseRecOn with
  | nil => exact .start
  | append_singleton events event ih =>
    have hstep : (start first root).afterAll (events ++ [event]) =
        ((start first root).afterAll events).after event := by
      rw [afterAll, afterAll, List.foldl_append]
      rfl
    rw [hstep]
    obtain ⟨query, rfl, hafter⟩ | hafter := after_store ((start first root).afterAll events) event
    · rw [hafter]
      exact (ih.ask query).later _
    · rw [hafter]
      exact ih.later _

/-- **The routes of a file that was just read are those of its text, unless its stamp came back.**
Whatever happened in a session before, and whatever times its files were given: after a path is
read, a question for its routes fails if the reading did, and is answered otherwise. The answer are
the routes of the text that was read, by the name that a report has for the path; or the path has a
stamp that it had before and had left, and the answer are the routes of the text that it had then.
-/
theorem routes_are_of_text_unless_stamp_came_back (first : Disk) (root path : Path)
    (events : List Event) :
    let s := (start first root).afterAll events
    let read := s.store.read s.disk path
    (∃ failure, read.1 = .error failure ∧ (read.2.routes s.disk path).1 = .error failure) ∨
      ∃ text found, read.1 = .ok text ∧ (read.2.routes s.disk path).1 = .ok found ∧
        (found = routesOf root path text ∨ CameBack first root path events found) := by
  intro s read
  have htraced : Traced first root path events read.2 :=
    (traced_afterAll first root path events).read path
  cases hread : read.1 with
  | error failure =>
    have hstamp : s.disk.stamp? path = .error failure := Store.stamp?_of_read_error hread
    exact .inl ⟨failure, rfl, by rw [Store.routes, hstamp]⟩
  | ok text =>
    obtain ⟨stamp, hstamp, hlookup⟩ := Store.read_remembers hread
    have hagain : read.2.read s.disk path = (.ok text, read.2) :=
      Store.read_of_lookup hstamp hlookup
    refine .inr ⟨text, ?_⟩
    obtain ⟨failure, hfails, -⟩ | ⟨known, found, hknown, hfound, hroutes⟩ |
      ⟨_, fresh, _, -, hfresh, hroutes⟩ := Store.routes_cases s.disk path read.2
    · rw [hagain] at hfails
      cases hfails
    · -- remembered under the stamp of now: beside the text that was read, or left and come back to
      cases hstamp.symm.trans hknown
      obtain ⟨earlier, rfl, hbeside | hleft⟩ := htraced.routes stamp found hfound
      · cases hlookup.symm.trans hbeside
        exact ⟨_, rfl, by rw [hroutes], .inl rfl⟩
      · exact ⟨_, rfl, by rw [hroutes], .inr ⟨stamp, earlier, hleft, hstamp, rfl⟩⟩
    · rw [hagain] at hfresh
      cases hfresh
      exact ⟨_, rfl, by rw [hroutes], .inl (by rw [htraced.root_eq])⟩

/-- A file is looked through for routes, changed and read, and then restored to its first time with
another text: the routes are still those of the first text, and the new route is not among them. -/
theorem restored_file_has_other_routes :
    let events : List Event :=
      [.ask (.routes sampleFile), .write sampleFile (Text.Utf8.encode "x") 2,
       .ask (.read sampleFile), .write sampleFile (Text.Utf8.encode "app.get('/admin', h)") 1]
    let s := (start sampleDisk sampleRoot).afterAll events
    let read := s.store.read s.disk sampleFile
    read.1 = .ok (some "app.get('/admin', h)") ∧
      (read.2.routes s.disk sampleFile).1 = .ok [⟨"GET", "/a", 1, "a.js"⟩] ∧
      routesOf sampleRoot sampleFile (some "app.get('/admin', h)") =
        [⟨"GET", "/admin", 1, "a.js"⟩] := by
  decide +kernel

end Session

end Preflight
