import Preflight.Check.Module
import Preflight.Proofs.Store.Recorded

/-!
# Questions to a store

Everything that a project asks of its store: texts, routes, the listing, the files of patterns, and
whole checks. Each is a scan (`leave_eq_run`), so the laws of scans are theirs: a question keeps a
store recorded on the disks that were asked, and faithful to a disk that does not change
(`leaveAll_faithful`). A check may be stopped by a failure half way; no law asks how it ended.
-/

set_option autoImplicit false

namespace Preflight

/-- A question to a store. -/
inductive Query
  | read (path : Path)
  | routes (path : Path)
  | listing
  | find (patterns : List String)
  | check (m : Check.Module) (limits : Limits)

namespace Query

/-- The store that a question leaves. -/
def leave (disk : Disk) (store : Store) : Query → Store
  | .read path => (store.read disk path).2
  | .routes path => (store.routes disk path).2
  | .listing => (store.listing disk).2
  | .find patterns => ((Project.find ⟨disk, store.root, {}⟩ patterns).run disk store).2
  | .check m limits => (m.run ⟨disk, store.root, limits⟩ store).2

/-- The store that questions leave, asked one after the other. -/
def leaveAll (disk : Disk) (store : Store) (queries : List Query) : Store :=
  queries.foldl (leave disk) store

/-- A question to a store is a scan; its answer apart, it leaves the store of that scan. -/
theorem leave_eq_run (disk : Disk) (store : Store) (query : Query) :
    ∃ (α : Type) (scan : Scan α), query.leave disk store = (scan.run disk store).2 := by
  cases query with
  | read path =>
    refine ⟨_, .text path, ?_⟩
    show (store.read disk path).2 = (Scan.afterAnswer _ (store.read disk path)).2
    rcases store.read disk path with ⟨_ | _, after⟩ <;> rfl
  | routes path =>
    refine ⟨_, .routesIn path, ?_⟩
    show (store.routes disk path).2 = (Scan.afterAnswer _ (store.routes disk path)).2
    rcases store.routes disk path with ⟨_ | _, after⟩ <;> rfl
  | listing =>
    refine ⟨_, .files, ?_⟩
    show (store.listing disk).2 = (Scan.afterAnswer _ (store.listing disk)).2
    rcases store.listing disk with ⟨_ | _, after⟩ <;> rfl
  | find patterns => exact ⟨_, Project.find ⟨disk, store.root, {}⟩ patterns, rfl⟩
  | check m limits => exact ⟨_, m.scan ⟨disk, store.root, limits⟩, rfl⟩

/-- A question changes no root. -/
theorem leave_root (disk : Disk) (store : Store) (query : Query) :
    (query.leave disk store).root = store.root := by
  obtain ⟨α, scan, hscan⟩ := leave_eq_run disk store query
  rw [hscan]
  exact Scan.run_root disk scan store

/-- A question keeps a store recorded. -/
theorem leave_recorded {disks : List Disk} {disk : Disk} {store : Store}
    (htell : Disk.StampsTell disks) (hmem : disk ∈ disks) (h : store.Recorded disks)
    (query : Query) : (query.leave disk store).Recorded disks := by
  obtain ⟨α, scan, hscan⟩ := leave_eq_run disk store query
  rw [hscan]
  exact Scan.run_recorded htell hmem scan h

/-- **Questions about an unchanged disk leave a faithful store.** -/
theorem leaveAll_faithful {disk : Disk} {root : Path} (queries : List Query) : ∀ {store : Store},
    store.Faithful disk root → (leaveAll disk store queries).Faithful disk root := by
  induction queries with
  | nil => exact fun h => h
  | cons query rest ih =>
    intro store h
    obtain ⟨α, scan, hscan⟩ := leave_eq_run disk store query
    have hafter : (query.leave disk store).Faithful disk root := by
      rw [hscan]
      exact (Scan.run_faithful scan h).2
    exact ih hafter

end Query

end Preflight
