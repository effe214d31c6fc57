import Preflight.Proofs.Pairs
import Preflight.Proofs.Report.Consistency
import Preflight.Service.Handler

/-!
# Fetched projects are cleared away

A project that is fetched for a request does not outlive it: however the use of the project ends,
and whatever it does to the disk, nothing stands in the scratch directory after it
(`Remote.IsCleared`), and everything else is as the use left it. So it is where nothing could be
fetched.

One way out is not covered. A project without a tip is there when its tip is looked for, and when
that fails nobody clears it away (`Remote.LeavesBehind`). `fetched_projects_are_cleared` says that
there is no other way, `project_without_tip_stays` that there is this one.
-/

set_option autoImplicit false

namespace Preflight

/-- What stands at a location or below it is gone, and the rest is as it was. -/
theorem Disk.node?_eraseBelow (disk : Disk) {location : Location} (hne : location ≠ [])
    (other : Location) : (disk.eraseBelow location).node? other =
      if location <+: other then none else disk.node? other := by
  by_cases htop : other = []
  · subst htop
    rw [if_neg (by simpa using hne)]
    rfl
  · have hnode : ∀ d : Disk, d.node? other = d.nodes.lookup other := fun d =>
      if_neg (by simpa using htop)
    rw [hnode, hnode]
    refine (Pairs.lookup_filter_key (fun l => !location.isPrefixOf l) disk.nodes other).trans ?_
    simp only [Bool.not_eq_true', ← Bool.not_eq_true, List.isPrefixOf_iff_prefix, ite_not]

namespace Service

namespace Remote

variable {r : Remote}

/-- Nothing stands where projects are fetched to. -/
def IsCleared (r : Remote) (disk : Disk) : Prop := ∀ names, disk.node? (r.scratch ++ names) = none

/-- What fetching into a scratch directory comes to. -/
def fetched (r : Remote) (order : FetchOrder) (disk : Disk) : FetchResult × Disk :=
  r.fetch order (disk.makeDirectories r.scratch)

/-- A project is fetched that has no tip: it stays behind. -/
def LeavesBehind (r : Remote) (order : FetchOrder) (disk : Disk) : Prop :=
  ∃ failure left, r.fetched order disk = (.noTip failure, left) ∧ ¬ r.IsCleared left

/-- The disk that the use of a project leaves; without a tip there is no use. -/
def leftBy {α : Type} (use : Disk → Except Failure α × Disk) : FetchResult × Disk → Disk
  | (.tip _, disk) => (use disk).2
  | (_, disk) => disk

/-- Clearing away clears, if projects are fetched to a place below the top. -/
theorem isCleared_clear (hscratch : r.scratch ≠ []) (disk : Disk) : r.IsCleared (r.clear disk) := by
  intro names
  rw [clear, disk.node?_eraseBelow hscratch, if_pos (List.prefix_append _ _)]

/-- It clears nothing else. -/
theorem node?_clear (hscratch : r.scratch ≠ []) (disk : Disk) {location : Location}
    (houtside : ¬ r.scratch <+: location) :
    (r.clear disk).node? location = disk.node? location := by
  rw [clear, disk.node?_eraseBelow hscratch, if_neg houtside]

/-- What has a tip, or is not fetched, is not left behind. -/
theorem not_leavesBehind {order : FetchOrder} {disk left : Disk} {result : FetchResult}
    (hfetched : r.fetched order disk = (result, left)) (htip : ∀ failure, result ≠ .noTip failure) :
    ¬ r.LeavesBehind order disk := by
  rintro ⟨failure, left', hnoTip, -⟩
  rw [hfetched] at hnoTip
  exact htip failure (congrArg Prod.fst hnoTip)

/-- What has no tip is left behind, if it is there. -/
theorem leavesBehind_iff {order : FetchOrder} {disk left : Disk} {failure : Failure}
    (hfetched : r.fetched order disk = (.noTip failure, left)) :
    r.LeavesBehind order disk ↔ ¬ r.IsCleared left := by
  constructor
  · rintro ⟨failure', left', hnoTip, hstays⟩
    rw [hfetched] at hnoTip
    cases hnoTip
    exact hstays
  · exact fun hstays => ⟨failure, left, hfetched, hstays⟩

/-- **A fetch that fails** leaves nothing, unless the project has no tip. -/
theorem isCleared_of_clone_error (hscratch : r.scratch ≠ []) {order : FetchOrder} {disk left : Disk}
    {failure : Failure} (hclone : r.clone order disk = (.error failure, left)) :
    r.IsCleared left ↔ ¬ r.LeavesBehind order disk := by
  unfold clone at hclone
  split at hclone
  · rename_i hfetched
    cases hclone
    exact iff_of_true (isCleared_clear hscratch _) (not_leavesBehind hfetched nofun)
  · rename_i hfetched
    cases hclone
    rw [leavesBehind_iff hfetched, not_not]
  · cases hclone

/-- **The use of a fetched project** leaves nothing of it, unless the project has no tip. -/
theorem isCleared_withClone {α : Type} (hscratch : r.scratch ≠ []) (order : FetchOrder)
    (disk : Disk) (use : Disk → Except Failure α × Disk) :
    r.IsCleared (r.withClone order disk use).2 ↔ ¬ r.LeavesBehind order disk := by
  unfold withClone
  split
  · rename_i hclone
    exact isCleared_of_clone_error hscratch hclone
  · rename_i hclone
    unfold clone at hclone
    split at hclone
    · cases hclone
    · cases hclone
    · rename_i hfetched
      exact iff_of_true (isCleared_clear hscratch _) (not_leavesBehind hfetched nofun)

/-- Elsewhere the disk is as the use left it. -/
theorem node?_withClone {α : Type} (hscratch : r.scratch ≠ []) (order : FetchOrder) (disk : Disk)
    (use : Disk → Except Failure α × Disk) {location : Location}
    (houtside : ¬ r.scratch <+: location) : (r.withClone order disk use).2.node? location =
      (leftBy use (r.fetched order disk)).node? location := by
  unfold withClone clone fetched
  obtain ⟨result, left⟩ := r.fetch order (disk.makeDirectories r.scratch)
  cases result with
  | failed failure => exact node?_clear hscratch left houtside
  | noTip failure => rfl
  | tip commit => exact node?_clear hscratch (use left).2 houtside

end Remote

/-- A request for a fetched project leaves the disk that the use for its report leaves. -/
theorem disk_handle_address (host : Host) (r : Remote) (url : String) (branch : Option String)
    (skip : List String) : (handle host r ⟨.address url branch, skip⟩).disk =
      (r.withClone (.of url branch) host.disk fun disk =>
        (reportOn { host with disk } r.path skip, disk)).2 := rfl

/-- **A fetched project is cleared away** when its fetch fails, when its use ends, and when the
request for it is handled, whatever was fetched and however it is used. It stays only if it is
fetched and its tip is not found. -/
theorem fetched_projects_are_cleared {r : Remote} (hscratch : r.scratch ≠ []) :
    (∀ order disk failure left, r.clone order disk = (.error failure, left) →
      (r.IsCleared left ↔ ¬ r.LeavesBehind order disk)) ∧
    (∀ (α : Type) order disk (use : Disk → Except Failure α × Disk),
      (r.IsCleared (r.withClone order disk use).2 ↔ ¬ r.LeavesBehind order disk) ∧
      ∀ location, ¬ r.scratch <+: location → (r.withClone order disk use).2.node? location =
        (Remote.leftBy use (r.fetched order disk)).node? location) ∧
    ∀ host url branch skip, r.IsCleared (handle host r ⟨.address url branch, skip⟩).disk ↔
      ¬ r.LeavesBehind (.of url branch) host.disk := by
  refine ⟨fun order disk failure left => Remote.isCleared_of_clone_error hscratch, ?_, ?_⟩
  · intro α order disk use
    exact ⟨Remote.isCleared_withClone hscratch order disk use,
      fun location => Remote.node?_withClone hscratch order disk use⟩
  · intro host url branch skip
    rw [disk_handle_address]
    exact Remote.isCleared_withClone hscratch (.of url branch) host.disk _

/-- A remote whose projects hold nothing but what is kept about their history. -/
def bareRemote (result : FetchResult) : Remote where
  scratch := ["tmp", "fetched"]
  fetch _ disk := (result, disk.set ["tmp", "fetched", ".git"] .directory)

/-- The scratch directory is gone after a failed fetch and after a failed use, which leaves a file
there and one elsewhere. -/
theorem failed_use_is_cleared :
    let order : FetchOrder := .of "git@host:project.git" none
    let r := bareRemote (.tip "8d2f0c1")
    let unreachable := bareRemote (.failed (.fetchFailed "unreachable"))
    let use (disk : Disk) : Except Failure Unit × Disk :=
      (.error .tooDeep,
        (disk.set ["tmp", "fetched", "a.js"] (.file [] 0)).set ["b.js"] (.file [] 0))
    unreachable.IsCleared (unreachable.clone order .empty).2 ∧
      (r.withClone order .empty use).1 = .error .tooDeep ∧
      r.IsCleared (r.withClone order .empty use).2 ∧
      (r.withClone order .empty use).2.node? ["b.js"] = some (.file [] 0) ∧
      r.IsCleared (handle emptyHost r ⟨.address order.url none, []⟩).disk := by
  intro order r unreachable use
  have hfetched : ∀ disk, ¬ r.LeavesBehind order disk := fun disk =>
    Remote.not_leavesBehind rfl nofun
  have hunreachable : ¬ unreachable.LeavesBehind order .empty := Remote.not_leavesBehind rfl nofun
  obtain ⟨-, hused, hhandled⟩ := fetched_projects_are_cleared (r := r) (by decide)
  obtain ⟨hcleared, helsewhere⟩ := hused Unit order .empty use
  exact ⟨((fetched_projects_are_cleared (by decide)).1 _ _ _ _ rfl).mpr hunreachable, rfl,
    hcleared.mpr (hfetched _), (helsewhere ["b.js"] (by decide)).trans (by decide +kernel),
    (hhandled _ _ _ _).mpr (hfetched _)⟩

/-- A project that has no commit yet stays after its fetch, and after the reply to the request. -/
theorem project_without_tip_stays :
    let failure : Failure := .fetchFailed "Reference at 'refs/heads/master' does not exist"
    let order : FetchOrder := .of "git@host:project.git" none
    let r := bareRemote (.noTip failure)
    let handled := handle emptyHost r ⟨.address order.url none, []⟩
    (r.clone order emptyHost.disk).1 = .error failure ∧
      ¬ r.IsCleared (r.clone order emptyHost.disk).2 ∧
      handled.reply = .ok (.validationFailed failure) ∧ ¬ r.IsCleared handled.disk := by
  intro failure order r handled
  have hstays : ∀ disk : Disk, disk.node? r.scratch = some .directory → ¬ r.IsCleared disk := by
    intro disk hnode hcleared
    have hnone := hcleared []
    rw [List.append_nil, hnode] at hnone
    cases hnone
  exact ⟨rfl, hstays _ (by decide +kernel), rfl, hstays _ (by decide +kernel)⟩

end Service

end Preflight
