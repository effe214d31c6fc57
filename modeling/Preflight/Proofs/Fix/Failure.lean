import Preflight.Proofs.Fix.Frame

/-!
# What a failure leaves

Applying is not all or nothing. A failure stops it at an action whose file has no place, the actions
before it were applied, and the file that one of them created stays (`created_readme_stays`).

It is one file at most, and nothing else has changed (`failure_leaves_one_file`): there are two
templates, and the file of one of them has no place. Where the failing action is the first one that
creates a file, or those before it were skipped, the disk is what it was. Nothing is taken back, and
nothing is left half done: the action that fails has not touched the disk.
-/

set_option autoImplicit false

namespace Preflight

/-- There are two templates. -/
theorem Template.eq_of_ne {t u v : Template} (hu : u ≠ t) (hv : v ≠ t) : u = v := by
  revert hu hv
  cases t <;> cases u <;> cases v <;> decide

namespace Action

variable {disk disk' : Disk} {root : Path} {before actions : List Action} {action : Action}
  {t : Template} {failure : Failure}

/-! ## Where applying stops -/

/-- A failure comes from an action that could not be applied after those before it. -/
theorem applyEach_stops (actions : List Action) : ∀ {disk : Disk},
    applyEach disk root actions = (.error failure, disk') →
      ∃ before action after, actions = before ++ action :: after ∧
        (∃ outcomes, applyEach disk root before = (.ok outcomes, disk')) ∧
        action.apply disk' root = .error failure := by
  induction actions with
  | nil =>
    intro disk h
    cases h
  | cons action rest ih =>
    intro disk h
    unfold applyEach at h
    split at h
    · rename_i stop happly
      cases h
      exact ⟨[], action, rest, rfl, ⟨[], rfl⟩, happly⟩
    · rename_i outcome next happly
      cases hrest : applyEach next root rest with
      | mk answer last =>
      rw [hrest] at h
      cases answer with
      | ok outcomes => cases h
      | error stop =>
        cases h
        obtain ⟨before, failing, after, rfl, ⟨outcomes, hbefore⟩, hfailing⟩ := ih hrest
        refine ⟨action :: before, failing, after, rfl, ⟨outcome :: outcomes, ?_⟩, hfailing⟩
        rw [applyEach, happly]
        dsimp only
        rw [hbefore]
        rfl

/-- The action that failed creates a file, whose path led to no place from the start. -/
theorem exists_stuck {outcomes : List FixOutcome}
    (hbefore : applyEach disk root before = (.ok outcomes, disk'))
    (hfails : action.apply disk' root = .error failure) :
    ∃ t, action.remedy = .create t ∧ ∃ stop, disk.locate (root / t.file) = .error stop := by
  have hstart : HasChanged disk root [] disk :=
    ⟨hasFilled_nil disk root, fun location => by simp [Fills]⟩
  have hfilled := (hstart.applyEach before hbefore).filled
  have hnot : ¬ ∃ result, action.apply disk' root = .ok result := by simp [hfails]
  rw [apply_isOk_iff] at hnot
  simp only [not_forall, hfilled.locate_isOk_iff] at hnot
  obtain ⟨t, hremedy, hnone⟩ := hnot
  exact ⟨t, hremedy, exists_error_iff.mpr hnone⟩

/-! ## What was created before -/

/-- The disk is the same, or one of the actions has created its file on it. -/
def LeavesOne (disk : Disk) (root : Path) (actions : List Action) (disk' : Disk) : Prop :=
  disk' = disk ∨ ∃ action ∈ actions, ∃ u location,
    action.remedy = .create u ∧ u.Created disk disk' root location

/-- **The step**: where the file of one template has no place, a second file is not created, since
it would be that of the same template. -/
theorem LeavesOne.created {u : Template} {next : Disk} {location : Location}
    (hstuck : ∃ stop, disk.locate (root / t.file) = .error stop)
    (h : LeavesOne disk root actions disk') (hcreated : u.Created disk' next root location)
    (hmem : ∃ action ∈ actions, action.remedy = .create u) : LeavesOne disk root actions next := by
  obtain ⟨stop, hstuck⟩ := hstuck
  rcases h with rfl | ⟨other, -, v, place, -, hfirst⟩
  · obtain ⟨action, haction, hremedy⟩ := hmem
    exact .inr ⟨action, haction, u, location, hremedy, hcreated⟩
  · have hv : v ≠ t := by
      rintro rfl
      rw [hfirst.located] at hstuck
      cases hstuck
    have hu : u ≠ t := by
      rintro rfl
      -- a path that led to no place leads to none after the first creation
      have hgrown := hfirst.gains.locate_grown (root / u.file) true
      rw [hstuck, hcreated.located] at hgrown
      cases hgrown
    obtain rfl : u = v := Template.eq_of_ne hu hv
    have hthere := hfirst.pathExists_eq
    rw [hcreated.missing] at hthere
    cases hthere

/-- **The run**: where the file of one template has no place, actions leave one file at most. -/
theorem applyEach_leavesOne (hstuck : ∃ stop, disk.locate (root / t.file) = .error stop)
    (actions : List Action) : LeavesOne disk root actions (applyEach disk root actions).2 :=
  applyEach_keeps_of_mem root actions (P := LeavesOne disk root actions)
    (fun hmem hcreated h => h.created hstuck hcreated hmem) (.inl rfl)

/-! ## The law -/

/-- **A failure leaves one file at most.** If applying the actions for some findings fails, it is at
an action that creates a file, and the path of the file led to no place from the start. The disk is
what it was before, and the files of the actions before that one were all there; or one of these
actions has created its file where nothing was, and nothing else has changed. -/
theorem failure_leaves_one_file {findings : List Finding}
    (h : applyAll disk root (ofFindings findings) = (.error failure, disk')) :
    ∃ before action after t, ofFindings findings = before ++ action :: after ∧
      action.remedy = .create t ∧ (∃ stop, disk.locate (root / t.file) = .error stop) ∧
      ((disk' = disk ∧ ∀ other ∈ before, ∀ u, other.remedy = .create u →
          disk.pathExists (root / u.file) = .ok true) ∨
        ∃ other ∈ before, ∃ u location, other.remedy = .create u ∧
          u.Created disk disk' root location) := by
  have hstopped : applyEach disk root (ofFindings findings) = (.error failure, disk') := by
    unfold applyAll at h
    generalize applyEach disk root (ofFindings findings) = result at h
    obtain ⟨_ | outcomes, last⟩ := result <;> cases h
    rfl
  obtain ⟨before, action, after, hsplit, ⟨outcomes, hbefore⟩, hfails⟩ := applyEach_stops _ hstopped
  obtain ⟨t, hremedy, hstuck⟩ := exists_stuck hbefore hfails
  refine ⟨before, action, after, t, hsplit, hremedy, hstuck, ?_⟩
  have hleaves := applyEach_leavesOne hstuck before
  rw [hbefore] at hleaves
  refine hleaves.imp_left fun hsame => ⟨hsame, fun other hother u hu => ?_⟩
  have hthere := pathExists_of_applyEach before hbefore ⟨other, hother, hu⟩
  rwa [hsame] at hthere

/-- A project whose example is a link into a directory that is missing. -/
def brokenExample : Disk := ⟨[(["p"], .directory), (["p", ".env.example"], .link "gone/example")]⟩

/-- The project with a README. -/
def createdReadme : Disk :=
  brokenExample.set ["p", "README.md"] (.file (Text.Utf8.encode Template.readme.content) 0)

theorem gains_createdReadme : brokenExample.Gains createdReadme ["p", "README.md"]
    (Text.Utf8.encode Template.readme.content) 0 :=
  Disk.gains_set _ 0 (by decide +kernel)

theorem createdReadme_ne : createdReadme ≠ brokenExample := by
  intro heq
  have hnode := gains_createdReadme.node?_self
  rw [heq, gains_createdReadme.absent] at hnode
  cases hnode

/-- For a missing README and a missing example, in this order, the README is created, and the
example fails. -/
theorem applyAll_brokenExample : applyAll brokenExample ⟨.top, ["p"]⟩
    (ofFindings [.issue .readmeMissing, .issue .envExampleMissing]) =
      (.error .notFound, createdReadme) := by
  have hactions : ofFindings [.issue .readmeMissing, .issue .envExampleMissing] =
      [⟨.readmeMissing, .create .readme⟩, ⟨.envExampleMissing, .create .envExample⟩] := by
    decide +kernel
  have hplace : brokenExample.locate ((⟨.top, ["p"]⟩ : Path) / Template.readme.file) =
      .ok ⟨["p", "README.md"], none⟩ := by
    decide +kernel
  have hreadme : (⟨.readmeMissing, .create .readme⟩ : Action).apply brokenExample ⟨.top, ["p"]⟩ =
      .ok (⟨⟨.readmeMissing, .create .readme⟩, .created,
        some ((⟨.top, ["p"]⟩ : Path) / Template.readme.file)⟩, createdReadme) := by
    unfold apply
    dsimp only
    rw [Disk.pathExists, Disk.leadsTo, Disk.stat, Disk.writeText, Disk.write, hplace]
    rfl
  have hexample : (⟨.envExampleMissing, .create .envExample⟩ : Action).apply createdReadme
      ⟨.top, ["p"]⟩ = .error .notFound := by
    decide +kernel
  rw [hactions, applyAll, applyEach, hreadme]
  dsimp only
  rw [applyEach, hexample]
  rfl

/-- There the README that was created is all that has changed. -/
theorem readme_is_all_that_stays :
    applyAll brokenExample ⟨.top, ["p"]⟩
        (ofFindings [.issue .readmeMissing, .issue .envExampleMissing]) =
      (.error .notFound, createdReadme) ∧
    ∃ location, Template.readme.Created brokenExample createdReadme ⟨.top, ["p"]⟩ location := by
  refine ⟨applyAll_brokenExample, ?_⟩
  obtain ⟨_, _, _, _, -, -, -, hleft⟩ := failure_leaves_one_file applyAll_brokenExample
  obtain ⟨hsame, -⟩ | ⟨_, -, u, location, -, hcreated⟩ := hleft
  · exact absurd hsame createdReadme_ne
  · cases u with
    | readme => exact ⟨location, hcreated⟩
    | envExample =>
      have hstuck : brokenExample.locate ((⟨.top, ["p"]⟩ : Path) / Template.envExample.file) =
          .error .notFound := by
        decide +kernel
      have hlocated := hcreated.located
      rw [hstuck] at hlocated
      cases hlocated

/-- **Applying is not all or nothing**: the README stays though applying has failed. -/
theorem created_readme_stays : ∃ disk',
    applyAll brokenExample ⟨.top, ["p"]⟩
        (ofFindings [.issue .readmeMissing, .issue .envExampleMissing]) =
      (.error .notFound, disk') ∧
    disk' ≠ brokenExample ∧ brokenExample.node? ["p", "README.md"] = none ∧
    disk'.node? ["p", "README.md"] =
      some (.file (Text.Utf8.encode Template.readme.content) 0) :=
  ⟨createdReadme, applyAll_brokenExample, createdReadme_ne, gains_createdReadme.absent,
    gains_createdReadme.node?_self⟩

end Action

end Preflight
