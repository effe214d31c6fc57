import Preflight.Proofs.Fix.Preview

/-!
# What applying leaves alone

Applying actions adds files to a disk and changes nothing that stands there, also where a failure
stops it; applied again, the actions find their files and leave the disk as it is
(`applying_overwrites_nothing`).

A file is created where its path leads, and a failure comes only from a path that leads to no place
(`applyEach_isOk_iff`). So where all actions are applied, the disk differs exactly at the places that
they fill (`disk_changes_where_filled`). The place is that of the file's own name in the root, unless
a link that leads nowhere has that name: then it is wherever the link leads, also out of the project
(`link_leads_out`).
-/

set_option autoImplicit false

namespace Preflight.Action

variable {start disk disk' : Disk} {root : Path} {before actions : List Action} {action : Action}

/-! ## Where failures come from -/

/-- A path leads to a place later exactly if it does at the start. -/
theorem HasFilled.locate_isOk_iff (h : HasFilled start root before disk) (path : Path) :
    (∃ found, disk.locate path = .ok found) ↔ ∃ found, start.locate path = .ok found := by
  have hpath := h path
  generalize disk.locate path = now at hpath
  generalize start.locate path = first at hpath
  cases hpath with
  | same result hfree => exact Iff.rfl
  | found node hfilled => simp
  | blocked => simp

/-- An action can be applied exactly if the path of its file leads to a place. -/
theorem apply_isOk_iff : (∃ result, action.apply disk root = .ok result) ↔
    ∀ t, action.remedy = .create t → ∃ found, disk.locate (root / t.file) = .ok found := by
  constructor
  · rintro ⟨⟨outcome, disk'⟩, h⟩ t hremedy
    obtain ⟨-, hthere⟩ | ⟨u, location, hother, hcreated⟩ := apply_cases h
    · obtain ⟨place, node, hlocated⟩ := Disk.pathExists_iff.mp (hthere t hremedy)
      exact ⟨_, hlocated⟩
    · obtain rfl : t = u := Remedy.create.inj (hremedy.symm.trans hother)
      exact ⟨_, hcreated.located⟩
  · intro h
    unfold apply
    cases hremedy : action.remedy with
    | suggest text => exact ⟨_, rfl⟩
    | create t =>
      obtain ⟨⟨place, node?⟩, hlocated⟩ := h t hremedy
      dsimp only
      rw [Disk.pathExists, Disk.leadsTo, Disk.stat, Disk.writeText, Disk.write, hlocated]
      cases node? with
      | none => exact ⟨_, rfl⟩
      | some node => exact ⟨_, rfl⟩

/-- **Actions can be applied exactly if the paths of their files lead to places.** -/
theorem applyEach_isOk_iff (actions : List Action) : ∀ {before : List Action} {disk : Disk},
    HasFilled start root before disk →
      ((∃ outcomes, (applyEach disk root actions).1 = .ok outcomes) ↔
        ∀ action ∈ actions, ∀ t, action.remedy = .create t →
          ∃ found, start.locate (root / t.file) = .ok found) := by
  induction actions with
  | nil =>
    intro before disk _
    exact iff_of_true ⟨[], rfl⟩ (List.forall_mem_nil _)
  | cons action rest ih =>
    intro before disk hfilled
    -- A path leads to a place after the actions before exactly if it did at the start.
    have hfirst : (∃ result, action.apply disk root = .ok result) ↔ ∀ t,
        action.remedy = .create t → ∃ found, start.locate (root / t.file) = .ok found := by
      simp only [apply_isOk_iff, hfilled.locate_isOk_iff]
    rw [List.forall_mem_cons, ← hfirst, applyEach]
    cases happly : action.apply disk root with
    | error failure => simp
    | ok result =>
      obtain ⟨outcome, next⟩ := result
      rw [← ih (apply_settles hfilled happly).2]
      dsimp only
      cases (applyEach next root rest).1 <;> simp [Except.map]

theorem applyAll_isOk_iff : (∃ response, (applyAll disk root actions).1 = .ok response) ↔
    ∀ action ∈ actions, ∀ t, action.remedy = .create t →
      ∃ found, disk.locate (root / t.file) = .ok found := by
  rw [← applyEach_isOk_iff actions (hasFilled_nil disk root)]
  show (∃ response, (applyEach disk root actions).1.map _ = .ok response) ↔ _
  cases (applyEach disk root actions).1 <;> simp [Except.map]

/-- Applying fails exactly if the file of an action has no place. -/
theorem applyAll_error_iff : (∃ failure, (applyAll disk root actions).1 = .error failure) ↔
    ∃ action ∈ actions, ∃ t, action.remedy = .create t ∧
      ∃ failure, disk.locate (root / t.file) = .error failure := by
  rw [exists_error_iff, applyAll_isOk_iff]
  simp only [exists_error_iff, not_forall, exists_prop]

/-- Actions are applied if the paths of all templates lead to places. -/
theorem applyAll_isOk (actions : List Action)
    (h : ∀ t : Template, ∃ found, disk.locate (root / t.file) = .ok found) :
    ∃ response disk', applyAll disk root actions = (.ok response, disk') := by
  obtain ⟨response, hresponse⟩ := applyAll_isOk_iff.mpr fun action _ t _ => h t
  exact ⟨response, _, Prod.ext hresponse rfl⟩

/-! ## Nothing is overwritten -/

/-- What stood on the disk stays, and what is new are files of the actions. -/
structure Adds (actions : List Action) (disk disk' : Disk) : Prop where
  kept : ∀ location node, disk.node? location = some node → disk'.node? location = some node
  added : ∀ location node, disk.node? location = none → disk'.node? location = some node →
    ∃ action ∈ actions, ∃ t, action.remedy = .create t ∧
      node = .file (Text.Utf8.encode t.content) 0

theorem Adds.created {t : Template} {location : Location} (h : Adds actions start disk)
    (hmem : ∃ action ∈ actions, action.remedy = .create t)
    (hcreated : t.Created disk disk' root location) : Adds actions start disk' where
  kept other node hnode := by
    have hnow := h.kept other node hnode
    rwa [hcreated.gains.node?_of_ne]
    rintro rfl
    rw [hcreated.gains.absent] at hnow
    cases hnow
  added other node hnone hnode := by
    by_cases heq : other = location
    · subst heq
      rw [hcreated.gains.node?_self] at hnode
      obtain ⟨action, haction, hremedy⟩ := hmem
      exact ⟨action, haction, t, hremedy, (Option.some.inj hnode).symm⟩
    · rw [hcreated.gains.node?_of_ne heq] at hnode
      exact h.added other node hnone hnode

/-- Applying actions only adds their files, also if a failure stops it. -/
theorem applyEach_adds (disk : Disk) (root : Path) (actions : List Action) :
    Adds actions disk (applyEach disk root actions).2 := by
  apply applyEach_keeps_of_mem root actions (P := Adds actions disk)
  · intro t disk disk' location hmem hcreated h
    exact h.created hmem hcreated
  · refine ⟨fun _ _ h => h, fun location node hnone hnode => ?_⟩
    rw [hnone] at hnode
    cases hnode

/-! ## Applying again -/

/-- What becomes of an action if its file is there already. -/
def pass (root : Path) (action : Action) : FixOutcome :=
  match action.remedy with
  | .create t => ⟨action, .skipped, some (root / t.file)⟩
  | .suggest _ => ⟨action, .suggestion, none⟩

theorem pass_action (root : Path) (action : Action) : (pass root action).action = action := by
  unfold pass
  split <;> rfl

/-- Actions whose files are there already leave the disk as it is. -/
theorem applyEach_of_there (actions : List Action)
    (h : ∀ action ∈ actions, ∀ t, action.remedy = .create t →
      disk.pathExists (root / t.file) = .ok true) :
    applyEach disk root actions = (.ok (actions.map (pass root)), disk) := by
  induction actions with
  | nil => rfl
  | cons action rest ih =>
    obtain ⟨hfirst, hrest⟩ := List.forall_mem_cons.mp h
    have happly : action.apply disk root = .ok (pass root action, disk) := by
      unfold apply pass
      cases hremedy : action.remedy with
      | suggest text => rfl
      | create t =>
        dsimp only
        rw [hfirst t hremedy]
        rfl
    rw [applyEach, happly]
    dsimp only
    rw [ih hrest]
    rfl

/-- **Applying overwrites nothing, and applying again does nothing.** Whatever stands on a disk stands
there unchanged after actions were applied, also if a failure stopped them, and a file that is new
has the text of one of them. If no failure stopped them, they can be applied again: then no file is
created, those of all actions are skipped, and the disk stays as it is. -/
theorem applying_overwrites_nothing (disk : Disk) (root : Path) (actions : List Action) :
    let (answer, disk') := applyAll disk root actions
    (∀ location node, disk.node? location = some node → disk'.node? location = some node) ∧
      (∀ location node, disk.node? location = none → disk'.node? location = some node →
        ∃ action ∈ actions, ∃ t, action.remedy = .create t ∧
          node = .file (Text.Utf8.encode t.content) 0) ∧
      ∀ response, answer = .ok response → ∃ again, applyAll disk' root actions = (.ok again, disk') ∧
        again.outcomes.map (·.action) = actions ∧
        (∀ outcome ∈ again.outcomes, outcome.status ≠ .created) ∧
        ∀ outcome ∈ again.outcomes, ∀ t, outcome.action.remedy = .create t →
          outcome.status = .skipped := by
  have hadds := applyEach_adds disk root actions
  refine ⟨hadds.kept, hadds.added, fun response hanswer => ?_⟩
  obtain ⟨outcomes, houtcomes, -⟩ := map_eq_ok.mp hanswer
  have happlied : applyEach disk root actions = (.ok outcomes, (applyEach disk root actions).2) :=
    Prod.ext houtcomes rfl
  have hagain := applyEach_of_there actions fun action hmem t hremedy =>
    pathExists_of_applyEach actions happlied ⟨action, hmem, hremedy⟩
  refine ⟨⟨false, actions.map (pass root)⟩, ?_, ?_, ?_, ?_⟩
  · show applyAll (applyEach disk root actions).2 root actions = _
    rw [applyAll, hagain]
    rfl
  · show (actions.map (pass root)).map (·.action) = actions
    rw [List.map_map]
    exact List.map_id'' (fun action => pass_action root action) actions
  · refine List.forall_mem_map.mpr fun action _ => ?_
    unfold pass
    split <;> exact fun heq => nomatch heq
  · refine List.forall_mem_map.mpr fun action _ t hremedy => ?_
    rw [pass_action] at hremedy
    unfold pass
    rw [hremedy]

/-- A project whose README is a link out of it, to where nothing stands. -/
def outgoingReadme : Disk := ⟨[(["p"], .directory), (["p", "README.md"], .link "../out.md")]⟩

theorem locate_outgoingReadme (t : Template) :
    ∃ found, outgoingReadme.locate ((⟨.top, ["p"]⟩ : Path) / t.file) = .ok found := by
  cases t with
  | envExample => exact ⟨⟨["p", ".env.example"], none⟩, by decide +kernel⟩
  | readme => exact ⟨⟨["out.md"], none⟩, by decide +kernel⟩

/-- The link stays when the README is created, and is a reason to create none again. -/
theorem outgoing_link_stays :
    let actions := ofFindings [.issue .readmeMissing, .warning .rateLimitMissing]
    ∃ response disk' again,
      applyAll outgoingReadme ⟨.top, ["p"]⟩ actions = (.ok response, disk') ∧
        disk'.node? ["p", "README.md"] = some (.link "../out.md") ∧
        applyAll disk' ⟨.top, ["p"]⟩ actions = (.ok again, disk') ∧
        ∀ outcome ∈ again.outcomes, outcome.status ≠ .created := by
  intro actions
  obtain ⟨response, disk', happly⟩ := applyAll_isOk actions locate_outgoingReadme
  have hlaw := applying_overwrites_nothing outgoingReadme ⟨.top, ["p"]⟩ actions
  rw [happly] at hlaw
  obtain ⟨hkept, -, hagain⟩ := hlaw
  obtain ⟨again, hsecond, -, hnone, -⟩ := hagain response rfl
  exact ⟨response, disk', again, happly, hkept _ _ (by decide +kernel), hsecond, hnone⟩

/-! ## Where a disk changes -/

/-- Nothing stands at a place that is filled. -/
theorem Fills.node? {location : Location} (h : Fills disk root actions location) :
    disk.node? location = none := by
  obtain ⟨action, -, t, -, hlocated⟩ := h
  have hnode : none = disk.node? location := Disk.locate_node? hlocated
  exact hnode.symm

/-- Applying actions up to here has changed the places that they fill. -/
structure HasChanged (start : Disk) (root : Path) (before : List Action) (disk : Disk) : Prop where
  filled : HasFilled start root before disk
  changed : ∀ location, disk.node? location ≠ start.node? location ↔ Fills start root before location

/-- The step: an action that is applied fills its place. -/
theorem HasChanged.apply {outcome : FixOutcome} (h : HasChanged start root before disk)
    (happly : action.apply disk root = .ok (outcome, disk')) :
    HasChanged start root (before ++ [action]) disk' := by
  refine ⟨(apply_settles h.filled happly).2, fun location => ?_⟩
  obtain ⟨rfl, hthere⟩ | ⟨t, place, hremedy, hcreated⟩ := apply_cases happly
  · rw [h.changed, h.filled.fills_skipped_iff hthere]
  · have hfills := h.filled.fills_created_iff hcreated hremedy location
    by_cases heq : location = place
    · have hnew : Fills start root (before ++ [action]) location := hfills.mpr (.inr heq)
      rw [heq, hcreated.gains.node?_self, ← heq, hnew.node?]
      simp [hnew]
    · rw [hcreated.gains.node?_of_ne heq, h.changed, hfills, or_iff_left heq]

/-- The run: actions that are all applied fill their places. -/
theorem HasChanged.applyEach (actions : List Action) : ∀ {before : List Action} {disk disk' : Disk}
    {outcomes : List FixOutcome}, HasChanged start root before disk →
      Action.applyEach disk root actions = (.ok outcomes, disk') →
        HasChanged start root (before ++ actions) disk' := by
  induction actions with
  | nil =>
    intro before disk disk' outcomes h happlied
    cases happlied
    rwa [List.append_nil]
  | cons action rest ih =>
    intro before disk disk' outcomes h happlied
    unfold Action.applyEach at happlied
    split at happlied
    · cases happlied
    rename_i outcome next happly
    cases hrest : Action.applyEach next root rest with
    | mk answer after =>
    rw [hrest] at happlied
    cases answer with
    | error failure => cases happlied
    | ok others =>
      cases happlied
      rw [List.append_cons]
      exact ih (h.apply happly) hrest

/-- Actions that are all applied change the places that they fill, and files of theirs stand there. -/
theorem hasChanged_of_applyAll {response : FixResponse}
    (h : applyAll disk root actions = (.ok response, disk')) :
    HasChanged disk root actions disk' ∧ Adds actions disk disk' := by
  obtain ⟨hresponse, hdisk⟩ := Prod.mk.inj h
  obtain ⟨outcomes, houtcomes, -⟩ := map_eq_ok.mp hresponse
  have hstart : HasChanged disk root [] disk :=
    ⟨hasFilled_nil disk root, fun location => by simp [Fills]⟩
  exact ⟨hstart.applyEach actions (Prod.ext houtcomes hdisk), hdisk ▸ applyEach_adds disk root actions⟩

/-- A file of an action stands at a place that was filled. -/
theorem node?_of_fills {response : FixResponse} {location : Location}
    (h : applyAll disk root actions = (.ok response, disk'))
    (hfills : Fills disk root actions location) :
    ∃ action ∈ actions, ∃ t, action.remedy = .create t ∧
      disk'.node? location = some (.file (Text.Utf8.encode t.content) 0) := by
  obtain ⟨hchanged, hadds⟩ := hasChanged_of_applyAll h
  have hne := (hchanged.changed location).mpr hfills
  rw [hfills.node?] at hne
  obtain ⟨node, hnode⟩ := Option.ne_none_iff_exists'.mp hne
  obtain ⟨action, hmem, t, hremedy, rfl⟩ := hadds.added location node hfills.node? hnode
  exact ⟨action, hmem, t, hremedy, hnode⟩

/-- **A disk changes where files are created.** When all actions for some findings are applied, the
disk differs at a location exactly if an action fills it: its path led there, and nothing stood
there. What stands there then is the file of an action. If the root is a directory, the location is
the root with the name of the file, unless the path of the file is a link that leads nowhere. -/
theorem disk_changes_where_filled {findings : List Finding} {response : FixResponse}
    (h : applyAll disk root (ofFindings findings) = (.ok response, disk')) :
    let actions := ofFindings findings
    (∀ location, disk'.node? location ≠ disk.node? location ↔
        ∃ action ∈ actions, ∃ t, action.remedy = .create t ∧
          disk.locate (root / t.file) = .ok ⟨location, none⟩) ∧
      (∀ location, disk'.node? location ≠ disk.node? location → disk.node? location = none ∧
        ∃ action ∈ actions, ∃ t, action.remedy = .create t ∧
          disk'.node? location = some (.file (Text.Utf8.encode t.content) 0)) ∧
      ∀ base, disk.locate root = .ok ⟨base, some .directory⟩ → ∀ (t : Template) location,
        disk.locate (root / t.file) = .ok ⟨location, none⟩ →
          location = base ++ [t.file] ∨ disk.IsDangling (root / t.file) := by
  intro actions
  have hchanged := (hasChanged_of_applyAll h).1.changed
  refine ⟨hchanged, fun location hne => ?_, fun base hroot t location hlocated => ?_⟩
  · have hfills := (hchanged location).mp hne
    exact ⟨hfills.node?, node?_of_fills h hfills⟩
  · have hmissing : disk.pathExists (root / t.file) = .ok false := by
      rw [Disk.pathExists, Disk.leadsTo, Disk.stat, hlocated]
    obtain ⟨place, hplace, hname⟩ := Template.exists_base disk root
    obtain rfl : base = place := hplace _ hroot
    by_cases hdangling : disk.IsDangling (root / t.file)
    · exact .inr hdangling
    · exact .inl (hname t location hdangling hmissing hlocated)

/-- A project without anything in it. -/
def bareProject : Disk := ⟨[(["p"], .directory)]⟩

/-- There an example is created under its own name, and nothing else changes. -/
theorem example_is_the_only_change :
    ∃ response disk', applyAll bareProject ⟨.top, ["p"]⟩
        (ofFindings [.issue .envExampleMissing]) = (.ok response, disk') ∧
      ∀ location, disk'.node? location ≠ bareProject.node? location ↔
        location = ["p", ".env.example"] := by
  have hactions : ofFindings [.issue .envExampleMissing] =
      [⟨.envExampleMissing, .create .envExample⟩] := by decide +kernel
  have hplace : ∀ t : Template, bareProject.locate ((⟨.top, ["p"]⟩ : Path) / t.file) =
      .ok ⟨["p", t.file], none⟩ := by
    intro t
    cases t <;> decide +kernel
  obtain ⟨response, disk', happly⟩ := applyAll_isOk (ofFindings [.issue .envExampleMissing])
    fun t => ⟨_, hplace t⟩
  refine ⟨response, disk', happly, fun location => ?_⟩
  rw [(disk_changes_where_filled happly).1, hactions]
  have hiff : ∀ t : Template, bareProject.locate ((⟨.top, ["p"]⟩ : Path) / t.file) =
      .ok ⟨location, none⟩ ↔ location = ["p", t.file] := by
    intro t
    rw [hplace]
    simp [eq_comm]
  exact Iff.trans (by simp) (hiff .envExample)

/-- **A link leads out of the project**: where the README is a link to a place beside the project at
which nothing stands, the file that is created stands there. -/
theorem link_leads_out :
    outgoingReadme.locate ⟨.top, ["p"]⟩ = .ok ⟨["p"], some .directory⟩ ∧
      outgoingReadme.node? ["out.md"] = none ∧
      ∃ response disk', applyAll outgoingReadme ⟨.top, ["p"]⟩
          (ofFindings [.issue .readmeMissing]) = (.ok response, disk') ∧
        disk'.node? ["out.md"] = some (.file (Text.Utf8.encode Template.readme.content) 0) := by
  have hactions : ofFindings [.issue .readmeMissing] = [⟨.readmeMissing, .create .readme⟩] := by
    decide +kernel
  obtain ⟨response, disk', happly⟩ := applyAll_isOk (ofFindings [.issue .readmeMissing])
    locate_outgoingReadme
  rw [hactions] at happly ⊢
  have hfills : Fills outgoingReadme ⟨.top, ["p"]⟩ [⟨.readmeMissing, .create .readme⟩] ["out.md"] :=
    ⟨_, List.mem_singleton_self _, .readme, rfl, by decide +kernel⟩
  obtain ⟨action, hmem, t, hremedy, hnode⟩ := node?_of_fills happly hfills
  cases List.mem_singleton.mp hmem
  cases hremedy
  exact ⟨by decide +kernel, hfills.node?, response, disk', happly, hnode⟩

end Preflight.Action
