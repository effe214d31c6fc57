import Preflight.Proofs.Fix.Creation

/-!
# What a preview says of applying

A preview does not look at the disk: it names every file that an action could create. The law
(`applied_as_previewed`): where all actions for some findings can be applied, the suggestions are
those of the preview, and the files that it names are, in its order, those that are created or
skipped. A file is skipped exactly if its place was taken (`Taken`): something stood there before, or
an action before it created its own file there.

Two actions have one place only through a link that leads nowhere, so the second case is rare. Places
are those of the disk at the start: applying changes where a path leads only by filling places
(`Filling`).
-/

set_option autoImplicit false

namespace Preflight

/-- Something is at a path exactly if the path leads to a place with a node. -/
theorem Disk.pathExists_iff {disk : Disk} {path : Path} :
    disk.pathExists path = .ok true ↔
      ∃ place node, disk.locate path = .ok ⟨place, some node⟩ := by
  constructor
  · intro h
    unfold pathExists leadsTo at h
    split at h
    · rename_i node hstat
      obtain ⟨place, hplace⟩ := locate_of_stat hstat
      exact ⟨place, node, hplace⟩
    · cases h
    · cases h
  · rintro ⟨place, node, h⟩
    rw [pathExists, leadsTo, stat, h]

namespace Action

/-- An action of the list creates its file at the place, where nothing stands. -/
def Fills (disk : Disk) (root : Path) (actions : List Action) (place : Location) : Prop :=
  ∃ action ∈ actions, ∃ t, action.remedy = .create t ∧
    disk.locate (root / t.file) = .ok ⟨place, none⟩

/-- The place of a template is taken before its turn: something stands there, or an action before it
creates its file there. -/
def Taken (disk : Disk) (root : Path) (before : List Action) (t : Template) : Prop :=
  disk.pathExists (root / t.file) = .ok true ∨
    ∃ place, disk.locate (root / t.file) = .ok ⟨place, none⟩ ∧ Fills disk root before place

/-- One more action fills its own place at most. -/
theorem fills_append_iff {disk : Disk} {root : Path} {before : List Action} {action : Action}
    {place : Location} : Fills disk root (before ++ [action]) place ↔
      Fills disk root before place ∨
        ∃ t, action.remedy = .create t ∧ disk.locate (root / t.file) = .ok ⟨place, none⟩ := by
  simp only [Fills, List.mem_append, List.mem_singleton, or_and_right, exists_or, exists_eq_left]

/-! ## Places that are filled -/

/-- Where a path leads at the start and later, when places have been filled: to the same, to a place
that was filled, or it is blocked by a file. -/
inductive Filling (filled : Location → Prop) :
    Except Failure Disk.Found → Except Failure Disk.Found → Prop
  | same (result : Except Failure Disk.Found)
      (hfree : ∀ place, result = .ok ⟨place, none⟩ → ¬ filled place) : Filling filled result result
  | found {place : Location} (node : Node) (hfilled : filled place) :
      Filling filled (.ok ⟨place, none⟩) (.ok ⟨place, some node⟩)
  | blocked : Filling filled (.error .notFound) (.error .notDirectory)

/-- Applying actions up to here has filled their places. -/
def HasFilled (start : Disk) (root : Path) (before : List Action) (disk : Disk) : Prop :=
  ∀ path, Filling (Fills start root before) (start.locate path) (disk.locate path)

variable {start disk disk' : Disk} {root : Path} {before : List Action} {action : Action}
  {outcome : FixOutcome}

/-- At the start nothing is filled. -/
theorem hasFilled_nil (disk : Disk) (root : Path) : HasFilled disk root [] disk :=
  fun _ => .same _ fun _ _ ⟨_, hmem, _⟩ => List.not_mem_nil hmem

/-- Something is at the path of a template exactly if its place is taken. -/
theorem HasFilled.pathExists_iff_taken (h : HasFilled start root before disk) (t : Template) :
    disk.pathExists (root / t.file) = .ok true ↔ Taken start root before t := by
  have hpath := h (root / t.file)
  unfold Taken
  rw [Disk.pathExists_iff, Disk.pathExists_iff]
  generalize start.locate (root / t.file) = first at hpath
  generalize disk.locate (root / t.file) = now at hpath
  cases hpath with
  | same result hfree =>
    exact ⟨.inl, fun h => h.elim id fun ⟨place, heq, hfills⟩ => absurd hfills (hfree place heq)⟩
  | @found place node hfilled =>
    exact ⟨fun _ => .inr ⟨place, rfl, hfilled⟩, fun _ => ⟨place, node, rfl⟩⟩
  | blocked => simp

/-- A creation fills the place of its template and no other. -/
theorem HasFilled.fills_created_iff {t : Template} {location : Location}
    (h : HasFilled start root before disk) (hcreated : t.Created disk disk' root location)
    (hremedy : action.remedy = .create t) (place : Location) :
    Fills start root (before ++ [action]) place ↔
      Fills start root before place ∨ place = location := by
  -- The place was free, so the path led there from the start.
  have hlocated : start.locate (root / t.file) = .ok ⟨location, none⟩ := by
    have hpath := h (root / t.file)
    rw [hcreated.located] at hpath
    generalize start.locate (root / t.file) = first at hpath
    cases hpath
    rfl
  rw [fills_append_iff]
  refine or_congr_right ⟨?_, fun heq => ⟨t, hremedy, by rw [hlocated, heq]⟩⟩
  rintro ⟨u, hu, hplace⟩
  obtain rfl : t = u := Remedy.create.inj (hremedy.symm.trans hu)
  rw [hlocated] at hplace
  cases hplace
  rfl

/-- An action that creates nothing fills nothing. -/
theorem HasFilled.fills_skipped_iff (h : HasFilled start root before disk)
    (hthere : ∀ t, action.remedy = .create t → disk.pathExists (root / t.file) = .ok true)
    (place : Location) :
    Fills start root (before ++ [action]) place ↔ Fills start root before place := by
  rw [fills_append_iff]
  refine or_iff_left_of_imp ?_
  rintro ⟨t, hremedy, hplace⟩
  obtain hstart | ⟨other, hother, hfills⟩ := (h.pathExists_iff_taken t).mp (hthere t hremedy)
  · obtain ⟨other, node, hother⟩ := Disk.pathExists_iff.mp hstart
    rw [hplace] at hother
    cases hother
  · rw [hplace] at hother
    cases hother
    exact hfills

theorem HasFilled.created {t : Template} {location : Location}
    (h : HasFilled start root before disk) (hcreated : t.Created disk disk' root location)
    (hremedy : action.remedy = .create t) : HasFilled start root (before ++ [action]) disk' := by
  have hnew := h.fills_created_iff hcreated hremedy
  intro path
  have hgrown := hcreated.gains.locate_grown path true
  have hpath := h path
  have hnode := fun found (hfound : disk'.locate path = .ok found) => Disk.locate_node? hfound
  generalize disk'.locate path = after at hgrown hnode
  generalize disk.locate path = now at hgrown hpath
  generalize start.locate path = first at hpath
  cases hpath with
  | same result hfree =>
    cases hgrown with
    | same =>
      refine .same _ fun place hplace => ?_
      rw [hnew]
      rintro (hold | rfl)
      · exact hfree place hplace hold
      -- the new file stands at the place, where the path finds nothing still
      · have hempty : none = disk'.node? place := hnode _ hplace
        rw [hcreated.gains.node?_self] at hempty
        cases hempty
    | found => exact .found _ ((hnew _).mpr (.inr rfl))
    | blocked => exact .blocked
  | found node hfilled =>
    cases hgrown
    exact .found node ((hnew _).mpr (.inl hfilled))
  | blocked =>
    cases hgrown
    exact .blocked

theorem HasFilled.skipped (h : HasFilled start root before disk)
    (hthere : ∀ t, action.remedy = .create t → disk.pathExists (root / t.file) = .ok true) :
    HasFilled start root (before ++ [action]) disk := by
  have hsame := h.fills_skipped_iff hthere
  intro path
  have hpath := h path
  generalize disk.locate path = now at hpath
  generalize start.locate path = first at hpath
  cases hpath with
  | same result hfree =>
    refine .same _ fun place hplace hfills => ?_
    exact hfree place hplace ((hsame place).mp hfills)
  | found node hfilled => exact .found node ((hsame _).mpr hfilled)
  | blocked => exact .blocked

/-! ## What becomes of an action -/

/-- What becomes of an action that is applied after others: it is suggested, or its file is created,
or skipped where its place is taken. -/
inductive Settles (start : Disk) (root : Path) (before : List Action) (action : Action) :
    FixOutcome → Prop
  | suggested {text : String} (hremedy : action.remedy = .suggest text) :
      Settles start root before action ⟨action, .suggestion, none⟩
  | created {t : Template} (hremedy : action.remedy = .create t)
      (hfree : ¬ Taken start root before t) :
      Settles start root before action ⟨action, .created, some (root / t.file)⟩
  | skipped {t : Template} (hremedy : action.remedy = .create t)
      (htaken : Taken start root before t) :
      Settles start root before action ⟨action, .skipped, some (root / t.file)⟩

/-- **The step**: an action is settled by what its place was at the start, and fills it. -/
theorem apply_settles (h : HasFilled start root before disk)
    (happly : action.apply disk root = .ok (outcome, disk')) :
    Settles start root before action outcome ∧ HasFilled start root (before ++ [action]) disk' := by
  have hfilled : HasFilled start root (before ++ [action]) disk' := by
    obtain ⟨rfl, hthere⟩ | ⟨t, location, hremedy, hcreated⟩ := apply_cases happly
    · exact h.skipped hthere
    · exact h.created hcreated hremedy
  refine ⟨?_, hfilled⟩
  unfold apply at happly
  split at happly
  · rename_i text hremedy
    cases happly
    exact .suggested hremedy
  · rename_i t hremedy
    obtain ⟨there, hthere, happly⟩ := bind_eq_ok.mp happly
    cases there with
    | true =>
      cases happly
      exact .skipped hremedy ((h.pathExists_iff_taken t).mp hthere)
    | false =>
      obtain ⟨written, -, happly⟩ := bind_eq_ok.mp happly
      cases happly
      refine .created hremedy fun htaken => ?_
      rw [(h.pathExists_iff_taken t).mpr htaken] at hthere
      cases hthere

/-- What becomes of actions that are applied in turn after others. -/
inductive SettleAll (start : Disk) (root : Path) :
    (before actions : List Action) → List FixOutcome → Prop
  | nil (before : List Action) : SettleAll start root before [] []
  | cons {before : List Action} {action : Action} {rest : List Action} {outcome : FixOutcome}
      {outcomes : List FixOutcome} (hfirst : Settles start root before action outcome)
      (hrest : SettleAll start root (before ++ [action]) rest outcomes) :
      SettleAll start root before (action :: rest) (outcome :: outcomes)

/-- **The run**: actions that can all be applied are settled in turn. -/
theorem applyEach_settles (actions : List Action) : ∀ {before : List Action} {disk disk' : Disk}
    {outcomes : List FixOutcome}, HasFilled start root before disk →
      applyEach disk root actions = (.ok outcomes, disk') →
        SettleAll start root before actions outcomes := by
  induction actions with
  | nil =>
    intro before disk disk' outcomes _ h
    cases h
    exact .nil before
  | cons action rest ih =>
    intro before disk disk' outcomes hfilled h
    unfold applyEach at h
    split at h
    · cases h
    rename_i outcome next happly
    obtain ⟨hfirst, hnext⟩ := apply_settles hfilled happly
    cases hrest : applyEach next root rest with
    | mk answer after =>
    rw [hrest] at h
    cases answer with
    | error failure => cases h
    | ok others =>
      cases h
      exact .cons hfirst (ih hnext hrest)

namespace SettleAll

variable {actions : List Action} {outcomes : List FixOutcome}

/-- Suggestions are those of the preview. -/
theorem suggestions_eq (h : SettleAll start root before actions outcomes) :
    outcomes.filter (·.status == .suggestion) =
      (actions.map (preview root)).filter (·.status == .suggestion) := by
  induction h with
  | nil => rfl
  | cons hfirst hrest ih =>
    cases hfirst with
    | suggested hremedy => simp [preview, hremedy, ih]
    | created hremedy => simp [preview, hremedy, ih]
    | skipped hremedy => simp [preview, hremedy, ih]

/-- The other actions and their files are those of the preview. -/
theorem files_eq (h : SettleAll start root before actions outcomes) :
    (outcomes.filter (·.status != .suggestion)).map (fun o => (o.action, o.path)) =
      ((actions.map (preview root)).filter (·.status == .wouldCreate)).map
        fun o => (o.action, o.path) := by
  induction h with
  | nil => rfl
  | cons hfirst hrest ih =>
    cases hfirst with
    | suggested hremedy => simpa [preview, hremedy] using ih
    | created hremedy => simpa [preview, hremedy] using ih
    | skipped hremedy => simpa [preview, hremedy] using ih

/-- Each action is settled after those before it. -/
theorem settles_getElem? (h : SettleAll start root before actions outcomes) :
    ∀ {done : List Action} {action : Action} {todo : List Action},
      actions = done ++ action :: todo → ∃ outcome, outcomes[done.length]? = some outcome ∧
        Settles start root (before ++ done) action outcome := by
  induction h with
  | nil =>
    intro done action todo hsplit
    simp at hsplit
  | @cons before first rest outcome outcomes hfirst hrest ih =>
    intro done action todo hsplit
    cases done with
    | nil =>
      obtain ⟨rfl, -⟩ := List.cons.inj hsplit
      exact ⟨outcome, rfl, by rwa [List.append_nil]⟩
    | cons head done =>
      obtain ⟨rfl, htail⟩ := List.cons.inj hsplit
      obtain ⟨other, hother, hsettled⟩ := ih htail
      exact ⟨other, hother, by rwa [List.append_cons]⟩

end SettleAll

/-! ## The law -/

/-- **What a preview says of applying.** Where all actions for some findings can be applied, the
suggestions are those of the preview; the actions whose files the preview names are, in its order and
with their files, those that are not suggestions; and each of them is skipped if its place was taken,
and carried out if not. -/
theorem applied_as_previewed {disk disk' : Disk} {root : Path} {findings : List Finding}
    {response : FixResponse}
    (h : applyAll disk root (ofFindings findings) = (.ok response, disk')) :
    let previewed := (previewAll root (ofFindings findings)).outcomes
    response.outcomes.filter (·.status == .suggestion) =
        previewed.filter (·.status == .suggestion) ∧
      (response.outcomes.filter (·.status != .suggestion)).map (fun o => (o.action, o.path)) =
        (previewed.filter (·.status == .wouldCreate)).map (fun o => (o.action, o.path)) ∧
      ∀ before action after t, ofFindings findings = before ++ action :: after →
        action.remedy = .create t →
          ¬ Taken disk root before t ∧ response.outcomes[before.length]? =
              some ⟨action, .created, some (root / t.file)⟩ ∨
            Taken disk root before t ∧ response.outcomes[before.length]? =
              some ⟨action, .skipped, some (root / t.file)⟩ := by
  intro previewed
  obtain ⟨hresponse, -⟩ := Prod.mk.inj h
  obtain ⟨outcomes, houtcomes, rfl⟩ := map_eq_ok.mp hresponse
  have hsettle : SettleAll disk root [] (ofFindings findings) outcomes :=
    applyEach_settles _ (hasFilled_nil disk root) (Prod.ext houtcomes rfl)
  refine ⟨hsettle.suggestions_eq, hsettle.files_eq, fun before action after t hsplit hremedy => ?_⟩
  obtain ⟨outcome, houtcome, hsettled⟩ := hsettle.settles_getElem? hsplit
  cases hsettled with
  | suggested hother =>
    rw [hremedy] at hother
    cases hother
  | @created u hother hfree =>
    obtain rfl : t = u := Remedy.create.inj (hremedy.symm.trans hother)
    exact .inl ⟨hfree, houtcome⟩
  | @skipped u hother htaken =>
    obtain rfl : t = u := Remedy.create.inj (hremedy.symm.trans hother)
    exact .inr ⟨htaken, houtcome⟩

/-- A project whose README is a link to the place of its missing example. -/
def linkedReadme : Disk := ⟨[(["p"], .directory), (["p", "README.md"], .link ".env.example")]⟩

/-- There the example is created, and the README, which leads to it, is skipped. -/
theorem linked_readme_is_skipped :
    ∃ response disk',
      applyAll linkedReadme ⟨.top, ["p"]⟩ (ofFindings [.issue .envExampleMissing,
          .issue .readmeMissing, .warning .rateLimitMissing]) = (.ok response, disk') ∧
        Taken linkedReadme ⟨.top, ["p"]⟩ [⟨.envExampleMissing, .create .envExample⟩] .readme ∧
        response.outcomes[1]? = some
          ⟨⟨.readmeMissing, .create .readme⟩, .skipped, some ⟨.top, ["p", "README.md"]⟩⟩ := by
  have hactions : ofFindings [.issue .envExampleMissing, .issue .readmeMissing,
      .warning .rateLimitMissing] = [⟨.envExampleMissing, .create .envExample⟩] ++
        ⟨.readmeMissing, .create .readme⟩ :: [⟨.rateLimitMissing, .suggest rateAdvice⟩] := by
    decide +kernel
  have htaken : Taken linkedReadme ⟨.top, ["p"]⟩ [⟨.envExampleMissing, .create .envExample⟩]
      .readme :=
    .inr ⟨["p", ".env.example"], by decide +kernel, _, List.mem_singleton_self _, .envExample, rfl,
      by decide +kernel⟩
  have hok : ∃ response disk', applyAll linkedReadme ⟨.top, ["p"]⟩ (ofFindings
      [.issue .envExampleMissing, .issue .readmeMissing, .warning .rateLimitMissing]) =
        (.ok response, disk') := by
    have hisOk : (applyAll linkedReadme ⟨.top, ["p"]⟩ (ofFindings [.issue .envExampleMissing,
        .issue .readmeMissing, .warning .rateLimitMissing])).1.isOk = true := by decide +kernel
    generalize applyAll _ _ _ = result at hisOk
    obtain ⟨_ | response, disk'⟩ := result
    · cases hisOk
    · exact ⟨response, disk', rfl⟩
  obtain ⟨response, disk', happly⟩ := hok
  refine ⟨response, disk', happly, htaken, ?_⟩
  obtain ⟨hfree, -⟩ | ⟨-, hskipped⟩ :=
    (applied_as_previewed happly).2.2 _ _ _ .readme hactions rfl
  · exact absurd htaken hfree
  · exact hskipped

/-- A project with an empty README. -/
def emptyReadme : Disk := ⟨[(["p"], .directory), (["p", "README.md"], .file [] 0)]⟩

/-- **A preview is not exact**: a README that is too short is named by the preview as a file to
create, and the same action creates nothing when it is applied. -/
theorem preview_is_not_exact :
    emptyReadme.isDirectory ⟨.top, ["p"]⟩ = .ok true ∧
      ∃ response, applyAll emptyReadme ⟨.top, ["p"]⟩ (ofFindings [.warning .readmeTooShort]) =
          (.ok response, emptyReadme) ∧
        ((previewAll ⟨.top, ["p"]⟩ (ofFindings [.warning .readmeTooShort])).outcomes.filter
          (·.status == .wouldCreate)).map (·.action) = [⟨.readmeTooShort, .create .readme⟩] ∧
        (response.outcomes.filter (·.status == .created)).map (·.action) = [] := by
  have hskipped : applyAll emptyReadme ⟨.top, ["p"]⟩ (ofFindings [.warning .readmeTooShort]) =
      (.ok ⟨false, [⟨⟨.readmeTooShort, .create .readme⟩, .skipped,
        some ⟨.top, ["p", "README.md"]⟩⟩]⟩, emptyReadme) :=
    Prod.ext (by decide +kernel) (by decide +kernel)
  exact ⟨by decide +kernel, _, hskipped, by decide +kernel, rfl⟩

end Action

end Preflight
