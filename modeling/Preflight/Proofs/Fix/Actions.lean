import Mathlib.Data.List.Induction
import Preflight.Fix.Action

/-!
# Actions for findings

Remedies are told apart by their labels: whether a file is created, which one, and what is done in
words. Findings of several kinds may ask for one label, and findings of one kind for several. The
actions for some findings are what the first finding of each label asks for, in the order of these
findings (`AreFor`); findings that come later add actions at the end, and none that is there
(`findings_are_acted_on_once`).
-/

set_option autoImplicit false

namespace Preflight

/-! ## Labels -/

/-- The file tells which template it is. -/
theorem Template.file_injective : Function.Injective Template.file := by
  intro t u
  cases t <;> cases u <;> decide

namespace Remedy

/-- What is told of a remedy besides the text of its file. -/
structure Label where
  /-- A file is created, and otherwise something is suggested. -/
  creates : Bool
  /-- The file that is created. -/
  file? : Option String
  /-- What is done, in words. -/
  description : String
  deriving DecidableEq

/-- The file that a remedy creates. -/
def file? : Remedy → Option String
  | .create template => some template.file
  | .suggest _ => none

/-- The label of a remedy. -/
def label (r : Remedy) : Label := ⟨r matches .create _, r.file?, r.description⟩

/-- Two remedies that create one file are the same. -/
theorem eq_of_file?_eq_some {r s : Remedy} {file : String} (hr : r.file? = some file)
    (hs : s.file? = some file) : r = s := by
  cases r with
  | suggest text => cases hr
  | create t =>
    cases s with
    | suggest text => cases hs
    | create u =>
      obtain rfl : t = u := Template.file_injective (Option.some.inj (hr.trans hs.symm))
      rfl

/-- **The label tells the remedy.** -/
theorem label_injective : Function.Injective label := by
  intro r s h
  obtain ⟨hcreates, hfile, hdescription⟩ := Label.mk.inj h
  cases r with
  | create t => exact eq_of_file?_eq_some rfl hfile.symm
  | suggest text =>
    cases s with
    | create u => cases hcreates
    | suggest other => exact congrArg suggest hdescription

end Remedy

/-! ## What findings ask for -/

/-- The kinds of findings that something can be done about. -/
def Kind.remedied : List Kind :=
  [.envExampleMissing, .readmeMissing, .readmeTooShort, .readmeNoInstructions, .weakSecret,
   .missingEnvVar, .envFileMissing, .securityHeadersMissing, .corsWildcard, .corsMissing,
   .rateLimitMissing, .missingHealthEndpoint]

/-- The kind alone decides whether there is a remedy. -/
theorem Finding.exists_remedy?_iff {f : Finding} :
    (∃ remedy, f.remedy? = some remedy) ↔ f.kind ∈ Kind.remedied := by
  rw [remedy?]
  cases f.kind <;> simp [Kind.remedied]

/-- A finding asks for an action of its own kind with the remedy that there is for it. -/
theorem Finding.action?_eq_some_iff {f : Finding} {action : Action} :
    f.action? = some action ↔ f.remedy? = some action.remedy ∧ action.source = f.kind := by
  rw [action?, Option.map_eq_some_iff]
  constructor
  · rintro ⟨remedy, hremedy, rfl⟩
    exact ⟨hremedy, rfl⟩
  · rintro ⟨hremedy, hsource⟩
    exact ⟨action.remedy, hremedy, by rw [← hsource]⟩

namespace Action

/-! ## Putting actions at the end -/

theorem prefix_put (actions : List Action) (action : Action) : actions <+: put actions action := by
  unfold put
  split
  · exact List.prefix_refl _
  · exact List.prefix_append _ _

theorem prefix_foldl_put (added : List Action) :
    ∀ actions, actions <+: added.foldl put actions := by
  induction added with
  | nil => exact List.prefix_refl
  | cons action rest ih => exact fun actions => (prefix_put actions action).trans (ih _)

/-- An action is left out if its remedy is there. -/
theorem put_of_mem {actions : List Action} {action other : Action} (hother : other ∈ actions)
    (hremedy : other.remedy = action.remedy) : put actions action = actions :=
  if_pos (List.any_eq_true.mpr ⟨other, hother, decide_eq_true hremedy⟩)

/-- And otherwise it comes last. -/
theorem put_of_not_mem {actions : List Action} {action : Action}
    (h : ∀ other ∈ actions, other.remedy ≠ action.remedy) :
    put actions action = actions ++ [action] := by
  refine if_neg fun hany => ?_
  obtain ⟨other, hother, hremedy⟩ := List.any_eq_true.mp hany
  exact h other hother (of_decide_eq_true hremedy)

/-- More findings put their actions at the end. -/
theorem ofFindings_append (findings more : List Finding) :
    ofFindings (findings ++ more) =
      (more.filterMap Finding.action?).foldl put (ofFindings findings) := by
  rw [ofFindings, List.filterMap_append, List.foldl_append]
  rfl

/-! ## First places -/

/-- The place of the first finding that asks for a label. -/
def firstPlace (findings : List Finding) (label : Remedy.Label) : Nat :=
  findings.findIdx fun f => f.remedy?.map Remedy.label = some label

/-- A first place stays the first when more findings come. -/
theorem firstPlace_append {findings : List Finding} {label : Remedy.Label}
    (h : firstPlace findings label < findings.length) (more : List Finding) :
    firstPlace (findings ++ more) label = firstPlace findings label := by
  rw [firstPlace, List.findIdx_append]
  exact if_pos h

/-- What no finding asked for before has its first place at the end. -/
theorem firstPlace_concat {findings : List Finding} {f : Finding} {remedy : Remedy}
    (hnew : ∀ g ∈ findings, g.remedy? ≠ some remedy) (hremedy : f.remedy? = some remedy) :
    firstPlace (findings ++ [f]) remedy.label = findings.length := by
  have hbefore : findings.findIdx (fun g => g.remedy?.map Remedy.label = some remedy.label) =
      findings.length := by
    refine List.findIdx_eq_length.mpr fun g hg => decide_eq_false fun heq => ?_
    obtain ⟨other, hother, hlabel⟩ := Option.map_eq_some_iff.mp heq
    exact hnew g hg (hother.trans (congrArg some (Remedy.label_injective hlabel)))
  rw [firstPlace, List.findIdx_append, hbefore, if_neg (Nat.lt_irrefl _), List.findIdx_cons]
  simp [hremedy]

/-- The actions are what the first findings of their labels ask for, in the order of these. -/
structure AreFor (findings : List Finding) (actions : List Action) : Prop where
  /-- Whatever a finding asks for is done. -/
  covered : ∀ f ∈ findings, ∀ remedy, f.remedy? = some remedy →
    ∃ action ∈ actions, action.remedy = remedy
  /-- An action is that of the first finding that asks for its label. -/
  first : ∀ action ∈ actions, ∃ f,
    findings[firstPlace findings action.remedy.label]? = some f ∧ f.action? = some action
  ordered : actions.Pairwise fun a b =>
    firstPlace findings a.remedy.label < firstPlace findings b.remedy.label

namespace AreFor

variable {findings : List Finding} {actions : List Action}

theorem nil : AreFor [] [] where
  covered _ hmem := absurd hmem List.not_mem_nil
  first _ hmem := absurd hmem List.not_mem_nil
  ordered := .nil

theorem firstPlace_lt (h : AreFor findings actions) {action : Action} (hmem : action ∈ actions) :
    firstPlace findings action.remedy.label < findings.length := by
  obtain ⟨f, hf, -⟩ := h.first action hmem
  exact (List.getElem?_eq_some_iff.mp hf).1

/-- More findings change neither the first places of the actions nor what stands there. -/
theorem first_append (h : AreFor findings actions) (more : List Finding) {action : Action}
    (hmem : action ∈ actions) :
    ∃ f, (findings ++ more)[firstPlace (findings ++ more) action.remedy.label]? = some f ∧
      f.action? = some action := by
  have hplace := h.firstPlace_lt hmem
  rw [firstPlace_append hplace, List.getElem?_append_left hplace]
  exact h.first action hmem

theorem ordered_append (h : AreFor findings actions) (more : List Finding) :
    actions.Pairwise fun a b =>
      firstPlace (findings ++ more) a.remedy.label <
        firstPlace (findings ++ more) b.remedy.label := by
  refine h.ordered.imp_of_mem fun ha hb hlt => ?_
  rwa [firstPlace_append (h.firstPlace_lt ha), firstPlace_append (h.firstPlace_lt hb)]

/-- A finding that asks for nothing new changes nothing. -/
theorem repeated (h : AreFor findings actions) {f : Finding}
    (hthere : ∀ remedy, f.remedy? = some remedy → ∃ action ∈ actions, action.remedy = remedy) :
    AreFor (findings ++ [f]) actions where
  covered g hg := by
    rcases List.mem_append.mp hg with hold | hlast
    · exact h.covered g hold
    · rwa [List.mem_singleton.mp hlast]
  first _ hmem := h.first_append [f] hmem
  ordered := h.ordered_append [f]

/-- A finding that asks for something new is the first one to do so. -/
theorem added (h : AreFor findings actions) {f : Finding} {action : Action}
    (haction : f.action? = some action)
    (hnew : ∀ other ∈ actions, other.remedy ≠ action.remedy) :
    AreFor (findings ++ [f]) (actions ++ [action]) := by
  obtain ⟨hremedy, -⟩ := Finding.action?_eq_some_iff.mp haction
  have hplace : firstPlace (findings ++ [f]) action.remedy.label = findings.length := by
    refine firstPlace_concat (fun g hg hasked => ?_) hremedy
    obtain ⟨other, hother, hsame⟩ := h.covered g hg _ hasked
    exact hnew other hother hsame
  refine ⟨fun g hg remedy hasked => ?_, fun a ha => ?_, ?_⟩
  · rcases List.mem_append.mp hg with hold | hlast
    · obtain ⟨other, hother, hsame⟩ := h.covered g hold remedy hasked
      exact ⟨other, List.mem_append_left _ hother, hsame⟩
    · rw [List.mem_singleton.mp hlast, hremedy] at hasked
      exact ⟨action, by simp, Option.some.inj hasked⟩
  · rcases List.mem_append.mp ha with hold | hlast
    · exact h.first_append [f] hold
    · rw [List.mem_singleton.mp hlast, hplace, List.getElem?_concat_length]
      exact ⟨f, rfl, haction⟩
  · refine List.pairwise_append.mpr
      ⟨h.ordered_append [f], List.pairwise_singleton _ _, fun a ha b hb => ?_⟩
    rw [List.mem_singleton.mp hb, hplace, firstPlace_append (h.firstPlace_lt ha)]
    exact h.firstPlace_lt ha

/-- **The step**: one more finding puts its action at the end. -/
theorem concat (h : AreFor findings actions) (f : Finding) :
    AreFor (findings ++ [f]) (f.action?.toList.foldl put actions) := by
  cases haction : f.action? with
  | none =>
    refine h.repeated fun remedy hremedy => ?_
    rw [Finding.action?, hremedy] at haction
    cases haction
  | some action =>
    obtain ⟨hremedy, -⟩ := Finding.action?_eq_some_iff.mp haction
    show AreFor (findings ++ [f]) (put actions action)
    by_cases hthere : ∃ other ∈ actions, other.remedy = action.remedy
    · obtain ⟨other, hother, hsame⟩ := hthere
      rw [put_of_mem hother hsame]
      refine h.repeated fun remedy hasked => ⟨other, hother, ?_⟩
      exact hsame.trans (Option.some.inj (hremedy.symm.trans hasked))
    · have hnew : ∀ other ∈ actions, other.remedy ≠ action.remedy :=
        fun other hother hsame => hthere ⟨other, hother, hsame⟩
      rw [put_of_not_mem hnew]
      exact h.added haction hnew

end AreFor

/-- **The run**: the actions for findings are for them. -/
theorem areFor_ofFindings (findings : List Finding) : AreFor findings (ofFindings findings) := by
  induction findings using List.reverseRecOn with
  | nil => exact .nil
  | append_singleton findings f ih =>
    have hstep := ih.concat f
    rwa [ofFindings_append, List.filterMap_cons, List.filterMap_nil]

/-- Every remedy that a finding asks for is among the actions. -/
theorem exists_of_remedy {findings : List Finding} {finding : Finding} {remedy : Remedy}
    (hmem : finding ∈ findings) (hremedy : finding.remedy? = some remedy) :
    ∃ action ∈ ofFindings findings, action.remedy = remedy :=
  (areFor_ofFindings findings).covered finding hmem remedy hremedy

/-! ## The law -/

/-- No two actions have one label. -/
theorem AreFor.pairwise_label {findings : List Finding} {actions : List Action}
    (h : AreFor findings actions) :
    actions.Pairwise fun a b => a.remedy.label ≠ b.remedy.label := by
  refine h.ordered.imp fun hlt heq => ?_
  rw [heq] at hlt
  exact Nat.lt_irrefl _ hlt

/-- No file is created by two actions. -/
theorem AreFor.nodup_files {findings : List Finding} {actions : List Action}
    (h : AreFor findings actions) : (actions.filterMap (·.remedy.file?)).Nodup := by
  refine List.pairwise_filterMap.mpr (h.pairwise_label.imp fun hne => ?_)
  rintro file hfile other hother rfl
  exact hne (congrArg Remedy.label (Remedy.eq_of_file?_eq_some hfile hother))

/-- Findings whose remedies are there add nothing. -/
theorem foldl_put_of_there {actions : List Action} (added : List Action)
    (h : ∀ action ∈ added, ∃ other ∈ actions, other.remedy = action.remedy) :
    added.foldl put actions = actions := by
  induction added with
  | nil => rfl
  | cons action rest ih =>
    obtain ⟨⟨other, hother, hsame⟩, hrest⟩ := List.forall_mem_cons.mp h
    rw [List.foldl_cons, put_of_mem hother hsame, ih hrest]

/-- **Findings are acted on once, in the order in which they ask.** No two actions have one label;
what a finding of a kind with a remedy asks for is done; an action is what the first finding that
asks for its label asks for, and tells the kind of that finding; the actions stand in the order of
these findings; no file is created by two of them. More findings add actions at the end, and none if
they are there already. -/
theorem findings_are_acted_on_once (findings : List Finding) :
    let actions := ofFindings findings
    (actions.map (·.remedy.label)).Nodup ∧
      (∀ f ∈ findings, f.kind ∈ Kind.remedied → ∃ remedy, f.remedy? = some remedy ∧
        ∃ action ∈ actions, action.remedy.label = remedy.label) ∧
      (∀ action ∈ actions, ∃ f, findings[firstPlace findings action.remedy.label]? = some f ∧
        f.remedy? = some action.remedy ∧ action.source = f.kind) ∧
      (actions.Pairwise fun a b =>
        firstPlace findings a.remedy.label < firstPlace findings b.remedy.label) ∧
      (actions.filterMap (·.remedy.file?)).Nodup ∧
      (∀ more, actions <+: ofFindings (findings ++ more)) ∧
      ∀ more, more ⊆ findings → ofFindings (findings ++ more) = actions := by
  intro actions
  have hfor := areFor_ofFindings findings
  refine ⟨List.pairwise_map.mpr hfor.pairwise_label, fun f hf hkind => ?_,
    fun action hmem => ?_, hfor.ordered, hfor.nodup_files, fun more => ?_, fun more hmore => ?_⟩
  · obtain ⟨remedy, hremedy⟩ := Finding.exists_remedy?_iff.mpr hkind
    obtain ⟨action, hmem, hsame⟩ := hfor.covered f hf remedy hremedy
    exact ⟨remedy, hremedy, action, hmem, congrArg Remedy.label hsame⟩
  · obtain ⟨f, hf, hasked⟩ := hfor.first action hmem
    exact ⟨f, hf, Finding.action?_eq_some_iff.mp hasked⟩
  · rw [ofFindings_append]
    exact prefix_foldl_put _ _
  · rw [ofFindings_append]
    refine foldl_put_of_there _ fun action hmem => ?_
    obtain ⟨f, hf, hasked⟩ := List.mem_filterMap.mp hmem
    exact hfor.covered f (hmore hf) _ (Finding.action?_eq_some_iff.mp hasked).1

/-- Two findings about origins ask for one suggestion, two weak secrets for one each; the origins
come up again to no effect. -/
theorem shared_advice_is_given_once :
    let findings : List Finding :=
      [.warning .corsMissing, .issue .weakSecret { subject := some "A" }, .issue .unprotectedRoute,
       .issue .corsWildcard, .issue .weakSecret { subject := some "B" }]
    (∃ action ∈ ofFindings findings,
        action.remedy.label = (Remedy.suggest originAdvice).label) ∧
      (ofFindings findings).map (·.source) = [.corsMissing, .weakSecret, .weakSecret] ∧
      ofFindings (findings ++ [.issue .corsWildcard]) = ofFindings findings := by
  intro findings
  obtain ⟨-, hcovered, -, -, -, -, hagain⟩ := findings_are_acted_on_once findings
  have hmem : Finding.issue .corsWildcard ∈ findings := by simp [findings]
  obtain ⟨remedy, hremedy, hdone⟩ := hcovered _ hmem (by decide)
  cases hremedy
  refine ⟨hdone, by decide +kernel, hagain _ ?_⟩
  exact List.cons_subset.mpr ⟨hmem, List.nil_subset _⟩

end Action

end Preflight
