import Preflight.Console.Report
import Preflight.Proofs.Console.Markup
import Preflight.Proofs.Report.Consistency

/-!
# Sections that can be shown

The section of every result of a validation can be shown (`printSections_isOk`), and its findings in
full (`prints_detailLines`): what comes from the project stands in messages behind labels, which can
be shown whatever they say, and the names of checks and the verdicts are plain.
-/

set_option autoImplicit false

namespace Preflight.Console

/-! ## Styles of the console -/

instance (text : String) : Decidable (IsPlain text) := inferInstanceAs (Decidable (_ ∧ _))

/-- The styles that are used name themselves. -/
theorem isStyle_of_mem {style : String}
    (h : style ∈ ["success", "error", "warning", "info", "bold"]) : IsStyle style.toList := by
  simp only [List.mem_cons, List.not_mem_nil, or_false] at h
  rcases h with rfl | rfl | rfl | rfl | rfl <;>
    exact ⟨⟨_, _, rfl, by decide, by decide⟩, by decide, by decide, by decide, by decide, by decide⟩

theorem prints_success (message : String) : Prints (success message) :=
  (isStyle_of_mem (by simp)).prints_labelled (by decide) message

theorem prints_error (message : String) : Prints (error message) :=
  (isStyle_of_mem (by simp)).prints_labelled (by decide) message

theorem prints_warning (message : String) : Prints (warning message) :=
  (isStyle_of_mem (by simp)).prints_labelled (by decide) message

theorem prints_info (message : String) : Prints (info message) :=
  (isStyle_of_mem (by simp)).prints_labelled (by decide) message

/-- A plain text in a style can be shown as a line of its own. -/
theorem prints_line {style text : String}
    (hstyle : style ∈ ["success", "error", "warning", "info", "bold"]) (htext : IsPlain text) :
    Prints ("\n" ++ styled style text) := by
  have hprints : Prints ("\n" ++ styled style text ++ "") :=
    (isStyle_of_mem hstyle).prints_styled (by decide) htext (by decide)
  rwa [String.append_empty] at hprints

theorem prints_verdictLine {message : String} (h : IsPlain message) (isReady : Bool) :
    Prints (verdictLine isReady message) := by
  rw [verdictLine, h.literal_eq]
  exact prints_line (by cases isReady <;> simp) h

/-- Texts can be shown one after the other if each of them can. -/
theorem printAll_isOk {texts : List String} (h : ∀ text ∈ texts, Prints text) :
    ∃ shown, printAll texts = .ok shown := by
  obtain ⟨shown, hshown⟩ := mapM_isOk.mpr h
  exact ⟨String.join shown, by rw [printAll, hshown]; rfl⟩

/-! ## Sections -/

/-- The name of a check is plain, and stays so in upper case. -/
theorem isPlain_name (m : Check.Module) : IsPlain (Text.upper m.name) := by
  cases m <;> decide +kernel

theorem prints_findingLine (f : Finding) : Prints (findingLine f) := by
  unfold findingLine
  split
  · exact prints_error _
  · exact prints_warning _

theorem prints_routeLines (routes : List Route) : ∀ line ∈ routeLines routes, Prints line := by
  intro line hline
  unfold routeLines at hline
  split at hline
  · cases hline
  rcases List.mem_cons.mp hline with rfl | hline
  · exact prints_line (by simp) (by decide)
  · obtain ⟨route, -, rfl⟩ := List.mem_map.mp hline
    exact prints_error _

theorem isPlain_ending (ending : Ending) : IsPlain ending.text := by
  cases ending <;> decide

/-- **The section of a check can be shown.** -/
theorem printSection_isOk {m : Check.Module} {v : Verdict} (hname : v.name = m.name) :
    ∃ shown, printSection v = .ok shown := by
  have hplain := isPlain_name m
  rw [← hname] at hplain
  have hbody : ∀ line ∈ sectionBody v, Prints line := by
    intro line hline
    unfold sectionBody at hline
    split at hline
    · cases hline
    simp only [List.mem_append, List.mem_map] at hline
    rcases hline with ((⟨note, -, rfl⟩ | ⟨f, -, rfl⟩) | ⟨f, -, rfl⟩) | hroute
    · exact prints_success note
    · exact prints_findingLine f
    · exact prints_findingLine f
    · exact prints_routeLines _ line hroute
  apply printAll_isOk
  intro line hline
  simp only [sectionLines, List.cons_append, List.mem_cons, List.mem_append, List.not_mem_nil,
    or_false] at hline
  rcases hline with rfl | hline | rfl
  · exact (isStyle_of_mem (by simp)).prints_styled (by decide)
      (IsPlain.append.mpr ⟨hplain, by decide⟩) (by decide)
  · exact hbody line hline
  · exact prints_verdictLine
      (IsPlain.append.mpr ⟨IsPlain.append.mpr ⟨hplain, by decide⟩, isPlain_ending _⟩) _

/-! ## Reports -/

variable {r : Report}

theorem prints_detailLines (h : r.IsNamed) : ∀ line ∈ detailLines r, Prints line := by
  intro line hline
  rcases List.mem_cons.mp hline with rfl | hline
  · exact prints_line (by simp) (by decide)
  obtain ⟨⟨name, v⟩, hentry, hline⟩ := List.mem_flatMap.mp hline
  obtain ⟨m, rfl, -⟩ := h _ hentry
  dsimp only at hline
  split at hline
  · cases hline
  rcases List.mem_cons.mp hline with rfl | hline
  · exact prints_line (by simp) (IsPlain.append.mpr ⟨isPlain_name m, by decide⟩)
  · obtain ⟨f, -, rfl⟩ := List.mem_map.mp hline
    exact prints_findingLine f

theorem printSections_isOk (h : r.IsNamed) :
    ∃ sections, r.verdicts.mapM printSection = .ok sections := by
  refine mapM_isOk.mpr fun v hv => ?_
  obtain ⟨entry, hentry, rfl⟩ := List.mem_map.mp hv
  obtain ⟨m, -, hname, -⟩ := h entry hentry
  exact printSection_isOk hname

end Preflight.Console
