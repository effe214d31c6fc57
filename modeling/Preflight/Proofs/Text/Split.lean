/-!
# Parts between separators

What stands between separators holds none itself (`notMem_of_mem_splitOn`) and nothing new
(`mem_of_mem_splitOn`). The other way round, what holds no separator stands in joined parts exactly
if it stands in one of them (`infix_intercalate_iff`).
-/

set_option autoImplicit false

namespace Preflight.Text

section

variable {α : Type} [BEq α] [LawfulBEq α] {separator : α} {items part : List α}

/-- No part between separators holds one. -/
theorem notMem_of_mem_splitOn (h : part ∈ items.splitOn separator) : separator ∉ part := by
  induction items generalizing part with
  | nil =>
    rw [List.splitOn_nil, List.mem_singleton] at h
    simp [h]
  | cons c rest ih =>
    rw [List.splitOn_cons_eq_if_modifyHead] at h
    split at h
    · rcases List.mem_cons.mp h with rfl | h
      · simp
      · exact ih h
    · rename_i hc
      obtain ⟨first, others, hsplit⟩ :=
        List.exists_cons_of_ne_nil (List.splitOn_ne_nil separator rest)
      rw [hsplit, List.modifyHead_cons] at h
      rcases List.mem_cons.mp h with rfl | h
      · have hfirst : separator ∉ first := ih (by simp [hsplit])
        simp only [List.mem_cons, not_or]
        exact ⟨fun heq => hc (by rw [← heq]; exact beq_self_eq_true _), hfirst⟩
      · exact ih (by simp [hsplit, h])

omit [LawfulBEq α] in
/-- What a part holds was there before. -/
theorem mem_of_mem_splitOn (h : part ∈ items.splitOn separator) {a : α} (ha : a ∈ part) :
    a ∈ items := by
  induction items generalizing part with
  | nil =>
    rw [List.splitOn_nil, List.mem_singleton] at h
    rwa [← h]
  | cons c rest ih =>
    rw [List.splitOn_cons_eq_if_modifyHead] at h
    split at h
    · rcases List.mem_cons.mp h with rfl | h
      · cases ha
      · exact List.mem_cons_of_mem c (ih h ha)
    · obtain ⟨first, others, hsplit⟩ :=
        List.exists_cons_of_ne_nil (List.splitOn_ne_nil separator rest)
      rw [hsplit, List.modifyHead_cons] at h
      rcases List.mem_cons.mp h with rfl | h
      · rcases List.mem_cons.mp ha with rfl | ha
        · exact List.mem_cons_self
        · exact List.mem_cons_of_mem c (ih (by simp [hsplit]) ha)
      · exact List.mem_cons_of_mem c (ih (by simp [hsplit, h]) ha)

end

/-! ## Joined parts -/

variable {separator : Char} {part : List Char}

/-- A text that starts with a separator has no start without one. -/
theorem eq_nil_of_prefix_cons {rest : List Char} (h : separator ∉ part)
    (hstart : part <+: separator :: rest) : part = [] := by
  obtain rfl | ⟨tail, rfl, -⟩ := List.prefix_cons_iff.mp hstart
  · rfl
  · exact absurd List.mem_cons_self h

/-- What holds no separator stands on one side of it. -/
theorem infix_append_cons_iff {first rest : List Char} (h : separator ∉ part) :
    part <:+: first ++ separator :: rest ↔ part <:+: first ∨ part <:+: rest := by
  rw [List.infix_append_iff, List.infix_cons_iff]
  constructor
  · rintro (hfirst | (hstart | hrest) | ⟨front, back, rfl, hfront, hback⟩)
    · exact .inl hfirst
    · rw [eq_nil_of_prefix_cons h hstart]
      exact .inl (List.nil_infix)
    · exact .inr hrest
    · rw [List.mem_append, not_or] at h
      rw [eq_nil_of_prefix_cons h.2 hback, List.append_nil]
      exact .inl hfront.isInfix
  · rintro (hfirst | hrest)
    · exact .inl hfirst
    · exact .inr (.inl (.inr hrest))

/-- So what holds no separator stands in a joined text exactly if it stands in one of the parts. -/
theorem infix_intercalate_iff {parts : List (List Char)} (h : separator ∉ part) (hne : part ≠ []) :
    part <:+: [separator].intercalate parts ↔ ∃ whole ∈ parts, part <:+: whole := by
  induction parts with
  | nil => simp [hne]
  | cons first parts ih =>
    cases parts with
    | nil => simp
    | cons second parts =>
      rw [List.intercalate_cons_cons, List.append_assoc, List.singleton_append,
        infix_append_cons_iff h, ih]
      simp only [List.mem_cons, or_and_right, exists_or, exists_eq_left]

end Preflight.Text
