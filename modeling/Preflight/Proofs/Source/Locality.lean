import Preflight.Proofs.Source.Written

/-!
# Routes of a part of a text

What stands around a text has no say in the routes that are found in it, if nothing before it is
left open (`IsClosed`): a call that starts there would have to go over a semicolon before its first
quotation mark (`read?_eq_none_of_closed`).

What follows may close what the text leaves open, and so add routes behind those of the text, but
none before or between them: where a call is left open there is no second quotation mark, so there
is no other call behind it (`routesFrom_isPrefix`).

The law (`extract_local`) says both, of each kind of registration. It does not say so of the two
kinds together, as the routes of the first that are added come before all of the second.
-/

set_option autoImplicit false

namespace Preflight.Route

open Pattern

variable {receivers : List Receiver}

/-- The route on a later line. -/
def later (lines : Nat) (r : Route) : Route := { r with line := r.line + lines }

/-! ## From call to call -/

/-- A text is empty, or starts with a call, or starts with a character at which none starts. -/
theorem induction_on_calls (receivers : List Receiver) {motive : List Char → Prop}
    (nil : motive [])
    (call : ∀ (c : Call receivers) (rest : List Char), motive rest → motive (c.text ++ rest))
    (pass : ∀ (d : Char) (rest : List Char), (kind receivers).read? (d :: rest) = none →
      motive rest → motive (d :: rest)) (text : List Char) : motive text := by
  induction hlength : text.length using Nat.strong_induction_on generalizing text with
  | _ n ih =>
    subst hlength
    cases text with
    | nil => exact nil
    | cons d rest =>
      cases hread : (kind receivers).read? (d :: rest) with
      | none => exact pass d rest hread (ih rest.length (Nat.lt_succ_self _) rest rfl)
      | some r =>
        obtain ⟨part, kept, behind, hreads, htext, -⟩ := reads_of_read? hread
        have hpart := List.length_pos_of_ne_nil (isWide_kind receivers hreads)
        obtain ⟨c, rfl, -⟩ := reads_kind_iff.mp hreads
        rw [htext] at ih ⊢
        refine call c behind (ih behind.length ?_ behind rfl)
        rw [List.length_append]
        omega

/-- Behind the end of a text there is no route. -/
theorem routesFrom_nil (file : String) (front : List Char) :
    routesFrom receivers file front [] = [] := by
  simp [routesFrom, findAllFrom]

/-- A character at which no call starts is passed over. -/
theorem routesFrom_pass {d : Char} {rest : List Char}
    (h : (kind receivers).read? (d :: rest) = none) (file : String) (front : List Char) :
    routesFrom receivers file front (d :: rest) =
      routesFrom receivers file (front ++ [d]) rest := by
  rw [routesFrom, findAllFrom, h, routesFrom, List.append_assoc, List.length_append]
  rfl

/-- What stands before a text moves its routes down. -/
theorem routesFrom_later (file : String) (before rest : List Char) : ∀ front : List Char,
    routesFrom receivers file (before ++ front) rest =
      (routesFrom receivers file front rest).map (later (before.count '\n')) := by
  induction rest using induction_on_calls receivers with
  | nil =>
    intro front
    rw [routesFrom_nil, routesFrom_nil, List.map_nil]
  | call c rest ih =>
    intro front
    have hline : (before ++ front).count '\n' + 1 = front.count '\n' + 1 + before.count '\n' := by
      rw [List.count_append]
      omega
    rw [routesFrom_call, routesFrom_call, List.map_cons, List.append_assoc, ih, hline]
    rfl
  | pass d rest hnone ih =>
    intro front
    rw [routesFrom_pass hnone, routesFrom_pass hnone, List.append_assoc, ih]

/-! ## What stands before -/

/-- What stands before the first quotation mark of a call. -/
def Call.lead (c : Call receivers) : List Char := c.head ++ '(' :: c.behind

/-- A call up to its first quotation mark and from there. -/
theorem Call.text_eq_lead (c : Call receivers) :
    c.text = c.lead ++ c.opening :: (c.path ++ [c.closing]) := by
  simp [c.text_eq_head, Call.lead]

/-- A call has neither a quotation mark nor a semicolon before its first quotation mark. -/
theorem Call.lead_plain (c : Call receivers) : ∀ d ∈ c.lead, isQuote d = false ∧ d ≠ ';' := by
  have hblank : ∀ d, Text.isBlank d = true → (!isQuote d && d != ';') = true := by
    intro d hd
    have hsemicolon : d ≠ ';' := by
      rintro rfl
      exact absurd hd (by decide)
    simp [isQuote_of_isBlank hd, hsemicolon]
  have hplain : ∀ d ∈ c.lead, (!isQuote d && d != ';') = true := by
    intro d hd
    rcases List.mem_append.mp hd with hhead | hbehind
    · have hname : c.receiver.name.toList.all (fun d => !isQuote d && d != ';') = true := by
        cases c.receiver <;> decide
      exact c.forall_mem_head hname (by decide) (by decide) hblank d hhead
    · rcases List.mem_cons.mp hbehind with rfl | hbehind
      · decide
      · exact hblank d (c.behind_blank d hbehind)
  exact fun d hd => by simpa using hplain d hd

/-- A text in which nothing is left open that a quotation mark would complete: it is empty, or it
has no quotation marks and ends in a semicolon. -/
def IsClosed (text : String) : Prop :=
  text = "" ∨ Unquoted text ∧ text.toList.getLast? = some ';'

instance : DecidablePred IsClosed := fun text =>
  inferInstanceAs (Decidable (text = "" ∨ Unquoted text ∧ text.toList.getLast? = some ';'))

/-- No call starts where a semicolon comes before any quotation mark. -/
theorem read?_eq_none_of_closed {part : List Char} (hquote : ∀ d ∈ part, isQuote d = false)
    (hsemicolon : ';' ∈ part) (rest : List Char) :
    (kind receivers).read? (part ++ rest) = none := by
  refine read?_kind_eq_none fun c rest' heq => ?_
  rw [c.text_eq_lead, List.append_assoc, List.cons_append] at heq
  rcases List.append_eq_append_iff.mp heq with ⟨more, hlead, -⟩ | ⟨more, hpart, hrest⟩
  · apply (c.lead_plain ';' ?_).2 rfl
    rw [hlead]
    exact List.mem_append_left more hsemicolon
  · cases more with
    | nil =>
      rw [List.append_nil] at hpart
      exact (c.lead_plain ';' (hpart ▸ hsemicolon)).2 rfl
    | cons d more =>
      obtain ⟨rfl, -⟩ := List.cons.inj hrest
      have hplain := hquote c.opening (by simp [hpart])
      rw [c.opening_quote] at hplain
      cases hplain

/-- A closed text is passed over. -/
theorem routesFrom_closed {before : String} (h : IsClosed before) (file : String)
    (rest : List Char) :
    routesFrom receivers file [] (before.toList ++ rest) =
      routesFrom receivers file before.toList rest := by
  rcases h with rfl | ⟨hplain, hlast⟩
  · rfl
  · refine routesFrom_of_none (fun behind hne hsuffix => ?_) file []
    refine read?_eq_none_of_closed (fun d hd => hplain d (hsuffix.subset hd)) ?_ rest
    obtain ⟨front, hfront⟩ := hsuffix
    rw [← hfront, List.getLast?_append_of_ne_nil _ hne] at hlast
    exact List.mem_of_getLast? hlast

/-! ## What follows -/

/-- A text that leaves a call open has one quotation mark of it at most. -/
theorem Call.countP_le_one {c : Call receivers} {text more rest : List Char}
    (h : text ++ more = c.text ++ rest) (hopen : text.length < c.text.length) :
    text.countP isQuote ≤ 1 := by
  have htext : c.text = c.lead ++ c.opening :: c.path ++ [c.closing] := by
    simp [c.text_eq_lead]
  have hlead : c.lead.countP isQuote = 0 :=
    List.countP_eq_zero.mpr fun d hd => by simp [(c.lead_plain d hd).1]
  have hpath : c.path.countP isQuote = 0 :=
    List.countP_eq_zero.mpr fun d hd => by simp [c.path_plain d hd]
  have hstart : text <+: c.lead ++ c.opening :: c.path := by
    refine List.prefix_of_prefix_length_le ⟨more, h⟩ ⟨c.closing :: rest, by simp [htext]⟩ ?_
    rw [htext, List.length_append, List.length_singleton] at hopen
    exact Nat.le_of_lt_succ hopen
  calc text.countP isQuote
    _ ≤ (c.lead ++ c.opening :: c.path).countP isQuote := hstart.sublist.countP_le
    _ = 1 := by simp [List.countP_append, hlead, hpath, c.opening_quote]

/-- **The routes of a text are the first routes of every text that starts with it.** -/
theorem routesFrom_isPrefix (file : String) (more rest : List Char) : ∀ front : List Char,
    routesFrom receivers file front rest <+: routesFrom receivers file front (rest ++ more) := by
  induction rest using induction_on_calls receivers with
  | nil =>
    intro front
    rw [routesFrom_nil]
    exact List.nil_prefix
  | call c rest ih =>
    intro front
    rw [List.append_assoc, routesFrom_call, routesFrom_call]
    exact List.cons_prefix_cons.mpr ⟨rfl, ih _⟩
  | pass d rest hnone ih =>
    intro front
    cases hread : (kind receivers).read? (d :: rest ++ more) with
    | none =>
      rw [List.cons_append] at hread ⊢
      rw [routesFrom_pass hnone, routesFrom_pass hread]
      exact ih _
    | some r =>
      -- A call that ends behind the text: no other call is left in it.
      obtain ⟨part, kept, behind, hreads, htext, -⟩ := reads_of_read? hread
      obtain ⟨c, rfl, -⟩ := reads_kind_iff.mp hreads
      have hopen : (d :: rest).length < c.text.length := by
        by_contra hlength
        obtain ⟨others, hothers⟩ := List.prefix_of_prefix_length_le ⟨behind, htext.symm⟩
          (List.prefix_append (d :: rest) more) (Nat.le_of_not_lt hlength)
        exact read?_eq_none_iff.mp hnone _ _ others (reads_kind_iff.mpr ⟨c, rfl, rfl⟩) hothers.symm
      rw [routesFrom_eq_nil (Call.countP_le_one htext hopen)]
      exact List.nil_prefix

/-! ## The law -/

/-- **Routes are found where they stand.** Behind a closed text, and whatever follows, the routes of
a text are the first routes of each kind that are found, moved down by the lines before the text;
where nothing follows they are all the routes, in the same order. -/
theorem extract_local {before : String} (hbefore : IsClosed before) (code behind file : String) :
    (∀ kind ∈ registrations,
      (ofKind code.toList file kind).map (later (before.toList.count '\n')) <+:
        ofKind (before ++ code ++ behind).toList file kind) ∧
    extract (before ++ code) file =
      (extract code file).map (later (before.toList.count '\n')) := by
  have hmoved (receivers : List Receiver) (rest : List Char) :
      ofKind (before.toList ++ rest) file (kind receivers) =
        (ofKind rest file (kind receivers)).map (later (before.toList.count '\n')) := by
    have hlater := @routesFrom_later receivers file before.toList rest []
    rw [List.append_nil] at hlater
    rw [ofKind_eq_routesFrom, routesFrom_closed hbefore, hlater, ofKind_eq_routesFrom]
  have hkind (receivers : List Receiver) :
      (ofKind code.toList file (kind receivers)).map (later (before.toList.count '\n')) <+:
        ofKind (before ++ code ++ behind).toList file (kind receivers) := by
    rw [String.toList_append, String.toList_append, List.append_assoc, hmoved]
    exact (routesFrom_isPrefix file behind.toList code.toList []).map _
  constructor
  · intro kind hmem
    rw [registrations_eq, List.mem_pair] at hmem
    rcases hmem with rfl | rfl
    · exact hkind onApp
    · exact hkind onRoute
  · rw [extract_eq, extract_eq, String.toList_append, hmoved, hmoved, List.map_append]

/-- For a text that leaves a registration open, which the text behind it closes. -/
theorem extract_local_open :
    let before := "let n = 1;\n;"
    let code := "app.get('/a', h)\nrouter.put('/b"
    let behind := "', k)"
    IsClosed before ∧
    (∀ kind ∈ registrations,
      (ofKind code.toList "a.js" kind).map (later (before.toList.count '\n')) <+:
        ofKind (before ++ code ++ behind).toList "a.js" kind) ∧
    extract (before ++ code) "a.js" =
      (extract code "a.js").map (later (before.toList.count '\n')) :=
  ⟨by decide, extract_local (by decide) _ _ _⟩

/-- The registration that is left open is found behind the others, where it is closed. -/
example : extract "let n = 1;\n;app.get('/a', h)\nrouter.put('/b" = [⟨"GET", "/a", 2, ""⟩] ∧
    extract "let n = 1;\n;app.get('/a', h)\nrouter.put('/b', k)" =
      [⟨"GET", "/a", 2, ""⟩, ⟨"PUT", "/b", 3, ""⟩] := by
  decide +kernel

end Preflight.Route
