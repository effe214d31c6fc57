import Mathlib.Data.List.Infix
import Preflight.Proofs.Source.Registration

/-!
# Registrations as they are written

A registration is written as an object, a point, a verb, a parenthesis, a literal between two of the
same quotation marks, a comma and a handler (`written`).

What a literal may hold is more than what a path may: the path of a call ends at the first quotation
mark of any kind, so it is the literal exactly where there is none in it (`extract_written`).

A list of registrations, a line each, is read back entry by entry where no path holds a quotation
mark, a parenthesis or a line feed (`extract_source`). The scan of one kind passes over the lines of
the other (`Entry.routesFrom_line_of_notMem`): a call shows its receiver before its point, and no
other receiver stands there; and it shows a parenthesis before any quotation mark, so that none
starts in a path.
-/

set_option autoImplicit false

namespace Preflight.Route

open Pattern

variable {receivers : List Receiver}

/-! ## Where no call is -/

/-- A parenthesis or a quotation mark. -/
def isMark (c : Char) : Bool := c == '(' || isQuote c

/-- What stands before the parenthesis of a call. -/
def Call.head (c : Call receivers) : List Char :=
  c.receiver.name.toList ++ '.' :: (c.verb.toList ++ c.before)

/-- A call up to its parenthesis and from there. -/
theorem Call.text_eq_head (c : Call receivers) :
    c.text = c.head ++ '(' :: (c.behind ++ c.opening :: (c.path ++ [c.closing])) := by
  simp [Call.text, Call.head]

/-- A blank is no quotation mark. -/
theorem isQuote_of_isBlank {c : Char} (h : Text.isBlank c = true) : isQuote c = false := by
  refine Bool.eq_false_iff.mpr fun hquote => ?_
  rw [(not_isBlank_of_isQuote hquote).1] at h
  cases h

/-- What holds of the characters of receivers and verbs, of a point and of blanks holds of what
stands before the parenthesis of a call. -/
theorem Call.forall_mem_head (c : Call receivers) {P : Char → Bool}
    (hname : c.receiver.name.toList.all P = true) (hverbs : ∀ v ∈ verbs, v.toList.all P = true)
    (hpoint : P '.' = true) (hblank : ∀ d, Text.isBlank d = true → P d = true) :
    ∀ d ∈ c.head, P d = true := by
  intro d hd
  simp only [Call.head, List.mem_append, List.mem_cons] at hd
  obtain hd | rfl | hd | hd := hd
  · exact List.all_eq_true.mp hname d hd
  · exact hpoint
  · exact List.all_eq_true.mp (hverbs _ c.verb_mem) d hd
  · exact hblank d (c.before_blank d hd)

/-- The parenthesis is the first mark of a call. -/
theorem Call.head_plain (c : Call receivers) : ∀ d ∈ c.head, (!isMark d) = true := by
  refine c.forall_mem_head ?_ (by decide) (by decide) fun d hd => ?_
  · cases c.receiver <;> decide
  · rw [Bool.not_eq_true', isMark, Bool.or_eq_false_iff]
    refine ⟨beq_eq_false_iff_ne.mpr ?_, isQuote_of_isBlank hd⟩
    rintro rfl
    exact absurd hd (by decide)

/-- A call has two quotation marks. -/
theorem Call.two_le_countP (c : Call receivers) : 2 ≤ c.text.countP isQuote := by
  rw [Call.text_eq_head]
  simp only [List.countP_append, List.countP_cons, List.countP_nil, c.opening_quote,
    c.closing_quote, if_true]
  omega

/-- Nothing is read where no call starts. -/
theorem read?_kind_eq_none {text : List Char}
    (h : ∀ (c : Call receivers) (rest : List Char), text ≠ c.text ++ rest) :
    (kind receivers).read? text = none := by
  refine read?_eq_none_iff.mpr fun part kept rest hreads => ?_
  obtain ⟨c, rfl, -⟩ := reads_kind_iff.mp hreads
  exact h c rest

/-- A character that a receiver starts with. -/
def isInitial (c : Char) : Bool := c == 'a' || c == 'r' || c == 'R'

/-- No call starts with another character. -/
theorem read?_eq_none_of_initial {d : Char} (hd : isInitial d = false) (rest : List Char) :
    (kind receivers).read? (d :: rest) = none := by
  refine read?_kind_eq_none fun c rest' heq => ?_
  have hinitial : c.receiver.name.toList.head?.all isInitial = true := by
    cases c.receiver <;> decide
  have hsome : c.receiver.name.toList ≠ [] := by
    cases c.receiver <;> decide
  have hhead := congrArg List.head? heq
  rw [Call.text, List.append_assoc, List.head?_append_of_ne_nil _ hsome, List.head?_cons] at hhead
  rw [← hhead, Option.all_some, hd] at hinitial
  cases hinitial

/-- No call starts where a quotation mark comes before any parenthesis. -/
theorem read?_eq_none_of_quote {front : List Char} {quote : Char}
    (hfront : ∀ d ∈ front, isMark d = false) (hquote : isQuote quote = true) (rest : List Char) :
    (kind receivers).read? (front ++ quote :: rest) = none := by
  refine read?_kind_eq_none fun c rest' heq => ?_
  rw [Call.text_eq_head, List.append_assoc, List.cons_append] at heq
  obtain ⟨-, hmark⟩ := @append_inj_of_stop (fun d => !isMark d) _ _ _ _
    (fun d hd => by simp [hfront d hd]) c.head_plain
    (by rintro d ⟨⟩; simp [isMark, hquote]) (by rintro d ⟨⟩; decide) heq
  exact (not_isBlank_of_isQuote hquote).2 (List.cons.inj hmark).1

/-- No call on another receiver starts in front of the parenthesis of a call. -/
theorem read?_eq_none_of_head {r : Receiver} (hr : r ∉ receivers) {verb : String}
    (hverb : verb ∈ verbs) {behind : List Char}
    (hbehind : behind <:+ r.name.toList ++ '.' :: verb.toList) (rest : List Char) :
    (kind receivers).read? (behind ++ '(' :: rest) = none := by
  -- A receiver and its point start nowhere in a call but at the start of a call on it.
  have hpoint : ∀ r s : Receiver, ∀ v ∈ verbs, ∀ t ∈ (r.name.toList ++ '.' :: v.toList).tails,
      s.name.toList ++ ['.'] <+: t → s = r := by
    intro r s
    cases r <;> cases s <;> decide
  have hplain : ∀ r : Receiver, ∀ v ∈ verbs,
      (r.name.toList ++ '.' :: v.toList).all (!isMark ·) = true := by
    intro r
    cases r <;> decide
  refine read?_kind_eq_none fun c rest' heq => hr ?_
  rw [Call.text_eq_head, List.append_assoc, List.cons_append] at heq
  obtain ⟨rfl, -⟩ := @append_inj_of_stop (fun d => !isMark d) _ _ _ _
    (fun d hd => List.all_eq_true.mp (hplain r verb hverb) d (hbehind.subset hd)) c.head_plain
    (by rintro d ⟨⟩; decide) (by rintro d ⟨⟩; decide) heq
  have hstart : c.receiver.name.toList ++ ['.'] <+: c.head :=
    ⟨c.verb.toList ++ c.before, by simp [Call.head]⟩
  rw [← hpoint r c.receiver verb hverb c.head ((List.mem_tails _ _).mpr hbehind) hstart]
  exact c.receiver_mem

/-! ## Passing over a text -/

/-- The routes of a kind behind a part of a text that was passed. -/
def routesFrom (receivers : List Receiver) (file : String) (front rest : List Char) : List Route :=
  ((kind receivers).findAllFrom 0 front.length rest).map (ofOccurrence (front ++ rest) file)

/-- The routes of a text are those behind nothing. -/
theorem ofKind_eq_routesFrom (code : List Char) (file : String) :
    ofKind code file (kind receivers) = routesFrom receivers file [] code := rfl

/-- A call gives its route, and the scan goes on behind it. -/
theorem routesFrom_call (c : Call receivers) (file : String) (front rest : List Char) :
    routesFrom receivers file front (c.text ++ rest) =
      ⟨c.verb.toUpper, String.ofList c.path, front.count '\n' + 1, file⟩ ::
        routesFrom receivers file (front ++ c.text) rest := by
  have hreads : (kind receivers).Reads c.text [c.verb.toList, c.path] rest :=
    reads_kind_iff.mpr ⟨c, rfl, rfl⟩
  have hfound := findAllFrom_of_some (isWide_kind receivers hreads)
    ((isDecided_kind receivers).read?_eq hreads) front.length
  have hroute := Registration.ofOccurrence_occurrence (front ++ (c.text ++ rest)) file
    (⟨front.length, c⟩ : Registration receivers)
  rw [Registration.occurrence, Registration.route, List.take_left] at hroute
  rw [routesFrom, hfound, List.map_cons, hroute, routesFrom, List.append_assoc,
    List.length_append]

/-- A part in which no call starts is passed over. -/
theorem routesFrom_of_none {part rest : List Char}
    (h : ∀ behind, behind ≠ [] → behind <:+ part → (kind receivers).read? (behind ++ rest) = none)
    (file : String) (front : List Char) :
    routesFrom receivers file front (part ++ rest) =
      routesFrom receivers file (front ++ part) rest := by
  rw [routesFrom, findAllFrom_of_none part h, routesFrom, List.append_assoc, List.length_append]

/-- So are characters that start no receiver. -/
theorem routesFrom_of_initial {part : List Char} (hpart : part.all (!isInitial ·) = true)
    (file : String) (front rest : List Char) : routesFrom receivers file front (part ++ rest) =
      routesFrom receivers file (front ++ part) rest := by
  refine routesFrom_of_none (fun behind hne hsuffix => ?_) file front
  obtain ⟨d, behind, rfl⟩ := List.exists_cons_of_ne_nil hne
  have hd := List.all_eq_true.mp hpart d (hsuffix.subset List.mem_cons_self)
  exact read?_eq_none_of_initial (by simpa using hd) _

/-- A call on another receiver is passed over up to its path. -/
theorem routesFrom_opening {r : Receiver} (hr : r ∉ receivers) {verb : String}
    (hverb : verb ∈ verbs) {quote : Char} (hquote : isQuote quote = true) (file : String)
    (front rest : List Char) :
    routesFrom receivers file front
        ((r.name.toList ++ '.' :: verb.toList) ++ ['(', quote] ++ rest) =
      routesFrom receivers file (front ++ ((r.name.toList ++ '.' :: verb.toList) ++ ['(', quote]))
        rest := by
  have hinitial : ['(', quote].all (!isInitial ·) = true := by
    simp only [isQuote, Bool.or_eq_true, beq_iff_eq] at hquote
    obtain (rfl | rfl) | rfl := hquote <;> decide
  have hhead : ∀ behind, behind ≠ [] → behind <:+ r.name.toList ++ '.' :: verb.toList →
      (kind receivers).read? (behind ++ (['(', quote] ++ rest)) = none :=
    fun behind _ hsuffix => read?_eq_none_of_head hr hverb hsuffix (quote :: rest)
  rw [List.append_assoc, routesFrom_of_none hhead, routesFrom_of_initial hinitial,
    List.append_assoc front]

/-- There is no route behind the last quotation mark but one. -/
theorem routesFrom_eq_nil {rest : List Char} (h : rest.countP isQuote ≤ 1) (file : String)
    (front : List Char) : routesFrom receivers file front rest = [] := by
  have hnone : ∀ behind, behind ≠ [] → behind <:+ rest →
      (kind receivers).read? (behind ++ []) = none := by
    refine fun behind _ hsuffix => read?_kind_eq_none fun c rest' heq => ?_
    have htwo := c.two_le_countP
    have hone : behind.countP isQuote ≤ rest.countP isQuote := hsuffix.sublist.countP_le
    have hcount := congrArg (List.countP isQuote) heq
    rw [List.append_nil, List.countP_append] at hcount
    omega
  have hpass := routesFrom_of_none hnone file front
  rw [List.append_nil] at hpass
  rw [hpass]
  simp [routesFrom, findAllFrom]

/-! ## One registration -/

/-- A registration, as it is written. -/
def written (r : Receiver) (verb : String) (quote : Char) (literal handler : String) : String :=
  r.name ++ "." ++ verb ++ "(" ++ String.singleton quote ++ literal ++ String.singleton quote ++
    "," ++ handler

/-- The characters of a registration. -/
theorem toList_written (r : Receiver) (verb : String) (quote : Char) (literal handler : String) :
    (written r verb quote literal handler).toList = (r.name.toList ++ '.' :: verb.toList) ++
      ['(', quote] ++ (literal.toList ++ quote :: ',' :: handler.toList) := by
  simp [written]

/-- There is no quotation mark in a text. -/
def Unquoted (text : String) : Prop := ∀ c ∈ text.toList, isQuote c = false

instance : DecidablePred Unquoted := fun text =>
  decidable_of_iff (text.toList.all (!isQuote ·) = true) (by simp [Unquoted])

/-- A literal up to its first quotation mark. -/
def upToQuote (literal : String) : String :=
  String.ofList (literal.toList.takeWhile fun c => !isQuote c)

/-- It is the whole literal where no quotation mark is in it. -/
theorem upToQuote_eq_self_iff {literal : String} :
    upToQuote literal = literal ↔ Unquoted literal := by
  rw [← String.toList_inj, upToQuote, String.toList_ofList, List.takeWhile_eq_self_iff]
  simp [Unquoted]

/-- Behind that part of it a literal has a quotation mark, or the one that closes it. -/
theorem exists_closing (literal : String) {quote : Char} (hquote : isQuote quote = true)
    (after : List Char) : ∃ closing rest, isQuote closing = true ∧
      literal.toList ++ quote :: after = (upToQuote literal).toList ++ closing :: rest ∧
      (upToQuote literal = literal → rest = after) := by
  have hsplit : literal.toList =
      (upToQuote literal).toList ++ literal.toList.dropWhile fun c => !isQuote c := by
    rw [upToQuote, String.toList_ofList, List.takeWhile_append_dropWhile]
  cases hrest : literal.toList.dropWhile fun c => !isQuote c with
  | nil =>
    rw [hrest, List.append_nil] at hsplit
    exact ⟨quote, after, hquote, by rw [← hsplit], fun _ => rfl⟩
  | cons closing rest =>
    rw [hrest] at hsplit
    have hclosing := notMem_head?_dropWhile (fun c => !isQuote c) literal.toList closing
      (by rw [hrest]; rfl)
    refine ⟨closing, rest ++ quote :: after, by simpa using hclosing, ?_, fun hself => ?_⟩
    · rw [hsplit, List.append_assoc, List.cons_append]
    · have hlength := congrArg List.length hsplit
      rw [hself, List.length_append, List.length_cons] at hlength
      omega

/-- The path of a route has no quotation mark in it. -/
theorem unquoted_path {code file : String} {r : Route} (h : r ∈ extract code file) :
    Unquoted r.path := by
  refine forall_mem_extract (P := fun r => Unquoted r.path) ?_ r h
  intro receivers s
  simpa [Unquoted, Registration.route] using s.call.path_plain

/-- A registration on `app` gives a route with its literal up to the first quotation mark, if there
is anything before it, and then what is found behind that. -/
theorem ofKind_written {verb : String} (hverb : verb ∈ verbs) {quote : Char}
    (hquote : isQuote quote = true) {literal : String} (hliteral : upToQuote literal ≠ "")
    (handler file : String) : ∃ front rest : List Char,
      ofKind (written .app verb quote literal handler).toList file (kind onApp) =
        ⟨verb.toUpper, upToQuote literal, 1, file⟩ :: routesFrom onApp file front rest ∧
      (upToQuote literal = literal → rest = ',' :: handler.toList) := by
  obtain ⟨closing, rest, hclosing, hsplit, hself⟩ :=
    exists_closing literal hquote (',' :: handler.toList)
  have hplain : ∀ c ∈ (upToQuote literal).toList, isQuote c = false := by
    intro c hc
    rw [upToQuote, String.toList_ofList] at hc
    simpa using List.mem_takeWhile_imp hc
  let c : Call onApp := ⟨.app, verb, [], [], quote, (upToQuote literal).toList, closing, by decide,
    hverb, nofun, nofun, hquote, by simpa using hliteral, hplain, hclosing⟩
  have htext : (written .app verb quote literal handler).toList = c.text ++ rest := by
    rw [toList_written, hsplit]
    simp [c, Call.text]
  refine ⟨[] ++ c.text, rest, ?_, hself⟩
  rw [htext, ofKind_eq_routesFrom, routesFrom_call, String.ofList_toList]
  rfl

/-- **The path of a route is the literal of its call exactly if there is no quotation mark in it**,
of whatever kind. It ends at the first one, so that a literal which does not start with one gives
its part up to there. -/
theorem extract_written {verb : String} (hverb : verb ∈ verbs) {quote : Char}
    (hquote : isQuote quote = true) {literal : String} (hliteral : literal ≠ "") {handler : String}
    (hhandler : Unquoted handler) (file : String) :
    ((∃ r, extract (written .app verb quote literal handler) file = [r] ∧ r.path = literal) ↔
      Unquoted literal) ∧
    (upToQuote literal ≠ "" → (extract (written .app verb quote literal handler) file).head? =
      some ⟨verb.toUpper, upToQuote literal, 1, file⟩) := by
  refine ⟨⟨?_, fun hplain => ?_⟩, fun hpart => ?_⟩
  · rintro ⟨r, hextract, rfl⟩
    exact unquoted_path (hextract ▸ List.mem_singleton_self r)
  · have hself := upToQuote_eq_self_iff.mpr hplain
    have hpart : upToQuote literal ≠ "" := by rwa [hself]
    obtain ⟨front, rest, hfirst, hrest⟩ := ofKind_written hverb hquote hpart handler file
    have hnone : literal.toList.countP isQuote = 0 :=
      List.countP_eq_zero.mpr (by simpa [Unquoted] using hplain)
    have hnone' : (',' :: handler.toList).countP isQuote = 0 := by
      refine List.countP_eq_zero.mpr (List.forall_mem_cons.mpr ⟨by decide, ?_⟩)
      simpa [Unquoted] using hhandler
    have hsecond : ofKind (written .app verb quote literal handler).toList file (kind onRoute) =
        [] := by
      rw [toList_written, ofKind_eq_routesFrom, routesFrom_opening (by decide) hverb hquote]
      refine routesFrom_eq_nil ?_ file _
      rw [List.countP_append, hnone, List.countP_cons, hnone', if_pos hquote]
    refine ⟨⟨verb.toUpper, literal, 1, file⟩, ?_, rfl⟩
    rw [extract_eq, hfirst, hsecond, hrest hself, hself,
      routesFrom_eq_nil (hnone'.trans_le (Nat.zero_le 1))]
    rfl
  · obtain ⟨front, rest, hfirst, -⟩ := ofKind_written hverb hquote hpart handler file
    rw [extract_eq, hfirst]
    rfl

/-- For a literal with an apostrophe between double quotation marks. -/
theorem extract_written_apostrophe :
    ("get" ∈ verbs ∧ isQuote '\x22' = true ∧ "/it\x27s" ≠ "" ∧ Unquoted " h)") ∧
    ((∃ r, extract (written .app "get" '\x22' "/it\x27s" " h)") "" = [r] ∧ r.path = "/it\x27s") ↔
      Unquoted "/it\x27s") ∧
    (upToQuote "/it\x27s" ≠ "" →
      (extract (written .app "get" '\x22' "/it\x27s" " h)") "").head? =
        some ⟨"get".toUpper, upToQuote "/it\x27s", 1, ""⟩) :=
  ⟨by decide, extract_written (by decide) (by decide) (by decide) (by decide) ""⟩

/-- So a literal between two quotation marks is cut short by one of another kind. -/
theorem extract_written_cut : ¬ ∀ (verb : String) (quote : Char) (literal : String),
    verb ∈ verbs → isQuote quote = true → literal ≠ "" →
    quote ∉ literal.toList ∧ '\\' ∉ literal.toList ∧ '\n' ∉ literal.toList →
    ∃ r, extract (written .app verb quote literal " h)") = [r] ∧ r.path = literal := by
  intro h
  obtain ⟨r, hextract, hpath⟩ := h "get" '\x22' "/it\x27s" (by decide) (by decide) (by decide)
    (by decide)
  have hcut : extract (written .app "get" '\x22' "/it\x27s" " h)") = [⟨"GET", "/it", 1, ""⟩] := by
    decide +kernel
  obtain rfl := List.singleton_inj.mp (hcut.symm.trans hextract)
  exact absurd hpath (by decide)

/-! ## A list of registrations -/

/-- A registration of a list: its path has no quotation mark, no opening parenthesis and no line
feed in it. -/
structure Entry where
  receiver : Receiver
  verb : String
  quote : Char
  path : String
  verb_mem : verb ∈ verbs
  quote_quote : isQuote quote = true
  path_ne : path ≠ ""
  path_plain : ∀ c ∈ path.toList, isQuote c = false ∧ c ≠ '(' ∧ c ≠ '\n'

namespace Entry

/-- The line of an entry. -/
def line (e : Entry) : String := written e.receiver e.verb e.quote e.path " h);"

/-- The route of an entry on a line. -/
def route (e : Entry) (line : Nat) (file : String) : Route :=
  ⟨e.verb.toUpper, e.path, line, file⟩

/-- The text of a list of entries, a line each. -/
def source (entries : List Entry) : String := "\n".intercalate (entries.map line)

/-- The routes of the entries on one of the receivers, where the first entry stands on a line. -/
def routes (receivers : List Receiver) (file : String) (line : Nat) (entries : List Entry) :
    List Route :=
  ((entries.zipIdx line).filter fun (e, _) => e.receiver ∈ receivers).map fun (e, line) =>
    e.route line file

/-- An entry is one line. -/
theorem count_line (e : Entry) : e.line.toList.count '\n' = 0 := by
  have hname : e.receiver.name.toList.count '\n' = 0 := by
    cases e.receiver <;> decide
  have hverb : ∀ v ∈ verbs, v.toList.count '\n' = 0 := by decide
  have hquote : e.quote ≠ '\n' := by
    intro h
    exact absurd e.quote_quote (by rw [h]; decide)
  have hpath : e.path.toList.count '\n' = 0 :=
    List.count_eq_zero.mpr fun hmem => (e.path_plain _ hmem).2.2 rfl
  rw [line, toList_written]
  simp [hname, hverb _ e.verb_mem, hquote, hpath]

/-- A line gives the route of its entry to the scan of its kind. -/
theorem routesFrom_line_of_mem {e : Entry} (h : e.receiver ∈ receivers) (file : String)
    (front rest : List Char) : routesFrom receivers file front (e.line.toList ++ rest) =
      e.route (front.count '\n' + 1) file ::
        routesFrom receivers file (front ++ e.line.toList) rest := by
  let c : Call receivers := ⟨e.receiver, e.verb, [], [], e.quote, e.path.toList, e.quote, h,
    e.verb_mem, nofun, nofun, e.quote_quote, by simpa using e.path_ne,
    fun c hc => (e.path_plain c hc).1, e.quote_quote⟩
  have htext : e.line.toList = c.text ++ ", h);".toList := by
    rw [line, toList_written]
    simp [c, Call.text]
  rw [htext, List.append_assoc, routesFrom_call, routesFrom_of_initial (by decide),
    ← List.append_assoc front, route]
  simp [c]

/-- And nothing to that of the other. -/
theorem routesFrom_line_of_notMem {e : Entry} (h : e.receiver ∉ receivers) (file : String)
    (front rest : List Char) : routesFrom receivers file front (e.line.toList ++ rest) =
      routesFrom receivers file (front ++ e.line.toList) rest := by
  have htext : e.line.toList = (e.receiver.name.toList ++ '.' :: e.verb.toList) ++
      ['(', e.quote] ++ ((e.path.toList ++ [e.quote]) ++ ", h);".toList) := by
    rw [line, toList_written]
    simp
  have hpath : ∀ behind, behind ≠ [] → behind <:+ e.path.toList ++ [e.quote] →
      (kind receivers).read? (behind ++ (", h);".toList ++ rest)) = none := by
    intro behind hne hsuffix
    obtain rfl | ⟨path, rfl, hpath⟩ := List.suffix_concat_iff.mp hsuffix
    · exact absurd rfl hne
    · rw [List.append_assoc, List.singleton_append]
      refine read?_eq_none_of_quote (fun d hd => ?_) e.quote_quote _
      obtain ⟨hquote, hparenthesis, -⟩ := e.path_plain d (hpath.subset hd)
      rw [isMark, hquote, beq_eq_false_iff_ne.mpr hparenthesis, Bool.or_false]
  rw [htext, List.append_assoc, routesFrom_opening h e.verb_mem e.quote_quote,
    List.append_assoc (e.path.toList ++ [e.quote]), routesFrom_of_none hpath,
    routesFrom_of_initial (by decide)]
  simp only [List.append_assoc]

/-- The routes of a list are those of its first entry and then those of the rest. -/
theorem routes_cons (receivers : List Receiver) (file : String) (line : Nat) (e : Entry)
    (entries : List Entry) : routes receivers file line (e :: entries) =
      routes receivers file line [e] ++ routes receivers file (line + 1) entries := by
  by_cases h : e.receiver ∈ receivers <;> simp [routes, h]

/-- The routes of a list behind a part of a text. -/
theorem routesFrom_source (receivers : List Receiver) (file : String) (entries : List Entry) :
    ∀ front : List Char, routesFrom receivers file front (source entries).toList =
      routes receivers file (front.count '\n' + 1) entries := by
  have hline (e : Entry) (front rest : List Char) :
      routesFrom receivers file front (e.line.toList ++ rest) =
        routes receivers file (front.count '\n' + 1) [e] ++
          routesFrom receivers file (front ++ e.line.toList) rest := by
    by_cases h : e.receiver ∈ receivers
    · simp [routesFrom_line_of_mem h, routes, h]
    · simp [routesFrom_line_of_notMem h, routes, h]
  have hend (front : List Char) : routesFrom receivers file front [] = [] :=
    routesFrom_eq_nil (by simp) file front
  induction entries with
  | nil => exact fun front => hend front
  | cons e entries ih =>
    intro front
    cases entries with
    | nil =>
      have hlast := hline e front []
      rw [hend, List.append_nil, List.append_nil] at hlast
      rw [source, List.map_singleton, String.intercalate_singleton, hlast]
    | cons e' entries =>
      have htext : (source (e :: e' :: entries)).toList =
          e.line.toList ++ (['\n'] ++ (source (e' :: entries)).toList) := by
        simp [source, String.intercalate_cons_cons]
      rw [htext, hline, routesFrom_of_initial (by decide), ih,
        routes_cons receivers file _ e (e' :: entries)]
      simp [count_line]

end Entry

/-- **A list of registrations is read back from its text**: the entries on `app` or `router` and
then those on `Route`, each in the order of the list and on its line. -/
theorem extract_source (entries : List Entry) (file : String) :
    extract (Entry.source entries) file =
      Entry.routes onApp file 1 entries ++ Entry.routes onRoute file 1 entries := by
  rw [extract_eq, ofKind_eq_routesFrom, ofKind_eq_routesFrom, Entry.routesFrom_source,
    Entry.routesFrom_source]
  rfl

/-- A registration on `Route`, and behind it one on `app`. -/
def Entry.pair : List Entry :=
  [{ receiver := .route, verb := "get", quote := '\x22', path := "/users"
     verb_mem := by decide, quote_quote := by decide, path_ne := by decide
     path_plain := by simp [isQuote] },
   { receiver := .app, verb := "post", quote := '\x27', path := "/users/:id"
     verb_mem := by decide, quote_quote := by decide, path_ne := by decide
     path_plain := by simp [isQuote] }]

/-- The one on `app` comes first, and keeps its line. -/
example : extract (Entry.source Entry.pair) "a.js" =
    [⟨"POST", "/users/:id", 2, "a.js"⟩, ⟨"GET", "/users", 1, "a.js"⟩] := by decide +kernel

end Preflight.Route
