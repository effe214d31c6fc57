import Preflight.Proofs.Pattern.Scan
import Preflight.Proofs.Source.Line
import Preflight.Source.Route

/-!
# Registrations in a text

A registration is a call on an object: a point, a verb, a parenthesis and a quoted path, with blanks
around the parenthesis (`Call`). A text is written by one call at most, whatever follows it
(`Call.text_append_inj`), and the patterns read exactly the calls (`reads_kind_iff`).

The law (`extract_scans`): the routes of a text are those of two scans, of the calls on `app` or
`router` and then of the calls on `Route`. No call is left out but those that begin inside a call
that the same scan found before, as one that is written in the path of another does. So lines do not
decrease within a scan, and no call is found by both.
-/

set_option autoImplicit false

namespace Preflight.Route

open Pattern

/-! ## Calls -/

/-- What routes are registered on. -/
inductive Receiver
  | app
  | router
  | route
  deriving DecidableEq

/-- How a receiver is written. -/
def Receiver.name : Receiver → String
  | .app => "app"
  | .router => "router"
  | .route => "Route"

/-- Receivers have different names. -/
theorem Receiver.name_injective : Function.Injective Receiver.name := by
  intro r s
  cases r <;> cases s <;> decide

/-- There is no point in the name of a receiver. -/
theorem Receiver.name_plain (r : Receiver) : ∀ c ∈ r.name.toList, (c != '.') = true :=
  List.all_eq_true.mp (by cases r <;> decide)

/-- The receivers of the first kind of registration. -/
def onApp : List Receiver := [.app, .router]

/-- The receivers of the second kind. -/
def onRoute : List Receiver := [.route]

/-- A call that registers a route on one of the receivers, as it is written. -/
structure Call (receivers : List Receiver) where
  receiver : Receiver
  verb : String
  /-- The blanks before the parenthesis. -/
  before : List Char
  /-- The blanks behind the parenthesis. -/
  behind : List Char
  opening : Char
  path : List Char
  closing : Char
  receiver_mem : receiver ∈ receivers
  verb_mem : verb ∈ verbs
  before_blank : ∀ c ∈ before, Text.isBlank c = true
  behind_blank : ∀ c ∈ behind, Text.isBlank c = true
  opening_quote : isQuote opening = true
  path_ne : path ≠ []
  path_plain : ∀ c ∈ path, isQuote c = false
  closing_quote : isQuote closing = true

/-- The characters of a call. -/
def Call.text {receivers : List Receiver} (c : Call receivers) : List Char :=
  c.receiver.name.toList ++ '.' :: (c.verb.toList ++ (c.before ++ '(' :: (c.behind ++
    c.opening :: (c.path ++ [c.closing]))))

/-- The pattern of the calls on receivers. -/
def kind (receivers : List Receiver) : Pattern :=
  choice ((receivers.map Receiver.name).map word) ++ call

/-- The two kinds of registration. -/
theorem registrations_eq : registrations = [kind onApp, kind onRoute] := rfl

variable {receivers : List Receiver}

/-- A quotation mark is neither blank nor a parenthesis. -/
theorem not_isBlank_of_isQuote {c : Char} (h : isQuote c = true) :
    Text.isBlank c = false ∧ c ≠ '(' := by
  simp only [isQuote, Bool.or_eq_true, beq_iff_eq] at h
  obtain (rfl | rfl) | rfl := h <;> decide

/-- **The patterns read calls.** -/
theorem reads_kind_iff {part rest : List Char} {kept : List (List Char)} :
    (kind receivers).Reads part kept rest ↔
      ∃ c : Call receivers, part = c.text ∧ kept = [c.verb.toList, c.path] := by
  constructor
  · intro h
    obtain ⟨name, _, _, _, hname, hcall, rfl, rfl⟩ := reads_append_iff.mp h
    obtain ⟨_, _, _, _, htoPath, hclosing, rfl, rfl⟩ := reads_append_iff.mp hcall
    obtain ⟨_, path, _, _, htoOpening, hpath, rfl, rfl⟩ := reads_append_iff.mp htoPath
    obtain ⟨_, _, _, _, htoBehind, hopening, rfl, rfl⟩ := reads_append_iff.mp htoOpening
    obtain ⟨_, behind, _, _, htoParenthesis, hbehind, rfl, rfl⟩ := reads_append_iff.mp htoBehind
    obtain ⟨_, _, _, _, htoBefore, hparenthesis, rfl, rfl⟩ := reads_append_iff.mp htoParenthesis
    obtain ⟨_, before, _, _, htoVerb, hbefore, rfl, rfl⟩ := reads_append_iff.mp htoBefore
    obtain ⟨_, verb, _, _, hpoint, hverb, rfl, rfl⟩ := reads_append_iff.mp htoVerb
    obtain ⟨⟨_, hmem, rfl⟩, rfl⟩ := reads_choice_words_iff.mp hname
    obtain ⟨receiver, hreceiver, rfl⟩ := List.mem_map.mp hmem
    obtain ⟨rfl, rfl⟩ := reads_char_iff.mp hpoint
    obtain ⟨_, hword, rfl⟩ := reads_keep_iff.mp hverb
    obtain ⟨⟨verb, hmem', rfl⟩, rfl⟩ := reads_choice_words_iff.mp hword
    obtain ⟨hblank, -, rfl⟩ := reads_run_iff.mp hbefore
    obtain ⟨rfl, rfl⟩ := reads_char_iff.mp hparenthesis
    obtain ⟨hblank', -, rfl⟩ := reads_run_iff.mp hbehind
    obtain ⟨opening, hquote, rfl, rfl⟩ := reads_one_iff.mp hopening
    obtain ⟨_, hrun, rfl⟩ := reads_keep_iff.mp hpath
    obtain ⟨hsome, hplain, -, rfl⟩ := reads_runOne_iff.mp hrun
    obtain ⟨closing, hquote', rfl, rfl⟩ := reads_one_iff.mp hclosing
    have hplain : ∀ c ∈ path, isQuote c = false := fun c hc => by simpa using hplain c hc
    exact ⟨⟨receiver, verb, before, behind, opening, path, closing, hreceiver, hmem', hblank,
      hblank', hquote, hsome, hplain, hquote'⟩, by simp [Call.text], rfl⟩
  · rintro ⟨c, rfl, rfl⟩
    have hname (rest : List Char) :
        (choice ((receivers.map Receiver.name).map word)).Reads c.receiver.name.toList [] rest :=
      reads_choice_words_iff.mpr ⟨⟨_, List.mem_map_of_mem c.receiver_mem, rfl⟩, rfl⟩
    have hchar (d : Char) (rest : List Char) : (char d).Reads [d] [] rest :=
      reads_char_iff.mpr ⟨rfl, rfl⟩
    have hverb (rest : List Char) : (choice (verbs.map word)).Reads c.verb.toList [] rest :=
      reads_choice_words_iff.mpr ⟨⟨c.verb, c.verb_mem, rfl⟩, rfl⟩
    have hbefore : blanks.Reads c.before [] (['('] ++ (c.behind ++ ([c.opening] ++ (c.path ++
        ([c.closing] ++ rest))))) := by
      refine .run c.before_blank ?_
      rintro d ⟨⟩
      decide
    have hbehind : blanks.Reads c.behind [] ([c.opening] ++ (c.path ++ ([c.closing] ++ rest))) := by
      refine .run c.behind_blank ?_
      rintro d ⟨⟩
      exact (not_isBlank_of_isQuote c.opening_quote).1
    have hpath : (runOne fun d => !isQuote d).Reads c.path [] ([c.closing] ++ rest) := by
      refine reads_runOne_iff.mpr ⟨c.path_ne, fun d hd => by simpa using c.path_plain d hd, ?_, rfl⟩
      rintro d ⟨⟩
      simpa using c.closing_quote
    have hcall := (((((((hchar '.' _).seq (hverb _).keep).seq hbefore).seq (hchar '(' _)).seq
      hbehind).seq (.one c.opening_quote)).seq hpath.keep).seq (.one c.closing_quote)
    have htext : c.text = c.receiver.name.toList ++ (['.'] ++ c.verb.toList ++ c.before ++ ['('] ++
        c.behind ++ [c.opening] ++ c.path ++ [c.closing]) := by simp [Call.text]
    rw [htext]
    exact (hname _).seq hcall

/-- **A text starts with one call at most**, whatever follows it. -/
theorem Call.text_append_inj {a b : Call receivers} {s t : List Char}
    (h : a.text ++ s = b.text ++ t) : a = b ∧ s = t := by
  have hverbs : ∀ v ∈ verbs, v.toList.all (fun c => !Text.isBlank c && c != '(') = true := by
    decide
  have hgap : ∀ gap rest : List Char, (∀ c ∈ gap, Text.isBlank c = true) →
      ∀ c ∈ (gap ++ '(' :: rest).head?, (!Text.isBlank c && c != '(') = false := by
    intro gap rest hblank
    cases gap with
    | nil =>
      rintro c ⟨⟩
      decide
    | cons d gap =>
      rintro c ⟨⟩
      simp [hblank d List.mem_cons_self]
  have hplain : ∀ path : List Char, (∀ c ∈ path, isQuote c = false) →
      ∀ c ∈ path, (!isQuote c) = true := fun path hpath c hc => by simp [hpath c hc]
  have hstop : ∀ {set : Char → Bool} {c : Char} {rest : List Char}, set c = false →
      ∀ d ∈ (c :: rest).head?, set d = false := by
    rintro set c rest hc d ⟨⟩
    exact hc
  obtain ⟨receiver, verb, before, behind, opening, path, closing, _, hverb, hbefore, hbehind,
    hopening, _, hpath, hclosing⟩ := a
  obtain ⟨receiver', verb', before', behind', opening', path', closing', _, hverb', hbefore',
    hbehind', hopening', _, hpath', hclosing'⟩ := b
  simp only [Call.text, List.append_assoc, List.cons_append, List.nil_append] at h
  obtain ⟨hname, hfromPoint⟩ := append_inj_of_stop receiver.name_plain receiver'.name_plain
    (hstop (by decide)) (hstop (by decide)) h
  obtain rfl := Receiver.name_injective (String.toList_inj.mp hname)
  obtain ⟨hword, hfromBefore⟩ := append_inj_of_stop (List.all_eq_true.mp (hverbs verb hverb))
    (List.all_eq_true.mp (hverbs verb' hverb')) (hgap before _ hbefore) (hgap before' _ hbefore') (List.cons.inj hfromPoint).2
  obtain rfl := String.toList_inj.mp hword
  obtain ⟨rfl, hfromParenthesis⟩ := append_inj_of_stop hbefore hbefore' (hstop (by decide))
    (hstop (by decide)) hfromBefore
  obtain ⟨rfl, hfromOpening⟩ := append_inj_of_stop hbehind hbehind'
    (hstop (not_isBlank_of_isQuote hopening).1) (hstop (not_isBlank_of_isQuote hopening').1)
    (List.cons.inj hfromParenthesis).2
  obtain ⟨rfl, hfromPath⟩ := List.cons.inj hfromOpening
  obtain ⟨rfl, hfromClosing⟩ := append_inj_of_stop (hplain path hpath) (hplain path' hpath')
    (hstop (by simpa using hclosing)) (hstop (by simpa using hclosing')) hfromPath
  obtain ⟨rfl, hrest⟩ := List.cons.inj hfromClosing
  exact ⟨rfl, hrest⟩

/-- What a pattern of calls reads of a text is one call. -/
theorem isDecided_kind (receivers : List Receiver) : (kind receivers).IsDecided := by
  intro part kept rest part' kept' rest' h h' heq
  obtain ⟨c, rfl, rfl⟩ := reads_kind_iff.mp h
  obtain ⟨c', rfl, rfl⟩ := reads_kind_iff.mp h'
  obtain ⟨rfl, -⟩ := Call.text_append_inj heq
  exact ⟨rfl, rfl⟩

/-- A call has a width. -/
theorem isWide_kind (receivers : List Receiver) : (kind receivers).IsWide := by
  intro part kept rest h
  obtain ⟨c, rfl, -⟩ := reads_kind_iff.mp h
  simp [Call.text]

/-! ## Calls in a text -/

/-- A call and the number of characters before it. -/
structure Registration (receivers : List Receiver) where
  offset : Nat
  call : Call receivers

namespace Registration

/-- The call stands in the text behind so many characters. -/
def StandsIn (code : List Char) (r : Registration receivers) : Prop :=
  ∃ before rest, code = before ++ (r.call.text ++ rest) ∧ before.length = r.offset

/-- The end of the call. -/
def stop (r : Registration receivers) : Nat := r.offset + r.call.text.length

/-- The place of the verb of the call. -/
def verbPlace (r : Registration receivers) : Nat :=
  r.offset + r.call.receiver.name.toList.length + 1

/-- The route that the call registers: the verb in capitals, the path as written, and the line that
the line feeds before the call lead to. -/
def route (code : List Char) (file : String) (r : Registration receivers) : Route :=
  ⟨r.call.verb.toUpper, String.ofList r.call.path, (code.take r.offset).count '\n' + 1, file⟩

/-- What a pattern of calls finds. -/
def occurrence (r : Registration receivers) : Occurrence :=
  ⟨r.offset, r.call.text, [r.call.verb.toList, r.call.path]⟩

/-- What is found tells the call. -/
theorem occurrence_injective :
    Function.Injective (occurrence : Registration receivers → Occurrence) := by
  intro r s h
  obtain ⟨hoffset, htext, -⟩ := Occurrence.mk.inj h
  have hcall : r.call = s.call := (Call.text_append_inj (congrArg (· ++ []) htext)).1
  cases r
  cases s
  simp_all

/-- Where a pattern of calls is read, a call stands. -/
theorem exists_occurrence {code : List Char} {o : Occurrence}
    (h : (kind receivers).IsReadAt code o) :
    ∃ r : Registration receivers, r.occurrence = o := by
  obtain ⟨before, rest, -, -, hread⟩ := h
  obtain ⟨part, kept, rest', hreads, htext, hreading⟩ := reads_of_read? hread
  obtain ⟨hwidth, hkept, -⟩ := Reading.mk.inj hreading
  obtain ⟨c, rfl, rfl⟩ := reads_kind_iff.mp hreads
  obtain ⟨hpart, -⟩ := List.append_inj htext hwidth
  obtain ⟨offset, part, kept⟩ := o
  obtain rfl : part = c.text := hpart
  obtain rfl : kept = [c.verb.toList, c.path] := hkept
  exact ⟨⟨offset, c⟩, rfl⟩

/-- And where a call stands, the pattern is read. -/
theorem isReadAt_occurrence_iff {code : List Char} {r : Registration receivers} :
    (kind receivers).IsReadAt code r.occurrence ↔ r.StandsIn code := by
  refine exists_congr fun before => exists_congr fun rest => and_congr_right fun _ => ?_
  have hreads : (kind receivers).Reads r.call.text [r.call.verb.toList, r.call.path] rest :=
    reads_kind_iff.mpr ⟨r.call, rfl, rfl⟩
  exact and_iff_left ((isDecided_kind receivers).read?_eq hreads)

/-- A scan of the calls of a text. -/
abbrev IsScan (code : List Char) (found : List (Registration receivers)) : Prop :=
  Pattern.IsScan (StandsIn code) offset stop found

/-- **A pattern of calls finds the calls of a scan**, and there is no other scan. -/
theorem exists_scan (receivers : List Receiver) (code : List Char) :
    ∃ found : List (Registration receivers), (kind receivers).findAll code = found.map occurrence ∧
      ∀ other : List (Registration receivers), IsScan code other ↔ other = found := by
  obtain ⟨found, hfound, hscan⟩ := (isScan_findAll (isWide_kind receivers) code).exists_map
    occurrence_injective fun o => exists_occurrence
  have hscan : IsScan code found := hscan.congr fun r => isReadAt_occurrence_iff
  refine ⟨found, hfound.symm, fun other => ⟨fun hother => ?_, fun hother => hother ▸ hscan⟩⟩
  refine hother.unique (fun r _ => ?_) hscan
  exact Nat.lt_add_of_pos_right (List.length_pos_of_ne_nil (by simp [Call.text]))

/-- The route of what is found is the route of the call. -/
theorem ofOccurrence_occurrence (code : List Char) (file : String) (r : Registration receivers) :
    ofOccurrence code file r.occurrence = r.route code file := by
  have hverbs : ∀ v ∈ verbs, String.ofList (v.toList.map Char.toUpper) = v.toUpper := by
    decide +kernel
  simp only [ofOccurrence, occurrence, route, hverbs _ r.call.verb_mem, Source.lineOf]

/-- The routes of one kind are those of a scan. -/
theorem ofKind_eq {code : List Char} {found : List (Registration receivers)}
    (h : (kind receivers).findAll code = found.map occurrence) (file : String) :
    ofKind code file (kind receivers) = found.map (route code file) := by
  rw [ofKind, h, List.map_map]
  exact List.map_congr_left fun r _ => ofOccurrence_occurrence code file r

/-- Lines do not decrease within a scan. -/
theorem pairwise_line {code : List Char} {found : List (Registration receivers)}
    (h : IsScan code found) (file : String) :
    (found.map (route code file)).Pairwise (·.line ≤ ·.line) := by
  refine List.pairwise_map.mpr (h.apart.imp fun {r s} hle => ?_)
  exact Source.lineOf_mono code (Nat.le_trans (Nat.le_add_right _ _) hle)

/-- Before its verb a call shows its receiver. -/
theorem receiver_suffix {code : List Char} {r : Registration receivers} (h : r.StandsIn code) :
    r.call.receiver.name.toList <:+ code.take (r.verbPlace - 1) := by
  obtain ⟨before, rest, rfl, hbefore⟩ := h
  refine ⟨before, ?_⟩
  rw [verbPlace, Nat.add_sub_cancel, ← hbefore, Call.text, List.append_assoc, ← List.append_assoc,
    ← List.length_append, List.take_left]

end Registration

/-- Routes of the first kind come before those of the second. -/
theorem extract_eq (code file : String) :
    extract code file =
      ofKind code.toList file (kind onApp) ++ ofKind code.toList file (kind onRoute) := by
  rw [extract, registrations_eq]
  simp

/-- A route is the route of a call. -/
theorem exists_of_mem_ofKind {code : List Char} {file : String} {r : Route}
    (h : r ∈ ofKind code file (kind receivers)) :
    ∃ s : Registration receivers, r = s.route code file := by
  obtain ⟨found, hfound, -⟩ := Registration.exists_scan receivers code
  rw [Registration.ofKind_eq hfound] at h
  obtain ⟨s, -, rfl⟩ := List.mem_map.mp h
  exact ⟨s, rfl⟩

/-- So every route has what the routes of calls have. -/
theorem forall_mem_extract {code file : String} {P : Route → Prop}
    (h : ∀ (receivers : List Receiver) (s : Registration receivers), P (s.route code.toList file)) :
    ∀ r ∈ extract code file, P r := by
  intro r hr
  rw [extract_eq] at hr
  obtain hr | hr := List.mem_append.mp hr
  · obtain ⟨s, rfl⟩ := exists_of_mem_ofKind hr
    exact h _ s
  · obtain ⟨s, rfl⟩ := exists_of_mem_ofKind hr
    exact h _ s

/-- **The routes of a text are those of its registrations.** They come from two scans, of the calls
on `app` or `router` and of the calls on `Route`: a call is found unless it begins inside a call
that the same scan found before it, and the scans are the only ones. The lines of the routes are
lines of the text and do not decrease within a scan, and no call is found by both scans. -/
theorem extract_scans (code file : String) :
    ∃ (first : List (Registration onApp)) (second : List (Registration onRoute)),
      (∀ found, Registration.IsScan code.toList found ↔ found = first) ∧
      (∀ found, Registration.IsScan code.toList found ↔ found = second) ∧
      extract code file = first.map (·.route code.toList file) ++
        second.map (·.route code.toList file) ∧
      (∀ r ∈ extract code file, 1 ≤ r.line ∧ r.line ≤ (Source.lines code.toList).length) ∧
      (first.map (·.route code.toList file)).Pairwise (·.line ≤ ·.line) ∧
      (second.map (·.route code.toList file)).Pairwise (·.line ≤ ·.line) ∧
      ∀ r ∈ first, ∀ s ∈ second, r.verbPlace ≠ s.verbPlace := by
  obtain ⟨first, hfirst, hscan⟩ := Registration.exists_scan onApp code.toList
  obtain ⟨second, hsecond, hscan'⟩ := Registration.exists_scan onRoute code.toList
  refine ⟨first, second, hscan, hscan', ?_, ?_,
    Registration.pairwise_line ((hscan first).mpr rfl) file,
    Registration.pairwise_line ((hscan' second).mpr rfl) file, fun r hr s hs heq => ?_⟩
  · rw [extract_eq, Registration.ofKind_eq hfirst, Registration.ofKind_eq hsecond]
  · exact forall_mem_extract fun receivers s =>
      ⟨Nat.le_add_left 1 _, Source.lineOf_le code.toList s.offset⟩
  · have hr := Registration.receiver_suffix (((hscan first).mpr rfl).stands r hr)
    have hs := Registration.receiver_suffix (((hscan' second).mpr rfl).stands s hs)
    rw [← heq] at hs
    -- Both receivers stand before the verb, so one of the names ends in the other.
    have hends : ∀ a ∈ onApp, ∀ b ∈ onRoute, ¬ a.name.toList <:+ b.name.toList ∧
        ¬ b.name.toList <:+ a.name.toList := by decide
    obtain ⟨hne, hne'⟩ := hends _ r.call.receiver_mem _ s.call.receiver_mem
    exact (List.suffix_or_suffix_of_suffix hr hs).elim hne hne'

/-- A call that begins in the path of another is passed over by one scan and found by the other. -/
example : extract "app.get('router.put(', 'a')\napp.get('Route.put(', 'b')" =
    [⟨"GET", "router.put(", 1, ""⟩, ⟨"GET", "Route.put(", 2, ""⟩, ⟨"PUT", ", ", 2, ""⟩] := by
  decide +kernel

end Preflight.Route
