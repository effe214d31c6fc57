import Preflight.Proofs.Check.Routes
import Preflight.Proofs.Check.Stopping
import Preflight.Proofs.Disk.Path
import Preflight.Proofs.Disk.Visible
import Preflight.Proofs.Pattern.Search

/-!
# Which origins are reported

A file allows every origin if a call of the middleware for origins does (`IsOriginCall`,
`SetsAnyOrigin`). The check looks at one call of a file alone, the first (`IsFirstCall`): the file is
reported exactly if that call allows every origin (`wildcard_iff`).

So the law (`any_origin_reported`) tells of a call anywhere in a file that it is reported unless a
call that stands before it allows less. Such a call is passed over, whatever it allows
(`later_any_origin_unreported`).
-/

set_option autoImplicit false

namespace Preflight.Check.Security

open Pattern

variable {part call rest text : List Char} {place : Nat}

/-! ## Calls -/

/-- The part is a call of the middleware for origins: its name in any case, and brackets with no
closing bracket in them. -/
def IsOriginCall (part : List Char) : Prop :=
  ∃ spelled blanks inside : List Char, Spells "cors" spelled ∧
    (∀ c ∈ blanks, Text.isBlank c = true) ∧ ')' ∉ inside ∧
      part = spelled ++ (blanks ++ '(' :: (inside ++ [')']))

/-- The text sets the origin to a star in quotation marks. -/
def SetsAnyOrigin (text : List Char) : Prop :=
  ∃ (spelled before behind : List Char) (opening closing : Char), Spells "origin" spelled ∧
    (∀ c ∈ before, Text.isBlank c = true) ∧ (∀ c ∈ behind, Text.isBlank c = true) ∧
      isPlainQuote opening = true ∧ isPlainQuote closing = true ∧
        spelled ++ (before ++ ':' :: (behind ++ [opening, '*', closing])) <:+: text

/-- A bracket outside of a set stops a run of it. -/
theorem bracket_stops (bracket : Char) {set : Char → Bool} (h : set bracket = false)
    (rest : List Char) : ∀ c ∈ (bracket :: rest).head?, set c = false := by
  rintro c ⟨⟩
  exact h

/-- A bracket that closes a call is none of its inside. -/
theorem ne_closing {inside : List Char} (h : ')' ∉ inside) : ∀ c ∈ inside, (c != ')') = true :=
  fun _ hc => bne_iff_ne.mpr fun heq => h (heq ▸ hc)

/-- **The pattern of a call reads the calls.** -/
theorem reads_corsCall_iff {kept : List (List Char)} :
    corsCall.Reads part kept rest ↔ IsOriginCall part ∧ kept = [] := by
  constructor
  · intro h
    obtain ⟨_, _, _, _, htoInside, hclosing, rfl, rfl⟩ := reads_append_iff.mp h
    obtain ⟨_, inside, _, _, htoOpening, hinside, rfl, rfl⟩ := reads_append_iff.mp htoInside
    obtain ⟨_, _, _, _, htoBlanks, hopening, rfl, rfl⟩ := reads_append_iff.mp htoOpening
    obtain ⟨spelled, blanks, _, _, hword, hblanks, rfl, rfl⟩ := reads_append_iff.mp htoBlanks
    obtain ⟨hspelled, rfl⟩ := reads_wordAnyCase_iff.mp hword
    obtain ⟨hblank, -, rfl⟩ := reads_run_iff.mp hblanks
    obtain ⟨rfl, rfl⟩ := reads_char_iff.mp hopening
    obtain ⟨hopen, -, rfl⟩ := reads_run_iff.mp hinside
    obtain ⟨rfl, rfl⟩ := reads_char_iff.mp hclosing
    exact ⟨⟨spelled, blanks, inside, hspelled, hblank, fun hmem => by simpa using hopen _ hmem,
      by simp⟩, rfl⟩
  · rintro ⟨⟨spelled, blanks, inside, hspelled, hblank, hopen, rfl⟩, rfl⟩
    have htext : spelled ++ (blanks ++ '(' :: (inside ++ [')'])) =
        spelled ++ blanks ++ ['('] ++ inside ++ [')'] := by simp
    rw [htext]
    exact (((((reads_wordAnyCase_iff.mpr ⟨hspelled, rfl⟩).seq
      (.run hblank (bracket_stops '(' (by decide) _))).seq (reads_char_iff.mpr ⟨rfl, rfl⟩)).seq
        (.run (ne_closing hopen) (bracket_stops ')' (by decide) _))).seq (reads_char_iff.mpr ⟨rfl, rfl⟩))

/-- A text starts with one call at most. -/
theorem IsOriginCall.append_inj {call' rest' : List Char} (h : IsOriginCall call)
    (h' : IsOriginCall call') (heq : call ++ rest = call' ++ rest') : call = call' := by
  obtain ⟨spelled, blanks, inside, hspelled, hblank, hopen, rfl⟩ := h
  obtain ⟨spelled', blanks', inside', hspelled', hblank', hopen', rfl⟩ := h'
  simp only [List.append_assoc, List.cons_append] at heq
  have hlength : spelled.length = spelled'.length :=
    (List.Forall₂.length_eq hspelled).symm.trans (List.Forall₂.length_eq hspelled')
  obtain ⟨rfl, hblanks⟩ := List.append_inj heq hlength
  obtain ⟨rfl, hinside⟩ := append_inj_of_stop hblank hblank' (bracket_stops '(' (by decide) _)
    (bracket_stops '(' (by decide) _) hblanks
  obtain ⟨rfl, -⟩ := append_inj_of_stop (ne_closing hopen) (ne_closing hopen')
    (bracket_stops ')' (by decide) _) (bracket_stops ')' (by decide) _) (List.cons.inj hinside).2
  rfl

/-- A call mentions the middleware. -/
theorem IsOriginCall.mentions (h : IsOriginCall call) (hcall : call <:+: text) :
    Mentions "cors" text := by
  obtain ⟨spelled, blanks, inside, hspelled, -, -, rfl⟩ := h
  exact ⟨spelled, (List.prefix_append spelled _).isInfix.trans hcall, hspelled⟩

/-- **The pattern of a setting occurs where the origin is set to a star.** -/
theorem occursIn_anyOrigin_iff : anyOrigin.occursIn text = true ↔ SetsAnyOrigin text := by
  rw [occursIn_iff]
  constructor
  · rintro ⟨front, part, kept, rest, h, rfl⟩
    obtain ⟨_, _, _, _, htoStar, hclosing, rfl, rfl⟩ := reads_append_iff.mp h
    obtain ⟨_, _, _, _, htoOpening, hstar, rfl, rfl⟩ := reads_append_iff.mp htoStar
    obtain ⟨_, _, _, _, htoBehind, hopening, rfl, rfl⟩ := reads_append_iff.mp htoOpening
    obtain ⟨_, behind, _, _, htoSign, hbehind, rfl, rfl⟩ := reads_append_iff.mp htoBehind
    obtain ⟨_, _, _, _, htoBefore, hsign, rfl, rfl⟩ := reads_append_iff.mp htoSign
    obtain ⟨spelled, before, _, _, hword, hbefore, rfl, rfl⟩ := reads_append_iff.mp htoBefore
    obtain ⟨hspelled, rfl⟩ := reads_wordAnyCase_iff.mp hword
    obtain ⟨hblank, -, rfl⟩ := reads_run_iff.mp hbefore
    obtain ⟨rfl, rfl⟩ := reads_char_iff.mp hsign
    obtain ⟨hblank', -, rfl⟩ := reads_run_iff.mp hbehind
    obtain ⟨opening, hquote, rfl, rfl⟩ := reads_one_iff.mp hopening
    obtain ⟨rfl, rfl⟩ := reads_char_iff.mp hstar
    obtain ⟨closing, hquote', rfl, rfl⟩ := reads_one_iff.mp hclosing
    exact ⟨spelled, before, behind, opening, closing, hspelled, hblank, hblank', hquote, hquote',
      front, rest, by simp⟩
  · rintro ⟨spelled, before, behind, opening, closing, hspelled, hblank, hblank', hquote, hquote',
      front, rest, rfl⟩
    have htext : front ++ (spelled ++ (before ++ ':' :: (behind ++ [opening, '*', closing]))) ++
        rest = front ++ (spelled ++ before ++ [':'] ++ behind ++ [opening] ++ ['*'] ++ [closing] ++
          rest) := by simp
    have hsign : ∀ rest : List Char, ∀ c ∈ (':' :: rest).head?, Text.isBlank c = false := by
      rintro rest c ⟨⟩
      decide
    have hmark : ∀ rest : List Char, ∀ c ∈ (opening :: rest).head?, Text.isBlank c = false := by
      rintro rest c ⟨⟩
      simp only [isPlainQuote, Bool.or_eq_true, beq_iff_eq] at hquote
      obtain rfl | rfl := hquote <;> decide
    refine ⟨front, _, [], rest, ?_, htext⟩
    exact ((((((reads_wordAnyCase_iff.mpr ⟨hspelled, rfl⟩).seq (.run hblank (hsign _))).seq
      (reads_char_iff.mpr ⟨rfl, rfl⟩)).seq (.run hblank' (hmark _))).seq (.one hquote)).seq
        (reads_char_iff.mpr ⟨rfl, rfl⟩)).seq (.one hquote')

/-! ## The call that decides -/

/-- The part is the first call of the text: it stands at the place, and no call stands before it. -/
structure IsFirstCall (part text : List Char) (place : Nat) : Prop where
  isCall : IsOriginCall part
  stands : StandsAt part text place
  first : ∀ (other : List Char) (place' : Nat), IsOriginCall other →
    StandsAt other text place' → place ≤ place'

/-- A text has one first call at most. -/
theorem IsFirstCall.unique {call' : List Char} {place' : Nat} (h : IsFirstCall call text place)
    (h' : IsFirstCall call' text place') : call = call' := by
  obtain rfl : place = place' := Nat.le_antisymm (h.first call' place' h'.isCall h'.stands)
    (h'.first call place h.isCall h.stands)
  obtain ⟨before, rest, htext, hbefore⟩ := h.stands
  obtain ⟨before', rest', htext', hbefore'⟩ := h'.stands
  obtain ⟨-, hrest⟩ := List.append_inj (htext.symm.trans htext') (hbefore.trans hbefore'.symm)
  exact h.isCall.append_inj h'.isCall hrest

/-- A search for a call comes to the first one. -/
theorem isFirstCall_of_find? {found : Occurrence} (h : corsCall.find? text = some found) :
    IsFirstCall found.text text found.offset := by
  obtain ⟨hread, hfirst⟩ := find?_eq_some_iff.mp h
  obtain ⟨rest, hreads⟩ := hread.exists_reads
  refine ⟨(reads_corsCall_iff.mp hreads).1, hread.standsAt, fun other place' hcall hstands => ?_⟩
  obtain ⟨before, rest, htext, rfl⟩ := hstands
  obtain ⟨o, ho, hplace⟩ := exists_isReadAt (reads_corsCall_iff.mpr ⟨hcall, rfl⟩) htext
  rw [← hplace]
  exact hfirst o ho

/-- Where a call stands, a search comes to one. -/
theorem exists_find? (hcall : IsOriginCall call) (hstands : StandsAt call text place) :
    ∃ found, corsCall.find? text = some found := by
  cases hfind : corsCall.find? text with
  | some found => exact ⟨found, rfl⟩
  | none =>
    obtain ⟨before, rest, htext, -⟩ := hstands
    obtain ⟨o, ho, -⟩ := exists_isReadAt (reads_corsCall_iff.mpr ⟨hcall, rfl⟩) htext
    exact absurd ho (find?_eq_none_iff.mp hfind o)

/-- Where a call stands, a first one does. -/
theorem exists_isFirstCall (hcall : IsOriginCall call) (hstands : StandsAt call text place) :
    ∃ first place', IsFirstCall first text place' := by
  obtain ⟨found, hfind⟩ := exists_find? hcall hstands
  exact ⟨found.text, found.offset, isFirstCall_of_find? hfind⟩

/-- **The first call alone decides** whether a text allows every origin. -/
theorem allowsAnyOrigin_iff : allowsAnyOrigin text = true ↔
    ∃ call place, IsFirstCall call text place ∧ SetsAnyOrigin call := by
  rw [allowsAnyOrigin, Option.any_eq_true]
  constructor
  · rintro ⟨found, hfind, hsets⟩
    exact ⟨found.text, found.offset, isFirstCall_of_find? hfind, occursIn_anyOrigin_iff.mp hsets⟩
  · rintro ⟨call, place, hfirst, hsets⟩
    obtain ⟨found, hfind⟩ := exists_find? hfirst.isCall hfirst.stands
    obtain rfl := hfirst.unique (isFirstCall_of_find? hfind)
    exact ⟨found, hfind, occursIn_anyOrigin_iff.mpr hsets⟩

/-! ## The report -/

/-- The first call of a file is told of its text. -/
theorem wildcard_iff {file code : String} : (Features.of file code).wildcard = true ↔
    ∃ call place, IsFirstCall call code.toList place ∧ SetsAnyOrigin call := by
  simp only [Features.of, Bool.and_eq_true, corsWord, occursIn_wordAnyCase_iff,
    allowsAnyOrigin_iff, and_iff_right_iff_imp]
  rintro ⟨call, place, hfirst, -⟩
  obtain ⟨before, rest, htext, -⟩ := hfirst.stands
  refine hfirst.isCall.mentions ⟨before, rest, ?_⟩
  rw [htext, List.append_assoc]

/-- The issue that a file allows every origin. -/
def originIssue (file : String) : Finding := .issue .corsWildcard { file := some file }

/-- Such an issue tells its file. -/
theorem originIssue_inj {file file' : String} (h : originIssue file = originIssue file') :
    file = file' := by
  cases h
  rfl

/-- Reported are the files whose features say that they allow every origin. -/
theorem originIssue_mem_iff {features : List Features} {dangers : List Dangers} {declares : Bool}
    {file : String} : originIssue file ∈ (verdict features dangers declares).issues ↔
      ∃ f ∈ features, f.wildcard = true ∧ f.file = file := by
  simp only [verdict, Verdict.ofFindings, List.mem_append]
  constructor
  · rintro ((hwildcard | hheaders) | hevaluates)
    · obtain ⟨f, hf, hissue⟩ := List.mem_map.mp hwildcard
      obtain ⟨hmem, hallows⟩ := List.mem_filter.mp hf
      exact ⟨f, hmem, hallows, originIssue_inj hissue⟩
    · split at hheaders
      · cases hheaders
      · cases List.mem_singleton.mp hheaders
    · obtain ⟨d, -, hissue⟩ := List.mem_map.mp hevaluates
      cases hissue
  · rintro ⟨f, hf, hallows, rfl⟩
    exact .inl (.inl (List.mem_map_of_mem (List.mem_filter.mpr ⟨hf, hallows⟩)))

/-- A reported file keeps the check from passing. -/
theorem not_passed_of_originIssue {features : List Features} {dangers : List Dangers}
    {declares : Bool} {file : String}
    (h : originIssue file ∈ (verdict features dangers declares).issues) :
    (verdict features dangers declares).passed = false := by
  obtain ⟨f, hf, hallows, -⟩ := originIssue_mem_iff.mp h
  rw [Bool.eq_false_iff, Ne, verdict_passed]
  rintro ⟨hnone, -⟩
  rw [hnone f hf] at hallows
  cases hallows

/-- The check of the project reports that the file allows every origin. -/
def Reports (p : Project) (path : Path) : Prop :=
  originIssue (p.relative path) ∈ (Module.security.runFresh p).issues

/-- A result for files tells of each of them with a text whether its first call allows every origin,
and it does not pass if one does. -/
theorem answer_reports {p : Project} {files : List Path} {v : Verdict}
    (hanswer : answer p files = .ok v)
    (hnames : ∀ path ∈ files, ∀ other ∈ files, p.relative path = p.relative other → path = other)
    {path : Path} (hpath : path ∈ files.take p.limits.securityFeatureFiles) {code : String}
    (hcode : HasCode p path code) :
    (originIssue (p.relative path) ∈ v.issues ↔
      ∃ call place, IsFirstCall call code.toList place ∧ SetsAnyOrigin call) ∧
    (originIssue (p.relative path) ∈ v.issues → v.passed = false) := by
  obtain ⟨features, hfeatures, hanswer⟩ := bind_eq_ok.mp hanswer
  obtain ⟨manifest, -, hanswer⟩ := bind_eq_ok.mp hanswer
  obtain ⟨dangers, -, hanswer⟩ := bind_eq_ok.mp hanswer
  cases hanswer
  refine ⟨?_, not_passed_of_originIssue⟩
  rw [originIssue_mem_iff, ← wildcard_iff]
  constructor
  · rintro ⟨f, hf, hallows, hfile⟩
    obtain ⟨other, hother, text, htext, -, rfl⟩ := (mem_looked hfeatures f).mp hf
    -- two files of one name are one file, with one text
    obtain rfl := hnames path (List.mem_of_mem_take hpath) other (List.mem_of_mem_take hother)
      hfile.symm
    obtain rfl : text = code := by simpa using htext.symm.trans hcode.1
    exact hallows
  · intro hallows
    exact ⟨_, (mem_looked hfeatures _).mpr ⟨path, hpath, code, hcode.1, hcode.2, rfl⟩, hallows, rfl⟩

/-- **Whether a file that allows every origin is reported.** For every security file within the
limit: unless a reading of the check fails, that of a security file or that of the manifest, the file
is reported exactly if its first call of the middleware for origins allows every origin, and then the
check does not pass. So a call that allows every origin is reported wherever it stands, unless a call
before it allows less. -/
theorem any_origin_reported (p : Project) {listing : List String}
    (hlisting : p.disk.visibleFiles p.root = .ok listing) {path : Path}
    (hpath : path ∈ (Glob.find p.root listing securityFiles).take p.limits.securityFeatureFiles)
    {code : String} (hcode : HasCode p path code) :
    (∃ failure : Failure, Module.security.ReadingFails p failure ∧
      Module.security.runFresh p = .stopped "security" failure.label) ∨
    (Reports p path ↔ ∃ call place, IsFirstCall call code.toList place ∧ SetsAnyOrigin call) ∧
    (Reports p path → (Module.security.runFresh p).passed = false) ∧
    ∀ call place, IsOriginCall call → StandsAt call code.toList place → SetsAnyOrigin call →
      Reports p path ∨ ∃ earlier place', IsFirstCall earlier code.toList place' ∧ place' < place ∧
        ¬ SetsAnyOrigin earlier := by
  have hrun := eval_run p
  rw [hlisting, ok_bind] at hrun
  cases hanswer : answer p (Glob.find p.root listing securityFiles) with
  | error failure =>
    have hstop : (Module.security.scan p).eval p.disk p.root = .error failure := hrun.trans hanswer
    exact .inl ⟨failure, run_stops p failure hstop, Module.runFresh_of_error hstop⟩
  | ok v =>
    have hresult : Module.security.runFresh p = v := by
      rw [Module.runFresh_eq, Module.scan, hrun, hanswer]
      rfl
    have hnames : ∀ path ∈ Glob.find p.root listing securityFiles,
        ∀ other ∈ Glob.find p.root listing securityFiles, p.relative path = p.relative other →
          path = other := by
      intro path hpath other hother h
      obtain ⟨name, -, -, rfl⟩ := Glob.mem_find.mp hpath
      obtain ⟨name', -, -, rfl⟩ := Glob.mem_find.mp hother
      exact Path.eq_of_relativeTo_eq h
    obtain ⟨hiff, hpassed⟩ := answer_reports hanswer hnames hpath hcode
    rw [← hresult] at hiff hpassed
    refine .inr ⟨hiff, hpassed, fun call place hcall hstands hsets => ?_⟩
    obtain ⟨first, place', hfirst⟩ := exists_isFirstCall hcall hstands
    by_cases hallows : SetsAnyOrigin first
    · exact .inl (hiff.mpr ⟨first, place', hfirst, hallows⟩)
    · refine .inr ⟨first, place', hfirst, ?_, hallows⟩
      refine Nat.lt_of_le_of_ne (hfirst.first call place hcall hstands) fun heq => ?_
      -- at one place one call stands
      obtain rfl := hfirst.unique ⟨hcall, hstands, heq ▸ hfirst.first⟩
      exact hallows hsets

/-! ## Two orders of calls -/

/-- A call that allows every origin. -/
def openCall : List Char := "cors(\x7b origin: '*' \x7d)".toList

/-- It is one. -/
theorem isOriginCall_openCall : IsOriginCall openCall :=
  ⟨"cors".toList, [], "\x7b origin: '*' \x7d".toList, spells_self "cors",
    List.forall_mem_nil _, by decide, by decide +kernel⟩

theorem setsAnyOrigin_openCall : SetsAnyOrigin openCall :=
  ⟨"origin".toList, [], [' '], '\x27', '\x27', spells_self "origin",
    List.forall_mem_nil _, List.forall_mem_singleton.mpr (by decide), by decide, by decide,
    "cors(\x7b ".toList, " \x7d)".toList, by decide +kernel⟩

/-- That call, and then one that sets nothing. -/
def openFirst : String := "cors(\x7b origin: '*' \x7d); cors(); helmet()"

/-- The same calls in the other order. -/
def openLast : String := "cors(); cors(\x7b origin: '*' \x7d); helmet()"

/-- A project of one file. -/
def originsProject (code : String) : Project where
  disk := ⟨[(["p"], .directory), (["p", "app.js"], .file (Text.Utf8.encode code) 1)]⟩
  root := ⟨.top, ["p"]⟩

/-- Its file. -/
def appFile : Path := ⟨.top, ["p", "app.js"]⟩

/-- It has the file alone, which is one of the security files. -/
theorem visibleFiles_origins {code : String} (hcode : code = openFirst ∨ code = openLast) :
    (originsProject code).disk.visibleFiles (originsProject code).root = .ok ["app.js"] ∧
      Glob.find (originsProject code).root ["app.js"] securityFiles = [appFile] ∧
        HasCode (originsProject code) appFile code := by
  obtain rfl | rfl := hcode
  all_goals
    refine ⟨Disk.visibleFiles_of_sorted ["p"] ?_ ?_ ?_, ?_, ?_, ?_⟩
    all_goals decide +kernel

/-- What the check of such a project comes to: whether it passes, and the kinds of its issues. -/
theorem runFresh_origins {code : String} (hcode : code = openFirst ∨ code = openLast) {passed : Bool}
    {kinds : List Kind} (h : (answer (originsProject code) [appFile]).toOption.map
      (fun v => (v.passed, v.issues.map (·.kind))) = some (passed, kinds)) :
    (Module.security.runFresh (originsProject code)).passed = passed ∧
      (Module.security.runFresh (originsProject code)).issues.map (·.kind) = kinds := by
  obtain ⟨hvisible, hfind, -⟩ := visibleFiles_origins hcode
  have hrun := eval_run (originsProject code)
  rw [hvisible, ok_bind, hfind] at hrun
  rw [Module.runFresh_eq, Module.scan, hrun]
  cases hanswer : answer (originsProject code) [appFile] with
  | error failure =>
    rw [hanswer] at h
    cases h
  | ok v =>
    rw [hanswer] at h
    exact Prod.mk.inj (Option.some.inj h)

/-- The file in which the open call stands first is reported, and the check does not pass. -/
theorem first_any_origin_reported :
    let p := originsProject openFirst
    p.disk.visibleFiles p.root = .ok ["app.js"] ∧
      appFile ∈ (Glob.find p.root ["app.js"] securityFiles).take p.limits.securityFeatureFiles ∧
        HasCode p appFile openFirst ∧ Reports p appFile ∧
          (Module.security.runFresh p).passed = false := by
  intro p
  obtain ⟨hvisible, hfind, hcode⟩ := visibleFiles_origins (.inl rfl)
  have hpath : appFile ∈
      (Glob.find p.root ["app.js"] securityFiles).take p.limits.securityFeatureFiles := by
    rw [hfind]
    decide
  obtain ⟨-, hkinds⟩ : (Module.security.runFresh p).passed = false ∧
      (Module.security.runFresh p).issues.map (·.kind) = [.corsWildcard] :=
    runFresh_origins (.inl rfl) (by decide +kernel)
  have hfirst : IsFirstCall openCall openFirst.toList 0 :=
    ⟨isOriginCall_openCall, ⟨[], "; cors(); helmet()".toList, by decide +kernel, rfl⟩,
      fun _ place _ _ => Nat.zero_le place⟩
  refine ⟨hvisible, hpath, hcode, ?_⟩
  rcases any_origin_reported p hvisible hpath hcode with ⟨failure, -, hstop⟩ | ⟨hiff, hpassed, -⟩
  · rw [hstop] at hkinds
    cases hkinds
  · have hreports := hiff.mpr ⟨openCall, 0, hfirst, setsAnyOrigin_openCall⟩
    exact ⟨hreports, hpassed hreports⟩

/-- An open call is passed over where another call stands before it: nothing is said of the origins,
and the check passes. -/
theorem later_any_origin_unreported :
    let p := originsProject openLast
    p.disk.visibleFiles p.root = .ok ["app.js"] ∧
      appFile ∈ (Glob.find p.root ["app.js"] securityFiles).take p.limits.securityFeatureFiles ∧
        HasCode p appFile openLast ∧ IsOriginCall openCall ∧
          StandsAt openCall openLast.toList 8 ∧ SetsAnyOrigin openCall ∧ ¬ Reports p appFile ∧
            (Module.security.runFresh p).passed = true := by
  intro p
  obtain ⟨hvisible, hfind, hcode⟩ := visibleFiles_origins (.inr rfl)
  obtain ⟨hpassed, hkinds⟩ : (Module.security.runFresh p).passed = true ∧
      (Module.security.runFresh p).issues.map (·.kind) = [] :=
    runFresh_origins (.inr rfl) (by decide +kernel)
  refine ⟨hvisible, ?_, hcode, isOriginCall_openCall, ?_, setsAnyOrigin_openCall, fun hreports => ?_,
    hpassed⟩
  · rw [hfind]
    decide
  · exact ⟨"cors(); ".toList, "; helmet()".toList, by decide +kernel, by decide +kernel⟩
  · rw [Reports, List.map_eq_nil_iff.mp hkinds] at hreports
    cases hreports

end Preflight.Check.Security
