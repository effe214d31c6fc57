import Preflight.Proofs.Check.Reading
import Preflight.Proofs.Check.Stopping
import Preflight.Proofs.Disk.Shape
import Preflight.Proofs.Source.ErrorHandling
import Preflight.Proofs.Text.Parts

/-!
# Code around code

What is written around the code of a file takes no error handling away, neither from its text nor
from the project: the walk, the listing and the files within the limits are the same, and each of
their texts handles errors if it did (`Layout.MissesHandling.of_shaped`). So the project check does
not come to miss error handling (`code_around_keeps_error_handling`).

There is one exception. The file may be the manifest as well, by a link, and a manifest that is refused
stops the check, which then says nothing of error handling. With code around it the manifest may be
malformed, which stops nothing (`code_around_adds_issue`).
-/

set_option autoImplicit false

namespace Preflight

/-! ## Files that are written into -/

namespace Disk

variable {disk : Disk} {location : Location} {content : List UInt8} {time : Int}

/-- Another content of a file leaves the disk its shape. -/
theorem IsTree.nodesShaped_set (h : disk.IsTree)
    (hfile : disk.node? location = some (.file content time)) (content' : List UInt8)
    (time' : Int) : NodesShaped (fun c c' => c' = c ∨ c = content ∧ c' = content') disk.nodes
      (disk.set location (.file content' time')).nodes := by
  have hne : location ≠ [] := by
    rintro rfl
    cases hfile
  rw [nodes_set, if_pos (h.mem_locations hne hfile), Pairs.replace]
  refine List.forall₂_map_right_iff.mpr (List.forall₂_same.mpr ?_)
  rintro ⟨place, node⟩ hentry
  dsimp only
  by_cases hplace : place = location
  · subst hplace
    obtain rfl : Node.file content time = node :=
      Option.some.inj (hfile.symm.trans ((h.node?_eq_some_iff hne).mpr hentry))
    rw [if_pos rfl]
    exact ⟨rfl, .file time time' (.inr ⟨rfl, rfl⟩)⟩
  · rw [if_neg hplace]
    exact ⟨rfl, .refl (fun _ => .inl rfl) node⟩

end Disk

namespace Check

variable {p : Project} {disk' : Disk} {related : List UInt8 → List UInt8 → Prop}

namespace Layout

/-! ## What was not found -/

/-- That error handling is missing is an issue where none was found. -/
theorem noErrorHandler_mem_verdict_iff {f : Facts} :
    .issue .noErrorHandler ∈ (verdict f).issues ↔ f.handlesErrors = false := by
  have hmanifest : Finding.issue .noErrorHandler ∉ (manifestIssue? f.manifest).toList := by
    cases f.manifest <;> simp [manifestIssue?, Finding.issue]
  simp only [verdict, Verdict.ofFindings, List.mem_append, hmanifest, or_false]
  cases f.hasExample <;> cases f.readme.isSome <;> cases f.handlesErrors <;> decide

/-- Everything but the manifest can be found out about the project, and error handling is not
found. -/
structure MissesHandling (p : Project) : Prop where
  envExample : ∃ found, p.disk.isFile (p.root / ".env.example") = .ok found
  readme : ∃ file?, (readme? p).eval p.disk p.root = .ok file?
  folders : ∃ found, anyExists p usualFolders = .ok found
  handling : (handlesErrors p).eval p.disk p.root = .ok false

/-- Then a manifest that is not read stops the check. -/
theorem MissesHandling.stopped (h : MissesHandling p) {failure : Failure}
    (hload : Manifest.load p.disk p.root = .error failure) :
    Module.project.runFresh p = .stopped "project" failure.label := by
  obtain ⟨⟨_, hexample⟩, ⟨_, hreadme⟩, ⟨_, hfolders⟩, hhandles⟩ := h
  refine Module.runFresh_of_error ((eval_run p).trans ?_)
  rw [hexample, hreadme, hfolders, hhandles, hload]
  rfl

/-- **When error handling is reported as missing**: it is not found, and the manifest is read. -/
theorem noErrorHandler_mem_iff (p : Project) :
    .issue .noErrorHandler ∈ (Module.project.runFresh p).issues ↔
      MissesHandling p ∧ ∃ manifest, Manifest.load p.disk p.root = .ok manifest := by
  constructor
  · intro hmem
    rcases Module.project.runFresh_cases p with hresult | ⟨failure, -, hresult⟩
    · obtain ⟨facts, hfacts, hverdict⟩ := eval_run_eq_ok_iff.mp hresult
      rw [← hverdict, noErrorHandler_mem_verdict_iff] at hmem
      exact ⟨⟨⟨_, hfacts.hasExample⟩, ⟨_, hfacts.readme⟩, ⟨_, hfacts.hasFolders⟩,
        hmem ▸ hfacts.handlesErrors⟩, _, hfacts.manifest⟩
    · rw [hresult, Verdict.stopped, List.mem_singleton] at hmem
      cases hmem
  · rintro ⟨⟨⟨hasExample, hexample⟩, ⟨readme, hreadme⟩, ⟨hasFolders, hfolders⟩, hhandles⟩, manifest,
      hload⟩
    have heval : (Module.project.scan p).eval p.disk p.root = .ok _ :=
      eval_run_eq_ok_iff.mpr ⟨⟨hasExample, readme, hasFolders, false, manifest⟩,
        ⟨hexample, hreadme, hfolders, hhandles, hload⟩, rfl⟩
    rw [Module.runFresh_eq, heval]
    exact noErrorHandler_mem_verdict_iff.mpr rfl

/-- No file handles errors if each has no text, or one that does not. -/
theorem handledIn_eq_false_iff {files : List Path} : handledIn p files = .ok false ↔
    ∀ path ∈ files, ∃ text?, p.disk.readText? path = .ok text? ∧
      ∀ text, text? = some text → Source.handlesErrors text = false := by
  have hempty : Source.handlesErrors "" = false := by decide
  rw [handledIn, Scan.eval_anyOf_eq_false_iff]
  refine forall₂_congr fun path _ => ?_
  simp only [Scan.eval_bind, Scan.eval_code?, Scan.eval_pure, bind_eq_ok, map_eq_ok]
  constructor
  · rintro ⟨_, ⟨text?, hread, rfl⟩, hany⟩
    refine ⟨text?, hread, ?_⟩
    rintro text rfl
    cases hnil : text.isEmpty with
    | true => rw [String.isEmpty_iff.mp hnil, hempty]
    | false =>
      rw [Option.filter_some, if_pos (by simp [hnil])] at hany
      exact Except.ok.inj hany
  · rintro ⟨text?, hread, hnone⟩
    refine ⟨_, ⟨text?, hread, rfl⟩, congrArg Except.ok ?_⟩
    rw [Option.any_eq_false]
    intro text htext
    simp [hnone text (Option.filter_eq_some_iff.mp htext).1]

/-- Error handling is not found if it is found in the files of no pattern. -/
theorem handlesErrors_eq_false_iff (p : Project) :
    (handlesErrors p).eval p.disk p.root = .ok false ↔
      (∀ pattern ∈ errorHandlerFiles,
        (handlesErrorsIn p p.limits.errorHandlerFilesPerGlob pattern).eval p.disk p.root =
          .ok false) ∧
      (handlesErrorsIn p p.limits.errorHandlerMainFiles mainFiles).eval p.disk p.root =
        .ok false := by
  rw [handlesErrors, Scan.eval_bind, ← Scan.eval_anyOf_eq_false_iff, bind_eq_ok]
  constructor
  · rintro ⟨found, hfound, hmain⟩
    cases found with
    | true => cases hmain
    | false => exact ⟨hfound, hmain⟩
  · rintro ⟨hfound, hmain⟩
    exact ⟨false, hfound, hmain⟩

/-! ## What is not lost -/

/-- A text that handles errors has become one that does. -/
def KeepsHandling (related : List UInt8 → List UInt8 → Prop) : Prop :=
  ∀ content content', related content content' →
    Source.handlesErrors (Text.Utf8.fileText content) = true →
      Source.handlesErrors (Text.Utf8.fileText content') = true

/-- Error handling that is not found in files now was not found in them before. -/
theorem handledIn_of_shaped (h : p.disk.Shaped related disk') (hkeeps : KeepsHandling related)
    {files : List Path} (hafter : handledIn { p with disk := disk' } files = .ok false) :
    handledIn p files = .ok false := by
  refine handledIn_eq_false_iff.mpr fun path hpath => ?_
  obtain ⟨text?, hread, hnone⟩ := handledIn_eq_false_iff.mp hafter path hpath
  obtain ⟨hsame, hnotext⟩ | ⟨content, content', hrelated, hbefore, hread'⟩ := h.readText?_cases path
  · rw [hread] at hsame
    refine ⟨text?, hsame.symm, ?_⟩
    rintro text rfl
    exact absurd hsame.symm (hnotext text)
  · obtain rfl := Except.ok.inj (hread.symm.trans hread')
    refine ⟨_, hbefore, ?_⟩
    intro text htext
    obtain rfl := Option.some.inj htext
    rw [Bool.eq_false_iff]
    intro hhandles
    have hnot := hnone _ rfl
    rw [hkeeps content content' hrelated hhandles] at hnot
    cases hnot

/-- Nor was it in the files of a pattern. -/
theorem handlesErrorsIn_of_shaped (h : Disk.NodesShaped related p.disk.nodes disk'.nodes)
    (hkeeps : KeepsHandling related) {cap : Nat} {pattern : String}
    (hafter : (handlesErrorsIn { p with disk := disk' } cap pattern).eval disk' p.root = .ok false) :
    (handlesErrorsIn p cap pattern).eval p.disk p.root = .ok false := by
  have hfound := (eval_handlesErrorsIn { p with disk := disk' } cap pattern).symm.trans hafter
  obtain ⟨files, hfiles, hnone⟩ := bind_eq_ok.mp hfound
  rw [eval_handlesErrorsIn, ← h.visibleFiles_eq p.root, bind_eq_ok]
  exact ⟨files, hfiles, handledIn_of_shaped (Disk.shaped_of_nodes h) hkeeps hnone⟩

/-- Nor in the project. -/
theorem handlesErrors_of_shaped (h : Disk.NodesShaped related p.disk.nodes disk'.nodes)
    (hkeeps : KeepsHandling related)
    (hafter : (handlesErrors { p with disk := disk' }).eval disk' p.root = .ok false) :
    (handlesErrors p).eval p.disk p.root = .ok false := by
  obtain ⟨hpatterns, hmain⟩ := (handlesErrors_eq_false_iff { p with disk := disk' }).mp hafter
  exact (handlesErrors_eq_false_iff p).mpr
    ⟨fun pattern hpattern => handlesErrorsIn_of_shaped h hkeeps (hpatterns pattern hpattern),
      handlesErrorsIn_of_shaped h hkeeps hmain⟩

/-- There is a README that can be read, or none, if it is so now. -/
theorem readme?_isOk_of_shaped (h : p.disk.Shaped related disk')
    (hafter : ∃ file?, (readme? { p with disk := disk' }).eval disk' p.root = .ok file?) :
    ∃ file?, (readme? p).eval p.disk p.root = .ok file? := by
  obtain ⟨file?, hafter⟩ := hafter
  rw [eval_readme?]
  have hread := (eval_readme? { p with disk := disk' }).symm.trans hafter
  rw [firstFile?_congr fun name _ => h.isFile_eq _] at hread
  obtain ⟨name?, hname, hread⟩ := bind_eq_ok.mp hread
  rw [hname, ok_bind]
  cases name? with
  | none => exact ⟨_, rfl⟩
  | some name =>
    obtain ⟨text?, htext, -⟩ := map_eq_ok.mp hread
    obtain ⟨hsame, -⟩ | ⟨content, -, -, hbefore, -⟩ := h.readText?_cases (p.root / name)
    · exact ⟨_, map_eq_ok.mpr ⟨text?, hsame ▸ htext, rfl⟩⟩
    · exact ⟨_, map_eq_ok.mpr ⟨_, hbefore, rfl⟩⟩

/-- **Error handling that is missed now was missed before.** -/
theorem MissesHandling.of_shaped (h : Disk.NodesShaped related p.disk.nodes disk'.nodes)
    (hkeeps : KeepsHandling related) (hafter : MissesHandling { p with disk := disk' }) :
    MissesHandling p where
  envExample := by
    obtain ⟨found, hfound⟩ := hafter.envExample
    exact ⟨found, ((Disk.shaped_of_nodes h).isFile_eq _).symm.trans hfound⟩
  readme := readme?_isOk_of_shaped (Disk.shaped_of_nodes h) hafter.readme
  folders := by
    obtain ⟨found, hfound⟩ := hafter.folders
    rw [anyExists_congr fun name _ => (Disk.shaped_of_nodes h).pathExists_eq _] at hfound
    exact ⟨found, hfound⟩
  handling := handlesErrors_of_shaped h hkeeps hafter.handling

end Layout

/-! ## Code around code -/

/-- The project with code in front of the content of a file, and behind it. -/
def withCodeAround (p : Project) (location : Location) (front : String) (content : List UInt8)
    (back : String) (time : Int) : Project :=
  { p with
    disk := p.disk.set location
      (.file (Text.Utf8.encode front ++ content ++ Text.Utf8.encode back) time) }

/-- The manifest of the project is the text of the content and is refused, which stops the project
check. -/
def StopsAsManifest (p : Project) (content : List UInt8) : Prop :=
  ∃ failure : Failure, failure.IsLimit ∧
    p.disk.readText? (p.root / "package.json") = .ok (some (Text.Utf8.fileText content)) ∧
    Manifest.ofText (Text.Utf8.fileText content) = .error failure ∧
    Module.project.runFresh p = .stopped "project" failure.label

/-- A text with code around it handles errors if it did. -/
theorem keepsHandling_around (front : String) (content : List UInt8) (back : String) :
    Layout.KeepsHandling fun c c' => c' = c ∨
      c = content ∧ c' = Text.Utf8.encode front ++ content ++ Text.Utf8.encode back := by
  rintro c c' (rfl | ⟨rfl, rfl⟩) hhandles
  · exact hhandles
  · exact Source.handlesErrors_of_infix (Text.Utf8.fileText_infix front c back) hhandles

variable {location : Location} {content : List UInt8} {time : Int}

/-- **Code around the code of a file adds no issue of missing error handling**, unless the code is
the manifest as well and was refused. -/
theorem noErrorHandler_around (htree : p.disk.IsTree)
    (hfile : p.disk.node? location = some (.file content time)) (front back : String) (time' : Int)
    (hafter : .issue .noErrorHandler ∈
      (Module.project.runFresh (withCodeAround p location front content back time')).issues) :
    .issue .noErrorHandler ∈ (Module.project.runFresh p).issues ∨ StopsAsManifest p content := by
  have hshape := htree.nodesShaped_set hfile
    (Text.Utf8.encode front ++ content ++ Text.Utf8.encode back) time'
  obtain ⟨hmisses, manifest', hload'⟩ := (Layout.noErrorHandler_mem_iff _).mp hafter
  have hbefore : Layout.MissesHandling p :=
    hmisses.of_shaped hshape (keepsHandling_around front content back)
  cases hload : Manifest.load p.disk p.root with
  | ok manifest => exact .inl ((Layout.noErrorHandler_mem_iff p).mpr ⟨hbefore, manifest, hload⟩)
  | error failure =>
    -- the manifest was not read and is read now, so its text has changed
    have hdiffer : (withCodeAround p location front content back time').disk.readText?
        (p.root / "package.json") ≠ p.disk.readText? (p.root / "package.json") := by
      intro hsame
      have hboth := load_congr ((Disk.shaped_of_nodes hshape).isFile_eq _) hsame
      cases hload'.symm.trans (hboth.trans hload)
    obtain ⟨heq, -⟩ | ⟨c, c', hrelated, htext, htext'⟩ :=
      (Disk.shaped_of_nodes hshape).readText?_cases (p.root / "package.json")
    · exact absurd heq hdiffer
    · obtain rfl | ⟨rfl, -⟩ := hrelated
      · exact absurd (htext'.trans htext.symm) hdiffer
      · have hrefused := (Manifest.load_eq (Disk.isFile_of_readText? htext) htext).symm.trans hload
        exact .inr ⟨failure, Manifest.isLimit_of_ofText hrefused, htext, hrefused,
          hbefore.stopped hload⟩

/-- **What is written around code takes no error handling away.** A text that handles errors does so
with any text in front of it and behind it; whether it does is told by three forms alone, which are a
call of `catch` as it is written, one of three names of handlers in any case, and `app.use` with
`error` behind it on one line in any case; and the project check, for which code is written around
that of a file, comes to miss error handling only if it did, or if the code was a manifest that
stopped it. -/
theorem code_around_keeps_error_handling (front back : String) :
    (∀ code : String, Source.handlesErrors code = true →
      Source.handlesErrors (front ++ code ++ back) = true) ∧
    (∀ code : String, Source.handlesErrors code =
      Source.decisiveForms.any (·.occursIn code.toList)) ∧
    (∀ code : String, Source.handlesErrors code = true ↔ Source.Calls "catch" code.toList ∨
      (∃ name ∈ ["errorHandler", "error-handler", "errorMiddleware"],
        Pattern.Mentions name code.toList) ∨ Source.HandsOver code.toList) ∧
    ∀ (p : Project) (location : Location) (content : List UInt8) (time time' : Int),
      p.disk.IsTree → p.disk.node? location = some (.file content time) →
        .issue .noErrorHandler ∈
          (Module.project.runFresh (withCodeAround p location front content back time')).issues →
        .issue .noErrorHandler ∈ (Module.project.runFresh p).issues ∨ StopsAsManifest p content := by
  refine ⟨fun code hcode => ?_, Source.handlesErrors_eq_decisive,
    fun _ => Source.handlesErrors_iff, fun p location content time time' htree hfile =>
      noErrorHandler_around htree hfile front back time'⟩
  refine Source.handlesErrors_of_infix ⟨front.toList, back.toList, ?_⟩ hcode
  rw [String.toList_append, String.toList_append]

/-! ## Code that is a manifest -/

/-- A project at `/p` with a source file of the content, to which its manifest is a link. -/
def linkedProject (content : List UInt8) : Project where
  disk := ⟨[(["p"], .directory), (["p", "package.json"], .link "src/app.js"),
    (["p", "src"], .directory), (["p", "src", "app.js"], .file content 1)]⟩
  root := ⟨.top, ["p"]⟩

/-- The place of the source file. -/
def linkedFile : Location := ["p", "src", "app.js"]

/-- Code around the content is another content. -/
theorem withCodeAround_linked (front : String) (content : List UInt8) (back : String) :
    withCodeAround (linkedProject content) linkedFile front content back 1 =
      linkedProject (Text.Utf8.encode front ++ content ++ Text.Utf8.encode back) := rfl

theorem isTree_linked (content : List UInt8) : (linkedProject content).disk.IsTree where
  distinct :=
    show [["p"], ["p", "package.json"], ["p", "src"], linkedFile].Nodup by decide
  named :=
    show ∀ location ∈ [["p"], ["p", "package.json"], ["p", "src"], linkedFile],
      ∀ name ∈ location, Disk.LeadsDown name by decide +kernel
  above := by
    show ∀ location ∈ [["p"], ["p", "package.json"], ["p", "src"], linkedFile],
      (linkedProject content).disk.node? location.dropLast = some .directory
    rintro _ (_ | ⟨_, _ | ⟨_, _ | ⟨_, _ | ⟨_, ⟨⟩⟩⟩⟩⟩) <;> rfl

/-- The shape of the project does not depend on the content. -/
theorem nodesShaped_linked (content content' : List UInt8) :
    Disk.NodesShaped (fun c c' => c = content ∧ c' = content') (linkedProject content).disk.nodes
      (linkedProject content').disk.nodes :=
  .cons ⟨rfl, .directory⟩ (.cons ⟨rfl, .link _⟩
    (.cons ⟨rfl, .directory⟩ (.cons ⟨rfl, .file 1 1 ⟨rfl, rfl⟩⟩ .nil)))

/-- The source file is visible, and so is the link to it. -/
theorem visibleFiles_linked (content : List UInt8) :
    (linkedProject content).disk.visibleFiles (linkedProject content).root =
      .ok ["package.json", "src/app.js"] := by
  refine ((nodesShaped_linked [] content).visibleFiles_eq (linkedProject []).root).trans ?_
  exact Disk.visibleFiles_of_sorted ["p"] (by decide +kernel) (by decide +kernel)
    (by decide +kernel)

/-- The manifest is what the text of the source file writes. -/
theorem load_linked (content : List UInt8) :
    Manifest.load (linkedProject content).disk (linkedProject content).root =
      Manifest.ofText (Text.Utf8.fileText content) := by
  have hshape := Disk.shaped_of_nodes (nodesShaped_linked [] content)
  have htext : (linkedProject []).disk.readText? ((linkedProject []).root / "package.json") =
      .ok (some "") := by decide +kernel
  obtain ⟨-, hnone⟩ | ⟨_, _, ⟨-, rfl⟩, -, hread⟩ :=
    hshape.readText?_cases ((linkedProject []).root / "package.json")
  · exact absurd htext (hnone "")
  · exact Manifest.load_eq (Disk.isFile_of_readText? hread) hread

/-- A text that does not handle errors leaves the project without error handling. -/
theorem missesHandling_linked {content : List UInt8}
    (h : Source.handlesErrors (Text.Utf8.fileText content) = false) :
    Layout.MissesHandling (linkedProject content) := by
  have hempty : .issue .noErrorHandler ∈ (Module.project.runFresh (linkedProject [])).issues := by
    rw [Module.runFresh_eq_runWith _ (visibleFiles_linked [])]
    decide +kernel
  refine .of_shaped (nodesShaped_linked content []) ?_ ((Layout.noErrorHandler_mem_iff _).mp hempty).1
  rintro c c' ⟨rfl, -⟩ hhandles
  rw [h] at hhandles
  cases hhandles

/-- With a comment around it a call handles errors as it did; and a comment around brackets adds no
issue, for nothing handled errors before. -/
theorem comment_adds_no_issue :
    let p := linkedProject (Text.Utf8.encode "[]")
    Source.handlesErrors "catch (e)" = true ∧
      Source.handlesErrors ("// " ++ "catch (e)" ++ " // none") = true ∧
      p.disk.IsTree ∧ p.disk.node? linkedFile = some (.file (Text.Utf8.encode "[]") 1) ∧
      .issue .noErrorHandler ∈ (Module.project.runFresh (withCodeAround p linkedFile "// "
        (Text.Utf8.encode "[]") " // none" 1)).issues ∧
      .issue .noErrorHandler ∈ (Module.project.runFresh p).issues := by
  intro p
  obtain ⟨hkeeps, -, -, hproject⟩ := code_around_keeps_error_handling "// " " // none"
  have hcode : Source.handlesErrors "catch (e)" = true := by decide
  have hfile : p.disk.node? linkedFile = some (.file (Text.Utf8.encode "[]") 1) := rfl
  have hafter : .issue .noErrorHandler ∈ (Module.project.runFresh (withCodeAround p linkedFile "// "
      (Text.Utf8.encode "[]") " // none" 1)).issues := by
    rw [withCodeAround_linked, Module.runFresh_eq_runWith _ (visibleFiles_linked _)]
    decide +kernel
  refine ⟨hcode, hkeeps _ hcode, isTree_linked _, hfile, hafter, ?_⟩
  refine (hproject p linkedFile _ 1 1 (isTree_linked _) hfile hafter).resolve_right ?_
  rintro ⟨failure, -, -, hrefused, -⟩
  have hread : (Manifest.ofText (Text.Utf8.fileText (Text.Utf8.encode "[]"))).isOk = true := by
    decide +kernel
  rw [hrefused] at hread
  cases hread

/-- The long numeral with a name in front of it handles no errors: it holds neither of the letters
with which what handles errors is written. -/
theorem handlesErrors_named_longNumeral :
    Source.handlesErrors (String.ofList ('x' :: longNumeral)) = false := by
  have hletters : ∀ c ∈ 'x' :: longNumeral, c ≠ 'c' ∧ Pattern.sameLetter 'e' c = false := by
    intro c hc
    simp only [longNumeral, ones, List.cons_append, List.mem_cons, List.mem_append,
      List.mem_replicate, List.not_mem_nil, or_false] at hc
    obtain rfl | rfl | ⟨-, rfl⟩ | rfl := hc
    all_goals decide
  rw [Bool.eq_false_iff]
  intro hhandles
  have hforms := Source.calls_or_mentions_of_handlesErrors hhandles
  rw [String.toList_ofList] at hforms
  obtain ⟨_, -, hcall⟩ | hmentions := hforms
  · exact (hletters 'c' (hcall.subset (by simp))).1 rfl
  · obtain ⟨c, hc, hsame⟩ := hmentions.exists_letter (show 'e' ∈ "error".toList by decide)
    rw [(hletters c hc).2] at hsame
    cases hsame

/-- **Code around code adds an issue** where the code was a manifest that stopped the check: with a
name in front of it the long numeral is malformed. -/
theorem code_around_adds_issue :
    let content := Text.Utf8.encode (String.ofList longNumeral)
    let p := linkedProject content
    p.disk.visibleFiles p.root = .ok ["package.json", "src/app.js"] ∧
      p.disk.node? linkedFile = some (.file content 1) ∧
      .issue .noErrorHandler ∉ (Module.project.runFresh p).issues ∧
      .issue .noErrorHandler ∈
        (Module.project.runFresh (withCodeAround p linkedFile "x" content "" 1)).issues := by
  intro content p
  have hplain : ∀ c ∈ 'x' :: longNumeral, Text.Utf8.isPlain c = true := by
    rw [← List.all_eq_true]
    decide +kernel
  have htext : Text.Utf8.fileText content = String.ofList longNumeral := by
    refine Text.Utf8.fileText_encode fun c hc => hplain c (List.mem_cons_of_mem _ ?_)
    rwa [String.toList_ofList] at hc
  have htext' : Text.Utf8.fileText (Text.Utf8.encode "x" ++ content ++ Text.Utf8.encode "") =
      String.ofList ('x' :: longNumeral) := by
    have hdecode : Text.Utf8.decode content = longNumeral :=
      (Text.Utf8.decode_encode _).trans String.toList_ofList
    have hchars : ∀ chars : List Char, "x".toList ++ chars ++ "".toList = 'x' :: chars := by simp
    rw [Text.Utf8.fileText, Text.Utf8.decode_append_encode, Text.Utf8.decode_encode_append, hdecode,
      hchars, Text.Utf8.plainLineEnds_of_isPlain hplain]
  refine ⟨visibleFiles_linked content, rfl, fun hmem => ?_, ?_⟩
  · obtain ⟨-, manifest, hload⟩ := (Layout.noErrorHandler_mem_iff p).mp hmem
    obtain ⟨failure, hrefused⟩ := ofText_longNumeral
    rw [load_linked, htext, hrefused] at hload
    cases hload
  · rw [withCodeAround_linked]
    refine (Layout.noErrorHandler_mem_iff _).mpr ⟨missesHandling_linked ?_, .malformed, ?_⟩
    · rw [htext', handlesErrors_named_longNumeral]
    · rw [load_linked, htext', Manifest.ofText_ofList]
      -- no value starts with the name, whatever follows it
      have hname : ∀ rest, Manifest.ofChars ('x' :: rest) = .ok .malformed := fun _ => rfl
      exact hname longNumeral

end Check

end Preflight
