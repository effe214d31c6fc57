import Mathlib.Data.List.Flatten
import Preflight.Proofs.Check.Independence
import Preflight.Proofs.Disk.Listing

/-!
# How often a text is looked through

A store looks a text through for routes when it is asked for them and does not know them, and counts
how often it did. Whatever a project asks of its store is a sequence of **questions**: for the text
of a file, for its routes, or for the listing. Which ones a scan asks is told by the scan and by the
answers (`Scan.questions`), up to the failure that stops it, and on a disk that does not change they
do not depend on what the store remembers (`Query.questions_eq`).

**The law** (`texts_are_looked_through_once`): on a disk that does not change, the text of a file is
looked through once if its routes were asked for, however often and by whomever, and it is not
empty. Nothing else is looked through. What carries it is one invariant along the questions
(`Answered`): of the files that have a text, a store knows the routes of those that it was asked
for, and each of those was looked through once.

An empty or missing file leaves an entry that says so, and a file that cannot be asked about leaves
none. Neither is counted, so the invariant speaks of what is known only for files with a text.
-/

set_option autoImplicit false

namespace Preflight

/-- A path leads to a file whose text is not empty. A missing file has no text, and neither has a
path that the disk cannot be asked about. -/
def Disk.hasText (disk : Disk) (path : Path) : Bool :=
  match disk.readText? path with
  | .ok (some code) => code ≠ ""
  | .ok none | .error _ => false

/-- A text that was read has to be looked through if it is not empty. -/
theorem Disk.hasText_eq {disk : Disk} {path : Path} {text : Option String}
    (h : disk.readText? path = .ok text) : disk.hasText path = Store.needsExtraction text := by
  rw [hasText, h]
  cases text with
  | none => rfl
  | some code =>
    rw [Store.needsExtraction, Bool.eq_iff_iff]
    simp

/-- A file that cannot be read has no text. -/
theorem Disk.hasText_of_error {disk : Disk} {path : Path} {failure : Failure}
    (h : disk.readText? path = .error failure) : disk.hasText path = false := by
  rw [hasText, h]

namespace Store

/-! ## Questions -/

/-- What a store answers at once. -/
inductive Question
  | read (path : Path)
  | routes (path : Path)
  | listing
  deriving Repr, DecidableEq

/-- The store that a question leaves. -/
def ask (disk : Disk) (store : Store) : Question → Store
  | .read path => (store.read disk path).2
  | .routes path => (store.routes disk path).2
  | .listing => (store.listing disk).2

/-- The store that questions leave, asked one after the other. -/
def askAll (disk : Disk) (store : Store) (questions : List Question) : Store :=
  questions.foldl (ask disk) store

/-- The paths whose texts the store looks through to answer, told by its count. -/
def extractedBy (disk : Disk) (store : Store) : Question → List Path
  | .routes path =>
    if store.extractions < (store.routes disk path).2.extractions then [path] else []
  | .read _ | .listing => []

/-- The paths whose texts the store looks through for questions one after the other, in order. -/
def extracted (disk : Disk) : Store → List Question → List Path
  | _, [] => []
  | store, question :: rest =>
    store.extractedBy disk question ++ extracted disk (store.ask disk question) rest

section Counting

variable {disk : Disk} {store : Store} {root : Path}

/-- Questions after questions. -/
theorem askAll_append (disk : Disk) (store : Store) (before after : List Question) :
    store.askAll disk (before ++ after) = (store.askAll disk before).askAll disk after :=
  List.foldl_append

/-- The store counts at most one text for a question. -/
theorem extractions_routes (disk : Disk) (store : Store) (path : Path) :
    (store.routes disk path).2.extractions = store.extractions ∨
      (store.routes disk path).2.extractions = store.extractions + 1 := by
  obtain ⟨texts, hkeeps⟩ := read_keeps disk path store
  obtain ⟨_, -, hroutes⟩ | ⟨_, _, -, -, hroutes⟩ | ⟨_, text, -, -, -, hroutes⟩ :=
    routes_cases disk path store
  all_goals rw [hroutes]
  · exact .inl (by rw [hkeeps])
  · exact .inl rfl
  · cases hneeds : needsExtraction text with
    | true => exact .inr rfl
    | false => exact .inl rfl

/-- **What the store counts for a question is what it looked through.** -/
theorem extractions_ask (disk : Disk) (store : Store) (question : Question) :
    (store.ask disk question).extractions =
      store.extractions + (store.extractedBy disk question).length := by
  cases question with
  | read path =>
    obtain ⟨texts, hkeeps⟩ := read_keeps disk path store
    rw [ask, hkeeps]
    rfl
  | routes path =>
    show (store.routes disk path).2.extractions = _
    obtain hsame | hmore := extractions_routes disk store path
    · simp [extractedBy, hsame]
    · simp [extractedBy, hmore]
  | listing =>
    obtain ⟨files, hkeeps⟩ := listing_keeps disk store
    rw [ask, hkeeps]
    rfl

/-- And so along questions. -/
theorem extractions_askAll (disk : Disk) (questions : List Question) : ∀ store : Store,
    (store.askAll disk questions).extractions =
      store.extractions + (store.extracted disk questions).length := by
  induction questions with
  | nil => exact fun _ => rfl
  | cons question rest ih =>
    intro store
    show ((store.ask disk question).askAll disk rest).extractions = _
    rw [ih, extractions_ask, extracted, List.length_append, Nat.add_assoc]

/-- For a question that is not for the routes of a path, its text is not looked through. -/
theorem count_extractedBy_of_ne (disk : Disk) (store : Store) {question : Question} {path : Path}
    (hne : question ≠ .routes path) : (store.extractedBy disk question).count path = 0 := by
  cases question with
  | read other => rfl
  | listing => rfl
  | routes other =>
    have hother : other ≠ path := fun heq => hne (congrArg Question.routes heq)
    rw [extractedBy]
    split
    · simp [hother]
    · rfl

/-- A question keeps a store faithful. -/
theorem Faithful.ask (h : Faithful disk root store) (question : Question) :
    Faithful disk root (store.ask disk question) := by
  cases question with
  | read path => exact (h.read path).2
  | routes path => exact (h.routes path).2
  | listing => exact h.listing.2

/-! ## Known routes -/

/-- The store remembers the routes of a path under the stamp that the path has. -/
def Knows (disk : Disk) (store : Store) (path : Path) : Prop :=
  ∃ stamp found, disk.stamp? path = .ok stamp ∧
    store.routeLists.lookup path = some (stamp, found)

/-- Nothing is counted for routes that are known. -/
theorem Knows.extractedBy {path : Path} (h : store.Knows disk path) :
    store.extractedBy disk (.routes path) = [] := by
  obtain ⟨stamp, found, hstamp, hlookup⟩ := h
  rw [Store.extractedBy, routes_of_lookup hstamp hlookup, if_neg (Nat.lt_irrefl _)]

/-- **Routes that are not known are looked for in the text**, if there is any. -/
theorem Faithful.extractedBy (h : Faithful disk root store) {path : Path}
    (hunknown : ¬ store.Knows disk path) :
    store.extractedBy disk (.routes path) = if disk.hasText path then [path] else [] := by
  have hread := (h.read path).1
  obtain ⟨texts, hkeeps⟩ := read_keeps disk path store
  obtain ⟨failure, hfails, hroutes⟩ | ⟨stamp, found, hstamp, hlookup, -⟩ |
    ⟨stamp, text, -, -, htext, hroutes⟩ := routes_cases disk path store
  · rw [Store.extractedBy, hroutes, hkeeps, Disk.hasText_of_error (hread.symm.trans hfails)]
    simp
  · exact absurd ⟨stamp, found, hstamp, hlookup⟩ hunknown
  · rw [Store.extractedBy, hroutes, Disk.hasText_eq (hread.symm.trans htext)]
    cases needsExtraction text <;> simp

/-- Of a file with a text, the routes are known once they were asked for, and not before. -/
theorem Faithful.knows_ask (h : Faithful disk root store) (question : Question) {path : Path}
    (htext : disk.hasText path = true) :
    (store.ask disk question).Knows disk path ↔
      store.Knows disk path ∨ question = .routes path := by
  cases question with
  | read other =>
    obtain ⟨texts, hkeeps⟩ := read_keeps disk other store
    rw [Store.ask, hkeeps]
    simp [Knows]
  | listing =>
    obtain ⟨files, hkeeps⟩ := listing_keeps disk store
    rw [Store.ask, hkeeps]
    simp [Knows]
  | routes other =>
    obtain ⟨texts, hkeeps⟩ := read_keeps disk other store
    obtain ⟨failure, hfails, hroutes⟩ | ⟨stamp, found, hstamp, hlookup, hroutes⟩ |
      ⟨stamp, text, hstamp, -, -, hroutes⟩ := routes_cases disk other store
    all_goals rw [Store.ask, hroutes]
    · have hne : other ≠ path := by
        rintro rfl
        rw [Disk.hasText_of_error ((h.read other).1.symm.trans hfails)] at htext
        cases htext
      rw [hkeeps]
      simp [Knows, hne]
    · refine ⟨.inl, fun hor => hor.elim id fun heq => ?_⟩
      cases heq
      exact ⟨stamp, found, hstamp, hlookup⟩
    · by_cases hne : path = other
      · subst hne
        simp only [or_true, iff_true]
        exact ⟨stamp, _, hstamp, lookup_remember_self path _ _⟩
      · simp [Knows, lookup_remember_of_ne _ _ hne, Ne.symm hne]

/-! ## The invariant -/

/-- **The store after questions**, with what it looked through for them. -/
structure Answered (disk : Disk) (root : Path) (asked : List Question) (log : List Path)
    (store : Store) : Prop where
  faithful : store.Faithful disk root
  knows_iff : ∀ path, disk.hasText path = true →
    (store.Knows disk path ↔ .routes path ∈ asked)
  count_eq : ∀ path, log.count path = if .routes path ∈ asked ∧ disk.hasText path then 1 else 0

/-- At first nothing was asked. -/
theorem Answered.fresh (disk : Disk) (root : Path) : Answered disk root [] [] (.fresh root) where
  faithful := .fresh disk root
  knows_iff := by
    intro path _
    simp [Knows, Store.fresh]
  count_eq := by
    intro path
    simp

/-- **One more question.** Only routes that are asked for the first time are looked for. -/
theorem Answered.ask {asked : List Question} {log : List Path}
    (h : Answered disk root asked log store) (question : Question) :
    Answered disk root (asked ++ [question]) (log ++ store.extractedBy disk question)
      (store.ask disk question) where
  faithful := h.faithful.ask question
  knows_iff := by
    intro path htext
    rw [h.faithful.knows_ask question htext, h.knows_iff path htext]
    simp [eq_comm]
  count_eq := by
    intro path
    rw [List.count_append, h.count_eq path]
    by_cases hquestion : question = .routes path
    · subst hquestion
      by_cases hknows : store.Knows disk path
      · -- Known routes of a file with a text were asked for before.
        rw [hknows.extractedBy]
        have hasked : disk.hasText path = true → .routes path ∈ asked :=
          fun htext => (h.knows_iff path htext).mp hknows
        cases htext : disk.hasText path with
        | false => simp
        | true => simp [hasked htext]
      · rw [h.faithful.extractedBy hknows]
        cases htext : disk.hasText path with
        | false => simp
        | true => simp [mt (h.knows_iff path htext).mpr hknows]
    · rw [count_extractedBy_of_ne disk store hquestion]
      simp [Ne.symm hquestion]

/-- **Questions one after the other.** -/
theorem Answered.askAll (questions : List Question) : ∀ {store : Store} {asked : List Question}
    {log : List Path}, Answered disk root asked log store →
      Answered disk root (asked ++ questions) (log ++ store.extracted disk questions)
        (store.askAll disk questions) := by
  induction questions with
  | nil =>
    intro store asked log h
    simpa [extracted, Store.askAll] using h
  | cons question rest ih =>
    intro store asked log h
    have hrest := ih (h.ask question)
    rw [List.append_assoc, List.append_assoc] at hrest
    exact hrest

end Counting

end Store

namespace Scan

variable {α β : Type} {disk : Disk} {root : Path}

/-! ## What a scan asks -/

/-- The questions that follow on an answer; a failure ends them. -/
def onAnswer (next : β → List Store.Question) : Except Failure β → List Store.Question
  | .error _ => []
  | .ok answer => next answer

/-- The questions that a scan asks of a store, in order. -/
def questions (disk : Disk) : Scan α → Store → List Store.Question
  | .done _, _ | .stop _, _ => []
  | .read path next, store =>
    let (answer, after) := store.read disk path
    .read path :: onAnswer (fun text => (next text).questions disk after) answer
  | .routes path next, store =>
    let (answer, after) := store.routes disk path
    .routes path :: onAnswer (fun found => (next found).questions disk after) answer
  | .listing next, store =>
    let (answer, after) := store.listing disk
    .listing :: onAnswer (fun files => (next files).questions disk after) answer

/-- What follows on an answer leaves the store that its questions leave. -/
theorem afterAnswer_eq_askAll {next : β → Store → Except Failure α × Store}
    {questions : β → Store → List Store.Question} (answer : Except Failure β × Store)
    (h : ∀ b store, (next b store).2 = store.askAll disk (questions b store)) :
    (afterAnswer next answer).2 =
      answer.2.askAll disk (onAnswer (fun b => questions b answer.2) answer.1) := by
  obtain ⟨_ | b, store⟩ := answer
  · rfl
  · exact h b store

/-- **A scan leaves the store that its questions leave**, also when a failure stops it. -/
theorem run_eq_askAll (disk : Disk) (scan : Scan α) : ∀ store : Store,
    (scan.run disk store).2 = store.askAll disk (scan.questions disk store) := by
  induction scan with
  | done a => exact fun _ => rfl
  | stop failure => exact fun _ => rfl
  | read path next ih => exact fun store => afterAnswer_eq_askAll (store.read disk path) ih
  | routes path next ih => exact fun store => afterAnswer_eq_askAll (store.routes disk path) ih
  | listing next ih => exact fun store => afterAnswer_eq_askAll (store.listing disk) ih

/-- The questions that a scan asks of a disk, with the listing of the project at hand. -/
def questionsWith (disk : Disk) (root : Path) (listing : Except Failure (List String)) :
    Scan α → List Store.Question
  | .done _ | .stop _ => []
  | .read path next =>
    .read path ::
      onAnswer (fun text => (next text).questionsWith disk root listing) (disk.readText? path)
  | .routes path next =>
    .routes path ::
      onAnswer (fun found => (next found).questionsWith disk root listing)
        ((disk.readText? path).map (Store.routesOf root path))
  | .listing next =>
    .listing :: onAnswer (fun files => (next files).questionsWith disk root listing) listing

/-- What is asked after an answer is what is asked after the known answer. -/
theorem onAnswer_eq {P : Store → Prop} {next : β → Store → List Store.Question}
    {answer : Except Failure β × Store} {known : Except Failure β} {f : β → List Store.Question}
    (hanswer : answer.1 = known ∧ P answer.2)
    (hnext : ∀ b store, P store → next b store = f b) :
    onAnswer (fun b => next b answer.2) answer.1 = onAnswer f known := by
  obtain ⟨_ | b, store⟩ := answer
  all_goals obtain ⟨rfl, hstore⟩ := hanswer
  · rfl
  · exact hnext b store hstore

/-- **A scan asks a faithful store what it asks the disk.** -/
theorem questions_eq {listing : Except Failure (List String)}
    (hfiles : disk.visibleFiles root = listing) (scan : Scan α) :
    ∀ store : Store, store.Faithful disk root →
      scan.questions disk store = scan.questionsWith disk root listing := by
  induction scan with
  | done a => exact fun _ _ => rfl
  | stop failure => exact fun _ _ => rfl
  | read path next ih =>
    intro store h
    exact congrArg (Store.Question.read path :: ·) (onAnswer_eq (h.read path) ih)
  | routes path next ih =>
    intro store h
    exact congrArg (Store.Question.routes path :: ·) (onAnswer_eq (h.routes path) ih)
  | listing next ih =>
    intro store h
    exact congrArg (Store.Question.listing :: ·) (onAnswer_eq (hfiles ▸ h.listing) ih)

end Scan

namespace Query

variable {disk : Disk} {root : Path}

/-! ## What a project asks -/

/-- The questions that a project puts to its store for what it asks for, in order. -/
def questions (disk : Disk) (store : Store) : Query → List Store.Question
  | .read path => [.read path]
  | .routes path => [.routes path]
  | .listing => [.listing]
  | .find patterns => (Project.find ⟨disk, store.root, {}⟩ patterns).questions disk store
  | .check m limits => (m.scan ⟨disk, store.root, limits⟩).questions disk store

/-- The questions for one thing after the other. -/
def questionsAll (disk : Disk) : Store → List Query → List Store.Question
  | _, [] => []
  | store, query :: rest =>
    query.questions disk store ++ questionsAll disk (query.leave disk store) rest

/-- What is asked for leaves the store that its questions leave. -/
theorem leave_eq_askAll (disk : Disk) (store : Store) (query : Query) :
    query.leave disk store = store.askAll disk (query.questions disk store) := by
  cases query with
  | read path => rfl
  | routes path => rfl
  | listing => rfl
  | find patterns => exact Scan.run_eq_askAll disk _ store
  | check m limits => exact Scan.run_eq_askAll disk _ store

/-- And so one after the other. -/
theorem leaveAll_eq_askAll (disk : Disk) (queries : List Query) : ∀ store : Store,
    leaveAll disk store queries = store.askAll disk (questionsAll disk store queries) := by
  induction queries with
  | nil => exact fun _ => rfl
  | cons query rest ih =>
    intro store
    rw [questionsAll, Store.askAll_append, ← leave_eq_askAll]
    exact ih _

/-- **Faithful stores are asked the same**, whatever they remember. -/
theorem questions_eq {store : Store} (h : store.Faithful disk root) (query : Query) :
    query.questions disk store = query.questions disk (.fresh root) := by
  have hfresh := Store.Faithful.fresh disk root
  cases query with
  | read path => rfl
  | routes path => rfl
  | listing => rfl
  | find patterns =>
    rw [questions, questions, h.root_eq, Scan.questions_eq rfl _ store h]
    exact (Scan.questions_eq rfl _ _ hfresh).symm
  | check m limits =>
    rw [questions, questions, h.root_eq, Scan.questions_eq rfl _ store h]
    exact (Scan.questions_eq rfl _ _ hfresh).symm

/-- So all the questions are those for each thing on its own. -/
theorem questionsAll_eq (queries : List Query) : ∀ {store : Store}, store.Faithful disk root →
    questionsAll disk store queries = queries.flatMap fun query =>
      query.questions disk (.fresh root) := by
  induction queries with
  | nil => exact fun _ => rfl
  | cons query rest ih =>
    intro store h
    have hafter : (query.leave disk store).Faithful disk root := leaveAll_faithful [query] h
    rw [questionsAll, List.flatMap_cons, ih hafter, questions_eq h]

end Query

/-- Checks one after the other leave the store that they leave when they are asked for. -/
theorem Project.runAll_store (p : Project) (modules : List Check.Module) : ∀ {store : Store},
    store.root = p.root →
      (p.runAll modules store).2 =
        Query.leaveAll p.disk store (modules.map fun m => .check m p.limits) := by
  induction modules with
  | nil => exact fun _ => rfl
  | cons m rest ih =>
    intro store h
    have hleave : (m.run p store).2 = (Query.check m p.limits).leave p.disk store := by
      rw [Query.leave, h]
    have hroot : (m.run p store).2.root = p.root := by
      rw [hleave, Query.leave_root, h]
    show (p.runAll rest (m.run p store).2).2 = _
    rw [ih hroot, hleave]
    rfl

namespace Query

/-- What two checks both ask is asked twice at least where both of them run. -/
theorem two_le_count_questionsAll (p : Project) {m m' : Check.Module} {modules : List Check.Module}
    (hsub : [m, m'].Sublist modules) {question : Store.Question}
    (hm : question ∈ (m.scan p).questions p.disk (.fresh p.root))
    (hm' : question ∈ (m'.scan p).questions p.disk (.fresh p.root)) :
    2 ≤ (questionsAll p.disk (.fresh p.root)
      (modules.map fun m => .check m p.limits)).count question := by
  rw [questionsAll_eq _ (.fresh p.disk p.root), List.flatMap_map]
  have hone := List.count_pos_iff.mpr hm
  have htwo := List.count_pos_iff.mpr hm'
  calc 2 ≤ ((m.scan p).questions p.disk (.fresh p.root)).count question +
        ((m'.scan p).questions p.disk (.fresh p.root)).count question := by omega
    _ = ([m, m'].flatMap fun m => (m.scan p).questions p.disk (.fresh p.root)).count question := by
        simp
    _ ≤ _ := (hsub.flatMap _).count_le _

/-- **Texts are looked through once.** Whatever a project asks of one store on a disk that does not
change, the store counts the texts that were looked through for its questions: that of each file
with a text whose routes were asked for, once, and no other. So where all checks run, and both the
authentication check and the API check ask for the routes of a file with a text, its routes are
asked for twice at least, and its text is looked through once. -/
theorem texts_are_looked_through_once (p : Project) (queries : List Query) :
    let asked := questionsAll p.disk (.fresh p.root) queries
    let log := Store.extracted p.disk (.fresh p.root) asked
    let checks := questionsAll p.disk (.fresh p.root)
      (Check.Module.all.map fun m => .check m p.limits)
    leaveAll p.disk (.fresh p.root) queries = Store.askAll p.disk (.fresh p.root) asked ∧
      (leaveAll p.disk (.fresh p.root) queries).extractions = log.length ∧
      (∀ path, log.count path =
        if .routes path ∈ asked ∧ p.disk.hasText path then 1 else 0) ∧
      (p.runAll Check.Module.all (.fresh p.root)).2 =
        Store.askAll p.disk (.fresh p.root) checks ∧
      ∀ path, p.disk.hasText path = true →
        .routes path ∈ (Check.Module.auth.scan p).questions p.disk (.fresh p.root) →
        .routes path ∈ (Check.Module.api.scan p).questions p.disk (.fresh p.root) →
          2 ≤ checks.count (.routes path) ∧
            (Store.extracted p.disk (.fresh p.root) checks).count path = 1 := by
  have hcount : ∀ asked path, (Store.extracted p.disk (.fresh p.root) asked).count path =
      if .routes path ∈ asked ∧ p.disk.hasText path then 1 else 0 :=
    fun asked => ((Store.Answered.fresh p.disk p.root).askAll asked).count_eq
  intro asked log checks
  refine ⟨leaveAll_eq_askAll p.disk queries _, ?_, hcount asked, ?_, ?_⟩
  · rw [leaveAll_eq_askAll, Store.extractions_askAll]
    exact Nat.zero_add _
  · rw [p.runAll_store _ rfl, leaveAll_eq_askAll]
  · intro path htext hauth hapi
    have htwice : 2 ≤ checks.count (.routes path) :=
      two_le_count_questionsAll p (by decide) hauth hapi
    have hasked : .routes path ∈ checks :=
      List.count_pos_iff.mp (Nat.lt_of_lt_of_le Nat.zero_lt_two htwice)
    exact ⟨htwice, by rw [hcount, if_pos ⟨hasked, htext⟩]⟩

/-- A project at `/p` with a route file and an empty one. -/
def routesProject : Project where
  disk := ⟨[(["p"], .directory), (["p", "routes"], .directory),
    (["p", "routes", "a.js"], .file (Text.Utf8.encode "app.get('/users', h)") 1),
    (["p", "routes", "b.js"], .file [] 1)]⟩
  root := ⟨.top, ["p"]⟩

/-- Its route file is looked through once for two questions, and once for all the checks, of which
two ask for its routes. Its empty file is not looked through. -/
theorem route_file_is_looked_through_once :
    let p := routesProject
    let file : Path := p.root / "routes/a.js"
    let empty : Path := p.root / "routes/b.js"
    let asked := questionsAll p.disk (.fresh p.root) [.routes file, .routes empty, .routes file]
    let checks := questionsAll p.disk (.fresh p.root)
      (Check.Module.all.map fun m => .check m p.limits)
    (Store.extracted p.disk (.fresh p.root) asked).count file = 1 ∧
      (Store.extracted p.disk (.fresh p.root) asked).count empty = 0 ∧
      2 ≤ checks.count (.routes file) ∧
      (Store.extracted p.disk (.fresh p.root) checks).count file = 1 := by
  intro p file empty asked checks
  have hfiles : p.disk.visibleFiles p.root = .ok ["routes/a.js", "routes/b.js"] :=
    Disk.visibleFiles_of_sorted ["p"] (by decide +kernel) (by decide +kernel) (by decide +kernel)
  have hfresh := Store.Faithful.fresh p.disk p.root
  obtain ⟨-, -, hcount, -, hshared⟩ :=
    texts_are_looked_through_once p [.routes file, .routes empty, .routes file]
  refine ⟨(hcount file).trans (by decide +kernel), (hcount empty).trans (by decide +kernel),
    hshared file (by decide +kernel) ?_ ?_⟩
  · rw [Scan.questions_eq hfiles _ _ hfresh]
    decide +kernel
  · rw [Scan.questions_eq hfiles _ _ hfresh]
    decide +kernel

end Query

end Preflight
