import Mathlib.Data.List.Forall2
import Preflight.Proofs.Disk.Walk
import Preflight.Scan

/-!
# Answers from the disk

The equations of `Scan.eval`, which answers every question from the disk: a question is the reading
of the disk, sequence is sequence, and a list of questions is asked in turn. With them a check is
read as a program over readings of the disk, and `eval` itself is not opened again.
-/

set_option autoImplicit false

namespace Preflight

/-- A path that was stamped is read afresh as the disk has it. -/
theorem Store.readFresh_eq {disk : Disk} {path : Path} {stamp : Option Stamp}
    (h : disk.stamp? path = .ok stamp) : readFresh disk path stamp = disk.readText? path := by
  cases stamp with
  | none => rw [readFresh, Disk.readText?_of_stamp_none h]; rfl
  | some stamp => rfl

namespace Scan

variable {α β : Type} (disk : Disk) (root : Path)

/-! ## Questions -/

/-- A question for a text is a reading of the file. -/
theorem eval_read (path : Path) (next : Option String → Scan α) :
    (Scan.read path next).eval disk root =
      disk.readText? path >>= fun text => (next text).eval disk root := by
  show (disk.stamp? path >>= fun stamp => Store.readFresh disk path stamp >>= fun text =>
    (next text).eval disk root) = _
  cases hstamp : disk.stamp? path with
  | error failure => rw [Disk.readText?_error hstamp]; rfl
  | ok stamp => rw [← Store.readFresh_eq hstamp]; rfl

/-- A question for routes is a reading of the file, of which the routes are taken. -/
theorem eval_routes (path : Path) (next : List Route → Scan α) :
    (Scan.routes path next).eval disk root =
      disk.readText? path >>= fun text =>
        (next (Store.routesOf root path text)).eval disk root := by
  show (disk.stamp? path >>= fun stamp => Store.readFresh disk path stamp >>= fun text =>
    (next (Store.routesOf root path text)).eval disk root) = _
  cases hstamp : disk.stamp? path with
  | error failure => rw [Disk.readText?_error hstamp]; rfl
  | ok stamp => rw [← Store.readFresh_eq hstamp]; rfl

/-- A question for the listing is a walk over the project. -/
theorem eval_listing (next : List String → Scan α) :
    (Scan.listing next).eval disk root =
      disk.visibleFiles root >>= fun files => (next files).eval disk root := rfl

/-- Answers every question from the disk, with the listing at hand. -/
def evalWith (listing : Except Failure (List String)) : Scan α → Except Failure α
  | .done a => .ok a
  | .stop failure => .error failure
  | .read path next => disk.readText? path >>= fun text => (next text).evalWith listing
  | .routes path next => disk.readText? path >>= fun text =>
    (next (Store.routesOf root path text)).evalWith listing
  | .listing next => listing >>= fun files => (next files).evalWith listing

/-- A listing at hand may stand for the walk over the project. -/
theorem eval_eq_evalWith {listing : Except Failure (List String)}
    (h : disk.visibleFiles root = listing) (scan : Scan α) :
    scan.eval disk root = scan.evalWith disk root listing := by
  induction scan with
  | done a => rfl
  | stop failure => rfl
  | read path next ih => simp only [eval_read, evalWith, ih]
  | routes path next ih => simp only [eval_routes, evalWith, ih]
  | listing next ih => simp only [eval_listing, evalWith, ih, h]

/-! ## Sequence -/

/-- A known answer is the answer. -/
@[simp] theorem eval_pure (a : α) : (pure a : Scan α).eval disk root = .ok a := rfl

/-- The second program is answered after the first. -/
@[simp] theorem eval_bind (scan : Scan α) (f : α → Scan β) :
    (scan >>= f).eval disk root = scan.eval disk root >>= fun a => (f a).eval disk root := by
  show (scan.andThen f).eval disk root = _
  induction scan with
  | done a => rfl
  | stop failure => rfl
  | read path next ih => simp only [andThen, eval_read, ih, bind_assoc]
  | routes path next ih => simp only [andThen, eval_routes, ih, bind_assoc]
  | listing next ih => simp only [andThen, eval_listing, ih, bind_assoc]

/-- An answer that is known already, or a failure, stays what it is. -/
@[simp] theorem eval_ofExcept (answer : Except Failure α) :
    (ofExcept answer).eval disk root = answer := by
  cases answer <;> rfl

/-- A reading of the disk inside a scan stays what it is. -/
@[simp] theorem eval_lift (answer : Except Failure α) :
    (liftM answer : Scan α).eval disk root = answer :=
  eval_ofExcept disk root answer

/-! ## Programs of questions -/

/-- The text of a file is asked for. -/
@[simp] theorem eval_text (path : Path) : (Scan.text path).eval disk root = disk.readText? path := by
  rw [Scan.text, eval_read]
  exact bind_pure _

/-- A missing or empty text is passed over. -/
@[simp] theorem eval_code? (path : Path) :
    (code? path).eval disk root =
      (disk.readText? path).map fun text => text.filter (!·.isEmpty) := by
  rw [code?, eval_read]
  cases disk.readText? path <;> rfl

/-- The routes of a file are asked for. -/
@[simp] theorem eval_routesIn (path : Path) :
    (routesIn path).eval disk root = (disk.readText? path).map (Store.routesOf root path) := by
  rw [routesIn, eval_routes]
  cases disk.readText? path <;> rfl

/-- The visible files are asked for. -/
@[simp] theorem eval_files : files.eval disk root = disk.visibleFiles root := by
  rw [files, eval_listing]
  exact bind_pure _

/-- The files that patterns match are found in the listing. -/
theorem eval_find (p : Project) {patterns : List String} (h : patterns ≠ []) :
    (p.find patterns).eval disk root =
      (disk.visibleFiles root).map fun files => Glob.find p.root files patterns := by
  obtain ⟨pattern, more, rfl⟩ := List.exists_cons_of_ne_nil h
  rw [Project.find, eval_listing]
  cases disk.visibleFiles root <;> rfl

/-- A list of questions is answered in turn. -/
@[simp] theorem eval_forEach (items : List β) (question : β → Scan α) :
    (forEach items question).eval disk root =
      items.mapM fun item => (question item).eval disk root := by
  induction items with
  | nil => rfl
  | cons item rest ih =>
    have hseq : forEach (item :: rest) question =
        question item >>= fun answer => forEach rest question >>= fun answers =>
          pure (answer :: answers) := rfl
    rw [hseq, eval_bind, List.mapM_cons]
    simp only [eval_bind, eval_pure, ih]
    rfl

/-- No item has a property. -/
@[simp] theorem eval_anyOf_nil (question : β → Scan Bool) :
    (anyOf [] question).eval disk root = .ok false := rfl

/-- Items after the first that has the property are not asked about. -/
theorem eval_anyOf_cons (item : β) (rest : List β) (question : β → Scan Bool) :
    (anyOf (item :: rest) question).eval disk root =
      (question item).eval disk root >>= fun found =>
        if found then .ok true else (anyOf rest question).eval disk root := by
  have hseq : anyOf (item :: rest) question =
      question item >>= fun found => if found then pure true else anyOf rest question := rfl
  rw [hseq, eval_bind]
  congr
  funext found
  cases found <;> rfl

/-- No item has the property if the answer about each is that it has not. -/
theorem eval_anyOf_eq_false_iff {items : List β} {question : β → Scan Bool} :
    (anyOf items question).eval disk root = .ok false ↔
      ∀ item ∈ items, (question item).eval disk root = .ok false := by
  induction items with
  | nil => simp
  | cons item rest ih =>
    rw [eval_anyOf_cons, List.forall_mem_cons, ← ih]
    cases (question item).eval disk root with
    | error failure => simp [bind, Except.bind]
    | ok found => cases found <;> simp [bind, Except.bind]

/-- Items that have the property on one disk where they have it on another are found alike. -/
theorem eval_anyOf_congr {disk disk' : Disk} {root : Path} {items : List β}
    {question question' : β → Scan Bool}
    (h : ∀ item ∈ items,
      (question' item).eval disk' root = (question item).eval disk root) :
    (anyOf items question').eval disk' root = (anyOf items question).eval disk root := by
  induction items with
  | nil => rfl
  | cons item rest ih =>
    obtain ⟨hitem, hrest⟩ := List.forall_mem_cons.mp h
    rw [eval_anyOf_cons, eval_anyOf_cons, hitem, ih hrest]

end Scan

/-! ## Many answers -/

section Answers

variable {α β : Type} {f : α → Except Failure β} {items : List α} {answers : List β}

/-- A step that has an answer is followed by the next one. -/
@[simp] theorem ok_bind (a : α) (g : α → Except Failure β) : (Except.ok a >>= g) = g a := rfl

/-- A step that fails is followed by nothing. -/
@[simp] theorem error_bind (failure : Failure) (g : α → Except Failure β) :
    (Except.error failure >>= g) = .error failure := rfl

/-- A program of two steps has an answer if both steps have one. -/
theorem bind_eq_ok {x : Except Failure α} {g : α → Except Failure β} {b : β} :
    (x >>= g) = .ok b ↔ ∃ a, x = .ok a ∧ g a = .ok b := by
  cases x with
  | error failure => simp [bind, Except.bind]
  | ok a => simp [bind, Except.bind]

/-- What is made of an answer. -/
theorem map_eq_ok {x : Except Failure α} {g : α → β} {b : β} :
    x.map g = .ok b ↔ ∃ a, x = .ok a ∧ g a = b := by
  cases x with
  | error failure => simp [Except.map]
  | ok a => simp [Except.map]

/-- Making something of an answer is a step after it. -/
theorem map_eq_bind (x : Except Failure α) (g : α → β) : x.map g = x >>= fun a => .ok (g a) := by
  cases x <;> rfl

/-- What has no answer fails. -/
theorem exists_error_iff {x : Except Failure α} :
    (∃ failure, x = .error failure) ↔ ¬ ∃ a, x = .ok a := by
  cases x with
  | error failure => simp
  | ok a => simp

/-- The answers to a list of questions are the answers to its items. -/
theorem mem_of_mapM (h : items.mapM f = .ok answers) (answer : β) :
    answer ∈ answers ↔ ∃ item ∈ items, f item = .ok answer := by
  induction items generalizing answers with
  | nil =>
    cases h
    simp
  | cons item rest ih =>
    rw [List.mapM_cons] at h
    obtain ⟨first, hfirst, h⟩ := bind_eq_ok.mp h
    obtain ⟨others, hothers, h⟩ := bind_eq_ok.mp h
    cases h
    rw [List.mem_cons, ih hothers]
    constructor
    · rintro (rfl | ⟨other, hmem, hother⟩)
      · exact ⟨item, by simp, hfirst⟩
      · exact ⟨other, by simp [hmem], hother⟩
    · rintro ⟨other, hmem, hother⟩
      rcases List.mem_cons.mp hmem with rfl | hmem
      · rw [hfirst] at hother
        exact .inl (Except.ok.inj hother).symm
      · exact .inr ⟨other, hmem, hother⟩

/-- The answers to a list of questions stand in the order of its items. -/
theorem forall₂_of_mapM (h : items.mapM f = .ok answers) :
    List.Forall₂ (fun item answer => f item = .ok answer) items answers := by
  induction items generalizing answers with
  | nil =>
    cases h
    exact .nil
  | cons item rest ih =>
    rw [List.mapM_cons] at h
    obtain ⟨first, hfirst, h⟩ := bind_eq_ok.mp h
    obtain ⟨others, hothers, h⟩ := bind_eq_ok.mp h
    cases h
    exact .cons hfirst (ih hothers)

/-- A list of questions has answers exactly if each of its items has one. -/
theorem mapM_isOk :
    (∃ answers, items.mapM f = .ok answers) ↔ ∀ item ∈ items, ∃ answer, f item = .ok answer := by
  induction items with
  | nil => simp [pure, Except.pure]
  | cons item rest ih =>
    rw [List.forall_mem_cons, ← ih, List.mapM_cons]
    constructor
    · rintro ⟨answers, h⟩
      obtain ⟨first, hfirst, h⟩ := bind_eq_ok.mp h
      obtain ⟨others, hothers, -⟩ := bind_eq_ok.mp h
      exact ⟨⟨first, hfirst⟩, ⟨others, hothers⟩⟩
    · rintro ⟨⟨first, hfirst⟩, ⟨others, hothers⟩⟩
      refine ⟨first :: others, ?_⟩
      rw [hfirst, hothers]
      rfl

/-- Questions that have the same answers item by item have the same answers. -/
theorem mapM_congr {g : α → Except Failure β} (h : ∀ item ∈ items, f item = g item) :
    items.mapM f = items.mapM g := by
  induction items with
  | nil => rfl
  | cons item rest ih =>
    obtain ⟨hitem, hrest⟩ := List.forall_mem_cons.mp h
    rw [List.mapM_cons, List.mapM_cons, hitem, ih hrest]

/-- Each item of a list of questions that has answers has one. -/
theorem answer_of_mapM (h : items.mapM f = .ok answers) {item : α} (hmem : item ∈ items) :
    ∃ answer ∈ answers, f item = .ok answer := by
  obtain ⟨answer, hanswer⟩ := mapM_isOk.mp ⟨answers, h⟩ item hmem
  exact ⟨answer, (mem_of_mapM h answer).mpr ⟨item, hmem, hanswer⟩, hanswer⟩

end Answers

end Preflight
