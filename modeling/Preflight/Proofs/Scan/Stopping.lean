import Preflight.Proofs.Scan.Answers

/-!
# What stops a reading

A reading of a disk gives an answer or stops with a failure. `StopsOnlyFor` says of what kind the
failures are, and is kept by everything that readings are put together with. What is asked of a disk
is stopped by the path only: it is too long or holds a zero character.
-/

set_option autoImplicit false

namespace Preflight

/-! ## Failures of readings -/

/-- Whatever stops a reading is a failure of a kind. -/
def StopsOnlyFor {α : Type} (kind : Failure → Prop) (reading : Except Failure α) : Prop :=
  ∀ failure, reading = .error failure → kind failure

namespace StopsOnlyFor

variable {α β : Type} {kind : Failure → Prop}

/-- An answer is not stopped. -/
theorem ok (a : α) : StopsOnlyFor kind (.ok a : Except Failure α) := nofun

/-- A failure of the kind is one. -/
theorem error {failure : Failure} (h : kind failure) :
    StopsOnlyFor kind (.error failure : Except Failure α) := by
  intro stop hstop
  cases hstop
  exact h

/-- Two readings in turn are stopped by what stops either of them. -/
theorem bind {x : Except Failure α} {next : α → Except Failure β} (hx : StopsOnlyFor kind x)
    (hnext : ∀ a, x = .ok a → StopsOnlyFor kind (next a)) : StopsOnlyFor kind (x >>= next) := by
  intro failure h
  cases x with
  | error stop =>
    cases h
    exact hx failure rfl
  | ok a => exact hnext a rfl failure h

/-- Making something of an answer stops nothing. -/
theorem map {x : Except Failure α} (f : α → β) (hx : StopsOnlyFor kind x) :
    StopsOnlyFor kind (x.map f) := by
  rw [map_eq_bind]
  exact hx.bind fun a _ => ok (f a)

/-- Many readings are stopped by what stops one of them. -/
theorem mapM {items : List α} {f : α → Except Failure β}
    (hitems : ∀ item ∈ items, StopsOnlyFor kind (f item)) : StopsOnlyFor kind (items.mapM f) := by
  induction items with
  | nil => exact ok []
  | cons item rest ih =>
    obtain ⟨hitem, hrest⟩ := List.forall_mem_cons.mp hitems
    rw [List.mapM_cons]
    exact hitem.bind fun _ _ => (ih hrest).bind fun _ _ => ok _

/-- Readings that go on with each other's answers are stopped by what stops one of them. -/
theorem foldlM {items : List α} {f : β → α → Except Failure β}
    (hitems : ∀ b, ∀ item ∈ items, StopsOnlyFor kind (f b item)) (b : β) :
    StopsOnlyFor kind (items.foldlM f b) := by
  induction items generalizing b with
  | nil => exact ok b
  | cons item rest ih =>
    rw [List.foldlM_cons]
    exact (hitems b item List.mem_cons_self).bind fun next _ =>
      ih (fun b item hitem => hitems b item (List.mem_cons_of_mem _ hitem)) next

/-- So is a search. -/
theorem anyOf {disk : Disk} {root : Path} {items : List α} {question : α → Scan Bool}
    (hitems : ∀ item ∈ items, StopsOnlyFor kind ((question item).eval disk root)) :
    StopsOnlyFor kind ((Scan.anyOf items question).eval disk root) := by
  induction items with
  | nil => exact ok false
  | cons item rest ih =>
    obtain ⟨hitem, hrest⟩ := List.forall_mem_cons.mp hitems
    rw [Scan.eval_anyOf_cons]
    refine hitem.bind fun found _ => ?_
    cases found with
    | true => exact ok true
    | false => exact ih hrest

/-- A kind may be widened. -/
theorem mono {wider : Failure → Prop} {x : Except Failure α} (hx : StopsOnlyFor kind x)
    (hwider : ∀ failure, kind failure → wider failure) : StopsOnlyFor wider x :=
  fun failure h => hwider failure (hx failure h)

end StopsOnlyFor

namespace Disk

variable (disk : Disk) (path : Path)

end Disk

end Preflight
