import Preflight.Proofs.Scan.Answers

/-!
# What holds of every answer

`Scan.Every P` asks `P` of each answer that a program of questions can give, whatever it is told on
the way. A check puts its result together from what it was told, so what is said of all its results
needs no disk: it is said of the program, and holds of the answer from any disk (`Every.of_eval`).
-/

set_option autoImplicit false

namespace Preflight.Scan

variable {α β : Type} {P Q : α → Prop}

/-- Every answer that the program can give has the property. -/
def Every (P : α → Prop) : Scan α → Prop
  | .done a => P a
  | .stop _ => True
  | .read _ next => ∀ text, (next text).Every P
  | .routes _ next => ∀ found, (next found).Every P
  | .listing next => ∀ files, (next files).Every P

theorem every_of_forall (h : ∀ a, P a) (scan : Scan α) : scan.Every P := by
  induction scan with
  | done a => exact h a
  | stop failure => trivial
  | read path next ih => exact ih
  | routes path next ih => exact ih
  | listing next ih => exact ih

@[simp] theorem every_pure {a : α} : (pure a : Scan α).Every P ↔ P a := Iff.rfl

@[simp] theorem every_bind {P : β → Prop} {scan : Scan α} {f : α → Scan β} :
    (scan >>= f).Every P ↔ scan.Every fun a => (f a).Every P := by
  change (scan.andThen f).Every P ↔ _
  induction scan with
  | done a => rfl
  | stop failure => rfl
  | read path next ih => simp only [andThen, Every, ih]
  | routes path next ih => simp only [andThen, Every, ih]
  | listing next ih => simp only [andThen, Every, ih]

/-- What the first program answers does not matter, if the second has the property after all of
it. -/
theorem every_bind_of_forall {P : β → Prop} {scan : Scan α} {f : α → Scan β}
    (h : ∀ a, (f a).Every P) : (scan >>= f).Every P :=
  every_bind.mpr (every_of_forall h scan)

@[simp] theorem every_ofExcept {answer : Except Failure α} :
    (ofExcept answer).Every P ↔ ∀ a, answer = .ok a → P a := by
  cases answer with
  | error failure => simp [ofExcept, Every]
  | ok a => simp [ofExcept, Every]

theorem Every.of_eval {disk : Disk} {root : Path} {scan : Scan α} {a : α} (h : scan.Every P)
    (heval : scan.eval disk root = .ok a) : P a := by
  induction scan with
  | done b =>
    cases heval
    exact h
  | stop failure => cases heval
  | read path next ih =>
    rw [eval_read] at heval
    obtain ⟨text, -, heval⟩ := bind_eq_ok.mp heval
    exact ih text (h text) heval
  | routes path next ih =>
    rw [eval_routes] at heval
    obtain ⟨text, -, heval⟩ := bind_eq_ok.mp heval
    exact ih _ (h _) heval
  | listing next ih =>
    rw [eval_listing] at heval
    obtain ⟨files, -, heval⟩ := bind_eq_ok.mp heval
    exact ih files (h files) heval

end Preflight.Scan
