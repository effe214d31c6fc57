import Preflight.Json.Parser

/-!
# What the reader of JSON refuses

The reader refuses a text for two reasons only (`isLimit_of_parse`): an integer of more digits, or a
nesting of more levels, than are read. Whatever else it cannot read is malformed.
-/

set_option autoImplicit false

namespace Preflight

/-- The failure is about a limit of what is read: too many levels, or too many digits. -/
def Failure.IsLimit (failure : Failure) : Prop :=
  failure = .tooDeep ∨ ∃ count, 4300 < count ∧ failure = .tooManyDigits count

namespace Json

/-- A reading refuses nothing but what is beyond the limits. -/
def RefusesAtLimits {α : Type} (reading : Except Stop α) : Prop :=
  ∀ failure, reading = .error (.refused failure) → failure.IsLimit

namespace RefusesAtLimits

variable {α β : Type}

/-- What is read is not refused. -/
theorem ok (a : α) : RefusesAtLimits (.ok a : Except Stop α) := nofun

/-- Nor is what is malformed. -/
theorem malformed (left : Nat) : RefusesAtLimits (.error (.malformed left) : Except Stop α) := nofun

/-- Two readings in turn refuse what either of them refuses. -/
theorem andThen {x : Except Stop α} {next : α → Except Stop β} (hx : RefusesAtLimits x)
    (hnext : ∀ a, RefusesAtLimits (next a)) : RefusesAtLimits (x >>= next) := by
  intro failure h
  cases x with
  | error stop =>
    cases h
    exact hx failure rfl
  | ok a => exact hnext a failure h

end RefusesAtLimits

open RefusesAtLimits

/-- A text between marks is never refused. -/
theorem readText_refuses (opening : Nat) (found : Text) (chars : List Char) :
    RefusesAtLimits (readText opening found chars) := by
  fun_induction readText opening found chars with
  | case2 => exact ok _
  | case3 => assumption
  | case7 => assumption
  | case10 => assumption
  | _ => exact malformed _

/-- A number is refused for its digits. -/
theorem readNumber_refuses (negative : Bool) (chars : List Char) :
    RefusesAtLimits (readNumber digitLimit negative chars) := by
  unfold readNumber
  split
  · exact malformed _
  · dsimp only
    split
    · split
      · rename_i hlong
        rintro _ ⟨⟩
        exact .inr ⟨_, hlong, rfl⟩
      · exact ok _
    · exact ok _

/-- So is a scalar. -/
theorem readScalar_refuses (chars : List Char) : RefusesAtLimits (readScalar digitLimit chars) := by
  unfold readScalar
  split
  · exact ok _
  · split
    · exact readNumber_refuses true _
    · exact readNumber_refuses false _

section Items

variable {item : List Char → Except Stop (Value × List Char)}
  (hitem : ∀ chars, RefusesAtLimits (item chars))

include hitem

/-- A list is refused for an item. -/
theorem readItems_refuses (bound : Nat) : ∀ found chars,
    RefusesAtLimits (readItems item bound found chars) := by
  induction bound with
  | zero => exact fun _ _ => malformed _
  | succ bound ih =>
    intro found chars
    unfold readItems
    refine andThen (hitem chars) fun (value, rest) => ?_
    dsimp only
    split
    · exact ok _
    · exact ih _ _
    · exact malformed _

/-- An object is refused for a field. -/
theorem readFields_refuses (bound : Nat) : ∀ found chars,
    RefusesAtLimits (readFields item bound found chars) := by
  induction bound with
  | zero => exact fun _ chars => by unfold readFields; exact malformed _
  | succ bound ih =>
    intro found chars
    unfold readFields
    split
    · refine andThen (readText_refuses _ _ _) fun (key, rest) => ?_
      dsimp only
      split
      · refine andThen (hitem _) fun (value, rest) => ?_
        dsimp only
        split
        · exact ok _
        · cases ‹bound + 1 = Nat.succ _›
          exact ih _ _
        · exact malformed _
      · exact malformed _
    · exact malformed _

end Items

/-- A value is refused for its depth, or for a number in it. -/
theorem readValue_refuses (bound depth : Nat) : ∀ chars,
    RefusesAtLimits (readValue digitLimit bound depth chars) := by
  -- one level is read with the level below, whatever the bound on the number of items
  have hstep : ∀ depth, (∀ below, depth = below + 1 → ∀ chars,
      RefusesAtLimits (readValue digitLimit bound below chars)) →
        ∀ chars, RefusesAtLimits (readValue digitLimit bound depth chars) := by
    intro depth hbelow chars
    unfold readValue
    split
    · exact andThen (readText_refuses _ _ _) fun _ => ok _
    · rintro _ ⟨⟩
      exact .inl rfl
    · rintro _ ⟨⟩
      exact .inl rfl
    · split
      · exact ok _
      · exact andThen (readItems_refuses (hbelow _ rfl) _ _ _) fun _ => ok _
    · split
      · exact ok _
      · exact andThen (readFields_refuses (hbelow _ rfl) _ _ _) fun _ => ok _
    · exact readScalar_refuses _
  induction depth with
  | zero => exact hstep 0 nofun
  | succ depth ih =>
    refine hstep (depth + 1) fun below hbelow => ?_
    cases hbelow
    exact ih

/-- **A text is refused for its limits only**, however many levels are read. -/
theorem isLimit_of_parse {text : String} {depth : Nat} {failure : Failure}
    (h : parse text { depth } = .error (.refused failure)) : failure.IsLimit := by
  have hall : RefusesAtLimits (readAll text.toList { depth }) := by
    unfold readAll
    dsimp only
    split
    · exact malformed _
    · refine andThen (readValue_refuses _ _ _) fun (value, rest) => ?_
      dsimp only
      split
      · exact ok _
      · exact malformed _
  unfold parse at h
  dsimp only at h
  split at h
  · cases h
  · cases h
  · rename_i hrefused
    cases h
    exact hall failure hrefused

end Json

end Preflight
