import Mathlib.Data.List.Basic
import Preflight.Json.Parser
import Preflight.Proofs.Pairs

/-!
# Keys of objects

An object that is read has each key once, and so have all objects in it (`wellFormed_of_parse`): so a
key stands for one value.
-/

set_option autoImplicit false

namespace Preflight.Json

/-! ## Fields -/

/-- A key has a value if it stands in the object. -/
theorem isSome_field?_iff {α : Type} {key : String} {fields : List (Text × α)} :
    (field? key fields).isSome = true ↔ Text.ofString key ∈ fields.map (·.1) := by
  rw [field?, List.lookup_isSome_iff, List.mem_map]
  refine exists_congr fun field => and_congr_right fun _ => ?_
  rw [beq_iff_eq]
  exact eq_comm

/-! ## Values that are read -/

/-- Each object has each key once, the value itself and all values in it. -/
inductive Value.WellFormed : Value → Prop
  | null : WellFormed .null
  | bool (b : Bool) : WellFormed (.bool b)
  | int (n : Int) : WellFormed (.int n)
  | real (x : Binary) : WellFormed (.real x)
  | text (t : Text) : WellFormed (.text t)
  | list {items : List Value} : (∀ item ∈ items, WellFormed item) → WellFormed (.list items)
  | object {fields : List (Text × Value)} : (fields.map (·.1)).Nodup →
    (∀ field ∈ fields, WellFormed field.2) → WellFormed (.object fields)

/-- An object stays well-formed when a field is put. -/
theorem Value.WellFormed.put {fields : List (Text × Value)} {value : Value}
    (h : (Value.object fields).WellFormed) (key : Text) (hvalue : value.WellFormed) :
    (Value.object (Pairs.put key value fields)).WellFormed := by
  cases h with
  | object hkeys hvalues =>
    refine .object (Pairs.nodup_keys_put hkeys key value) fun field hfield => ?_
    obtain rfl | hfield := Pairs.mem_put hfield
    · exact hvalue
    · exact hvalues field hfield

/-- Whatever is read is of a kind. -/
def Gives {α : Type} (kind : α → Prop) (reading : Except Stop α) : Prop :=
  ∀ a, reading = .ok a → kind a

namespace Gives

variable {α β : Type} {kind : α → Prop}

theorem ok {a : α} (h : kind a) : Gives kind (.ok a) := by
  rintro _ ⟨⟩
  exact h

theorem error (stop : Stop) : Gives kind (.error stop) := nofun

/-- Of two readings in turn the second one gives the result. -/
theorem andThen {next : α → Except Stop β} {result : β → Prop} {x : Except Stop α}
    (hx : Gives kind x) (hnext : ∀ a, kind a → Gives result (next a)) :
    Gives result (x >>= next) := by
  intro b h
  cases x with
  | error stop => cases h
  | ok a => exact hnext a (hx a rfl) b h

/-- Of the first one nothing may be known. -/
theorem any (x : Except Stop α) : Gives (fun _ => True) x := fun _ _ => trivial

end Gives

/-- The value is well-formed, whatever is left. -/
def IsTidy (found : Value × List Char) : Prop := found.1.WellFormed

/-- A number is no object. -/
theorem readNumber_tidy (limit : Nat) (negative : Bool) (chars : List Char) :
    Gives IsTidy (readNumber limit negative chars) := by
  unfold readNumber
  split
  · exact .error _
  · dsimp only
    split
    · split
      · exact .error _
      · exact .ok (.int _)
    · exact .ok (.real _)

/-- Nor is any other scalar. -/
theorem readScalar_tidy (limit : Nat) (chars : List Char) :
    Gives IsTidy (readScalar limit chars) := by
  have hliterals : ∀ literal ∈ literals, literal.2.WellFormed := by
    simp only [literals, List.forall_mem_cons]
    exact ⟨.null, .bool _, .bool _, .real _, .real _, .real _, nofun⟩
  unfold readScalar
  split
  · rename_i found hfound
    obtain ⟨literal, hmem, hword⟩ := List.exists_of_findSome?_eq_some hfound
    obtain ⟨_, -, rfl⟩ := Option.map_eq_some_iff.mp hword
    exact .ok (hliterals literal hmem)
  · split
    · exact readNumber_tidy limit true _
    · exact readNumber_tidy limit false _

section Items

variable {item : List Char → Except Stop (Value × List Char)}
  (hitem : ∀ chars, Gives IsTidy (item chars))

include hitem

/-- The items of a list are what was found and what is read. -/
theorem readItems_tidy (bound : Nat) : ∀ found chars, (∀ value ∈ found, value.WellFormed) →
    Gives (fun read => ∀ value ∈ read.1, value.WellFormed) (readItems item bound found chars) := by
  induction bound with
  | zero => exact fun _ _ _ => .error _
  | succ bound ih =>
    intro found chars hfound
    unfold readItems
    refine .andThen (hitem chars) fun (value, rest) hvalue => ?_
    have hmore : ∀ v ∈ value :: found, v.WellFormed := List.forall_mem_cons.mpr ⟨hvalue, hfound⟩
    dsimp only
    split
    · exact .ok fun v hv => hmore v (List.mem_reverse.mp hv)
    · exact ih _ _ hmore
    · exact .error _

/-- The fields of an object are what was found, with what is read put in. -/
theorem readFields_tidy (bound : Nat) : ∀ found chars, (Value.object found).WellFormed →
    Gives (fun read => (Value.object read.1).WellFormed) (readFields item bound found chars) := by
  induction bound with
  | zero => exact fun _ chars _ => by unfold readFields; exact .error _
  | succ bound ih =>
    intro found chars hfound
    unfold readFields
    split
    · refine .andThen (.any _) fun (key, rest) _ => ?_
      dsimp only
      split
      · refine .andThen (hitem _) fun (value, rest) hvalue => ?_
        dsimp only
        split
        · exact .ok (hfound.put key hvalue)
        · cases ‹bound + 1 = Nat.succ _›
          exact ih _ _ (hfound.put key hvalue)
        · exact .error _
      · exact .error _
    · exact .error _

end Items

/-- A value is read with the values in it, one level below. -/
theorem readValue_tidy (limit bound depth : Nat) : ∀ chars,
    Gives IsTidy (readValue limit bound depth chars) := by
  have hstep : ∀ depth, (∀ below, depth = below + 1 → ∀ chars,
      Gives IsTidy (readValue limit bound below chars)) →
        ∀ chars, Gives IsTidy (readValue limit bound depth chars) := by
    intro depth hbelow chars
    unfold readValue
    split
    · exact .andThen (.any _) fun _ _ => .ok (.text _)
    · exact .error _
    · exact .error _
    · split
      · exact .ok (.list nofun)
      · exact .andThen (readItems_tidy (hbelow _ rfl) _ _ _ nofun) fun _ h => .ok (.list h)
    · split
      · exact .ok (.object List.nodup_nil nofun)
      · exact .andThen (readFields_tidy (hbelow _ rfl) _ _ _ (.object List.nodup_nil nofun))
          fun _ h => .ok h
    · exact readScalar_tidy limit _
  induction depth with
  | zero => exact hstep 0 nofun
  | succ depth ih =>
    refine hstep (depth + 1) fun below hbelow => ?_
    cases hbelow
    exact ih

/-- **Objects that are read have each key once.** -/
theorem wellFormed_of_parse {text : String} {bounds : Bounds} {value : Value}
    (h : parse text bounds = .ok value) : value.WellFormed := by
  have hall : Gives Value.WellFormed (readAll text.toList bounds) := by
    unfold readAll
    dsimp only
    split
    · exact .error _
    · refine .andThen (readValue_tidy _ _ _ _) fun (value, rest) hvalue => ?_
      dsimp only
      split
      · exact .ok hvalue
      · exact .error _
  unfold parse at h
  dsimp only at h
  split at h
  · rename_i hread
    cases h
    exact hall _ hread
  · cases h
  · cases h

end Preflight.Json
