import Preflight.Proofs.Json.RoundTrip
import Preflight.Proofs.Report.Consistency

/-!
# Records without nulls

A record of which the nulls are left out has the fields that are not null (`at?_withoutNulls`), and
it is as simple as it was (`simple_withoutNulls`).
-/

set_option autoImplicit false

namespace Preflight.Record

open Json

/-- What is left of the value of a field: nothing if it is null. -/
def present? : Value → Option Value
  | .null => none
  | value => some (withoutNulls value)

theorem present?_eq_none {value : Value} (h : present? value = none) : value = .null := by
  unfold present? at h
  split at h
  · rfl
  · cases h

theorem present?_eq_some {value left : Value} (h : present? value = some left) :
    left = withoutNulls value := by
  unfold present? at h
  split at h
  · cases h
  · exact (Option.some.inj h).symm

theorem itemsWithoutNulls_eq (values : List Value) :
    itemsWithoutNulls values = values.map withoutNulls := by
  induction values with
  | nil => rfl
  | cons value values ih => rw [itemsWithoutNulls, ih, List.map_cons]

theorem fieldsWithoutNulls_cons (key : Json.Text) (value : Value) (fields : Fields) :
    fieldsWithoutNulls ((key, value) :: fields) = match present? value with
      | none => fieldsWithoutNulls fields
      | some left => (key, left) :: fieldsWithoutNulls fields := by
  cases value <;> rfl

/-- A value is left under its key where it was not null. -/
theorem lookup_fieldsWithoutNulls {fields : Fields} (hkeys : (fields.map (·.1)).Nodup)
    (key : Json.Text) :
    (fieldsWithoutNulls fields).lookup key = (fields.lookup key).bind present? := by
  induction fields with
  | nil => rfl
  | cons field fields ih =>
    obtain ⟨k, value⟩ := field
    obtain ⟨hfresh, hrest⟩ := List.nodup_cons.mp hkeys
    have htail := ih hrest
    rw [fieldsWithoutNulls_cons]
    by_cases hkey : key = k
    · subst hkey
      rw [List.lookup_cons_self, Option.bind_some]
      cases present? value with
      | some left => rw [List.lookup_cons_self]
      | none =>
        have hnone : fields.lookup key = none := by
          rw [List.lookup_eq_none_iff]
          intro other hother
          exact bne_iff_ne.mpr fun heq => hfresh (List.mem_map.mpr ⟨other, hother, heq.symm⟩)
        rw [htail, hnone, Option.bind_none]
    · have hne : (key == k) = false := beq_eq_false_iff_ne.mpr hkey
      cases present? value with
      | none => simpa [List.lookup_cons, hne] using htail
      | some left => simpa [List.lookup_cons, hne] using htail

theorem at?_withoutNulls {fields : List (String × Value)} (hkeys : (fields.map (·.1)).Nodup)
    (key : String) :
    (withoutNulls (.record fields)).at? key = ((Value.record fields).at? key).bind present? :=
  lookup_fieldsWithoutNulls (nodup_named hkeys) (Text.ofString key)

theorem exists_named_withoutNulls {limit depth : Nat} {fields : List (String × Value)}
    (h : ∀ field ∈ fields, (withoutNulls field.2).Simple limit depth) :
    ∃ left, fieldsWithoutNulls (named fields) = named left ∧
      (left.map (·.1)).Sublist (fields.map (·.1)) ∧ ∀ field ∈ left, field.2.Simple limit depth := by
  induction fields with
  | nil => exact ⟨[], rfl, .slnil, List.forall_mem_nil _⟩
  | cons field fields ih =>
    obtain ⟨key, value⟩ := field
    obtain ⟨hvalue, hrest⟩ := List.forall_mem_cons.mp h
    obtain ⟨left, hleft, hkeys, hsimple⟩ := ih hrest
    have hcons := fieldsWithoutNulls_cons (Text.ofString key) value (named fields)
    cases hpresent : present? value with
    | none =>
      rw [hpresent] at hcons
      exact ⟨left, hcons.trans hleft, hkeys.cons key, hsimple⟩
    | some shown =>
      rw [hpresent, hleft] at hcons
      refine ⟨(key, shown) :: left, hcons, hkeys.cons_cons key, ?_⟩
      exact List.forall_mem_cons.mpr ⟨present?_eq_some hpresent ▸ hvalue, hsimple⟩

/-- **Leaving nulls out leaves a value simple.** -/
theorem simple_withoutNulls {limit depth : Nat} {v : Value} (h : v.Simple limit depth) :
    (withoutNulls v).Simple limit depth := by
  induction h with
  | null => exact .null
  | bool b => exact .bool b
  | int h => exact .int h
  | string s => exact .string s
  | list h ih =>
    rw [withoutNulls, itemsWithoutNulls_eq]
    exact .list (List.forall_mem_map.mpr ih)
  | record hkeys h ih =>
    obtain ⟨left, hleft, hsub, hsimple⟩ := exists_named_withoutNulls ih
    rw [Value.record, withoutNulls, ← named, hleft]
    exact .record (hkeys.sublist hsub) hsimple

mutual

/-- A null has no numbers, so leaving nulls out leaves the numbers. -/
theorem numbers_withoutNulls : ∀ v : Value, (withoutNulls v).numbers = v.numbers
  | .null => rfl
  | .bool _ => rfl
  | .int _ => rfl
  | .real _ => rfl
  | .text _ => rfl
  | .list items => numbersOfItems_withoutNulls items
  | .object fields => numbersOfFields_withoutNulls fields

theorem numbersOfItems_withoutNulls : ∀ items : List Value,
    numbersOfItems (itemsWithoutNulls items) = numbersOfItems items
  | [] => rfl
  | item :: items => by
    rw [itemsWithoutNulls, numbersOfItems, numbersOfItems, numbers_withoutNulls item,
      numbersOfItems_withoutNulls items]

theorem numbersOfFields_withoutNulls : ∀ fields : Fields,
    numbersOfFields (fieldsWithoutNulls fields) = numbersOfFields fields
  | [] => rfl
  | (key, value) :: fields => by
    have hvalue := numbers_withoutNulls value
    have hrest := numbersOfFields_withoutNulls fields
    rw [fieldsWithoutNulls_cons, numbersOfFields]
    cases hpresent : present? value with
    | none =>
      rw [present?_eq_none hpresent]
      exact hrest
    | some left =>
      rw [present?_eq_some hpresent]
      show numbersOfFields _ = _
      rw [numbersOfFields, hvalue, hrest]

end

end Preflight.Record
