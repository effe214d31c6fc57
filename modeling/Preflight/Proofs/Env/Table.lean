import Preflight.Env.Table
import Preflight.Proofs.Pairs

/-!
# What an environment table holds

The law of environment tables (`Table.get?_ofStatements_iff`). A table is made of statements in two
rounds. In the first each key as it is written has its last value, or none, at its first place; in the
second the keys lose their blanks, those without a value are passed over, and of keys that are the
same now the later one counts. So the last assignment decides about a key only where all statements
about it are assignments and write it alike (`Table.get?_eq_lastAssigned`). A later bare key takes a
value away (`bare_key_takes_a_value_away`), and a key that is written in two ways can keep the value
of the earlier assignment (`second_spelling_stays_behind`).

The law is about any statements; that of a text (`Table.get?_ofText_iff`) is the one about the
statements into which the text is split.
-/

set_option autoImplicit false

namespace Preflight.Env

open Pairs

/-! ## Tables of statements -/

/-- The key of a statement and its value or none. -/
def Statement.binding? : Statement → Option (String × Option String)
  | .binding key value => some (key, value)
  | _ => none

/-- The key of a pair without the blanks around it, and its value, if both are there. -/
def kept : String × Option String → Option (String × String)
  | (key, some value) => if (Text.strip key).isEmpty then none else some (Text.strip key, value)
  | (_, none) => none

/-- The keys of statements as they are written, each time with its value or none. -/
def writtenIn (found : List Statement) : List (String × Option String) :=
  found.filterMap Statement.binding?

/-- The keys of a text as they are written, each time with its value or none. -/
def written (text : String) : List (String × Option String) := writtenIn (statements text)

/-- Bindings are put one after the other. -/
theorem bindings_eq (found : List Statement) : bindings found = putAll (writtenIn found) := by
  rw [putAll, writtenIn, List.foldl_filterMap]
  refine congrArg (List.foldl · [] found) ?_
  funext table statement
  cases statement <;> rfl

/-- So are pairs that are kept. -/
theorem Table.ofBindings_eq (raw : List (String × Option String)) :
    Table.ofBindings raw = putAll (raw.filterMap kept) := by
  rw [putAll, List.foldl_filterMap]
  refine congrArg (List.foldl · [] raw) ?_
  funext table pair
  obtain ⟨key, value⟩ := pair
  cases value with
  | none => rfl
  | some value =>
    by_cases h : (Text.strip key).isEmpty <;> simp [kept, h]

/-- A pair is kept if it has a value and its key is not of blanks only. -/
theorem kept_eq_some_iff {pair : String × Option String} {key value : String} :
    kept pair = some (key, value) ↔
      key ≠ "" ∧ Text.strip pair.1 = key ∧ pair.2 = some value := by
  obtain ⟨raw, _ | v⟩ := pair
  · simp [kept]
  · by_cases h : (Text.strip raw).isEmpty
    · have hempty : Text.strip raw = "" := String.isEmpty_iff.mp h
      rw [kept, if_pos h]
      exact ⟨nofun, fun ⟨hkey, heq, _⟩ => absurd (heq ▸ hempty) hkey⟩
    · have hne : Text.strip raw ≠ "" := fun heq => h (String.isEmpty_iff.mpr heq)
      rw [kept, if_neg h]
      constructor
      · rintro ⟨⟩
        exact ⟨hne, rfl, rfl⟩
      · rintro ⟨-, rfl, ⟨⟩⟩
        rfl

section Statements

variable {found : List Statement} {key : String}

/-- A key has the value that is kept last of a table of what is written. -/
theorem Table.get?_ofStatements (found : List Statement) (key : String) :
    (Table.ofStatements found).get? key =
      lastValue ((putAll (writtenIn found)).filterMap kept) key := by
  rw [Table.get?, Table.ofStatements, Table.ofBindings_eq, lookup_putAll, bindings_eq]

/-- **The law of tables of statements.** A key has a value exactly if it is not empty and some way to
write it has that value last, and no other way whose last statement gives a value stands further
behind with its first place. -/
theorem Table.get?_ofStatements_iff {value : String} :
    (Table.ofStatements found).get? key = some value ↔ key ≠ "" ∧ ∃ raw, Text.strip raw = key ∧
      lastValue (writtenIn found) raw = some (some value) ∧
      ∀ other v, Text.strip other = key → lastValue (writtenIn found) other = some (some v) →
        ((writtenIn found).map (·.1)).idxOf other ≤ ((writtenIn found).map (·.1)).idxOf raw := by
  rw [get?_ofStatements, lastValue_filterMap_iff]
  constructor
  · rintro ⟨before, ⟨raw, _⟩, after, hsplit, hkept, hlast⟩
    obtain ⟨hkey, hraw, rfl⟩ := kept_eq_some_iff.mp hkept
    have hmem : (raw, some value) ∈ putAll (writtenIn found) := by simp [hsplit]
    refine ⟨hkey, raw, hraw, mem_putAll_iff.mp hmem, fun other v hother hv => ?_⟩
    by_contra hlt
    have hv' := mem_putAll_iff.mpr hv
    have hbehind : other ∈ after.map (·.1) := (mem_keys_after_iff hsplit
      ((mem_keys_putAll _ _).mp (List.mem_map_of_mem hv'))).mpr (Nat.lt_of_not_le hlt)
    obtain ⟨⟨_, x⟩, hafter, rfl⟩ := List.mem_map.mp hbehind
    have hx := mem_putAll_iff.mp (hsplit ▸ List.mem_append_right _ (List.mem_cons_of_mem _ hafter))
    obtain rfl : x = some v := Option.some.inj (hx.symm.trans hv)
    exact hlast _ hafter v (kept_eq_some_iff.mpr ⟨hkey, hother, rfl⟩)
  · rintro ⟨hkey, raw, hraw, hvalue, hlast⟩
    obtain ⟨before, after, hsplit⟩ := List.append_of_mem (mem_putAll_iff.mpr hvalue)
    refine ⟨before, (raw, some value), after, hsplit, kept_eq_some_iff.mpr ⟨hkey, hraw, rfl⟩, ?_⟩
    rintro ⟨other, _⟩ hafter v hkept
    obtain ⟨-, hother, rfl⟩ := kept_eq_some_iff.mp hkept
    have hmem : (other, some v) ∈ putAll (writtenIn found) :=
      hsplit ▸ List.mem_append_right _ (List.mem_cons_of_mem _ hafter)
    have hlt := (mem_keys_after_iff hsplit ((mem_keys_putAll _ _).mp
      (List.mem_map_of_mem hmem))).mp (List.mem_map_of_mem hafter)
    exact absurd (hlast other v hother (mem_putAll_iff.mp hmem)) (Nat.not_le_of_lt hlt)

/-! ## The last assignment -/

/-- The value that statements assign to a key last, blanks around the key aside. -/
def lastAssigned (found : List Statement) (key : String) : Option String :=
  lastValue ((writtenIn found).filterMap kept) key

/-- **The last assignment decides.** About a key which is written in one way, and to which each
statement about it gives a value. -/
theorem Table.get?_eq_lastAssigned {raw : String}
    (hstatements : ∀ other value, (other, value) ∈ writtenIn found → Text.strip other = key →
      other = raw ∧ value ≠ none) :
    (Table.ofStatements found).get? key = lastAssigned found key := by
  refine Option.ext fun value => ?_
  rw [get?_ofStatements, lastAssigned, lastValue_filterMap_iff, lastValue_filterMap_iff]
  have hassigned : ∀ {other value}, lastValue (writtenIn found) other = some value →
      (other, value) ∈ writtenIn found := fun h => by
    obtain ⟨before, after, hsplit, -⟩ := lastValue_eq_some_iff.mp h
    simp [hsplit]
  constructor
  · rintro ⟨_, ⟨other, _⟩, _, htable, hkept, -⟩
    obtain ⟨hkey, hother, rfl⟩ := kept_eq_some_iff.mp hkept
    have hvalue : lastValue (writtenIn found) other = some (some value) :=
      mem_putAll_iff.mp (htable ▸ List.mem_append_right _ List.mem_cons_self)
    obtain ⟨before, after, hsplit, hlast⟩ := lastValue_eq_some_iff.mp hvalue
    refine ⟨before, _, after, hsplit, hkept, ?_⟩
    rintro ⟨k, x⟩ hpair v hkept
    obtain ⟨-, hk, -⟩ := kept_eq_some_iff.mp hkept
    obtain rfl := (hstatements k x (by simp [hsplit, hpair]) hk).1
    exact hlast _ hpair (hstatements other _ (hassigned hvalue) hother).1.symm
  · rintro ⟨before, ⟨other, _⟩, after, hsplit, hkept, hlast⟩
    obtain ⟨hkey, hother, rfl⟩ := kept_eq_some_iff.mp hkept
    have hraw := (hstatements other (some value) (by simp [hsplit]) hother).1
    have hvalue : lastValue (writtenIn found) other = some (some value) := by
      refine lastValue_eq_some_iff.mpr ⟨before, after, hsplit, ?_⟩
      rintro ⟨k, x⟩ hpair rfl
      obtain ⟨v, rfl⟩ := Option.ne_none_iff_exists'.mp
        (hstatements k x (by simp [hsplit, hpair]) hother).2
      exact hlast _ hpair v (kept_eq_some_iff.mpr ⟨hkey, hother, rfl⟩)
    obtain ⟨before', after', htable⟩ := List.append_of_mem (mem_putAll_iff.mpr hvalue)
    refine ⟨before', _, after', htable, hkept, ?_⟩
    -- a later pair that is kept under the key would be written alike, and each key is there once
    rintro ⟨k, x⟩ hpair v hkept
    obtain ⟨-, hk, -⟩ := kept_eq_some_iff.mp hkept
    have hmem : (k, x) ∈ putAll (writtenIn found) :=
      htable ▸ List.mem_append_right _ (List.mem_cons_of_mem _ hpair)
    have hwritten := hassigned (mem_putAll_iff.mp hmem)
    obtain rfl : k = other := (hstatements k x hwritten hk).1.trans hraw.symm
    exact Nat.lt_irrefl _ ((mem_keys_after_iff htable (List.mem_map_of_mem hwritten)).mp
      (List.mem_map_of_mem hpair))

end Statements

/-! ## Texts -/

/-- **The law of environment tables**, for the statements of a text. A key has a value exactly if it
is not empty and some way to write it has that value last, and no other way whose last statement gives
a value stands further behind with its first place. Where the key is written in one way only, and each
statement about it gives a value, this is the value that is assigned last. -/
theorem Table.get?_ofText_iff (text key : String) :
    (∀ value, (Table.ofText text).get? key = some value ↔ key ≠ "" ∧ ∃ raw, Text.strip raw = key ∧
      lastValue (written text) raw = some (some value) ∧
      ∀ other v, Text.strip other = key → lastValue (written text) other = some (some v) →
        ((written text).map (·.1)).idxOf other ≤ ((written text).map (·.1)).idxOf raw) ∧
    ∀ raw, (∀ other value, (other, value) ∈ written text → Text.strip other = key →
        other = raw ∧ value ≠ none) →
      (Table.ofText text).get? key = lastAssigned (statements text) key :=
  ⟨fun _ => get?_ofStatements_iff, fun _ => get?_eq_lastAssigned⟩

/-- A later bare key takes the value away. -/
theorem bare_key_takes_a_value_away :
    lastAssigned (statements "A=1\nA\n") "A" = some "1" ∧ (Table.ofText "A=1\nA\n").get? "A" = none := by
  decide +kernel

/-- A key that is written in a second way keeps the value which that way has. -/
theorem second_spelling_stays_behind :
    let text := "'A '=1\nA=2\n'A '=3\n"
    lastAssigned (statements text) "A" = some "3" ∧ (Table.ofText text).get? "A" = some "2" := by
  decide +kernel

end Preflight.Env
