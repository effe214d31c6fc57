import Mathlib.Data.List.Basic
import Mathlib.Data.List.Induction
import Preflight.Pairs

/-!
# Lists of pairs

Looking up keys in lists of pairs. Where each key is there once, a pair is in the list if its key
leads to its value (`mem_iff_lookup`). Keys may be left out (`lookup_filter_key`), and a value may
be replaced (`lookup_replace`). Where keys may be there more than once, `lastValue` is the value of
the last pair with the key; it is settled by what stands behind it (`lastValue_filterMap_iff`).

Pairs that are put one after the other make a table: each key is there once (`nodup_keys_putAll`),
with the value that was put last (`lookup_putAll`), in the order of the first places
(`idxOf_keys_putAll_lt_iff`).
-/

set_option autoImplicit false

namespace Preflight.Pairs

variable {κ α β : Type}

/-- A pair of a list with each key once is what its key leads to. -/
theorem mem_iff_lookup [BEq κ] [LawfulBEq κ] {table : List (κ × α)}
    (hnodup : (table.map (·.1)).Nodup) {key : κ} {value : α} :
    (key, value) ∈ table ↔ table.lookup key = some value := by
  induction table with
  | nil => simp
  | cons pair rest ih =>
    obtain ⟨first, old⟩ := pair
    obtain ⟨hfirst, hrest⟩ := List.nodup_cons.mp hnodup
    rw [List.mem_cons, ih hrest, List.lookup_cons]
    by_cases h : key = first
    · subst h
      have hnone : rest.lookup key ≠ some value := fun hsome =>
        hfirst (List.mem_map.mpr ⟨(key, value), (ih hrest).mpr hsome, rfl⟩)
      simp [hnone, eq_comm]
    · simp [h, beq_false_of_ne h]

/-- A pair whose key leads to nothing is not in the list. -/
theorem lookup_eq_none_iff [BEq κ] [LawfulBEq κ] {table : List (κ × α)} {key : κ} :
    table.lookup key = none ↔ key ∉ table.map (·.1) := by
  rw [List.lookup_eq_none_iff]
  constructor
  · intro h hmem
    obtain ⟨pair, hpair, rfl⟩ := List.mem_map.mp hmem
    simpa using h pair hpair
  · intro h pair hpair
    have hne : key ≠ pair.1 := fun heq => h (List.mem_map.mpr ⟨pair, hpair, heq.symm⟩)
    exact bne_iff_ne.mpr hne

/-- A key leads to what is made of its value. -/
theorem lookup_map_value [BEq κ] (f : α → β) (pairs : List (κ × α)) (key : κ) :
    (pairs.map fun pair => (pair.1, f pair.2)).lookup key = (pairs.lookup key).map f := by
  induction pairs with
  | nil => rfl
  | cons pair rest ih =>
    obtain ⟨first, value⟩ := pair
    rw [List.map_cons, List.lookup_cons, List.lookup_cons, ih]
    cases key == first <;> rfl

/-- Where some keys are left out, the others lead where they led. -/
theorem lookup_filter_key [BEq κ] [LawfulBEq κ] (kept : κ → Bool) (pairs : List (κ × α)) (key : κ) :
    (pairs.filter fun pair => kept pair.1).lookup key =
      if kept key then pairs.lookup key else none := by
  induction pairs with
  | nil => simp
  | cons pair rest ih =>
    obtain ⟨first, value⟩ := pair
    rw [List.filter_cons, List.lookup_cons]
    by_cases hkey : key = first
    · subst hkey
      cases hkept : kept key with
      | false => simp [ih, hkept]
      | true => simp
    · rw [beq_false_of_ne hkey]
      split
      · rw [List.lookup_cons, beq_false_of_ne hkey]
        exact ih
      · exact ih

/-- The list with another value for a key. -/
def replace [DecidableEq κ] (key : κ) (value : α) (pairs : List (κ × α)) : List (κ × α) :=
  pairs.map fun (k, v) => if k = key then (k, value) else (k, v)

/-- The keys stay. -/
theorem keys_replace [DecidableEq κ] (key : κ) (value : α) (pairs : List (κ × α)) :
    (replace key value pairs).map (·.1) = pairs.map (·.1) := by
  rw [replace, List.map_map]
  refine List.map_congr_left fun (k, v) _ => ?_
  by_cases h : k = key <;> simp [h]

/-- The key leads to the other value, if it is there, and other keys lead where they led. -/
theorem lookup_replace [BEq κ] [LawfulBEq κ] [DecidableEq κ] (key : κ) (value : α)
    (pairs : List (κ × α)) (k : κ) :
    (replace key value pairs).lookup k =
      if k = key then (pairs.lookup key).map fun _ => value else pairs.lookup k := by
  induction pairs with
  | nil => simp [replace]
  | cons pair rest ih =>
    obtain ⟨first, old⟩ := pair
    have hcons : replace key value ((first, old) :: rest) =
        (if first = key then (first, value) else (first, old)) :: replace key value rest := rfl
    rw [hcons]
    by_cases hfirst : first = key
    · subst hfirst
      rw [if_pos rfl, List.lookup_cons, ih]
      by_cases h : k = first
      · simp [h]
      · simp [List.lookup_cons, beq_false_of_ne h, h]
    · rw [if_neg hfirst, List.lookup_cons, List.lookup_cons, List.lookup_cons, ih,
        beq_false_of_ne (Ne.symm hfirst)]
      by_cases h : k = key
      · subst h
        rw [beq_false_of_ne (Ne.symm hfirst)]
      · cases k == first <;> simp [h]

/-! ## Putting pairs into a table -/

section Put

variable [DecidableEq κ]

/-- A key that is put keeps its place, or gets the last one. -/
theorem keys_put (key : κ) (value : α) (table : List (κ × α)) :
    (put key value table).map (·.1) =
      if key ∈ table.map (·.1) then table.map (·.1) else table.map (·.1) ++ [key] := by
  induction table with
  | nil => rfl
  | cons pair rest ih =>
    obtain ⟨first, old⟩ := pair
    unfold put
    by_cases hfirst : first = key
    · simp [hfirst]
    · rw [if_neg hfirst, List.map_cons, ih]
      by_cases hmem : key ∈ rest.map (·.1)
      · simp [hmem]
      · rw [if_neg hmem, if_neg (by simpa [Ne.symm hfirst] using hmem)]
        rfl

/-- A key is there after a pair was put if it is that of the pair or was there. -/
theorem mem_keys_put {key other : κ} {value : α} {table : List (κ × α)} :
    other ∈ (put key value table).map (·.1) ↔ other = key ∨ other ∈ table.map (·.1) := by
  rw [keys_put]
  split
  · rename_i hmem
    exact ⟨.inr, fun h => h.elim (fun heq => heq ▸ hmem) id⟩
  · rw [List.mem_append, List.mem_singleton, or_comm]

/-- A pair that is there was put or was there. -/
theorem mem_put {key : κ} {value : α} {table : List (κ × α)} {pair : κ × α}
    (h : pair ∈ put key value table) : pair = (key, value) ∨ pair ∈ table := by
  induction table with
  | nil => exact .inl (List.mem_singleton.mp h)
  | cons first rest ih =>
    obtain ⟨k, old⟩ := first
    unfold put at h
    split at h
    · rename_i heq
      exact (List.mem_cons.mp h).imp (fun h => h.trans (heq ▸ rfl)) (List.mem_cons_of_mem _)
    · rcases List.mem_cons.mp h with rfl | h
      · exact .inr List.mem_cons_self
      · exact (ih h).imp_right (List.mem_cons_of_mem _)

/-- Keys stay distinct when a pair is put. -/
theorem nodup_keys_put {table : List (κ × α)} (h : (table.map (·.1)).Nodup) (key : κ) (value : α) :
    ((put key value table).map (·.1)).Nodup := by
  rw [keys_put]
  split
  · exact h
  · rename_i hmem
    refine List.nodup_append.mpr ⟨h, by simp, fun a ha b hb => ?_⟩
    rw [List.mem_singleton.mp hb]
    exact fun heq => hmem (heq ▸ ha)

/-- A pair of a new key comes last. -/
theorem put_of_notMem {key : κ} {value : α} {table : List (κ × α)} (h : key ∉ table.map (·.1)) :
    put key value table = table ++ [(key, value)] := by
  induction table with
  | nil => rfl
  | cons pair rest ih =>
    obtain ⟨k, old⟩ := pair
    simp only [List.map_cons, List.mem_cons, not_or] at h
    rw [put, if_neg (fun heq => h.1 heq.symm), ih h.2, List.cons_append]

/-- One pair more is put last. -/
theorem putAll_concat (pairs : List (κ × α)) (key : κ) (value : α) :
    putAll (pairs ++ [(key, value)]) = put key value (putAll pairs) := by
  rw [putAll, List.foldl_append]
  rfl

/-- The keys of a table are those that were put. -/
theorem mem_keys_putAll (pairs : List (κ × α)) (key : κ) :
    key ∈ (putAll pairs).map (·.1) ↔ key ∈ pairs.map (·.1) := by
  induction pairs using List.reverseRecOn with
  | nil => rfl
  | append_singleton pairs pair ih =>
    obtain ⟨k, value⟩ := pair
    rw [putAll_concat, mem_keys_put, ih, List.map_append, List.mem_append, List.map_singleton,
      List.mem_singleton, or_comm]

/-- Each key is there once. -/
theorem nodup_keys_putAll (pairs : List (κ × α)) : ((putAll pairs).map (·.1)).Nodup := by
  induction pairs using List.reverseRecOn with
  | nil => exact List.nodup_nil
  | append_singleton pairs pair ih =>
    obtain ⟨k, value⟩ := pair
    rw [putAll_concat]
    exact nodup_keys_put ih k value

end Put

/-! ## Last values -/

variable [BEq κ]

/-- The value of the last pair with the key. -/
def lastValue (pairs : List (κ × α)) (key : κ) : Option α := pairs.reverse.lookup key

/-- Later pairs come first. -/
theorem lastValue_append (first later : List (κ × α)) (key : κ) :
    lastValue (first ++ later) key = (lastValue later key).or (lastValue first key) := by
  rw [lastValue, List.reverse_append, List.lookup_append]
  rfl

variable [LawfulBEq κ]

/-- Where each key is there once, its value is the last one. -/
theorem lastValue_of_nodup {pairs : List (κ × α)} (h : (pairs.map (·.1)).Nodup) (key : κ) :
    lastValue pairs key = pairs.lookup key := by
  have hreverse : (pairs.reverse.map (·.1)).Nodup := by
    rw [List.map_reverse]
    exact List.pairwise_reverse.mpr (h.imp Ne.symm)
  refine Option.ext fun value => ?_
  rw [lastValue, ← mem_iff_lookup hreverse, List.mem_reverse, mem_iff_lookup h]

/-- One pair more has the last value of its key. -/
theorem lastValue_concat [DecidableEq κ] (pairs : List (κ × α)) (k : κ) (value : α) (key : κ) :
    lastValue (pairs ++ [(k, value)]) key = if key = k then some value else lastValue pairs key := by
  rw [lastValue_append]
  by_cases h : key = k
  · simp [lastValue, h]
  · simp [lastValue, List.lookup_cons, beq_false_of_ne h, h]

/-- A last value stands behind all others of its key. -/
theorem lastValue_eq_some_iff {pairs : List (κ × α)} {key : κ} {value : α} :
    lastValue pairs key = some value ↔ ∃ before after, pairs = before ++ (key, value) :: after ∧
      ∀ pair ∈ after, pair.1 ≠ key := by
  rw [lastValue, List.lookup_eq_some_iff]
  constructor
  · rintro ⟨l₁, l₂, hsplit, hother⟩
    refine ⟨l₂.reverse, l₁.reverse, ?_, fun pair hpair => ?_⟩
    · rw [← List.reverse_reverse pairs, hsplit]
      simp
    · have hne := hother pair (List.mem_reverse.mp hpair)
      exact fun heq => by simp [heq] at hne
  · rintro ⟨before, after, rfl, hother⟩
    refine ⟨after.reverse, before.reverse, by simp, fun pair hpair => ?_⟩
    exact bne_iff_ne.mpr (Ne.symm (hother pair (List.mem_reverse.mp hpair)))

/-- Of items that are pairs in part, the last one with the key has the last value. -/
theorem lastValue_filterMap_iff {f : β → Option (κ × α)} {items : List β} {key : κ}
    {value : α} : lastValue (items.filterMap f) key = some value ↔
      ∃ before item after, items = before ++ item :: after ∧ f item = some (key, value) ∧
        ∀ other ∈ after, ∀ v, f other ≠ some (key, v) := by
  rw [lastValue_eq_some_iff]
  constructor
  · rintro ⟨before, after, hsplit, hother⟩
    obtain ⟨l₁, l₂, rfl, rfl, hlast⟩ := List.filterMap_eq_append_iff.mp hsplit
    obtain ⟨passed, item, rest, rfl, -, hitem, rfl⟩ := List.filterMap_eq_cons_iff.mp hlast
    refine ⟨l₁ ++ passed, item, rest, by simp, hitem, fun other hmem v hv => ?_⟩
    exact hother (key, v) (List.mem_filterMap.mpr ⟨other, hmem, hv⟩) rfl
  · rintro ⟨before, item, after, rfl, hitem, hother⟩
    refine ⟨before.filterMap f, after.filterMap f, ?_, ?_⟩
    · rw [List.filterMap_append, List.filterMap_cons_some hitem]
    · rintro ⟨k, v⟩ hpair rfl
      obtain ⟨other, hmem, hv⟩ := List.mem_filterMap.mp hpair
      exact hother other hmem v hv

/-! ## What a table holds -/

/-- Behind a key stand those with a greater place. -/
theorem mem_after_iff {before after : List κ} {key other : κ}
    (hnodup : (before ++ key :: after).Nodup) (hother : other ∈ before ++ key :: after) :
    other ∈ after ↔ (before ++ key :: after).idxOf key < (before ++ key :: after).idxOf other := by
  obtain ⟨-, hback, hapart⟩ := List.nodup_append.mp hnodup
  have hkey : key ∉ before := fun h => hapart key h key (List.mem_cons_self ..) rfl
  rw [List.idxOf_append_of_notMem hkey, List.idxOf_cons_self]
  by_cases h : other ∈ before
  · have hplace := List.idxOf_lt_length_of_mem h
    have hnot : other ∉ after := fun hmem =>
      hapart other h other (List.mem_cons_of_mem key hmem) rfl
    rw [List.idxOf_append_of_mem h]
    exact ⟨fun hmem => absurd hmem hnot, fun hlt => by omega⟩
  · rw [List.idxOf_append_of_notMem h]
    have hrest : other = key ∨ other ∈ after := by
      simpa [h] using hother
    obtain rfl | hmem := hrest
    · simp [(List.nodup_cons.mp hback).1]
    · have hne : key ≠ other := fun heq => (List.nodup_cons.mp hback).1 (heq ▸ hmem)
      simp [hmem, List.idxOf_cons_ne after hne]

variable [DecidableEq κ]

/-- A key that is put has the value, and other keys have theirs. -/
theorem lookup_put (key : κ) (value : α) (table : List (κ × α)) (k : κ) :
    (put key value table).lookup k = if k = key then some value else table.lookup k := by
  induction table with
  | nil => by_cases h : k = key <;> simp [put, h]
  | cons pair rest ih =>
    obtain ⟨first, old⟩ := pair
    unfold put
    by_cases hfirst : first = key
    · subst hfirst
      by_cases h : k = first
      · simp [h]
      · simp [List.lookup_cons, beq_false_of_ne h, h]
    · rw [if_neg hfirst, List.lookup_cons, List.lookup_cons, ih]
      by_cases h : k = first
      · subst h
        simp [hfirst]
      · rw [beq_false_of_ne h]

/-- Each key has the value that was put last. -/
theorem lookup_putAll (pairs : List (κ × α)) (key : κ) :
    (putAll pairs).lookup key = lastValue pairs key := by
  induction pairs using List.reverseRecOn with
  | nil => rfl
  | append_singleton pairs pair ih =>
    obtain ⟨k, value⟩ := pair
    rw [putAll_concat, lookup_put, ih, lastValue_concat]

/-- **Keys stand in the order of their first places.** -/
theorem idxOf_keys_putAll_lt_iff {pairs : List (κ × α)} {key other : κ}
    (hkey : key ∈ pairs.map (·.1)) (hother : other ∈ pairs.map (·.1)) :
    ((putAll pairs).map (·.1)).idxOf key < ((putAll pairs).map (·.1)).idxOf other ↔
      (pairs.map (·.1)).idxOf key < (pairs.map (·.1)).idxOf other := by
  induction pairs using List.reverseRecOn with
  | nil => cases hkey
  | append_singleton pairs pair ih =>
    obtain ⟨k, value⟩ := pair
    have hkeys : (pairs ++ [(k, value)]).map (·.1) = pairs.map (·.1) ++ [k] := by simp
    rw [hkeys] at hkey hother ⊢
    rw [putAll_concat, keys_put]
    have hmem := mem_keys_putAll pairs
    generalize pairs.map (·.1) = written at hkey hother hmem ih ⊢
    generalize (putAll pairs).map (·.1) = keys at hmem ih ⊢
    have hplace : ∀ {list : List κ} {name : κ}, name ∈ list →
        list.idxOf name < list.length := fun h => List.idxOf_lt_length_of_mem h
    have hold : ∀ {list : List κ} {name : κ}, name ∈ list →
        (list ++ [k]).idxOf name = list.idxOf name := fun h => List.idxOf_append_of_mem h
    have hnew : ∀ {list : List κ}, k ∉ list → (list ++ [k]).idxOf k = list.length := by
      intro list h
      rw [List.idxOf_append_of_notMem h]
      simp
    have hcases : ∀ {name : κ}, name ∈ written ++ [k] → name ∈ written ∨ name = k := fun h =>
      (List.mem_append.mp h).imp id List.mem_singleton.mp
    -- a key that is there keeps all places; a new one comes last, and either of the two may be it
    by_cases hk : k ∈ written
    · have hin : ∀ {name : κ}, name ∈ written ++ [k] → name ∈ written := fun h =>
        (hcases h).elim id fun heq => heq ▸ hk
      rw [if_pos ((hmem k).mpr hk), hold (hin hkey), hold (hin hother)]
      exact ih (hin hkey) (hin hother)
    · rw [if_neg (mt (hmem k).mp hk)]
      obtain hkey' | rfl := hcases hkey <;> obtain hother' | rfl := hcases hother
      · rw [hold hkey', hold hother', hold ((hmem key).mpr hkey'), hold ((hmem other).mpr hother')]
        exact ih hkey' hother'
      · have h₁ := hplace hkey'
        have h₂ := hplace ((hmem key).mpr hkey')
        rw [hold hkey', hnew hk, hold ((hmem key).mpr hkey'), hnew (mt (hmem other).mp hk)]
        omega
      · have h₁ := hplace hother'
        have h₂ := hplace ((hmem other).mpr hother')
        rw [hold hother', hnew hk, hold ((hmem other).mpr hother'), hnew (mt (hmem key).mp hk)]
        omega
      · omega

/-- Behind a pair of a table stand the keys whose first place is greater. -/
theorem mem_keys_after_iff {pairs before after : List (κ × α)} {key other : κ} {value : α}
    (hsplit : putAll pairs = before ++ (key, value) :: after) (hother : other ∈ pairs.map (·.1)) :
    other ∈ after.map (·.1) ↔ (pairs.map (·.1)).idxOf key < (pairs.map (·.1)).idxOf other := by
  have hkeys : (putAll pairs).map (·.1) = before.map (·.1) ++ key :: after.map (·.1) := by
    rw [hsplit, List.map_append, List.map_cons]
  have hkey : key ∈ pairs.map (·.1) := by
    rw [← mem_keys_putAll, hkeys]
    simp
  rw [← idxOf_keys_putAll_lt_iff hkey hother, hkeys]
  refine mem_after_iff (hkeys ▸ nodup_keys_putAll pairs) ?_
  rw [← hkeys]
  exact (mem_keys_putAll pairs other).mpr hother

/-- A pair is in a table if its value was put last. -/
theorem mem_putAll_iff {pairs : List (κ × α)} {key : κ} {value : α} :
    (key, value) ∈ putAll pairs ↔ lastValue pairs key = some value := by
  rw [mem_iff_lookup (nodup_keys_putAll pairs), lookup_putAll]

end Preflight.Pairs
