import Mathlib.Data.List.Find
import Mathlib.Data.List.Nodup
import Preflight.DatabaseKind
import Preflight.Proofs.Text.Case
import Preflight.Proofs.Text.Split

/-!
# The database that a URL names

The markers are looked for in the whole URL. None of them holds a separator, so a marker stands in
the URL where it stands in the scheme or in what follows it (`names_url_iff`). The scheme therefore
decides exactly as long as no marker of the rest comes before those of the scheme
(`ofUrl?_eq_ofUrl?_scheme_iff`); a user name can come before (`user_decides_kind`).
-/

set_option autoImplicit false

namespace Preflight.DatabaseKind

open Text (lower lowerChar mentions IsAscii)

/-! ## The first of a list -/

/-- The first element of either kind is the first of the one kind if every element of the other
kind is, or comes after, one of the first kind. -/
theorem find?_or_eq_iff {α : Type} {l : List α} {p q : α → Bool} :
    l.find? (fun a => p a || q a) = l.find? p ↔
      ∀ before a after, l = before ++ a :: after → q a = true →
        ∃ b ∈ before ++ [a], p b = true := by
  induction l with
  | nil => simp
  | cons head l ih =>
    by_cases hp : p head = true
    · have hsame : (head :: l).find? (fun a => p a || q a) = (head :: l).find? p := by simp [hp]
      refine iff_of_true hsame ?_
      intro before a after hsplit _
      have hhead : head ∈ before ++ [a] := by
        cases before with
        | nil =>
          rw [(List.cons.inj hsplit).1]
          exact List.mem_singleton_self a
        | cons first before =>
          rw [(List.cons.inj hsplit).1]
          exact List.mem_cons_self
      exact ⟨head, hhead, hp⟩
    · by_cases hq : q head = true
      · refine iff_of_false ?_ ?_
        · intro hfind
          rw [List.find?_cons_of_pos (by simp [hq]), List.find?_cons_of_neg hp] at hfind
          exact hp (List.find?_some hfind.symm)
        · intro h
          obtain ⟨b, hb, hpb⟩ := h [] head l rfl hq
          obtain rfl := List.mem_singleton.mp hb
          exact hp hpb
      · rw [List.find?_cons_of_neg (by simp [hp, hq]), List.find?_cons_of_neg hp, ih]
        constructor
        · intro h before a after hsplit ha
          cases before with
          | nil => exact absurd ((List.cons.inj hsplit).1 ▸ ha) hq
          | cons first before =>
            obtain ⟨b, hb, hpb⟩ := h before a after (List.cons.inj hsplit).2 ha
            exact ⟨b, List.mem_cons_of_mem first hb, hpb⟩
        · intro h before a after hsplit ha
          obtain ⟨b, hb, hpb⟩ := h (head :: before) a after (by rw [hsplit]; rfl) ha
          rcases List.mem_cons.mp hb with rfl | hb
          · exact absurd hpb hp
          · exact ⟨b, hb, hpb⟩

/-- Where no two elements have the same image, what is found is told by its image. -/
theorem map_find?_eq_iff {α β : Type} {l : List α} {f : α → β} (h : (l.map f).Nodup)
    {p q : α → Bool} : (l.find? p).map f = (l.find? q).map f ↔ l.find? p = l.find? q := by
  refine ⟨fun himages => ?_, congrArg (Option.map f)⟩
  cases hp : l.find? p with
  | none =>
    rw [hp, Option.map_none] at himages
    exact (Option.map_eq_none_iff.mp himages.symm).symm
  | some a =>
    rw [hp, Option.map_some] at himages
    obtain ⟨b, hb, hab⟩ := Option.map_eq_some_iff.mp himages.symm
    rw [hb, List.inj_on_of_nodup_map h (List.mem_of_find?_eq_some hb)
      (List.mem_of_find?_eq_some hp) hab]

/-! ## Markers -/

/-- The text holds the word of the marker, in lower case. -/
def Names (marker : String × String) (text : String) : Prop :=
  mentions marker.1 (lower text) = true

/-- The word of a marker is ASCII and holds no separator of a URL. -/
theorem marker_word {marker : String × String} (h : marker ∈ markers) :
    IsAscii marker.1.toList ∧ ':' ∉ marker.1.toList ∧ '/' ∉ marker.1.toList := by
  revert marker
  decide

/-- **A marker stands in a URL if it stands in the scheme or in the rest.** -/
theorem names_url_iff {marker : String × String} (h : marker ∈ markers) (scheme rest : String) :
    Names marker (scheme ++ "://" ++ rest) ↔ Names marker scheme ∨ Names marker rest := by
  obtain ⟨hascii, hcolon, hslash⟩ := marker_word h
  have hurl : (scheme ++ "://" ++ rest).toList.flatMap lowerChar =
      scheme.toList.flatMap lowerChar ++ ':' :: ([] ++ '/' :: ([] ++ '/' ::
        rest.toList.flatMap lowerChar)) := by
    rw [String.toList_append, String.toList_append, List.flatMap_append, List.flatMap_append,
      List.append_assoc]
    rfl
  have hnil : ∀ chars : List Char, marker.1.toList <:+: [] → marker.1.toList <:+: chars :=
    fun chars hnil => hnil.trans List.nil_infix
  rw [Names, Names, Names, Text.mentions_lower_iff hascii, Text.mentions_lower_iff hascii,
    Text.mentions_lower_iff hascii, hurl, Text.infix_append_cons_iff hcolon,
    Text.infix_append_cons_iff hslash, Text.infix_append_cons_iff hslash,
    or_iff_right_of_imp (hnil _), or_iff_right_of_imp (hnil _)]

/-! ## Schemes -/

/-- Different markers stand for different databases. -/
theorem markers_nodup : (markers.map (·.2)).Nodup := by decide

/-- **The scheme of a URL decides on the database exactly if each marker in the rest is, or comes
after, one in the scheme.** -/
theorem ofUrl?_eq_ofUrl?_scheme_iff (scheme rest : String) :
    ofUrl? (scheme ++ "://" ++ rest) = ofUrl? scheme ↔
      ∀ before marker after, markers = before ++ marker :: after → Names marker rest →
        ∃ earlier ∈ before ++ [marker], Names earlier scheme := by
  let names (url : String) (marker : String × String) : Bool := mentions marker.1 (lower url)
  have hwhole : markers.find? (names (scheme ++ "://" ++ rest)) =
      markers.find? fun marker => names scheme marker || names rest marker := by
    refine List.find?_congr fun marker hmarker => ?_
    rw [Bool.eq_iff_iff, Bool.or_eq_true]
    exact names_url_iff hmarker scheme rest
  have hkind : ∀ url, ofUrl? url = (markers.find? (names url)).map (·.2) := fun _ => rfl
  rw [hkind, hkind, map_find?_eq_iff markers_nodup, hwhole, find?_or_eq_iff]
  rfl

/-- A user name comes before the scheme. -/
theorem user_decides_kind :
    ':' ∉ "postgres".toList ∧
      ofUrl? ("postgres" ++ "://" ++ "mongodb:secret@db/app") ≠ ofUrl? "postgres" := by
  decide +kernel

end Preflight.DatabaseKind
