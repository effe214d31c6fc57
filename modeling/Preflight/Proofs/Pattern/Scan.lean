import Mathlib.Data.List.Sort
import Mathlib.Data.Set.List
import Preflight.Proofs.Pattern.Reading

/-!
# What a scan finds

A **scan** of what stands in a text goes from left to right: nothing that it finds begins inside
what it found before, and nothing else is missing (`IsScan`). Of what has a width there is
one scan at most (`IsScan.unique`). Finding all places of a pattern that reads at least a
character is a scan of the places where the pattern is read (`isScan_findAll`).

The equations of `findAllFrom` go over a text part by part: over what was read already
(`findAllFrom_skip`), over what nothing is read in (`findAllFrom_of_none`), and over what is read
next (`findAllFrom_of_some`).
-/

set_option autoImplicit false

namespace Preflight.Pattern

variable {α β : Type}

/-! ## Scans -/

/-- What stands somewhere, found from left to right and without overlap. -/
structure IsScan (Stands : α → Prop) (start stop : α → Nat) (found : List α) : Prop where
  stands : ∀ a ∈ found, Stands a
  apart : found.Pairwise fun a b => stop a ≤ start b
  /-- What does not begin inside something found before is found. -/
  complete : ∀ a, Stands a → (∀ b ∈ found, ¬ (start b < start a ∧ start a < stop b)) → a ∈ found

namespace IsScan

variable {Stands Other : α → Prop} {start stop : α → Nat} {found found' : List α}

/-- Where nothing stands, nothing is found. -/
theorem nil (h : ∀ a, ¬ Stands a) : IsScan Stands start stop [] where
  stands := nofun
  apart := .nil
  complete a ha := absurd ha (h a)

/-- The first that stands is found, and then what stands behind it. -/
theorem cons {a : α} (ha : Stands a) (hfirst : ∀ b, Stands b → b = a ∨ start a < start b)
    (h : IsScan (fun b => Stands b ∧ stop a ≤ start b) start stop found) :
    IsScan Stands start stop (a :: found) where
  stands b hb := by
    obtain rfl | hb := List.mem_cons.mp hb
    · exact ha
    · exact (h.stands b hb).1
  apart := List.pairwise_cons.mpr ⟨fun b hb => (h.stands b hb).2, h.apart⟩
  complete b hb hout := by
    obtain rfl | hbehind := hfirst b hb
    · exact List.mem_cons_self
    · have hstop : stop a ≤ start b := by
        have := hout a List.mem_cons_self
        omega
      exact List.mem_cons_of_mem a
        (h.complete b ⟨hb, hstop⟩ fun c hc => hout c (List.mem_cons_of_mem a hc))

/-- A scan is one of whatever stands alike. -/
theorem congr (h : IsScan Stands start stop found) (hsame : ∀ a, Stands a ↔ Other a) :
    IsScan Other start stop found := by
  obtain rfl : Stands = Other := funext fun a => propext (hsame a)
  exact h

/-- Of two that are found, the one that starts first stops before the other starts. -/
theorem stop_le (h : IsScan Stands start stop found) (hwide : ∀ a, Stands a → start a < stop a)
    {a b : α} (ha : a ∈ found) (hb : b ∈ found) (hlt : start a < start b) :
    stop a ≤ start b := by
  have happart : found.Pairwise fun a b => start a < start b → stop a ≤ start b := by
    refine h.apart.imp ?_
    exact fun hle _ => hle
  have hback : found.Pairwise (flip fun a b => start a < start b → stop a ≤ start b) := by
    refine List.Pairwise.imp_of_mem (fun {b a} hb _ hle hlt => ?_) h.apart
    have hb := hwide b (h.stands b hb)
    omega
  exact List.Pairwise.forall_of_forall_of_flip (fun a _ hlt => absurd hlt (lt_irrefl _))
    happart hback ha hb hlt

/-- **There is one scan at most** of what has a width. -/
theorem unique (hwide : ∀ a, Stands a → start a < stop a)
    (h : IsScan Stands start stop found) (h' : IsScan Stands start stop found') :
    found = found' := by
  -- Whether something is found hangs on what is found before it, so the induction is on its place.
  have hmem : ∀ n a, start a = n → (a ∈ found ↔ a ∈ found') := by
    intro n
    induction n using Nat.strong_induction_on with
    | _ n ih =>
      rintro a rfl
      constructor
      · intro ha
        refine h'.complete a (h.stands a ha) fun b hb hinside => ?_
        have hb := (ih _ hinside.1 b rfl).mpr hb
        exact absurd (h.stop_le hwide hb ha hinside.1) (Nat.not_le.mpr hinside.2)
      · intro ha
        refine h.complete a (h'.stands a ha) fun b hb hinside => ?_
        have hb := (ih _ hinside.1 b rfl).mp hb
        exact absurd (h'.stop_le hwide hb ha hinside.1) (Nat.not_le.mpr hinside.2)
  have hsorted : ∀ {found : List α}, IsScan Stands start stop found →
      found.Pairwise fun a b => start a < start b := fun hscan =>
    List.Pairwise.imp_of_mem (fun ha _ hle => lt_of_lt_of_le (hwide _ (hscan.stands _ ha)) hle)
      hscan.apart
  have : Std.Antisymm fun a b : α => start a < start b :=
    ⟨fun a b hab hba => absurd hba (Nat.lt_asymm hab)⟩
  have : Std.Irrefl fun a b : α => start a < start b := ⟨fun a => lt_irrefl _⟩
  exact (hsorted h).eq_of_mem_iff (hsorted h') fun a => hmem _ a rfl

/-- A scan of what things of another kind stand for is the image of a scan of these. -/
theorem exists_map {f : β → α} (hinj : Function.Injective f) (hf : ∀ a, Stands a → ∃ b, f b = a)
    (h : IsScan Stands start stop found) : ∃ items : List β, items.map f = found ∧
      IsScan (fun b => Stands (f b)) (start ∘ f) (stop ∘ f) items := by
  obtain ⟨items, rfl⟩ : found ∈ Set.range (List.map f) := by
    rw [Set.range_list_map]
    exact fun a ha => hf a (h.stands a ha)
  refine ⟨items, rfl, fun b hb => h.stands _ (List.mem_map_of_mem hb),
    List.pairwise_map.mp h.apart, fun b hb hout => ?_⟩
  refine (List.mem_map_of_injective hinj).mp (h.complete (f b) hb fun a ha => ?_)
  obtain ⟨c, hc, rfl⟩ := List.mem_map.mp ha
  exact hout c hc

end IsScan

/-! ## Places of a pattern -/

variable {p : Pattern}

/-- The pattern is read at the place. -/
def IsReadAt (p : Pattern) (text : List Char) (o : Occurrence) : Prop :=
  ∃ before rest, text = before ++ (o.text ++ rest) ∧ before.length = o.offset ∧
    p.read? (o.text ++ rest) = some ⟨o.text.length, o.kept, rest⟩

/-- The end of a place. -/
def Occurrence.stop (o : Occurrence) : Nat := o.offset + o.text.length

/-- The pattern reads at least one character. -/
def IsWide (p : Pattern) : Prop := ∀ ⦃part kept rest⦄, p.Reads part kept rest → part ≠ []

/-- A reading as a part of the text that is read. -/
theorem exists_part_of_read? {text : List Char} {r : Reading} (h : p.read? text = some r) :
    text = text.take r.width ++ r.rest ∧ (text.take r.width).length = r.width := by
  obtain ⟨part, kept, rest, -, rfl, rfl⟩ := reads_of_read? h
  rw [List.take_left]
  exact ⟨rfl, rfl⟩

/-- What is read at a place has a width. -/
theorem IsReadAt.lt_stop (hwide : p.IsWide) {text : List Char} {o : Occurrence}
    (h : p.IsReadAt text o) : o.offset < o.stop := by
  obtain ⟨before, rest, -, -, hread⟩ := h
  obtain ⟨part, kept, rest', hreads, -, hreading⟩ := reads_of_read? hread
  have hpart := List.length_pos_of_ne_nil (hwide hreads)
  have hlength : o.text.length = part.length := congrArg Reading.width hreading
  rw [Occurrence.stop]
  omega

/-- At one place of a text a pattern is read in one way. -/
theorem IsReadAt.eq {text : List Char} {o o' : Occurrence} (h : p.IsReadAt text o)
    (h' : p.IsReadAt text o') (heq : o.offset = o'.offset) : o = o' := by
  obtain ⟨offset, part, kept⟩ := o
  obtain ⟨offset', part', kept'⟩ := o'
  obtain ⟨before, rest, rfl, rfl, hread⟩ := h
  obtain ⟨before', rest', htext, rfl, hread'⟩ := h'
  obtain ⟨rfl, hparts⟩ := List.append_inj htext heq
  dsimp only at hparts hread hread'
  rw [← hparts, hread] at hread'
  injection Option.some.inj hread' with _ hkept hrest
  subst hkept hrest
  obtain rfl := List.append_cancel_right hparts
  rfl

/-- The places behind a part of a text that was passed, found from there. -/
theorem isScan_findAllFrom (hwide : p.IsWide) : ∀ (rest before : List Char) (skip : Nat),
    IsScan (fun o => p.IsReadAt (before ++ rest) o ∧ before.length + skip ≤ o.offset)
      Occurrence.offset Occurrence.stop (p.findAllFrom skip before.length rest) := by
  intro rest
  induction rest with
  | nil =>
    intro before skip
    have hnone : p.findAllFrom skip before.length [] = [] := by simp [findAllFrom]
    rw [hnone]
    refine .nil fun o ⟨hread, hoffset⟩ => ?_
    have hstop := hread.lt_stop hwide
    obtain ⟨before', rest, htext, hbefore, -⟩ := hread
    have hlength := congrArg List.length htext
    simp only [Occurrence.stop, List.length_append, List.length_nil] at hstop hlength
    omega
  | cons c rest ih =>
    intro before skip
    have hnext := ih (before ++ [c])
    simp only [List.append_assoc, List.singleton_append, List.length_append,
      List.length_singleton] at hnext
    cases skip with
    | succ skip =>
      rw [findAllFrom]
      exact (hnext skip).congr fun o => by rw [Nat.add_assoc, Nat.add_comm 1]
    | zero =>
      rw [findAllFrom]
      split
      · rename_i r hread
        obtain ⟨htext, hwidth⟩ := exists_part_of_read? hread
        have hhere : p.IsReadAt (before ++ c :: rest)
            ⟨before.length, (c :: rest).take r.width, r.kept⟩ :=
          ⟨before, r.rest, by rw [← htext], rfl, by rw [← htext, hread, hwidth]⟩
        have hstop := hhere.lt_stop hwide
        rw [Occurrence.stop] at hstop
        refine .cons ⟨hhere, Nat.le_refl _⟩ (fun o ⟨ho, hoffset⟩ => ?_)
          ((hnext (r.width - 1)).congr fun o => ?_)
        · by_cases heq : o.offset = before.length
          · exact .inl (ho.eq hhere heq)
          · exact .inr (by dsimp only; omega)
        · rw [and_assoc, Occurrence.stop]
          refine and_congr_right fun _ => ?_
          dsimp only at hstop ⊢
          omega
      · rename_i hnone
        refine (hnext 0).congr fun o => and_congr_right fun ho => ?_
        have hne : o.offset ≠ before.length := by
          rintro heq
          obtain ⟨before', rest', htext, hbefore, hread⟩ := ho
          obtain ⟨-, htext⟩ := List.append_inj htext (by rw [hbefore, heq])
          rw [← htext, hnone] at hread
          cases hread
        omega

/-- **Finding all places of a pattern is a scan** of the places where it is read. -/
theorem isScan_findAll (hwide : p.IsWide) (text : List Char) :
    IsScan (p.IsReadAt text) Occurrence.offset Occurrence.stop (p.findAll text) := by
  refine (isScan_findAllFrom hwide text [] 0).congr fun o => ?_
  rw [List.nil_append, List.length_nil, Nat.add_zero]
  exact and_iff_left (Nat.zero_le _)

/-! ## Part by part -/

/-- What was read already is passed over. -/
theorem findAllFrom_skip (p : Pattern) (front : List Char) : ∀ (offset : Nat) (rest : List Char),
    p.findAllFrom front.length offset (front ++ rest) =
      p.findAllFrom 0 (offset + front.length) rest := by
  induction front with
  | nil => exact fun offset rest => rfl
  | cons c front ih =>
    intro offset rest
    rw [List.length_cons, List.cons_append, findAllFrom, ih, Nat.add_assoc, Nat.add_comm 1]

/-- So is a part in which nothing is read. -/
theorem findAllFrom_of_none (front : List Char) {rest : List Char}
    (h : ∀ behind, behind ≠ [] → behind <:+ front → p.read? (behind ++ rest) = none) :
    ∀ offset, p.findAllFrom 0 offset (front ++ rest) =
      p.findAllFrom 0 (offset + front.length) rest := by
  induction front with
  | nil => exact fun offset => rfl
  | cons c front ih =>
    intro offset
    have hhere : p.read? (c :: (front ++ rest)) = none :=
      h (c :: front) (List.cons_ne_nil _ _) List.suffix_rfl
    rw [List.cons_append, findAllFrom, hhere]
    dsimp only
    rw [ih fun behind hne hsuffix => h behind hne (hsuffix.trans (List.suffix_cons _ _)),
      List.length_cons, Nat.add_assoc, Nat.add_comm 1]

/-- What is read is found, and the scan goes on behind it. -/
theorem findAllFrom_of_some {part rest : List Char} {kept : List (List Char)} (hpart : part ≠ [])
    (h : p.read? (part ++ rest) = some ⟨part.length, kept, rest⟩) (offset : Nat) :
    p.findAllFrom 0 offset (part ++ rest) =
      ⟨offset, part, kept⟩ :: p.findAllFrom 0 (offset + part.length) rest := by
  obtain ⟨c, part, rfl⟩ := List.exists_cons_of_ne_nil hpart
  rw [List.cons_append] at h ⊢
  rw [findAllFrom, h]
  dsimp only
  rw [← List.cons_append, List.take_left, List.length_cons, Nat.add_sub_cancel, findAllFrom_skip,
    Nat.add_assoc, Nat.add_comm 1]

end Preflight.Pattern
