import Mathlib.Data.Finset.Card
import Mathlib.Data.Finset.Dedup
import Preflight.Manifest
import Preflight.Proofs.Json.Keys
import Preflight.Proofs.Pairs
import Preflight.Proofs.Scan.Answers

/-!
# Packages of a manifest

A manifest declares packages in two sections, which are merged. The merged list has each name of
either section once (`length_dependencies`), and a name leads to the value of the second section if
it is there, or else to that of the first (`range?_eq_some_iff`): in a manifest that was read each
name is in a section once (`wellFormed_of_ofText`).
-/

set_option autoImplicit false

namespace Preflight.Manifest

/-- The manifest that a value stands for. -/
def ofValue : Json.Value → Manifest
  | .object fields => .object fields
  | _ => .malformed

/-- The names of the declared packages, in either section. -/
def packages (m : Manifest) : List Json.Text :=
  (m.section? "dependencies" ++ m.section? "devDependencies").map (·.1)

/-- The package is declared with the text of a value: that under its name in the section for
development, or else that in the section of dependencies. -/
def DeclaredAs (m : Manifest) (package spec : String) : Prop :=
  ∃ value, (Json.field? package (m.section? "devDependencies")).or
    (Json.field? package (m.section? "dependencies")) = some value ∧ spec = value.display.toString

instance (m : Manifest) (package spec : String) : Decidable (m.DeclaredAs package spec) :=
  decidable_of_iff (((Json.field? package (m.section? "devDependencies")).or
    (Json.field? package (m.section? "dependencies"))).map (·.display.toString) = some spec) <| by
      rw [Option.map_eq_some_iff]
      exact exists_congr fun value => and_congr_right fun _ => eq_comm

/-! ## The merged sections -/

variable {m : Manifest}

/-- The names of the merged list are those of both sections. -/
theorem mem_keys_dependencies {name : Json.Text} :
    name ∈ m.dependencies.map (·.1) ↔ name ∈ m.packages := by
  rw [dependencies, Pairs.mem_keys_putAll, List.map_map]
  rfl

/-- **As many packages are declared as there are names.** -/
theorem length_dependencies (m : Manifest) :
    m.dependencies.length = m.packages.toFinset.card := by
  have hnodup : (m.dependencies.map (·.1)).Nodup := Pairs.nodup_keys_putAll _
  have hnames : (m.dependencies.map (·.1)).toFinset = m.packages.toFinset := by
    ext name
    rw [List.mem_toFinset, List.mem_toFinset, mem_keys_dependencies]
  rw [← hnames, List.toFinset_card_of_nodup hnodup, List.length_map]

/-- A name leads to the text in the section for development, or else to that in the section of
dependencies, if no name is in one of them twice. -/
theorem lookup_dependencies (h : ∀ key, ((m.section? key).map (·.1)).Nodup) (name : Json.Text) :
    m.dependencies.lookup name = (((m.section? "devDependencies").lookup name).or
      ((m.section? "dependencies").lookup name)).map (·.display) := by
  have hlast : ∀ key, Pairs.lastValue ((m.section? key).map fun entry =>
      (entry.1, entry.2.display)) name = ((m.section? key).lookup name).map (·.display) := by
    intro key
    rw [Pairs.lastValue_of_nodup (by rw [List.map_map]; exact h key)]
    exact Pairs.lookup_map_value _ _ _
  have hmerged : m.dependencies = Pairs.putAll ((m.section? "dependencies" ++
      m.section? "devDependencies").map fun entry => (entry.1, entry.2.display)) := rfl
  rw [hmerged, Pairs.lookup_putAll, List.map_append, Pairs.lastValue_append, hlast, hlast,
    Option.map_or]

/-- **A range is the text under the name of the package**, if no name is in a section twice. -/
theorem range?_eq_some_iff (h : (Json.Value.object m.entries).WellFormed) {package spec : String} :
    m.range? package = some spec ↔ m.DeclaredAs package spec := by
  have hsection : ∀ key, ((m.section? key).map (·.1)).Nodup := by
    intro key
    unfold section?
    split
    · rename_i fields hfields
      obtain ⟨before, after, hentries, -⟩ := List.lookup_eq_some_iff.mp hfields
      cases h with
      | object _ hvalues =>
        have hwell := hvalues (Json.Text.ofString key, .object fields) (by simp [hentries])
        cases hwell with
        | object hkeys => exact hkeys
    · exact List.nodup_nil
  rw [range?, Json.field?, lookup_dependencies hsection, Option.map_map, Option.map_eq_some_iff]
  exact exists_congr fun value => and_congr_right fun _ => eq_comm

/-- A manifest that is read has each key once. -/
theorem wellFormed_of_ofText {text : String} (h : ofText text = .ok m) :
    (Json.Value.object m.entries).WellFormed := by
  unfold ofText at h
  split at h
  · rename_i hparse
    cases h
    exact Json.wellFormed_of_parse hparse
  · cases h
    exact .object List.nodup_nil nofun
  · cases h
    exact .object List.nodup_nil nofun
  · cases h

/-- So has the manifest of a project. -/
theorem wellFormed_of_load {disk : Disk} {root : Path} (h : load disk root = .ok m) :
    (Json.Value.object m.entries).WellFormed := by
  have hnone : (Json.Value.object []).WellFormed := .object List.nodup_nil nofun
  obtain ⟨isFile, -, h⟩ := bind_eq_ok.mp h
  split at h
  · obtain ⟨text?, -, h⟩ := bind_eq_ok.mp h
    cases text? with
    | none =>
      cases h
      exact hnone
    | some text => exact wellFormed_of_ofText h
  · cases h
    exact hnone

end Preflight.Manifest
