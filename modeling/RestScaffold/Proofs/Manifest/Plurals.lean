import RestScaffold.Proofs.Manifest.Safety

/-! # Plurals that a manifest keeps

A manifest tells its singulars apart by their spelling, but its policy only by their lower case. Of
singulars that differ in nothing but case the last one counts, and the entries of the others are
lost.
-/
namespace RestScaffold
namespace Manifest
variable {m : Manifest} {front back : List (String × String)} {p : String × String}

/-- The singulars of a manifest as its policy tells them apart. -/
def singulars (m : Manifest) : List String := m.plurals.map fun p => lowercase p.1

/-- A manifest whose policy has every plural that it names. -/
structure KeepsPlurals (m : Manifest) : Prop where
  size : ∃ overrides, m.policy = .irregular overrides .naive ∧ overrides.size = m.plurals.length
  each : ∀ p ∈ m.plurals, lowercase (m.policy.pluralize p.1) = lowercase p.2

theorem size_overrides (m : Manifest) :
    (Overrides.ofPairs m.plurals).size = m.singulars.eraseDups.length := by
  rw [Overrides.size, Overrides.entries_ofPairs, length_putAll, List.map_map]
  rfl

theorem size_overrides_eq_iff :
    (Overrides.ofPairs m.plurals).size = m.plurals.length ↔ m.singulars.Nodup := by
  rw [size_overrides, ← length_eraseDups_eq_iff, singulars, List.length_map]

/-- The last entry for a singular counts. -/
theorem pluralOf?_last (hs : m.plurals = front ++ p :: back)
    (hlast : ∀ q ∈ back, lowercase q.1 ≠ lowercase p.1) : m.pluralOf? p.1 = some p.2 := by
  have hback : (back.reverse.find? fun q => lowercase p.1 == lowercase q.1) = none := by
    refine List.find?_eq_none.mpr ?_
    intro q hq
    simpa using Ne.symm (hlast q (List.mem_reverse.mp hq))
  rw [pluralOf?, hs]
  simp [List.find?_append, hback]

/-- The override for a singular is its plural, up to case. -/
theorem lowercase_pluralize (hpass : NamesPass m) (hp : p ∈ m.plurals)
    (hplural : m.pluralOf? p.1 = some p.2) :
    lowercase (m.policy.pluralize p.1) = lowercase p.2 := by
  have hlow := (lowerIdentifier_lowercase (hpass.plurals p hp).plural).lowercase_eq
  rw [PluralPolicy.pluralize_eq, override?_policy, hplural]
  cases hasUppercase p.1 with
  | true => rfl
  | false => exact hlow

theorem lowercase_pluralize_last (hpass : NamesPass m) (hs : m.plurals = front ++ p :: back)
    (hlast : ∀ q ∈ back, lowercase q.1 ≠ lowercase p.1) :
    lowercase (m.policy.pluralize p.1) = lowercase p.2 :=
  lowercase_pluralize hpass (by simp [hs]) (pluralOf?_last hs hlast)

end Manifest

/-- A manifest whose names are let through has one override for each of its singulars, where case
does not matter, and it is the last one named. So no entry is lost exactly if no two singulars
differ in nothing but case. -/
theorem checkNames_keepsPlurals_iff (m : Manifest) (h : m.checkNames = .ok ()) :
    (m.KeepsPlurals ↔ m.singulars.Nodup) ∧
    (∃ overrides, m.policy = .irregular overrides .naive ∧
      overrides.size = m.singulars.eraseDups.length) ∧
    ∀ front p back, m.plurals = front ++ p :: back →
      (∀ q ∈ back, lowercase q.1 ≠ lowercase p.1) →
      lowercase (m.policy.pluralize p.1) = lowercase p.2 := by
  have hpass := checkNames_eq_ok_iff.mp h
  refine ⟨?_,⟨_,rfl,m.size_overrides⟩,fun _ _ _ => Manifest.lowercase_pluralize_last hpass⟩
  constructor
  · rintro ⟨⟨overrides,hpolicy,hsize⟩,_⟩
    cases hpolicy
    exact Manifest.size_overrides_eq_iff.mp hsize
  · intro hnodup
    refine ⟨⟨_,rfl,Manifest.size_overrides_eq_iff.mpr hnodup⟩,?_⟩
    intro p hp
    obtain ⟨front,back,hs⟩ := List.append_of_mem hp
    refine Manifest.lowercase_pluralize_last hpass hs ?_
    intro q hq he
    rw [Manifest.singulars, hs, List.map_append, List.map_cons] at hnodup
    have hnew := (List.nodup_cons.mp (List.nodup_append.mp hnodup).2.1).1
    exact hnew (List.mem_map.mpr ⟨q,hq,he⟩)

/-- A manifest with plurals for several singulars. -/
def flockManifest : Manifest :=
  ⟨.default,[("person", "People"), ("Goose", "Geese"), ("Sheep", "Sheep")],
    [("Person", keyOnlyBody), ("Goose", keyOnlyBody)]⟩

theorem flock_keepsPlurals : flockManifest.checkNames = .ok () ∧ flockManifest.singulars.Nodup ∧
    flockManifest.KeepsPlurals ∧ flockManifest.policy.pluralize "person" = "people" ∧
    flockManifest.policy.pluralize "Goose" = "Geese" := by
  have hnames : flockManifest.checkNames = .ok () := by decide +kernel
  have hnodup : flockManifest.singulars.Nodup := by decide +kernel
  have hkeeps := (checkNames_keepsPlurals_iff flockManifest hnames).1.mpr hnodup
  exact ⟨hnames,hnodup,hkeeps,by decide +kernel,by decide +kernel⟩

/-- A manifest with two plurals for one model. -/
def personsManifest : Manifest :=
  ⟨.default,[("Person", "People"), ("person", "Persons")],[("Person", keyOnlyBody)]⟩

/-- Of two singulars that differ in nothing but case the first one loses its plural. -/
theorem people_lost : personsManifest.checkNames = .ok () ∧
    personsManifest.policy = .irregular ⟨[("person", "Persons")]⟩ .naive ∧
    personsManifest.policy.pluralize "Person" = "Persons" ∧ ¬personsManifest.KeepsPlurals := by
  have hpolicy : personsManifest.policy = .irregular ⟨[("person", "Persons")]⟩ .naive := by
    decide +kernel
  have hplural : personsManifest.policy.pluralize "Person" = "Persons" := by decide +kernel
  refine ⟨by decide +kernel,hpolicy,hplural,?_⟩
  intro hkeeps
  have hfirst := hkeeps.each ("Person", "People") List.mem_cons_self
  rw [hplural] at hfirst
  exact absurd hfirst (by decide +kernel)

end RestScaffold
