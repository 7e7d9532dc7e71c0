import RestScaffold.Proofs.Model.Names
import RestScaffold.Proofs.Naming.SharedTables

/-! # Handlers and routes under one plural

The collection is called by the plural of the name in lower case, and its route is the plural of the
name, put in lower case afterwards. An override does not care in which order this is done. The
ending does: a final `y` becomes `ies`, and a final `Y` is such an ending only in lower case.
-/
namespace RestScaffold

/-- A text that has no upper case letter and that lower case leaves alone. -/
structure InLowerCase (s : String) : Prop where
  no_upper : hasUppercase s = false
  lowercase_eq : lowercase s = s

theorem inLowerCase_lowercase {s : String} (h : Ascii s) : InLowerCase (lowercase s) :=
  ⟨hasUppercase_lowercase h,lowercase_lowercase h⟩

theorem InLowerCase.naivePlural {s : String} (h : InLowerCase s) (ha : Ascii s) :
    InLowerCase (naivePlural s) := by
  have hupper := hasUppercase_naivePlural ha h.no_upper
  exact ⟨hupper,lowercase_of_not_upper ha.naivePlural hupper⟩

/-- Texts that differ in case only are the same in lower case. -/
theorem lowercase_eq_lowercase_iff {s t : String} (hs : Ascii s) (ht : Ascii t) :
    lowercase s = lowercase t ↔ s.toList.map Char.toLower = t.toList.map Char.toLower := by
  rw [← String.toList_inj, toList_lowercase hs, toList_lowercase ht]

/-- The two orders agree on the ending unless a capital `Y` comes last. -/
theorem naivePlural_lowercase_eq_iff {s : String} (h : Ascii s) :
    naivePlural (lowercase s) = lowercase (naivePlural s) ↔ s.toList.getLast? ≠ some 'Y' := by
  refine ⟨?_,fun hlast => (lowercase_naivePlural h hlast).symm⟩
  intro he hlast
  obtain ⟨front,hfront⟩ := List.getLast?_eq_some_iff.mp hlast
  have hs : s = String.ofList front ++ "Y" := by
    rw [← String.toList_inj]
    simpa using hfront
  have hstem : Ascii (String.ofList front) := by
    intro c hc
    exact h c (by simp only [hs, String.toList_append, List.mem_append, hc, true_or])
  have hplural : naivePlural s = s ++ "s" := naivePlural_of_other (by simp [hlast])
  have hy : lowercase s = lowercase (String.ofList front) ++ "y" := by
    rw [hs, lowercase_append hstem (by decide)]
    rfl
  have hys : lowercase "s" = "s" := rfl
  rw [hplural, lowercase_append h (by decide), hy, naivePlural_of_y, String.append_assoc,
    String.append_right_inj, hys] at he
  exact absurd he (by decide)

namespace PluralPolicy
variable {p : PluralPolicy} {s : String}

/-- The singulars that the layers of a policy have an override for. -/
def overrideNames : PluralPolicy → List String
  | naive => []
  | irregular overrides inner => overrides.entries.map (·.1) ++ inner.overrideNames

theorem override?_eq_none_iff : p.override? s = none ↔ lowercase s ∉ p.overrideNames := by
  induction p with
  | naive => simp [override?, overrideNames]
  | irregular overrides inner ih =>
    rw [override?, Option.or_eq_none_iff, ih, Overrides.find?, lookup_eq_none_iff_notMem,
      overrideNames, List.mem_append, not_or]

theorem pathSegment_eq (hq : ∀ q ∈ p.override? s, Ascii q) : p.pathSegment s =
    match p.override? s with
    | some q => lowercase q
    | none => lowercase (naivePlural s) := by
  rw [pathSegment, pluralize_eq]
  cases hp : p.override? s with
  | none => rfl
  | some q =>
    have hlow := lowercase_lowercase (hq q hp)
    cases hasUppercase s with
    | true => rfl
    | false => exact hlow

theorem inLowerCase_varNamePlural (hs : Ascii s) (hq : ∀ q ∈ p.override? s, Ascii q) :
    InLowerCase (p.varNamePlural s) := by
  rw [varNamePlural_eq hs]
  cases hp : p.override? s with
  | none => exact (inLowerCase_lowercase hs).naivePlural hs.lowercase
  | some q => exact inLowerCase_lowercase (hq q hp)

theorem inLowerCase_pathSegment (hs : Ascii s) (hq : ∀ q ∈ p.override? s, Ascii q) :
    InLowerCase (p.pathSegment s) := by
  rw [pathSegment_eq hq]
  cases hp : p.override? s with
  | none => exact inLowerCase_lowercase hs.naivePlural
  | some q => exact inLowerCase_lowercase (hq q hp)

/-- The collection is called as its route exactly if the name has an override or does not end in a
capital `Y`. Both names are in lower case, and the case of a name does not matter to the first. -/
theorem varNamePlural_eq_pathSegment_iff (hp : ∀ q ∈ p.overridePlurals, Ascii q) (hs : Ascii s) :
    (p.varNamePlural s = p.pathSegment s ↔
      lowercase s ∈ p.overrideNames ∨ s.toList.getLast? ≠ some 'Y') ∧
    InLowerCase (p.varNamePlural s) ∧ InLowerCase (p.pathSegment s) ∧
    ∀ t, Ascii t → s.toList.map Char.toLower = t.toList.map Char.toLower →
      p.varNamePlural s = p.varNamePlural t := by
  have hq : ∀ q ∈ p.override? s, Ascii q := fun q hq => hp q (mem_overridePlurals hq)
  refine ⟨?_,inLowerCase_varNamePlural hs hq,inLowerCase_pathSegment hs hq,?_⟩
  · rw [varNamePlural_eq hs, pathSegment_eq hq]
    cases ho : p.override? s with
    | some q =>
      have hname : lowercase s ∈ p.overrideNames := by
        by_contra hnot
        rw [override?_eq_none_iff.mpr hnot] at ho
        cases ho
      exact iff_of_true rfl (Or.inl hname)
    | none =>
      rw [or_iff_right (override?_eq_none_iff.mp ho)]
      exact naivePlural_lowercase_eq_iff hs
  · intro t ht he
    exact congrArg p.pluralize ((lowercase_eq_lowercase_iff hs ht).mpr he)

/-- Two layers of plurals, of which the upper one has a name in capitals. -/
def libraryPolicy : PluralPolicy :=
  .irregular (.ofPairs [("CITY", "Cities")]) (.irregular (.ofPairs [("Person", "People")]) .naive)

/-- Of two names that end in a capital `Y` the one without an override gets two plurals. -/
theorem city_library_plurals : (∀ q ∈ libraryPolicy.overridePlurals, Ascii q) ∧
    (Ascii "CITY" ∧ libraryPolicy.varNamePlural "CITY" = libraryPolicy.pathSegment "CITY") ∧
    (Ascii "LIBRARY" ∧
      libraryPolicy.varNamePlural "LIBRARY" ≠ libraryPolicy.pathSegment "LIBRARY") ∧
    libraryPolicy.varNamePlural "LIBRARY" = libraryPolicy.varNamePlural "Library" := by
  have hp : ∀ q ∈ libraryPolicy.overridePlurals, Ascii q := by decide +kernel
  have hcity := varNamePlural_eq_pathSegment_iff hp (s := "CITY") (by decide)
  have hlibrary := varNamePlural_eq_pathSegment_iff hp (s := "LIBRARY") (by decide)
  refine ⟨hp,⟨by decide,?_⟩,⟨by decide,?_⟩,?_⟩
  · exact hcity.1.mpr (Or.inl (by decide +kernel))
  · rw [Ne, hlibrary.1]
    decide +kernel
  · exact hlibrary.2.2.2 "Library" (by decide) (by decide)

end PluralPolicy
end RestScaffold
