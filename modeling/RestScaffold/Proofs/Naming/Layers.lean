import RestScaffold.Proofs.Naming.Plural

/-! # Layers of plurals

A layer of overrides on top of another one is a single layer with the pairs of both, in which those
of the upper layer come last. Within a layer the order of the pairs counts only for singulars that
differ in nothing but case. Both are so because names depend on a policy through the override that
counts for them, and on nothing else.
-/
namespace RestScaffold

/-- One list of pairs in another order, in which pairs with the same singular up to case have kept
theirs. -/
def Rearranged (pairs others : List (String × String)) : Prop :=
  ∀ key, (pairs.filter fun p => key == lowercase p.1) = others.filter fun p => key == lowercase p.1

theorem Rearranged.swap {p q : String × String} (h : lowercase p.1 ≠ lowercase q.1)
    (front back : List (String × String)) :
    Rearranged (front ++ p :: q :: back) (front ++ q :: p :: back) := by
  intro key
  by_cases hp : key = lowercase p.1
  · have hq : key ≠ lowercase q.1 := fun hq => h (hp.symm.trans hq)
    simp [hp, h]
  · simp [List.filter_cons, hp]

namespace Overrides

/-- Of the pairs for a name the last one counts. -/
theorem find?_ofPairs_filter (pairs : List (String × String)) (s : String) :
    (ofPairs pairs).find? s =
      (pairs.filter fun p => lowercase s == lowercase p.1).getLast?.map Prod.snd := by
  rw [find?_ofPairs, ← List.head?_filter, List.filter_reverse, List.head?_reverse]

theorem find?_ofPairs_append (lower upper : List (String × String)) (s : String) :
    (ofPairs (lower ++ upper)).find? s =
      ((ofPairs upper).find? s).or ((ofPairs lower).find? s) := by
  simp only [find?_ofPairs, List.reverse_append, List.find?_append, Option.map_or]

theorem find?_ofPairs_of_rearranged {pairs others : List (String × String)}
    (h : Rearranged pairs others) (s : String) :
    (ofPairs pairs).find? s = (ofPairs others).find? s := by
  simp only [find?_ofPairs_filter, h (lowercase s)]

end Overrides

namespace PluralPolicy
open Overrides

/-- Two policies that make the same names from a text. -/
structure SameNames (p q : PluralPolicy) (s : String) : Prop where
  pluralize : p.pluralize s = q.pluralize s
  varName : p.varName s = q.varName s
  varNamePlural : p.varNamePlural s = q.varNamePlural s
  pathSegment : p.pathSegment s = q.pathSegment s
  tableName : p.tableName s = q.tableName s

/-- Names depend on the override that counts and on nothing else of a policy. -/
theorem sameNames_of_override? {p q : PluralPolicy} (h : ∀ t, p.override? t = q.override? t)
    (s : String) : SameNames p q s := by
  have hplural : ∀ t, p.pluralize t = q.pluralize t := by
    intro t
    simp only [pluralize_eq, h t]
  refine ⟨hplural s,rfl,hplural (lowercase s),?_,?_⟩
  · exact congrArg lowercase (hplural s)
  · simp only [tableName_eq, h s]

variable (inner : PluralPolicy)

theorem override?_layers (lower upper : List (String × String)) (s : String) :
    (irregular (ofPairs upper) (irregular (ofPairs lower) inner)).override? s =
      (irregular (ofPairs (lower ++ upper)) inner).override? s := by
  simp only [override?, find?_ofPairs_append, Option.or_assoc]

/-- Two layers make the names that one layer makes with the pairs of both, and so does any layer
with these pairs rearranged. -/
theorem layers_merge (lower upper : List (String × String)) :
    (∀ s, SameNames (irregular (ofPairs upper) (irregular (ofPairs lower) inner))
      (irregular (ofPairs (lower ++ upper)) inner) s) ∧
    ∀ pairs others, Rearranged pairs others → ∀ s,
      SameNames (irregular (ofPairs pairs) inner) (irregular (ofPairs others) inner) s := by
  refine ⟨sameNames_of_override? (override?_layers inner lower upper),?_⟩
  intro pairs others h
  apply sameNames_of_override?
  intro t
  simp only [override?, find?_ofPairs_of_rearranged h]

/-- Persons in the upper one of two layers replace the people in the lower one. -/
theorem people_geese_merge :
    SameNames (irregular (ofPairs [("person", "Persons")])
        (irregular (ofPairs [("Person", "People"), ("Goose", "Geese")]) naive))
      (irregular (ofPairs [("Person", "People"), ("Goose", "Geese"), ("person", "Persons")]) naive)
      "Person" ∧
    Rearranged [("Person", "People"), ("Goose", "Geese"), ("person", "Persons")]
      [("Goose", "Geese"), ("Person", "People"), ("person", "Persons")] ∧
    SameNames
      (irregular (ofPairs [("Person", "People"), ("Goose", "Geese"), ("person", "Persons")]) naive)
      (irregular (ofPairs [("Goose", "Geese"), ("Person", "People"), ("person", "Persons")]) naive)
      "Person" ∧
    (irregular (ofPairs [("Goose", "Geese"), ("Person", "People"), ("person", "Persons")])
      naive).tableName "Person" = "persons" := by
  have hswap : Rearranged [("Person", "People"), ("Goose", "Geese"), ("person", "Persons")]
      [("Goose", "Geese"), ("Person", "People"), ("person", "Persons")] :=
    Rearranged.swap (by decide +kernel) [] [("person", "Persons")]
  obtain ⟨hmerge,hany⟩ := layers_merge naive [("Person", "People"), ("Goose", "Geese")]
    [("person", "Persons")]
  exact ⟨hmerge "Person",hswap,hany _ _ hswap "Person",by decide +kernel⟩

end PluralPolicy
end RestScaffold
