import RestScaffold.Naming.Plural
import RestScaffold.Proofs.Keyed
import RestScaffold.Proofs.Text.Lowered

/-! # Plurals of identifiers

The outermost layer that has an override for a name decides on its plural, and where there is none
the ending of the name does. A plural by the ending starts as the name does, so it is an identifier
if the name is one. Snake case may take the underscores away that a name starts with, and then a
digit can come first.
-/
namespace RestScaffold

theorem naivePlural_cases (s : String) :
    (∃ stem, s = stem ++ "y" ∧ naivePlural s = stem ++ "ies") ∨
      s.toList.getLast? ≠ some 'y' ∧ naivePlural s = s ++ "s" := by
  unfold naivePlural
  split
  · rename_i stem hs
    refine Or.inl ⟨String.ofList stem.reverse,?_,rfl⟩
    rw [← String.toList_inj, ← List.reverse_inj, hs]
    simp [String.toList_append]
  · rename_i hother
    refine Or.inr ⟨?_,rfl⟩
    intro hlast
    rw [← List.head?_reverse] at hlast
    obtain ⟨stem,hs⟩ := List.head?_eq_some_iff.mp hlast
    exact hother stem hs

theorem naivePlural_ne_lone (s : String) : naivePlural s ≠ "_" := by
  have hlast : (naivePlural s).toList.getLast? = some 's' := by
    rcases naivePlural_cases s with ⟨stem,_,hp⟩ | ⟨_,hp⟩
    · rw [hp]
      simp [String.toList_append]
    · rw [hp]
      simp [String.toList_append]
  intro h
  rw [h] at hlast
  exact absurd hlast (by decide)

theorem IdentifierChars.naivePlural {s : String} (h : IdentifierChars s) :
    IdentifierChars (naivePlural s) := by
  rcases naivePlural_cases s with ⟨stem,rfl,hp⟩ | ⟨_,hp⟩
  · rw [hp]
    refine IdentifierChars.append ?_ (by decide)
    intro c hc
    exact h c (by simp [String.toList_append, hc])
  · rw [hp]
    exact h.append (by decide)

/-- The plural by the ending starts as the name does, and with a letter if there is no name. -/
theorem exists_head_naivePlural_iff {s : String} {P : Char → Prop} (hs : P 's') (hy : P 'i' ↔ P 'y') :
    (∃ c, (naivePlural s).toList.head? = some c ∧ P c) ↔ ∀ c ∈ s.toList.head?, P c := by
  rcases naivePlural_cases s with ⟨stem,rfl,hp⟩ | ⟨_,hp⟩
  · rw [hp, String.toList_append, String.toList_append, List.head?_append, List.head?_append]
    cases stem.toList.head? with
    | none => simpa using hy
    | some c => simp
  · rw [hp, String.toList_append, List.head?_append]
    cases s.toList.head? with
    | none => simpa using hs
    | some c => simp

theorem isIdentifier_naivePlural_iff {s : String} (h : IdentifierChars s) :
    isIdentifier (naivePlural s) = true ↔ ∀ c ∈ s.toList.head?, startsIdentifier c = true := by
  rw [isIdentifier_iff_head h.naivePlural, and_iff_right (naivePlural_ne_lone s)]
  exact exists_head_naivePlural_iff (by decide) (by decide)

theorem isIdentifier_naivePlural {s : String} (h : isIdentifier s = true) :
    isIdentifier (naivePlural s) = true := by
  have hchars := isIdentifier_chars h
  obtain ⟨_,c,hc,hstarts⟩ := (isIdentifier_iff_head hchars).mp h
  refine (isIdentifier_naivePlural_iff hchars).mpr ?_
  intro d hd
  rw [hc] at hd
  exact Option.some.inj hd ▸ hstarts

theorem Ascii.naivePlural {s : String} (h : Ascii s) : Ascii (naivePlural s) := by
  rcases naivePlural_cases s with ⟨stem,rfl,hp⟩ | ⟨_,hp⟩
  · rw [hp]
    refine Ascii.append ?_ (by decide)
    intro c hc
    exact h c (by simp [String.toList_append, hc])
  · rw [hp]
    exact h.append (by decide)

theorem hasUppercase_naivePlural {s : String} (h : Ascii s) (hlow : hasUppercase s = false) :
    hasUppercase (naivePlural s) = false := by
  have hupper := (hasUppercase_eq_false_iff h).mp hlow
  refine (hasUppercase_eq_false_iff h.naivePlural).mpr ?_
  rcases naivePlural_cases s with ⟨stem,rfl,hp⟩ | ⟨_,hp⟩
  · rw [hp, String.toList_append, List.forall_mem_append]
    rw [String.toList_append, List.forall_mem_append] at hupper
    exact ⟨hupper.1,by simp⟩
  · rw [hp, String.toList_append, List.forall_mem_append]
    exact ⟨hupper,by simp⟩

theorem LowerIdentifier.naivePlural {s : String} (h : LowerIdentifier s) :
    LowerIdentifier (naivePlural s) :=
  ⟨isIdentifier_naivePlural h.identifier,
    hasUppercase_naivePlural (isIdentifier_chars h.identifier).ascii h.no_upper⟩

/-- The plural of a name in snake case is no identifier only if a digit is the first sign. -/
theorem isIdentifier_naivePlural_snakeCase_iff {s : String} (h : IdentifierChars s) :
    isIdentifier (naivePlural (snakeCase s)) = true ↔
      ∀ c, firstSign s = some c → c.isDigit = false := by
  rw [isIdentifier_naivePlural_iff h.snakeCase, head?_snakeCase h]
  have hsign : ∀ c, firstSign s = some c →
      (startsIdentifier c.toLower = true ↔ c.isDigit = false) := by
    intro c hc
    have hin : c ∈ s.toList := List.mem_of_find?_eq_some hc
    exact startsIdentifier_toLower_iff (h c hin) (List.find?_some hc)
  cases hf : firstSign s with
  | none => simp
  | some c => simpa using hsign c hf

/-- Whether a table can be named after a plural, or without one after a name. The first letter or
digit of the plural has to be a letter, and that of the name as well, if the name has one. -/
def MakesTable (name : String) : Option String → Prop
  | some plural => ∃ c, firstSign plural = some c ∧ c.isDigit = false
  | none => ∀ c, firstSign name = some c → c.isDigit = false

namespace Overrides

theorem entries_ofPairs (pairs : List (String × String)) :
    (ofPairs pairs).entries = putAll (pairs.map fun p => (lowercase p.1,p.2)) [] := by
  rw [ofPairs, putAll, List.foldl_map]
  exact (List.foldl_hom entries fun _ _ => rfl).symm

/-- The last pair counts whose singular differs from a name in nothing but case. -/
theorem find?_ofPairs (pairs : List (String × String)) (s : String) : (ofPairs pairs).find? s =
    (pairs.reverse.find? fun p => lowercase s == lowercase p.1).map Prod.snd := by
  rw [find?, entries_ofPairs, lookup_putAll, ← List.map_reverse, lookup_map_fst lowercase,
    List.lookup_nil, Option.or_none]

end Overrides

namespace PluralPolicy

/-- The override that counts for a name. -/
def override? : PluralPolicy → String → Option String
  | naive, _ => none
  | irregular overrides inner, s => (overrides.find? s).or (inner.override? s)

variable {p : PluralPolicy} {s q : String}

theorem pluralize_eq (p : PluralPolicy) (s : String) : p.pluralize s =
    match p.override? s with
    | some q => if hasUppercase s then q else lowercase q
    | none => naivePlural s := by
  induction p with
  | naive => rfl
  | irregular overrides inner ih =>
    rw [pluralize, override?]
    cases overrides.find? s with
    | some q => rfl
    | none => exact ih

theorem tableName_eq (p : PluralPolicy) (s : String) : p.tableName s =
    match p.override? s with
    | some q => snakeCase q
    | none => naivePlural (snakeCase s) := by
  induction p with
  | naive => rfl
  | irregular overrides inner ih =>
    rw [tableName, override?]
    cases overrides.find? s with
    | some q => rfl
    | none => exact ih

theorem pluralize_chars (hq : ∀ q ∈ p.override? s, isIdentifier q = true)
    (h : IdentifierChars s) : IdentifierChars (p.pluralize s) := by
  rw [pluralize_eq]
  cases hp : p.override? s with
  | none => exact h.naivePlural
  | some q =>
    have hplural := isIdentifier_chars (hq q hp)
    cases hasUppercase s with
    | true => exact hplural
    | false => exact hplural.lowercase

theorem tableName_chars (hq : ∀ q ∈ p.override? s, isIdentifier q = true)
    (h : IdentifierChars s) : IdentifierChars (p.tableName s) := by
  rw [tableName_eq]
  cases hp : p.override? s with
  | none => exact h.snakeCase.naivePlural
  | some q => exact (isIdentifier_chars (hq q hp)).snakeCase

/-- Lookups ignore case. -/
theorem override?_lowercase (h : Ascii s) : p.override? (lowercase s) = p.override? s := by
  have hlow := lowercase_lowercase h
  induction p with
  | naive => rfl
  | irregular overrides inner ih =>
    rw [override?, override?, ih, Overrides.find?, Overrides.find?, hlow]

theorem varNamePlural_eq (h : Ascii s) : p.varNamePlural s =
    match p.override? s with
    | some q => lowercase q
    | none => naivePlural (lowercase s) := by
  rw [varNamePlural, varName, pluralize_eq, override?_lowercase h, hasUppercase_lowercase h]
  rfl

theorem isIdentifier_varNamePlural_iff (h : isIdentifier s = true) :
    isIdentifier (p.varNamePlural s) = true ↔
      ∀ q ∈ p.override? s, isIdentifier (lowercase q) = true := by
  rw [varNamePlural_eq (isIdentifier_chars h).ascii]
  cases p.override? s with
  | some q => simp
  | none => simpa using isIdentifier_naivePlural (isIdentifier_lowercase h)

theorem isIdentifier_pathSegment (h : isIdentifier s = true)
    (hq : ∀ q ∈ p.override? s, isIdentifier (lowercase q) = true) :
    isIdentifier (p.pathSegment s) = true := by
  rw [pathSegment, pluralize_eq]
  cases hp : p.override? s with
  | none => exact isIdentifier_lowercase (isIdentifier_naivePlural h)
  | some q =>
    have hlow := hq q hp
    cases hasUppercase s with
    | true => exact hlow
    | false => exact isIdentifier_lowercase hlow

theorem lowerIdentifier_varNamePlural (h : isIdentifier s = true)
    (hq : ∀ q ∈ p.override? s, isIdentifier q = true) : LowerIdentifier (p.varNamePlural s) := by
  rw [varNamePlural_eq (isIdentifier_chars h).ascii]
  cases hp : p.override? s with
  | none => exact (lowerIdentifier_lowercase h).naivePlural
  | some q => exact lowerIdentifier_lowercase (hq q hp)

theorem lowerIdentifier_pathSegment (h : isIdentifier s = true)
    (hq : ∀ q ∈ p.override? s, isIdentifier q = true) : LowerIdentifier (p.pathSegment s) := by
  refine lowerIdentifier_lowercase ?_
  rw [pluralize_eq]
  cases hp : p.override? s with
  | none => exact isIdentifier_naivePlural h
  | some q =>
    have hplural := hq q hp
    cases hasUppercase s with
    | true => exact hplural
    | false => exact isIdentifier_lowercase hplural

/-- A derived table is an identifier exactly if the plural or the name makes one. -/
theorem isIdentifier_tableName_iff (h : isIdentifier s = true)
    (hq : ∀ q ∈ p.override? s, isIdentifier q = true) :
    isIdentifier (p.tableName s) = true ↔ MakesTable s (p.override? s) := by
  rw [tableName_eq]
  cases hp : p.override? s with
  | none => exact isIdentifier_naivePlural_snakeCase_iff (isIdentifier_chars h)
  | some q => exact isIdentifier_snakeCase_iff (isIdentifier_chars (hq q hp))

end PluralPolicy
end RestScaffold
