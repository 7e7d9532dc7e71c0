import RestScaffold.Proofs.Naming.Plural
import RestScaffold.Proofs.Text.Underscores

/-! # Names with one table

A table is the plural of a name in snake case, and a path the plural in lower case. Snake case drops
the difference between an underscore and the start of a word, and the plural by the ending takes `y`
and `ie` for the same. Where neither matters a table is its path but for underscores, so names with
one table have one path.
-/
namespace RestScaffold

theorem naivePlural_of_y (stem : String) : naivePlural (stem ++ "y") = stem ++ "ies" := by
  rcases naivePlural_cases (stem ++ "y") with ⟨stem',hs,hp⟩ | ⟨hlast,_⟩
  · rw [hp, (String.append_left_inj "y").mp hs]
  · exact absurd (by simp [String.toList_append]) hlast

theorem naivePlural_of_other {s : String} (h : s.toList.getLast? ≠ some 'y') :
    naivePlural s = s ++ "s" := by
  rcases naivePlural_cases s with ⟨stem,rfl,_⟩ | ⟨_,hp⟩
  · exact absurd (by simp [String.toList_append]) h
  · exact hp

/-- Two names of which one ends in `y` and the other in `ie` instead. -/
def SwapsEnding (s t : String) : Prop := ∃ stem, s = stem ++ "y" ∧ t = stem ++ "ie"

theorem naivePlural_eq_iff {s t : String} : naivePlural s = naivePlural t ↔
    s = t ∨ SwapsEnding s t ∨ SwapsEnding t s := by
  have hies : ∀ stem : String, stem ++ "ies" = stem ++ "ie" ++ "s" :=
    fun stem => by rw [String.append_assoc]; rfl
  constructor
  · intro h
    rcases naivePlural_cases s with ⟨a,rfl,hs⟩ | ⟨_,hs⟩ <;>
      rcases naivePlural_cases t with ⟨b,rfl,ht⟩ | ⟨_,ht⟩ <;> rw [hs, ht] at h
    · exact Or.inl (by rw [(String.append_left_inj "ies").mp h])
    · rw [hies, String.append_left_inj] at h
      exact Or.inr (Or.inl ⟨a,rfl,h.symm⟩)
    · rw [hies, String.append_left_inj] at h
      exact Or.inr (Or.inr ⟨b,rfl,h⟩)
    · exact Or.inl ((String.append_left_inj "s").mp h)
  · have hswap : ∀ {s t : String}, SwapsEnding s t → naivePlural s = naivePlural t := by
      rintro _ _ ⟨stem,rfl,rfl⟩
      rw [naivePlural_of_y, naivePlural_of_other (by simp [String.toList_append]), hies]
    rintro (rfl | h | h)
    · rfl
    · exact hswap h
    · exact (hswap h).symm

section Bare
variable {s : String}

theorem getLast?_bare (h : s.toList.getLast? ≠ some '_') :
    (bare s).toList.getLast? = s.toList.getLast? := by
  rw [toList_bare]
  rcases List.eq_nil_or_concat s.toList with hs | ⟨front,c,hs⟩
  · rw [hs]
    rfl
  · have hc : c ≠ '_' := by simpa [hs] using h
    simp [hs, hc]

/-- The underscores of a name that ends in none do not matter for the ending of its plural. -/
theorem bare_naivePlural (h : s.toList.getLast? ≠ some '_') :
    bare (naivePlural s) = naivePlural (bare s) := by
  rcases naivePlural_cases s with ⟨stem,rfl,hp⟩ | ⟨hlast,hp⟩
  · rw [hp, bare_append, bare_append, bare_of_notMem (s := "y") (by decide),
      bare_of_notMem (s := "ies") (by decide), naivePlural_of_y]
  · rw [hp, bare_append, bare_of_notMem (s := "s") (by decide), naivePlural_of_other]
    rwa [getLast?_bare h]

theorem lowercase_append {t : String} (hs : Ascii s) (ht : Ascii t) :
    lowercase (s ++ t) = lowercase s ++ lowercase t := by
  rw [← String.toList_inj, toList_lowercase (hs.append ht), String.toList_append,
    String.toList_append, toList_lowercase hs, toList_lowercase ht, List.map_append]

theorem toLower_eq_y {c : Char} (h : c.toNat < 128) (hlow : c.toLower = 'y') :
    c = 'y' ∨ c = 'Y' :=
  ascii_induction (P := fun c => c.toLower = 'y' → c = 'y' ∨ c = 'Y') (by decide) h hlow

/-- The case of a name does not matter for the ending of its plural unless a capital comes last. -/
theorem lowercase_naivePlural (h : Ascii s) (hlast : s.toList.getLast? ≠ some 'Y') :
    lowercase (naivePlural s) = naivePlural (lowercase s) := by
  rcases naivePlural_cases s with ⟨stem,rfl,hp⟩ | ⟨hother,hp⟩
  · have hstem : Ascii stem := fun c hc => h c (by simp [String.toList_append, hc])
    rw [hp, lowercase_append hstem (by decide), lowercase_append hstem (by decide)]
    exact (naivePlural_of_y (lowercase stem)).symm
  · rw [hp, lowercase_append h (by decide), naivePlural_of_other]
    · rfl
    · rw [toList_lowercase h, List.getLast?_map]
      intro hlow
      obtain ⟨c,hc,hlow⟩ := Option.map_eq_some_iff.mp hlow
      rcases toLower_eq_y (h c (List.mem_of_getLast? hc)) hlow with rfl | rfl
      · exact hother hc
      · exact hlast hc

end Bare

namespace PluralPolicy
variable {p : PluralPolicy} {a b : String}

/-- What two names have in common that have the same table. -/
def SameTable (p : PluralPolicy) (a b : String) : Prop :=
  match p.override? a, p.override? b with
  | some q, some r => snakeCase q = snakeCase r
  | some q, none => snakeCase q = naivePlural (snakeCase b)
  | none, some r => naivePlural (snakeCase a) = snakeCase r
  | none, none => snakeCase a = snakeCase b ∨ SwapsEnding (snakeCase a) (snakeCase b) ∨
      SwapsEnding (snakeCase b) (snakeCase a)

theorem tableName_eq_iff (p : PluralPolicy) (a b : String) :
    p.tableName a = p.tableName b ↔ p.SameTable a b := by
  rw [tableName_eq, tableName_eq, SameTable]
  cases p.override? a with
  | some q => cases p.override? b <;> rfl
  | none =>
    cases p.override? b with
    | some r => rfl
    | none => exact naivePlural_eq_iff

/-- A name or an override in its place, without underscores. A name without an override does not end
in a capital `Y` either, which takes an `s` in the path and `ies` in the table. -/
def PlainPlural (p : PluralPolicy) (name : String) : Prop :=
  match p.override? name with
  | some q => IdentifierChars q ∧ '_' ∉ q.toList
  | none => '_' ∉ name.toList ∧ name.toList.getLast? ≠ some 'Y'

instance (p : PluralPolicy) (name : String) : Decidable (p.PlainPlural name) :=
  match h : p.override? name with
  | some q => decidable_of_iff (IdentifierChars q ∧ '_' ∉ q.toList) (by rw [PlainPlural, h])
  | none => decidable_of_iff ('_' ∉ name.toList ∧ name.toList.getLast? ≠ some 'Y')
      (by rw [PlainPlural, h])

/-- A table without its underscores is the path. -/
theorem bare_tableName (h : isIdentifier a = true) (hplain : p.PlainPlural a) :
    bare (p.tableName a) = p.pathSegment a := by
  have hchars := isIdentifier_chars h
  rw [tableName_eq, pathSegment, pluralize_eq]
  rw [PlainPlural] at hplain
  cases hp : p.override? a with
  | some q =>
    rw [hp] at hplain
    obtain ⟨hq,hnone⟩ := hplain
    have hlow := lowercase_lowercase hq.ascii
    have hpath : lowercase (if hasUppercase a = true then q else lowercase q) = lowercase q := by
      split
      · rfl
      · exact hlow
    exact (bare_snakeCase_of_notMem hq hnone).trans hpath.symm
  | none =>
    rw [hp] at hplain
    obtain ⟨hnone,hlast⟩ := hplain
    calc bare (naivePlural (snakeCase a))
        = naivePlural (bare (snakeCase a)) := bare_naivePlural (getLast?_snakeCase_ne hchars)
      _ = naivePlural (lowercase a) := by rw [bare_snakeCase_of_notMem hchars hnone]
      _ = lowercase (naivePlural a) := (lowercase_naivePlural hchars.ascii hlast).symm

/-- Names with one table have one path. -/
theorem pathSegment_eq_of_tableName_eq (ha : isIdentifier a = true) (hb : isIdentifier b = true)
    (hpa : p.PlainPlural a) (hpb : p.PlainPlural b) (h : p.tableName a = p.tableName b) :
    p.pathSegment a = p.pathSegment b := by
  rw [← bare_tableName ha hpa, ← bare_tableName hb hpb, h]

end PluralPolicy
end RestScaffold
