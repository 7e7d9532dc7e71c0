import Mathlib
import RestScaffold.Code.Imports

/-! # Paths of symbols

A path is cut at the last of its pairs of colons into a module and a symbol. A path without such a
pair is a module.
-/
namespace RestScaffold

/-- A path ends in a symbol after the last of its pairs of colons. -/
structure CutsLast (path module symbol : String) : Prop where
  cut : path = module ++ "::" ++ symbol
  last : ∀ m s, path = m ++ "::" ++ s → symbol.length ≤ s.length

namespace Imports
variable {path module symbol : String}

theorem cutAtColons_eq_some {passed cs : List Char}
    (h : cutAtColons passed cs = some (module,symbol)) : ∃ front back : List Char,
      cs = front ++ ':' :: ':' :: back ∧ module = String.ofList back.reverse ∧
        symbol = String.ofList (front.reverse ++ passed) := by
  induction passed, cs using cutAtColons.induct with
  | case1 passed => simp [cutAtColons] at h
  | case2 passed rest =>
    rw [cutAtColons] at h
    cases h
    exact ⟨[],rest,rfl,rfl,rfl⟩
  | case3 passed c rest hne ih =>
    rw [cutAtColons.eq_3 passed c rest hne] at h
    obtain ⟨front,back,rfl,hm,hs⟩ := ih h
    exact ⟨c :: front,back,rfl,hm,by simpa using hs⟩

/-- A text with a pair of colons in it is cut there or earlier. -/
theorem exists_cutAtColons (passed front back : List Char) : ∃ module symbol,
    cutAtColons passed (front ++ ':' :: ':' :: back) = some (module,symbol) ∧
      symbol.length ≤ front.length + passed.length := by
  induction front generalizing passed with
  | nil => exact ⟨_,_,rfl,by simp⟩
  | cons c rest ih =>
    by_cases hcut : ∃ tail, c = ':' ∧ rest ++ ':' :: ':' :: back = ':' :: tail
    · obtain ⟨tail,rfl,htail⟩ := hcut
      rw [List.cons_append, htail]
      exact ⟨_,_,rfl,by simp⟩
    · have hne : ∀ tail, c = ':' → rest ++ ':' :: ':' :: back = ':' :: tail → False :=
        fun tail hc htail => hcut ⟨tail,hc,htail⟩
      obtain ⟨module,symbol,he,hlen⟩ := ih (c :: passed)
      refine ⟨module,symbol,?_,?_⟩
      · rw [List.cons_append, cutAtColons.eq_3 _ _ _ hne, he]
      · simp only [List.length_cons] at hlen ⊢
        omega

theorem eq_colons_iff : path = module ++ "::" ++ symbol ↔
    path.toList.reverse = symbol.toList.reverse ++ ':' :: ':' :: module.toList.reverse := by
  rw [← String.toList_inj, ← List.reverse_inj]
  simp [String.toList_append]

theorem eq_of_cutAtColons (h : cutAtColons [] path.toList.reverse = some (module,symbol)) :
    path = module ++ "::" ++ symbol := by
  obtain ⟨front,back,hcs,rfl,rfl⟩ := cutAtColons_eq_some h
  rw [eq_colons_iff, hcs]
  simp

/-- The cut of a path is the one that leaves the shortest symbol. -/
theorem cutAtColons_eq_some_iff : cutAtColons [] path.toList.reverse = some (module,symbol) ↔
    CutsLast path module symbol := by
  have hearly : ∀ m s, path = m ++ "::" ++ s → ∃ module symbol,
      cutAtColons [] path.toList.reverse = some (module,symbol) ∧
        symbol.length ≤ s.length := by
    intro m s hs
    rw [eq_colons_iff.mp hs, ← String.length_toList, ← List.length_reverse]
    exact exists_cutAtColons [] s.toList.reverse m.toList.reverse
  constructor
  · intro h
    refine ⟨eq_of_cutAtColons h,?_⟩
    intro m s hs
    obtain ⟨module',symbol',hcut,hlen⟩ := hearly m s hs
    rw [h] at hcut
    cases hcut
    exact hlen
  · rintro ⟨hcut,hlast⟩
    obtain ⟨module',symbol',h,hlen⟩ := hearly module symbol hcut
    have hpath := eq_of_cutAtColons h
    have hlen' := hlast module' symbol' hpath
    -- both cuts leave a symbol of one length, so they are one cut
    have hlists : (module' ++ "::").toList ++ symbol'.toList =
        (module ++ "::").toList ++ symbol.toList := by
      rw [← String.toList_append, ← String.toList_append, ← hpath, ← hcut]
    have hsame : symbol'.toList.length = symbol.toList.length := by
      simp only [String.length_toList]
      omega
    obtain ⟨hm,hs⟩ := List.append_inj' hlists hsame
    rw [String.toList_inj] at hm hs
    rw [h, hs, (String.append_left_inj "::").mp hm]

theorem cutAtColons_eq_none_iff : cutAtColons [] path.toList.reverse = none ↔
    ∀ m s, path ≠ m ++ "::" ++ s := by
  constructor
  · intro h m s hs
    obtain ⟨_,_,hcut,_⟩ := exists_cutAtColons [] s.toList.reverse m.toList.reverse
    rw [← eq_colons_iff.mp hs, h] at hcut
    cases hcut
  · intro h
    cases hcut : cutAtColons [] path.toList.reverse with
    | none => rfl
    | some cut => exact absurd (eq_of_cutAtColons hcut) (h cut.1 cut.2)

theorem cutAtColons_append {last : List Char} (h : ':' ∉ last) (passed rest : List Char) :
    cutAtColons passed (last ++ ':' :: ':' :: rest) =
      some (String.ofList rest.reverse, String.ofList (last.reverse ++ passed)) := by
  induction last generalizing passed with
  | nil => rfl
  | cons c cs ih =>
    obtain ⟨hc,hcs⟩ := List.ne_and_not_mem_of_not_mem_cons h
    have hcolon : ∀ tail, c = ':' → cs ++ ':' :: ':' :: rest = ':' :: tail → False :=
      fun _ he _ => hc he.symm
    rw [List.cons_append, cutAtColons.eq_3 _ _ _ hcolon, ih hcs]
    simp

end Imports
end RestScaffold
