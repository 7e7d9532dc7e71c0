import Mathlib
import RestScaffold.Text.Split

/-! # Splitting at a separator

Two texts with a separator between them split into the stretches of the first and those of the
second.
-/
namespace RestScaffold
variable {sep : Char}

theorem splitAtChar_ne_nil (sep : Char) (cs : List Char) : splitAtChar sep cs ≠ [] := by
  cases cs with
  | nil => simp [splitAtChar]
  | cons c rest =>
    rw [splitAtChar]
    split
    · simp
    · split <;> simp

theorem splitAtChar_eq_splitOn (sep : Char) (cs : List Char) :
    splitAtChar sep cs = cs.splitOn sep := by
  induction cs with
  | nil => exact List.splitOnP_nil.symm
  | cons c rest ih =>
    rw [List.splitOn, List.splitOnP_cons_eq_if_modifyHead, ← List.splitOn, ← ih, splitAtChar]
    obtain ⟨first,others,hr⟩ := List.exists_cons_of_ne_nil (splitAtChar_ne_nil sep rest)
    by_cases hc : c = sep
    · simp [hc]
    · simp [hc, hr]

theorem splitAtChar_append (sep : Char) (a b : List Char) :
    splitAtChar sep (a ++ sep :: b) = splitAtChar sep a ++ splitAtChar sep b := by
  simp only [splitAtChar_eq_splitOn]
  exact List.splitOn_append_cons_self a b

theorem splitAtChar_of_notMem {cs : List Char} (h : sep ∉ cs) : splitAtChar sep cs = [cs] := by
  induction cs with
  | nil => rfl
  | cons c rest ih =>
    have hc : c ≠ sep := fun he => h (he ▸ List.mem_cons_self)
    simp [splitAtChar, hc, ih fun hm => h (List.mem_cons_of_mem c hm)]

theorem splitOnChar_ne_nil (sep : Char) (s : String) : splitOnChar sep s ≠ [] := by
  intro h
  exact splitAtChar_ne_nil sep s.toList (List.map_eq_nil_iff.mp h)

theorem splitOnChar_append (sep : Char) (s t : String) :
    splitOnChar sep (s ++ String.singleton sep ++ t) = splitOnChar sep s ++ splitOnChar sep t := by
  have hl : (s ++ String.singleton sep ++ t).toList = s.toList ++ sep :: t.toList := by
    simp [String.toList_append]
  rw [splitOnChar, hl, splitAtChar_append, List.map_append]
  rfl

theorem splitOnChar_of_notMem {s : String} (h : sep ∉ s.toList) : splitOnChar sep s = [s] := by
  rw [splitOnChar, splitAtChar_of_notMem h, List.map_singleton, String.ofList_toList]

theorem ofList_intercalate (sep : String) (parts : List (List Char)) :
    String.ofList (sep.toList.intercalate parts) =
      String.intercalate sep (parts.map String.ofList) := by
  rw [← String.toList_inj, String.toList_ofList, String.toList_intercalate, List.map_map]
  exact congrArg _ ((List.map_congr_left fun _ _ => String.toList_ofList).trans
    (List.map_id' parts)).symm

/-- Stretches without separators are those of the text that is put together from them. -/
theorem splitOnChar_intercalate {parts : List String} (hne : parts ≠ [])
    (h : ∀ part ∈ parts, sep ∉ part.toList) :
    splitOnChar sep (String.intercalate (String.singleton sep) parts) = parts := by
  have hlists : ∀ l ∈ parts.map String.toList, sep ∉ l := by
    intro l hl
    obtain ⟨part,hpart,rfl⟩ := List.mem_map.mp hl
    exact h part hpart
  rw [splitOnChar, String.toList_intercalate, String.toList_singleton, splitAtChar_eq_splitOn,
    List.splitOn_intercalate sep hlists (by simpa using hne), List.map_map]
  exact (List.map_congr_left fun _ _ => String.ofList_toList).trans (List.map_id' parts)

theorem intercalate_splitOnChar (sep : Char) (s : String) :
    String.intercalate (String.singleton sep) (splitOnChar sep s) = s := by
  rw [splitOnChar, ← ofList_intercalate, String.toList_singleton, splitAtChar_eq_splitOn,
    List.intercalate_splitOn, String.ofList_toList]

theorem splitAtChar_no_sep {cs part : List Char} (h : part ∈ splitAtChar sep cs) : sep ∉ part := by
  induction cs generalizing part with
  | nil =>
    rw [List.mem_singleton.mp h]
    exact List.not_mem_nil
  | cons c rest ih =>
    rw [splitAtChar] at h
    split at h
    · rcases List.mem_cons.mp h with rfl | h
      · exact List.not_mem_nil
      · exact ih h
    · rename_i hc
      split at h
      · rw [List.mem_singleton.mp h]
        simpa using Ne.symm hc
      · rename_i first others hr
        rw [hr] at ih
        rcases List.mem_cons.mp h with rfl | h
        · exact fun hm => (List.mem_cons.mp hm).elim (Ne.symm hc) (ih List.mem_cons_self)
        · exact ih (List.mem_cons_of_mem first h)

theorem splitOnChar_no_sep {s part : String} (h : part ∈ splitOnChar sep s) :
    sep ∉ part.toList := by
  obtain ⟨cs,hcs,rfl⟩ := List.mem_map.mp h
  rw [String.toList_ofList]
  exact splitAtChar_no_sep hcs

/-- The last stretch is empty only where nothing follows the last separator. -/
theorem getLast?_splitAtChar {cs : List Char} (h : (splitAtChar sep cs).getLast? = some []) :
    cs = [] ∨ cs.getLast? = some sep := by
  induction cs with
  | nil => exact Or.inl rfl
  | cons c rest ih =>
    obtain ⟨first,others,hr⟩ := List.exists_cons_of_ne_nil (splitAtChar_ne_nil sep rest)
    refine Or.inr ?_
    rw [splitAtChar, hr] at h
    rw [hr] at ih
    split at h
    · rename_i hc
      rw [List.getLast?_cons_cons] at h
      rcases ih h with rfl | hlast
      · rw [hc, List.getLast?_singleton]
      · rw [List.getLast?_cons, hlast, Option.getD_some]
    · cases others with
      | nil => cases h
      | cons second others =>
        simp only [List.getLast?_cons_cons] at h ih
        rcases ih h with rfl | hlast
        · cases hr
        · rw [List.getLast?_cons, hlast, Option.getD_some]

theorem getLast?_splitOnChar {s : String} (h : (splitOnChar sep s).getLast? = some "") :
    s = "" ∨ s.toList.getLast? = some sep := by
  rw [splitOnChar, List.getLast?_map, Option.map_eq_some_iff] at h
  obtain ⟨cs,hcs,he⟩ := h
  rw [String.ofList_eq_empty_iff.mp he] at hcs
  rw [← String.toList_eq_nil_iff]
  exact getLast?_splitAtChar hcs

end RestScaffold
