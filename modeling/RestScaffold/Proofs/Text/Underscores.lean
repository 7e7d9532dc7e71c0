import RestScaffold.Proofs.Text.Lowered

/-! # Names without their underscores

Snake case only adds and takes away underscores, apart from the case. So without them a name in
snake case is the name in lower case, and names that differ in letters or digits differ in snake
case as well.
-/
namespace RestScaffold
open Unicode

/-- A text without its underscores. -/
def bare (s : String) : String := String.ofList (s.toList.filter fun c => c != '_')

theorem toList_bare (s : String) : (bare s).toList = s.toList.filter fun c => c != '_' :=
  String.toList_ofList

theorem bare_of_notMem {s : String} (h : '_' ∉ s.toList) : bare s = s := by
  rw [← String.toList_inj, toList_bare, List.filter_eq_self]
  intro c hc
  rw [bne_iff_ne]
  rintro rfl
  exact h hc

theorem bare_append (s t : String) : bare (s ++ t) = bare s ++ bare t := by
  rw [← String.toList_inj]
  simp [toList_bare, String.toList_append]

theorem filter_intercalate {p : Char → Bool} {sep : String} (hsep : ∀ c ∈ sep.toList, p c = false)
    (parts : List String) : (String.intercalate sep parts).toList.filter p =
      (parts.map String.toList).flatten.filter p := by
  have hnone : sep.toList.filter p = [] := by
    simpa [List.filter_eq_nil_iff] using hsep
  induction parts with
  | nil => rfl
  | cons part rest ih =>
    cases rest with
    | nil => simp
    | cons next rest =>
      rw [String.intercalate_cons_cons, String.toList_append, String.toList_append,
        List.filter_append, List.filter_append, hnone, ih, List.append_nil, ← List.filter_append]
      rfl

theorem getLast?_intercalate (sep : String) {parts : List String} (h : ∀ part ∈ parts, part ≠ "") :
    (String.intercalate sep parts).toList.getLast? =
      (parts.map String.toList).flatten.getLast? := by
  induction parts with
  | nil => rfl
  | cons part rest ih =>
    obtain ⟨_,hrest⟩ := List.forall_mem_cons.mp h
    cases rest with
    | nil => simp
    | cons next rest =>
      -- what comes last is in the rest, which is not empty
      have hne : ((next :: rest).map String.toList).flatten ≠ [] := by
        simpa using fun he => absurd he (hrest next List.mem_cons_self)
      obtain ⟨c,hc⟩ := Option.isSome_iff_exists.mp (List.getLast?_isSome.mpr hne)
      have hflat : ((part :: next :: rest).map String.toList).flatten =
          part.toList ++ ((next :: rest).map String.toList).flatten := rfl
      rw [hflat, String.intercalate_cons_cons, String.toList_append, List.getLast?_append,
        List.getLast?_append, ih hrest, hc]
      rfl

section SnakeCase
variable {s : String}

theorem toList_lowerWord (h : IdentifierChars s) {word : List Char} (hw : word ∈ words s.toList) :
    (String.ofList (lowerWord word)).toList = word.map Char.toLower := by
  have hascii : ∀ d ∈ word, d.toNat < 128 :=
    fun d hd => continuesIdentifier_ascii (h d (mem_of_mem_words hw hd))
  rw [String.toList_ofList, lowerWord_ascii hascii]

/-- The words in lower case are the letters and digits in lower case. -/
theorem flatten_lowerWords (h : IdentifierChars s) :
    (((words s.toList).map fun w => String.ofList (lowerWord w)).map String.toList).flatten =
      (s.toList.filter isAlphanumeric).map Char.toLower := by
  rw [List.map_map, ← flatten_words, List.map_flatten]
  exact congrArg List.flatten (List.map_congr_left fun word hw => toList_lowerWord h hw)

theorem lowerWord_ne_empty (h : IdentifierChars s) {word : List Char} (hw : word ∈ words s.toList) :
    String.ofList (lowerWord word) ≠ "" := by
  rw [Ne, ← String.toList_inj, toList_lowerWord h hw]
  simpa using ne_nil_of_mem_words hw

theorem getLast?_snakeCase (h : IdentifierChars s) : (snakeCase s).toList.getLast? =
    (s.toList.filter isAlphanumeric).getLast?.map Char.toLower := by
  have hparts : ∀ part ∈ (words s.toList).map fun w => String.ofList (lowerWord w), part ≠ "" := by
    intro part hpart
    obtain ⟨word,hword,rfl⟩ := List.mem_map.mp hpart
    exact lowerWord_ne_empty h hword
  rw [snakeCase, getLast?_intercalate "_" hparts, flatten_lowerWords h, List.getLast?_map]

/-- A letter or digit of an identifier is what is no underscore in lower case. -/
theorem toLower_bne_underscore {c : Char} (h : continuesIdentifier c = true) :
    (c.toLower != '_') = isAlphanumeric c :=
  ascii_induction (P := fun c => continuesIdentifier c = true →
      (c.toLower != '_') = isAlphanumeric c)
    (by decide +kernel) (continuesIdentifier_ascii h) h

/-- Without underscores snake case is lower case. -/
theorem bare_snakeCase (h : IdentifierChars s) : bare (snakeCase s) = bare (lowercase s) := by
  have hsigns : s.toList.filter isAlphanumeric =
      s.toList.filter ((fun c => c != '_') ∘ Char.toLower) :=
    List.filter_congr fun c hc => (toLower_bne_underscore (h c hc)).symm
  have hsep : ∀ c ∈ "_".toList, (c != '_') = false := by simp
  rw [← String.toList_inj, toList_bare, toList_bare, toList_lowercase h.ascii, snakeCase,
    filter_intercalate hsep, flatten_lowerWords h, List.filter_map, List.filter_map, hsigns,
    List.filter_filter]
  simp only [Bool.and_self]

theorem bare_snakeCase_of_notMem (h : IdentifierChars s) (hnone : '_' ∉ s.toList) :
    bare (snakeCase s) = lowercase s := by
  rw [bare_snakeCase h, bare_of_notMem]
  rw [toList_lowercase h.ascii]
  intro hin
  obtain ⟨c,hc,hlow⟩ := List.mem_map.mp hin
  refine toLower_ne_underscore (h c hc) ?_ hlow
  rintro rfl
  exact hnone hc

/-- Snake case never ends in an underscore. -/
theorem getLast?_snakeCase_ne (h : IdentifierChars s) :
    (snakeCase s).toList.getLast? ≠ some '_' := by
  rw [getLast?_snakeCase h]
  intro hlast
  obtain ⟨c,hc,hlow⟩ := Option.map_eq_some_iff.mp hlast
  obtain ⟨hin,hsign⟩ := List.mem_filter.mp (List.mem_of_getLast? hc)
  rw [← toLower_bne_underscore (h c hin), hlow] at hsign
  cases hsign

end SnakeCase
end RestScaffold
