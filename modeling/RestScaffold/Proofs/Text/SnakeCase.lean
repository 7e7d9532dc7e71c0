import RestScaffold.Proofs.Text.Words

/-! # What snake case starts with

The words of a name hold its letters and digits in order, and none of them is empty. So the snake
case of an identifier starts with its first letter or digit in lower case, whatever underscores
stand before that, and it is empty if there is nothing but underscores.
-/
namespace RestScaffold
open Unicode

theorem flatten_piecesFrom (current cs : List Char) :
    (piecesFrom current cs).flatten = current.reverse ++ cs.filter isAlphanumeric := by
  induction cs generalizing current with
  | nil =>
    unfold piecesFrom
    split
    · rename_i hempty
      simp [List.isEmpty_iff.mp hempty]
    · simp
  | cons c rest ih =>
    unfold piecesFrom
    by_cases hc : isAlphanumeric c = true
    · simp [hc, ih]
    · cases current with
      | nil => simp [hc, ih]
      | cons d current => simp [hc, ih]

theorem ne_nil_of_mem_piecesFrom {current cs piece : List Char}
    (h : piece ∈ piecesFrom current cs) : piece ≠ [] := by
  induction cs generalizing current with
  | nil =>
    unfold piecesFrom at h
    split at h
    · exact absurd h List.not_mem_nil
    · rename_i hempty
      rw [List.mem_singleton.mp h]
      simpa using hempty
  | cons c rest ih =>
    unfold piecesFrom at h
    split at h
    · exact ih h
    split at h
    · exact ih h
    · rename_i hempty
      rcases List.mem_cons.mp h with rfl | h
      · simpa using hempty
      · exact ih h

theorem flatten_wordsFrom (w : WordCase) (current : List Char) {cs : List Char} (h : cs ≠ []) :
    (wordsFrom w current cs).flatten = current.reverse ++ cs := by
  induction w, current, cs using wordsFrom.induct with
  | case1 w current => exact absurd rfl h
  | case2 w current c => simp [wordsFrom]
  | case3 w current c next rest hcut ih =>
    rw [wordsFrom, if_pos hcut, List.flatten_cons, ih (List.cons_ne_nil next rest)]
    simp
  | case4 w current c next rest hcut hend ih =>
    rw [wordsFrom, if_neg hcut, if_pos hend, List.flatten_cons, ih (List.cons_ne_nil next rest)]
    simp
  | case5 w current c next rest hcut hend ih =>
    rw [wordsFrom, if_neg hcut, if_neg hend, ih (List.cons_ne_nil next rest)]
    simp

/-- A word that is cut off before a capital was open already. -/
theorem ne_nil_of_mem_wordsFrom {w : WordCase} {current cs word : List Char}
    (hopen : w = .upper → current ≠ []) (h : word ∈ wordsFrom w current cs) : word ≠ [] := by
  induction w, current, cs using wordsFrom.induct with
  | case1 w current =>
    rw [wordsFrom] at h
    exact absurd h List.not_mem_nil
  | case2 w current c =>
    rw [wordsFrom] at h
    rw [List.mem_singleton.mp h]
    simp
  | case3 w current c next rest hcut ih =>
    rw [wordsFrom, if_pos hcut] at h
    rcases List.mem_cons.mp h with rfl | h
    · simp
    · exact ih (fun he => WordCase.noConfusion he) h
  | case4 w current c next rest hcut hend ih =>
    rw [wordsFrom, if_neg hcut, if_pos hend] at h
    rcases List.mem_cons.mp h with rfl | h
    · simpa using hopen hend.1
    · exact ih (fun _ => List.cons_ne_nil c []) h
  | case5 w current c next rest hcut hend ih =>
    rw [wordsFrom, if_neg hcut, if_neg hend] at h
    exact ih (fun _ => List.cons_ne_nil c current) h

theorem ne_nil_of_mem_words {cs word : List Char} (h : word ∈ words cs) : word ≠ [] := by
  obtain ⟨piece,_,hword⟩ := List.mem_flatMap.mp h
  exact ne_nil_of_mem_wordsFrom (fun he => WordCase.noConfusion he) hword

/-- No letter or digit is lost between the words. -/
theorem flatten_words (cs : List Char) : (words cs).flatten = cs.filter isAlphanumeric := by
  have hpieces : ∀ piece ∈ piecesFrom [] cs, (wordsFrom .none [] piece).flatten = piece := by
    intro piece hpiece
    simpa using flatten_wordsFrom .none [] (ne_nil_of_mem_piecesFrom hpiece)
  have hflat : (words cs).flatten = (piecesFrom [] cs).flatten := by
    rw [words, List.flatMap_def, List.flatten_flatten, List.map_map]
    exact congrArg List.flatten ((List.map_congr_left hpieces).trans (List.map_id' _))
  rw [hflat, flatten_piecesFrom, List.reverse_nil, List.nil_append]

/-- The first letter or digit of a text. -/
def firstSign (s : String) : Option Char := s.toList.find? isAlphanumeric

theorem head?_intercalate {sep : String} {part : String} {rest : List String} (h : part ≠ "") :
    (String.intercalate sep (part :: rest)).toList.head? = part.toList.head? := by
  obtain ⟨c,cs,hc⟩ := List.exists_cons_of_ne_nil (mt String.toList_eq_nil_iff.mp h)
  cases rest with
  | nil => simp
  | cons next rest =>
    rw [String.intercalate_cons_cons, String.toList_append, String.toList_append, hc]
    rfl

theorem head?_snakeCase {s : String} (h : IdentifierChars s) :
    (snakeCase s).toList.head? = (firstSign s).map Char.toLower := by
  have hflat := flatten_words s.toList
  rw [firstSign, ← List.head?_filter, ← hflat, snakeCase]
  cases hw : words s.toList with
  | nil => simp
  | cons word rest =>
    have hword : word ∈ words s.toList := hw ▸ List.mem_cons_self
    obtain ⟨c,cs,rfl⟩ := List.exists_cons_of_ne_nil (ne_nil_of_mem_words hword)
    have hascii : ∀ d ∈ c :: cs, d.toNat < 128 :=
      fun d hd => continuesIdentifier_ascii (h d (mem_of_mem_words hword hd))
    have hlower : String.ofList (lowerWord (c :: cs)) ≠ "" := by
      rw [lowerWord_ascii hascii]
      simp
    rw [List.map_cons, head?_intercalate hlower, lowerWord_ascii hascii]
    simp

theorem isIdentifier_iff_head {s : String} (h : IdentifierChars s) : isIdentifier s = true ↔
    s ≠ "_" ∧ ∃ c, s.toList.head? = some c ∧ startsIdentifier c = true := by
  rw [isIdentifier_iff]
  constructor
  · rintro ⟨c,rest,hs,hc,_,hne⟩
    exact ⟨hne,c,by rw [hs]; rfl,hc⟩
  · rintro ⟨hne,c,hhead,hc⟩
    obtain ⟨rest,hs⟩ := List.head?_eq_some_iff.mp hhead
    refine ⟨c,rest,hs,hc,?_,hne⟩
    intro d hd
    exact h d (hs ▸ List.mem_cons_of_mem c hd)

/-- A letter or digit of an identifier starts one in lower case exactly if it is a letter. -/
theorem startsIdentifier_toLower_iff {c : Char} (hc : continuesIdentifier c = true)
    (hsign : isAlphanumeric c = true) : startsIdentifier c.toLower = true ↔ c.isDigit = false :=
  ascii_induction (P := fun c => isAlphanumeric c = true →
      (startsIdentifier c.toLower = true ↔ c.isDigit = false))
    (by decide) (continuesIdentifier_ascii hc) hsign

/-- The snake case of a text is an identifier exactly if the text has letters or digits and a letter
is the first of these. -/
theorem isIdentifier_snakeCase_iff {s : String} (h : IdentifierChars s) :
    isIdentifier (snakeCase s) = true ↔ ∃ c, firstSign s = some c ∧ c.isDigit = false := by
  have hhead := head?_snakeCase h
  have hsign : ∀ c, firstSign s = some c →
      (startsIdentifier c.toLower = true ↔ c.isDigit = false) := by
    intro c hc
    have hin : c ∈ s.toList := List.mem_of_find?_eq_some hc
    exact startsIdentifier_toLower_iff (h c hin) (List.find?_some hc)
  rw [isIdentifier_iff_head h.snakeCase, hhead]
  constructor
  · rintro ⟨_,d,hd,hstarts⟩
    obtain ⟨c,hc,rfl⟩ := Option.map_eq_some_iff.mp hd
    exact ⟨c,hc,(hsign c hc).mp hstarts⟩
  · rintro ⟨c,hc,hdigit⟩
    refine ⟨?_,c.toLower,by rw [hc]; rfl,(hsign c hc).mpr hdigit⟩
    intro hlone
    rw [hlone, hc] at hhead
    have hin : c ∈ s.toList := List.mem_of_find?_eq_some hc
    have hlow : '_' = c.toLower := Option.some.inj hhead
    refine toLower_ne_underscore (h c hin) ?_ hlow.symm
    rintro rfl
    exact absurd (List.find?_some hc) (by decide)

end RestScaffold
