import RestScaffold.Proofs.Text.Identifier
import RestScaffold.Proofs.Text.Lines

/-! # Snake case of identifiers

Cutting a name into words neither adds nor changes a character, so the snake case of a text of
identifier characters is again such a text.
-/
namespace RestScaffold

theorem mem_of_mem_piecesFrom {current cs piece : List Char} {c : Char}
    (hp : piece ∈ piecesFrom current cs) (hc : c ∈ piece) : c ∈ current ∨ c ∈ cs := by
  induction cs generalizing current with
  | nil =>
    unfold piecesFrom at hp
    split at hp
    · exact absurd hp List.not_mem_nil
    · rw [List.mem_singleton.mp hp] at hc
      exact Or.inl (List.mem_reverse.mp hc)
  | cons d rest ih =>
    unfold piecesFrom at hp
    split at hp
    · rcases ih hp with hc | hc
      · rcases List.mem_cons.mp hc with rfl | hc
        · exact Or.inr List.mem_cons_self
        · exact Or.inl hc
      · exact Or.inr (List.mem_cons_of_mem d hc)
    split at hp
    · rcases ih hp with hc | hc
      · exact absurd hc List.not_mem_nil
      · exact Or.inr (List.mem_cons_of_mem d hc)
    · rcases List.mem_cons.mp hp with rfl | hp
      · exact Or.inl (List.mem_reverse.mp hc)
      · rcases ih hp with hc | hc
        · exact absurd hc List.not_mem_nil
        · exact Or.inr (List.mem_cons_of_mem d hc)

theorem mem_of_mem_wordsFrom {w : WordCase} {current cs word : List Char} {c : Char}
    (hw : word ∈ wordsFrom w current cs) (hc : c ∈ word) : c ∈ current ∨ c ∈ cs := by
  induction w, current, cs using wordsFrom.induct with
  | case1 w current =>
    rw [wordsFrom] at hw
    exact absurd hw List.not_mem_nil
  | case2 w current d =>
    rw [wordsFrom] at hw
    rw [List.mem_singleton.mp hw, List.mem_reverse, List.mem_cons] at hc
    rcases hc with rfl | hc
    · exact Or.inr List.mem_cons_self
    · exact Or.inl hc
  | case3 w current d next rest hcut ih =>
    rw [wordsFrom, if_pos hcut] at hw
    rcases List.mem_cons.mp hw with rfl | hw
    · rcases List.mem_cons.mp (List.mem_reverse.mp hc) with rfl | hc
      · exact Or.inr List.mem_cons_self
      · exact Or.inl hc
    · rcases ih hw with hc | hc
      · exact absurd hc List.not_mem_nil
      · exact Or.inr (List.mem_cons_of_mem d hc)
  | case4 w current d next rest hcut hend ih =>
    rw [wordsFrom, if_neg hcut, if_pos hend] at hw
    rcases List.mem_cons.mp hw with rfl | hw
    · exact Or.inl (List.mem_reverse.mp hc)
    · rcases ih hw with hc | hc
      · rw [List.mem_singleton.mp hc]
        exact Or.inr List.mem_cons_self
      · exact Or.inr (List.mem_cons_of_mem d hc)
  | case5 w current d next rest hcut hend ih =>
    rw [wordsFrom, if_neg hcut, if_neg hend] at hw
    rcases ih hw with hc | hc
    · rcases List.mem_cons.mp hc with rfl | hc
      · exact Or.inr List.mem_cons_self
      · exact Or.inl hc
    · exact Or.inr (List.mem_cons_of_mem d hc)

theorem mem_of_mem_words {cs word : List Char} {c : Char} (hw : word ∈ words cs) (hc : c ∈ word) :
    c ∈ cs := by
  obtain ⟨piece,hp,hw⟩ := List.mem_flatMap.mp hw
  have hpiece : c ∈ piece := (mem_of_mem_wordsFrom hw hc).resolve_left List.not_mem_nil
  exact (mem_of_mem_piecesFrom hp hpiece).resolve_left List.not_mem_nil

theorem lowerWord_ascii {cs : List Char} (h : ∀ c ∈ cs, c.toNat < 128) :
    lowerWord cs = cs.map Char.toLower := by
  induction cs with
  | nil => rfl
  | cons c rest ih =>
    have hc : c.toNat < 128 := h c List.mem_cons_self
    have hsigma : c ≠ 'Σ' := by
      rintro rfl
      revert hc
      decide
    rw [lowerWord, if_neg fun hf => hsigma hf.1, ih fun d hd => h d (List.mem_cons_of_mem c hd)]
    simp [Unicode.lowerChar, hc]

/-- What holds of the underscore and of every character in lower case holds in snake case. -/
theorem forall_mem_snakeCase {P : Char → Prop} {s : String} (h : IdentifierChars s) (hsep : P '_')
    (hlower : ∀ c ∈ s.toList, P c.toLower) : ∀ c ∈ (snakeCase s).toList, P c := by
  have hunderscore : ∀ c ∈ "_".toList, P c := by
    intro c hc
    rwa [List.mem_singleton.mp hc]
  refine forall_mem_intercalate hunderscore ?_
  intro part hpart c hc
  obtain ⟨word,hword,rfl⟩ := List.mem_map.mp hpart
  have hascii : ∀ d ∈ word, d.toNat < 128 :=
    fun d hd => continuesIdentifier_ascii (h d (mem_of_mem_words hword hd))
  rw [String.toList_ofList, lowerWord_ascii hascii] at hc
  obtain ⟨d,hd,rfl⟩ := List.mem_map.mp hc
  exact hlower d (mem_of_mem_words hword hd)

/-- Snake case keeps to the characters of identifiers. -/
theorem IdentifierChars.snakeCase {s : String} (h : IdentifierChars s) :
    IdentifierChars (snakeCase s) :=
  forall_mem_snakeCase h (by decide) fun c hc => continuesIdentifier_toLower (h c hc)

end RestScaffold
