import RestScaffold.Proofs.Code.Lines
import RestScaffold.Text.Lines

/-! # Reading lines that were written

Texts without line ends that are written as lines are read back as they were.
-/
namespace RestScaffold

/-- A text that stays on one line. -/
def OneLine (s : String) : Prop := ∀ c ∈ s.toList, c ≠ '\n' ∧ c ≠ '\r'

instance (s : String) : Decidable (OneLine s) := List.decidableBAll _ s.toList

theorem oneLine_append {s t : String} : OneLine (s ++ t) ↔ OneLine s ∧ OneLine t := by
  simp only [OneLine, String.toList_append]
  exact List.forall_mem_append

theorem forall_mem_intercalate {P : Char → Prop} {sep : String} {parts : List String}
    (hs : ∀ c ∈ sep.toList, P c) (h : ∀ part ∈ parts, ∀ c ∈ part.toList, P c) :
    ∀ c ∈ (String.intercalate sep parts).toList, P c := by
  induction parts with
  | nil =>
    rw [String.intercalate_nil]
    exact fun _ hc => absurd hc List.not_mem_nil
  | cons part rest ih =>
    have hpart := h part List.mem_cons_self
    have hrest := ih fun q hq => h q (List.mem_cons_of_mem part hq)
    cases rest with
    | nil => simpa using hpart
    | cons next rest =>
      rw [String.intercalate_cons_cons, String.toList_append, String.toList_append,
        List.forall_mem_append, List.forall_mem_append]
      exact ⟨⟨hpart,hs⟩,hrest⟩

theorem OneLine.intercalate {sep : String} {parts : List String} (hs : OneLine sep)
    (h : ∀ part ∈ parts, OneLine part) : OneLine (String.intercalate sep parts) :=
  forall_mem_intercalate hs h

theorem OneLine.join_replicate {s : String} (h : OneLine s) (n : Nat) :
    OneLine (String.join (List.replicate n s)) := by
  intro c hc
  rw [String.toList_join] at hc
  obtain ⟨t,ht,hc⟩ := List.mem_flatMap.mp hc
  rw [List.eq_of_mem_replicate ht] at hc
  exact h c hc

/-- The open line as it is ended, without a carriage return right before the end. -/
def endedLine : List Char → List Char
  | '\r' :: current => current.reverse
  | current => current.reverse

theorem linesFrom_newline (current rest : List Char) :
    linesFrom current ('\n' :: rest) = endedLine current :: linesFrom [] rest := by
  by_cases h : ∃ before, current = '\r' :: before
  · obtain ⟨before,rfl⟩ := h
    rw [linesFrom, endedLine]
  · have hne : ∀ before, current = '\r' :: before → False := fun before he => h ⟨before,he⟩
    rw [linesFrom.eq_3 _ _ hne, endedLine.eq_2 _ hne]

theorem linesFrom_char {c : Char} (hc : c ≠ '\n') (current rest : List Char) :
    linesFrom current (c :: rest) = linesFrom (c :: current) rest :=
  linesFrom.eq_4 current c rest hc fun _ _ => hc

theorem linesFrom_run {line : List Char} (h : '\n' ∉ line) (current rest : List Char) :
    linesFrom current (line ++ rest) = linesFrom (line.reverse ++ current) rest := by
  induction line generalizing current with
  | nil => rfl
  | cons c line ih =>
    have hc : c ≠ '\n' := fun he => h (he ▸ List.mem_cons_self)
    rw [List.cons_append, linesFrom_char hc, ih fun hm => h (List.mem_cons_of_mem c hm)]
    simp

theorem OneLine.linesFrom_append {s : String} (h : OneLine s) (rest : List Char) :
    linesFrom [] (s.toList ++ '\n' :: rest) = s.toList :: linesFrom [] rest := by
  have hn : '\n' ∉ s.toList := fun hm => (h '\n' hm).1 rfl
  have hr : ∀ before, s.toList.reverse = '\r' :: before → False := fun before he =>
    (h '\r' (List.mem_reverse.mp (he ▸ List.mem_cons_self))).2 rfl
  rw [linesFrom_run hn, linesFrom_newline, List.append_nil, endedLine.eq_2 _ hr, List.reverse_reverse]

/-- Texts that stay on one line are the lines of what is written of them. -/
theorem linesOf_unlines {lines : List String} (h : ∀ line ∈ lines, OneLine line) :
    linesOf (unlines lines) = lines := by
  induction lines with
  | nil => rfl
  | cons line rest ih =>
    have hline := h line List.mem_cons_self
    have hrest := ih fun l hl => h l (List.mem_cons_of_mem line hl)
    have hlist : (unlines (line :: rest)).toList =
        line.toList ++ '\n' :: (unlines rest).toList := by
      simp [String.toList_append]
    rw [linesOf, hlist, hline.linesFrom_append, List.map_cons, String.ofList_toList]
    exact congrArg _ hrest

end RestScaffold
