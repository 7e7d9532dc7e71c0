import RestScaffold.Proofs.Code.Rows

/-! # Raw code that is given line by line

Lines that are joined into one text are the lines of this text again unless the last one is empty: a
line feed ends the line before it, and no line begins at the end of a text. A carriage return is
lost with the line feed behind it.
-/
namespace RestScaffold

/-- A text without the carriage return at its end, if there is one. -/
def endedText (s : String) : String := String.ofList (endedLine s.toList.reverse)

theorem endedText_eq_self_iff {s : String} : endedText s = s ↔ s.toList.getLast? ≠ some '\r' := by
  rw [endedText, ← String.toList_inj, String.toList_ofList, ← List.head?_reverse]
  cases h : s.toList.reverse with
  | nil => simpa [endedLine] using (List.reverse_eq_nil_iff.mp h).symm
  | cons c before =>
    have hlist : s.toList = before.reverse ++ [c] := by simpa using congrArg List.reverse h
    by_cases hc : c = '\r'
    · simp [hc, endedLine, hlist]
    · have hne : ∀ cs, c :: before = '\r' :: cs → False := fun _ he => hc (List.cons.inj he).1
      simp [endedLine.eq_2 _ hne, hlist, hc]

theorem map_endedText_eq_self_iff {lines : List String} :
    lines.map endedText = lines ↔ ∀ line ∈ lines, line.toList.getLast? ≠ some '\r' := by
  have hmap := @List.map_inj_left _ _ lines endedText id
  rw [List.map_id] at hmap
  exact hmap.trans (forall₂_congr fun line _ => endedText_eq_self_iff)

/-- A text without line feeds is one line if it is not empty. -/
theorem linesOf_of_notMem {s : String} (h : '\n' ∉ s.toList) :
    linesOf s = if s = "" then [] else [s] := by
  have hrun := linesFrom_run h [] []
  rw [List.append_nil, List.append_nil] at hrun
  rw [linesOf, hrun, linesFrom, List.reverse_reverse]
  by_cases hs : s = ""
  · simp [hs]
  · simp [hs, String.toList_eq_nil_iff]

/-- Joined with line feeds, all texts but the last one stand before a line end. -/
theorem intercalate_newline_concat (front : List String) (last : String) :
    String.intercalate "\n" (front ++ [last]) = unlines front ++ last := by
  induction front with
  | nil => simp
  | cons line rest ih =>
    have hne : rest ++ [last] ≠ [] := List.append_ne_nil_of_right_ne_nil rest (by simp)
    rw [List.cons_append, String.intercalate_cons_of_ne_nil hne, ih, unlines_cons]
    simp only [String.append_assoc]

theorem linesOf_intercalate_newline {front : List String} {last : String}
    (h : ∀ line ∈ front ++ [last], '\n' ∉ line.toList) :
    linesOf (String.intercalate "\n" (front ++ [last])) =
      front.map endedText ++ if last = "" then [] else [last] := by
  obtain ⟨hfront,hlast⟩ := List.forall_mem_append.mp h
  have hrows : front.flatMap rows = front.map endedText := by
    rw [List.map_eq_flatMap]
    exact List.flatMap_congr fun line hline => rows_of_notMem (hfront line hline)
  rw [intercalate_newline_concat, linesOf_unlines_append, hrows,
    linesOf_of_notMem (hlast last List.mem_cons_self)]

/-- Joined lines are restored exactly if none has a line feed in it, none but the last ends in a
carriage return, and the last is not empty. -/
theorem linesOf_intercalate_newline_iff {lines : List String} :
    linesOf (String.intercalate "\n" lines) = lines ↔ (∀ line ∈ lines, '\n' ∉ line.toList) ∧
      (∀ line ∈ lines.dropLast, line.toList.getLast? ≠ some '\r') ∧ lines.getLast? ≠ some "" := by
  rcases List.eq_nil_or_concat lines with rfl | ⟨front,last,rfl⟩
  · simp [linesOf, linesFrom]
  rw [List.concat_eq_append, List.dropLast_concat, List.getLast?_concat, ne_eq, Option.some_inj]
  constructor
  · intro h
    have hnone : ∀ line ∈ front ++ [last], '\n' ∉ line.toList := by
      intro line hline
      rw [← h] at hline
      exact newline_notMem_of_mem_linesOf hline
    rw [linesOf_intercalate_newline hnone] at h
    have hlast : last ≠ "" := by
      rintro rfl
      simpa using congrArg List.length h
    rw [if_neg hlast, List.append_cancel_right_eq] at h
    exact ⟨hnone,map_endedText_eq_self_iff.mp h,hlast⟩
  · rintro ⟨hnone,hfront,hlast⟩
    rw [linesOf_intercalate_newline hnone, if_neg hlast, map_endedText_eq_self_iff.mpr hfront]

/-- Of lines without line ends only an empty last one gets lost. -/
theorem linesOf_intercalate_of_oneLine {lines : List String} (h : ∀ line ∈ lines, OneLine line) :
    linesOf (String.intercalate "\n" lines) =
      if lines.getLast? = some "" then lines.dropLast else lines := by
  rcases List.eq_nil_or_concat lines with rfl | ⟨front,last,rfl⟩
  · rfl
  rw [List.concat_eq_append] at h ⊢
  have hended : front.map endedText = front :=
    map_endedText_eq_self_iff.mpr fun line hline => (h line (List.mem_append_left _ hline)).getLast?_ne
  rw [linesOf_intercalate_newline fun line hline hn => (h line hline '\n' hn).1 rfl, hended]
  by_cases hlast : last = ""
  · simp [hlast]
  · simp [hlast]

namespace RawCode

theorem fragments_eq_map_line_iff {r : RawCode} {lines : List String} :
    r.fragments = lines.map .line ↔ linesOf r.text = lines :=
  (List.map_injective_iff.mpr fun _ _ h => Fragment.line.inj h).eq_iff

/-- Raw code that is given line by line has each of the lines as a fragment if and only if no line is
broken by a line feed or cut short before one, and the last line is not empty. Lines without line
ends are there in any case, but for an empty one at the end, which is lost. -/
theorem fragments_ofLines_iff (lines : List String) :
    ((ofLines lines).fragments = lines.map .line ↔ (∀ line ∈ lines, '\n' ∉ line.toList) ∧
      (∀ line ∈ lines.dropLast, line.toList.getLast? ≠ some '\r') ∧ lines.getLast? ≠ some "") ∧
    ((∀ line ∈ lines, OneLine line) →
      (ofLines lines).fragments =
        (if lines.getLast? = some "" then lines.dropLast else lines).map .line ∧
      ((ofLines lines).fragments = lines.map .line ↔ lines.getLast? ≠ some "")) := by
  refine ⟨fragments_eq_map_line_iff.trans linesOf_intercalate_newline_iff,?_⟩
  intro h
  have hlines := linesOf_intercalate_of_oneLine h
  refine ⟨fragments_eq_map_line_iff.mpr hlines,?_⟩
  rw [fragments_eq_map_line_iff, ofLines, linesOf_intercalate_newline_iff]
  constructor
  · exact fun h => h.2.2
  · intro hlast
    refine ⟨fun line hline hn => (h line hline '\n' hn).1 rfl,?_,hlast⟩
    exact fun line hline => (h line (List.dropLast_subset _ hline)).getLast?_ne

/-- Empty lines in front of other ones are fragments of their own. -/
theorem gappedLines_restored :
    (∀ line ∈ ["","struct Bar;","","struct Baz;"], OneLine line) ∧
    ["","struct Bar;","","struct Baz;"].getLast? ≠ some "" ∧
    (ofLines ["","struct Bar;","","struct Baz;"]).fragments =
      ["","struct Bar;","","struct Baz;"].map .line := by
  have hlines : ∀ line ∈ ["","struct Bar;","","struct Baz;"], OneLine line := by decide
  have hlast : ["","struct Bar;","","struct Baz;"].getLast? ≠ some "" := by decide
  exact ⟨hlines,hlast,((fragments_ofLines_iff _).2 hlines).2.mpr hlast⟩

/-- An empty line at the end is lost, and an empty line alone is no line. -/
theorem lastLine_lost :
    (∀ line ∈ ["struct Bar;",""], OneLine line) ∧
    (ofLines ["struct Bar;",""]).fragments = [.line "struct Bar;"] ∧
    (ofLines ["struct Bar;",""]).fragments ≠ ["struct Bar;",""].map .line ∧
    (ofLines [""]).fragments = [] := by
  refine ⟨by decide,rfl,?_,rfl⟩
  intro h
  have hlength := congrArg List.length h
  cases hlength

end RawCode
end RestScaffold
