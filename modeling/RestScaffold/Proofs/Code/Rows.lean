import RestScaffold.Proofs.Code.Items

/-! # The rows of what is written

A text with line ends in it stands on several rows once it is written as a line. The lines that
fragments are written as are the rows of one text after the other, and the indentation of a text
stands before its first row only.
-/
namespace RestScaffold
open Fragment

/-- Lines are cut anew after a line end. -/
theorem linesFrom_append_newline (current front back : List Char) :
    linesFrom current (front ++ '\n' :: back) =
      linesFrom current (front ++ ['\n']) ++ linesFrom [] back := by
  induction front generalizing current with
  | nil => simp [linesFrom_newline, linesFrom]
  | cons c rest ih =>
    by_cases hc : c = '\n'
    · simp [hc, linesFrom_newline, ih]
    · simp [linesFrom_char hc, ih]

theorem endedLine_append {lead : List Char} (h : lead.head? ≠ some '\r') (current : List Char) :
    endedLine (current ++ lead) = lead.reverse ++ endedLine current := by
  cases current with
  | nil =>
    have hne : ∀ before, lead = '\r' :: before → False := by
      rintro before rfl
      exact h rfl
    rw [List.nil_append, endedLine.eq_2 _ hne]
    simp [endedLine]
  | cons c rest =>
    by_cases hc : c = '\r'
    · simp [hc, endedLine]
    · have hne : ∀ cs before, c :: cs = '\r' :: before → False :=
        fun _ _ he => hc (List.cons.inj he).1
      rw [List.cons_append, endedLine.eq_2 _ (hne _), endedLine.eq_2 _ (hne _)]
      simp

/-- What an open line began with stands before the first line. -/
theorem linesFrom_lead {lead : List Char} (h : lead.head? ≠ some '\r') (current cs : List Char) :
    linesFrom (current ++ lead) (cs ++ ['\n']) =
      (linesFrom current (cs ++ ['\n'])).modifyHead (lead.reverse ++ ·) := by
  induction cs generalizing current with
  | nil => simp [linesFrom_newline, endedLine_append h]
  | cons c rest ih =>
    by_cases hc : c = '\n'
    · simp [hc, linesFrom_newline, endedLine_append h]
    · simpa [linesFrom_char hc] using ih (c :: current)

theorem newline_notMem_endedLine {current : List Char} (h : '\n' ∉ current) :
    '\n' ∉ endedLine current := by
  unfold endedLine
  split
  · exact fun hm => h (List.mem_cons_of_mem _ (List.mem_reverse.mp hm))
  · exact mt List.mem_reverse.mp h

/-- No line has a line end in it. -/
theorem newline_notMem_of_mem_linesFrom {line : List Char} (cs : List Char) {current : List Char}
    (hcur : '\n' ∉ current) (h : line ∈ linesFrom current cs) : '\n' ∉ line := by
  induction cs generalizing current with
  | nil =>
    rw [linesFrom] at h
    split at h
    · exact absurd h List.not_mem_nil
    · rw [List.mem_singleton.mp h]
      exact mt List.mem_reverse.mp hcur
  | cons c rest ih =>
    by_cases hc : c = '\n'
    · rw [hc, linesFrom_newline] at h
      rcases List.mem_cons.mp h with rfl | h
      · exact newline_notMem_endedLine hcur
      · exact ih List.not_mem_nil h
    · rw [linesFrom_char hc] at h
      exact ih (List.not_mem_cons_of_ne_of_not_mem (Ne.symm hc) hcur) h

theorem newline_notMem_of_mem_linesOf {s line : String} (h : line ∈ linesOf s) :
    '\n' ∉ line.toList := by
  obtain ⟨cs,hcs,rfl⟩ := List.mem_map.mp h
  rw [String.toList_ofList]
  exact newline_notMem_of_mem_linesFrom s.toList List.not_mem_nil hcs

theorem linesFrom_eq_nil_iff {current cs : List Char} :
    linesFrom current cs = [] ↔ current = [] ∧ cs = [] := by
  induction cs generalizing current with
  | nil => cases current <;> simp [linesFrom]
  | cons c rest ih =>
    by_cases hc : c = '\n'
    · simp [hc, linesFrom_newline]
    · simp [linesFrom_char hc, ih]

theorem linesOf_eq_nil_iff {s : String} : linesOf s = [] ↔ s = "" := by
  rw [linesOf, List.map_eq_nil_iff, linesFrom_eq_nil_iff, and_iff_right rfl, String.toList_eq_nil_iff]

/-- The lines of a text with a line end after it. -/
def rows (s : String) : List String := linesOf (s ++ "\n")

theorem rows_eq (s : String) : rows s = (linesFrom [] (s.toList ++ ['\n'])).map String.ofList := by
  rw [rows, linesOf, String.toList_append]
  rfl

theorem linesOf_line_append (s t : String) : linesOf (s ++ "\n" ++ t) = rows s ++ linesOf t := by
  have hlist : (s ++ "\n" ++ t).toList = s.toList ++ '\n' :: t.toList := by
    simp [String.toList_append]
  rw [linesOf, hlist, linesFrom_append_newline, List.map_append, ← rows_eq]
  rfl

theorem linesOf_unlines_append (lines : List String) (s : String) :
    linesOf (unlines lines ++ s) = lines.flatMap rows ++ linesOf s := by
  induction lines with
  | nil => simp
  | cons line rest ih =>
    rw [unlines_cons, String.append_assoc, linesOf_line_append, ih, List.flatMap_cons,
      List.append_assoc]

/-- The lines of what is written are the rows of the texts. -/
theorem linesOf_unlines_eq (lines : List String) : linesOf (unlines lines) = lines.flatMap rows := by
  simpa [linesOf, linesFrom] using linesOf_unlines_append lines ""

@[simp] theorem rows_empty : rows "" = [""] := by decide

theorem OneLine.getLast?_ne {s : String} (h : OneLine s) : s.toList.getLast? ≠ some '\r' :=
  fun hlast => (h '\r' (List.mem_of_getLast? hlast)).2 rfl

/-- A text on one line begins the first row of what follows it. -/
theorem rows_append {lead : String} (h : OneLine lead) (s : String) :
    rows (lead ++ s) = (rows s).modifyHead (lead ++ ·) := by
  have hn : '\n' ∉ lead.toList := fun hm => (h '\n' hm).1 rfl
  have hr : lead.toList.reverse.head? ≠ some '\r' := by
    rw [List.head?_reverse]
    exact h.getLast?_ne
  have hlead := linesFrom_lead hr [] s.toList
  rw [List.nil_append, List.reverse_reverse] at hlead
  rw [rows_eq, rows_eq, String.toList_append, List.append_assoc, linesFrom_run hn, List.append_nil,
    hlead]
  cases linesFrom [] (s.toList ++ ['\n']) with
  | nil => rfl
  | cons first rest => simp [String.ofList_append]

theorem rows_ne_nil (s : String) : rows s ≠ [] := by
  rw [rows, ne_eq, linesOf_eq_nil_iff]
  simp [String.append_eq_empty_iff]

/-- A text without line ends stands on one row. -/
theorem rows_of_notMem {s : String} (h : '\n' ∉ s.toList) :
    rows s = [String.ofList (endedLine s.toList.reverse)] := by
  rw [rows_eq, linesFrom_run h, linesFrom_newline]
  simp [linesFrom]

theorem OneLine.rows_eq {s : String} (h : OneLine s) : rows s = [s] := by
  have hlines : linesOf (unlines [s]) = [s] := linesOf_unlines (by simpa using h)
  simpa [rows] using hlines

/-- What stands before a line at some depth. -/
def Indent.lead (indent : Indent) (depth : Nat) : String :=
  String.join (List.replicate depth indent.unit)

theorem Indent.oneLine_lead (indent : Indent) (depth : Nat) : OneLine (indent.lead depth) := by
  have hunit : OneLine indent.unit := by
    unfold Indent.unit
    split <;> decide
  exact hunit.join_replicate depth

/-- The lines that fragments are written as at some depth. -/
def linesWritten (indent : Indent) (depth : Nat) (fs : List Fragment) : List String :=
  linesOf ((⟨indent,depth,""⟩ : Writer).emit fs).text

theorem linesWritten_eq (indent : Indent) (depth : Nat) (fs : List Fragment) :
    linesWritten indent depth fs =
      (linesOfAll depth fs).flatMap fun line => rows (line.written indent) := by
  have htext : ((⟨indent,depth,""⟩ : Writer).emit fs).text =
      unlines ((linesOfAll depth fs).map (CodeLine.written indent)) := by
    rw [Writer.emit_eq]
    exact String.empty_append
  rw [linesWritten, htext, linesOf_unlines_eq, List.flatMap_map]

theorem linesWritten_eq_nil_iff {indent : Indent} {depth : Nat} {fs : List Fragment} :
    linesWritten indent depth fs = [] ↔ linesOfAll depth fs = [] := by
  rw [linesWritten_eq, List.flatMap_eq_nil_iff, List.eq_nil_iff_forall_not_mem]
  exact forall₂_congr fun line _ => iff_false_intro (rows_ne_nil _)

/-- The first row of a text is indented, and the other ones are as they are in the text. -/
theorem rows_written (indent : Indent) (depth : Nat) (content : String) :
    rows ((CodeLine.text depth content).written indent) =
      (rows content).modifyHead (indent.lead depth ++ ·) :=
  rows_append (indent.oneLine_lead depth) content

theorem OneLine.written {line : CodeLine} (h : OneLine line.content) (indent : Indent) :
    OneLine (line.written indent) := by
  cases line with
  | text depth content => exact oneLine_append.mpr ⟨indent.oneLine_lead depth,h⟩
  | blank => exact h

end RestScaffold
